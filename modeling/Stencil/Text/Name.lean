namespace Stencil.Text

def isNameStart (c : Char) : Bool :=
  c.isAlpha || c == '_'

def isNameChar (c : Char) : Bool :=
  c.isAlphanum || c == '_'

def isName : List Char → Bool
  | [] => false
  | c :: cs => isNameStart c && cs.all isNameChar

def isMember (cs : List Char) : Bool :=
  !cs.isEmpty && cs.all isNameChar

theorem isNameChar_of_isNameStart {c : Char} (start : isNameStart c = true) :
    isNameChar c = true := by
  simp only [isNameStart, isNameChar, Char.isAlphanum, Bool.or_eq_true] at start ⊢
  rcases start with letter | underscore
  · exact .inl (.inl letter)
  · exact .inr underscore

theorem isNameChar_of_isName {cs : List Char} (named : isName cs = true) :
    ∀ c ∈ cs, isNameChar c = true := by
  cases cs with
  | nil => nofun
  | cons c cs =>
    simp only [isName, Bool.and_eq_true] at named
    intro d mem
    rcases List.mem_cons.1 mem with rfl | mem
    · exact isNameChar_of_isNameStart named.1
    · exact List.all_eq_true.1 named.2 d mem

end Stencil.Text
