/-!
Text that shows itself inside HTML. The five characters with a meaning there become entities.
-/

namespace Stencil.Html

def entity? : Char → Option String
  | '&' => some "&amp;"
  | '<' => some "&lt;"
  | '>' => some "&gt;"
  | '"' => some "&quot;"
  | '\'' => some "&#039;"
  | _ => none

def escapeChar (c : Char) : List Char :=
  match entity? c with
  | some entity => entity.toList
  | none => [c]

def isPlain (s : String) : Bool :=
  s.toList.all fun c => (entity? c).isNone

def escape (s : String) : String :=
  if isPlain s then s else String.ofList (s.toList.flatMap escapeChar)

theorem flatMap_escapeChar {cs : List Char} (plain : ∀ c ∈ cs, entity? c = none) :
    cs.flatMap escapeChar = cs := by
  induction cs with
  | nil => rfl
  | cons c cs ih =>
    obtain ⟨first, rest⟩ := List.forall_mem_cons.1 plain
    rw [List.flatMap_cons, ih rest, escapeChar, first]
    rfl

theorem toList_escape (s : String) : (escape s).toList = s.toList.flatMap escapeChar := by
  unfold escape
  split
  · next plain =>
    simp only [isPlain, List.all_eq_true, Option.isNone_iff_eq_none] at plain
    exact (flatMap_escapeChar plain).symm
  · simp

end Stencil.Html
