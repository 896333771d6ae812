import Stencil.Proofs.Expr.Paths

/-!
# Words

What single tokens and paths look like, and that words with a blank between them have their tokens one
after the other (`Spells.lexes`). Texts are written in single quotes, where a backslash stands before
every backslash and every single quote.
-/

namespace Stencil
open Lexer Grammar

def Lexer.inQuotes (c : Char) : List Char :=
  if c = '\\' ∨ c = '\'' then ['\\', c] else [c]

def Lexer.quotedText (s : String) : String :=
  "'" ++ String.ofList (s.toList.flatMap inQuotes) ++ "'"

def Value.literal : Value → String
  | .null => Keyword.null.text
  | .bool b => if b then Keyword.true.text else Keyword.false.text
  | .int n => toString n.toInt
  | .string s => quotedText s
  | _ => ""

def Segment.IsWord (s : Segment) : Prop :=
  ∃ word : String, Text.isMember word.toList = true ∧ ofText word = s

theorem Segment.exists_members {segments : List Segment} (h : ∀ s ∈ segments, s.IsWord) :
    ∃ members : List (List Char), (∀ m ∈ members, Text.isMember m = true) ∧
      members.map (fun m => ofText (String.ofList m)) = segments := by
  induction segments with
  | nil => exact ⟨[], nofun, rfl⟩
  | cons s segments ih =>
    obtain ⟨members, named, rfl⟩ := ih fun t mem => h t (List.mem_cons_of_mem _ mem)
    obtain ⟨word, first, rfl⟩ := h s (List.mem_cons_self ..)
    refine ⟨word.toList :: members, List.forall_mem_cons.2 ⟨first, named⟩, ?_⟩
    rw [List.map_cons, String.ofList_toList]

namespace Lexer

variable {cs rest : List Char}

/-! ## Texts -/

theorem unquoted_cons {c : Char} (plain : c ≠ '\\') : unquoted (c :: cs) = c :: unquoted cs := by
  rw [unquoted]
  exact fun _ _ same _ => plain same

theorem unquoted_inQuotes (cs : List Char) : unquoted (cs.flatMap inQuotes) = cs := by
  induction cs with
  | nil => rfl
  | cons c cs ih =>
    rw [List.flatMap_cons, inQuotes]
    split
    · next special =>
      rcases special with rfl | rfl
      · exact congrArg ('\\' :: ·) ih
      · exact congrArg ('\'' :: ·) ih
    · next plain =>
      rw [List.singleton_append, unquoted_cons fun same => plain (.inl same), ih]

theorem quoted?_inQuotes (cs rest : List Char) :
    quoted? '\'' (cs.flatMap inQuotes ++ '\'' :: rest) = some (cs.flatMap inQuotes, rest) := by
  induction cs with
  | nil => rw [List.flatMap_nil, List.nil_append, quoted?_cons (by decide), if_pos rfl]
  | cons c cs ih =>
    rw [List.flatMap_cons, inQuotes]
    split
    · rw [List.cons_append, List.singleton_append, List.cons_append, List.cons_append, quoted?, ih]
      rfl
    · next plain =>
      rw [List.singleton_append, List.cons_append, quoted?_cons fun same => plain (.inl same),
        if_neg fun same => plain (.inr same), ih]
      rfl

theorem Lexes.quoted {ks : List TokenKind} (s : String) (tail : Lexes false rest ks) :
    Lexes false ((quotedText s).toList ++ rest) (.str s :: ks) := by
  have whole : (quotedText s).toList ++ rest = '\'' :: (s.toList.flatMap inQuotes ++ '\'' :: rest) := by
    simp [quotedText]
  have read : lexeme false '\'' (s.toList.flatMap inQuotes ++ '\'' :: rest) =
      .ok ⟨.str s, '\'' :: s.toList.flatMap inQuotes ++ ['\''], rest⟩ := by
    unfold lexeme
    rw [Bool.false_and, if_neg Bool.false_ne_true, if_neg (by decide), if_neg (by decide),
      if_neg (by decide), if_pos (.inl rfl), quoted?_inQuotes]
    simp only [unquoted_inQuotes, String.ofList_toList]
  rw [whole]
  exact .cons rfl read tail

theorem lexes_quotedText (s : String) : Lexes false (quotedText s).toList [.str s] := by
  have read := Lexes.quoted s .nil
  rwa [List.append_nil] at read

/-! ## Numbers -/

theorem isDigit_eq (c : Char) : Decimal.isDigit c = c.isDigit := by
  simp [Char.isDigit, Decimal.isDigit, Char.le_def]

theorem isDigit_of_mem_toDigits {n : Nat} {c : Char} (mem : c ∈ Nat.toDigits 10 n) :
    Decimal.isDigit c = true :=
  (isDigit_eq c).trans (Nat.isDigit_of_mem_toDigits (by decide) (by decide) mem)

theorem isNameChar_of_isDigit {c : Char} (digit : Decimal.isDigit c = true) :
    Text.isNameChar c = true := by
  simp [Text.isNameChar, Char.isAlphanum, ← isDigit_eq, digit]

theorem digitsValue_toDigits (n : Nat) : Decimal.digitsValue (Nat.toDigits 10 n) = n :=
  Nat.ofDigitChars_toDigits (by decide) (by decide)

theorem number_digits (digits : ∀ c ∈ cs, Decimal.isDigit c = true) :
    number cs = ⟨wholeNumber cs, cs, []⟩ := by
  have after : cs.dropWhile Decimal.isDigit = [] := by
    have whole : (cs ++ []).dropWhile Decimal.isDigit = [] := List.dropWhile_append_of_pos digits
    rwa [List.append_nil] at whole
  have before := List.takeWhile_append_dropWhile (p := Decimal.isDigit) (l := cs)
  rw [after, List.append_nil] at before
  simp only [number, after, before]

theorem wholeNumber_toDigits {n : Int64} (whole : 0 ≤ n.toInt) :
    wholeNumber (Nat.toDigits 10 n.toInt.toNat) = .int n := by
  have fits : int64? (n.toInt.toNat : Int) = some n := by
    rw [int64?, Int.toNat_of_nonneg whole, if_pos ⟨Int64.le_toInt n, Int64.toInt_le n⟩,
      Int64.ofInt_toInt]
  rw [wholeNumber, digitsValue_toDigits, fits]

theorem number_point {ds : List Char} (whole : ∀ c ∈ cs, Decimal.isDigit c = true)
    (fraction : ∀ c ∈ ds, Decimal.isDigit c = true) (some : ds ≠ []) :
    number (cs ++ '.' :: ds) =
      ⟨.float (Decimal.nearest (Decimal.digitsValue (cs ++ ds)) (-ds.length)), cs ++ '.' :: ds, []⟩ := by
  have before : (cs ++ '.' :: ds).takeWhile Decimal.isDigit = cs := by
    rw [List.takeWhile_append_of_pos whole, List.takeWhile_cons_of_neg (by decide), List.append_nil]
  have after : (cs ++ '.' :: ds).dropWhile Decimal.isDigit = '.' :: ds := by
    rw [List.dropWhile_append_of_pos whole, List.dropWhile_cons_of_neg (by decide)]
  cases ds with
  | nil => exact absurd rfl some
  | cons d ds =>
    have first := fraction d (List.mem_cons_self ..)
    have rest : ∀ c ∈ ds, Decimal.isDigit c = true :=
      fun c mem => fraction c (List.mem_cons_of_mem _ mem)
    have taken : ds.takeWhile Decimal.isDigit = ds := by simpa using rest
    have dropped : ds.dropWhile Decimal.isDigit = [] := by simpa using rest
    unfold number
    simp only [before, after, if_pos first, taken, dropped]

theorem lexes_number {c : Char} {k : TokenKind} (digit : Decimal.isDigit c = true)
    (whole : number (c :: cs) = ⟨k, c :: cs, []⟩) : Lexes false (c :: cs) [k] := by
  have read : lexeme false c cs = .ok ⟨k, c :: cs, []⟩ := by
    unfold lexeme
    rw [Bool.false_and, if_neg Bool.false_ne_true, if_pos digit, whole]
  exact .cons (not_isSpace_of_isNameChar (isNameChar_of_isDigit digit)) read .nil

theorem lexeme_minus {c : Char} (digit : Decimal.isDigit c = true) :
    lexeme false '-' (c :: cs) = .ok ⟨.symbol .minus, ['-'], c :: cs⟩ := by
  have two : Symbol.ofTwo? '-' c = none := by
    have bounds := isDigit_bounds digit
    unfold Symbol.ofTwo?
    split
    all_goals first
      | rfl
      | (revert bounds; decide)
  cases cs <;>
    simp [lexeme, symbol?, two, Decimal.isDigit, Text.isNameStart, Symbol.ofThree?, Symbol.ofOne?]

theorem toList_toString {n : Int} (whole : 0 ≤ n) : (toString n).toList = Nat.toDigits 10 n.toNat := by
  obtain ⟨k, rfl⟩ := Int.eq_ofNat_of_zero_le whole
  exact Nat.toList_repr

theorem toList_toString_of_neg {n : Int} (negative : n < 0) :
    (toString n).toList = '-' :: Nat.toDigits 10 n.natAbs := by
  cases n with
  | ofNat k => exact absurd negative (Int.not_lt.2 (Int.natCast_nonneg k))
  | negSucc k =>
    have digits : ((k + 1).repr).toList = Nat.toDigits 10 (k + 1) := Nat.toList_repr
    have spelled : (toString (Int.negSucc k)).toList = ("-" ++ (k + 1).repr).toList := rfl
    rw [spelled, String.toList_append, digits]
    rfl

theorem lexes_int {n : Int64} (whole : 0 ≤ n.toInt) :
    Lexes false (toString n.toInt).toList [.int n] := by
  have digits : ∀ c ∈ Nat.toDigits 10 n.toInt.toNat, Decimal.isDigit c = true :=
    fun c mem => isDigit_of_mem_toDigits mem
  have value := wholeNumber_toDigits whole
  rw [toList_toString whole]
  generalize shape : Nat.toDigits 10 n.toInt.toNat = ds at digits value
  cases ds with
  | nil => exact absurd shape Nat.toDigits_ne_nil
  | cons c ds =>
    apply lexes_number (digits c (List.mem_cons_self ..))
    rw [number_digits digits, value]

/-! ## Names, symbols and paths -/

theorem lexes_name {name : String} (named : Text.isName name.toList = true) :
    Lexes false name.toList [.ident name] := by
  have read := @Lexes.bare_name name.toList [] [] named nofun .nil
  rwa [List.append_nil, String.ofList_toList] at read

theorem lexes_keyword (k : Keyword) : Lexes false k.text.toList [.ident k.text] :=
  lexes_name (by cases k <;> rfl)

theorem lexes_symbol (s : Symbol) : Lexes false s.spelling.toList [.symbol s] := by
  cases s <;> exact .cons rfl rfl .nil

theorem exists_lexes_path {p : VariablePath} (named : Text.isName p.root.toList = true)
    (follow : ∀ s ∈ p.segments, s.IsWord) :
    ∃ ks, Lexes false ("$" ++ p.text).toList ks ∧ Derives .access ks (.path p) := by
  obtain ⟨root, segments⟩ := p
  obtain ⟨members, words, rfl⟩ := Segment.exists_members follow
  refine ⟨_, ?_, VariablePath.derives_path root members⟩
  have written := VariablePath.text_members root members
  rw [String.toList_append, written, ← String.ofList_toList (s := root)]
  simpa using VariablePath.lexes_path named words

theorem lexes_variable {name : String} (named : Text.isName name.toList = true) :
    Lexes false ("$" ++ name).toList [.variable name] := by
  have read := @VariablePath.lexes_path name.toList [] named nofun
  simpa [VariablePath.memberKinds] using read

theorem lexes_member {word : String} (named : Text.isMember word.toList = true) :
    Lexes false ("." ++ (Segment.ofText word).text).toList [.symbol .dot, .segment word] := by
  have read := VariablePath.lexes_members (List.forall_mem_singleton.2 named)
  simpa [Segment.text_ofText, VariablePath.memberKinds] using read

end Lexer

/-! ## Words with blanks between them -/

/-- The words have tokens of these kinds, one word after the other. -/
inductive Spells : List String → List TokenKind → Prop
  | nil : Spells [] []
  | cons {word words ks ls} : Lexes false word.toList ks → Spells words ls →
      Spells (word :: words) (ks ++ ls)

namespace Spells

variable {words others : List String} {ks ls : List TokenKind}

theorem one {word : String} (h : Lexes false word.toList ks) : Spells [word] ks := by
  have alone := cons h nil
  rwa [List.append_nil] at alone

theorem word {word : String} {k : TokenKind} (h : Lexes false word.toList [k])
    (rest : Spells words ks) : Spells (word :: words) (k :: ks) :=
  cons h rest

theorem symbol (s : Symbol) (rest : Spells words ks) :
    Spells (s.spelling :: words) (.symbol s :: ks) :=
  word (lexes_symbol s) rest

theorem lastly (s : Symbol) : Spells [s.spelling] [.symbol s] :=
  symbol s nil

theorem append (left : Spells words ks) (right : Spells others ls) :
    Spells (words ++ others) (ks ++ ls) := by
  induction left with
  | nil => exact right
  | cons first _ ih =>
    rw [List.append_assoc]
    exact cons first ih

theorem lexes (h : Spells words ks) : Lexes false (" ".intercalate words).toList ks := by
  induction h with
  | nil => exact .nil
  | @cons word words ks ls first rest ih =>
    cases rest with
    | nil => rwa [List.append_nil]
    | @cons next others _ _ _ _ =>
      rw [String.intercalate_cons_cons, String.append_assoc, String.toList_append,
        String.toList_append]
      have ends : EndsToken (' ' :: (" ".intercalate (next :: others)).toList) := by
        rintro c ⟨⟩
        exact .inr rfl
      exact first.append ends (.space rfl ih)

end Spells

end Stencil
