import Stencil.Decimal.Read
import Stencil.Error
import Stencil.Text.Bytes
import Stencil.Text.Name
import Stencil.Value.Number

/-!
Instruction text to tokens. A token takes as many characters as it can. Main statement: a token and what
follows it are the text again (`lexeme_eq_append`), so reading ends.
-/

namespace Stencil

/-- A token at the front of a text: what it says, its characters, and what follows it. -/
structure Lexeme where
  kind : TokenKind
  text : List Char
  rest : List Char

namespace Lexer

def isSpace (c : Char) : Bool :=
  c == ' ' || c == '\t' || c == '\n' || c == '\r' || c.toNat == 12

def escaped (c : Char) : List Char :=
  match c with
  | 'n' => ['\n']
  | 't' => ['\t']
  | 'r' => ['\r']
  | '\\' | '\'' | '"' | '$' => [c]
  | other => ['\\', other]

def unquoted : List Char → List Char
  | '\\' :: c :: cs => escaped c ++ unquoted cs
  | c :: cs => c :: unquoted cs
  | [] => []

def quoted? (quote : Char) : List Char → Option (List Char × List Char)
  | [] => none
  | ['\\'] => none
  | '\\' :: c :: cs => (quoted? quote cs).map fun (body, rest) => ('\\' :: c :: body, rest)
  | c :: cs =>
    if c = quote then some ([], cs)
    else (quoted? quote cs).map fun (body, rest) => (c :: body, rest)

/-- The integer that digits spell, or the nearest double if there is no such integer. -/
def wholeNumber (digits : List Char) : TokenKind :=
  match int64? (Decimal.digitsValue digits) with
  | some n => .int n
  | none => .float (Decimal.nearest (Decimal.digitsValue digits) 0)

/-- The number at the front of a text that starts with a digit. A point belongs to it only before
another digit. -/
def number (cs : List Char) : Lexeme :=
  let whole := cs.takeWhile Decimal.isDigit
  match cs.dropWhile Decimal.isDigit with
  | '.' :: d :: rest =>
    if Decimal.isDigit d then
      let fraction := d :: rest.takeWhile Decimal.isDigit
      let value := Decimal.nearest (Decimal.digitsValue (whole ++ fraction)) (-fraction.length)
      ⟨.float value, whole ++ '.' :: fraction, rest.dropWhile Decimal.isDigit⟩
    else ⟨wholeNumber whole, whole, '.' :: d :: rest⟩
  | rest => ⟨wholeNumber whole, whole, rest⟩

def word (kind : String → TokenKind) (cs : List Char) : Lexeme :=
  let name := cs.takeWhile Text.isNameChar
  ⟨kind (String.ofList name), name, cs.dropWhile Text.isNameChar⟩

def symbol? (cs : List Char) : Option Lexeme :=
  let three : Option Lexeme := match cs with
    | a :: b :: c :: rest => (Symbol.ofThree? a b c).map fun s => ⟨.symbol s, [a, b, c], rest⟩
    | _ => none
  let two : Option Lexeme := match cs with
    | a :: b :: rest => (Symbol.ofTwo? a b).map fun s => ⟨.symbol s, [a, b], rest⟩
    | _ => none
  let one : Option Lexeme := match cs with
    | a :: rest => (Symbol.ofOne? a).map fun s => ⟨.symbol s, [a], rest⟩
    | _ => none
  three.or (two.or one)

/-- The token at the front of a text. Right after a dot a word is a segment, even if it starts with a
digit. -/
def lexeme (afterDot : Bool) (c : Char) (cs : List Char) : Except Problem Lexeme :=
  if afterDot && Text.isNameChar c then .ok (word .segment (c :: cs))
  else if Decimal.isDigit c then .ok (number (c :: cs))
  else if Text.isNameStart c then .ok (word .ident (c :: cs))
  else if c = '$' then
    if cs.head?.any Text.isNameStart then
      let name := word .variable cs
      .ok ⟨name.kind, '$' :: name.text, name.rest⟩
    else .error .missingVariableName
  else if c = '\'' ∨ c = '"' then
    match quoted? c cs with
    | some (body, rest) =>
      .ok ⟨.str (String.ofList (unquoted body)), c :: body ++ [c], rest⟩
    | none => .error .unterminatedString
  else
    match symbol? (c :: cs) with
    | some found => .ok found
    | none => .error (.unexpectedCharacter c)

theorem quoted?_eq_append {quote : Char} {cs body rest : List Char}
    (h : quoted? quote cs = some (body, rest)) : cs = body ++ quote :: rest := by
  fun_induction quoted? quote cs generalizing body rest with
  | case1 => simp at h
  | case2 => simp at h
  | case3 c cs ih =>
    obtain ⟨⟨t, r⟩, found, same⟩ := Option.map_eq_some_iff.1 h
    simp only [Prod.mk.injEq] at same
    obtain ⟨rfl, rfl⟩ := same
    rw [ih found, List.cons_append, List.cons_append]
  | case4 => simp_all
  | case5 c cs _ _ _ ih =>
    obtain ⟨⟨t, r⟩, found, same⟩ := Option.map_eq_some_iff.1 h
    simp only [Prod.mk.injEq] at same
    obtain ⟨rfl, rfl⟩ := same
    rw [ih found, List.cons_append]

theorem word_eq_append (kind : String → TokenKind) (cs : List Char) :
    cs = (word kind cs).text ++ (word kind cs).rest :=
  List.takeWhile_append_dropWhile.symm

theorem number_eq_append (cs : List Char) : cs = (number cs).text ++ (number cs).rest := by
  have whole := (List.takeWhile_append_dropWhile (p := Decimal.isDigit) (l := cs)).symm
  unfold number
  split
  · next d rest shape =>
    rw [shape] at whole
    split
    · rw [List.append_assoc, List.cons_append, List.cons_append,
        List.takeWhile_append_dropWhile]
      exact whole
    · exact whole
  · exact whole

theorem symbol?_eq_append {cs : List Char} {found : Lexeme} (h : symbol? cs = some found) :
    cs = found.text ++ found.rest ∧ found.text ≠ [] := by
  unfold symbol? at h
  simp only [Option.or_eq_some_iff] at h
  rcases h with h | ⟨_, h | ⟨_, h⟩⟩ <;> split at h <;>
    simp only [Option.map_eq_some_iff, reduceCtorEq] at h <;> obtain ⟨_, _, rfl⟩ := h <;> simp

theorem lexeme_eq_append {afterDot : Bool} {c : Char} {cs : List Char} {found : Lexeme}
    (h : lexeme afterDot c cs = .ok found) :
    c :: cs = found.text ++ found.rest ∧ found.text ≠ [] := by
  unfold lexeme at h
  split at h
  · next named =>
    simp only [Bool.and_eq_true] at named
    cases h
    exact ⟨word_eq_append _ _, by simp [word, named.2]⟩
  split at h
  · next digit =>
    cases h
    refine ⟨number_eq_append _, ?_⟩
    unfold number
    split
    · split <;> simp [digit]
    · simp [digit]
  split at h
  · next start =>
    cases h
    exact ⟨word_eq_append _ _, by simp [word, Text.isNameChar_of_isNameStart start]⟩
  split at h
  · next dollar =>
    split at h
    · cases h
      exact ⟨by rw [dollar, List.cons_append, ← word_eq_append], by simp⟩
    · simp at h
  split at h
  · split at h
    · next body rest found =>
      cases h
      refine ⟨?_, by simp⟩
      rw [quoted?_eq_append found]
      simp
    · simp at h
  · split at h
    · next found =>
      cases h
      exact symbol?_eq_append found
    · simp at h

theorem lexeme_shorter {afterDot : Bool} {c : Char} {cs : List Char} {found : Lexeme}
    (h : lexeme afterDot c cs = .ok found) : found.rest.length < (c :: cs).length := by
  obtain ⟨whole, nonempty⟩ := lexeme_eq_append h
  rw [whole, List.length_append]
  have := List.length_pos_iff.2 nonempty
  omega

def isDot : TokenKind → Bool
  | .symbol .dot => true
  | _ => false

def tokensAt (afterDot : Bool) (offset : Nat) (cs : List Char) : Except Error (List Token) :=
  match cs with
  | [] => .ok []
  | c :: cs =>
    if isSpace c then tokensAt false (offset + 1) cs
    else
      match _h : lexeme afterDot c cs with
      | .error problem => .error (.malformed offset problem)
      | .ok found =>
        (tokensAt (isDot found.kind) (offset + Text.byteLength found.text) found.rest).map
          (⟨found.kind, offset⟩ :: ·)
termination_by cs.length
decreasing_by
  · simp
  · exact lexeme_shorter ‹_›

def tokenize (cs : List Char) : Except Error (List Token) :=
  tokensAt false 0 cs

end Lexer

end Stencil
