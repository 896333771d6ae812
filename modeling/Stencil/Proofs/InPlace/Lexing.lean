import Stencil.Proofs.Expr.Scanning
import Stencil.Proofs.Expr.Spelling
import Stencil.Proofs.InPlace.Cutting

/-!
# Tokens, in place

Headers are read byte by byte, except between quotes. A token starts at a character, since the one
before it ends at one. The tokens are those of `tokenize`, with the end of the text as the last one.
-/

namespace Stencil
open InPlace Text

/-- A token, or the end of the text, and its offset. -/
structure Spot where
  kind : Option TokenKind
  offset : Nat

namespace Spot

def ofToken (t : Token) : Spot :=
  ⟨some t.kind, t.offset⟩

def isDot (s : Spot) : Bool :=
  s.kind.any Lexer.isDot

end Spot

namespace Lexer

def passWhile (bytes : List Char) (wanted : Char → Bool) (i : Nat) : InPlace Nat :=
  if bytes[i]?.any wanted then passWhile bytes wanted (i + 1) else pure i
termination_by bytes.length - i
decreasing_by
  have inside : i < bytes.length := by
    refine Nat.lt_of_not_le fun outside => ?_
    rw [List.getElem?_eq_none outside] at *
    contradiction
  omega

def takeWhileAt (text : List Char) (wanted : Char → Bool) (start : Nat) :
    InPlace (List Char × Nat) := do
  let stop ← passWhile (bytes text) wanted start
  return (← slice text start stop, stop)

def wordAt (kind : String → TokenKind) (text : List Char) (start : Nat) :
    InPlace (TokenKind × Nat) := do
  let (word, stop) ← takeWhileAt text isNameChar start
  return (kind (String.ofList word), stop)

def numberAt (text : List Char) (start : Nat) : InPlace (TokenKind × Nat) := do
  let (_, stop) ← takeWhileAt text Decimal.isDigit start
  if (bytes text)[stop]? = some '.' ∧ (bytes text)[stop + 1]?.any Decimal.isDigit then
    let (_, stop) ← takeWhileAt text Decimal.isDigit (stop + 1)
    match Decimal.readUnsigned? (← slice text start stop) with
    | some x => return (.float x, stop)
    -- Digits on both sides of a point are a number.
    | none => breach .assertion
  else return (wholeNumber (← slice text start stop), stop)

def stringFrom (text : List Char) (quote : Char) (start i : Nat) (out : List Char) :
    (rounds : Nat) → InPlace (TokenKind × Nat)
  | 0 => breach .standstill
  | rounds + 1 => do
    match (← sliceFrom text i).head? with
    | none => refuse (.malformed start .unterminatedString)
    | some c =>
      let next := i + c.utf8Size
      if c = quote then return (.str (String.ofList out), next)
      else if c = '\\' then
        match (← sliceFrom text next).head? with
        | none => refuse (.malformed start .unterminatedString)
        | some e => stringFrom text quote start (next + e.utf8Size) (out ++ escaped e) rounds
      else stringFrom text quote start next (out ++ [c]) rounds

def three? : List Char → Option Symbol
  | [a, b, c] => Symbol.ofThree? a b c
  | _ => none

def two? : List Char → Option Symbol
  | [a, b] => Symbol.ofTwo? a b
  | _ => none

def symbolAt (text : List Char) (start : Nat) : InPlace (TokenKind × Nat) := do
  match (slice? text start (start + 3)).bind three?, (slice? text start (start + 2)).bind two? with
  | some s, _ => return (.symbol s, start + 3)
  | none, some s => return (.symbol s, start + 2)
  | none, none =>
    match Symbol.ofOne? (← index (bytes text) start) with
    | some s => return (.symbol s, start + 1)
    | none =>
      let c := (← sliceFrom text start).head?.getD '?'
      refuse (.malformed start (.unexpectedCharacter c))

def lexemeAt (text : List Char) (afterDot : Bool) (start : Nat) (b : Char) :
    InPlace (TokenKind × Nat) :=
  if afterDot && isNameChar b then wordAt .segment text start
  else if Decimal.isDigit b then numberAt text start
  else if isNameStart b then wordAt .ident text start
  else if b = '$' then
    if (bytes text)[start + 1]?.any isNameStart then wordAt .variable text (start + 1)
    else refuse (.malformed start .missingVariableName)
  else if b = '\'' ∨ b = '"' then stringFrom text b start (start + 1) [] (text.length + 1)
  else symbolAt text start

def isAfterDot (bytes : List Char) (spots : List Spot) (i : Nat) : InPlace Bool :=
  if spots.getLast?.any Spot.isDot ∧ 0 < i then do
    return (← index bytes (← minus i 1)) == '.'
  else pure false

def spotsFrom (text : List Char) (spots : List Spot) (i : Nat) : (rounds : Nat) → InPlace (List Spot)
  | 0 => breach .standstill
  | rounds + 1 => do
    match (bytes text)[i]? with
    | none => return spots ++ [⟨none, byteLength text⟩]
    | some b =>
      if isSpace b then spotsFrom text spots (i + 1) rounds
      else
        let (kind, next) ← lexemeAt text (← isAfterDot (bytes text) spots i) i b
        spotsFrom text (spots ++ [⟨some kind, i⟩]) next rounds

end Lexer

/-! ## Bytes that are as wanted -/

namespace Lexer

variable {c : Char} {cs : List Char} {p : Char → Bool}

theorem exists_byte (xs : List Char) (c : Char) (cs : List Char) :
    ∃ b, (bytes (xs ++ c :: cs))[byteLength xs]? = some b ∧
      (IsLow c ∧ b = c ∨ ¬IsLow c ∧ ¬IsLow b) := by
  by_cases low : IsLow c
  · exact ⟨c, low.getElem?_bytes xs cs, .inl ⟨low, rfl⟩⟩
  · have first := getElem?_bytes xs cs 0 (Char.utf8Size_pos c)
    have there : 0 < (encode c).length := List.length_pos_iff.2 (encode_ne_nil c)
    rw [Nat.add_zero, List.getElem?_eq_getElem there] at first
    exact ⟨_, first, .inr ⟨low, not_isLow_of_mem_encode low (List.getElem_mem there)⟩⟩

theorem any_byte (low : ∀ c, p c = true → IsLow c) (xs ys : List Char) :
    (bytes (xs ++ ys))[byteLength xs]?.any p = ys.head?.any p := by
  cases ys with
  | nil =>
    rw [List.getElem?_eq_none (by rw [length_bytes, List.append_nil])]
    rfl
  | cons c cs =>
    obtain ⟨b, byte, ⟨-, rfl⟩ | ⟨high, other⟩⟩ := exists_byte xs c cs
    · rw [byte]
      rfl
    · rw [byte, Option.any_some, List.head?_cons, Option.any_some,
        Bool.eq_false_iff.2 fun h => high (low c h), Bool.eq_false_iff.2 fun h => other (low b h)]

theorem passWhile_eq (low : ∀ c, p c = true → IsLow c) (xs cs : List Char) :
    passWhile (bytes (xs ++ cs)) p (byteLength xs) =
      pure (byteLength xs + byteLength (cs.takeWhile p)) := by
  induction cs generalizing xs with
  | nil =>
    rw [passWhile, any_byte low]
    rfl
  | cons c cs ih =>
    rw [passWhile, any_byte low, List.head?_cons, Option.any_some, List.takeWhile_cons]
    cases wanted : p c with
    | false => rfl
    | true =>
      have next := ih (xs ++ [c])
      rw [List.append_assoc, List.singleton_append, byteLength_concat] at next
      rw [if_pos rfl, ← (low c wanted).size, next, if_pos rfl, byteLength_cons, Nat.add_assoc]

theorem takeWhileAt_eq (low : ∀ c, p c = true → IsLow c) (xs cs : List Char) :
    takeWhileAt (xs ++ cs) p (byteLength xs) =
      pure (cs.takeWhile p, byteLength xs + byteLength (cs.takeWhile p)) := by
  have part := slice_append xs (cs.takeWhile p) (cs.dropWhile p)
  rw [List.append_assoc, List.takeWhile_append_dropWhile] at part
  rw [takeWhileAt, passWhile_eq low, pure_bind, part, pure_bind]

/-! ## Words and numbers -/

theorem isLow_of_isNameChar (c : Char) (h : isNameChar c = true) : IsLow c := by
  have bounds := isNameChar_bounds h
  rw [IsLow]
  omega

theorem isLow_of_isNameStart (c : Char) (h : isNameStart c = true) : IsLow c :=
  isLow_of_isNameChar c (isNameChar_of_isNameStart h)

theorem isLow_of_isDigit (c : Char) (h : Decimal.isDigit c = true) : IsLow c := by
  have bounds := isDigit_bounds h
  rw [IsLow]
  omega

def placed (xs : List Char) (found : Lexeme) : TokenKind × Nat :=
  (found.kind, byteLength xs + byteLength found.text)

def located (xs : List Char) (result : Except Problem Lexeme) : InPlace (TokenKind × Nat) :=
  match result with
  | .ok found => pure (placed xs found)
  | .error problem => refuse (.malformed (byteLength xs) problem)

theorem wordAt_eq (kind : String → TokenKind) (xs cs : List Char) :
    wordAt kind (xs ++ cs) (byteLength xs) = pure (placed xs (word kind cs)) := by
  rw [wordAt, takeWhileAt_eq isLow_of_isNameChar, pure_bind]
  rfl

theorem readUnsigned?_point {whole fraction : List Char}
    (digits : ∀ c ∈ whole, Decimal.isDigit c = true)
    (more : ∀ c ∈ fraction, Decimal.isDigit c = true) (nonempty : fraction ≠ []) :
    Decimal.readUnsigned? (whole ++ '.' :: fraction) =
      some (Decimal.nearest (Decimal.digitsValue (whole ++ fraction)) (-fraction.length)) := by
  have stops : ∀ c ∈ ('.' :: fraction).head?, Decimal.isDigit c = false := by
    rintro c ⟨⟩
    rfl
  have first : (whole ++ '.' :: fraction).takeWhile Decimal.isDigit = whole := by
    rw [List.takeWhile_append_of_pos digits]
    exact List.append_nil whole
  have after : (whole ++ '.' :: fraction).dropWhile Decimal.isDigit = '.' :: fraction :=
    (List.dropWhile_append_of_pos digits).trans rfl
  have second : fraction.takeWhile Decimal.isDigit = fraction := List.takeWhile_eq_self_iff.2 more
  have last : fraction.dropWhile Decimal.isDigit = [] := List.dropWhile_eq_nil_iff.2 more
  have some : (whole.isEmpty && fraction.isEmpty) = false := by
    rw [List.isEmpty_eq_false_iff.2 nonempty, Bool.and_false]
  simp only [Decimal.readUnsigned?, first, after, second, last, some, Bool.false_eq_true, if_false,
    Decimal.readExponent?, Option.map_some, Int.zero_sub]

theorem byte_eq_some_iff {d : Char} (low : IsLow d) (xs ys : List Char) :
    (bytes (xs ++ ys))[byteLength xs]? = some d ↔ ys.head? = some d := by
  rw [← List.head?_drop, drop_bytes, head?_bytes_eq_some_iff ys low]

theorem number_of_point {d : Char} {rest : List Char}
    (point : cs.dropWhile Decimal.isDigit = '.' :: d :: rest) (digit : Decimal.isDigit d = true) :
    number cs =
      let fraction := (d :: rest).takeWhile Decimal.isDigit
      ⟨.float (Decimal.nearest
          (Decimal.digitsValue (cs.takeWhile Decimal.isDigit ++ fraction)) (-fraction.length)),
        cs.takeWhile Decimal.isDigit ++ '.' :: fraction, (d :: rest).dropWhile Decimal.isDigit⟩ := by
  simp only [number, point, digit, if_true, List.takeWhile_cons, List.dropWhile_cons]

theorem number_of_whole (whole : ∀ {d rest}, cs.dropWhile Decimal.isDigit = '.' :: d :: rest →
      Decimal.isDigit d = false) :
    number cs = ⟨wholeNumber (cs.takeWhile Decimal.isDigit), cs.takeWhile Decimal.isDigit,
      cs.dropWhile Decimal.isDigit⟩ := by
  unfold number
  split
  · next d rest point => rw [if_neg (Bool.eq_false_iff.1 (whole point)), point]
  · rfl

theorem point_iff (xs after : List Char) :
    ((bytes (xs ++ after))[byteLength xs]? = some '.' ∧
      (bytes (xs ++ after))[byteLength xs + 1]?.any Decimal.isDigit = true) ↔
      ∃ d rest, after = '.' :: d :: rest ∧ Decimal.isDigit d = true := by
  have low : IsLow '.' := by decide
  rw [byte_eq_some_iff low]
  cases after with
  | nil => simp
  | cons c after =>
    rw [List.head?_cons, Option.some.injEq]
    constructor
    · rintro ⟨rfl, digit⟩
      have second := any_byte isLow_of_isDigit (xs ++ ['.']) after
      rw [List.append_assoc, List.singleton_append, byteLength_concat, low.size, digit] at second
      cases after with
      | nil => cases second
      | cons d rest => exact ⟨d, rest, rfl, second.symm⟩
    · rintro ⟨d, rest, same, digit⟩
      cases same
      have second := any_byte isLow_of_isDigit (xs ++ ['.']) (d :: rest)
      rw [List.append_assoc, List.singleton_append, byteLength_concat, low.size] at second
      exact ⟨rfl, second.trans digit⟩

theorem fraction_at (xs : List Char) {d : Char} {rest : List Char}
    (after : cs.dropWhile Decimal.isDigit = '.' :: d :: rest) :
    takeWhileAt (xs ++ cs) Decimal.isDigit
        (byteLength xs + byteLength (cs.takeWhile Decimal.isDigit) + 1) =
      pure ((d :: rest).takeWhile Decimal.isDigit, byteLength xs + byteLength
        (cs.takeWhile Decimal.isDigit ++ '.' :: (d :: rest).takeWhile Decimal.isDigit)) ∧
    slice (xs ++ cs) (byteLength xs) (byteLength xs + byteLength
        (cs.takeWhile Decimal.isDigit ++ '.' :: (d :: rest).takeWhile Decimal.isDigit)) =
      pure (cs.takeWhile Decimal.isDigit ++ '.' :: (d :: rest).takeWhile Decimal.isDigit) := by
  have size : '.'.utf8Size = 1 := rfl
  have text : xs ++ cs.takeWhile Decimal.isDigit ++ ['.'] ++ (d :: rest) = xs ++ cs := by
    rw [List.append_assoc _ ['.'], List.singleton_append, ← after, List.append_assoc,
      List.takeWhile_append_dropWhile]
  have again : xs ++ (cs.takeWhile Decimal.isDigit ++ '.' :: (d :: rest).takeWhile Decimal.isDigit) ++
      (d :: rest).dropWhile Decimal.isDigit = xs ++ cs := by
    rw [← text]
    simp only [List.append_assoc, List.cons_append, List.nil_append, List.takeWhile_append_dropWhile]
  have second := takeWhileAt_eq isLow_of_isDigit
    (xs ++ cs.takeWhile Decimal.isDigit ++ ['.']) (d :: rest)
  have whole := slice_append xs
    (cs.takeWhile Decimal.isDigit ++ '.' :: (d :: rest).takeWhile Decimal.isDigit)
    ((d :: rest).dropWhile Decimal.isDigit)
  rw [text, byteLength_concat, byteLength_append, size] at second
  rw [again] at whole
  refine ⟨second.trans ?_, whole⟩
  simp only [byteLength_append, byteLength_cons, size, Nat.add_assoc]

theorem numberAt_eq (xs cs : List Char) :
    numberAt (xs ++ cs) (byteLength xs) = pure (placed xs (number cs)) := by
  have digits : ∀ c ∈ cs.takeWhile Decimal.isDigit, Decimal.isDigit c = true :=
    List.all_eq_true.1 List.all_takeWhile
  have text : xs ++ cs.takeWhile Decimal.isDigit ++ cs.dropWhile Decimal.isDigit = xs ++ cs := by
    rw [List.append_assoc, List.takeWhile_append_dropWhile]
  have part := slice_append xs (cs.takeWhile Decimal.isDigit) (cs.dropWhile Decimal.isDigit)
  have point := point_iff (xs ++ cs.takeWhile Decimal.isDigit) (cs.dropWhile Decimal.isDigit)
  rw [text, byteLength_append] at point
  rw [text] at part
  rw [numberAt, takeWhileAt_eq isLow_of_isDigit, pure_bind]
  by_cases isPoint : ∃ d rest, cs.dropWhile Decimal.isDigit = '.' :: d :: rest ∧
      Decimal.isDigit d = true
  · simp only [if_pos (point.2 isPoint)]
    obtain ⟨d, rest, after, digit⟩ := isPoint
    obtain ⟨fraction, whole⟩ := fraction_at xs after
    have fractionDigits : ∀ c ∈ (d :: rest).takeWhile Decimal.isDigit, Decimal.isDigit c = true :=
      List.all_eq_true.1 List.all_takeWhile
    have nonempty : (d :: rest).takeWhile Decimal.isDigit ≠ [] := by simp [digit]
    rw [fraction, pure_bind]
    simp only [whole, pure_bind, readUnsigned?_point digits fractionDigits nonempty]
    rw [number_of_point after digit, placed]
  · simp only [if_neg (mt point.1 isPoint), part, pure_bind]
    rw [number_of_whole, placed]
    intro d rest after
    exact Bool.eq_false_iff.2 fun digit => isPoint ⟨d, rest, after, digit⟩

/-! ## Texts between quotes -/

theorem sliceFrom_concat (xs : List Char) (c : Char) (cs : List Char) :
    sliceFrom (xs ++ c :: cs) (byteLength xs + c.utf8Size) = pure cs := by
  have rest := sliceFrom_append (xs ++ [c]) cs
  rwa [List.append_assoc, List.singleton_append, byteLength_concat] at rest

theorem stringFrom_end (quote : Char) (start rounds : Nat) (xs out : List Char) :
    stringFrom xs quote start (byteLength xs) out (rounds + 1) =
      refuse (.malformed start .unterminatedString) := by
  have rest := sliceFrom_append xs []
  rw [List.append_nil] at rest
  rw [stringFrom, rest, pure_bind]
  rfl

theorem stringFrom_cons {quote : Char} (start rounds : Nat) (xs cs out : List Char) (c : Char) :
    stringFrom (xs ++ c :: cs) quote start (byteLength xs) out (rounds + 1) =
      if c = quote then pure (.str (String.ofList out), byteLength xs + quote.utf8Size)
      else if c = '\\' then
        match cs with
        | [] => refuse (.malformed start .unterminatedString)
        | e :: _ => stringFrom (xs ++ c :: cs) quote start (byteLength (xs ++ [c, e]))
          (out ++ escaped e) rounds
      else stringFrom (xs ++ c :: cs) quote start (byteLength (xs ++ [c])) (out ++ [c]) rounds := by
  rw [stringFrom, sliceFrom_append, pure_bind, List.head?_cons]
  simp only [sliceFrom_concat, pure_bind]
  split
  · next same => rw [same]
  split
  · cases cs with
    | nil => rfl
    | cons e _ =>
      have width : byteLength (xs ++ [c, e]) = byteLength xs + c.utf8Size + e.utf8Size := by
        rw [byteLength_append, byteLength_cons, byteLength_cons, Nat.add_assoc]
        rfl
      simp only [List.head?_cons, width]
  · rw [byteLength_concat]

theorem stringFrom_eq {quote : Char} (other : quote ≠ '\\') (start : Nat) (xs cs out : List Char)
    {rounds : Nat} (enough : cs.length < rounds) :
    stringFrom (xs ++ cs) quote start (byteLength xs) out rounds =
      match quoted? quote cs with
      | some (body, _) => pure (.str (String.ofList (out ++ unquoted body)),
          byteLength xs + byteLength body + quote.utf8Size)
      | none => refuse (.malformed start .unterminatedString) := by
  induction cs using quoted?.induct quote generalizing xs out rounds with
  | case1 =>
    obtain ⟨rounds, rfl⟩ := Nat.exists_eq_add_one_of_ne_zero (Nat.ne_zero_of_lt enough)
    rw [List.append_nil, stringFrom_end]
    rfl
  | case2 =>
    obtain ⟨rounds, rfl⟩ := Nat.exists_eq_add_one_of_ne_zero (Nat.ne_zero_of_lt enough)
    rw [stringFrom_cons, if_neg other.symm]
    rfl
  | case3 c cs ih =>
    obtain ⟨rounds, rfl⟩ := Nat.exists_eq_add_one_of_ne_zero (Nat.ne_zero_of_lt enough)
    have next := ih (xs ++ ['\\', c]) (out ++ escaped c)
      (Nat.lt_of_succ_lt (Nat.lt_of_succ_lt_succ enough))
    rw [List.append_assoc] at next
    rw [stringFrom_cons, if_neg other.symm, if_pos rfl, quoted?]
    refine next.trans ?_
    cases quoted? quote cs with
    | none => rfl
    | some found =>
      simp only [Option.map_some, unquoted, byteLength_append, byteLength_cons, byteLength_nil,
        Nat.add_zero, Nat.add_assoc, List.append_assoc]
  | case4 cs notLast notEscape =>
    obtain ⟨rounds, rfl⟩ := Nat.exists_eq_add_one_of_ne_zero (Nat.ne_zero_of_lt enough)
    have plain := ne_escape notLast notEscape
    rw [stringFrom_cons, if_pos rfl, quoted?_cons plain, if_pos rfl]
    simp only [unquoted, byteLength_nil, Nat.add_zero, List.append_nil]
  | case5 c cs notLast notEscape different ih =>
    obtain ⟨rounds, rfl⟩ := Nat.exists_eq_add_one_of_ne_zero (Nat.ne_zero_of_lt enough)
    have plain := ne_escape notLast notEscape
    have next := ih (xs ++ [c]) (out ++ [c]) (Nat.lt_of_succ_lt_succ enough)
    rw [List.append_assoc] at next
    rw [stringFrom_cons, if_neg different, if_neg plain, quoted?_cons plain, if_neg different]
    refine next.trans ?_
    cases quoted? quote cs with
    | none => rfl
    | some found =>
      simp only [Option.map_some, unquoted_cons plain, byteLength_append, byteLength_cons,
        byteLength_nil, Nat.add_zero, Nat.add_assoc, List.append_assoc, List.singleton_append]

/-! ## Symbols -/

theorem eq_append_of_takeBytes {n : Nat} {cs ys : List Char} (h : takeBytes n cs = some ys) :
    ∃ rest, cs = ys ++ rest := by
  induction cs generalizing n ys with
  | nil =>
    cases n with
    | zero => cases h; exact ⟨[], rfl⟩
    | succ n => cases h
  | cons c cs ih =>
    cases n with
    | zero => cases h; exact ⟨c :: cs, rfl⟩
    | succ n =>
      rw [takeBytes] at h
      split at h
      · obtain ⟨zs, taken, rfl⟩ := Option.map_eq_some_iff.1 h
        obtain ⟨rest, rfl⟩ := ih taken
        exact ⟨rest, rfl⟩
      · cases h

theorem slice?_eq_takeBytes (xs ys : List Char) (n : Nat) :
    slice? (xs ++ ys) (byteLength xs) (byteLength xs + n) = takeBytes n ys := by
  rw [slice?, if_pos (Nat.le_add_right ..), dropBytes_byteLength, Option.bind_some,
    Nat.add_sub_cancel_left]

def Spelling (n : Nat) (symbol? : List Char → Option Symbol) : Prop :=
  ∀ ys s, symbol? ys = some s → ys.length = n ∧ byteLength ys = n

theorem spelling_three : Spelling 3 three? := by
  intro ys s h
  unfold three? at h
  split at h
  · unfold Symbol.ofThree? at h
    split at h
    all_goals first
      | exact ⟨rfl, rfl⟩
      | cases h
  · cases h

theorem spelling_two : Spelling 2 two? := by
  intro ys s h
  unfold two? at h
  split at h
  · unfold Symbol.ofTwo? at h
    split at h
    all_goals first
      | exact ⟨rfl, rfl⟩
      | cases h
  · cases h

theorem isLow_of_ofOne? {c : Char} {s : Symbol} (h : Symbol.ofOne? c = some s) : IsLow c := by
  unfold Symbol.ofOne? at h
  split at h
  all_goals first
    | decide
    | cases h

theorem Spelling.takeBytes {n : Nat} {symbol? : List Char → Option Symbol}
    (spelling : Spelling n symbol?) (cs : List Char) :
    (takeBytes n cs).bind symbol? = symbol? (cs.take n) := by
  refine Option.ext fun s => ⟨fun h => ?_, fun h => ?_⟩
  · obtain ⟨ys, taken, found⟩ := Option.bind_eq_some_iff.1 h
    obtain ⟨rest, rfl⟩ := eq_append_of_takeBytes taken
    rwa [← (spelling ys s found).1, List.take_left]
  · have taken := takeBytes_byteLength (cs.take n) (cs.drop n)
    rw [List.take_append_drop, (spelling _ s h).2] at taken
    rw [taken, Option.bind_some, h]

theorem symbol?_eq (c : Char) (cs : List Char) :
    symbol? (c :: cs) =
      match three? ((c :: cs).take 3), two? ((c :: cs).take 2) with
      | some s, _ => some ⟨.symbol s, (c :: cs).take 3, (c :: cs).drop 3⟩
      | none, some s => some ⟨.symbol s, (c :: cs).take 2, (c :: cs).drop 2⟩
      | none, none => (Symbol.ofOne? c).map fun s => ⟨.symbol s, [c], cs⟩ := by
  match cs with
  | [] => rfl
  | [b] =>
    simp only [symbol?, three?, two?, List.take, List.drop]
    cases Symbol.ofTwo? c b <;> rfl
  | a :: b :: cs =>
    simp only [symbol?, three?, two?, List.take, List.drop]
    cases Symbol.ofThree? c a b <;> cases Symbol.ofTwo? c a <;> rfl

theorem symbolAt_eq (xs : List Char) (c : Char) (cs : List Char) :
    symbolAt (xs ++ c :: cs) (byteLength xs) = located xs (match symbol? (c :: cs) with
      | some found => .ok found
      | none => .error (.unexpectedCharacter c)) := by
  rw [symbolAt, slice?_eq_takeBytes, slice?_eq_takeBytes, spelling_three.takeBytes,
    spelling_two.takeBytes, symbol?_eq]
  cases three : three? ((c :: cs).take 3) with
  | some s => simp only [located, placed, (spelling_three _ s three).2]
  | none =>
  cases two : two? ((c :: cs).take 2) with
  | some s => simp only [located, placed, (spelling_two _ s two).2]
  | none =>
    obtain ⟨b, byte, ⟨low, rfl⟩ | ⟨high, other⟩⟩ := exists_byte xs c cs
    · simp only [index_eq byte, sliceFrom_append, pure_bind]
      have width : byteLength [b] = 1 := low.size
      cases Symbol.ofOne? b with
      | some s => simp only [Option.map_some, located, placed, width]
      | none => rfl
    · have none : ∀ d, ¬IsLow d → Symbol.ofOne? d = none := fun d high =>
        Option.eq_none_iff_forall_ne_some.2 fun s found => high (isLow_of_ofOne? found)
      rw [index_eq byte, sliceFrom_append, pure_bind, none b other, none c high]
      rfl

/-! ## Tokens -/

theorem variableAt_eq (xs cs : List Char) :
    (if (bytes (xs ++ '$' :: cs))[byteLength xs + 1]?.any isNameStart then
        wordAt .variable (xs ++ '$' :: cs) (byteLength xs + 1)
      else refuse (.malformed (byteLength xs) .missingVariableName)) =
      located xs (if cs.head?.any isNameStart then
        .ok ⟨(word .variable cs).kind, '$' :: (word .variable cs).text, (word .variable cs).rest⟩
        else .error .missingVariableName) := by
  have next := any_byte isLow_of_isNameStart (xs ++ ['$']) cs
  have name := wordAt_eq .variable (xs ++ ['$']) cs
  have size : '$'.utf8Size = 1 := rfl
  rw [List.append_assoc, List.singleton_append, byteLength_concat, size] at next name
  rw [next, name]
  split
  · simp only [located, placed, byteLength_concat, byteLength_cons, Nat.add_assoc]
  · rfl

theorem stringAt_eq {quote : Char} (low : IsLow quote) (other : quote ≠ '\\') (xs cs : List Char) :
    stringFrom (xs ++ quote :: cs) quote (byteLength xs) (byteLength xs + 1) []
        ((xs ++ quote :: cs).length + 1) =
      located xs (match quoted? quote cs with
        | some (body, rest) =>
          .ok ⟨.str (String.ofList (unquoted body)), quote :: body ++ [quote], rest⟩
        | none => .error .unterminatedString) := by
  have enough : cs.length < (xs ++ quote :: cs).length + 1 := by
    rw [List.length_append, List.length_cons]
    omega
  have read := stringFrom_eq other (byteLength xs) (xs ++ [quote]) cs [] enough
  rw [List.append_assoc, List.singleton_append, byteLength_concat, low.size] at read
  rw [read]
  cases quoted? quote cs with
  | none => rfl
  | some found =>
    simp only [located, placed, List.nil_append, List.cons_append, byteLength_cons, byteLength_concat,
      low.size, Nat.add_assoc]

theorem plain_of_not_isLow {c : Char} (high : ¬IsLow c) :
    isNameChar c = false ∧ Decimal.isDigit c = false ∧ isNameStart c = false ∧ c ≠ '$' ∧
      ¬(c = '\'' ∨ c = '"') := by
  refine ⟨Bool.eq_false_iff.2 fun h => high (isLow_of_isNameChar c h),
    Bool.eq_false_iff.2 fun h => high (isLow_of_isDigit c h),
    Bool.eq_false_iff.2 fun h => high (isLow_of_isNameStart c h),
    ne_of_not_isLow high (by decide), ?_⟩
  rintro (same | same)
  · exact ne_of_not_isLow high (by decide) same
  · exact ne_of_not_isLow high (by decide) same

theorem lexemeAt_eq {b c : Char} (xs cs : List Char) (afterDot : Bool)
    (byte : (bytes (xs ++ c :: cs))[byteLength xs]? = some b) :
    lexemeAt (xs ++ c :: cs) afterDot (byteLength xs) b = located xs (lexeme afterDot c cs) := by
  obtain ⟨d, same, ⟨low, rfl⟩ | ⟨high, other⟩⟩ := exists_byte xs c cs
  · rw [byte] at same
    cases same
    unfold lexemeAt lexeme
    split
    · exact wordAt_eq .segment xs (b :: cs)
    split
    · exact numberAt_eq xs (b :: cs)
    split
    · exact wordAt_eq .ident xs (b :: cs)
    split
    · next dollar => rw [dollar]; exact variableAt_eq xs cs
    split
    · next quote =>
      refine stringAt_eq low ?_ xs cs
      rcases quote with rfl | rfl <;> decide
    · exact symbolAt_eq xs b cs
  · rw [byte] at same
    cases same
    obtain ⟨name, digit, start, dollar, quote⟩ := plain_of_not_isLow high
    obtain ⟨name', digit', start', dollar', quote'⟩ := plain_of_not_isLow other
    simp only [lexemeAt, lexeme, name, digit, start, dollar, quote, name', digit', start', dollar',
      quote', Bool.and_false, Bool.false_eq_true, if_false]
    exact symbolAt_eq xs c cs

theorem isAfterDot_eq (xs cs : List Char) (spots : List Spot) :
    isAfterDot (bytes (xs ++ cs)) spots (byteLength xs) =
      pure (spots.getLast?.any Spot.isDot && xs.getLast? == some '.') := by
  rw [isAfterDot]
  cases last : spots.getLast?.any Spot.isDot with
  | false => rw [if_neg fun h => Bool.false_ne_true h.1]; rfl
  | true =>
  obtain rfl | ⟨ys, d, whole⟩ := List.eq_nil_or_concat xs
  · rfl
  rw [List.concat_eq_append] at whole
  subst whole
  have positive := Char.utf8Size_pos d
  have width := byteLength_concat ys d
  have inside : d.utf8Size - 1 < d.utf8Size := by omega
  have byte := getElem?_bytes ys cs (d.utf8Size - 1) inside
  have there : d.utf8Size - 1 < (encode d).length := by rw [length_encode]; omega
  rw [← Nat.add_sub_assoc positive, ← width, List.getElem?_eq_getElem there] at byte
  have within : 1 ≤ byteLength (ys ++ [d]) := by omega
  rw [if_pos ⟨rfl, within⟩, minus_eq within, pure_bind, List.append_assoc,
    List.singleton_append, index_eq byte, pure_bind, List.getLast?_concat, Bool.true_and]
  congr 1
  by_cases low : IsLow d
  · simp [low.encode, low.size]
  · have other := not_isLow_of_mem_encode low (List.getElem_mem there)
    have dot : IsLow '.' := by decide
    rw [beq_eq_false_iff_ne.2 (ne_of_not_isLow other dot)]
    symm
    simpa using ne_of_not_isLow low dot

theorem isDot_number (cs : List Char) : isDot (number cs).kind = false := by
  have whole : ∀ ds, isDot (wholeNumber ds) = false := by
    intro ds
    unfold wholeNumber
    split <;> rfl
  unfold number
  split
  · split
    · rfl
    · exact whole _
  · exact whole _

theorem text_of_isDot {afterDot : Bool} {c : Char} {cs : List Char} {found : Lexeme}
    (read : lexeme afterDot c cs = .ok found) (dot : isDot found.kind = true) :
    found.text = ['.'] := by
  unfold lexeme at read
  split at read
  · cases read
    cases dot
  split at read
  · cases read
    rw [isDot_number] at dot
    cases dot
  split at read
  · cases read
    cases dot
  split at read
  · split at read
    · cases read
      cases dot
    · cases read
  split at read
  · split at read
    · cases read
      cases dot
    · cases read
  split at read
  · next spelled =>
    cases read
    obtain ⟨s, kind, text⟩ := spelling_of_symbol? spelled
    rw [kind] at dot
    cases s with
    | dot => exact text
    | _ => cases dot
  · cases read

theorem isLow_of_isSpace (c : Char) (h : isSpace c = true) : IsLow c := by
  simp only [isSpace, Bool.or_eq_true, beq_iff_eq] at h
  rcases h with (((rfl | rfl) | rfl) | rfl) | feed
  all_goals first
    | decide
    | (rw [IsLow]; omega)

theorem isSpace_byte {b c : Char} (xs cs : List Char)
    (byte : (bytes (xs ++ c :: cs))[byteLength xs]? = some b) : isSpace b = isSpace c := by
  have same := any_byte isLow_of_isSpace xs (c :: cs)
  rwa [byte] at same

theorem spotsFrom_eq (afterDot : Bool) (xs cs : List Char) (spots : List Spot)
    (dot : (spots.getLast?.any Spot.isDot && xs.getLast? == some '.') = afterDot)
    {rounds : Nat} (enough : cs.length < rounds) :
    spotsFrom (xs ++ cs) spots (byteLength xs) rounds =
      of ((tokensAt afterDot (byteLength xs) cs).map fun ts =>
        spots ++ ts.map Spot.ofToken ++ [⟨none, byteLength (xs ++ cs)⟩]) := by
  match cs, rounds, enough with
  | [], rounds + 1, _ =>
    have outside : (bytes xs)[byteLength xs]? = none :=
      List.getElem?_eq_none (Nat.le_of_eq (length_bytes xs))
    rw [List.append_nil, spotsFrom, outside, tokensAt]
    simp only [Except.map, of_ok, List.map_nil, List.append_nil]
  | c :: cs, rounds + 1, enough =>
    obtain ⟨b, byte, -⟩ := exists_byte xs c cs
    rw [spotsFrom, byte, tokensAt]
    simp only [isSpace_byte xs cs byte, isAfterDot_eq, dot, pure_bind, lexemeAt_eq xs cs afterDot byte]
    split
    · next space =>
      have notDot : (some c == some '.') = false := by
        refine beq_eq_false_iff_ne.2 ?_
        rintro ⟨⟩
        cases space
      have next := spotsFrom_eq false (xs ++ [c]) cs spots (by
        rw [List.getLast?_concat, notDot, Bool.and_false]) (Nat.lt_of_succ_lt_succ enough)
      rw [List.append_assoc, List.singleton_append, byteLength_concat,
        (isLow_of_isSpace c space).size] at next
      exact next
    · split
      · next problem read => rw [read]; rfl
      · next found read =>
        obtain ⟨whole, -⟩ := lexeme_eq_append read
        have fewer := lexeme_shorter read
        have ends : (isDot found.kind && (xs ++ found.text).getLast? == some '.') =
            isDot found.kind := by
          cases isDot' : isDot found.kind with
          | false => rfl
          | true => rw [text_of_isDot read isDot', List.getLast?_concat]; rfl
        have next := spotsFrom_eq (isDot found.kind) (xs ++ found.text) found.rest
          (spots ++ [⟨some found.kind, byteLength xs⟩]) (by rw [List.getLast?_concat]; exact ends)
          (Nat.lt_of_lt_of_le fewer (Nat.le_of_lt_succ enough))
        rw [List.append_assoc, ← whole, byteLength_append] at next
        rw [read, located, pure_bind]
        refine next.trans ?_
        cases tokensAt (isDot found.kind) (byteLength xs + byteLength found.text) found.rest with
        | error e => rfl
        | ok ts =>
          simp only [Except.map, List.map_cons, Spot.ofToken, List.append_assoc, List.cons_append,
            List.nil_append]
termination_by cs.length
decreasing_by
  all_goals simp only [List.length_cons] at *
  all_goals omega

end Lexer

end Stencil
