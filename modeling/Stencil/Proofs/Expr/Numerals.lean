import Stencil.Expr.Eval
import Stencil.Proofs.Expr.Spelling
import Stencil.Proofs.Value.Arithmetic

/-!
# Numerals

A numeral in an expression has the value that it stands for as a text, except for the least integer: an
expression negates what the digits say, and these alone are one beyond the range (`numeral_value`).
-/

namespace Stencil
open Decimal Grammar Lexer

def Number.token : Number → TokenKind
  | .int n => .int n
  | .float x => .float x

theorem Number.literal_token (n : Number) : Literal n.token n.toValue := by
  cases n with
  | int n => exact .int n
  | float x => exact .float x

theorem Value.negate_toValue (n : Number) : n.toValue.negate = .ok n.negate.toValue := by
  cases n <;> rfl

structure Numeral where
  negative : Bool
  whole : List Char
  /-- The digits after the point. There is a point only if there are any. -/
  fraction : List Char
  whole_ne_nil : whole ≠ []
  isDigit_whole : ∀ c ∈ whole, isDigit c = true
  isDigit_fraction : ∀ c ∈ fraction, isDigit c = true

namespace Numeral

def unsigned (n : Numeral) : List Char :=
  if n.fraction = [] then n.whole else n.whole ++ '.' :: n.fraction

def text (n : Numeral) : List Char :=
  if n.negative then '-' :: n.unsigned else n.unsigned

def digits (n : Numeral) : Nat :=
  digitsValue (n.whole ++ n.fraction)

/-- A minus before a whole number that is one beyond the greatest integer. -/
def IsLeast (n : Numeral) : Prop :=
  n.negative = true ∧ n.fraction = [] ∧ n.digits = 2 ^ 63

def absolute (n : Numeral) : Numeral :=
  { n with negative := false }

def exact (n : Numeral) : Int :=
  if n.negative then -n.digits else n.digits

def double (n : Numeral) : Float :=
  if n.negative then -nearest n.digits (-n.fraction.length) else nearest n.digits (-n.fraction.length)

/-- The integer if there is no point and it fits, else the double. -/
def value (n : Numeral) : Number :=
  if n.fraction = [] then ((int64? n.exact).map .int).getD (.float n.double) else .float n.double

theorem value_absolute (n : Numeral) :
    n.absolute.value =
      let double := nearest n.digits (-n.fraction.length)
      if n.fraction = [] then ((int64? n.digits).map .int).getD (.float double) else .float double :=
  rfl

theorem value_of_negative {n : Numeral} (minus : n.negative = true) :
    n.value =
      let double := -nearest n.digits (-n.fraction.length)
      if n.fraction = [] then ((int64? (-n.digits)).map .int).getD (.float double) else .float double := by
  rw [value, exact, double, if_pos minus, if_pos minus]

theorem exists_unsigned_eq_cons (n : Numeral) : ∃ c cs, n.unsigned = c :: cs ∧ isDigit c = true := by
  cases shape : n.whole with
  | nil => exact absurd shape n.whole_ne_nil
  | cons c cs =>
    have digit := n.isDigit_whole c (shape ▸ List.mem_cons_self ..)
    unfold unsigned
    rw [shape]
    split
    · exact ⟨c, cs, rfl, digit⟩
    · exact ⟨c, _, rfl, digit⟩

/-! ## As a text -/

theorem not_isBlank_of_isDigit {c : Char} (digit : isDigit c = true) : Text.isBlank c = false := by
  have bounds := isDigit_bounds digit
  apply Bool.eq_false_iff.2
  intro blank
  have outer := isBlank_bounds blank
  omega

theorem trimmed_text (n : Numeral) : Text.Trimmed n.text := by
  have solid : ∀ c ∈ n.text, Text.isBlank c = false := by
    have whole (c : Char) (mem : c ∈ n.whole) := not_isBlank_of_isDigit (n.isDigit_whole c mem)
    have fraction (c : Char) (mem : c ∈ n.fraction) := not_isBlank_of_isDigit (n.isDigit_fraction c mem)
    have unsigned : ∀ c ∈ n.unsigned, Text.isBlank c = false := by
      unfold unsigned
      split
      · exact whole
      · simp only [List.forall_mem_append, List.forall_mem_cons]
        exact ⟨whole, rfl, fraction⟩
    unfold text
    split
    · exact List.forall_mem_cons.2 ⟨rfl, unsigned⟩
    · exact unsigned
  exact ⟨fun c mem => solid c (List.mem_of_head? mem), fun c mem => solid c (List.mem_of_getLast? mem)⟩

theorem takeSign_text (n : Numeral) : takeSign n.text = (n.negative, n.unsigned) := by
  unfold text
  split
  · next minus => rw [takeSign, minus]
  · next plain =>
    obtain ⟨c, cs, shape, digit⟩ := n.exists_unsigned_eq_cons
    rw [shape, Bool.eq_false_iff.2 plain]
    unfold takeSign
    split
    · next same =>
      cases same
      cases digit
    · next same =>
      cases same
      cases digit
    · rfl

theorem readNatural?_unsigned (n : Numeral) :
    readNatural? n.unsigned = if n.fraction = [] then some n.digits else none := by
  unfold unsigned digits
  split
  · next none =>
    have digits : n.whole.all isDigit = true := List.all_eq_true.2 n.isDigit_whole
    simp [readNatural?, n.whole_ne_nil, digits, none]
  · have point : isDigit '.' = false := by decide
    simp [readNatural?, point]

theorem readUnsigned?_unsigned (n : Numeral) :
    readUnsigned? n.unsigned = some (nearest n.digits (-n.fraction.length)) := by
  have whole := n.isDigit_whole
  have fraction := n.isDigit_fraction
  have some : n.whole.isEmpty = false := by simpa using n.whole_ne_nil
  unfold readUnsigned? unsigned digits
  split
  · next none =>
    have taken : n.whole.takeWhile isDigit = n.whole := by simpa using whole
    have dropped : n.whole.dropWhile isDigit = [] := by simpa using whole
    simp [taken, dropped, none, some, readExponent?]
  · have point : isDigit '.' = false := by decide
    have taken : n.fraction.takeWhile isDigit = n.fraction := by simpa using fraction
    have dropped : n.fraction.dropWhile isDigit = [] := by simpa using fraction
    simp [List.takeWhile_append_of_pos whole, List.dropWhile_append_of_pos whole, point, taken, dropped,
      some, readExponent?]

theorem readInt64?_text (n : Numeral) :
    readInt64? n.text = if n.fraction = [] then int64? n.exact else none := by
  unfold readInt64? readInteger? exact
  rw [takeSign_text]
  dsimp only
  rw [readNatural?_unsigned]
  by_cases point : n.fraction = []
  · rw [if_pos point, if_pos point]
    rfl
  · rw [if_neg point, if_neg point]
    rfl

theorem readDecimal?_text (n : Numeral) : readDecimal? n.text = some n.double := by
  unfold readDecimal?
  rw [takeSign_text]
  dsimp only
  rw [readUnsigned?_unsigned]
  rfl

theorem toNumber_text (n : Numeral) : (Value.string (String.ofList n.text)).toNumber = .ok n.value := by
  have read : readNumber? (String.ofList n.text) = some n.value := by
    have integer := n.readInt64?_text
    unfold readNumber? value
    rw [String.toList_ofList, n.trimmed_text.trim_eq]
    by_cases point : n.fraction = []
    · rw [if_pos point] at integer ⊢
      cases held : int64? n.exact <;> simp [integer, held, readDecimal?_text]
    · rw [if_neg point] at integer ⊢
      simp [integer, readDecimal?_text]
  rw [Value.toNumber, read]

/-! ## As an expression -/

theorem lexes_unsigned (n : Numeral) : Lexes false n.unsigned [n.absolute.value.token] := by
  have read : number n.unsigned = ⟨n.absolute.value.token, n.unsigned, []⟩ := by
    rw [value_absolute, unsigned]
    by_cases point : n.fraction = []
    · have whole : wholeNumber n.whole = (((int64? n.digits).map .int).getD
          (.float (nearest n.digits (-n.fraction.length))) : Number).token := by
        simp only [wholeNumber, digits, point, List.append_nil]
        cases int64? (digitsValue n.whole) <;> rfl
      simp only [if_pos point, number_digits n.isDigit_whole, whole]
    · simp only [if_neg point, number_point n.isDigit_whole n.isDigit_fraction point]
      rfl
  obtain ⟨c, cs, shape, digit⟩ := n.exists_unsigned_eq_cons
  rw [shape] at read ⊢
  exact lexes_number digit read

def expr (n : Numeral) : Expr :=
  let literal := Expr.literal n.absolute.value.toValue
  if n.negative then .unary .neg literal else literal

theorem parse_text (n : Numeral) : Expr.parse n.text = .ok n.expr := by
  have literal := Derives.literal n.absolute.value.literal_token
  have read := n.lexes_unsigned
  rw [Expr.parse_eq_ok_iff]
  unfold text expr
  split
  · obtain ⟨c, cs, shape, digit⟩ := n.exists_unsigned_eq_cons
    rw [shape] at read ⊢
    refine ⟨_, .cons rfl (lexeme_minus digit) read, ?_⟩
    exact (Derives.sign .minus (literal.loosen (by decide))).loosen (by decide)
  · exact ⟨_, read, literal.loosen (by decide)⟩

instance (n : Numeral) : Decidable n.IsLeast :=
  inferInstanceAs (Decidable (_ ∧ _ ∧ _))

theorem negate_absolute (n : Numeral) (minus : n.negative = true) :
    n.absolute.value.negate = if n.IsLeast then .float (Value.nearestFloat (-2 ^ 63)) else n.value := by
  rw [value_absolute, value_of_negative minus]
  by_cases point : n.fraction = []
  · simp only [if_pos point]
    cases held : int64? n.digits with
    | some k =>
      have same := int64?_eq_some_iff.1 held
      have high := k.toInt_lt
      have least : ¬n.IsLeast := by
        rintro ⟨-, -, beyond⟩
        omega
      cases opposite : int64? (-n.digits) with
      | some m => simp [least, Number.negate, same, opposite]
      | none =>
        have outside := int64?_eq_none_iff_outside.1 opposite
        omega
    | none =>
      have outside := int64?_eq_none_iff_outside.1 held
      split
      · next least =>
        simp only [least.2.2, point]
        rfl
      · next other =>
        have beyond : int64? (-n.digits) = none := by
          have ne : n.digits ≠ 2 ^ 63 := fun same => other ⟨minus, point, same⟩
          apply int64?_eq_none_iff_outside.2
          omega
        rw [beyond]
        rfl
  · have other : ¬n.IsLeast := fun least => point least.2.1
    simp only [if_neg point, if_neg other]
    rfl

theorem evaluate_expr (n : Numeral) (functions : FunctionTable) (scope : Scope) :
    n.expr.evaluate functions scope =
      .ok (if n.IsLeast then .float (Value.nearestFloat (-2 ^ 63)) else n.value.toValue) := by
  unfold expr
  split
  · next minus =>
    rw [Expr.evaluate, Expr.evaluate]
    show n.absolute.value.toValue.negate = _
    rw [Value.negate_toValue, n.negate_absolute minus]
    split <;> rfl
  · next plain =>
    have other : ¬n.IsLeast := fun least => plain least.1
    have same : n.absolute = n := by
      rw [absolute, ← Bool.eq_false_iff.2 plain]
    rw [if_neg other, Expr.evaluate, same]

/-! ## Whole numbers in decimal -/

def ofInt (i : Int) : Numeral where
  negative := i < 0
  whole := Nat.toDigits 10 i.natAbs
  fraction := []
  whole_ne_nil := Nat.toDigits_ne_nil
  isDigit_whole _ := isDigit_of_mem_toDigits
  isDigit_fraction := nofun

theorem fraction_ofInt (i : Int) : (ofInt i).fraction = [] :=
  rfl

theorem negative_ofInt {i : Int} : (ofInt i).negative = true ↔ i < 0 :=
  decide_eq_true_iff

theorem text_ofInt (i : Int) : (ofInt i).text = (toString i).toList := by
  rw [text, unsigned, if_pos (fraction_ofInt i)]
  by_cases negative : i < 0
  · rw [if_pos (negative_ofInt.2 negative), toList_toString_of_neg negative]
    rfl
  · have whole : 0 ≤ i := Int.not_lt.1 negative
    have size : i.toNat = i.natAbs := by omega
    rw [if_neg (mt negative_ofInt.1 negative), toList_toString whole, size]
    rfl

theorem digits_ofInt (i : Int) : (ofInt i).digits = i.natAbs := by
  unfold digits ofInt
  rw [List.append_nil, digitsValue_toDigits]

theorem isLeast_ofInt_iff {i : Int} : (ofInt i).IsLeast ↔ i = -2 ^ 63 := by
  have parts : (ofInt i).IsLeast ↔ i < 0 ∧ i.natAbs = 2 ^ 63 := by
    rw [IsLeast, negative_ofInt, digits_ofInt]
    exact and_congr_right fun _ => and_iff_right (fraction_ofInt i)
  rw [parts]
  omega

theorem value_ofInt (i : Int64) : (ofInt i.toInt).value = .int i := by
  have whole : (ofInt i.toInt).exact = i.toInt := by
    simp only [exact, digits_ofInt, negative_ofInt]
    split <;> omega
  rw [value, if_pos (fraction_ofInt _), whole, int64?_eq_some_iff.2 rfl]
  rfl

end Numeral

/-! ## Both readings -/

/-- A numeral is read as an expression, and has there the value that it has as a text, unless it spells
the least integer. So every other integer, in decimal, has itself as its value. -/
theorem numeral_value (n : Numeral) (i : Int64) :
    (∃ e v, Expr.parse n.text = .ok e ∧ (Value.string (String.ofList n.text)).toNumber = .ok v ∧
      ∀ functions scope,
        (e.evaluate functions scope = .ok v.toValue ↔ ¬n.IsLeast) ∧
        (n.IsLeast → v = .int Int64.minValue ∧
          e.evaluate functions scope = .ok (.float (Value.nearestFloat (-2 ^ 63))))) ∧
    ∃ e, Expr.parse (toString i.toInt).toList = .ok e ∧ ∀ functions scope,
      e.evaluate functions scope = .ok (.int i) ↔ i ≠ Int64.minValue := by
  constructor
  · refine ⟨n.expr, n.value, n.parse_text, n.toNumber_text, fun functions scope => ?_⟩
    rw [n.evaluate_expr]
    by_cases least : n.IsLeast
    · have integer : n.value = .int Int64.minValue := by
        rw [Numeral.value_of_negative least.1]
        simp only [least.2.1, least.2.2]
        rfl
      simp [least, integer, Number.toValue]
    · simp [least]
  · refine ⟨(Numeral.ofInt i.toInt).expr, ?_, fun functions scope => ?_⟩
    · rw [← Numeral.text_ofInt]
      exact Numeral.parse_text _
    · have end_iff : i.toInt = -2 ^ 63 ↔ i = Int64.minValue := Int64.toInt_inj (y := Int64.minValue)
      rw [Numeral.evaluate_expr, Numeral.value_ofInt, ne_eq, ← end_iff, ← Numeral.isLeast_ofInt_iff]
      split <;> simp [*, Number.toValue]

theorem numeral_value_ends :
    let part : Numeral :=
      ⟨true, ['0', '7'], ['5'], by decide, List.all_eq_true.1 rfl, List.all_eq_true.1 rfl⟩
    let least : Numeral := Numeral.ofInt (-2 ^ 63)
    let next : Int64 := Int64.minValue + 1
    part.text = "-07.5".toList ∧ ¬part.IsLeast ∧ least.IsLeast ∧ next ≠ Int64.minValue ∧
      (∃ e v, Expr.parse part.text = .ok e ∧ (Value.string "-07.5").toNumber = .ok v ∧
        ∀ functions scope, e.evaluate functions scope = .ok v.toValue) ∧
      (∃ e, Expr.parse least.text = .ok e ∧ ∀ functions scope,
        e.evaluate functions scope = .ok (.float (Value.nearestFloat (-2 ^ 63)))) ∧
      ∃ e, Expr.parse (toString next.toInt).toList = .ok e ∧ ∀ functions scope,
        e.evaluate functions scope = .ok (.int next) := by
  intro part least next
  have one : ¬part.IsLeast := fun h => nomatch h.2.1
  have two : least.IsLeast := Numeral.isLeast_ofInt_iff.2 rfl
  have three : next ≠ Int64.minValue := by decide
  obtain ⟨⟨e, v, read, text, agree⟩, g, last, same⟩ := numeral_value part next
  obtain ⟨⟨f, w, other, -, differ⟩, -⟩ := numeral_value least next
  exact ⟨rfl, one, two, three,
    ⟨e, v, read, text, fun functions scope => (agree functions scope).1.2 one⟩,
    ⟨f, other, fun functions scope => ((differ functions scope).2 two).2⟩,
    ⟨g, last, fun functions scope => (same functions scope).2 three⟩⟩

theorem numeral_ne_text :
    (Value.string "-9223372036854775808").toNumber = .ok (.int Int64.minValue) ∧
      ∃ e, Expr.parse "-9223372036854775808".toList = .ok e ∧ ∀ functions scope,
        e.evaluate functions scope = .ok (.float (Value.nearestFloat (-2 ^ 63))) ∧
        e.evaluate functions scope ≠ .ok (Number.int Int64.minValue).toValue := by
  let n := Numeral.ofInt (-2 ^ 63)
  have spelled : n.text = "-9223372036854775808".toList := Numeral.text_ofInt _
  have least : n.IsLeast := Numeral.isLeast_ofInt_iff.2 rfl
  refine ⟨rfl, n.expr, spelled ▸ n.parse_text, fun functions scope => ?_⟩
  rw [n.evaluate_expr, if_pos least]
  exact ⟨rfl, nofun⟩

end Stencil
