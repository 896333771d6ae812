import Stencil.Error
import Stencil.Text.Bytes

/-!
# Work on bytes

A computation in place works on the bytes of a text by their offsets. Where such work can break down, it
says so: slices end at characters inside the text, indices are inside a list, nothing falls below zero,
and a loop takes no more rounds than its text has characters. A text that is `xs ++ ys` has the bytes of
`xs` up to the offset `byteLength xs`, and those of `ys` from there on.
-/

namespace Stencil

inductive Breach where
  /-- A slice that leaves the text, cuts a character or ends before it starts. -/
  | slice
  /-- An index outside of a list. -/
  | index
  /-- A number below zero. -/
  | underflow
  /-- A condition that was taken for granted and does not hold. -/
  | assertion
  /-- A loop that has no round left, or a reader that does not get ahead. -/
  | standstill
  deriving DecidableEq, Repr

inductive Failure where
  | refusal (e : Error)
  | breach (b : Breach)

/-- Work in place, which may be refused or break down. -/
abbrev InPlace (α : Type) :=
  Except Failure α

namespace InPlace

def breach {α : Type} (b : Breach) : InPlace α :=
  throw (.breach b)

def refuse {α : Type} (e : Error) : InPlace α :=
  throw (.refusal e)

def of {α : Type} : Except Error α → InPlace α
  | .ok a => pure a
  | .error e => refuse e

def minus (n k : Nat) : InPlace Nat :=
  if k ≤ n then pure (n - k) else breach .underflow

def index {α : Type} (xs : List α) (i : Nat) : InPlace α :=
  match xs[i]? with
  | some x => pure x
  | none => breach .index

def rest {α : Type} (xs : List α) (i : Nat) : InPlace (List α) :=
  if i ≤ xs.length then pure (xs.drop i) else breach .slice

variable {α β : Type}

@[simp] theorem of_ok (a : α) : of (.ok a) = pure a := rfl

theorem of_bind (r : Except Error α) (f : α → Except Error β) :
    of (r >>= f) = of r >>= fun a => of (f a) := by
  cases r with
  | ok a => exact (pure_bind a fun a => of (f a)).symm
  | error e => rfl

theorem of_map (r : Except Error α) (f : α → β) : of (r.map f) = of r >>= fun a => pure (f a) := by
  cases r <;> rfl

theorem minus_eq {n k : Nat} (le : k ≤ n) : minus n k = pure (n - k) :=
  if_pos le

theorem index_eq {xs : List α} {i : Nat} {x : α} (h : xs[i]? = some x) : index xs i = pure x := by
  rw [index, h]

end InPlace

namespace Text

/-- The bytes of a character in UTF-8, each as the character with its code. -/
def encode (c : Char) : List Char :=
  (String.utf8EncodeChar c).map Char.ofUInt8

def bytes (cs : List Char) : List Char :=
  cs.flatMap encode

/-- The character is one byte, and no other character has that byte. -/
def IsLow (c : Char) : Prop :=
  c.toNat < 128

instance (c : Char) : Decidable (IsLow c) :=
  inferInstanceAs (Decidable (c.toNat < 128))

def takeBytes : Nat → List Char → Option (List Char)
  | 0, _ => some []
  | _ + 1, [] => none
  | n + 1, c :: cs =>
    if c.utf8Size ≤ n + 1 then (takeBytes (n + 1 - c.utf8Size) cs).map (c :: ·) else none

def slice? (cs : List Char) (start stop : Nat) : Option (List Char) :=
  if start ≤ stop then (dropBytes start cs).bind (takeBytes (stop - start)) else none

def slice (cs : List Char) (start stop : Nat) : InPlace (List Char) :=
  match slice? cs start stop with
  | some part => pure part
  | none => .breach .slice

def sliceFrom (cs : List Char) (start : Nat) : InPlace (List Char) :=
  slice cs start (byteLength cs)

def isBoundary (cs : List Char) (offset : Nat) : Bool :=
  (dropBytes offset cs).isSome

variable {c : Char} (xs ys zs : List Char)

@[simp] theorem length_encode (c : Char) : (encode c).length = c.utf8Size := by
  rw [encode, List.length_map, String.length_utf8EncodeChar]

@[simp] theorem bytes_nil : bytes [] = [] := rfl

@[simp] theorem bytes_cons (c : Char) : bytes (c :: xs) = encode c ++ bytes xs := rfl

@[simp] theorem bytes_append : bytes (xs ++ ys) = bytes xs ++ bytes ys := List.flatMap_append

@[simp] theorem length_bytes : (bytes xs).length = byteLength xs := by
  induction xs with
  | nil => rfl
  | cons c xs ih => rw [bytes_cons, List.length_append, ih, length_encode, byteLength_cons]

/-! ## Slices -/

theorem takeBytes_byteLength : takeBytes (byteLength xs) (xs ++ ys) = some xs := by
  induction xs with
  | nil => simp [takeBytes]
  | cons c xs ih =>
    have positive := Char.utf8Size_pos c
    obtain ⟨n, size⟩ : ∃ n, byteLength (c :: xs) = n + 1 :=
      ⟨byteLength (c :: xs) - 1, by simp only [byteLength_cons]; omega⟩
    have rest : n + 1 - c.utf8Size = byteLength xs := by simp only [byteLength_cons] at size; omega
    have fits : c.utf8Size ≤ n + 1 := by simp only [byteLength_cons] at size; omega
    rw [size, List.cons_append, takeBytes, if_pos fits, rest, ih, Option.map_some]

theorem slice_append :
    slice (xs ++ ys ++ zs) (byteLength xs) (byteLength xs + byteLength ys) = pure ys := by
  unfold slice slice?
  rw [if_pos (Nat.le_add_right ..), List.append_assoc, dropBytes_byteLength, Option.bind_some,
    Nat.add_sub_cancel_left, takeBytes_byteLength]

theorem sliceFrom_append : sliceFrom (xs ++ ys) (byteLength xs) = pure ys := by
  have whole := slice_append xs ys []
  rw [List.append_nil, ← byteLength_append] at whole
  exact whole

theorem isBoundary_append : isBoundary (xs ++ ys) (byteLength xs) = true := by
  rw [isBoundary, dropBytes_byteLength, Option.isSome_some]

/-! ## Bytes of characters -/

theorem IsLow.size (low : IsLow c) : c.utf8Size = 1 :=
  Char.utf8Size_eq_one_iff.2 (UInt32.le_iff_toNat_le.2 (Nat.le_of_lt_succ low))

theorem IsLow.encode (low : IsLow c) : encode c = [c] := by
  have same : Char.ofUInt8 c.toUInt8 = c := by
    rw [← Char.toNat_inj]
    show c.toNat % 256 = c.toNat
    exact Nat.mod_eq_of_lt (Nat.lt_trans low (by decide))
  rw [Text.encode, String.utf8EncodeChar_eq_singleton low.size]
  exact congrArg (fun d => [d]) same

theorem not_isLow_of_mem_encode (high : ¬IsLow c) {b : Char} (mem : b ∈ encode c) : ¬IsLow b := by
  have within : ∀ n, 128 ≤ n → n < 256 → 128 ≤ (UInt8.ofNat n).toNat := by
    intro n low bound
    rw [UInt8.toNat_ofNat_of_lt' bound]
    exact low
  have same : c.val.toNat = c.toNat := rfl
  rw [IsLow] at high
  obtain ⟨byte, among, rfl⟩ := List.mem_map.1 mem
  suffices 128 ≤ byte.toNat from Nat.not_lt.2 this
  -- Every byte is a remainder above an offset of at least 128.
  simp only [String.utf8EncodeChar] at among
  split at among
  · omega
  split at among
  · simp only [List.mem_cons, List.not_mem_nil, or_false] at among
    rcases among with rfl | rfl <;> exact within _ (by omega) (by omega)
  split at among
  · simp only [List.mem_cons, List.not_mem_nil, or_false] at among
    rcases among with rfl | rfl | rfl <;> exact within _ (by omega) (by omega)
  · simp only [List.mem_cons, List.not_mem_nil, or_false] at among
    rcases among with rfl | rfl | rfl | rfl <;> exact within _ (by omega) (by omega)

theorem encode_ne_nil (c : Char) : encode c ≠ [] := by
  have positive := Char.utf8Size_pos c
  rw [← length_encode] at positive
  exact List.length_pos_iff.1 positive

theorem getElem?_bytes (k : Nat) (inside : k < c.utf8Size) :
    (bytes (xs ++ c :: ys))[byteLength xs + k]? = (encode c)[k]? := by
  rw [bytes_append, bytes_cons, ← length_bytes, List.getElem?_append_right (Nat.le_add_right ..),
    Nat.add_sub_cancel_left, List.getElem?_append_left (by rwa [length_encode])]

theorem IsLow.getElem?_bytes (low : IsLow c) :
    (bytes (xs ++ c :: ys))[byteLength xs]? = some c := by
  have first := Text.getElem?_bytes xs ys 0 (Char.utf8Size_pos c)
  rw [low.encode] at first
  exact first

theorem drop_bytes : (bytes (xs ++ ys)).drop (byteLength xs) = bytes ys := by
  rw [bytes_append, ← length_bytes, List.drop_left]

theorem head?_bytes_eq_some_iff {d : Char} (low : IsLow d) :
    (bytes xs).head? = some d ↔ xs.head? = some d := by
  cases xs with
  | nil => rfl
  | cons c xs =>
    rw [bytes_cons, List.head?_append, List.head?_cons,
      Option.some.injEq]
    by_cases here : IsLow c
    · rw [here.encode, List.head?_cons, Option.some_or, Option.some.injEq]
    · have first := List.head?_eq_some_head (encode_ne_nil c)
      have other := not_isLow_of_mem_encode here (List.head_mem (encode_ne_nil c))
      rw [first, Option.some_or, Option.some.injEq]
      constructor
      · intro same
        exact absurd low (same ▸ other)
      · rintro rfl
        exact absurd low here

theorem skip_encode {β : Type} {f : Nat → β} {k : Nat}
    (skips : ∀ i b, (bytes (xs ++ c :: ys))[i]? = some b → ¬IsLow b → f i = f (i + 1))
    (le : k ≤ c.utf8Size) (inside : k = 0 → ¬IsLow c) :
    f (byteLength xs + k) = f (byteLength xs + c.utf8Size) := by
  rcases Nat.lt_or_eq_of_le le with lt | rfl
  · have high : ¬IsLow c := by
      intro low
      have one := low.size
      exact inside (by omega) low
    have there : k < (encode c).length := by rwa [length_encode]
    have byte : (bytes (xs ++ c :: ys))[byteLength xs + k]? = some (encode c)[k] := by
      rw [getElem?_bytes xs ys k lt]
      exact List.getElem?_eq_getElem there
    rw [skips _ _ byte (not_isLow_of_mem_encode high (List.getElem_mem there)), Nat.add_assoc]
    exact skip_encode skips lt (by omega)
  · rfl
termination_by c.utf8Size - k

end Text

end Stencil
