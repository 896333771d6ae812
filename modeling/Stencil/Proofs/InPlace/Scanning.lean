import Stencil.Proofs.InPlace.Bytes
import Stencil.Text.Quoting

/-!
# Scanning bytes

The two scanners for ends go from byte to byte. After a backslash inside quotes they pass over one
byte, which need not be all of a character; the bytes that are left of it say nothing. So they find the
ends that `closing?` and `closeTag?` find.
-/

namespace Stencil
open InPlace

/-! ## The scanners -/

def closingFrom (bytes : List Char) (i depth : Nat) (quote : Option Char) :
    InPlace (Option Nat) := do
  if i < bytes.length then
    let b ← index bytes i
    match quote with
    | some q =>
      if b = '\\' then closingFrom bytes (i + 2) depth quote
      else closingFrom bytes (i + 1) depth (if b = q then none else quote)
    | none =>
      if Text.isQuote b then closingFrom bytes (i + 1) depth (some b)
      else if b = '(' then closingFrom bytes (i + 1) (depth + 1) none
      else if b = ')' then do
        let depth ← minus depth 1
        if depth = 0 then return some i else closingFrom bytes (i + 1) depth none
      else closingFrom bytes (i + 1) depth none
  else return none
termination_by bytes.length - i
decreasing_by all_goals omega

def closingAt (text : List Char) (opening : Nat) : InPlace (Option Nat) :=
  if (Text.bytes text)[opening]? = some '(' then closingFrom (Text.bytes text) opening 0 none
  else breach .assertion

def closeTagFrom (bytes : List Char) (i : Nat) (quote : Option Char) : InPlace (Option Nat) := do
  if i < bytes.length then
    let b ← index bytes i
    match quote with
    | some q =>
      if b = '\\' then closeTagFrom bytes (i + 2) quote
      else closeTagFrom bytes (i + 1) (if b = q then none else quote)
    | none =>
      if Text.isQuote b then closeTagFrom bytes (i + 1) (some b)
      else if ['?', '>'].isPrefixOf (← rest bytes i) then return some i
      else closeTagFrom bytes (i + 1) none
  else return none
termination_by bytes.length - i
decreasing_by all_goals omega

/-! ## One character -/

namespace Text

variable {c q : Char} {bs : List Char} {i depth : Nat}

theorem isLow_of_isQuote (h : isQuote c = true) : IsLow c := by
  simp only [isQuote, Bool.or_eq_true, beq_iff_eq] at h
  rcases h with rfl | rfl <;> decide

theorem ne_of_not_isLow (high : ¬IsLow c) {d : Char} (low : IsLow d) : c ≠ d := by
  rintro rfl
  exact high low

theorem not_isQuote_of_not_isLow (high : ¬IsLow c) : isQuote c = false :=
  Bool.eq_false_iff.2 fun quote => high (isLow_of_isQuote quote)

def Quoting.mark : Quoting → Option Char
  | outside => none
  | inside q | escaped q => some q

def Quoting.passed : Quoting → Nat
  | escaped _ => 1
  | _ => 0

theorem Quoting.quoted_after {state : Quoting} (quoted : ∀ q ∈ state.mark, isQuote q = true)
    (c : Char) : ∀ q ∈ (state.after c).mark, isQuote q = true := by
  cases state with
  | outside =>
    rw [after]
    split
    · next quote =>
      rintro q ⟨⟩
      exact quote
    · exact quoted
  | inside quote =>
    rw [after]
    split
    · exact quoted
    split
    · rintro q ⟨⟩
    · exact quoted
  | escaped quote => exact quoted

theorem byteLength_concat (before : List Char) (c : Char) :
    byteLength (before ++ [c]) = byteLength before + c.utf8Size := by
  rw [byteLength_append, byteLength_cons, byteLength_nil, Nat.add_zero]

/-- A scanner of bytes passes over a character as the quotes go over it, if none of its bytes means
more to the scanner than what they mean to quotes. -/
theorem scan_character {β : Type} {scan : Nat → Option Char → β} {before cs : List Char}
    {state : Quoting} (quoted : ∀ q ∈ state.mark, isQuote q = true)
    (inside : ∀ i b q, (bytes (before ++ c :: cs))[i]? = some b → scan i (some q) =
      if b = '\\' then scan (i + 2) (some q) else scan (i + 1) (if b = q then none else some q))
    (outside : state = .outside → ∀ i b, (bytes (before ++ c :: cs))[i]? = some b →
      i = byteLength before ∧ b = c ∨ ¬IsLow b →
        scan i none = scan (i + 1) (if isQuote b then some b else none)) :
    scan (byteLength before + state.passed) state.mark =
      scan (byteLength before + c.utf8Size + (state.after c).passed) (state.after c).mark := by
  have high : ∀ i b, (bytes (before ++ c :: cs))[i]? = some b → ¬IsLow b →
      scan i state.mark = scan (i + 1) state.mark := by
    intro i b byte high
    cases mark : state.mark with
    | some q =>
      rw [inside i b q byte, if_neg (ne_of_not_isLow high (by decide)),
        if_neg (ne_of_not_isLow high (isLow_of_isQuote (quoted q mark)))]
    | none =>
      cases state with
      | outside =>
        rw [outside rfl i b byte (.inr high), not_isQuote_of_not_isLow high]
        rfl
      | inside q => cases mark
      | escaped q => cases mark
  have skip {k : Nat} := @skip_encode c before cs _ (fun i => scan i state.mark) k high
  cases state with
  | escaped q => exact skip (Char.utf8Size_pos c) fun one => absurd one Nat.one_ne_zero
  | inside q =>
    by_cases low : IsLow c
    · simp only [Quoting.mark, Quoting.passed, Quoting.after, Nat.add_zero]
      rw [inside _ c q (low.getElem?_bytes before cs), low.size]
      split
      · rfl
      split <;> rfl
    · rw [Quoting.after, if_neg (ne_of_not_isLow low (by decide)),
        if_neg (ne_of_not_isLow low (isLow_of_isQuote (quoted q rfl)))]
      exact skip (Nat.zero_le _) fun _ => low
  | outside =>
    by_cases low : IsLow c
    · simp only [Quoting.mark, Quoting.passed, Quoting.after, Nat.add_zero]
      rw [outside rfl _ c (low.getElem?_bytes before cs) (.inl ⟨rfl, rfl⟩), low.size]
      split <;> rfl
    · rw [Quoting.after, if_neg (Bool.eq_false_iff.1 (not_isQuote_of_not_isLow low))]
      exact skip (Nat.zero_le _) fun _ => low

/-! ## One byte -/

theorem closingFrom_inside (byte : bs[i]? = some c) :
    closingFrom bs i depth (some q) =
      if c = '\\' then closingFrom bs (i + 2) depth (some q)
      else closingFrom bs (i + 1) depth (if c = q then none else some q) := by
  conv => lhs; rw [closingFrom]
  rw [if_pos (List.getElem?_eq_some_iff.1 byte).1, index_eq byte, pure_bind]

theorem closingFrom_opening (byte : bs[i]? = some '(') :
    closingFrom bs i depth none = closingFrom bs (i + 1) (depth + 1) none := by
  conv => lhs; rw [closingFrom]
  rw [if_pos (List.getElem?_eq_some_iff.1 byte).1, index_eq byte, pure_bind]
  rfl

theorem closingFrom_closing (byte : bs[i]? = some ')') :
    closingFrom bs i (depth + 1) none =
      if depth = 0 then pure (some i) else closingFrom bs (i + 1) depth none := by
  conv => lhs; rw [closingFrom]
  rw [if_pos (List.getElem?_eq_some_iff.1 byte).1, index_eq byte, pure_bind,
    minus_eq (Nat.le_add_left 1 depth), pure_bind]
  rfl

theorem closingFrom_plain (byte : bs[i]? = some c) (opens : c ≠ '(') (closes : c ≠ ')') :
    closingFrom bs i depth none =
      closingFrom bs (i + 1) depth (if isQuote c then some c else none) := by
  conv => lhs; rw [closingFrom]
  rw [if_pos (List.getElem?_eq_some_iff.1 byte).1, index_eq byte, pure_bind]
  simp only [if_neg opens, if_neg closes]
  split <;> rfl

theorem closeTagFrom_inside (byte : bs[i]? = some c) :
    closeTagFrom bs i (some q) =
      if c = '\\' then closeTagFrom bs (i + 2) (some q)
      else closeTagFrom bs (i + 1) (if c = q then none else some q) := by
  conv => lhs; rw [closeTagFrom]
  rw [if_pos (List.getElem?_eq_some_iff.1 byte).1, index_eq byte, pure_bind]

theorem closeTagFrom_outside (byte : bs[i]? = some c) :
    closeTagFrom bs i none =
      if c = '?' ∧ bs[i + 1]? = some '>' then pure (some i)
      else closeTagFrom bs (i + 1) (if isQuote c then some c else none) := by
  have inside : i < bs.length := (List.getElem?_eq_some_iff.1 byte).1
  have starts : ['?', '>'].isPrefixOf (bs.drop i) = true ↔ c = '?' ∧ bs[i + 1]? = some '>' := by
    rw [← List.head?_drop, List.drop_eq_getElem_cons inside, (List.getElem?_eq_some_iff.1 byte).2]
    cases bs.drop (i + 1) with
    | nil => simp [List.isPrefixOf]
    | cons d ds =>
      rw [List.isPrefixOf, List.isPrefixOf, List.isPrefixOf, Bool.and_true, Bool.and_eq_true,
        beq_iff_eq, beq_iff_eq, List.head?_cons, Option.some.injEq, eq_comm, @eq_comm _ d]
  conv => lhs; rw [closeTagFrom]
  rw [if_pos inside, index_eq byte, pure_bind, rest, if_pos (Nat.le_of_lt inside), pure_bind]
  simp only [starts]
  by_cases quote : isQuote c = true
  · have other : c ≠ '?' := by
      rintro rfl
      cases quote
    rw [if_pos quote, if_pos quote, if_neg fun h => other h.1]
  · rw [if_neg quote, if_neg quote]

/-! ## Ends that are found -/

def ending (before : List Char) (parts : Option (List Char × List Char)) : Option Nat :=
  parts.map fun p => byteLength before + byteLength p.1

theorem ending_begunWith (before : List Char) (c : Char) (parts : Option (List Char × List Char)) :
    ending before (begunWith c parts) = ending (before ++ [c]) parts := by
  cases parts with
  | none => rfl
  | some p => simp [ending, begunWith, Nat.add_assoc]

theorem closingFrom_eq (cs before : List Char) (depth : Nat) (state : Quoting)
    (quoted : ∀ q ∈ state.mark, isQuote q = true) :
    closingFrom (bytes (before ++ cs)) (byteLength before + state.passed) (depth + 1) state.mark =
      pure (ending before (closing? depth state cs)) := by
  induction cs generalizing before depth state with
  | nil =>
    rw [closingFrom, if_neg]
    · rfl
    · rw [length_bytes, List.append_nil]
      omega
  | cons c cs ih =>
    have next := ih (before ++ [c])
    rw [List.append_assoc, List.singleton_append, byteLength_concat] at next
    rw [closing?.eq_def]
    by_cases closes : state = .outside ∧ c = ')'
    · obtain ⟨rfl, rfl⟩ := closes
      have low : IsLow ')' := by decide
      rw [low.size] at next
      show closingFrom _ (byteLength before) _ none = _
      rw [closingFrom_closing (low.getElem?_bytes before cs)]
      cases depth with
      | zero => rfl
      | succ depth =>
        exact (next depth .outside quoted).trans (congrArg pure (ending_begunWith before ')' _).symm)
    by_cases opens : state = .outside ∧ c = '('
    · obtain ⟨rfl, rfl⟩ := opens
      have low : IsLow '(' := by decide
      rw [low.size] at next
      show closingFrom _ (byteLength before) _ none = _
      rw [closingFrom_opening (low.getElem?_bytes before cs)]
      exact (next (depth + 1) .outside quoted).trans
        (congrArg pure (ending_begunWith before '(' _).symm)
    · simp only [if_neg closes, if_neg opens, ending_begunWith]
      rw [← next depth (state.after c) (Quoting.quoted_after quoted c)]
      refine scan_character quoted (fun _ _ _ => closingFrom_inside) fun bare i b byte kind => ?_
      refine closingFrom_plain byte ?_ ?_
      · rintro rfl
        rcases kind with ⟨-, rfl⟩ | high
        · exact opens ⟨bare, rfl⟩
        · exact high (by decide)
      · rintro rfl
        rcases kind with ⟨-, rfl⟩ | high
        · exact closes ⟨bare, rfl⟩
        · exact high (by decide)

theorem closeTagFrom_eq (cs before : List Char) (state : Quoting)
    (quoted : ∀ q ∈ state.mark, isQuote q = true) :
    closeTagFrom (bytes (before ++ cs)) (byteLength before + state.passed) state.mark =
      pure (ending before (closeTag? state cs)) := by
  induction cs generalizing before state with
  | nil =>
    rw [closeTagFrom, if_neg]
    · rfl
    · rw [length_bytes, List.append_nil]
      omega
  | cons c cs ih =>
    have next := ih (before ++ [c])
    rw [List.append_assoc, List.singleton_append, byteLength_concat] at next
    -- The second byte of an end is the first one of the next character.
    have second : c = '?' → ((bytes (before ++ c :: cs))[byteLength before + 1]? = some '>' ↔
        cs.head? = some '>') := by
      rintro rfl
      have after := byteLength_concat before '?'
      rw [(show IsLow '?' by decide).size] at after
      have left := drop_bytes (before ++ ['?']) cs
      rw [after, List.append_assoc, List.singleton_append] at left
      rw [← List.head?_drop, left, head?_bytes_eq_some_iff cs (by decide)]
    rw [closeTag?]
    by_cases ends : state = .outside ∧ c = '?' ∧ cs.head? = some '>'
    · obtain ⟨rfl, rfl, follows⟩ := ends
      have low : IsLow '?' := by decide
      show closeTagFrom _ (byteLength before) none = _
      rw [closeTagFrom_outside (low.getElem?_bytes before cs),
        if_pos ⟨rfl, (second rfl).2 follows⟩, if_pos ⟨rfl, rfl, follows⟩]
      rfl
    · rw [if_neg ends, ending_begunWith, ← next (state.after c) (Quoting.quoted_after quoted c)]
      refine scan_character quoted (fun _ _ _ => closeTagFrom_inside) fun bare i b byte kind => ?_
      rw [closeTagFrom_outside byte, if_neg]
      rintro ⟨rfl, follows⟩
      rcases kind with ⟨rfl, rfl⟩ | high
      · exact ends ⟨bare, rfl, (second rfl).1 follows⟩
      · exact high (by decide)

end Text

end Stencil
