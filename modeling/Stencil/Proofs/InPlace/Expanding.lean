import Stencil.Proofs.Directive.Occurrence
import Stencil.Proofs.InPlace.Scanning
import Stencil.Template

/-!
# Directives, in place

A directive is expanded from left to right: the text before an occurrence is copied up to it, and where
the parenthesis of an occurrence is never closed, the search goes on at the next character. All offsets
that come up are between characters, so the text that is written is that of `Directive.expand`.
-/

namespace Stencil
open InPlace Text

namespace Directive

variable (d : Directive)

def signFrom? (search offset : Nat) : List Char → Option (Nat × Nat)
  | [] => none
  | c :: cs =>
    match if search ≤ offset then d.trigger? (c :: cs) else none with
    | some rest => some (offset, offset + (byteLength (c :: cs) - byteLength rest))
    | none => signFrom? search (offset + c.utf8Size) cs

def findSign (text : List Char) (search : Nat) : InPlace (Option (Nat × Nat)) :=
  if search ≤ byteLength text then pure (d.signFrom? search 0 text) else breach .index

end Directive

def boundaryFrom (text : List Char) (offset : Nat) : InPlace Nat :=
  if offset < byteLength text ∧ isBoundary text offset = false then boundaryFrom text (offset + 1)
  else pure offset
termination_by byteLength text - offset
decreasing_by omega

def Directive.expandFrom (d : Directive) (text out : List Char) (copied search : Nat) :
    (rounds : Nat) → InPlace (List Char)
  | 0 => breach .standstill
  | rounds + 1 => do
    if search ≤ byteLength text then
      match ← d.findSign text search with
      | none => return out ++ (← sliceFrom text copied)
      | some (start, stop) =>
        if d.takesArgument then
          let opening ← minus stop 1
          match ← closingAt text opening with
          | some closing =>
            let before ← slice text copied start
            let argument ← slice text (opening + 1) closing
            let out := out ++ before ++ d.compile argument
            expandFrom d text out (closing + 1) (closing + 1) rounds
          | none => expandFrom d text out copied (← boundaryFrom text (start + 1)) rounds
        else
          let before ← slice text copied start
          expandFrom d text (out ++ before ++ d.compile []) stop stop rounds
    else return out ++ (← sliceFrom text copied)

/-- Expand the directives one after the other. Each sign but the last leaves fewer characters. -/
def Directive.expandEach : List Directive → List Char → InPlace (List Char)
  | [], text => pure text
  | d :: ds, text => do
    expandEach ds (← d.expandFrom text [] 0 0 (text.length + 1))

/-! ## Searching -/

namespace Directive

variable {d : Directive} {c : Char} {cs rest : List Char} {search offset : Nat}

theorem signFrom?_append (xs : List Char) (le : offset + byteLength xs ≤ search) :
    d.signFrom? search offset (xs ++ cs) = d.signFrom? search (offset + byteLength xs) cs := by
  induction xs generalizing offset with
  | nil => rfl
  | cons x xs ih =>
    have positive := Char.utf8Size_pos x
    rw [byteLength_cons] at le ⊢
    rw [List.cons_append, signFrom?, if_neg (by omega), ih (by omega), Nat.add_assoc]

theorem signFrom?_congr {other : Nat} (le : search ≤ offset) (le' : other ≤ offset) :
    d.signFrom? search offset cs = d.signFrom? other offset cs := by
  induction cs generalizing offset with
  | nil => rfl
  | cons c cs ih =>
    rw [signFrom?, signFrom?, if_pos le, if_pos le', ih (by omega) (by omega)]

theorem findSign_append (xs ys : List Char) :
    d.findSign (xs ++ ys) (byteLength xs) =
      pure (d.signFrom? (byteLength xs) (byteLength xs) ys) := by
  have start := @signFrom?_append d ys (byteLength xs) 0 xs (by omega)
  rw [Nat.zero_add] at start
  rw [findSign, if_pos (by rw [byteLength_append]; omega), start]

theorem Triggers.exists_lead {mark : List Char} (triggers : d.Triggers mark rest)
    (takes : d.takesArgument = true) : ∃ lead, mark = lead ++ ['('] := by
  cases triggers with
  | argument _ _ => exact ⟨_, rfl⟩
  | bare bare _ =>
    rw [takes] at bare
    cases bare

/-! ## Expanding -/

theorem dropBytes_inside (xs ys : List Char) (k : Nat) :
    dropBytes (byteLength xs + k) (xs ++ ys) = dropBytes k ys := by
  induction xs with
  | nil => rw [byteLength_nil, Nat.zero_add, List.nil_append]
  | cons x xs ih =>
    have positive := Char.utf8Size_pos x
    obtain ⟨n, size⟩ : ∃ n, byteLength (x :: xs) + k = n + 1 :=
      ⟨byteLength (x :: xs) + k - 1, by simp only [byteLength_cons]; omega⟩
    have fits : x.utf8Size ≤ n + 1 := by simp only [byteLength_cons] at size; omega
    have less : n + 1 - x.utf8Size = byteLength xs + k := by
      simp only [byteLength_cons] at size
      omega
    rw [size, List.cons_append, dropBytes, if_pos fits, less, ih]

theorem boundaryFrom_eq (xs cs : List Char) {k : Nat} (positive : 0 < k) (le : k ≤ c.utf8Size) :
    boundaryFrom (xs ++ c :: cs) (byteLength xs + k) = pure (byteLength xs + c.utf8Size) := by
  rw [boundaryFrom]
  rcases Nat.lt_or_eq_of_le le with inside | rfl
  · have cut : isBoundary (xs ++ c :: cs) (byteLength xs + k) = false := by
      obtain ⟨n, rfl⟩ : ∃ n, k = n + 1 := ⟨k - 1, by omega⟩
      rw [isBoundary, dropBytes_inside, dropBytes, if_neg (by omega), Option.isSome_none]
    rw [if_pos ⟨by rw [byteLength_append, byteLength_cons]; omega, cut⟩]
    exact boundaryFrom_eq xs cs (Nat.succ_pos k) inside
  · have whole := isBoundary_append (xs ++ [c]) cs
    rw [byteLength_concat, List.append_assoc, List.singleton_append] at whole
    rw [if_neg fun h => Bool.eq_false_iff.1 h.2 whole]
termination_by c.utf8Size - k

theorem expandFrom_of_none (text out : List Char) {copied rounds : Nat}
    (absent : d.findSign text search = pure none) :
    d.expandFrom text out copied search (rounds + 1) =
      do return out ++ (← sliceFrom text copied) := by
  rw [expandFrom]
  split
  · rw [absent, pure_bind]
  · rfl

theorem expandFrom_skip (xs out : List Char) {copied rounds : Nat}
    (absent : d.trigger? (c :: cs) = none) :
    d.expandFrom (xs ++ c :: cs) out copied (byteLength xs) rounds =
      d.expandFrom (xs ++ c :: cs) out copied (byteLength (xs ++ [c])) rounds := by
  have same : d.findSign (xs ++ c :: cs) (byteLength xs) =
      d.findSign (xs ++ c :: cs) (byteLength (xs ++ [c])) := by
    have after := findSign_append (xs ++ [c]) cs (d := d)
    rw [List.append_assoc, List.singleton_append] at after
    rw [findSign_append, after, signFrom?, if_pos (Nat.le_refl _), absent, byteLength_concat]
    exact congrArg pure (signFrom?_congr (by omega) (by omega))
  have before : byteLength xs ≤ byteLength (xs ++ c :: cs) := by
    rw [byteLength_append]
    omega
  have after : byteLength (xs ++ [c]) ≤ byteLength (xs ++ c :: cs) := by
    rw [byteLength_append, byteLength_append, byteLength_cons, byteLength_cons, byteLength_nil]
    omega
  cases rounds with
  | zero => rfl
  | succ rounds => rw [expandFrom, expandFrom, if_pos before, same, if_pos after]

theorem closingAt_eq (before inner : List Char) :
    closingAt (before ++ '(' :: inner) (byteLength before) =
      pure (ending (before ++ ['(']) (closing? 0 .outside inner)) := by
  have low : IsLow '(' := by decide
  have there := low.getElem?_bytes before inner
  have here : byteLength before + 1 = byteLength (before ++ ['(']) := by
    rw [byteLength_concat, low.size]
  have inside : byteLength before < (bytes (before ++ '(' :: inner)).length :=
    (List.getElem?_eq_some_iff.1 there).1
  rw [closingAt, if_pos there, closingFrom, if_pos inside, index_eq there, pure_bind]
  have found := closingFrom_eq inner (before ++ ['(']) 0 .outside (by rintro _ ⟨⟩)
  rw [List.append_assoc, List.singleton_append, ← here] at found
  exact found

theorem findSign_of_trigger? (xs front : List Char)
    (h : d.trigger? (front ++ rest) = some rest) :
    d.findSign (xs ++ (front ++ rest)) (byteLength xs) =
      pure (some (byteLength xs, byteLength (xs ++ front))) := by
  rw [findSign_append]
  cases whole : front ++ rest with
  | nil =>
    rw [whole] at h
    exact absurd (trigger?_shorter h) (Nat.not_lt_zero _)
  | cons c cs =>
    rw [whole] at h
    rw [signFrom?, if_pos (Nat.le_refl _), h, ← whole]
    simp only [byteLength_append, Nat.add_sub_cancel]

theorem expandFrom_opening (takes : d.takesArgument = true) {lead inner : List Char}
    (h : d.trigger? (lead ++ '(' :: inner) = some inner) (xs out : List Char) (copied rounds : Nat) :
    d.expandFrom (xs ++ (lead ++ '(' :: inner)) out copied (byteLength xs) (rounds + 1) =
      match closing? 0 .outside inner with
      | some (enclosed, _) => do
        let before ← slice (xs ++ (lead ++ '(' :: inner)) copied (byteLength xs)
        let argument ← slice (xs ++ (lead ++ '(' :: inner)) (byteLength (xs ++ lead ++ ['(']))
          (byteLength (xs ++ lead ++ ['(']) + byteLength enclosed)
        expandFrom d (xs ++ (lead ++ '(' :: inner)) (out ++ before ++ d.compile argument)
          (byteLength (xs ++ lead ++ ['(']) + byteLength enclosed + 1)
          (byteLength (xs ++ lead ++ ['(']) + byteLength enclosed + 1) rounds
      | none => (do
        let next ← boundaryFrom (xs ++ (lead ++ '(' :: inner)) (byteLength xs + 1)
        expandFrom d (xs ++ (lead ++ '(' :: inner)) out copied next rounds) := by
  have low : IsLow '(' := by decide
  have stop : byteLength (xs ++ (lead ++ ['('])) = byteLength (xs ++ lead) + 1 := by
    rw [← List.append_assoc, byteLength_concat, low.size]
  have found := findSign_of_trigger? xs (lead ++ ['(']) (by simpa using h)
  rw [List.append_assoc, List.singleton_append, stop] at found
  have closing := closingAt_eq (xs ++ lead) inner
  rw [List.append_assoc] at closing
  rw [expandFrom, if_pos (by rw [byteLength_append]; omega), found, pure_bind]
  simp only [takes, if_true, minus_eq (Nat.le_add_left 1 _), Nat.add_sub_cancel, pure_bind, closing]
  rw [byteLength_concat, low.size]
  cases closing? 0 .outside inner with
  | none => rfl
  | some parts =>
    simp only [ending, Option.map_some, byteLength_concat, low.size]

theorem expandFrom_bare (bare : d.takesArgument = false) {front : List Char}
    (h : d.trigger? (front ++ rest) = some rest) (xs out : List Char) (copied rounds : Nat) :
    d.expandFrom (xs ++ (front ++ rest)) out copied (byteLength xs) (rounds + 1) = (do
      let before ← slice (xs ++ (front ++ rest)) copied (byteLength xs)
      d.expandFrom (xs ++ (front ++ rest)) (out ++ before ++ d.compile [])
        (byteLength (xs ++ front)) (byteLength (xs ++ front)) rounds) := by
  rw [expandFrom, if_pos (by rw [byteLength_append]; omega), findSign_of_trigger? xs front h,
    pure_bind]
  simp only [bare, Bool.false_eq_true, if_false]

/-- At an occurrence the loop copies what it held back, expands, and goes on after it. -/
theorem expandFrom_found {occurrence argument : List Char} (occurs : d.Occurs occurrence argument rest)
    (done held out : List Char) (rounds : Nat) :
    d.expandFrom (done ++ held ++ (occurrence ++ rest)) out (byteLength done) (byteLength (done ++ held))
        (rounds + 1) =
      d.expandFrom (done ++ held ++ occurrence ++ rest) (out ++ held ++ d.compile argument)
        (byteLength (done ++ held ++ occurrence)) (byteLength (done ++ held ++ occurrence)) rounds := by
  have before (more : List Char) : slice (done ++ held ++ more) (byteLength done)
      (byteLength (done ++ held)) = pure held := by
    rw [byteLength_append]
    exact slice_append done held more
  cases occurs with
  | argument takes triggers balanced =>
    obtain ⟨lead, rfl⟩ := triggers.exists_lead takes
    have trigger : d.trigger? (lead ++ '(' :: (argument ++ ')' :: rest)) = some (argument ++ ')' :: rest) :=
      trigger?_eq_some_iff.2 ⟨_, by simp, triggers⟩
    have low : IsLow ')' := by decide
    have text : done ++ held ++ (lead ++ '(' :: (argument ++ ')' :: rest)) =
        done ++ held ++ lead ++ ['('] ++ argument ++ ')' :: rest := by
      simp
    have stop : byteLength (done ++ held ++ lead ++ ['(']) + byteLength argument + 1 =
        byteLength (done ++ held ++ lead ++ ['('] ++ argument ++ [')']) := by
      rw [byteLength_concat (_ ++ argument), low.size, byteLength_append _ argument]
    have step := expandFrom_opening takes trigger (done ++ held) out (byteLength done) rounds
    rw [closing?_eq_some_iff.2 ⟨rfl, balanced⟩] at step
    simp only [before, pure_bind] at step
    rw [text, slice_append, pure_bind, stop] at step
    simpa only [List.append_assoc, List.singleton_append] using step
  | bare takes triggers =>
    have trigger := trigger?_eq_some_iff.2 ⟨occurrence, rfl, triggers⟩
    rw [expandFrom_bare takes trigger, before, pure_bind, List.append_assoc _ occurrence]

theorem expandFrom_passed (absent : d.occurrence? (c :: cs) = none) (xs out : List Char)
    (copied rounds : Nat) :
    ∃ left, rounds ≤ left ∧ d.expandFrom (xs ++ c :: cs) out copied (byteLength xs) (rounds + 1) =
      d.expandFrom (xs ++ c :: cs) out copied (byteLength (xs ++ [c])) left := by
  cases trigger : d.trigger? (c :: cs) with
  | none => exact ⟨rounds + 1, Nat.le_succ _, expandFrom_skip xs out trigger⟩
  | some inner =>
    obtain ⟨mark, whole, triggers⟩ := trigger?_eq_some_iff.1 trigger
    unfold occurrence? at absent
    simp only [trigger] at absent
    split at absent
    · next takes =>
      obtain ⟨lead, rfl⟩ := triggers.exists_lead takes
      have next := boundaryFrom_eq xs cs (Nat.succ_pos 0) (Char.utf8Size_pos c)
      rw [List.append_assoc lead, List.singleton_append] at whole
      rw [whole] at trigger next ⊢
      refine ⟨rounds, Nat.le_refl _, ?_⟩
      rw [expandFrom_opening takes trigger, absent, next, pure_bind, byteLength_concat xs c]
    · cases absent

theorem expandFrom_eq (cs done held out : List Char) {rounds : Nat} (enough : cs.length < rounds) :
    d.expandFrom (done ++ held ++ cs) out (byteLength done) (byteLength (done ++ held)) rounds =
      pure (out ++ held ++ d.expand cs) := by
  induction cs using Directive.expand.induct d generalizing done held out rounds with
  | case1 =>
    obtain ⟨rounds, rfl⟩ := Nat.exists_eq_add_one_of_ne_zero (Nat.ne_zero_of_lt enough)
    rw [expandFrom_of_none, List.append_nil, sliceFrom_append, pure_bind, expand_nil,
      List.append_nil]
    rw [findSign_append]
    rfl
  | case2 c cs argument rest found ih =>
    obtain ⟨rounds, rfl⟩ := Nat.exists_eq_add_one_of_ne_zero (Nat.ne_zero_of_lt enough)
    have fewer : rest.length < rounds :=
      Nat.lt_of_lt_of_le (occurrence?_shorter found) (Nat.le_of_lt_succ enough)
    obtain ⟨occurrence, whole, occurs⟩ := occurrence?_eq_some_iff.1 found
    have next := ih (done ++ held ++ occurrence) [] (out ++ held ++ d.compile argument) fewer
    rw [List.append_nil, List.append_nil] at next
    rw [expand_of_occurrence found, whole, expandFrom_found occurs, next, List.append_assoc _ (d.compile _)]
  | case3 c cs absent ih =>
    obtain ⟨rounds, rfl⟩ := Nat.exists_eq_add_one_of_ne_zero (Nat.ne_zero_of_lt enough)
    obtain ⟨left, less, step⟩ := expandFrom_passed absent (done ++ held) out (byteLength done) rounds
    have next := ih done (held ++ [c]) out
      (Nat.lt_of_lt_of_le (Nat.lt_of_succ_lt_succ enough) less)
    rw [← List.append_assoc done, List.append_assoc _ [c], List.singleton_append] at next
    rw [step, next, expand_of_none absent]
    simp only [List.append_assoc, List.singleton_append]

theorem expandEach_eq (ds : List Directive) (text : List Char) :
    expandEach ds text = pure (ds.foldl (fun text d => d.expand text) text) := by
  induction ds generalizing text with
  | nil => rfl
  | cons d ds ih =>
    have whole : d.expandFrom text [] 0 0 (text.length + 1) = pure (d.expand text) :=
      expandFrom_eq text [] [] [] (Nat.lt_succ_self _)
    rw [expandEach, whole, pure_bind, ih, List.foldl_cons]

end Directive

end Stencil
