import Stencil.Text.Quoting

namespace Stencil.Text

def prefixed (front : List Char) (parts : Option (List Char × List Char)) :
    Option (List Char × List Char) :=
  parts.map fun (s, rest) => (front ++ s, rest)

/-- The open parentheses and the state of the quotes after a character, unless it closes a parenthesis
that is not open. -/
def step (c : Char) (depth : Nat) (state : Quoting) : Option (Nat × Quoting) :=
  if state = .outside ∧ c = ')' then if depth = 0 then none else some (depth - 1, .outside)
  else if state = .outside ∧ c = '(' then some (depth + 1, .outside)
  else some (depth, state.after c)

def through (depth : Nat) (state : Quoting) : List Char → Option (Nat × Quoting)
  | [] => some (depth, state)
  | c :: cs => (step c depth state).bind fun (depth, state) => through depth state cs

variable {depth depth' : Nat} {state state' : Quoting} {c : Char} {cs ds rest : List Char}

theorem begunWith_prefixed {parts : Option (List Char × List Char)} :
    begunWith c (prefixed cs parts) = prefixed (c :: cs) parts := by
  cases parts <;> rfl

theorem prefixed_nil {parts : Option (List Char × List Char)} : prefixed [] parts = parts := by
  cases parts <;> rfl

theorem prefixed_prefixed {parts : Option (List Char × List Char)} :
    prefixed cs (prefixed ds parts) = prefixed (cs ++ ds) parts := by
  cases parts with
  | none => rfl
  | some parts => simp [prefixed]

/-! ## Parentheses -/

theorem through_append (h : through depth state cs = some (depth', state')) :
    through depth state (cs ++ ds) = through depth' state' ds := by
  induction cs generalizing depth state with
  | nil =>
    cases h
    rfl
  | cons c cs ih =>
    rw [through] at h
    obtain ⟨⟨middle, between⟩, one, two⟩ := Option.bind_eq_some_iff.1 h
    rw [List.cons_append, through, one]
    exact ih two

theorem closing?_cons (h : step c depth state = some (depth', state')) :
    closing? depth state (c :: cs) = begunWith c (closing? depth' state' cs) := by
  unfold step at h
  split at h
  · next here =>
    cases depth with
    | zero => cases h
    | succ depth =>
      cases h
      rw [closing?, if_pos here, Nat.add_sub_cancel]
  · next notClosed =>
    split at h
    · next opened =>
      cases h
      rw [closing?.eq_def]
      simp only [if_neg notClosed, if_pos opened]
    · next other =>
      cases h
      rw [closing?.eq_def]
      simp only [if_neg notClosed, if_neg other]

theorem closing?_append (h : through depth state cs = some (depth', state')) :
    closing? depth state (cs ++ rest) = prefixed cs (closing? depth' state' rest) := by
  induction cs generalizing depth state with
  | nil =>
    cases h
    exact prefixed_nil.symm
  | cons c cs ih =>
    rw [through] at h
    obtain ⟨⟨middle, between⟩, one, two⟩ := Option.bind_eq_some_iff.1 h
    rw [List.cons_append, closing?_cons one, ih two, begunWith_prefixed]

theorem closing?_of_through (h : through 0 .outside cs = some (0, .outside)) :
    closing? 0 .outside (cs ++ ')' :: rest) = some (cs, rest) := by
  rw [closing?_append h]
  simp [closing?, prefixed]

def isNeutral (c : Char) : Bool :=
  !isQuote c && c != '(' && c != ')'

theorem through_of_neutral (neutral : ∀ c ∈ cs, isNeutral c = true) :
    through depth .outside cs = some (depth, .outside) := by
  induction cs with
  | nil => rfl
  | cons c cs ih =>
    have plain := neutral c (List.mem_cons_self ..)
    simp only [isNeutral, Bool.and_eq_true, Bool.not_eq_true', bne_iff_ne, ne_eq] at plain
    obtain ⟨⟨quote, opening⟩, closing⟩ := plain
    rw [through, step, if_neg (fun h => closing h.2), if_neg (fun h => opening h.2)]
    simp only [Quoting.after, quote]
    exact ih fun d mem => neutral d (List.mem_cons_of_mem _ mem)

/-! ## Characters that mean nothing -/

def Quoting.Proper : Quoting → Prop
  | outside => True
  | inside quote | escaped quote => isQuote quote = true

def Quoting.settled : Quoting → Quoting
  | escaped quote => inside quote
  | state => state

theorem Quoting.Proper.settled {state : Quoting} (h : state.Proper) : state.settled.Proper := by
  cases state <;> exact h

theorem Quoting.settled_settled (state : Quoting) : state.settled.settled = state.settled := by
  cases state <;> rfl

def isInert (c : Char) : Bool :=
  isNeutral c && c != '\\'

theorem step_proper (proper : state.Proper) (h : step c depth state = some (depth', state')) :
    state'.Proper := by
  unfold step at h
  split at h
  · split at h <;> cases h
    exact trivial
  · split at h
    · cases h
      exact trivial
    · cases h
      cases state with
      | outside =>
        rw [Quoting.after]
        split
        · next quote => exact quote
        · exact trivial
      | inside quote =>
        rw [Quoting.after]
        split
        · exact proper
        · split
          · exact trivial
          · exact proper
      | escaped quote => exact proper

theorem step_inert (proper : state.Proper) (inert : isInert c = true) :
    step c depth state = some (depth, state.settled) := by
  simp only [isInert, isNeutral, Bool.and_eq_true, Bool.not_eq_true', bne_iff_ne, ne_eq] at inert
  obtain ⟨⟨⟨plain, opening⟩, closing⟩, escape⟩ := inert
  rw [step, if_neg (fun h => closing h.2), if_neg (fun h => opening h.2)]
  cases state with
  | outside =>
    rw [Quoting.after, plain]
    rfl
  | inside quote =>
    have other : c ≠ quote := by
      rintro rfl
      rw [Quoting.Proper, plain] at proper
      cases proper
    rw [Quoting.after, if_neg escape, if_neg other]
    rfl
  | escaped quote => rfl

theorem through_inert (proper : state.Proper) (inert : ∀ c ∈ cs, isInert c = true) (some : cs ≠ []) :
    through depth state (cs ++ rest) = through depth state.settled rest := by
  induction cs generalizing state with
  | nil => exact absurd rfl some
  | cons c cs ih =>
    rw [List.cons_append, through, step_inert proper (inert c (List.mem_cons_self ..)),
      Option.bind_some]
    by_cases last : cs = []
    · rw [last, List.nil_append]
    · have more := ih proper.settled (fun d mem => inert d (List.mem_cons_of_mem _ mem)) last
      rw [Quoting.settled_settled] at more
      exact more

/-! ## Closing marks -/

theorem closeTag?_of_plain (plain : ∀ c ∈ cs, isQuote c = false ∧ c ≠ '?') :
    closeTag? .outside (cs ++ rest) = prefixed cs (closeTag? .outside rest) := by
  induction cs with
  | nil => exact prefixed_nil.symm
  | cons c cs ih =>
    obtain ⟨quote, other⟩ := plain c (List.mem_cons_self ..)
    rw [List.cons_append, closeTag?, if_neg (fun h => other h.2.1), ← begunWith_prefixed]
    simp only [Quoting.after, quote]
    exact congrArg _ (ih fun d mem => plain d (List.mem_cons_of_mem _ mem))

theorem closeTag?_question (other : rest.head? ≠ some '>') :
    closeTag? .outside ('?' :: rest) = prefixed ['?'] (closeTag? .outside rest) := by
  rw [closeTag?, if_neg (fun h => other h.2.2)]
  rfl

end Stencil.Text
