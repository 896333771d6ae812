import Stencil.Proofs.Text.Scanning

/-!
# Balanced texts

What stands between parentheses: characters, texts in quotes, and parentheses around such texts. A text is
balanced where the scanner passes over it (`balanced_iff_through`), and the scanner for the closing
parenthesis stops at the first one before which the text is balanced (`closing?_eq_some_iff`).
-/

namespace Stencil.Text

/-- What stands between two of these quotes: a backslash takes the meaning from the next character. -/
inductive Quoted (quote : Char) : List Char → Prop
  | nil : Quoted quote []
  | plain {c cs} : c ≠ '\\' → c ≠ quote → Quoted quote cs → Quoted quote (c :: cs)
  | escaped {c cs} : Quoted quote cs → Quoted quote ('\\' :: c :: cs)

/-- Outside quotes every parenthesis has its partner. -/
inductive Balanced : List Char → Prop
  | nil : Balanced []
  | plain {c cs} : isNeutral c = true → Balanced cs → Balanced (c :: cs)
  | quoted {quote body cs} : isQuote quote = true → Quoted quote body → Balanced cs →
      Balanced (quote :: (body ++ quote :: cs))
  | nest {inner cs} : Balanced inner → Balanced cs → Balanced ('(' :: (inner ++ ')' :: cs))

variable {quote c : Char} {cs body front h rest : List Char} {depth depth' : Nat}
  {state state' : Quoting}

/-! ## Balanced texts are passed over -/

theorem through_cons (one : step c depth state = some (depth', state')) :
    through depth state (c :: cs) = through depth' state' cs := by
  rw [through, one, Option.bind_some]

theorem step_of_quoting (inside : state ≠ .outside) : step c depth state = some (depth, state.after c) := by
  rw [step, if_neg fun h => inside h.1, if_neg fun h => inside h.1]

theorem step_of_quote (quotes : isQuote quote = true) :
    step quote depth .outside = some (depth, .inside quote) := by
  have opening : quote ≠ '(' := by rintro rfl; cases quotes
  have closing : quote ≠ ')' := by rintro rfl; cases quotes
  rw [step, if_neg fun h => closing h.2, if_neg fun h => opening h.2, Quoting.after, if_pos quotes]

theorem Quoted.through (quoted : Quoted quote body) :
    Text.through depth (.inside quote) body = some (depth, .inside quote) := by
  induction quoted with
  | nil => rfl
  | @plain c cs escape other _ ih =>
    have one : step c depth (.inside quote) = some (depth, .inside quote) := by
      rw [step_of_quoting (by simp), Quoting.after, if_neg escape, if_neg other]
    rw [through_cons one, ih]
  | @escaped c cs _ ih =>
    have one : step '\\' depth (.inside quote) = some (depth, .escaped quote) :=
      step_of_quoting (by simp)
    have two : step c depth (.escaped quote) = some (depth, .inside quote) := step_of_quoting (by simp)
    rw [through_cons one, through_cons two, ih]

theorem Balanced.through (balanced : Balanced cs) (depth : Nat) :
    Text.through depth .outside cs = some (depth, .outside) := by
  induction balanced generalizing depth with
  | nil => rfl
  | plain neutral _ ih =>
    have one := @through_of_neutral depth [_] (List.forall_mem_singleton.2 neutral)
    rw [← List.singleton_append, through_append one, ih]
  | @quoted quote body cs quotes inner _ ih =>
    have last : step quote depth (.inside quote) = some (depth, .outside) := by
      have escape : quote ≠ '\\' := by rintro rfl; cases quotes
      rw [step_of_quoting (by simp), Quoting.after, if_neg escape, if_pos rfl]
    rw [through_cons (step_of_quote quotes), through_append inner.through, through_cons last, ih]
  | nest _ _ inside after =>
    have opens : step '(' depth .outside = some (depth + 1, .outside) := rfl
    have closes : step ')' (depth + 1) .outside = some (depth, .outside) := rfl
    rw [through_cons opens, through_append (inside (depth + 1)), through_cons closes, after]

/-! ## What is passed over is balanced -/

def Closes : Nat → List Char → Prop
  | 0, cs => Balanced cs
  | depth + 1, cs => ∃ inner rest, cs = inner ++ ')' :: rest ∧ Balanced inner ∧ Closes depth rest

def Completes (depth : Nat) : Quoting → List Char → Prop
  | .outside, cs => Closes depth cs
  | .inside quote, cs =>
    ∃ body rest, cs = body ++ quote :: rest ∧ Quoted quote body ∧ Closes depth rest
  | .escaped quote, cs =>
    ∃ c body rest, cs = c :: (body ++ quote :: rest) ∧ Quoted quote body ∧ Closes depth rest

theorem Closes.append (longer : ∀ {cs}, Balanced cs → Balanced (front ++ cs)) (closes : Closes depth cs) :
    Closes depth (front ++ cs) := by
  cases depth with
  | zero => exact longer closes
  | succ depth =>
    obtain ⟨inner, rest, rfl, balanced, closes⟩ := closes
    exact ⟨front ++ inner, rest, (List.append_assoc ..).symm, longer balanced, closes⟩

theorem Completes.cons_outside (one : step c depth .outside = some (depth', state'))
    (later : Completes depth' state' cs) : Closes depth (c :: cs) := by
  unfold step at one
  split at one
  · next here =>
    obtain ⟨-, rfl⟩ := here
    split at one
    · cases one
    · next some =>
      obtain ⟨depth, rfl⟩ := Nat.exists_eq_add_one_of_ne_zero some
      cases one
      exact ⟨[], cs, rfl, .nil, later⟩
  next notClosed =>
  split at one
  · next here =>
    obtain ⟨-, rfl⟩ := here
    cases one
    obtain ⟨inner, rest, rfl, balanced, closes⟩ := later
    have longer {cs} (after : Balanced cs) : Balanced ('(' :: (inner ++ [')']) ++ cs) := by
      simpa using Balanced.nest balanced after
    simpa using closes.append longer
  next notOpened =>
  rw [Quoting.after] at one
  split at one
  · next quotes =>
    cases one
    obtain ⟨body, rest, rfl, quoted, closes⟩ := later
    have longer {cs} (after : Balanced cs) : Balanced (c :: (body ++ [c]) ++ cs) := by
      simpa using Balanced.quoted quotes quoted after
    simpa using closes.append longer
  · next plain =>
    cases one
    have neutral : isNeutral c = true := by simp_all [isNeutral]
    have longer {cs} (after : Balanced cs) : Balanced ([c] ++ cs) := .plain neutral after
    exact Closes.append longer later

theorem Completes.cons_inside (one : step c depth (.inside quote) = some (depth', state'))
    (later : Completes depth' state' cs) : Completes depth (.inside quote) (c :: cs) := by
  rw [step_of_quoting (by simp), Quoting.after] at one
  split at one
  · next escape =>
    cases one
    obtain ⟨d, body, rest, rfl, quoted, closes⟩ := later
    exact ⟨'\\' :: d :: body, rest, by rw [escape]; rfl, .escaped quoted, closes⟩
  next escape =>
  split at one
  · next ends =>
    cases one
    exact ⟨[], cs, by rw [ends]; rfl, .nil, later⟩
  · next other =>
    cases one
    obtain ⟨body, rest, rfl, quoted, closes⟩ := later
    exact ⟨c :: body, rest, rfl, .plain escape other quoted, closes⟩

theorem completes_of_through (passed : through depth state cs = some (0, .outside)) :
    Completes depth state cs := by
  -- For every state of the scanner this says what is left of the text.
  induction cs generalizing depth state with
  | nil =>
    cases passed
    exact .nil
  | cons c cs ih =>
    rw [through] at passed
    obtain ⟨⟨middle, between⟩, one, two⟩ := Option.bind_eq_some_iff.1 passed
    have later := ih two
    cases state with
    | outside => exact later.cons_outside one
    | inside quote => exact later.cons_inside one
    | escaped quote =>
      rw [step_of_quoting (by simp)] at one
      cases one
      obtain ⟨body, rest, rfl, quoted, closes⟩ := later
      exact ⟨c, body, rest, rfl, quoted, closes⟩

theorem balanced_iff_through : Balanced cs ↔ through 0 .outside cs = some (0, .outside) :=
  ⟨fun balanced => balanced.through 0, completes_of_through⟩

/-! ## The closing parenthesis -/

theorem through_of_closing? (found : closing? depth state cs = some (h, rest)) :
    through depth state h = some (0, .outside) := by
  induction cs generalizing depth state h with
  | nil => cases found
  | cons c cs ih =>
    cases one : step c depth state with
    | some next =>
      rw [closing?_cons one, begunWith_eq_some_iff] at found
      obtain ⟨t, later, rfl⟩ := found
      rw [through_cons one, ih later]
    | none =>
      -- The scanner stops only at a closing parenthesis that none is open for.
      unfold step at one
      split at one
      · next here =>
        obtain ⟨rfl, rfl⟩ := here
        split at one
        · next zero =>
          subst zero
          cases found
          rfl
        · cases one
      · split at one <;> cases one

/-- The parenthesis that is found is the first one outside quotes with a balanced text before it. -/
theorem closing?_eq_some_iff :
    closing? 0 .outside cs = some (h, rest) ↔ cs = h ++ ')' :: rest ∧ Balanced h := by
  rw [balanced_iff_through]
  constructor
  · exact fun found => ⟨closing?_eq_append found, through_of_closing? found⟩
  · rintro ⟨rfl, passed⟩
    exact closing?_of_through passed

end Stencil.Text
