/-!
Where a place in a text stands with respect to the quotes before it. Inside quotes a backslash takes
the meaning from the next character.
-/

namespace Stencil.Text

inductive Quoting where
  | outside
  | inside (quote : Char)
  | escaped (quote : Char)
  deriving DecidableEq, Repr

def isQuote (c : Char) : Bool :=
  c == '\'' || c == '"'

namespace Quoting

def after (c : Char) : Quoting → Quoting
  | outside => if isQuote c then inside c else outside
  | inside quote =>
    if c = '\\' then escaped quote else if c = quote then outside else inside quote
  | escaped quote => inside quote

end Quoting

def begunWith (c : Char) (parts : Option (List Char × List Char)) : Option (List Char × List Char) :=
  parts.map fun (s, rest) => (c :: s, rest)

theorem begunWith_eq_some_iff {c : Char} {parts : Option (List Char × List Char)}
    {s rest : List Char} :
    begunWith c parts = some (s, rest) ↔ ∃ t, parts = some (t, rest) ∧ c :: t = s := by
  unfold begunWith
  cases parts <;> simp
  grind

/-- What stands before and after the parenthesis that closes the current one, when `depth` more are
open inside it. Parentheses inside quotes do not count. -/
def closing? (depth : Nat) (state : Quoting) : List Char → Option (List Char × List Char)
  | [] => none
  | c :: cs =>
    if state = .outside ∧ c = ')' then
      match depth with
      | 0 => some ([], cs)
      | depth + 1 => begunWith c (closing? depth .outside cs)
    else if state = .outside ∧ c = '(' then begunWith c (closing? (depth + 1) .outside cs)
    else begunWith c (closing? depth (state.after c) cs)

/-- What stands before and after the first `?>` outside quotes. -/
def closeTag? (state : Quoting) : List Char → Option (List Char × List Char)
  | [] => none
  | c :: cs =>
    if state = .outside ∧ c = '?' ∧ cs.head? = some '>' then some ([], cs.tail)
    else begunWith c (closeTag? (state.after c) cs)

theorem closing?_eq_append {depth : Nat} {state : Quoting} {cs s rest : List Char}
    (h : closing? depth state cs = some (s, rest)) : cs = s ++ ')' :: rest := by
  fun_induction closing? depth state cs generalizing s rest with
  | case1 => simp at h
  | case2 state c cs here => simp_all
  | case3 _ _ _ _ _ ih =>
    obtain ⟨t, found, rfl⟩ := begunWith_eq_some_iff.1 h
    rw [ih found, List.cons_append]
  | case4 _ _ _ _ _ _ ih =>
    obtain ⟨t, found, rfl⟩ := begunWith_eq_some_iff.1 h
    rw [ih found, List.cons_append]
  | case5 _ _ _ _ _ _ ih =>
    obtain ⟨t, found, rfl⟩ := begunWith_eq_some_iff.1 h
    rw [ih found, List.cons_append]

theorem closeTag?_eq_append {state : Quoting} {cs s rest : List Char}
    (h : closeTag? state cs = some (s, rest)) : cs = s ++ '?' :: '>' :: rest := by
  fun_induction closeTag? state cs generalizing s rest with
  | case1 => simp at h
  | case2 state c cs here =>
    obtain ⟨next, tail, rfl⟩ : ∃ next tail, cs = next :: tail := by
      cases cs with
      | nil => simp at here
      | cons next tail => exact ⟨next, tail, rfl⟩
    simp_all
  | case3 state c cs other ih =>
    obtain ⟨t, found, rfl⟩ := begunWith_eq_some_iff.1 h
    rw [ih found, List.cons_append]

end Stencil.Text
