import Stencil.Proofs.InPlace.Expanding

/-!
# Where a directive occurs

A text splits in one way into gaps and closed occurrences of a directive, from left to right, and expansion
keeps the gaps and puts a fragment in place of each occurrence (`expand_splits`). A sign that is never closed
is part of a gap, and occurrences inside it count.
-/

namespace Stencil.Directive
open Text

def Unclosed (d : Directive) (cs : List Char) : Prop :=
  ∀ mark inner, cs = mark ++ inner → d.Triggers mark inner →
    d.takesArgument = true ∧ ∀ h tail, inner = h ++ ')' :: tail → ¬Balanced h

/-- No sign that starts inside the gap, before the rest of the text, has a balanced close. -/
def Barren (d : Directive) (gap rest : List Char) : Prop :=
  ∀ front back, gap = front ++ back → back ≠ [] → d.Unclosed (back ++ rest)

structure Found where
  gap : List Char
  occurrence : List Char
  argument : List Char

/-- The text is the gaps and the occurrences, one after the other, and then the last gap. -/
inductive Splits (d : Directive) : List Char → List Found → List Char → Prop
  | last {gap} : d.Barren gap [] → Splits d gap [] gap
  | next {gap occurrence argument rest pieces last} : d.Barren gap (occurrence ++ rest) →
      d.Occurs occurrence argument rest → Splits d rest pieces last →
      Splits d (gap ++ occurrence ++ rest) (⟨gap, occurrence, argument⟩ :: pieces) last

def written (d : Directive) (pieces : List Found) (last : List Char) : List Char :=
  pieces.flatMap (fun piece => piece.gap ++ d.compile piece.argument) ++ last

variable {d : Directive} {cs gap h rest inner last other : List Char} {pieces more : List Found} {c : Char}

/-! ## Gaps -/

theorem unclosed_iff : d.Unclosed cs ↔ d.occurrence? cs = none := by
  constructor
  · intro unclosed
    refine Option.eq_none_iff_forall_ne_some.2 fun (h, tail) found => ?_
    obtain ⟨occurrence, rfl, occurs⟩ := occurrence?_eq_some_iff.1 found
    cases occurs with
    | argument _ triggers balanced => exact (unclosed _ _ (by simp) triggers).2 _ _ rfl balanced
    | bare bare triggers =>
      have takes := (unclosed _ _ rfl triggers).1
      rw [bare] at takes
      cases takes
  · rintro absent mark inner rfl triggers
    have none (occurrence h tail : List Char) (same : mark ++ inner = occurrence ++ tail) :
        ¬d.Occurs occurrence h tail := by
      intro occurs
      rw [occurrence?_eq_some_iff.2 ⟨occurrence, same, occurs⟩] at absent
      cases absent
    have takes : d.takesArgument = true := by
      by_contra bare
      exact none mark [] inner rfl (.bare (Bool.eq_false_iff.2 bare) triggers)
    refine ⟨takes, ?_⟩
    rintro h tail rfl balanced
    exact none _ h tail (by simp) (.argument takes triggers balanced)

theorem barren_nil : d.Barren [] rest :=
  fun _ _ split some => absurd (List.append_eq_nil_iff.1 split.symm).2 some

theorem Barren.cons (absent : d.occurrence? (c :: (gap ++ rest)) = none) (barren : d.Barren gap rest) :
    d.Barren (c :: gap) rest := by
  intro front back split some
  cases front with
  | nil =>
    obtain rfl : c :: gap = back := split
    exact unclosed_iff.2 absent
  | cons _ front =>
    obtain ⟨-, split⟩ := List.cons.inj split
    exact barren front back split some

/-! ## Every text splits -/

theorem Occurs.ne_nil {occurrence argument : List Char} (occurs : d.Occurs occurrence argument rest) :
    occurrence ≠ [] := by
  rintro rfl
  exact Nat.lt_irrefl _ (occurrence?_shorter (occurrence?_eq_some_iff.2 ⟨[], rfl, occurs⟩))

theorem Splits.cons (absent : d.occurrence? (c :: cs) = none) (splits : d.Splits cs pieces last) :
    ∃ more final, d.Splits (c :: cs) more final ∧
      d.written more final = c :: d.written pieces last := by
  cases splits with
  | last barren =>
    refine ⟨[], c :: cs, .last (barren.cons ?_), rfl⟩
    rwa [List.append_nil]
  | @next gap occurrence argument rest pieces _ barren occurs splits =>
    refine ⟨⟨c :: gap, occurrence, argument⟩ :: pieces, last, ?_, by simp [written]⟩
    rw [← List.cons_append, ← List.cons_append]
    exact .next (barren.cons (by rwa [← List.append_assoc])) occurs splits

theorem exists_splits (d : Directive) (cs : List Char) :
    ∃ pieces last, d.Splits cs pieces last ∧ d.expand cs = d.written pieces last := by
  induction cs using Directive.expand.induct d with
  | case1 => exact ⟨[], [], .last barren_nil, expand_nil⟩
  | case2 c cs argument rest found ih =>
    obtain ⟨pieces, last, splits, same⟩ := ih
    obtain ⟨occurrence, whole, occurs⟩ := occurrence?_eq_some_iff.1 found
    refine ⟨⟨[], occurrence, argument⟩ :: pieces, last, ?_, ?_⟩
    · rw [whole]
      exact .next barren_nil occurs splits
    · rw [expand_of_occurrence found, same]
      simp [written]
  | case3 c cs absent ih =>
    obtain ⟨pieces, last, splits, same⟩ := ih
    obtain ⟨more, final, longer, writes⟩ := splits.cons absent
    exact ⟨more, final, longer, by rw [expand_of_none absent, same, writes]⟩

/-! ## In one way -/

theorem Barren.eq_nil {front back occurrence argument : List Char}
    (barren : d.Barren (front ++ back) rest) (same : back ++ rest = occurrence ++ other)
    (occurs : d.Occurs occurrence argument other) : back = [] := by
  by_contra some
  have absent := unclosed_iff.1 (barren front back rfl some)
  rw [occurrence?_eq_some_iff.2 ⟨occurrence, same, occurs⟩] at absent
  cases absent

theorem Occurs.first {gap' one two argument argument' rest' : List Char}
    (barren : d.Barren gap (one ++ rest)) (occurs : d.Occurs one argument rest)
    (barren' : d.Barren gap' (two ++ rest')) (occurs' : d.Occurs two argument' rest')
    (same : gap ++ (one ++ rest) = gap' ++ (two ++ rest')) :
    gap = gap' ∧ one = two ∧ argument = argument' ∧ rest = rest' := by
  obtain rfl : gap = gap' := by
    rcases List.append_eq_append_iff.1 same with ⟨more, rfl, after⟩ | ⟨more, rfl, after⟩
    · rw [barren'.eq_nil after.symm occurs, List.append_nil]
    · rw [barren.eq_nil after.symm occurs', List.append_nil]
  have after := List.append_cancel_left same
  have found := occurrence?_eq_some_iff.2 ⟨one, rfl, occurs⟩
  rw [occurrence?_eq_some_iff.2 ⟨two, after, occurs'⟩] at found
  cases found
  exact ⟨rfl, List.append_cancel_right after, rfl, rfl⟩

theorem Occurs.not_barren {occurrence argument : List Char}
    (occurs : d.Occurs occurrence argument rest) : ¬d.Barren (gap ++ (occurrence ++ rest)) [] := by
  intro barren
  have none := barren.eq_nil (List.append_nil _) occurs
  exact occurs.ne_nil (List.append_eq_nil_iff.1 none).1

theorem Splits.unique {final : List Char} (one : d.Splits cs pieces last)
    (two : d.Splits cs more final) :
    pieces = more ∧ last = final := by
  induction one generalizing more final with
  | last barren =>
    cases two with
    | last _ => exact ⟨rfl, rfl⟩
    | next _ occurs _ =>
      rw [List.append_assoc] at barren
      exact absurd barren occurs.not_barren
  | @next gap occurrence argument rest _ _ barren occurs _ ih =>
    -- Both splits are of one text, but where the parts of the second end is what is to be shown.
    generalize same : gap ++ occurrence ++ rest = text at two
    rw [List.append_assoc] at same
    cases two with
    | last whole =>
      rw [← same] at whole
      exact absurd whole occurs.not_barren
    | next barren' occurs' splits =>
      rw [List.append_assoc] at same
      obtain ⟨rfl, rfl, rfl, rfl⟩ := Occurs.first barren occurs barren' occurs' same
      obtain ⟨rfl, rfl⟩ := ih splits
      exact ⟨rfl, rfl⟩

/-- A text is in one way gaps and closed occurrences of the directive, one after the other, where no closed
occurrence starts inside a gap. Expansion keeps the gaps and puts the fragment of the argument in place of
each occurrence, and so does the loop that copies and searches, after a round for each character at most.
Where nothing occurs, the text stays as it is. -/
theorem expand_splits (d : Directive) (text : List Char) :
    (∃ pieces last, d.Splits text pieces last ∧
      (∀ more final, d.Splits text more final → more = pieces ∧ final = last) ∧
      d.expand text = d.written pieces last ∧
      ∀ rounds, text.length < rounds →
        d.expandFrom text [] 0 0 rounds = pure (d.written pieces last)) ∧
    ((∀ front occurrence argument rest, text = front ++ occurrence ++ rest →
        ¬d.Occurs occurrence argument rest) → d.expand text = text) := by
  obtain ⟨pieces, last, splits, same⟩ := d.exists_splits text
  refine ⟨⟨pieces, last, splits, fun more final other => other.unique splits, same, fun rounds enough => ?_⟩,
    fun none => ?_⟩
  · rw [← same]
    exact expandFrom_eq text [] [] [] enough
  · cases splits with
    | last _ => exact same
    | next _ occurs _ => exact absurd occurs (none _ _ _ _ rfl)

def bracketing : Directive :=
  ⟨"d", true, fun h => '<' :: (h ++ ['>'])⟩

/-- An occurrence, with a parenthesis in quotes, inside a sign that is never closed, and another such sign
after it. Without the occurrence nothing happens. -/
theorem expand_splits_unclosed :
    let text := "@d(x @d (')') @d(".toList
    let pieces : List Found := [⟨"@d(x ".toList, "@d (')')".toList, "')'".toList⟩]
    bracketing.Splits text pieces " @d(".toList ∧
      (∀ more final, bracketing.Splits text more final → more = pieces ∧ final = " @d(".toList) ∧
      bracketing.expand text = "@d(x <')'> @d(".toList ∧
      bracketing.expandFrom text [] 0 0 18 = pure "@d(x <')'> @d(".toList ∧
      bracketing.expand " @d(".toList = " @d(".toList := by
  intro text pieces
  have last : bracketing.Barren " @d(".toList [] :=
    .cons rfl (.cons rfl (.cons rfl (.cons rfl barren_nil)))
  have gap : bracketing.Barren "@d(x ".toList ("@d (')')".toList ++ " @d(".toList) :=
    .cons rfl (.cons rfl (.cons rfl (.cons rfl (.cons rfl barren_nil))))
  have quoted : Balanced ('\'' :: ([')'] ++ '\'' :: [])) :=
    .quoted rfl (.plain (by decide) (by decide) .nil) .nil
  have sign (rest : List Char) : bracketing.Triggers (bracketing.sign ++ [' '] ++ ['(']) rest :=
    .argument rfl allBlank_space
  have splits : bracketing.Splits text pieces " @d(".toList :=
    .next gap (.argument rfl (sign _) quoted) (.last last)
  obtain ⟨⟨found, final, -, only, same, loop⟩, -⟩ := expand_splits bracketing text
  obtain ⟨rfl, rfl⟩ := only _ _ splits
  refine ⟨splits, only, same, loop 18 (by decide), ?_⟩
  refine (expand_splits bracketing " @d(".toList).2 fun front occurrence argument rest whole occurs => ?_
  rw [whole, List.append_assoc] at last
  exact occurs.not_barren last

end Stencil.Directive
