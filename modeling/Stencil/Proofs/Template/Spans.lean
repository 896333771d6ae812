import Mathlib
import Stencil.Proofs.Directive.Markers
import Stencil.Proofs.Program.Cutting

/-!
# Marked paths side by side

Both kinds of marks begin and end with a percent sign, and the pass over printed paths runs first. So
the percent sign that ends a shown path can open a printed one. It does so if a path stands between it
and the next marks, and only then does a text of marked paths come out in another way than path by
path (`expand_spans_iff`).
-/

namespace Stencil
open Text

inductive Span where
  | plain (cs : List Char) (unmarked : '%' ∉ cs)
  | print (path : List Char) (named : VariablePath.isPath path = true)
  | dump (path : List Char) (named : VariablePath.isPath path = true)

namespace Span

def source : Span → List Char
  | plain cs _ => cs
  | print path _ => '%' :: (path ++ ['%'])
  | dump path _ => '%' :: '!' :: (path ++ ['!', '%'])

def tag (keyword path : List Char) : List Char :=
  "<?tpl ".toList ++ keyword ++ " $".toList ++ path ++ " ?>".toList

def fragment : Span → List Char
  | plain cs _ => cs
  | print path _ => tag "print".toList path
  | dump path _ => tag "dump".toList path

def half : Span → List Char
  | dump path named => source (dump path named)
  | s => s.fragment

def gap : List Span → Option (List Char)
  | [] => none
  | plain cs _ :: spans => (gap spans).map (cs ++ ·)
  | _ :: _ => some []

/-- Between a shown path and the marks that come next stands a text that is a path. -/
def Clash (spans : List Span) : Prop :=
  ∃ before path named after between, spans = before ++ dump path named :: after ∧
    gap after = some between ∧ VariablePath.isPath between = true

variable {cs path rest : List Char} {s : Span} {spans : List Span}

theorem clash_cons : Clash (s :: spans) ↔
    (∃ path named between, s = dump path named ∧ gap spans = some between ∧
      VariablePath.isPath between = true) ∨ Clash spans := by
  constructor
  · rintro ⟨before, path, named, after, between, whole, apart, inside⟩
    cases before with
    | nil =>
      cases whole
      exact .inl ⟨path, named, between, rfl, apart, inside⟩
    | cons t before =>
      cases whole
      exact .inr ⟨before, path, named, after, between, rfl, apart, inside⟩
  · rintro (⟨path, named, between, rfl, apart, inside⟩ | ⟨before, path, named, after, between, rfl, h⟩)
    · exact ⟨[], path, named, spans, between, rfl, apart, inside⟩
    · exact ⟨s :: before, path, named, after, between, rfl, h⟩

/-! ## Tags -/

theorem headed_path {keyword : List Char} (word : isName keyword = true)
    (named : VariablePath.isPath path = true) :
    Fragment.headed keyword ('$' :: path) = tag keyword path := by
  have whole : Fragment.headed keyword ('$' :: path) ++ [] = _ := Fragment.headed_eq word
  rw [List.append_nil, (Marker.trimmed_path named).trim_eq] at whole
  rw [whole]
  unfold tag
  simp [Fragment.openTag, Fragment.after]

theorem compile_print (named : VariablePath.isPath path = true) :
    Marker.print.compile path = fragment (print path named) :=
  headed_path rfl named

theorem compile_dump (named : VariablePath.isPath path = true) :
    Marker.dump.compile path = fragment (dump path named) :=
  headed_path rfl named

theorem mark_not_mem_path (named : VariablePath.isPath path = true) : '%' ∉ path := by
  intro mem
  cases VariablePath.isPathChar_of_isPath named _ mem

theorem takeWhile_unmarked (unmarked : '%' ∉ cs) (rest : List Char) :
    (cs ++ '%' :: rest).takeWhile (· ≠ '%') = cs := by
  have others : ∀ c ∈ cs, decide (c ≠ '%') = true := by
    rintro c mem
    simp only [ne_eq, decide_not, Bool.not_eq_true', decide_eq_false_iff_not]
    rintro rfl
    exact unmarked mem
  rw [List.takeWhile_append_of_pos others]
  simp

theorem dropWhile_path (named : VariablePath.isPath path = true) (rest : List Char) :
    (path ++ '!' :: rest).dropWhile Marker.isPathChar = '!' :: rest := by
  rw [List.dropWhile_append_of_pos (VariablePath.isPathChar_of_isPath named)]
  rfl

theorem mark_not_mem_tag {keyword : List Char} (silent : '%' ∉ keyword)
    (named : VariablePath.isPath path = true) : '%' ∉ tag keyword path := by
  unfold tag
  simp only [List.mem_append, not_or]
  exact ⟨⟨⟨⟨by decide, silent⟩, by decide⟩, mark_not_mem_path named⟩, by decide⟩

theorem mark_not_mem_fragment (s : Span) : '%' ∉ s.fragment := by
  cases s with
  | plain cs unmarked => exact unmarked
  | print path named => exact mark_not_mem_tag (by decide) named
  | dump path named => exact mark_not_mem_tag (by decide) named

/-! ## The pass over printed paths -/

theorem gap_eq_some (h : gap spans = some cs) :
    '%' ∉ cs ∧ ∃ rest, spans.flatMap source = cs ++ '%' :: rest := by
  induction spans generalizing cs with
  | nil => cases h
  | cons s spans ih =>
    cases s with
    | plain ds unmarked =>
      rw [gap, Option.map_eq_some_iff] at h
      obtain ⟨es, apart, rfl⟩ := h
      obtain ⟨absent, rest, follow⟩ := ih apart
      refine ⟨by simp [unmarked, absent], rest, ?_⟩
      simp [source, follow]
    | print path named | dump path named =>
      cases h
      exact ⟨List.not_mem_nil, _, rfl⟩

theorem gap_eq_none (h : gap spans = none) : '%' ∉ spans.flatMap source := by
  induction spans with
  | nil => exact List.not_mem_nil
  | cons s spans ih =>
    cases s with
    | plain cs unmarked =>
      rw [gap, Option.map_eq_none_iff] at h
      simp only [List.flatMap_cons, source, List.mem_append, not_or]
      exact ⟨unmarked, ih h⟩
    | print path named | dump path named => cases h

theorem occurrence?_spans : Marker.print.occurrence? ('%' :: spans.flatMap source) = some (path, rest) ↔
    gap spans = some path ∧ spans.flatMap source = path ++ '%' :: rest ∧
      VariablePath.isPath path = true := by
  rw [Marker.occurrence?_eq_some_iff Marker.tame_print]
  constructor
  · rintro ⟨whole, named⟩
    have same : spans.flatMap source = path ++ '%' :: rest := (List.cons.inj whole).2
    refine ⟨?_, same, named⟩
    cases apart : gap spans with
    | none =>
      have absent := gap_eq_none apart
      rw [same] at absent
      simp at absent
    | some between =>
      obtain ⟨unmarked, more, follow⟩ := gap_eq_some apart
      rw [follow] at same
      have first := congrArg (List.takeWhile (· ≠ '%')) same
      rw [takeWhile_unmarked unmarked, takeWhile_unmarked (mark_not_mem_path named)] at first
      rw [first]
  · rintro ⟨-, whole, named⟩
    rw [whole]
    exact ⟨rfl, named⟩

theorem expand_plain (m : Marker) (tame : m.Tame) (unmarked : '%' ∉ cs) :
    m.expand (source (plain cs unmarked) ++ rest) = cs ++ m.expand rest :=
  Marker.expand_append tame unmarked

theorem expand_print (named : VariablePath.isPath path = true) :
    Marker.print.expand (source (print path named) ++ rest) =
      fragment (print path named) ++ Marker.print.expand rest := by
  have found : Marker.print.occurrence? ('%' :: (path ++ '%' :: rest)) = some (path, rest) :=
    (Marker.occurrence?_eq_some_iff Marker.tame_print).2 ⟨rfl, named⟩
  rw [source, List.cons_append, List.append_assoc, List.singleton_append,
    Marker.expand_of_occurrence found, compile_print]

theorem expand_print_dump (named : VariablePath.isPath path = true) :
    Marker.print.expand (source (dump path named) ++ rest) =
      '%' :: '!' :: (path ++ '!' :: Marker.print.expand ('%' :: rest)) := by
  have absent : Marker.print.occurrence? ('%' :: '!' :: (path ++ '!' :: '%' :: rest)) = none := by
    refine Option.eq_none_iff_forall_ne_some.2 fun ⟨other, more⟩ found => ?_
    obtain ⟨whole, inside⟩ := (Marker.occurrence?_eq_some_iff Marker.tame_print).1 found
    cases other with
    | nil => cases inside
    | cons c other =>
      obtain rfl : '!' = c := (List.cons.inj (List.cons.inj whole).2).1
      cases VariablePath.isPathChar_of_isPath inside '!' (List.mem_cons_self ..)
  have unmarked : '%' ∉ '!' :: (path ++ ['!']) := by simp [mark_not_mem_path named]
  have passed : Marker.print.expand ('!' :: (path ++ ['!']) ++ '%' :: rest) =
      '!' :: (path ++ ['!']) ++ Marker.print.expand ('%' :: rest) :=
    Marker.expand_append Marker.tame_print unmarked
  simp only [List.cons_append, List.append_assoc, List.nil_append] at passed
  simp only [source, List.cons_append, List.append_assoc, List.nil_append]
  rw [Marker.expand_of_none absent, passed]

/-! ## The pass over shown paths -/

theorem expand_dump (named : VariablePath.isPath path = true) :
    Marker.dump.expand (source (dump path named) ++ rest) =
      fragment (dump path named) ++ Marker.dump.expand rest := by
  have found : Marker.dump.occurrence? ('%' :: '!' :: (path ++ '!' :: '%' :: rest)) = some (path, rest) :=
    (Marker.occurrence?_eq_some_iff Marker.tame_dump).2 ⟨rfl, named⟩
  simp only [source, List.cons_append, List.append_assoc, List.nil_append]
  rw [Marker.expand_of_occurrence found, compile_dump]

theorem expand_half (s : Span) (rest : List Char) :
    Marker.dump.expand (s.half ++ rest) = s.fragment ++ Marker.dump.expand rest := by
  cases s with
  | plain cs unmarked => exact expand_plain _ Marker.tame_dump unmarked
  | print path named =>
    exact Marker.expand_append Marker.tame_dump (mark_not_mem_fragment (print path named))
  | dump path named => exact expand_dump named

theorem mem_expand_dump (named : VariablePath.isPath path = true) :
    '%' ∈ Marker.dump.expand ('%' :: '!' :: (path ++ '!' :: '<' :: rest)) := by
  have absent : Marker.dump.occurrence? ('%' :: '!' :: (path ++ '!' :: '<' :: rest)) = none := by
    refine Option.eq_none_iff_forall_ne_some.2 fun ⟨other, more⟩ found => ?_
    obtain ⟨whole, inside⟩ := (Marker.occurrence?_eq_some_iff Marker.tame_dump).1 found
    have same : path ++ '!' :: '<' :: rest = other ++ '!' :: '%' :: more :=
      (List.cons.inj (List.cons.inj whole).2).2
    have after := congrArg (List.dropWhile Marker.isPathChar) same
    rw [dropWhile_path named, dropWhile_path inside] at after
    cases after
  rw [Marker.expand_of_none absent]
  exact List.mem_cons_self ..

end Span
open Stencil.Span

/-! ## Both passes -/

theorem expand_spans_of_not_clash {spans : List Span} (apart : ¬Clash spans) :
    Marker.print.expand (spans.flatMap source) = spans.flatMap half := by
  induction spans with
  | nil => exact Marker.expand_nil
  | cons s spans ih =>
    rw [clash_cons, not_or] at apart
    have tail := ih apart.2
    rw [List.flatMap_cons, List.flatMap_cons, ← tail]
    cases s with
    | plain cs unmarked => exact expand_plain _ Marker.tame_print unmarked
    | print path named => exact Span.expand_print named
    | dump path named =>
      have absent : Marker.print.occurrence? ('%' :: spans.flatMap source) = none := by
        refine Option.eq_none_iff_forall_ne_some.2 fun ⟨between, rest⟩ found => ?_
        obtain ⟨between_eq, -, inside⟩ := occurrence?_spans.1 found
        exact apart.1 ⟨path, named, between, rfl, between_eq, inside⟩
      rw [expand_print_dump, Marker.expand_of_none absent]
      simp [half, source]

theorem mem_expand_spans {spans : List Span} (clash : Clash spans) :
    '%' ∈ Marker.dump.expand (Marker.print.expand (spans.flatMap source)) := by
  induction spans with
  | nil =>
    obtain ⟨before, path, named, after, between, whole, -⟩ := clash
    simp at whole
  | cons s spans ih =>
    rw [List.flatMap_cons]
    cases s with
    | plain cs unmarked =>
      obtain ⟨path, named, between, other, -⟩ | later := clash_cons.1 clash
      · cases other
      · rw [expand_plain _ Marker.tame_print, Marker.expand_append Marker.tame_dump unmarked]
        exact List.mem_append_right _ (ih later)
    | print path named =>
      obtain ⟨path, named, between, other, -⟩ | later := clash_cons.1 clash
      · cases other
      · rw [Span.expand_print, Marker.expand_append Marker.tame_dump (mark_not_mem_fragment _)]
        exact List.mem_append_right _ (ih later)
    | dump path named =>
      rw [expand_print_dump]
      -- The percent sign that ends the shown path is taken by a printed one, or it is not.
      cases found : Marker.print.occurrence? ('%' :: spans.flatMap source) with
      | some occurrence =>
        obtain ⟨between, rest⟩ := occurrence
        obtain ⟨-, -, inside⟩ := occurrence?_spans.1 found
        rw [Marker.expand_of_occurrence found]
        exact mem_expand_dump named
      | none =>
        obtain ⟨_, _, between, -, apart, inside⟩ | later := clash_cons.1 clash
        · obtain ⟨-, rest, follow⟩ := gap_eq_some apart
          rw [occurrence?_spans.2 ⟨apart, follow, inside⟩] at found
          cases found
        · rw [Marker.expand_of_none found]
          have shown : Marker.dump.expand (source (dump path named) ++
              Marker.print.expand (spans.flatMap source)) = _ := expand_dump named
          simp only [source, List.cons_append, List.append_assoc, List.nil_append] at shown
          rw [shown]
          exact List.mem_append_right _ (ih later)

/-- Marked paths come out one by one exactly if none clashes with the marks after it. -/
theorem expand_spans_iff (spans : List Span) :
    Marker.dump.expand (Marker.print.expand (spans.flatMap source)) = spans.flatMap fragment ↔
      ¬Clash spans := by
  constructor
  · intro same clash
    have left := mem_expand_spans clash
    rw [same, List.mem_flatMap] at left
    obtain ⟨s, -, mem⟩ := left
    exact mark_not_mem_fragment s mem
  · intro apart
    rw [expand_spans_of_not_clash apart]
    clear apart
    induction spans with
    | nil => exact Marker.expand_nil
    | cons s spans ih => rw [List.flatMap_cons, List.flatMap_cons, expand_half, ih]

def besides : List Span :=
  [.dump ['a'] rfl, .plain ['x'] (by decide), .print ['b'] rfl]

theorem expand_besides :
    besides.flatMap source = "%!a!%x%b%".toList ∧
      Marker.dump.expand (Marker.print.expand (besides.flatMap source)) =
        "%!a!<?tpl print $x ?>b%".toList ∧
      Marker.dump.expand (Marker.print.expand (besides.flatMap source)) ≠ besides.flatMap fragment := by
  have passed : Marker.dump.expand (Marker.print.expand (besides.flatMap source)) =
      "%!a!<?tpl print $x ?>b%".toList := by cbv
  refine ⟨by decide, passed, ?_⟩
  rw [passed]
  decide

end Stencil
