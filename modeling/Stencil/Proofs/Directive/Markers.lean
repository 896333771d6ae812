import Stencil.Proofs.Directive.Builtins
import Stencil.Template

namespace Stencil

namespace Marker

/-- What the passes rely on in a pair of marks: they open with a percent sign, and no path goes on where
they close. -/
structure Tame (m : Marker) : Prop where
  opens : ∃ more, m.opening = '%' :: more
  closes : ∃ c more, m.closing = c :: more ∧ isPathChar c = false

theorem tame_print : print.Tame :=
  ⟨⟨_, rfl⟩, _, _, rfl, rfl⟩

theorem tame_dump : dump.Tame :=
  ⟨⟨_, rfl⟩, _, _, rfl, rfl⟩

variable {m : Marker} {c : Char} {cs path rest : List Char}

theorem occurrence?_eq_some_iff (tame : m.Tame) :
    m.occurrence? cs = some (path, rest) ↔
      cs = m.opening ++ (path ++ (m.closing ++ rest)) ∧ VariablePath.isPath path = true := by
  unfold occurrence?
  simp only [Option.bind_eq_bind, Option.bind_eq_some_iff, Text.isPrefixOf?_eq_some_iff]
  constructor
  · rintro ⟨inner, rfl, after, closed, found⟩
    split at found
    · next named =>
      cases found
      rw [← closed, List.takeWhile_append_dropWhile]
      exact ⟨rfl, named⟩
    · cases found
  · rintro ⟨rfl, named⟩
    have chars := VariablePath.isPathChar_of_isPath named
    obtain ⟨c, more, closing, stops⟩ := tame.closes
    have before : (path ++ (m.closing ++ rest)).takeWhile isPathChar = path := by
      rw [List.takeWhile_append_of_pos chars, closing, List.cons_append, List.takeWhile_cons, stops]
      exact List.append_nil _
    have after : (path ++ (m.closing ++ rest)).dropWhile isPathChar = m.closing ++ rest := by
      rw [List.dropWhile_append_of_pos chars, closing, List.cons_append, List.dropWhile_cons, stops]
      rfl
    refine ⟨_, rfl, rest, after, ?_⟩
    rw [before, if_pos named]

theorem expand_of_occurrence (found : m.occurrence? (c :: cs) = some (path, rest)) :
    m.expand (c :: cs) = m.compile path ++ m.expand rest := by
  rw [expand]
  split
  · next same =>
    rw [found] at same
    cases same
    rfl
  · next none =>
    rw [found] at none
    cases none

theorem expand_of_none (absent : m.occurrence? (c :: cs) = none) :
    m.expand (c :: cs) = c :: m.expand cs := by
  rw [expand]
  split
  · next found =>
    rw [absent] at found
    cases found
  · rfl

theorem expand_nil : m.expand [] = [] := by
  rw [expand]

theorem occurrence?_eq_none_of_ne (tame : m.Tame) (other : c ≠ '%') :
    m.occurrence? (c :: cs) = none := by
  refine Option.eq_none_iff_forall_ne_some.2 fun ⟨path, rest⟩ found => other ?_
  obtain ⟨more, opening⟩ := tame.opens
  obtain ⟨whole, -⟩ := (occurrence?_eq_some_iff tame).1 found
  rw [opening, List.cons_append] at whole
  exact (List.cons.inj whole).1

theorem expand_append (tame : m.Tame) (unmarked : '%' ∉ cs) :
    m.expand (cs ++ rest) = cs ++ m.expand rest := by
  induction cs with
  | nil => rfl
  | cons c cs ih =>
    rw [List.mem_cons, not_or] at unmarked
    have absent : m.occurrence? (c :: (cs ++ rest)) = none :=
      occurrence?_eq_none_of_ne tame (Ne.symm unmarked.1)
    rw [List.cons_append, expand_of_none absent, ih unmarked.2, List.cons_append]

theorem expand_unmarked (tame : m.Tame) (unmarked : '%' ∉ cs) : m.expand cs = cs := by
  have whole : m.expand (cs ++ []) = cs ++ m.expand [] := expand_append tame unmarked
  rwa [List.append_nil, expand_nil, List.append_nil] at whole

theorem trimmed_path (named : VariablePath.isPath path = true) : Text.Trimmed ('$' :: path) := by
  have solid : ∀ c ∈ '$' :: path, Text.isBlank c = false := by
    intro c mem
    rcases List.mem_cons.1 mem with rfl | mem
    · rfl
    · have here := VariablePath.isPathChar_of_isPath named c mem
      simp only [isPathChar, Bool.or_eq_true, beq_iff_eq] at here
      rcases here with name | rfl
      · exact Directive.not_isBlank_of_isNameChar name
      · rfl
  exact ⟨fun c mem => solid c (List.mem_of_mem_head? mem),
    fun c mem => solid c (List.mem_of_mem_getLast? mem)⟩

end Marker

namespace Part
open Text

variable {table : DirectiveTable} {parts : List Part}

def Unmarked : Part → Prop
  | plain cs => '%' ∉ cs
  | path _ => True
  | sign _ h => '%' ∉ h

theorem mark_not_mem_sign {d : Directive} (tame : d.Tame) : '%' ∉ d.sign := by
  intro mem
  rcases List.mem_cons.1 mem with other | mem
  · cases other
  · cases isNameChar_of_isName tame.named _ mem

theorem mark_not_mem_source {d : Directive} {h : List Char} (tame : d.Tame) (unmarked : '%' ∉ h) :
    '%' ∉ source (sign d h) := by
  have front := mark_not_mem_sign tame
  rw [source]
  split
  · simp [front, unmarked]
  · exact front

theorem mark_not_mem_print {cs : List Char} (named : VariablePath.isPath cs = true) :
    '%' ∉ Marker.print.compile cs := by
  have unmarked : '%' ∉ '$' :: cs := by
    intro mem
    rcases List.mem_cons.1 mem with other | mem
    · cases other
    · cases VariablePath.isPathChar_of_isPath named _ mem
  exact Fragment.not_mem_headed (by decide) (by decide) unmarked

theorem mark_not_mem_under (tame : ∀ d ∈ table.directives, d.Tame) {p : Part}
    (fits : Fits table.directives p) (unmarked : p.Unmarked) : '%' ∉ p.under [] := by
  cases fits with
  | plain _ _ => exact unmarked
  | path named => exact mark_not_mem_print named
  | argument known _ _ _ | bare known _ => exact mark_not_mem_source (tame _ known) unmarked

theorem expand_print_part (tame : ∀ d ∈ table.directives, d.Tame) {p : Part} {rest : List Char}
    (fits : Fits table.directives p) (unmarked : p.Unmarked) :
    Marker.print.expand (p.source ++ rest) = p.under [] ++ Marker.print.expand rest := by
  have free := mark_not_mem_under tame fits unmarked
  cases fits with
  | plain _ _ => exact Marker.expand_append Marker.tame_print free
  | path named =>
    rw [source, List.cons_append, List.append_assoc]
    exact Marker.expand_of_occurrence ((Marker.occurrence?_eq_some_iff Marker.tame_print).2 ⟨rfl, named⟩)
  | argument _ _ _ _ | bare _ _ => exact Marker.expand_append Marker.tame_print free

theorem expand_print (tame : ∀ d ∈ table.directives, d.Tame)
    (fits : ∀ p ∈ parts, Fits table.directives p) (unmarked : ∀ p ∈ parts, p.Unmarked) :
    Marker.print.expand (parts.flatMap source) = parts.flatMap (under []) := by
  induction parts with
  | nil => exact Marker.expand_nil
  | cons p parts ih =>
    have tail := ih (fun q mem => fits q (List.mem_cons_of_mem _ mem))
      fun q mem => unmarked q (List.mem_cons_of_mem _ mem)
    rw [List.flatMap_cons, List.flatMap_cons, ← tail]
    exact expand_print_part tame (fits p (List.mem_cons_self ..)) (unmarked p (List.mem_cons_self ..))

theorem expand_dump (tame : ∀ d ∈ table.directives, d.Tame)
    (fits : ∀ p ∈ parts, Fits table.directives p) (unmarked : ∀ p ∈ parts, p.Unmarked) :
    Marker.dump.expand (parts.flatMap (under [])) = parts.flatMap (under []) := by
  refine Marker.expand_unmarked Marker.tame_dump fun mem => ?_
  obtain ⟨p, here, mem⟩ := List.mem_flatMap.1 mem
  exact mark_not_mem_under tame (fits p here) (unmarked p here) mem

/-- The artifact of a text in parts: every part becomes its fragment. -/
theorem artifact_parts (tame : ∀ d ∈ table.directives, d.Tame) (distinct : table.Distinct)
    (fits : ∀ p ∈ parts, Fits table.directives p) (unmarked : ∀ p ∈ parts, p.Unmarked)
    (apart : List.IsChain MayPrecede parts) :
    table.artifact (String.ofList (parts.flatMap source)) =
      String.ofList (parts.flatMap fragment) := by
  unfold DirectiveTable.artifact
  rw [String.toList_ofList, expand_print tame fits unmarked, expand_dump tame fits unmarked,
    expand_table tame distinct fits apart]

end Part

end Stencil
