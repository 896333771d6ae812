import Stencil.Html.Escape

/-!
# Inert text

A text is inert if no markup can start or end in it: it has no angle brackets and no quotes, and every
ampersand begins an entity. What is escaped is inert (`inert_escape`).
-/

namespace Stencil.Html

def brackets : List Char :=
  ['<', '>', '"', '\'']

def entities : List String :=
  ["&amp;", "&lt;", "&gt;", "&quot;", "&#039;"]

structure Inert (cs : List Char) : Prop where
  bare : ∀ c ∈ cs, c ∉ brackets
  entity : ∀ {front back}, cs = front ++ '&' :: back →
    ∃ entity ∈ entities, entity.toList <+: '&' :: back

variable {cs ds : List Char}

theorem Inert.nil : Inert [] := by
  refine ⟨nofun, fun {front back} same => ?_⟩
  cases front <;> cases same

theorem Inert.append (left : Inert cs) (right : Inert ds) : Inert (cs ++ ds) := by
  refine ⟨fun c mem => ?_, fun {front back} same => ?_⟩
  · rcases List.mem_append.1 mem with mem | mem
    · exact left.bare c mem
    · exact right.bare c mem
  · -- The ampersand comes after the first text, or its entity is in the first text.
    rcases List.append_eq_append_iff.1 same with ⟨more, rfl, rest⟩ | ⟨more, rfl, rest⟩
    · exact right.entity rest
    · cases more with
      | nil =>
        have here : ds = [] ++ '&' :: back := rest.symm
        exact right.entity here
      | cons c more =>
        cases rest
        obtain ⟨entity, known, starts⟩ := left.entity rfl
        exact ⟨entity, known, starts.trans ⟨ds, rfl⟩⟩

theorem inert_entity {entity : String} (known : entity ∈ entities) : Inert entity.toList := by
  have shape : ∀ entity ∈ entities, entity.toList.head? = some '&' ∧ '&' ∉ entity.toList.tail ∧
      entity.toList.tail.all (· ∉ brackets) = true := by decide +kernel
  obtain ⟨first, single, bare⟩ := shape entity known
  obtain ⟨tail, whole⟩ := List.head?_eq_some_iff.1 first
  rw [whole, List.tail_cons] at single bare
  rw [whole]
  refine ⟨fun c mem => ?_, fun {front back} same => ?_⟩
  · rcases List.mem_cons.1 mem with rfl | mem
    · decide
    · exact of_decide_eq_true (List.all_eq_true.1 bare c mem)
  · cases front with
    | nil =>
      refine ⟨entity, known, ?_⟩
      rw [whole, same]
      exact List.prefix_rfl
    | cons c front =>
      cases same
      exact absurd (by simp) single

theorem inert_escapeChar (c : Char) : Inert (escapeChar c) := by
  unfold escapeChar
  split
  · next entity needed =>
    refine inert_entity ?_
    revert needed
    unfold entity?
    split <;> simp +contextual [entities, eq_comm]
  · next free =>
    refine ⟨fun d mem marked => ?_, fun {front back} same => ?_⟩
    · rw [List.mem_singleton.1 mem] at marked
      simp only [brackets, List.mem_cons, List.not_mem_nil, or_false] at marked
      rcases marked with rfl | rfl | rfl | rfl <;> cases free
    · have mem : '&' ∈ [c] := by simp [same]
      rw [← List.mem_singleton.1 mem] at free
      cases free

theorem inert_escape (s : String) : Inert (escape s).toList := by
  rw [toList_escape]
  induction s.toList with
  | nil => exact .nil
  | cons c cs ih =>
    rw [List.flatMap_cons]
    exact (inert_escapeChar c).append ih

end Stencil.Html
