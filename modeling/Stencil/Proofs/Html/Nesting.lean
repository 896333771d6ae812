import Stencil.Html.Markup
import Stencil.Proofs.Html.Escaping

/-!
# Nested markup

A tree of markup with tags from a fixed list and with calm text is written as properly nested markup
(`Tidy.nested_write`). A text is calm if no tag can start or end in it and every ampersand begins an
entity; quotes may stand there.
-/

namespace Stencil.Html

/-! ## Calm text -/

structure Calm (cs : List Char) : Prop where
  bare : ∀ c ∈ cs, c ≠ '<' ∧ c ≠ '>'
  entity : ∀ {front back}, cs = front ++ '&' :: back →
    ∃ entity ∈ entities, entity.toList <+: '&' :: back

variable {cs : List Char}

theorem Inert.calm (h : Inert cs) : Calm cs := by
  refine ⟨fun c mem => ?_, h.entity⟩
  have outside := h.bare c mem
  simp only [brackets, List.mem_cons, not_or] at outside
  exact ⟨outside.1, outside.2.1⟩

def isOrdinary (c : Char) : Bool :=
  c != '<' && c != '>' && c != '&'

theorem calm_of_ordinary (ordinary : cs.all isOrdinary = true) : Calm cs := by
  simp only [List.all_eq_true, isOrdinary, Bool.and_eq_true, bne_iff_ne] at ordinary
  refine ⟨fun c mem => (ordinary c mem).1, fun same => ?_⟩
  exact absurd rfl (ordinary '&' (same ▸ by simp)).2

/-! ## Tags and text -/

def opening (tag : Tag) (style : String) : String :=
  "<" ++ tag.name ++ " class=\"" ++ style ++ "\">"

def closing (tag : Tag) : String :=
  "</" ++ tag.name ++ ">"

/-- Markup in which every tag is one of the list and is closed, in the right order, with calm text
between the tags. -/
inductive Nested (tags : List (Tag × String)) : String → Prop
  | text {s} : Calm s.toList → Nested tags s
  | element {tag style inner} : (tag, style) ∈ tags → Nested tags inner →
      Nested tags (opening tag style ++ inner ++ closing tag)
  | append {s t} : Nested tags s → Nested tags t → Nested tags (s ++ t)

variable {tags : List (Tag × String)}

theorem Nested.join {parts : List String} (each : ∀ part ∈ parts, Nested tags part) :
    Nested tags (String.join parts) := by
  induction parts with
  | nil => exact .text (calm_of_ordinary rfl)
  | cons part parts ih =>
    obtain ⟨first, rest⟩ := List.forall_mem_cons.1 each
    rw [String.join_cons]
    exact first.append (ih rest)

/-! ## Written markup -/

namespace Markup

mutual

theorem writeTo_eq (out : String) (m : Markup) : writeTo out m = out ++ m.write := by
  match m with
  | .text s => simp [write, writeTo]
  | .fixed s => simp [write, writeTo]
  | .element tag style children =>
    simp only [write, writeTo, writeAll_eq _ children, String.append_assoc, String.empty_append]

theorem writeAll_eq (out : String) (ms : List Markup) :
    writeAll out ms = out ++ String.join (ms.map write) := by
  match ms with
  | [] => simp [writeAll]
  | m :: ms =>
    rw [writeAll, writeTo_eq out m, writeAll_eq _ ms, List.map_cons, String.join_cons,
      String.append_assoc]

end

@[simp] theorem write_text (s : String) : (text s).write = escape s := by
  simp [write, writeTo]

@[simp] theorem write_fixed (s : String) : (fixed s).write = s := by
  simp [write, writeTo]

@[simp] theorem write_element (tag : Tag) (style : String) (children : List Markup) :
    (element tag style children).write =
      opening tag style ++ String.join (children.map write) ++ closing tag := by
  simp only [write, writeTo, writeAll_eq, opening, closing, String.append_assoc, String.empty_append]

/-- The tags of the tree are in the list, and the text that is written as it is is calm. -/
inductive Tidy (tags : List (Tag × String)) : Markup → Prop
  | text (s) : Tidy tags (.text s)
  | fixed {s} : Calm s.toList → Tidy tags (.fixed s)
  | element {tag style children} : (tag, style) ∈ tags → (∀ m ∈ children, Tidy tags m) →
      Tidy tags (.element tag style children)

theorem Tidy.nested_write {m : Markup} (tidy : Tidy tags m) : Nested tags m.write := by
  induction tidy with
  | text s =>
    rw [write_text]
    exact .text (inert_escape s).calm
  | fixed calm =>
    rw [write_fixed]
    exact .text calm
  | element known _ ih =>
    rw [write_element]
    refine .element known (.join fun part mem => ?_)
    obtain ⟨m, inside, rfl⟩ := List.mem_map.1 mem
    exact ih m inside

end Markup

end Stencil.Html
