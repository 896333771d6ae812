import Mathlib.Data.List.TakeWhile
import Stencil.Text.Blank

namespace Stencil.Text

structure Trimmed (cs : List Char) : Prop where
  first : ∀ c ∈ cs.head?, isBlank c = false
  last : ∀ c ∈ cs.getLast?, isBlank c = false

def AllBlank (cs : List Char) : Prop :=
  ∀ c ∈ cs, isBlank c = true

variable {cs : List Char}

theorem allBlank_takeWhile : AllBlank (cs.takeWhile isBlank) :=
  List.all_eq_true.1 List.all_takeWhile

theorem allBlank_space : AllBlank [' '] := by
  intro c mem
  rw [List.mem_singleton.1 mem]
  rfl

theorem trimStart_append (cs : List Char) : ∃ before, AllBlank before ∧ cs = before ++ trimStart cs :=
  ⟨cs.takeWhile isBlank, allBlank_takeWhile, List.takeWhile_append_dropWhile.symm⟩

theorem trimEnd_append (cs : List Char) : ∃ after, AllBlank after ∧ cs = trimEnd cs ++ after := by
  refine ⟨(cs.reverse.takeWhile isBlank).reverse, fun c mem => ?_, ?_⟩
  · exact allBlank_takeWhile c (List.mem_reverse.1 mem)
  · rw [trimEnd, ← List.reverse_append, List.takeWhile_append_dropWhile, List.reverse_reverse]

theorem trim_append (cs : List Char) :
    ∃ before after, AllBlank before ∧ AllBlank after ∧ cs = before ++ (trim cs ++ after) := by
  obtain ⟨before, blank, start⟩ := trimStart_append cs
  obtain ⟨after, space, ending⟩ := trimEnd_append (trimStart cs)
  refine ⟨before, after, blank, space, ?_⟩
  rw [trim, ← ending, ← start]

theorem head_dropWhile (cs : List Char) : ∀ c ∈ (cs.dropWhile isBlank).head?, isBlank c = false := by
  intro c mem
  have := List.head?_dropWhile_not isBlank cs
  rw [Option.mem_def.1 mem] at this
  exact this

theorem trimmed_trim (cs : List Char) : Trimmed (trim cs) := by
  constructor
  · intro c mem
    obtain ⟨after, -, ending⟩ := trimEnd_append (trimStart cs)
    have same : cs.dropWhile isBlank = trim cs ++ after := ending
    refine head_dropWhile cs c ?_
    rw [same]
    cases whole : trim cs with
    | nil =>
      rw [whole] at mem
      cases mem
    | cons d ds =>
      rw [whole] at mem
      exact mem
  · intro c mem
    rw [trim, trimEnd, List.getLast?_reverse] at mem
    exact head_dropWhile _ c mem

theorem dropWhile_of_head {ds : List Char} (h : ∀ c ∈ ds.head?, isBlank c = false) :
    ds.dropWhile isBlank = ds := by
  cases ds with
  | nil => rfl
  | cons d ds => rw [List.dropWhile_cons, h d rfl]; rfl

theorem Trimmed.trim_between {before after : List Char} (h : Trimmed cs) (front : AllBlank before)
    (back : AllBlank after) : trim (before ++ (cs ++ after)) = cs := by
  have start : trimStart (before ++ (cs ++ after)) = trimStart (cs ++ after) :=
    List.dropWhile_append_of_pos front
  rw [trim, start]
  cases cs with
  | nil =>
    have gone : trimStart after = [] := List.dropWhile_eq_nil_iff.2 back
    rw [List.nil_append, gone]
    rfl
  | cons c cs =>
    have kept : trimStart (c :: cs ++ after) = c :: cs ++ after := dropWhile_of_head h.first
    have space : ∀ d ∈ after.reverse, isBlank d = true := fun d mem => back d (List.mem_reverse.1 mem)
    rw [kept, trimEnd, List.reverse_append, List.dropWhile_append_of_pos space, dropWhile_of_head,
      List.reverse_reverse]
    intro d mem
    rw [List.head?_reverse] at mem
    exact h.last d mem

theorem Trimmed.trim_append {after : List Char} (h : Trimmed cs) (back : AllBlank after) :
    trim (cs ++ after) = cs := by
  have whole : trim ([] ++ (cs ++ after)) = cs := h.trim_between nofun back
  exact whole

theorem Trimmed.trim_eq (h : Trimmed cs) : trim cs = cs := by
  have whole : trim (cs ++ []) = cs := h.trim_append nofun
  rwa [List.append_nil] at whole

theorem Trimmed.nil : Trimmed [] :=
  ⟨nofun, nofun⟩

theorem Trimmed.append {ds : List Char} (left : ∀ c ∈ cs.head?, isBlank c = false) (some : cs ≠ [])
    (right : ∀ c ∈ ds.getLast?, isBlank c = false) (other : ds ≠ []) : Trimmed (cs ++ ds) := by
  constructor
  · intro c mem
    rw [List.head?_append, List.head?_eq_some_head some] at mem
    exact left c (List.head?_eq_some_head some ▸ mem)
  · intro c mem
    rw [List.getLast?_append, List.getLast?_eq_some_getLast other] at mem
    exact right c (List.getLast?_eq_some_getLast other ▸ mem)

theorem count_trim {c : Char} (solid : isBlank c = false) : (trim cs).count c = cs.count c := by
  have absent : ∀ {ds}, AllBlank ds → ds.count c = 0 := by
    intro ds blank
    refine List.count_eq_zero.2 fun mem => ?_
    rw [blank c mem] at solid
    cases solid
  obtain ⟨before, after, front, back, whole⟩ := trim_append cs
  have parts := congrArg (List.count c) whole
  rw [List.count_append, List.count_append, absent front, absent back] at parts
  omega

end Stencil.Text
