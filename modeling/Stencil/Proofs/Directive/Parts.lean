import Mathlib.Data.List.Chain
import Mathlib.Data.List.Nodup
import Stencil.Directive.Builtin
import Stencil.Proofs.Directive.Occurrence
import Stencil.Proofs.Expr.Paths

/-!
# Texts in parts

A text made up of characters, printed paths and directives with their arguments. One pass of a directive
turns exactly its own parts into fragments (`expand_parts`), and so all passes turn every part into its
fragment (`expand_table`).
-/

namespace Stencil
open Text

/-- A part of a text: characters, a path between its marks, or a directive with its argument. -/
inductive Part where
  | plain (cs : List Char)
  | path (cs : List Char)
  | sign (d : Directive) (h : List Char)

namespace Part

def source : Part → List Char
  | plain cs => cs
  | path cs => '%' :: (cs ++ ['%'])
  | sign d h => if d.takesArgument then d.sign ++ '(' :: (h ++ [')']) else d.sign

def fragment : Part → List Char
  | plain cs => cs
  | path cs => Marker.print.compile cs
  | sign d h => d.compile h

/-- The part when the paths and the directives with the names `done` are expanded. -/
def under (done : List String) : Part → List Char
  | sign d h => if d.name ∈ done then d.compile h else source (sign d h)
  | p => p.fragment

/-- The second part can come right after the first: characters stand together, and a directive without
an argument ends where its name ends. -/
def MayPrecede : Part → Part → Prop
  | plain _, plain _ => False
  | sign d _, plain cs => d.takesArgument = true ∨ atWordEnd cs = true
  | _, _ => True

inductive Fits (ds : List Directive) : Part → Prop
  | plain {cs} : cs ≠ [] → '@' ∉ cs → Fits ds (.plain cs)
  | path {cs} : VariablePath.isPath cs = true → Fits ds (.path cs)
  | argument {d h} : d ∈ ds → d.takesArgument = true → '@' ∉ h →
      through 0 .outside h = some (0, .outside) → Fits ds (.sign d h)
  | bare {d} : d ∈ ds → d.takesArgument = false → Fits ds (.sign d [])

end Part

/-- What the passes rely on in a directive: its name is one, and its fragments are tags without signs
of directives. -/
structure Directive.Tame (d : Directive) : Prop where
  named : isName d.name.toList = true
  opens : ∀ h, ∃ cs, d.compile h = '<' :: cs
  unsigned : ∀ h, '@' ∉ h → '@' ∉ d.compile h

theorem Text.mem_of_mem_trim {c : Char} {cs : List Char} (mem : c ∈ trim cs) : c ∈ cs := by
  obtain ⟨before, after, -, -, whole⟩ := trim_append cs
  rw [whole]
  exact List.mem_append_right _ (List.mem_append_left _ mem)

theorem Fragment.not_mem_instruction {c : Char} {body : List Char} (outside : c ∉ "<?tpl ?>".toList)
    (absent : c ∉ body) : c ∉ instruction body := by
  intro mem
  simp only [instruction, List.mem_append, List.mem_cons] at mem
  rcases mem with (mem | rfl | mem) | rfl | mem
  · exact outside (List.mem_append_left [' ', '?', '>'] mem)
  · exact outside (by decide)
  · exact absent (mem_of_mem_trim mem)
  · exact outside (by decide)
  · exact outside (List.mem_append_right ['<', '?', 't', 'p', 'l', ' '] mem)

theorem Fragment.not_mem_headed {c : Char} {keyword header : List Char}
    (outside : c ∉ "<?tpl ?>".toList) (unspoken : c ∉ keyword) (absent : c ∉ header) :
    c ∉ headed keyword header := by
  refine not_mem_instruction outside fun mem => ?_
  rcases List.mem_append.1 mem with mem | mem
  · exact unspoken mem
  · rcases List.mem_cons.1 mem with rfl | mem
    · exact outside (by decide)
    · exact absent (mem_of_mem_trim mem)

namespace Part

variable {ds : List Directive} {d : Directive} {done : List String} {parts : List Part} {p : Part}

theorem sign_not_mem_print {cs : List Char} (path : VariablePath.isPath cs = true) :
    '@' ∉ Marker.print.compile cs := by
  have unsigned : '@' ∉ '$' :: cs := by
    intro mem
    rcases List.mem_cons.1 mem with other | mem
    · cases other
    · cases VariablePath.isPathChar_of_isPath path _ mem
  exact Fragment.not_mem_headed (by decide) (by decide) unsigned

theorem atWordEnd_parts (tame : ∀ d ∈ ds, d.Tame) (fits : ∀ p ∈ parts, Fits ds p) {h : List Char}
    (apart : List.IsChain MayPrecede (sign d h :: parts)) (bare : d.takesArgument = false) :
    atWordEnd (parts.flatMap (under done)) = true := by
  cases parts with
  | nil => rfl
  | cons p parts =>
    have next := (List.isChain_cons_cons.1 apart).1
    rw [List.flatMap_cons]
    cases fits p (List.mem_cons_self ..) with
    | @plain cs some _ =>
      cases cs with
      | nil => exact absurd rfl some
      | cons c cs =>
        rcases next with takes | ended
        · rw [bare] at takes
          cases takes
        · exact ended
    | path _ => rfl
    | argument known takes _ _ =>
      obtain ⟨cs, opens⟩ := (tame _ known).opens _
      simp only [under, source, takes, if_true]
      split
      · rw [opens]
        rfl
      · rfl
    | @bare e known bare =>
      obtain ⟨cs, opens⟩ := (tame e known).opens []
      simp only [under, source, bare]
      split
      · rw [opens]
        rfl
      · rfl

theorem expand_source (tame : ∀ d ∈ ds, d.Tame) (distinct : (ds.map Directive.name).Nodup)
    {e : Directive} {h rest : List Char} (known : d ∈ ds) (fits : Fits ds (sign e h))
    (ended : e.takesArgument = false → atWordEnd rest = true) :
    d.expand (source (sign e h) ++ rest) =
      (if e.name = d.name then e.compile h else source (sign e h)) ++ d.expand rest := by
  split
  · next same =>
    cases fits with
    | argument known' takes _ balanced =>
      cases List.inj_on_of_nodup_map distinct known' known same
      rw [source, if_pos takes, List.append_assoc, List.cons_append, List.append_assoc]
      exact Directive.expand_argument takes balanced
    | bare known' bare =>
      cases List.inj_on_of_nodup_map distinct known' known same
      rw [source, if_neg (by simp [bare])]
      exact Directive.expand_bare bare (ended bare)
  · next different =>
    have named := (tame d known).named
    cases fits with
    | argument known' takes unsigned _ =>
      have other := (tame e known').named
      have plain : '@' ∉ '(' :: (h ++ [')']) := by simp [unsigned]
      rw [source, if_pos takes, List.append_assoc, List.append_assoc,
        Directive.expand_other_sign named other (Ne.symm different) rfl, Directive.expand_append plain]
    | bare known' bare =>
      have other := (tame e known').named
      rw [source, if_neg (by simp [bare])]
      exact Directive.expand_other_sign named other (Ne.symm different) (ended bare)

theorem expand_part (tame : ∀ d ∈ ds, d.Tame) (distinct : (ds.map Directive.name).Nodup)
    (known : d ∈ ds) (fits : Fits ds p) {rest : List Char}
    (ended : ∀ e h, p = sign e h → e.takesArgument = false → atWordEnd rest = true) :
    d.expand (p.under done ++ rest) = p.under (d.name :: done) ++ d.expand rest := by
  cases p with
  | plain cs =>
    cases fits with
    | plain _ unsigned => exact Directive.expand_append unsigned
  | path cs =>
    cases fits with
    | path named => exact Directive.expand_append (sign_not_mem_print named)
  | sign e h =>
    simp only [under, List.mem_cons]
    by_cases before : e.name ∈ done
    · rw [if_pos before, if_pos (.inr before)]
      refine Directive.expand_append ?_
      cases fits with
      | argument known' _ unsigned _ => exact (tame e known').unsigned h unsigned
      | bare known' _ => exact (tame e known').unsigned [] (by simp)
    · rw [if_neg before, expand_source tame distinct known fits (ended e h rfl)]
      simp only [before, or_false]

theorem expand_parts (tame : ∀ d ∈ ds, d.Tame) (distinct : (ds.map Directive.name).Nodup)
    (known : d ∈ ds) (fits : ∀ p ∈ parts, Fits ds p) (apart : List.IsChain MayPrecede parts) :
    d.expand (parts.flatMap (under done)) = parts.flatMap (under (d.name :: done)) := by
  induction parts with
  | nil => exact Directive.expand_nil
  | cons p parts ih =>
    have tail := ih (fun q mem => fits q (List.mem_cons_of_mem _ mem)) apart.tail
    rw [List.flatMap_cons, List.flatMap_cons, ← tail]
    refine expand_part tame distinct known (fits p (List.mem_cons_self ..)) ?_
    rintro e h rfl bare
    exact atWordEnd_parts tame (fun q mem => fits q (List.mem_cons_of_mem _ mem)) apart bare

theorem foldl_expand {passes : List Directive} (tame : ∀ d ∈ ds, d.Tame)
    (distinct : (ds.map Directive.name).Nodup) (known : ∀ d ∈ passes, d ∈ ds)
    (fits : ∀ p ∈ parts, Fits ds p) (apart : List.IsChain MayPrecede parts) :
    passes.foldl (fun text d => d.expand text) (parts.flatMap (under done)) =
      parts.flatMap (under ((passes.map Directive.name).reverse ++ done)) := by
  -- `done` grows with every pass, and a pass changes only the parts of its own directive.
  induction passes generalizing done with
  | nil => rfl
  | cons d passes ih =>
    have here := known d (List.mem_cons_self ..)
    rw [List.foldl_cons, expand_parts tame distinct here fits apart,
      ih fun e mem => known e (List.mem_cons_of_mem _ mem)]
    simp

theorem expand_table {table : DirectiveTable} (tame : ∀ d ∈ table.directives, d.Tame)
    (distinct : table.Distinct) (fits : ∀ p ∈ parts, Fits table.directives p)
    (apart : List.IsChain MayPrecede parts) :
    table.expand (parts.flatMap (under [])) = parts.flatMap fragment := by
  unfold DirectiveTable.expand
  rw [foldl_expand tame distinct (fun d mem => mem) fits apart, List.append_nil]
  refine List.flatMap_congr fun p mem => ?_
  cases fits p mem with
  | plain | path => rfl
  | argument known _ _ _ | bare known _ =>
    have name := List.mem_map_of_mem (f := Directive.name) known
    rw [under, if_pos (List.mem_reverse.2 name), fragment]

end Part

end Stencil
