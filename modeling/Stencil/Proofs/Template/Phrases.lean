import Stencil.Proofs.Directive.Markers
import Stencil.Proofs.Program.Building
import Stencil.Proofs.Program.Cutting

/-!
# Phrases of templates

A phrase of a template is a part of its source whose fragment is a stretch of its artifact. So the
template of phrases is known if the pieces of the phrases build known nodes (`compile_phrases`).
-/

namespace Stencil
open Text

/-- A text that the reader accepts, with what it reads, and without signs and marks. -/
structure Argument {α : Type} (reader : List Char → Except Error α) where
  text : List Char
  value : α
  reads : reader text = .ok value
  unsigned : '@' ∉ text
  unmarked : '%' ∉ text

structure Call (function : String) where
  text : List Char
  args : List Expr
  reads : Expr.parse (function.toList ++ '(' :: (text ++ [')'])) = .ok (.call function args)
  unsigned : '@' ∉ text
  unmarked : '%' ∉ text

structure PlainText where
  text : List Char
  some : text ≠ []
  closed : ¬Fragment.openTag <:+: text
  unsigned : '@' ∉ text
  unmarked : '%' ∉ text

structure PathText where
  text : List Char
  path : VariablePath
  spells : VariablePath.ofText? (String.ofList text) = .ok path

theorem PathText.isPath (p : PathText) : VariablePath.isPath p.text = true := by
  have spells := p.spells
  unfold VariablePath.ofText? at spells
  rw [String.toList_ofList] at spells
  split at spells
  · split at spells
    · assumption
    · cases spells
  · cases spells

structure Tag where
  part : Part
  keyword : List Char
  header : List Char
  named : isName keyword = true
  passed : Passed (trim header)
  spoken : part.fragment = Fragment.headed keyword header
  fits : part.Fits Directive.builtins
  unmarked : part.Unmarked

namespace ReadsKinds

variable {α : Type} {reader : List Char → Except Error α}

theorem passed (kinds : ReadsKinds reader) (h : Argument reader) : Passed (Text.trim h.text) :=
  kinds.closeTag?_append (kinds.trim h.reads)

theorem fits (kinds : ReadsKinds reader) (h : Argument reader) {d : Directive}
    (known : d ∈ Directive.builtins) (takes : d.takesArgument = true) :
    Part.Fits Directive.builtins (.sign d h.text) :=
  .argument known takes h.unsigned (kinds.through h.reads 0)

end ReadsKinds

namespace Tag

def print (p : PathText) : Tag where
  part := .path p.text
  keyword := "print".toList
  header := '$' :: p.text
  named := rfl
  passed :=
    readsKinds_expr.closeTag?_append (readsKinds_expr.trim (VariablePath.parse_path p.spells))
  spoken := rfl
  fits := .path p.isPath
  unmarked := trivial

def block {α : Type} {reader : List Char → Except Error α} (kinds : ReadsKinds reader)
    (name : String) (known : Directive.block name ∈ Directive.builtins) (named : isName name.toList = true)
    (h : Argument reader) : Tag where
  part := .sign (.block name) h.text
  keyword := name.toList
  header := h.text
  named := named
  passed := kinds.passed h
  spoken := rfl
  fits := kinds.fits h known rfl
  unmarked := h.unmarked

def bare (name : String) (known : Directive.bare name ∈ Directive.builtins)
    (named : isName name.toList = true) : Tag where
  part := .sign (.bare name) []
  keyword := name.toList
  header := []
  named := named
  passed := fun _ => prefixed_nil.symm
  spoken := Fragment.instruction_eq_headed named
  fits := .bare known rfl
  unmarked := nofun

def exec (h : Argument Stmt.parseAll) : Tag where
  part := .sign ⟨"php", true, Fragment.exec⟩ h.text
  keyword := "exec".toList
  header := h.text
  named := rfl
  passed := readsKinds_stmts.passed h
  spoken := rfl
  fits := readsKinds_stmts.fits h (List.mem_cons_self ..) rfl
  unmarked := h.unmarked

def call (name function : String) (known : Directive.calling name function ∈ Directive.builtins)
    (named : isName function.toList = true) (free : isKeyword function = false)
    (h : Call function) : Tag where
  part := .sign (.calling name function) h.text
  keyword := "echo".toList
  header := function.toList ++ '(' :: (h.text ++ [')'])
  named := rfl
  passed := readsKinds_expr.closeTag?_append (readsKinds_expr.trim h.reads)
  spoken := by
    show Fragment.echo (function.toList ++ '(' :: h.text ++ [')']) = _
    rw [List.append_assoc]
    rfl
  fits := by
    obtain ⟨ks, lexed, list⟩ := (parse_call_iff named free).1 h.reads
    exact .argument known rfl h.unsigned (lexed.through (list.orderly.balanced 0))
  unmarked := h.unmarked

end Tag

inductive Phrase where
  | text (t : PlainText)
  | tag (t : Tag)

namespace Phrase

def part : Phrase → Part
  | text t => .plain t.text
  | tag t => t.part

def stretch : Phrase → Stretch
  | text t => .text t.text t.some t.closed
  | tag t => .tag t.keyword t.header t.named t.passed

def Cut (p : Phrase) (piece : Piece) : Prop :=
  p.stretch.Cut piece

theorem fragment_eq (p : Phrase) : p.part.fragment = p.stretch.write := by
  cases p with
  | text t => rfl
  | tag t => exact t.spoken

theorem fits (p : Phrase) : p.part.Fits Directive.builtins := by
  cases p with
  | text t => exact .plain t.some t.unsigned
  | tag t => exact t.fits

theorem unmarked (p : Phrase) : p.part.Unmarked := by
  cases p with
  | text t => exact t.unmarked
  | tag t => exact t.unmarked

theorem mayPrecede {p q : Phrase} (next : p.part.MayPrecede q.part) :
    p.stretch.MayPrecede q.stretch := by
  cases p with
  | tag t => trivial
  | text t =>
    cases q with
    | text u => exact next
    | tag u => trivial

theorem cut_tag_iff {t : Tag} {piece : Piece} :
    Cut (.tag t) piece ↔
      ∃ i, piece = .instruction i ∧ i.keyword = t.keyword ∧ i.header = trim t.header := by
  constructor
  · intro cuts
    obtain _ | ⟨key, head⟩ := cuts
    exact ⟨_, rfl, key, head⟩
  · rintro ⟨i, rfl, key, head⟩
    exact .tag key head

end Phrase

/-! ## What phrases yield -/

def Yields (phrases : List Phrase) (nodes : List Node) : Prop :=
  ∀ pieces, List.Forall₂ Phrase.Cut phrases pieces → Build.Builds pieces nodes

def YieldsBranches (phrases : List Phrase) (others : List (Expr × List Node))
    (otherwise : Option (List Node)) : Prop :=
  ∀ pieces, List.Forall₂ Phrase.Cut phrases pieces → Build.BuildsBranches pieces others otherwise

section
open Build

variable {phrases : List Phrase} {nodes : List Node} {n : Node} {first last t : Tag}

theorem Yields.nil : Yields [] [] := by
  rintro pieces ⟨⟩
  exact Builds.nil

theorem Yields.append {others : List Phrase} {more : List Node} (left : Yields phrases nodes)
    (right : Yields others more) : Yields (phrases ++ others) (nodes ++ more) := by
  intro pieces cuts
  obtain ⟨front, back, one, two, rfl⟩ := forall₂_append cuts
  exact Builds.append (left _ one) (right _ two)

theorem yields_text (t : PlainText) : Yields [.text t] [.text (String.ofList t.text)] := by
  rintro pieces (_ | ⟨_ | _, _ | _⟩)
  exact builds_text t.text

theorem yields_tag (built : ∀ {i : Instruction}, i.keyword = t.keyword → i.header = trim t.header →
    Builds [.instruction i] [n]) : Yields [.tag t] [n] := by
  rintro pieces (_ | ⟨cuts, _ | _⟩)
  obtain ⟨i, rfl, key, head⟩ := Phrase.cut_tag_iff.1 cuts
  exact built key head

theorem yields_block (body : Yields phrases nodes)
    (built : ∀ {i j : Instruction} {pieces}, i.keyword = first.keyword →
      i.header = trim first.header → j.keyword = last.keyword → j.header = trim last.header →
      Builds pieces nodes → Builds (.instruction i :: (pieces ++ [.instruction j])) [n]) :
    Yields (.tag first :: (phrases ++ [.tag last])) [n] := by
  rintro pieces (_ | ⟨opening, tail⟩)
  obtain ⟨front, back, inside, ending, rfl⟩ := forall₂_append tail
  obtain _ | ⟨closing, _ | _⟩ := ending
  obtain ⟨i, rfl, key, head⟩ := Phrase.cut_tag_iff.1 opening
  obtain ⟨j, rfl, final, empty⟩ := Phrase.cut_tag_iff.1 closing
  exact built key head final empty (body _ inside)

theorem yieldsBranches_end (key : last.keyword = "endif".toList) (empty : trim last.header = []) :
    YieldsBranches [.tag last] [] none := by
  rintro pieces (_ | ⟨cuts, _ | _⟩)
  obtain ⟨i, rfl, ends, head⟩ := Phrase.cut_tag_iff.1 cuts
  exact buildsBranches_endIf (ends.trans key) (head.trans empty)

theorem yieldsBranches_else (key : first.keyword = "else".toList) (empty : trim first.header = [])
    (body : Yields phrases nodes) (ends : last.keyword = "endif".toList)
    (none : trim last.header = []) :
    YieldsBranches (.tag first :: (phrases ++ [.tag last])) [] (some nodes) := by
  rintro pieces (_ | ⟨opening, tail⟩)
  obtain ⟨front, back, inside, ending, rfl⟩ := forall₂_append tail
  obtain _ | ⟨closing, _ | _⟩ := ending
  obtain ⟨i, rfl, starts, head⟩ := Phrase.cut_tag_iff.1 opening
  obtain ⟨j, rfl, final, rest⟩ := Phrase.cut_tag_iff.1 closing
  exact buildsBranches_else (starts.trans key) (head.trans empty) (body _ inside)
    (final.trans ends) (rest.trans none)

variable {others : List (Expr × List Node)} {otherwise : Option (List Node)} {tail : List Phrase}
  {e : Expr}

theorem yieldsBranches_elseIf (key : first.keyword = "elseif".toList)
    (read : ∀ {i : Instruction}, i.header = trim first.header → i.expression = .ok e)
    (body : Yields phrases nodes) (more : YieldsBranches tail others otherwise) :
    YieldsBranches (.tag first :: (phrases ++ tail)) ((e, nodes) :: others) otherwise := by
  rintro pieces (_ | ⟨opening, rest⟩)
  obtain ⟨front, back, inside, behind, rfl⟩ := forall₂_append rest
  obtain ⟨i, rfl, starts, head⟩ := Phrase.cut_tag_iff.1 opening
  exact buildsBranches_elseIf (starts.trans key) (read head) (body _ inside) (more _ behind)

theorem yields_choose (key : first.keyword = "if".toList)
    (read : ∀ {i : Instruction}, i.header = trim first.header → i.expression = .ok e)
    (body : Yields phrases nodes) (more : YieldsBranches tail others otherwise) :
    Yields (.tag first :: (phrases ++ tail)) [.choose ((e, nodes) :: others) otherwise] := by
  rintro pieces (_ | ⟨opening, rest⟩)
  obtain ⟨front, back, inside, behind, rfl⟩ := forall₂_append rest
  obtain ⟨i, rfl, starts, head⟩ := Phrase.cut_tag_iff.1 opening
  exact builds_choose (starts.trans key) (read head) (body _ inside) (more _ behind)

theorem compile_phrases
    (yields : Yields phrases nodes)
    (apart : List.IsChain Part.MayPrecede (phrases.map Phrase.part)) :
    Template.compile .builtins (String.ofList ((phrases.map Phrase.part).flatMap Part.source)) =
      .ok ⟨String.ofList ((phrases.map Phrase.part).flatMap Part.fragment), ⟨nodes⟩⟩ := by
  have fits : ∀ p ∈ phrases.map Phrase.part, p.Fits Directive.builtins := by
    intro p mem
    obtain ⟨phrase, -, rfl⟩ := List.mem_map.1 mem
    exact phrase.fits
  have unmarked : ∀ p ∈ phrases.map Phrase.part, p.Unmarked := by
    intro p mem
    obtain ⟨phrase, -, rfl⟩ := List.mem_map.1 mem
    exact phrase.unmarked
  have artifact : DirectiveTable.builtins.artifact
      (String.ofList ((phrases.map Phrase.part).flatMap Part.source)) =
        String.ofList ((phrases.map Phrase.part).flatMap Part.fragment) :=
    Part.artifact_parts Directive.tame_builtins DirectiveTable.distinct_builtins fits unmarked apart
  have written : (phrases.map Phrase.part).flatMap Part.fragment =
      (phrases.map Phrase.stretch).flatMap Stretch.write := by
    rw [List.flatMap_map, List.flatMap_map]
    exact List.flatMap_congr fun p _ => p.fragment_eq
  have separate : List.IsChain Stretch.MayPrecede (phrases.map Phrase.stretch) := by
    rw [List.isChain_map] at apart ⊢
    exact apart.imp fun _ _ => Phrase.mayPrecede
  obtain ⟨pieces, cuts, follow⟩ := Piece.cut_stretches 0 separate
  rw [List.forall₂_map_left_iff] at follow
  rw [Template.compile, artifact, Template.ofArtifact, String.toList_ofList, written,
    Program.parse_eq_ok cuts (yields _ follow)]
  rfl

end

end Stencil
