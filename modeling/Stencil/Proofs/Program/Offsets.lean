import Mathlib
import Stencil.Proofs.Program.Stack
import Stencil.Proofs.Program.Tiling

/-!
# Offsets of errors

What is wrong with an artifact is reported at a tag that does not end or at one of the instructions
(`Origin`): at its tag, at its header, or where the reader of the header stopped. So every error has an
offset, which is at a place in the artifact (`offsets_absolute`).
-/

namespace Stencil
open Text

namespace Instruction

def checkHeader (i : Instruction) : Except Error Unit :=
  match Verb.ofText? i.keywordText with
  | some .exec => (Stmt.parseAll i.header).map fun _ => ()
  | some .foreachStart => (ForeachHeader.parse i.header).map fun _ => ()
  | some .forStart => (ForHeader.parse i.header).map fun _ => ()
  | some .print | some .echo | some .dump | some .ifStart | some .elseIf | some .whileStart | some .doWhile =>
    (Expr.parse i.header).map fun _ => ()
  | _ => .ok ()

/-- What is reported at an instruction: what is wrong with its tag, a header that may not be there, and
what the reader of the header reports, from the header on. -/
inductive Blamed (i : Instruction) : Nat → Problem → Prop
  | unexpected : Blamed i i.offset (.unexpectedInstruction i.keywordText)
  | empty : i.keyword = [] → Blamed i i.offset .emptyInstruction
  | unknown : Verb.ofText? i.keywordText = none → Blamed i i.offset (.unknownInstruction i.keywordText)
  | missing : i.header = [] → Blamed i i.offset (.missingHeader i.keywordText)
  | unclosed : Blamed i i.offset (.unclosedBlock i.keywordText)
  | unwanted : i.header ≠ [] → Blamed i i.headerOffset (.unwantedHeader i.keywordText)
  | header {offset problem} : i.checkHeader = .error (.malformed offset problem) →
      Blamed i (i.headerOffset + offset) problem

def Refuses (i : Instruction) (e : Error) : Prop :=
  ∃ offset problem, e = .malformed offset problem ∧ i.Blamed offset problem

variable {i : Instruction} {α : Type}

theorem checkHeader_ensures (i : Instruction) :
    Ensures (fun _ => True) (Error.At (IsPlace i.header)) i.checkHeader := by
  unfold checkHeader
  split
  · exact (Stmt.parseAll_ensures i.header).map
  · exact (ForeachHeader.parse_ensures i.header).map
  · exact (ForHeader.parse_ensures i.header).map
  all_goals first
    | exact (Expr.parse_ensures i.header).map
    | exact trivial

theorem readHeader_ensures {reader : List Char → Except Error α}
    (checked : i.checkHeader = (reader i.header).map fun _ => ()) :
    Ensures (fun _ => True) i.Refuses (i.readHeader reader) := by
  have places := checkHeader_ensures i
  unfold readHeader
  cases read : reader i.header with
  | ok a => exact trivial
  | error e =>
    rw [read] at checked
    rw [checked] at places
    obtain ⟨offset, problem, rfl, -, -⟩ := places
    exact ⟨_, problem, rfl, .header checked⟩

theorem expression_ensures (checked : i.checkHeader = (Expr.parse i.header).map fun _ => ()) :
    Ensures (fun _ => True) i.Refuses i.expression := by
  unfold expression
  split
  · next empty => exact ⟨_, _, rfl, .missing (List.isEmpty_iff.1 empty)⟩
  · exact readHeader_ensures checked

theorem noHeader_ensures (i : Instruction) : Ensures (fun _ => True) i.Refuses i.noHeader := by
  unfold noHeader
  split
  · exact trivial
  · next some => exact ⟨_, _, rfl, .unwanted (mt List.isEmpty_iff.2 some)⟩

end Instruction

/-! ## The stack -/

namespace Build.Stack

variable {s : Stack} {i : Instruction} {read : List Instruction} {innermost : Open} {outer : List Open}

def OpenedBy (s : Stack) (read : List Instruction) : Prop :=
  ∀ block ∈ s.opened, block.opener ∈ read

theorem OpenedBy.cons (h : s.OpenedBy read) (i : Instruction) : s.OpenedBy (i :: read) :=
  fun block mem => List.mem_cons_of_mem i (h block mem)

theorem OpenedBy.enter (h : s.OpenedBy read) (block : Block) : (s.enter i block).OpenedBy (i :: read) :=
  List.forall_mem_cons.2 ⟨List.mem_cons_self .., h.cons i⟩

theorem OpenedBy.leave (h : s.OpenedBy read) (opened : s.opened = innermost :: outer) (nodes : List Node) :
    OpenedBy ⟨outer, nodes⟩ (i :: read) := by
  intro block mem
  refine h.cons i block ?_
  rw [opened]
  exact List.mem_cons_of_mem innermost mem

theorem OpenedBy.change {opener : Instruction} {block : Block} {front : List Node} (h : s.OpenedBy read)
    (opened : s.opened = ⟨opener, block, front⟩ :: outer) (next : Block) (nodes : List Node) :
    OpenedBy ⟨⟨opener, next, front⟩ :: outer, nodes⟩ (i :: read) := by
  refine List.forall_mem_cons.2 ⟨h.cons i ⟨opener, block, front⟩ ?_, h.leave opened []⟩
  rw [opened]
  exact List.mem_cons_self ..

theorem step_ensures (i : Instruction) (h : s.OpenedBy read) :
    Ensures (fun t : Stack => t.OpenedBy (i :: read)) i.Refuses (s.step i) := by
  have unexpected : i.Refuses (i.complaint .unexpectedInstruction) := ⟨_, _, rfl, .unexpected⟩
  cases key : Verb.ofText? i.keywordText with
  | none =>
    rw [step, key]
    show Ensures _ _ (if _ then _ else _)
    split
    · next empty => exact ⟨_, _, rfl, .empty (List.isEmpty_iff.1 empty)⟩
    · exact ⟨_, _, rfl, .unknown key⟩
  | some verb =>
    cases verb with
    | print | echo | dump =>
      have expression := Instruction.expression_ensures (i := i) (by rw [Instruction.checkHeader, key])
      rw [step, key]
      exact expression.bind fun _ _ => h.cons i
    | ifStart | whileStart =>
      have expression := Instruction.expression_ensures (i := i) (by rw [Instruction.checkHeader, key])
      rw [step, key]
      exact expression.bind fun _ _ => h.enter _
    | exec =>
      rw [step, key]
      exact (Instruction.readHeader_ensures (by rw [Instruction.checkHeader, key])).bind fun _ _ => h.cons i
    | foreachStart | forStart =>
      rw [step, key]
      exact (Instruction.readHeader_ensures (by rw [Instruction.checkHeader, key])).bind fun _ _ => h.enter _
    | doStart =>
      rw [step, key]
      exact i.noHeader_ensures.bind fun _ _ => h.enter _
    -- The other verbs end a part of a block, and only where the innermost open block has such a part.
    | elseIf | doWhile =>
      have expression := Instruction.expression_ensures (i := i) (by rw [Instruction.checkHeader, key])
      rw [step, key]
      cases opened : s.opened with
      | nil => exact unexpected
      | cons innermost outer =>
        obtain ⟨opener, block, front⟩ := innermost
        cases block <;> first
          | exact unexpected
          | exact expression.bind fun _ _ => h.change opened _ _
          | exact expression.bind fun _ _ => h.leave opened _
    | elseStart | endIf | endForeach | endFor | endWhile =>
      rw [step, key]
      cases opened : s.opened with
      | nil => exact unexpected
      | cons innermost outer =>
        obtain ⟨opener, block, front⟩ := innermost
        cases block <;> first
          | exact unexpected
          | exact i.noHeader_ensures.bind fun _ _ => h.change opened _ _
          | exact i.noHeader_ensures.bind fun _ _ => h.leave opened _

theorem finish_ensures (h : s.OpenedBy read) :
    Ensures (fun _ => True) (fun e => ∃ i ∈ read, i.Refuses e) s.finish := by
  unfold finish
  split
  · exact trivial
  · next innermost _ opened =>
    refine ⟨innermost.opener, h innermost ?_, _, _, rfl, .unclosed⟩
    rw [opened]
    exact List.mem_cons_self ..

/-- An error is reported at an instruction that is read now, or at the opener of a block that stays open,
which was read before. -/
theorem OpenedBy.read_ensures (h : s.OpenedBy read) (pieces : List Piece) :
    Ensures (fun _ => True) (fun e => ∃ i, (i ∈ read ∨ .instruction i ∈ pieces) ∧ i.Refuses e)
      (s.read pieces) := by
  induction pieces generalizing s read with
  | nil =>
    rw [Stack.read]
    refine (finish_ensures h).mono (fun _ _ => trivial) ?_
    rintro e ⟨i, mem, refused⟩
    exact ⟨i, .inl mem, refused⟩
  | cons piece pieces ih =>
    cases piece with
    | text cs =>
      have kept : (s.add (.text (String.ofList cs))).OpenedBy read := h
      rw [Stack.read]
      refine (ih kept).mono (fun _ _ => trivial) ?_
      rintro e ⟨i, mem, refused⟩
      exact ⟨i, mem.imp_right (List.mem_cons_of_mem _), refused⟩
    | instruction i =>
      rw [Stack.read]
      refine Ensures.bind ((step_ensures i h).mono (fun _ kept => kept) fun e refused => ?_) fun t kept => ?_
      · exact ⟨i, .inr (List.mem_cons_self ..), refused⟩
      · refine (ih kept).mono (fun _ _ => trivial) ?_
        rintro e ⟨j, mem | mem, refused⟩
        · rcases List.mem_cons.1 mem with rfl | mem
          · exact ⟨j, .inr (List.mem_cons_self ..), refused⟩
          · exact ⟨j, .inl mem, refused⟩
        · exact ⟨j, .inr (List.mem_cons_of_mem _ mem), refused⟩

end Build.Stack

/-! ## Artifacts -/

inductive Origin (cs : List Char) : Nat → Problem → Prop
  | tag {front body} : cs = front ++ (Fragment.openTag ++ body) → body.head?.all isBlank = true →
      closeTag? .outside body = none → Origin cs (byteLength front) .unterminatedTag
  | instruction {pieces i offset problem} : Piece.cut 0 cs = .ok pieces → .instruction i ∈ pieces →
      i.Blamed offset problem → Origin cs offset problem

variable {cs : List Char} {i : Instruction} {offset : Nat} {problem : Problem}

theorem Instruction.Blamed.isPlace (blamed : i.Blamed offset problem) (sits : i.Sits cs) :
    IsPlace cs offset := by
  cases blamed with
  | unwanted =>
    have whole : i.header = [] ++ i.header := rfl
    exact (sits.header whole).1
  | header refused =>
    have places := i.checkHeader_ensures
    rw [refused] at places
    obtain ⟨_, _, same, -, front, back, split, rfl⟩ := places
    cases same
    exact (sits.header split).1
  | _ => exact sits.isPlace

theorem Origin.isPlace (origin : Origin cs offset problem) : IsPlace cs offset := by
  cases origin with
  | tag whole => exact ⟨_, _, whole, rfl⟩
  | instruction cuts mem blamed => exact blamed.isPlace (Piece.sits_of_cut cuts mem)

theorem exists_origin {e : Error} (h : Program.parse cs = .error e) :
    ∃ offset problem, e = .malformed offset problem ∧ Origin cs offset problem := by
  rw [Build.parse_eq_read] at h
  cases cuts : Piece.cut 0 cs with
  | error f =>
    have ends := Piece.cut_ensures [] cs
    rw [byteLength_nil, cuts] at ends
    obtain ⟨front, body, whole, blank, unclosed, rfl⟩ := ends
    rw [cuts] at h
    cases h
    exact ⟨_, _, rfl, .tag whole blank unclosed⟩
  | ok pieces =>
    have none : Build.Stack.start.OpenedBy [] := nofun
    have reads := none.read_ensures pieces
    rw [cuts, ok_bind] at h
    rw [h] at reads
    obtain ⟨i, mem, offset, problem, rfl, blamed⟩ := reads
    exact ⟨_, _, rfl, .instruction cuts (mem.resolve_left List.not_mem_nil) blamed⟩

/-- The pieces of an artifact are a tiling of it. What the reader of a header reports at a place of the
header is at the sum of the offset of the header and that place in the artifact, inside the tag. What is
reported about the whole artifact is at a place of it: at a tag or at a header, or it is what the reader
of a header reports. -/
theorem offsets_absolute (cs : List Char) :
    (∀ pieces, Piece.cut 0 cs = .ok pieces → Piece.Tiling cs pieces ∧
      ∀ i, .instruction i ∈ pieces → ∀ e, i.checkHeader = .error e →
        ∃ front back problem, i.header = front ++ back ∧ e = .malformed (byteLength front) problem ∧
          problem.ofHeader = true ∧
          (∃ rest, dropBytes (i.headerOffset + byteLength front) cs = some (back ++ rest)) ∧
          i.Covers cs (i.headerOffset + byteLength front)) ∧
    ∀ e, Program.parse cs = .error e → ∃ offset problem, e = .malformed offset problem ∧
      offset ≤ byteLength cs ∧ isBoundary cs offset = true ∧ Origin cs offset problem := by
  refine ⟨fun pieces cuts => ⟨Piece.tiling_cut cuts, fun i mem e refused => ?_⟩, fun e refused => ?_⟩
  · have places := i.checkHeader_ensures
    rw [refused] at places
    obtain ⟨_, problem, rfl, kind, front, back, split, rfl⟩ := places
    obtain ⟨-, stands, covers⟩ := (Piece.sits_of_cut cuts mem).header split
    exact ⟨front, back, problem, split, rfl, kind, stands, covers⟩
  · obtain ⟨offset, problem, rfl, origin⟩ := exists_origin refused
    exact ⟨offset, problem, rfl, origin.isPlace.le, origin.isPlace.isBoundary, origin⟩

theorem offsets_absolute_sum :
    let text := "é<?tpl print 1 + ?>".toList
    let print : Instruction := ⟨['p', 'r', 'i', 'n', 't'], ['1', ' ', '+'], 2, 14⟩
    Piece.Tiling text [.text ['é'], .instruction print] ∧
      print.checkHeader = .error (.malformed 3 (.expected .expression none)) ∧ print.Covers text 17 ∧
      Program.parse text = .error (.malformed 17 (.expected .expression none)) ∧
      Origin text 17 (.expected .expression none) := by
  have cuts : Piece.cut 0 "é<?tpl print 1 + ?>".toList = .ok [.text ['é'],
      .instruction ⟨['p', 'r', 'i', 'n', 't'], ['1', ' ', '+'], 2, 14⟩] := by cbv
  have refused : Instruction.checkHeader ⟨['p', 'r', 'i', 'n', 't'], ['1', ' ', '+'], 2, 14⟩ =
      .error (.malformed 3 (.expected .expression none)) := by cbv
  have whole : Program.parse "é<?tpl print 1 + ?>".toList =
      .error (.malformed 17 (.expected .expression none)) := by cbv
  obtain ⟨scans, reports⟩ := offsets_absolute "é<?tpl print 1 + ?>".toList
  obtain ⟨tiling, headers⟩ := scans _ cuts
  obtain ⟨front, back, problem, -, same, -, -, covers⟩ := headers _ (by simp) _ refused
  obtain ⟨offset, _, again, -, -, origin⟩ := reports _ whole
  simp only [Error.malformed.injEq] at same again
  rw [← same.1] at covers
  obtain ⟨rfl, rfl⟩ := again
  exact ⟨tiling, refused, covers, whole, origin⟩

end Stencil
