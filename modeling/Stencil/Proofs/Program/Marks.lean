import Mathlib
import Stencil.Proofs.Program.Stack

namespace Stencil

/-- A text, or an instruction with what its header holds. -/
inductive Mark where
  | text (s : String)
  | bare (verb : Verb)
  | headed (verb : Verb) (e : Expr)
  | exec (statements : List Stmt)
  | foreach (header : ForeachHeader)
  | forLoop (header : ForHeader)

def Instruction.mark (i : Instruction) (verb : Verb) : Except Error Mark :=
  match verb with
  | .print | .echo | .dump | .ifStart | .elseIf | .whileStart | .doWhile => do
    return .headed verb (← i.expression)
  | .elseStart | .endIf | .endForeach | .endFor | .endWhile | .doStart => do
    i.noHeader
    return .bare verb
  | .exec => do
    return .exec (← i.readHeader Stmt.parseAll)
  | .foreachStart => do
    return .foreach (← i.readHeader ForeachHeader.parse)
  | .forStart => do
    return .forLoop (← i.readHeader ForHeader.parse)

def Piece.Shows : Piece → Mark → Prop
  | .text cs, mark => mark = .text (String.ofList cs)
  | .instruction i, mark => ∃ verb, Verb.ofText? i.keywordText = some verb ∧ i.mark verb = .ok mark

mutual

def Node.marks : Node → List Mark
  | .text s => [.text s]
  | .print e => [.headed .print e]
  | .echo e => [.headed .echo e]
  | .dump e => [.headed .dump e]
  | .exec statements => [.exec statements]
  | .choose cases otherwise =>
    Node.branchMarks .ifStart cases ++ Node.lastMarks otherwise ++ [.bare .endIf]
  | .foreach header body => .foreach header :: Node.bodyMarks body ++ [.bare .endForeach]
  | .forLoop header body => .forLoop header :: Node.bodyMarks body ++ [.bare .endFor]
  | .whileLoop condition body =>
    .headed .whileStart condition :: Node.bodyMarks body ++ [.bare .endWhile]
  | .doLoop body condition =>
    .bare .doStart :: Node.bodyMarks body ++ [.headed .doWhile condition]

def Node.bodyMarks : List Node → List Mark
  | [] => []
  | n :: ns => n.marks ++ Node.bodyMarks ns

def Node.branchMarks (verb : Verb) : List (Expr × List Node) → List Mark
  | [] => []
  | (condition, body) :: cases =>
    .headed verb condition :: Node.bodyMarks body ++ Node.branchMarks .elseIf cases

def Node.lastMarks : Option (List Node) → List Mark
  | none => []
  | some body => .bare .elseStart :: Node.bodyMarks body

end

def Program.marks (program : Program) : List Mark :=
  Node.bodyMarks program.nodes

namespace Node

theorem bodyMarks_append (ns others : List Node) :
    bodyMarks (ns ++ others) = bodyMarks ns ++ bodyMarks others := by
  induction ns with
  | nil => rfl
  | cons n ns ih => rw [List.cons_append, bodyMarks, bodyMarks, ih, List.append_assoc]

theorem bodyMarks_snoc (ns : List Node) (n : Node) : bodyMarks (ns ++ [n]) = bodyMarks ns ++ n.marks := by
  rw [bodyMarks_append, bodyMarks, bodyMarks, List.append_nil]

variable {condition : Expr}

theorem branchMarks_body (verb : Verb) (cases : List (Expr × List Node)) (body : List Node) :
    branchMarks verb (cases ++ [(condition, body)]) =
      branchMarks verb (cases ++ [(condition, [])]) ++ bodyMarks body := by
  induction cases generalizing verb with
  | nil => simp [branchMarks, bodyMarks]
  | cons first cases ih =>
    obtain ⟨other, inner⟩ := first
    simp only [List.cons_append, branchMarks, ih, List.append_assoc]

theorem branchMarks_next (verb : Verb) {cases : List (Expr × List Node)} (some : cases ≠ []) :
    branchMarks verb (cases ++ [(condition, [])]) =
      branchMarks verb cases ++ [.headed .elseIf condition] := by
  induction cases generalizing verb with
  | nil => exact absurd rfl some
  | cons first cases ih =>
    obtain ⟨other, inner⟩ := first
    simp only [List.cons_append, branchMarks]
    cases cases with
    | nil => simp [branchMarks, bodyMarks]
    | cons second cases => rw [ih .elseIf (List.cons_ne_nil _ _), List.append_assoc]

end Node

namespace Build
open Node

def Block.marks : Block → List Mark
  | .branch before condition => branchMarks .ifStart (before ++ [(condition, [])])
  | .otherwise branches => branchMarks .ifStart branches ++ [.bare .elseStart]
  | .foreach header => [.foreach header]
  | .forLoop header => [.forLoop header]
  | .whileLoop condition => [.headed .whileStart condition]
  | .doLoop => [.bare .doStart]

def openMarks : List Open → List Mark
  | [] => []
  | o :: outer => openMarks outer ++ bodyMarks o.front ++ o.block.marks

def Stack.marks (s : Stack) : List Mark :=
  openMarks s.opened ++ bodyMarks s.nodes

variable {s t : Stack} {i : Instruction}

theorem marks_add (s : Stack) (n : Node) : (s.add n).marks = s.marks ++ n.marks := by
  simp only [Stack.marks, Stack.add, bodyMarks_snoc, List.append_assoc]

theorem marks_enter (s : Stack) (opener : Instruction) (b : Block) :
    (s.enter opener b).marks = s.marks ++ b.marks := by
  simp only [Stack.marks, Stack.enter, openMarks, bodyMarks, List.append_nil]

theorem marks_leave {n : Node} {b : Block} {mark : Mark} {opener : Instruction}
    {front nodes : List Node} {outer : List Open}
    (whole : n.marks = b.marks ++ bodyMarks nodes ++ [mark]) :
    (⟨outer, front ++ [n]⟩ : Stack).marks =
      (⟨⟨opener, b, front⟩ :: outer, nodes⟩ : Stack).marks ++ [mark] := by
  simp only [Stack.marks, openMarks, bodyMarks_snoc, whole, List.append_assoc]

theorem shows_of_step {α : Type} {verb : Verb} {header : Except Error α} {mark : α → Mark}
    {next : α → Stack} (h : (header >>= fun a => pure (next a)) = .ok t)
    (key : Verb.ofText? i.keywordText = some verb)
    (shown : i.mark verb = header >>= fun a => pure (mark a))
    (marks : ∀ a, (next a).marks = s.marks ++ [mark a]) :
    ∃ mark, (Piece.instruction i).Shows mark ∧ t.marks = s.marks ++ [mark] := by
  obtain ⟨a, read, h⟩ := bind_eq_ok.1 h
  cases h
  rw [read] at shown
  exact ⟨mark a, ⟨verb, key, shown⟩, marks a⟩

theorem step_marks (h : s.step i = .ok t) :
    ∃ mark, (Piece.instruction i).Shows mark ∧ t.marks = s.marks ++ [mark] := by
  obtain ⟨opened, nodes⟩ := s
  unfold Stack.step at h
  split at h
  · next key => exact shows_of_step h key rfl fun _ => marks_add ..
  · next key => exact shows_of_step h key rfl fun _ => marks_add ..
  · next key => exact shows_of_step h key rfl fun _ => marks_add ..
  · next key => exact shows_of_step h key rfl fun _ => marks_add ..
  · next key => exact shows_of_step h key rfl fun _ => marks_enter ..
  · next key => exact shows_of_step h key rfl fun _ => marks_enter ..
  · next key => exact shows_of_step h key rfl fun _ => marks_enter ..
  · next key => exact shows_of_step h key rfl fun _ => marks_enter ..
  · next key => exact shows_of_step h key rfl fun _ => marks_enter ..
  · next opener before condition front outer key same =>
    cases same
    refine shows_of_step h key rfl fun e => ?_
    simp only [Stack.marks, openMarks, Block.marks, bodyMarks, List.append_nil]
    rw [branchMarks_next .ifStart (by simp), branchMarks_body]
    simp only [List.append_assoc]
  · next opener before condition front outer key same =>
    cases same
    refine shows_of_step h key rfl fun _ => ?_
    simp only [Stack.marks, openMarks, Block.marks, bodyMarks, List.append_nil]
    rw [branchMarks_body]
    simp only [List.append_assoc]
  · next opener before condition front outer key same =>
    cases same
    refine shows_of_step h key rfl fun _ => marks_leave ?_
    rw [marks, lastMarks, branchMarks_body, List.append_nil]
    rfl
  · next opener branches front outer key same =>
    cases same
    refine shows_of_step h key rfl fun _ => marks_leave ?_
    simp only [marks, lastMarks, Block.marks, List.append_assoc, List.singleton_append]
  · next key same =>
    cases same
    exact shows_of_step h key rfl fun _ => marks_leave rfl
  · next key same =>
    cases same
    exact shows_of_step h key rfl fun _ => marks_leave rfl
  · next key same =>
    cases same
    exact shows_of_step h key rfl fun _ => marks_leave rfl
  · next key same =>
    cases same
    exact shows_of_step h key rfl fun _ => marks_leave rfl
  · cases h
  · split at h <;> cases h

theorem read_marks {program : Program} {ps : List Piece} (h : s.read ps = .ok program) :
    ∃ marks, program.marks = s.marks ++ marks ∧ List.Forall₂ Piece.Shows ps marks := by
  induction ps generalizing s with
  | nil =>
    rw [Stack.read, Stack.finish] at h
    split at h
    · next none =>
      cases h
      refine ⟨[], ?_, .nil⟩
      rw [Stack.marks, none, openMarks, List.nil_append, List.append_nil]
      rfl
    · cases h
  | cons p ps ih =>
    cases p with
    | text cs =>
      rw [Stack.read] at h
      obtain ⟨marks, whole, shown⟩ := ih h
      rw [marks_add, List.append_assoc] at whole
      exact ⟨_, whole, .cons rfl shown⟩
    | instruction i =>
      rw [Stack.read] at h
      obtain ⟨t, one, rest⟩ := bind_eq_ok.1 h
      obtain ⟨mark, first, same⟩ := step_marks one
      obtain ⟨marks, whole, shown⟩ := ih rest
      rw [same, List.append_assoc] at whole
      exact ⟨_, whole, .cons first shown⟩

end Build

/-- A program is built by a stack of open blocks, in one pass over the pieces. Written out in order, it
is what the pieces show, one after the other. -/
theorem Program.parse_eq_stack (cs : List Char) :
    Program.parse cs = Piece.cut 0 cs >>= Build.Stack.start.read ∧
      ∀ {program}, Program.parse cs = .ok program →
        ∃ pieces, Piece.cut 0 cs = .ok pieces ∧ List.Forall₂ Piece.Shows pieces program.marks := by
  refine ⟨Build.parse_eq_read cs, fun {program} h => ?_⟩
  rw [Build.parse_eq_read] at h
  obtain ⟨pieces, cuts, read⟩ := bind_eq_ok.1 h
  obtain ⟨marks, whole, shown⟩ := Build.read_marks read
  rw [whole]
  exact ⟨pieces, cuts, shown⟩

def Program.greeting : Program :=
  ⟨[.choose [(.path ⟨"name", []⟩, [.text "Hi ", .print (.path ⟨"name", []⟩)])] (some [.text "Hi"]),
    .text "!"]⟩

def Program.greetingText : String :=
  "<?tpl if $name ?>Hi <?tpl print $name ?><?tpl else ?>Hi<?tpl endif ?>!"

theorem Program.parse_eq_stack_greeting :
    Program.parse greetingText.toList = .ok greeting ∧
      greeting.marks =
        [.headed .ifStart (.path ⟨"name", []⟩), .text "Hi ", .headed .print (.path ⟨"name", []⟩),
          .bare .elseStart, .text "Hi", .bare .endIf, .text "!"] ∧
      ∃ pieces, Piece.cut 0 greetingText.toList = .ok pieces ∧
        List.Forall₂ Piece.Shows pieces greeting.marks := by
  have parsed : Program.parse greetingText.toList = .ok greeting := by
    cbv
  exact ⟨parsed, rfl, (parse_eq_stack _).2 parsed⟩

end Stencil
