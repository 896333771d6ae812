import Stencil.Program.Build
import Stencil.Proofs.Expr.Headers

/-!
# Building programs

Pieces build the same nodes in every block (`Builds`). There is one lemma for each form of node, and
the nodes of a block come out of the pieces of its nodes one after the other.
-/

namespace Stencil

namespace Instruction

variable {i : Instruction} {h : List Char}

theorem ofText?_keywordText {verb : Verb} (key : i.keyword = verb.text.toList) :
    Verb.ofText? i.keywordText = some verb := by
  rw [keywordText, key, String.ofList_toList, Verb.ofText?_text]

theorem readHeader_eq_ok {α : Type} {a : α} {reader : List Char → Except Error α}
    (kinds : ReadsKinds reader) (head : i.header = Text.trim h) (read : reader h = .ok a) :
    i.readHeader reader = .ok a := by
  rw [readHeader, head, kinds.trim read]
  rfl

theorem expression_eq_ok {e : Expr} (head : i.header = Text.trim h) (read : Expr.parse h = .ok e) :
    i.expression = .ok e := by
  have trimmed := readsKinds_expr.trim read
  have some : i.header.isEmpty = false := by
    rw [head]
    refine Bool.eq_false_iff.2 fun empty => ?_
    rw [List.isEmpty_iff.1 empty, Expr.parse_eq_ok_iff] at trimmed
    obtain ⟨ks, lexed, derived⟩ := trimmed
    obtain ⟨k, tail, same, -⟩ := derived.begun
    cases lexed
    cases same
  rw [expression, some]
  exact readHeader_eq_ok readsKinds_expr head read

theorem noHeader_eq_ok (head : i.header = []) : i.noHeader = .ok () := by
  rw [noHeader, head]
  rfl

end Instruction

namespace Build

variable {ps : List Piece} {nodes : List Node} {i : Instruction}

/-- The reader of a block finds these nodes, up to an instruction with the pieces after it or up to
the end of the pieces. -/
def Finds (result : Except Error (Found ps)) (nodes : List Node) :
    Option (Instruction × List Piece) → Prop
  | some (i, rest) => ∃ shorter, result = .ok (.closed ⟨(nodes, i), rest, shorter⟩)
  | none => result = .ok (.unclosed nodes)

def closing : List Verb :=
  [.elseIf, .elseStart, .endIf, .endForeach, .endFor, .endWhile, .doWhile]

/-- In every block the pieces build the nodes, in front of what comes after them. -/
def Builds (pieces : List Piece) (nodes : List Node) : Prop :=
  ∀ {endings ps more ending}, endings ⊆ closing → Finds (block endings ps) more ending →
    Finds (block endings (pieces ++ ps)) (nodes ++ more) ending

theorem Finds.begunWith {qs : List Piece} {result : Except Error (Found qs)}
    {ending : Option (Instruction × List Piece)} (node : Node) (bounded : qs.length ≤ ps.length)
    (found : Finds result nodes ending) :
    Finds (result >>= fun block => pure (block.begunWith node bounded)) (node :: nodes) ending := by
  match ending with
  | some (i, rest) =>
    obtain ⟨shorter, rfl⟩ := found
    exact ⟨_, rfl⟩
  | none =>
    rw [found]
    rfl

/-! ## Nodes one after the other -/

theorem Builds.nil : Builds [] [] :=
  fun _ found => found

theorem Builds.append {pieces qs : List Piece} {more : List Node} (first : Builds pieces nodes)
    (second : Builds qs more) : Builds (pieces ++ qs) (nodes ++ more) := by
  intro endings ps others ending known found
  rw [List.append_assoc, List.append_assoc]
  exact first known (second known found)

theorem builds_text (cs : List Char) : Builds [.text cs] [.text (String.ofList cs)] := by
  intro endings ps more ending _ found
  rw [List.singleton_append, block]
  exact found.begunWith _ _

theorem builds_node (verb : Verb) {n : Node} {pieces : List Piece} (opens : verb ∉ closing)
    (key : i.keyword = verb.text.toList)
    (read : ∀ ps, Continues (node (some verb) i (pieces ++ ps)) n ps) :
    Builds (.instruction i :: pieces) [n] := by
  intro endings ps more ending known found
  obtain ⟨bounded, read⟩ := read ps
  have inside : (some verb).any endings.contains = false := by
    refine Bool.eq_false_iff.2 fun mem => opens (known ?_)
    simpa using mem
  rw [List.cons_append, block, Instruction.ofText?_keywordText key, inside, read]
  exact found.begunWith _ _

theorem finds_ending {verb : Verb} {endings : List Verb} (mem : verb ∈ endings)
    (key : i.keyword = verb.text.toList) (ps : List Piece) :
    Finds (block endings (.instruction i :: ps)) [] (some (i, ps)) := by
  have inside : (some verb).any endings.contains = true := by simpa using mem
  refine ⟨by simp, ?_⟩
  rw [block, Instruction.ofText?_keywordText key, inside]
  rfl

theorem Builds.reads_closed {pieces : List Piece} (verb : Verb) (endings : List Verb)
    (built : Builds pieces nodes) (known : endings ⊆ closing) (mem : verb ∈ endings)
    (key : i.keyword = verb.text.toList) (opener : Instruction) (ps : List Piece) :
    Reads (block endings (pieces ++ .instruction i :: ps) >>= closed opener) (nodes, i) ps := by
  obtain ⟨shorter, found⟩ := built known (finds_ending mem key ps)
  rw [List.append_nil] at found
  exact ⟨shorter, by rw [found]; rfl⟩

theorem Builds.reads_body {pieces : List Piece} (verb : Verb) (built : Builds pieces nodes)
    (mem : verb ∈ closing) (key : i.keyword = verb.text.toList) (head : i.header = [])
    (opener : Instruction) (ps : List Piece) :
    Reads (body opener verb (pieces ++ .instruction i :: ps)) nodes ps := by
  have known : [verb] ⊆ closing := by simpa using mem
  obtain ⟨shorter, found⟩ :=
    built.reads_closed verb [verb] known (List.mem_singleton_self _) key opener ps
  refine ⟨shorter, ?_⟩
  obtain ⟨block, one, two⟩ := bind_eq_ok.1 found
  rw [body, one, ok_bind, two, ok_bind]
  simp only [Instruction.noHeader_eq_ok head]
  rfl

/-! ## Leaves -/

variable {e : Expr}

theorem builds_leaf (verb : Verb) {n : Node} (opens : verb ∉ closing)
    (key : i.keyword = verb.text.toList) (read : ∀ ps, node (some verb) i ps = .ok (leaf ps n)) :
    Builds [.instruction i] [n] := by
  refine builds_node verb opens key fun ps => ?_
  rw [List.nil_append, read]
  exact continues_ok.2 ⟨rfl, rfl⟩

theorem builds_print (key : i.keyword = "print".toList) (read : i.expression = .ok e) :
    Builds [.instruction i] [.print e] := by
  refine builds_leaf .print (by decide) key fun ps => ?_
  rw [node, read]
  rfl

theorem builds_echo (key : i.keyword = "echo".toList) (read : i.expression = .ok e) :
    Builds [.instruction i] [.echo e] := by
  refine builds_leaf .echo (by decide) key fun ps => ?_
  rw [node, read]
  rfl

theorem builds_dump (key : i.keyword = "dump".toList) (read : i.expression = .ok e) :
    Builds [.instruction i] [.dump e] := by
  refine builds_leaf .dump (by decide) key fun ps => ?_
  rw [node, read]
  rfl

theorem builds_exec {ss : List Stmt} (key : i.keyword = "exec".toList)
    (read : i.readHeader Stmt.parseAll = .ok ss) : Builds [.instruction i] [.exec ss] := by
  refine builds_leaf .exec (by decide) key fun ps => ?_
  rw [node, read]
  rfl

/-! ## Loops -/

variable {pieces : List Piece} {j : Instruction}

theorem builds_loop (verb ending : Verb) {loop : List Node → Node} (opens : verb ∉ closing)
    (key : i.keyword = verb.text.toList) (built : Builds pieces nodes) (closes : ending ∈ closing)
    (last : j.keyword = ending.text.toList) (empty : j.header = [])
    (read : ∀ {ps rest}, Reads (body i ending ps) nodes rest →
      Continues (node (some verb) i ps) (loop nodes) rest) :
    Builds (.instruction i :: (pieces ++ [.instruction j])) [loop nodes] := by
  refine builds_node verb opens key fun ps => ?_
  rw [List.append_assoc, List.singleton_append]
  exact read (built.reads_body ending closes last empty i ps)

theorem builds_foreach {header : ForeachHeader} (key : i.keyword = "foreach".toList)
    (read : i.readHeader ForeachHeader.parse = .ok header) (built : Builds pieces nodes)
    (last : j.keyword = "endforeach".toList) (empty : j.header = []) :
    Builds (.instruction i :: (pieces ++ [.instruction j])) [.foreach header nodes] := by
  refine builds_loop .foreachStart .endForeach (by decide) key built (by decide) last empty ?_
  rintro ps rest ⟨shorter, found⟩
  rw [node, read, ok_bind, found]
  exact continues_pure.2 ⟨rfl, rfl⟩

theorem builds_forLoop {header : ForHeader} (key : i.keyword = "for".toList)
    (read : i.readHeader ForHeader.parse = .ok header) (built : Builds pieces nodes)
    (last : j.keyword = "endfor".toList) (empty : j.header = []) :
    Builds (.instruction i :: (pieces ++ [.instruction j])) [.forLoop header nodes] := by
  refine builds_loop .forStart .endFor (by decide) key built (by decide) last empty ?_
  rintro ps rest ⟨shorter, found⟩
  rw [node, read, ok_bind, found]
  exact continues_pure.2 ⟨rfl, rfl⟩

theorem builds_whileLoop (key : i.keyword = "while".toList) (read : i.expression = .ok e)
    (built : Builds pieces nodes) (last : j.keyword = "endwhile".toList) (empty : j.header = []) :
    Builds (.instruction i :: (pieces ++ [.instruction j])) [.whileLoop e nodes] := by
  refine builds_loop .whileStart .endWhile (by decide) key built (by decide) last empty ?_
  rintro ps rest ⟨shorter, found⟩
  rw [node, read, ok_bind, found]
  exact continues_pure.2 ⟨rfl, rfl⟩

theorem builds_doLoop (key : i.keyword = "do".toList) (empty : i.header = [])
    (built : Builds pieces nodes) (last : j.keyword = "dowhile".toList)
    (read : j.expression = .ok e) :
    Builds (.instruction i :: (pieces ++ [.instruction j])) [.doLoop nodes e] := by
  refine builds_node .doStart (by decide) key fun ps => ?_
  obtain ⟨shorter, found⟩ :=
    built.reads_closed .doWhile [.doWhile] (by decide) (by decide) last i ps
  obtain ⟨block, one, two⟩ := bind_eq_ok.1 found
  rw [List.append_assoc, List.singleton_append, node, Instruction.noHeader_eq_ok empty, ok_bind,
    one, ok_bind, two, ok_bind]
  simp only [read]
  exact continues_pure.2 ⟨rfl, rfl⟩

/-! ## Choices -/

def BuildsBranches (pieces : List Piece) (others : List (Expr × List Node))
    (otherwise : Option (List Node)) : Prop :=
  ∀ {front nodes} (opener : Instruction) (before : List (Expr × List Node)) (condition : Expr)
    (ps : List Piece), Builds front nodes →
    Continues (branches opener before condition (front ++ (pieces ++ ps)))
      (.choose (before ++ (condition, nodes) :: others) otherwise) ps

theorem buildsBranches_endIf (key : i.keyword = "endif".toList) (empty : i.header = []) :
    BuildsBranches [.instruction i] [] none := by
  intro front nodes opener before condition ps built
  obtain ⟨shorter, found⟩ :=
    built.reads_closed .endIf [.elseIf, .elseStart, .endIf] (by decide) (by decide) key opener ps
  obtain ⟨block, one, two⟩ := bind_eq_ok.1 found
  have verb : Verb.ofText? i.keywordText = some .endIf := Instruction.ofText?_keywordText key
  rw [List.singleton_append, branches, one, ok_bind, two, ok_bind]
  simp only [verb, Instruction.noHeader_eq_ok empty]
  exact continues_pure.2 ⟨rfl, rfl⟩

theorem buildsBranches_else (key : i.keyword = "else".toList) (empty : i.header = [])
    (built : Builds pieces nodes) (last : j.keyword = "endif".toList) (none : j.header = []) :
    BuildsBranches (.instruction i :: (pieces ++ [.instruction j])) [] (some nodes) := by
  intro front first opener before condition ps branch
  obtain ⟨shorter, found⟩ := branch.reads_closed .elseStart [.elseIf, .elseStart, .endIf]
    (by decide) (by decide) key opener (pieces ++ .instruction j :: ps)
  obtain ⟨block, one, two⟩ := bind_eq_ok.1 found
  have verb : Verb.ofText? i.keywordText = some .elseStart := Instruction.ofText?_keywordText key
  obtain ⟨fewer, rest⟩ := built.reads_body .endIf (by decide) last none opener ps
  rw [List.cons_append, List.append_assoc, List.singleton_append, branches, one, ok_bind, two,
    ok_bind]
  simp only [verb, Instruction.noHeader_eq_ok empty, ok_bind, rest]
  exact continues_pure.2 ⟨rfl, rfl⟩

theorem buildsBranches_elseIf {others : List (Expr × List Node)} {otherwise : Option (List Node)}
    {qs : List Piece} (key : i.keyword = "elseif".toList) (read : i.expression = .ok e)
    (built : Builds pieces nodes) (tail : BuildsBranches qs others otherwise) :
    BuildsBranches (.instruction i :: (pieces ++ qs)) ((e, nodes) :: others) otherwise := by
  intro front first opener before condition ps branch
  obtain ⟨shorter, found⟩ := branch.reads_closed .elseIf [.elseIf, .elseStart, .endIf]
    (by decide) (by decide) key opener (pieces ++ (qs ++ ps))
  obtain ⟨block, one, two⟩ := bind_eq_ok.1 found
  have verb : Verb.ofText? i.keywordText = some .elseIf := Instruction.ofText?_keywordText key
  obtain ⟨fewer, rest⟩ := tail opener (before ++ [(condition, first)]) e ps built
  rw [List.append_assoc, List.singleton_append] at rest
  rw [List.cons_append, List.append_assoc, branches, one, ok_bind, two, ok_bind]
  simp only [verb, read, ok_bind, rest]
  exact continues_pure.2 ⟨rfl, rfl⟩

theorem builds_choose {others : List (Expr × List Node)} {otherwise : Option (List Node)}
    {qs : List Piece} (key : i.keyword = "if".toList) (read : i.expression = .ok e)
    (built : Builds pieces nodes) (tail : BuildsBranches qs others otherwise) :
    Builds (.instruction i :: (pieces ++ qs)) [.choose ((e, nodes) :: others) otherwise] := by
  refine builds_node .ifStart (by decide) key fun ps => ?_
  rw [List.append_assoc, node, read, ok_bind]
  exact tail i [] e ps built

end Build

theorem Program.parse_eq_ok {cs : List Char} {pieces : List Piece} {nodes : List Node}
    (cuts : Piece.cut 0 cs = .ok pieces) (built : Build.Builds pieces nodes) :
    Program.parse cs = .ok ⟨nodes⟩ := by
  have empty : Build.Finds (Build.block [] []) [] none := by
    rw [Build.block]
    rfl
  have found : Build.block [] (pieces ++ []) = .ok (.unclosed (nodes ++ [])) :=
    built (List.nil_subset _) empty
  rw [List.append_nil, List.append_nil] at found
  rw [Program.parse, cuts, ok_bind, found]
  rfl

end Stencil
