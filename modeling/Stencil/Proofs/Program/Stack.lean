import Stencil.Proofs.Program.Building

/-!
# Building with a stack

Pieces are read one after the other, and the blocks that are still open wait on a stack. This builds the
same programs as reading block by block does, with the same errors (`read_eq`).
-/

namespace Stencil.Build

/-- A block that is still open, without the nodes that are read now. -/
inductive Block where
  | branch (before : List (Expr × List Node)) (condition : Expr)
  | otherwise (branches : List (Expr × List Node))
  | foreach (header : ForeachHeader)
  | forLoop (header : ForHeader)
  | whileLoop (condition : Expr)
  | doLoop

structure Open where
  opener : Instruction
  block : Block
  front : List Node

structure Stack where
  opened : List Open
  nodes : List Node

namespace Stack

def start : Stack :=
  ⟨[], []⟩

def add (s : Stack) (node : Node) : Stack :=
  { s with nodes := s.nodes ++ [node] }

def enter (s : Stack) (opener : Instruction) (block : Block) : Stack :=
  ⟨⟨opener, block, s.nodes⟩ :: s.opened, []⟩

/-- Read one instruction. An instruction that ends a part of a block must belong to the innermost open
block. -/
def step (s : Stack) (i : Instruction) : Except Error Stack :=
  match Verb.ofText? i.keywordText, s.opened with
  | some .print, _ => do
    return s.add (.print (← i.expression))
  | some .echo, _ => do
    return s.add (.echo (← i.expression))
  | some .dump, _ => do
    return s.add (.dump (← i.expression))
  | some .exec, _ => do
    return s.add (.exec (← i.readHeader Stmt.parseAll))
  | some .ifStart, _ => do
    return s.enter i (.branch [] (← i.expression))
  | some .foreachStart, _ => do
    return s.enter i (.foreach (← i.readHeader ForeachHeader.parse))
  | some .forStart, _ => do
    return s.enter i (.forLoop (← i.readHeader ForHeader.parse))
  | some .whileStart, _ => do
    return s.enter i (.whileLoop (← i.expression))
  | some .doStart, _ => do
    i.noHeader
    return s.enter i .doLoop
  | some .elseIf, ⟨opener, .branch before condition, front⟩ :: outer => do
    return ⟨⟨opener, .branch (before ++ [(condition, s.nodes)]) (← i.expression), front⟩ :: outer, []⟩
  | some .elseStart, ⟨opener, .branch before condition, front⟩ :: outer => do
    i.noHeader
    return ⟨⟨opener, .otherwise (before ++ [(condition, s.nodes)]), front⟩ :: outer, []⟩
  | some .endIf, ⟨_, .branch before condition, front⟩ :: outer => do
    i.noHeader
    return ⟨outer, front ++ [.choose (before ++ [(condition, s.nodes)]) none]⟩
  | some .endIf, ⟨_, .otherwise branches, front⟩ :: outer => do
    i.noHeader
    return ⟨outer, front ++ [.choose branches (some s.nodes)]⟩
  | some .endForeach, ⟨_, .foreach header, front⟩ :: outer => do
    i.noHeader
    return ⟨outer, front ++ [.foreach header s.nodes]⟩
  | some .endFor, ⟨_, .forLoop header, front⟩ :: outer => do
    i.noHeader
    return ⟨outer, front ++ [.forLoop header s.nodes]⟩
  | some .endWhile, ⟨_, .whileLoop condition, front⟩ :: outer => do
    i.noHeader
    return ⟨outer, front ++ [.whileLoop condition s.nodes]⟩
  | some .doWhile, ⟨_, .doLoop, front⟩ :: outer => do
    return ⟨outer, front ++ [.doLoop s.nodes (← i.expression)]⟩
  | some _, _ => .error (i.complaint .unexpectedInstruction)
  | none, _ =>
    if i.keyword.isEmpty then .error (.malformed i.offset .emptyInstruction)
    else .error (i.complaint .unknownInstruction)

def finish (s : Stack) : Except Error Program :=
  match s.opened with
  | [] => .ok ⟨s.nodes⟩
  | innermost :: _ => .error (innermost.opener.complaint .unclosedBlock)

def read (s : Stack) : List Piece → Except Error Program
  | [] => s.finish
  | .text cs :: ps => (s.add (.text (String.ofList cs))).read ps
  | .instruction i :: ps => do (← s.step i).read ps

def endings (s : Stack) : List Verb :=
  match s.opened with
  | [] => []
  | ⟨_, .branch .., _⟩ :: _ => [.elseIf, .elseStart, .endIf]
  | ⟨_, .otherwise _, _⟩ :: _ => [.endIf]
  | ⟨_, .foreach _, _⟩ :: _ => [.endForeach]
  | ⟨_, .forLoop _, _⟩ :: _ => [.endFor]
  | ⟨_, .whileLoop _, _⟩ :: _ => [.endWhile]
  | ⟨_, .doLoop, _⟩ :: _ => [.doWhile]

def addAll (s : Stack) (nodes : List Node) : Stack :=
  { s with nodes := s.nodes ++ nodes }

def resume (s : Stack) {ps : List Piece} : Found ps → Except Error Program
  | .closed ⟨(nodes, i), rest, _⟩ => do ((← (s.addAll nodes).step i).read rest)
  | .unclosed nodes => (s.addAll nodes).finish

end Stack

open Stack

variable {s : Stack} {i : Instruction} {ps qs : List Piece}

/-! ## Steps -/

theorem addAll_nil (s : Stack) : s.addAll [] = s := by
  simp [addAll]

theorem addAll_cons (s : Stack) (n : Node) (ns : List Node) :
    s.addAll (n :: ns) = (s.add n).addAll ns := by
  simp [addAll, add]

theorem endings_add (s : Stack) (n : Node) : (s.add n).endings = s.endings :=
  rfl

theorem step_elseIf (key : Verb.ofText? i.keywordText = some .elseIf) (s : Stack)
    (opener : Instruction) (before : List (Expr × List Node)) (condition : Expr) (nodes : List Node) :
    ((s.enter opener (.branch before condition)).addAll nodes).step i = do
      return s.enter opener (.branch (before ++ [(condition, nodes)]) (← i.expression)) := by
  rw [step, key]
  rfl

theorem step_else (key : Verb.ofText? i.keywordText = some .elseStart) (s : Stack)
    (opener : Instruction) (before : List (Expr × List Node)) (condition : Expr) (nodes : List Node) :
    ((s.enter opener (.branch before condition)).addAll nodes).step i = do
      i.noHeader
      return s.enter opener (.otherwise (before ++ [(condition, nodes)])) := by
  rw [step, key]
  rfl

theorem step_endIf (key : Verb.ofText? i.keywordText = some .endIf) (s : Stack)
    (opener : Instruction) (before : List (Expr × List Node)) (condition : Expr) (nodes : List Node) :
    ((s.enter opener (.branch before condition)).addAll nodes).step i = do
      i.noHeader
      return s.add (.choose (before ++ [(condition, nodes)]) none) := by
  rw [step, key]
  rfl

theorem step_doWhile (key : Verb.ofText? i.keywordText = some .doWhile) (s : Stack)
    (opener : Instruction) (nodes : List Node) :
    ((s.enter opener .doLoop).addAll nodes).step i = do
      return s.add (.doLoop nodes (← i.expression)) := by
  rw [step, key]
  rfl

theorem step_unexpected {verb : Verb} (key : Verb.ofText? i.keywordText = some verb)
    (ends : verb ∈ closing) (foreign : verb ∉ s.endings) :
    s.step i = .error (i.complaint .unexpectedInstruction) := by
  obtain ⟨opened, nodes⟩ := s
  unfold step
  rw [key]
  unfold endings at foreign
  cases opened with
  | nil => cases verb <;> first | rfl | exact absurd ends (by decide)
  | cons innermost outer =>
    obtain ⟨opener, block, front⟩ := innermost
    cases block <;> cases verb <;>
      first | rfl | exact absurd ends (by decide) | exact absurd (by simp) foreign

theorem resume_begunWith (s : Stack) (n : Node) (bounded : qs.length ≤ ps.length) (found : Found qs) :
    s.resume (found.begunWith n bounded) = (s.add n).resume found := by
  cases found with
  | unclosed nodes => simp only [Found.begunWith, resume, addAll_cons]
  | closed block =>
    obtain ⟨⟨nodes, i⟩, rest, shorter⟩ := block
    simp only [Found.begunWith, resume, addAll_cons]

/-! ## Blocks -/

def Found.ending? : Found ps → Option Instruction
  | .closed block => some block.value.2
  | .unclosed _ => none

theorem ending?_begunWith (n : Node) (bounded : qs.length ≤ ps.length) (found : Found qs) :
    (found.begunWith n bounded).ending? = found.ending? := by
  cases found <;> rfl

theorem ends_of_block {ps : List Piece} {endings : List Verb} {found : Found ps} (h : block endings ps = .ok found)
    (ended : found.ending? = some i) : ∃ verb ∈ endings, Verb.ofText? i.keywordText = some verb := by
  match ps with
  | [] =>
    rw [block] at h
    cases h
    cases ended
  | .text cs :: ps =>
    rw [block] at h
    obtain ⟨inner, read, h⟩ := bind_eq_ok.1 h
    cases h
    rw [ending?_begunWith] at ended
    exact ends_of_block read ended
  | .instruction j :: ps =>
    rw [block] at h
    split at h
    · next ends =>
      cases h
      cases ended
      obtain ⟨verb, known, mem⟩ := (Option.any_eq_true _ _).1 ends
      exact ⟨verb, List.contains_iff_mem.1 mem, known⟩
    · obtain ⟨⟨n, rest, bounded⟩, -, h⟩ := bind_eq_ok.1 h
      obtain ⟨inner, read, h⟩ := bind_eq_ok.1 h
      cases h
      rw [ending?_begunWith] at ended
      exact ends_of_block read ended
termination_by ps.length

/-- Reading with the stack goes on as reading the nodes of the innermost open block does. -/
def Agrees (ps : List Piece) : Prop :=
  ∀ s : Stack, s.read ps = block s.endings ps >>= s.resume

theorem Agrees.body (agrees : Agrees ps) (s : Stack) (opener : Instruction) (b : Block) (verb : Verb)
    (loop : List Node → Node) (ends : (s.enter opener b).endings = [verb])
    (closes : ∀ {nodes i}, Verb.ofText? i.keywordText = some verb →
      ((s.enter opener b).addAll nodes).step i = do i.noHeader; return s.add (loop nodes)) :
    (s.enter opener b).read ps =
      Build.body opener verb ps >>= fun r => (s.add (loop r.value)).read r.rest := by
  rw [agrees, ends, Build.body]
  cases inner : block [verb] ps with
  | error e => rfl
  | ok found =>
    cases found with
    | unclosed nodes => rfl
    | closed r =>
      obtain ⟨⟨nodes, i⟩, rest, shorter⟩ := r
      obtain ⟨v, mem, key⟩ := ends_of_block inner rfl
      rw [List.mem_singleton.1 mem] at key
      simp only [ok_bind, resume, closes key, closed]
      cases i.noHeader <;> rfl

theorem Agrees.loop (agrees : Agrees ps) (s : Stack) (opener : Instruction) (b : Block) (verb : Verb)
    (loop : List Node → Node) (ends : (s.enter opener b).endings = [verb])
    (closes : ∀ {nodes i}, Verb.ofText? i.keywordText = some verb →
      ((s.enter opener b).addAll nodes).step i = do i.noHeader; return s.add (loop nodes)) :
    (s.enter opener b).read ps =
      (Build.body opener verb ps >>= fun
        | ⟨nodes, rest, shorter⟩ => .ok (⟨loop nodes, rest, Nat.le_of_lt shorter⟩ : Continued Node ps))
      >>= fun r => (s.add r.value).read r.rest := by
  rw [agrees.body s opener b verb loop ends closes]
  cases Build.body opener verb ps <;> rfl

theorem Agrees.doLoop (agrees : Agrees ps) (s : Stack) (opener : Instruction) :
    (s.enter opener .doLoop).read ps =
      block [.doWhile] ps >>= fun found => closed opener found >>= fun r =>
        r.value.2.expression >>= fun e => (s.add (.doLoop r.value.1 e)).read r.rest := by
  have ends : (s.enter opener .doLoop).endings = [.doWhile] := rfl
  rw [agrees, ends]
  cases inner : block [.doWhile] ps with
  | error e => rfl
  | ok found =>
    cases found with
    | unclosed nodes => rfl
    | closed r =>
      obtain ⟨⟨nodes, i⟩, rest, shorter⟩ := r
      obtain ⟨verb, mem, key⟩ := ends_of_block inner rfl
      rw [List.mem_singleton.1 mem] at key
      simp only [ok_bind, resume, closed, step_doWhile key]
      cases i.expression <;> rfl

theorem agrees_branches {ps : List Piece} (agrees : ∀ qs, qs.length ≤ ps.length → Agrees qs)
    (s : Stack) (opener : Instruction) (before : List (Expr × List Node)) (condition : Expr) :
    (s.enter opener (.branch before condition)).read ps =
      branches opener before condition ps >>= fun r => (s.add r.value).read r.rest := by
  have ends : (s.enter opener (.branch before condition)).endings =
      [.elseIf, .elseStart, .endIf] := rfl
  rw [agrees ps (Nat.le_refl _), ends, branches]
  cases inner : block [.elseIf, .elseStart, .endIf] ps with
  | error e => rfl
  | ok found =>
    cases found with
    | unclosed nodes => rfl
    | closed r =>
      obtain ⟨⟨nodes, i⟩, rest, shorter⟩ := r
      have inside : ∀ qs, qs.length ≤ rest.length → Agrees qs := fun qs fewer =>
        agrees qs (Nat.le_trans fewer (Nat.le_of_lt shorter))
      obtain ⟨verb, mem, key⟩ := ends_of_block inner rfl
      simp only [List.mem_cons, List.not_mem_nil, or_false] at mem
      rcases mem with rfl | rfl | rfl
      · simp only [ok_bind, resume, closed, key, step_elseIf key]
        cases i.expression with
        | error e => rfl
        | ok e =>
          refine (agrees_branches inside s opener (before ++ [(condition, nodes)]) e).trans ?_
          simp only [ok_bind]
          cases branches opener (before ++ [(condition, nodes)]) e rest <;> rfl
      · simp only [ok_bind, resume, closed, key, step_else key]
        cases i.noHeader with
        | error e => rfl
        | ok _ =>
          have last := (inside rest (Nat.le_refl _)).body s opener
            (.otherwise (before ++ [(condition, nodes)])) .endIf
            (fun otherwise => .choose (before ++ [(condition, nodes)]) (some otherwise)) rfl
            fun key => by rw [step, key]; rfl
          refine last.trans ?_
          simp only [ok_bind]
          cases Build.body opener .endIf _ <;> rfl
      · simp only [ok_bind, resume, closed, key, step_endIf key]
        cases i.noHeader <;> rfl
termination_by ps.length

theorem node_unexpected {verb : Verb} (ends : verb ∈ closing) (ps : List Piece) :
    node (some verb) i ps = .error (i.complaint .unexpectedInstruction) := by
  simp only [closing, List.mem_cons, List.not_mem_nil, or_false] at ends
  rcases ends with rfl | rfl | rfl | rfl | rfl | rfl | rfl <;> simp [node]

theorem agrees_node {ps : List Piece} (agrees : ∀ qs, qs.length ≤ ps.length → Agrees qs) (s : Stack)
    (foreign : (Verb.ofText? i.keywordText).any s.endings.contains = false) :
    (s.step i >>= fun s => s.read ps) =
      node (Verb.ofText? i.keywordText) i ps >>= fun r => (s.add r.value).read r.rest := by
  have here : Agrees ps := agrees ps (Nat.le_refl _)
  have unexpected : ∀ {verb}, Verb.ofText? i.keywordText = some verb → verb ∈ closing →
      (s.step i >>= fun s => s.read ps) =
        node (some verb) i ps >>= fun r => (s.add r.value).read r.rest := by
    intro verb key ends
    have absent : verb ∉ s.endings := by
      simpa [key] using foreign
    rw [step_unexpected key ends absent, node_unexpected ends]
    rfl
  cases key : Verb.ofText? i.keywordText with
  | none =>
    rw [step, key, node]
    cases i.keyword.isEmpty <;> rfl
  | some verb =>
    cases verb with
    | print =>
      rw [step, key, node]
      cases i.expression <;> rfl
    | echo =>
      rw [step, key, node]
      cases i.expression <;> rfl
    | dump =>
      rw [step, key, node]
      cases i.expression <;> rfl
    | exec =>
      rw [step, key, node]
      cases i.readHeader Stmt.parseAll <;> rfl
    | ifStart =>
      rw [step, key, node]
      cases i.expression with
      | error e => rfl
      | ok e => exact agrees_branches agrees s i [] e
    | foreachStart =>
      rw [step, key, node]
      cases i.readHeader ForeachHeader.parse with
      | error e => rfl
      | ok header =>
        exact here.loop s i (.foreach header) .endForeach (.foreach header) rfl
          fun key => by rw [step, key]; rfl
    | forStart =>
      rw [step, key, node]
      cases i.readHeader ForHeader.parse with
      | error e => rfl
      | ok header =>
        exact here.loop s i (.forLoop header) .endFor (.forLoop header) rfl
          fun key => by rw [step, key]; rfl
    | whileStart =>
      rw [step, key, node]
      cases i.expression with
      | error e => rfl
      | ok e =>
        exact here.loop s i (.whileLoop e) .endWhile (.whileLoop e) rfl
          fun key => by rw [step, key]; rfl
    | doStart =>
      rw [step, key, node]
      cases i.noHeader with
      | error e => rfl
      | ok _ =>
        refine (here.doLoop s i).trans ?_
        simp only [ok_bind]
        cases block [.doWhile] ps with
        | error e => rfl
        | ok found =>
          simp only [ok_bind]
          cases closed i found with
          | error e => rfl
          | ok r =>
            simp only [ok_bind]
            cases r.value.2.expression <;> rfl
    | _ => exact unexpected key (by decide)

theorem agrees (ps : List Piece) : Agrees ps := by
  intro s
  match ps with
  | [] =>
    rw [block, ok_bind, resume, addAll_nil]
    rfl
  | .text cs :: ps =>
    rw [Stack.read, agrees ps, block, endings_add]
    cases block s.endings ps with
    | error e => rfl
    | ok found => exact (resume_begunWith s _ _ found).symm
  | .instruction i :: ps =>
    rw [Stack.read, block]
    split
    · rw [ok_bind, resume, addAll_nil]
    · next foreign =>
      have inside : ∀ qs, qs.length ≤ ps.length → Agrees qs := fun qs fewer => agrees qs
      rw [agrees_node inside s (Bool.eq_false_iff.2 foreign)]
      cases node (Verb.ofText? i.keywordText) i ps with
      | error e => rfl
      | ok r =>
        obtain ⟨n, rest, bounded⟩ := r
        simp only [ok_bind]
        rw [agrees rest, endings_add]
        cases block s.endings rest with
        | error e => rfl
        | ok found => exact (resume_begunWith s n _ found).symm
termination_by ps.length
decreasing_by all_goals simp only [List.length_cons]; omega

theorem parse_eq_read (cs : List Char) :
    Program.parse cs = Piece.cut 0 cs >>= Stack.start.read := by
  rw [Program.parse]
  cases Piece.cut 0 cs with
  | error e => rfl
  | ok pieces =>
    have ends : Stack.start.endings = [] := rfl
    simp only [ok_bind]
    rw [agrees pieces, ends]
    cases inner : block [] pieces with
    | error e => rfl
    | ok found =>
      cases found with
      | unclosed nodes => rfl
      | closed r =>
        obtain ⟨verb, mem, -⟩ := ends_of_block inner rfl
        cases mem

end Stencil.Build
