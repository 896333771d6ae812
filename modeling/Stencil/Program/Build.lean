import Stencil.Expr.Parser
import Stencil.Program.Node
import Stencil.Program.Piece
import Stencil.Program.Verb

/-!
Pieces to programs. Blocks nest, and each ends at an instruction of its own. Each reader says in its
type that it uses up pieces, so building ends.
-/

namespace Stencil

def Error.shifted (offset : Nat) : Error → Error
  | .malformed place problem => .malformed (offset + place) problem
  | e => e

namespace Instruction

def keywordText (i : Instruction) : String :=
  String.ofList i.keyword

def complaint (i : Instruction) (problem : String → Problem) : Error :=
  .malformed i.offset (problem i.keywordText)

def readHeader (i : Instruction) (reader : List Char → Except Error α) : Except Error α :=
  (reader i.header).mapError (Error.shifted i.headerOffset)

def expression (i : Instruction) : Except Error Expr :=
  if i.header.isEmpty then .error (i.complaint .missingHeader) else i.readHeader Expr.parse

def noHeader (i : Instruction) : Except Error Unit :=
  if i.header.isEmpty then .ok ()
  else .error (.malformed i.headerOffset (.unwantedHeader i.keywordText))

end Instruction

namespace Build

/-- How the nodes at the front of `ps` end: at an instruction, or with the pieces. -/
inductive Found (ps : List Piece) where
  | closed (block : Read (List Node × Instruction) ps)
  | unclosed (nodes : List Node)

def closed (opener : Instruction) {ps : List Piece} :
    Found ps → Except Error (Read (List Node × Instruction) ps)
  | .closed block => .ok block
  | .unclosed _ => .error (opener.complaint .unclosedBlock)

def Found.begunWith (node : Node) {ps qs : List Piece} (bounded : qs.length ≤ ps.length) :
    Found qs → Found ps
  | .closed ⟨(nodes, ending), rest, shorter⟩ =>
    .closed ⟨(node :: nodes, ending), rest, Nat.lt_of_lt_of_le shorter bounded⟩
  | .unclosed nodes => .unclosed (node :: nodes)

def leaf (ps : List Piece) (node : Node) : Continued Node ps :=
  ⟨node, ps, Nat.le_refl _⟩

mutual

/-- Read nodes up to an instruction with one of the verbs `endings`. -/
def block (endings : List Verb) (ps : List Piece) : Except Error (Found ps) :=
  match ps with
  | [] => .ok (.unclosed [])
  | .text cs :: rest => do
    return (← block endings rest).begunWith (.text (String.ofList cs)) (by simp)
  | .instruction i :: rest =>
    let verb := Verb.ofText? i.keywordText
    if verb.any endings.contains then .ok (.closed ⟨([], i), rest, by simp⟩)
    else do
      let ⟨node, rest, _⟩ ← node verb i rest
      return (← block endings rest).begunWith node (by simp only [List.length_cons]; omega)
termination_by 3 * ps.length

def node (verb : Option Verb) (i : Instruction) (ps : List Piece) :
    Except Error (Continued Node ps) :=
  match verb with
  | some .print => do
    return leaf ps (.print (← i.expression))
  | some .echo => do
    return leaf ps (.echo (← i.expression))
  | some .dump => do
    return leaf ps (.dump (← i.expression))
  | some .exec => do
    return leaf ps (.exec (← i.readHeader Stmt.parseAll))
  | some .ifStart => do
    branches i [] (← i.expression) ps
  | some .foreachStart => do
    let header ← i.readHeader ForeachHeader.parse
    let ⟨nodes, rest, _⟩ ← body i .endForeach ps
    return ⟨.foreach header nodes, rest, by omega⟩
  | some .forStart => do
    let header ← i.readHeader ForHeader.parse
    let ⟨nodes, rest, _⟩ ← body i .endFor ps
    return ⟨.forLoop header nodes, rest, by omega⟩
  | some .whileStart => do
    let condition ← i.expression
    let ⟨nodes, rest, _⟩ ← body i .endWhile ps
    return ⟨.whileLoop condition nodes, rest, by omega⟩
  | some .doStart => do
    i.noHeader
    let ⟨(nodes, ending), rest, _⟩ ← closed i (← block [.doWhile] ps)
    return ⟨.doLoop nodes (← ending.expression), rest, by omega⟩
  | some _ => .error (i.complaint .unexpectedInstruction)
  | none =>
    if i.keyword.isEmpty then .error (.malformed i.offset .emptyInstruction)
    else .error (i.complaint .unknownInstruction)
termination_by 3 * ps.length + 2

def body (opener : Instruction) (ending : Verb) (ps : List Piece) :
    Except Error (Read (List Node) ps) := do
  let ⟨(nodes, i), rest, shorter⟩ ← closed opener (← block [ending] ps)
  i.noHeader
  return ⟨nodes, rest, shorter⟩
termination_by 3 * ps.length + 1

/-- Read the branches of a choice from the body of the branch with a condition on, after the branches
`before`. -/
def branches (opener : Instruction) (before : List (Expr × List Node)) (condition : Expr)
    (ps : List Piece) : Except Error (Continued Node ps) := do
  let ⟨(nodes, i), rest, _⟩ ← closed opener (← block [.elseIf, .elseStart, .endIf] ps)
  let soFar := before ++ [(condition, nodes)]
  match Verb.ofText? i.keywordText with
  | some .elseIf => do
    let ⟨node, rest, _⟩ ← branches opener soFar (← i.expression) rest
    return ⟨node, rest, by omega⟩
  | some .elseStart => do
    i.noHeader
    let ⟨otherwise, rest, _⟩ ← body opener .endIf rest
    return ⟨.choose soFar (some otherwise), rest, by omega⟩
  | _ => do
    i.noHeader
    return ⟨.choose soFar none, rest, by omega⟩
termination_by 3 * ps.length + 1

end

end Build

def Program.parse (cs : List Char) : Except Error Program := do
  match ← Build.block [] (← Piece.cut 0 cs) with
  | .closed block => return ⟨block.value.1⟩
  | .unclosed nodes => return ⟨nodes⟩

end Stencil
