import Stencil.Proofs.InPlace.Cutting
import Stencil.Proofs.InPlace.Reading
import Stencil.Proofs.Program.Stack
import Stencil.Template

/-!
# Templates, in place

Headers are read in place, each with its tokens and a cursor of its own, while blocks are put together
from the pieces of an artifact. A template is compiled in place from its text to its program. The work
does not break down: it gives the template that `Template.compile` gives, or refuses for the same
reason.
-/

namespace Stencil
open InPlace

namespace InPlace

def shifted {α : Type} (offset : Nat) (work : InPlace α) : InPlace α :=
  tryCatch work fun
    | .refusal e => refuse (e.shifted offset)
    | .breach b => breach b

theorem shifted_of {α : Type} (offset : Nat) (outcome : Except Error α) :
    shifted offset (of outcome) = of (outcome.mapError (Error.shifted offset)) := by
  cases outcome <;> rfl

end InPlace

namespace Instruction

def readInPlace {α : Type} (i : Instruction) (reader : List Spot → Nat → InPlace α) : InPlace α :=
  shifted i.headerOffset (Cursor.parse reader i.header)

def expressionInPlace (i : Instruction) : InPlace Expr :=
  if i.header.isEmpty then refuse (i.complaint .missingHeader)
  else i.readInPlace Cursor.wholeExpression

theorem readInPlace_eq {α : Type} {reader : List Spot → Nat → InPlace α}
    {model : List Char → Except Error α} (same : ∀ text, Cursor.parse reader text = of (model text))
    (i : Instruction) : i.readInPlace reader = of (i.readHeader model) := by
  rw [readInPlace, same, shifted_of, readHeader]

theorem expressionInPlace_eq (i : Instruction) : i.expressionInPlace = of i.expression := by
  unfold expressionInPlace expression
  split
  · rfl
  · exact readInPlace_eq Cursor.parse_wholeExpression i

end Instruction

namespace InPlace

theorem bind_eq {ρ σ : Type} {outcome : Except Error ρ} {more : ρ → InPlace σ}
    {next : ρ → Except Error σ} (same : ∀ r, more r = of (next r)) :
    of outcome >>= more = of (outcome >>= next) := by
  rw [of_bind, funext same]

end InPlace

namespace Building
open Build

mutual

def block (endings : List Verb) (ps : List Piece) : InPlace (Found ps) :=
  match ps with
  | [] => pure (.unclosed [])
  | .text cs :: rest => do
    return (← block endings rest).begunWith (.text (String.ofList cs)) (by simp)
  | .instruction i :: rest => do
    let verb := Verb.ofText? i.keywordText
    if verb.any endings.contains then return .closed ⟨([], i), rest, by simp⟩
    else
      let ⟨first, rest, _⟩ ← node verb i rest
      return (← block endings rest).begunWith first (by simp only [List.length_cons]; omega)
termination_by 3 * ps.length

def node (verb : Option Verb) (i : Instruction) (ps : List Piece) :
    InPlace (Continued Node ps) := do
  match verb with
  | some .print => return leaf ps (.print (← i.expressionInPlace))
  | some .echo => return leaf ps (.echo (← i.expressionInPlace))
  | some .dump => return leaf ps (.dump (← i.expressionInPlace))
  | some .exec => return leaf ps (.exec (← i.readInPlace Cursor.statements))
  | some .ifStart => branches i [] (← i.expressionInPlace) ps
  | some .foreachStart =>
    let header ← i.readInPlace Cursor.foreachHeader
    let ⟨nodes, rest, _⟩ ← body i .endForeach ps
    return ⟨.foreach header nodes, rest, by omega⟩
  | some .forStart =>
    let header ← i.readInPlace Cursor.forHeader
    let ⟨nodes, rest, _⟩ ← body i .endFor ps
    return ⟨.forLoop header nodes, rest, by omega⟩
  | some .whileStart =>
    let condition ← i.expressionInPlace
    let ⟨nodes, rest, _⟩ ← body i .endWhile ps
    return ⟨.whileLoop condition nodes, rest, by omega⟩
  | some .doStart =>
    of i.noHeader
    let ⟨(nodes, ending), rest, _⟩ ← of (closed i (← block [.doWhile] ps))
    return ⟨.doLoop nodes (← ending.expressionInPlace), rest, by omega⟩
  | some _ => refuse (i.complaint .unexpectedInstruction)
  | none =>
    if i.keyword.isEmpty then refuse (.malformed i.offset .emptyInstruction)
    else refuse (i.complaint .unknownInstruction)
termination_by 3 * ps.length + 2

def body (opener : Instruction) (ending : Verb) (ps : List Piece) :
    InPlace (Read (List Node) ps) := do
  let ⟨(nodes, i), rest, shorter⟩ ← of (closed opener (← block [ending] ps))
  of i.noHeader
  return ⟨nodes, rest, shorter⟩
termination_by 3 * ps.length + 1

def branches (opener : Instruction) (before : List (Expr × List Node)) (condition : Expr)
    (ps : List Piece) : InPlace (Continued Node ps) := do
  let ⟨(nodes, i), rest, _⟩ ← of (closed opener (← block [.elseIf, .elseStart, .endIf] ps))
  let soFar := before ++ [(condition, nodes)]
  match Verb.ofText? i.keywordText with
  | some .elseIf =>
    let ⟨choice, rest, _⟩ ← branches opener soFar (← i.expressionInPlace) rest
    return ⟨choice, rest, by omega⟩
  | some .elseStart =>
    of i.noHeader
    let ⟨otherwise, rest, _⟩ ← body opener .endIf rest
    return ⟨.choose soFar (some otherwise), rest, by omega⟩
  | _ =>
    of i.noHeader
    return ⟨.choose soFar none, rest, by omega⟩
termination_by 3 * ps.length + 1

end

end Building

def Program.parseInPlace (cs : List Char) : InPlace Program := do
  match ← Building.block [] (← Piece.cutFrom cs [] 0 0 (cs.length + 1)) with
  | .closed _ => breach .assertion
  | .unclosed nodes => return ⟨nodes⟩

def Template.compileInPlace (directives : DirectiveTable) (text : String) : InPlace Template := do
  let marked := Marker.dump.expand (Marker.print.expand text.toList)
  let artifact ← Directive.expandEach directives.directives marked
  return ⟨String.ofList artifact, ← Program.parseInPlace artifact⟩

/-! ## The same templates -/

namespace Building
open Build

mutual

theorem block_eq (endings : List Verb) (ps : List Piece) :
    block endings ps = of (Build.block endings ps) := by
  rw [block.eq_def, Build.block.eq_def]
  match ps with
  | [] => rfl
  | .text cs :: rest =>
    simp only [block_eq endings rest]
    exact bind_eq fun _ => rfl
  | .instruction i :: rest =>
    show (if _ then _ else _) = of (if _ then _ else _)
    split
    · rfl
    · simp only [node_eq (Verb.ofText? i.keywordText) i rest]
      refine bind_eq fun ⟨first, rest, bounded⟩ => ?_
      simp only [block_eq endings rest]
      exact bind_eq fun _ => rfl
termination_by 3 * ps.length

theorem node_eq (verb : Option Verb) (i : Instruction) (ps : List Piece) :
    node verb i ps = of (Build.node verb i ps) := by
  have expression := i.expressionInPlace_eq
  have statements := i.readInPlace_eq Cursor.parse_statements
  have foreachHeader := i.readInPlace_eq Cursor.parse_foreachHeader
  have forHeader := i.readInPlace_eq Cursor.parse_forHeader
  rw [node.eq_def, Build.node.eq_def, expression, statements, foreachHeader, forHeader]
  match verb with
  | some .print | some .echo | some .dump | some .exec => exact bind_eq fun _ => rfl
  | some .ifStart => exact bind_eq fun condition => branches_eq i [] condition ps
  | some .foreachStart =>
    refine bind_eq fun header => ?_
    rw [body_eq]
    exact bind_eq fun _ => rfl
  | some .forStart =>
    refine bind_eq fun header => ?_
    rw [body_eq]
    exact bind_eq fun _ => rfl
  | some .whileStart =>
    refine bind_eq fun condition => ?_
    rw [body_eq]
    exact bind_eq fun _ => rfl
  | some .doStart =>
    refine bind_eq fun _ => ?_
    rw [block_eq]
    refine bind_eq fun found => ?_
    refine bind_eq fun ⟨(nodes, ending), rest, shorter⟩ => ?_
    show (ending.expressionInPlace >>= _) = _
    rw [ending.expressionInPlace_eq]
    exact bind_eq fun _ => rfl
  | some .elseIf | some .elseStart | some .endIf | some .endForeach | some .endFor | some .endWhile
  | some .doWhile => rfl
  | none =>
    show (if _ then _ else _) = of (if _ then _ else _)
    split <;> rfl
termination_by 3 * ps.length + 2

theorem body_eq (opener : Instruction) (ending : Verb) (ps : List Piece) :
    body opener ending ps = of (Build.body opener ending ps) := by
  rw [body, Build.body, block_eq]
  refine bind_eq fun found => ?_
  refine bind_eq fun ⟨(nodes, i), rest, shorter⟩ => ?_
  exact bind_eq fun _ => rfl
termination_by 3 * ps.length + 1

theorem branches_eq (opener : Instruction) (before : List (Expr × List Node)) (condition : Expr)
    (ps : List Piece) :
    branches opener before condition ps = of (Build.branches opener before condition ps) := by
  rw [branches, Build.branches, block_eq]
  refine bind_eq fun found => ?_
  refine bind_eq fun ⟨(nodes, i), rest, shorter⟩ => ?_
  dsimp only
  cases Verb.ofText? i.keywordText with
  | none => exact bind_eq fun _ => rfl
  | some verb =>
    cases verb with
    | elseIf =>
      show (i.expressionInPlace >>= _) = _
      rw [i.expressionInPlace_eq]
      refine bind_eq fun condition => ?_
      rw [branches_eq opener _ condition rest]
      exact bind_eq fun _ => rfl
    | elseStart =>
      refine bind_eq fun _ => ?_
      rw [body_eq opener .endIf rest]
      exact bind_eq fun _ => rfl
    | _ => exact bind_eq fun _ => rfl
termination_by 3 * ps.length + 1

end

end Building

theorem Program.parseInPlace_eq (cs : List Char) : parseInPlace cs = of (parse cs) := by
  have cut := Piece.cutFrom_eq cs [] [] [] (Nat.lt_succ_self cs.length)
  rw [List.append_nil, List.nil_append, Text.byteLength_nil] at cut
  rw [parseInPlace, parse, cut]
  cases Piece.cut 0 cs with
  | error e => rfl
  | ok ps =>
  show (Building.block [] ps >>= _) = of (Build.block [] ps >>= _)
  rw [Building.block_eq]
  cases read : Build.block [] ps with
  | error e => rfl
  | ok found =>
    cases found with
    | closed block =>
      -- Nothing ends the nodes at the top, as they wait for no verb.
      obtain ⟨verb, waited, -⟩ := Build.ends_of_block read rfl
      cases waited
    | unclosed nodes => rfl

theorem Template.compileInPlace_eq (directives : DirectiveTable) (text : String) :
    compileInPlace directives text = of (compile directives text) := by
  simp only [compileInPlace, Directive.expandEach_eq, pure_bind, Program.parseInPlace_eq, compile,
    ofArtifact, DirectiveTable.artifact, DirectiveTable.expand, String.toList_ofList]
  exact (of_map ..).symm

/-- Compiling never breaks down and never goes on forever: every slice is inside its text and between
characters, every index is inside its list, no depth falls below zero, and no instruction that ends a
block is left at the top. What comes out is a template or an error, the one that `compile` gives. -/
theorem Template.compileInPlace_outcome (directives : DirectiveTable) (text : String) :
    (∀ b, compileInPlace directives text ≠ breach b) ∧
      ((∃ template, compileInPlace directives text = pure template ∧
          compile directives text = .ok template) ∨
        ∃ e, compileInPlace directives text = refuse e ∧ compile directives text = .error e) := by
  rw [compileInPlace_eq]
  cases compile directives text with
  | error e => exact ⟨by rintro b ⟨⟩, .inr ⟨e, rfl, rfl⟩⟩
  | ok template => exact ⟨by rintro b ⟨⟩, .inl ⟨template, rfl, rfl⟩⟩

end Stencil
