import Stencil.Expr.Eval
import Stencil.Html.Escape
import Stencil.Program.Node

/-!
What programs write. Every loop may go a number of rounds, so that a run always ends; a loop that would
go on is exhausted. A run without a limit is tried with more and more rounds until none is, and has no
outcome where that never comes.
-/

namespace Stencil

inductive Stop where
  | fault (f : Fault)
  /-- A loop would have started one more round than it may. -/
  | exhausted

/-- How a render comes out, which is nothing if it goes on for ever. -/
abbrev Outcome := Option (Except Error String)

structure Tools where
  functions : FunctionTable
  dump : Value → String

structure State where
  scope : Scope
  output : String

namespace Run

abbrev Step := State → Except Stop State

def faulting (result : Except Fault α) : Except Stop α :=
  result.mapError .fault

def value (tools : Tools) (e : Expr) (s : State) : Except Stop Value :=
  faulting (e.evaluate tools.functions s.scope)

def test (tools : Tools) (e : Expr) (s : State) : Except Stop Bool :=
  (value tools e s).map Value.truthy

def write (s : State) (text : String) : State :=
  { s with output := s.output ++ text }

def exec (tools : Tools) (statements : List Stmt) (s : State) : Except Stop State :=
  (faulting (Stmt.runAll tools.functions s.scope statements)).map fun scope =>
    { s with scope := scope }

def pairs (v : Value) : Except Fault (List (Value × Value)) :=
  match v.pairs? with
  | some pairs => .ok pairs
  | none => .error (.notIterable v.kind)

def bind (header : ForeachHeader) (pair : Value × Value) (s : State) : State :=
  let keyed := match header.key with
    | some key => s.scope.assign key pair.1
    | none => s.scope
  { s with scope := keyed.assign header.value pair.2 }

/-- Run `body` as long as `continues` holds, for a number of rounds at most. -/
def whileLoop (continues : State → Except Stop Bool) (body : Step) : Nat → Step
  | 0, s => do
    if ← continues s then .error .exhausted else return s
  | rounds + 1, s => do
    if ← continues s then whileLoop continues body rounds (← body s) else return s

def doLoop (body : Step) (continues : State → Except Stop Bool) : Nat → Step
  | 0, _ => .error .exhausted
  | rounds + 1, s => do
    let s ← body s
    if ← continues s then doLoop body continues rounds s else return s

/-- Run `body` for every item, for a number of rounds at most. -/
def eachLoop (body : α → Step) : Nat → List α → Step
  | _, [], s => .ok s
  | 0, _ :: _, _ => .error .exhausted
  | rounds + 1, item :: items, s => do
    eachLoop body rounds items (← body item s)

mutual

def node (tools : Tools) (rounds : Nat) : Node → Step
  | .text text, s => .ok (write s text)
  | .print e, s => do
    return write s (Html.escape (← value tools e s).display)
  | .echo e, s => do
    return write s (← value tools e s).display
  | .dump e, s => do
    return write s (tools.dump (← value tools e s))
  | .exec statements, s => exec tools statements s
  | .choose cases otherwise, s => do
    match ← branches tools rounds cases s with
    | some s => return s
    | none =>
      match otherwise with
      | some body => nodes tools rounds body s
      | none => return s
  | .foreach header body, s => do
    let items ← faulting (pairs (← value tools header.iterable s))
    eachLoop (fun pair s => nodes tools rounds body (bind header pair s)) rounds items s
  | .forLoop header body, s => do
    let s ← exec tools header.first s
    let continues (s : State) : Except Stop Bool :=
      match header.condition with
      | some condition => test tools condition s
      | none => .ok true
    whileLoop continues
      (fun s => do exec tools header.step (← nodes tools rounds body s)) rounds s
  | .whileLoop condition body, s =>
    whileLoop (test tools condition) (fun s => nodes tools rounds body s) rounds s
  | .doLoop body condition, s =>
    doLoop (fun s => nodes tools rounds body s) (test tools condition) rounds s

def nodes (tools : Tools) (rounds : Nat) : List Node → Step
  | [], s => .ok s
  | n :: rest, s => do
    nodes tools rounds rest (← node tools rounds n s)

def branches (tools : Tools) (rounds : Nat) :
    List (Expr × List Node) → State → Except Stop (Option State)
  | [], _ => .ok none
  | (condition, body) :: rest, s => do
    if ← test tools condition s then return some (← nodes tools rounds body s)
    else branches tools rounds rest s

end

end Run

namespace Program

def run (tools : Tools) (rounds : Nat) (program : Program) (context : Context) :
    Except Stop String :=
  (Run.nodes tools rounds program.nodes ⟨.start context, ""⟩).map State.output

abbrev Runs := Nat → Except Stop String

/-- How the first run ends that is not exhausted, of the runs with `rounds` rounds, with twice as many
and so on. -/
def Runs.ending (runs : Runs) (rounds : Nat) : Option (Except Fault String) :=
  match runs rounds with
  | .ok output => some (.ok output)
  | .error (.fault f) => some (.error f)
  | .error .exhausted => runs |>.ending (2 * rounds)
partial_fixpoint

def unlimited (tools : Tools) (program : Program) (context : Context) :
    Option (Except Fault String) :=
  Runs.ending (fun rounds => program.run tools rounds context) 1

/-- What a program writes on some data under a limit on the rounds of every loop, where zero is no
limit. -/
def execute (tools : Tools) (limit : Nat) (program : Program) (context : Context) : Outcome :=
  if limit = 0 then (program.unlimited tools context).map (Except.mapError .execution)
  else
    match program.run tools limit context with
    | .ok output => some (.ok output)
    | .error (.fault f) => some (.error (.execution f))
    | .error .exhausted => some (.error (.loopLimitExceeded limit))

end Program

end Stencil
