import Stencil.Program.Run
import Stencil.Proofs.Reading

/-!
# Runs that change a state

Work changes the scope and the output where they stand, and where it stops they remain as they are by then.
What the work of a program comes to is the run of the program (`outcome_nodes`).
-/

namespace Stencil

/-- What changes a state and gives something, or stops. -/
abbrev Work (α : Type) := ExceptT Stop (StateM State) α

namespace Work

variable {α β : Type}

def of (result : Except Fault α) : Work α :=
  match result with
  | .ok a => pure a
  | .error f => throw (.fault f)

def write (text : String) : Work Unit :=
  modify fun s => Run.write s text

def current (name : String) : Work Value := do
  return (← get).scope.current name

def assign (name : String) (v : Value) : Work Unit :=
  modify fun s => { s with scope := s.scope.assign name v }

variable (tools : Tools)

def evaluate (e : Expr) : Work Value := do
  of (e.evaluate tools.functions (← get).scope)

def test (e : Expr) : Work Bool := do
  return (← evaluate tools e).truthy

def statement : Stmt → Work Unit
  | .assign target .set value => do
    assign target (← evaluate tools value)
  | .assign target op value => do
    let new ← evaluate tools value
    assign target (← of (op.apply (← current target) new))
  | .increment target => do
    assign target (← of (BinaryOp.add.apply (← current target) (.int 1)))
  | .decrement target => do
    assign target (← of (BinaryOp.sub.apply (← current target) (.int 1)))
  | .expr e => do
    let _ ← evaluate tools e

def statements : List Stmt → Work Unit
  | [] => pure ()
  | stmt :: rest => do
    statement tools stmt
    statements rest

def bind (header : ForeachHeader) (pair : Value × Value) : Work Unit :=
  match header.key with
  | some key => do
    assign key pair.1
    assign header.value pair.2
  | none => assign header.value pair.2

def whileLoop (continues : Work Bool) (body : Work Unit) : Nat → Work Unit
  | 0 => do
    if ← continues then throw .exhausted
  | rounds + 1 => do
    if ← continues then
      body
      whileLoop continues body rounds

def doLoop (body : Work Unit) (continues : Work Bool) : Nat → Work Unit
  | 0 => throw .exhausted
  | rounds + 1 => do
    body
    if ← continues then doLoop body continues rounds

def eachLoop (body : α → Work Unit) : Nat → List α → Work Unit
  | _, [] => pure ()
  | 0, _ :: _ => throw .exhausted
  | rounds + 1, item :: items => do
    body item
    eachLoop body rounds items

def goesOn : Option Expr → Work Bool
  | some condition => test tools condition
  | none => pure true

mutual

def node (rounds : Nat) : Node → Work Unit
  | .text text => write text
  | .print e => do
    write (Html.escape (← evaluate tools e).display)
  | .echo e => do
    write (← evaluate tools e).display
  | .dump e => do
    write (tools.dump (← evaluate tools e))
  | .exec list => statements tools list
  | .choose cases none => branches rounds cases (pure ())
  | .choose cases (some body) => branches rounds cases (nodes rounds body)
  | .foreach header body => do
    let items ← of (Run.pairs (← evaluate tools header.iterable))
    eachLoop (fun pair => do bind header pair; nodes rounds body) rounds items
  | .forLoop header body => do
    statements tools header.first
    whileLoop (goesOn tools header.condition)
      (do nodes rounds body; statements tools header.step) rounds
  | .whileLoop condition body => whileLoop (test tools condition) (nodes rounds body) rounds
  | .doLoop body condition => doLoop (nodes rounds body) (test tools condition) rounds

def nodes (rounds : Nat) : List Node → Work Unit
  | [] => pure ()
  | n :: rest => do
    node rounds n
    nodes rounds rest

def branches (rounds : Nat) : List (Expr × List Node) → Work Unit → Work Unit
  | [], otherwise => otherwise
  | (condition, body) :: rest, otherwise => do
    if ← test tools condition then nodes rounds body
    else branches rounds rest otherwise

end

/-! ## What work comes to -/

variable {tools : Tools} {s t : State} {rounds : Nat}

theorem bind_apply (x : Work α) (f : α → Work β) (s : State) :
    (x >>= f) s = match x s with
      | (.ok a, t) => f a t
      | (.error stop, t) => (.error stop, t) := by
  show (match x s with | (result, t) => ExceptT.bindCont f result t) = _
  obtain ⟨stop | a, t⟩ := x s <;> rfl

def outcome (x : Work Unit) : Run.Step := fun s =>
  match x s with
  | (.ok _, t) => .ok t
  | (.error stop, _) => .error stop

theorem outcome_bind (x y : Work Unit) (s : State) :
    outcome (x >>= fun _ => y) s = outcome x s >>= outcome y := by
  rw [outcome, bind_apply, outcome]
  obtain ⟨stop | a, t⟩ := x s <;> rfl

def Gives (x : Work α) (read : State → Except Stop α) : Prop :=
  ∀ s, x s = (read s, s)

theorem Gives.bind {x : Work α} {read : State → Except Stop α} (gives : Gives x read)
    (f : α → Work β) (s : State) :
    (x >>= f) s = match read s with
      | .ok a => f a s
      | .error stop => (.error stop, s) := by
  rw [bind_apply, gives s]
  cases read s <;> rfl

theorem Gives.outcome_bind {x : Work α} {read : State → Except Stop α} (gives : Gives x read)
    (f : α → Work Unit) (s : State) :
    outcome (x >>= f) s = read s >>= fun a => outcome (f a) s := by
  rw [outcome, gives.bind]
  cases read s <;> rfl

theorem gives_of (result : Except Fault α) : Gives (of result) fun _ => Run.faulting result := by
  intro s
  cases result <;> rfl

theorem gives_evaluate (e : Expr) : Gives (evaluate tools e) (Run.value tools e) :=
  fun s => gives_of (e.evaluate tools.functions s.scope) s

theorem gives_test (e : Expr) : Gives (test tools e) (Run.test tools e) := by
  intro s
  rw [test, (gives_evaluate e).bind, Run.test]
  cases Run.value tools e s <;> rfl

theorem gives_current (name : String) : Gives (current name) fun s => .ok (s.scope.current name) :=
  fun _ => rfl

theorem assign_of (target : String) (result : Except Fault Value) (s : State) :
    (of result >>= assign target) s = match result.map (s.scope.assign target) with
      | .ok scope => (.ok (), { s with scope := scope })
      | .error f => (.error (.fault f), s) := by
  rw [(gives_of result).bind]
  cases result <;> rfl

/-- A statement that fails leaves the state as it was. -/
theorem statement_apply (stmt : Stmt) (s : State) :
    statement tools stmt s = match stmt.run tools.functions s.scope with
      | .ok scope => (.ok (), { s with scope := scope })
      | .error f => (.error (.fault f), s) := by
  cases stmt with
  | assign target op value =>
    rw [Stmt.run]
    cases op with
    | set =>
      rw [statement, (gives_evaluate value).bind, Run.value]
      cases value.evaluate tools.functions s.scope <;> rfl
    | _ =>
      rw [statement, (gives_evaluate value).bind, Run.value]
      cases value.evaluate tools.functions s.scope with
      | error f => rfl
      | ok new =>
        refine ((gives_current target).bind _ s).trans ((assign_of target _ s).trans ?_)
        rfl
      nofun
  | increment target =>
    rw [Stmt.run, statement, (gives_current target).bind]
    exact assign_of target _ s
  | decrement target =>
    rw [Stmt.run, statement, (gives_current target).bind]
    exact assign_of target _ s
  | expr e =>
    rw [Stmt.run, statement, (gives_evaluate e).bind, Run.value]
    cases e.evaluate tools.functions s.scope <;> rfl

theorem outcome_statements (list : List Stmt) (s : State) :
    outcome (statements tools list) s = Run.exec tools list s := by
  induction list generalizing s with
  | nil => rfl
  | cons stmt rest ih =>
    rw [statements, outcome_bind, outcome, statement_apply, Run.exec, Stmt.runAll, List.foldlM_cons]
    cases stmt.run tools.functions s.scope with
    | error f => rfl
    | ok scope => exact ih { s with scope := scope }

theorem outcome_whileLoop {continues : Work Bool} {holds : State → Except Stop Bool}
    {body : Work Unit} {step : Run.Step} (tests : Gives continues holds)
    (inner : ∀ s, outcome body s = step s) (rounds : Nat) (s : State) :
    outcome (whileLoop continues body rounds) s = Run.whileLoop holds step rounds s := by
  induction rounds generalizing s with
  | zero =>
    rw [whileLoop, tests.outcome_bind, Run.whileLoop]
    refine bind_congr fun more => ?_
    cases more <;> rfl
  | succ rounds ih =>
    rw [whileLoop, tests.outcome_bind, Run.whileLoop]
    refine bind_congr fun more => ?_
    cases more with
    | false => rfl
    | true =>
      refine (outcome_bind body _ s).trans ?_
      rw [inner]
      exact bind_congr ih

theorem outcome_doLoop {continues : Work Bool} {holds : State → Except Stop Bool}
    {body : Work Unit} {step : Run.Step} (tests : Gives continues holds)
    (inner : ∀ s, outcome body s = step s) (rounds : Nat) (s : State) :
    outcome (doLoop body continues rounds) s = Run.doLoop step holds rounds s := by
  induction rounds generalizing s with
  | zero => rfl
  | succ rounds ih =>
    rw [doLoop, outcome_bind, inner, Run.doLoop]
    refine bind_congr fun t => ?_
    rw [tests.outcome_bind]
    refine bind_congr fun more => ?_
    cases more with
    | false => rfl
    | true => exact ih t

theorem outcome_eachLoop {body : α → Work Unit} {step : α → Run.Step}
    (inner : ∀ a s, outcome (body a) s = step a s) (items : List α) (rounds : Nat) (s : State) :
    outcome (eachLoop body rounds items) s = Run.eachLoop step rounds items s := by
  induction items generalizing rounds s with
  | nil => cases rounds <;> rfl
  | cons item items ih =>
    cases rounds with
    | zero => rfl
    | succ rounds =>
      rw [eachLoop, outcome_bind, inner, Run.eachLoop]
      exact bind_congr fun t => ih rounds t

theorem bind_pair (header : ForeachHeader) (pair : Value × Value) (s : State) :
    bind header pair s = (.ok (), Run.bind header pair s) := by
  obtain ⟨iterable, key, value⟩ := header
  cases key <;> rfl

theorem gives_goesOn (condition : Option Expr) :
    Gives (goesOn tools condition) fun s =>
      match condition with
      | some condition => Run.test tools condition s
      | none => .ok true := by
  cases condition with
  | none => exact fun _ => rfl
  | some condition => exact gives_test condition

mutual

theorem outcome_node (n : Node) (s : State) :
    outcome (node tools rounds n) s = Run.node tools rounds n s := by
  match n with
  | .text text => rfl
  | .print e | .echo e | .dump e =>
    rw [node, (gives_evaluate e).outcome_bind, Run.node]
    rfl
  | .exec list =>
    rw [node, Run.node]
    exact outcome_statements list s
  | .choose cases none =>
    rw [node, Run.node, outcome_branches]
    refine bind_congr fun found => ?_
    cases found <;> rfl
  | .choose cases (some body) =>
    rw [node, Run.node, outcome_branches]
    refine bind_congr fun found => ?_
    cases found with
    | none => exact outcome_nodes body s
    | some t => rfl
  | .foreach header body =>
    rw [node, (gives_evaluate _).outcome_bind, Run.node]
    refine bind_congr fun v => ?_
    rw [(gives_of _).outcome_bind]
    refine bind_congr fun items => ?_
    refine outcome_eachLoop (fun pair t => ?_) items rounds s
    rw [outcome_bind, outcome, bind_pair]
    exact outcome_nodes body _
  | .forLoop header body =>
    rw [node, outcome_bind, outcome_statements, Run.node]
    refine bind_congr fun t => ?_
    refine outcome_whileLoop (gives_goesOn _) (fun u => ?_) rounds t
    rw [outcome_bind, outcome_nodes]
    exact bind_congr (outcome_statements header.step)
  | .whileLoop condition body =>
    rw [node, Run.node]
    exact outcome_whileLoop (gives_test condition) (outcome_nodes body) rounds s
  | .doLoop body condition =>
    rw [node, Run.node]
    exact outcome_doLoop (gives_test condition) (outcome_nodes body) rounds s

theorem outcome_nodes (ns : List Node) (s : State) :
    outcome (nodes tools rounds ns) s = Run.nodes tools rounds ns s := by
  match ns with
  | [] => rfl
  | n :: ns =>
    rw [nodes, outcome_bind, outcome_node, Run.nodes]
    exact bind_congr fun t => outcome_nodes ns t

theorem outcome_branches (cases : List (Expr × List Node)) (otherwise : Work Unit) (s : State) :
    outcome (branches tools rounds cases otherwise) s =
      Run.branches tools rounds cases s >>= fun found => found.elim (outcome otherwise s) .ok := by
  match cases with
  | [] => rfl
  | (condition, body) :: cases =>
    rw [branches, (gives_test condition).outcome_bind, Run.branches, bind_assoc]
    refine bind_congr fun holds => ?_
    cases holds with
    | false => exact outcome_branches cases otherwise s
    | true =>
      refine (outcome_nodes body s).trans ?_
      cases Run.nodes tools rounds body s <;> rfl

end

end Work

end Stencil
