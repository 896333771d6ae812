import Mathlib.Logic.Relation
import Stencil.Program.Run

/-!
# Runs without a limit

A machine runs a program one step after the other, without any limit on its loops, so that a run need
not end. A loop counts the rounds that it has begun since it was entered; the count decides nothing.
-/

namespace Stencil

inductive Task where
  | node (n : Node)
  | exec (statements : List Stmt)
  | foreach (header : ForeachHeader) (body : List Node) (begun : Nat) (items : List (Value × Value))
  /-- A loop that tests its condition next, if it has one, and ends its rounds with `step`. -/
  | loop (condition : Option Expr) (body : List Node) (step : List Stmt) (begun : Nat)
  | again (body : List Node) (condition : Expr) (begun : Nat)

namespace Task

/-- The rounds that the loop has begun in this execution of it. -/
def begun : Task → Nat
  | node _ | exec _ => 0
  | foreach _ _ begun _ => begun
  | loop _ _ _ begun => begun
  | again _ _ begun => begun

def all (nodes : List Node) : List Task :=
  nodes.map node

variable (tools : Tools)

def holds (condition : Expr) (s : State) : Except Fault Bool :=
  (condition.evaluate tools.functions s.scope).map Value.truthy

def goesOn (condition : Option Expr) (s : State) : Except Fault Bool :=
  match condition with
  | some condition => holds tools condition s
  | none => .ok true

def assigned (statements : List Stmt) (s : State) : Except Fault State :=
  (Stmt.runAll tools.functions s.scope statements).map fun scope => { s with scope := scope }

def chosen (otherwise : Option (List Node)) (s : State) :
    List (Expr × List Node) → Except Fault (List Node)
  | [] => .ok (otherwise.getD [])
  | (condition, body) :: cases => do
    if ← holds tools condition s then return body else chosen otherwise s cases

/-- Do the first part of a task: the tasks that take its place, and the state after it. -/
def perform : Task → State → Except Fault (List Task × State)
  | node (.text text), s => .ok ([], Run.write s text)
  | node (.print e), s => do
    return ([], Run.write s (Html.escape (← e.evaluate tools.functions s.scope).display))
  | node (.echo e), s => do
    return ([], Run.write s (← e.evaluate tools.functions s.scope).display)
  | node (.dump e), s => do
    return ([], Run.write s (tools.dump (← e.evaluate tools.functions s.scope)))
  | node (.exec statements), s => .ok ([exec statements], s)
  | node (.choose cases otherwise), s => do
    return (all (← chosen tools otherwise s cases), s)
  | node (.foreach header body), s => do
    let items ← Run.pairs (← header.iterable.evaluate tools.functions s.scope)
    return ([foreach header body 0 items], s)
  | node (.forLoop header body), s =>
    .ok ([exec header.first, loop header.condition body header.step 0], s)
  | node (.whileLoop condition body), s => .ok ([loop (some condition) body [] 0], s)
  | node (.doLoop body condition), s => .ok (all body ++ [again body condition 1], s)
  | exec statements, s => do
    return ([], ← assigned tools statements s)
  | foreach _ _ _ [], s => .ok ([], s)
  | foreach header body begun (item :: items), s =>
    .ok (all body ++ [foreach header body (begun + 1) items], Run.bind header item s)
  | loop condition body step begun, s => do
    if ← goesOn tools condition s then
      return (all body ++ [exec step, loop condition body step (begun + 1)], s)
    else return ([], s)
  | again body condition begun, s => do
    if ← holds tools condition s then return (all body ++ [again body condition (begun + 1)], s)
    else return ([], s)

theorem perform_loop {condition : Option Expr} {body : List Node} {step : List Stmt} {begun : Nat}
    {s : State} :
    perform tools (loop condition body step begun) s = goesOn tools condition s >>= fun more =>
      if more then .ok (all body ++ [exec step, loop condition body step (begun + 1)], s)
      else .ok ([], s) := rfl

theorem perform_again {condition : Expr} {body : List Node} {begun : Nat} {s : State} :
    perform tools (again body condition begun) s = holds tools condition s >>= fun more =>
      if more then .ok (all body ++ [again body condition (begun + 1)], s) else .ok ([], s) := rfl

theorem test_eq_holds (condition : Expr) (s : State) :
    Run.test tools condition s = Run.faulting (holds tools condition s) := by
  unfold Run.test Run.value holds
  cases condition.evaluate tools.functions s.scope <;> rfl

theorem exec_eq_assigned (statements : List Stmt) (s : State) :
    Run.exec tools statements s = Run.faulting (assigned tools statements s) := by
  unfold Run.exec assigned
  cases Stmt.runAll tools.functions s.scope statements <;> rfl

end Task

structure Progress where
  tasks : List Task
  state : State

namespace Progress

variable {tools : Tools} {p q r : Progress}

inductive Next (tools : Tools) : Progress → Progress → Prop
  | perform {task tasks s new t} : Task.perform tools task s = .ok (new, t) →
      Next tools ⟨task :: tasks, s⟩ ⟨new ++ tasks, t⟩

abbrev Reaches (tools : Tools) : Progress → Progress → Prop :=
  Relation.ReflTransGen (Next tools)

inductive Final (tools : Tools) : Progress → Except Fault String → Prop
  | output {s} : Final tools ⟨[], s⟩ (.ok s.output)
  | fault {task tasks s f} : Task.perform tools task s = .error f →
      Final tools ⟨task :: tasks, s⟩ (.error f)

theorem Next.unique (one : Next tools p q) (two : Next tools p r) : q = r := by
  cases one with
  | perform done =>
    cases two with
    | perform again =>
      rw [done] at again
      cases again
      rfl

theorem Final.not_next {result : Except Fault String} (final : Final tools p result) :
    ¬Next tools p q := by
  intro next
  cases next with
  | perform done =>
    cases final with
    | fault failed =>
      rw [done] at failed
      cases failed

theorem Final.unique {result other : Except Fault String} (one : Final tools p result)
    (two : Final tools p other) : result = other := by
  cases one with
  | output =>
    cases two
    rfl
  | fault failed =>
    cases two with
    | fault again =>
      rw [failed] at again
      cases again
      rfl

end Progress

namespace Program

def begin (program : Program) (context : Context) : Progress :=
  ⟨Task.all program.nodes, ⟨.start context, ""⟩⟩

/-- The run without a limit ends with the result. -/
def Ends (tools : Tools) (program : Program) (context : Context) (result : Except Fault String) :
    Prop :=
  ∃ p, Progress.Reaches tools (program.begin context) p ∧ p.Final tools result

/-- In the run without a limit a loop begins its round of this number, counted from one, in a single
execution of the loop. -/
def BeginsRound (tools : Tools) (program : Program) (context : Context) (number : Nat) : Prop :=
  ∃ p, Progress.Reaches tools (program.begin context) p ∧ ∃ task ∈ p.tasks, task.begun = number

/-! ## Runs with more and more rounds -/

variable {tools : Tools} {program : Program} {context : Context} {runs : Runs} {rounds limit : Nat}
  {result : Except Fault String}

theorem Runs.ending_of_run (ran : runs rounds = result.mapError .fault) :
    runs.ending rounds = some result := by
  rw [ending, ran]
  cases result <;> rfl

theorem Runs.ending_of_runs (enough : Nat) {rounds : Nat} (started : 0 < rounds)
    (early : ∀ rounds, runs rounds = result.mapError .fault ∨
      runs rounds = .error .exhausted ∧ rounds < enough) : runs.ending rounds = some result := by
  rcases early rounds with ran | ⟨more, few⟩
  · exact ending_of_run ran
  · rw [ending, more]
    show runs.ending (2 * rounds) = _
    exact ending_of_runs enough (by omega) early
termination_by enough - rounds

theorem Runs.exists_of_ending (h : runs.ending rounds = some result) :
    ∃ rounds, runs rounds = result.mapError .fault := by
  refine ending.partial_correctness runs
    (fun _ result => ∃ rounds, runs rounds = result.mapError .fault) ?_ rounds result h
  intro tried later rounds result found
  split at found
  · cases found
    exact ⟨rounds, ‹_›⟩
  · cases found
    exact ⟨rounds, ‹_›⟩
  · exact later _ _ found

theorem execute_zero :
    program.execute tools 0 context =
      (program.unlimited tools context).map (Except.mapError .execution) :=
  if_pos rfl

theorem execute_zero_of_run (ran : program.run tools 1 context = result.mapError .fault) :
    program.execute tools 0 context = some (result.mapError .execution) := by
  rw [execute_zero, unlimited, Runs.ending_of_run ran]
  rfl

theorem execute_of_run (ran : program.run tools limit context = result.mapError .fault)
    (limited : limit ≠ 0) :
    program.execute tools limit context = some (result.mapError .execution) := by
  rw [execute, if_neg limited, ran]
  cases result <;> rfl

theorem execute_of_exhausted (ran : program.run tools limit context = .error .exhausted)
    (limited : limit ≠ 0) :
    program.execute tools limit context = some (.error (.loopLimitExceeded limit)) := by
  rw [execute, if_neg limited, ran]

theorem execute_of_runs (ran : ∀ rounds, program.run tools rounds context = result.mapError .fault)
    (limit : Nat) : program.execute tools limit context = some (result.mapError .execution) := by
  by_cases limited : limit = 0
  · rw [limited, execute_zero_of_run (ran 1)]
  · exact execute_of_run (ran limit) limited

/-- Runs that end alike whatever the rounds are end alike under every limit, and under none. -/
theorem execute_eq_of_run {other : Program} {data : Context}
    (same : ∀ rounds, program.run tools rounds context = other.run tools rounds data) (limit : Nat) :
    program.execute tools limit context = other.execute tools limit data := by
  rw [execute, execute, unlimited, unlimited, funext same, same limit]

theorem exists_run_of_execute {output : String}
    (h : program.execute tools limit context = some (.ok output)) :
    ∃ rounds, program.run tools rounds context = .ok output := by
  unfold execute at h
  split at h
  · obtain ⟨result, ended, same⟩ := Option.map_eq_some_iff.1 h
    cases result with
    | ok _ =>
      cases same
      exact Runs.exists_of_ending ended
    | error _ => cases same
  · split at h
    · cases h
      exact ⟨limit, ‹_›⟩
    · cases h
    · cases h

end Program

end Stencil
