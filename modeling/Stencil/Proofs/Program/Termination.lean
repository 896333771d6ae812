import Stencil.Proofs.Program.Limits

/-!
# Runs under a limit end

The machine with a guard on the rounds of its loops cannot go on for ever: every step takes some of what
the program may cost, whatever its conditions say (`execute_terminates`). Its result is therefore defined by
recursion on the cost that is left, without a bound on the number of steps.
-/

namespace Stencil

/-! ## Costs -/

/-- More than a loop still costs that has begun some of its rounds: in every round that is left its body
runs, its clause for the next round, and the loop itself. -/
def roundsCost (limit body begun : Nat) : Nat :=
  1 + (limit - begun) * (body + 2)

theorem roundsCost_pos {limit body begun : Nat} : 0 < roundsCost limit body begun :=
  Nat.lt_of_lt_of_le Nat.one_pos (Nat.le_add_right 1 _)

theorem roundsCost_next {limit begun : Nat} (few : begun + 1 ≤ limit) (body : Nat) :
    body + 2 + roundsCost limit body (begun + 1) = roundsCost limit body begun := by
  obtain ⟨left, rfl⟩ := Nat.exists_eq_add_of_le few
  have more : begun + 1 + left - begun = left + 1 := by omega
  rw [roundsCost, roundsCost, more, Nat.add_sub_cancel_left, Nat.succ_mul]
  omega

mutual

/-- More steps than the node takes if none of its loops goes more rounds than the limit. -/
def Node.cost (limit : Nat) : Node → Nat
  | .text _ | .print _ | .echo _ | .dump _ => 1
  | .exec _ => 2
  | .choose cases otherwise => 1 + (Node.branchCost limit cases + Node.lastCost limit otherwise)
  | .foreach _ body | .forLoop _ body | .whileLoop _ body | .doLoop body _ =>
    2 + roundsCost limit (Node.bodyCost limit body) 0

def Node.bodyCost (limit : Nat) : List Node → Nat
  | [] => 0
  | n :: ns => n.cost limit + Node.bodyCost limit ns

def Node.branchCost (limit : Nat) : List (Expr × List Node) → Nat
  | [] => 0
  | (_, body) :: cases => Node.bodyCost limit body + Node.branchCost limit cases

def Node.lastCost (limit : Nat) : Option (List Node) → Nat
  | none => 0
  | some body => Node.bodyCost limit body

end

def Program.cost (limit : Nat) (program : Program) : Nat :=
  Node.bodyCost limit program.nodes

namespace Task

def cost (limit : Nat) : Task → Nat
  | node n => n.cost limit
  | exec _ => 1
  | foreach _ body begun _ | loop _ body _ begun | again body _ begun =>
    roundsCost limit (Node.bodyCost limit body) begun

def totalCost (limit : Nat) : List Task → Nat
  | [] => 0
  | task :: tasks => task.cost limit + totalCost limit tasks

variable {tools : Tools} {limit : Nat} {task : Task} {tasks new more : List Task} {s t : State}

@[simp] theorem totalCost_append :
    totalCost limit (tasks ++ more) = totalCost limit tasks + totalCost limit more := by
  induction tasks with
  | nil => exact (Nat.zero_add _).symm
  | cons task tasks ih => rw [List.cons_append, totalCost, totalCost, ih, Nat.add_assoc]

@[simp] theorem totalCost_all (nodes : List Node) :
    totalCost limit (all nodes) = Node.bodyCost limit nodes := by
  induction nodes with
  | nil => rfl
  | cons n ns ih => exact congrArg (n.cost limit + ·) ih

theorem cost_chosen {cases : List (Expr × List Node)} {otherwise : Option (List Node)}
    {body : List Node} (found : chosen tools otherwise s cases = .ok body) :
    Node.bodyCost limit body ≤ Node.branchCost limit cases + Node.lastCost limit otherwise := by
  induction cases with
  | nil =>
    cases found
    cases otherwise with
    | none => exact Nat.zero_le _
    | some last => simp [Node.branchCost, Node.lastCost]
  | cons branch cases ih =>
    obtain ⟨condition, inner⟩ := branch
    rw [chosen] at found
    obtain ⟨holds, -, found⟩ := bind_eq_ok.1 found
    rw [Node.branchCost]
    cases holds with
    | true =>
      cases found
      omega
    | false =>
      have other := ih found
      omega

theorem totalCost_round {body : List Node} {begun : Nat} (few : begun + 1 ≤ limit)
    (left : totalCost limit more ≤ 1 + roundsCost limit (Node.bodyCost limit body) (begun + 1)) :
    totalCost limit (all body ++ more) < roundsCost limit (Node.bodyCost limit body) begun := by
  have rounds := roundsCost_next few (Node.bodyCost limit body)
  rw [totalCost_append, totalCost_all]
  omega

theorem totalCost_perform (done : perform tools task s = .ok (new, t)) (few : Run.Within limit new) :
    totalCost limit new < task.cost limit := by
  cases task with
  | node n =>
    cases n with
    | text text =>
      cases done
      simp [totalCost, cost, Node.cost]
    | print e | echo e | dump e =>
      obtain ⟨v, -, done⟩ := bind_eq_ok.1 done
      cases done
      simp [totalCost, cost, Node.cost]
    | exec statements =>
      cases done
      simp [totalCost, cost, Node.cost]
    | choose cases otherwise =>
      obtain ⟨body, found, done⟩ := bind_eq_ok.1 done
      cases done
      have branch : Node.bodyCost limit body ≤
          Node.branchCost limit cases + Node.lastCost limit otherwise := cost_chosen found
      simp only [totalCost_all, cost, Node.cost]
      omega
    | foreach header body =>
      obtain ⟨v, -, done⟩ := bind_eq_ok.1 done
      obtain ⟨items, -, done⟩ := bind_eq_ok.1 done
      cases done
      simp only [totalCost, cost, Node.cost]
      omega
    | forLoop header body | whileLoop condition body =>
      cases done
      simp only [totalCost, cost, Node.cost]
      omega
    | doLoop body condition =>
      cases done
      have once : 1 ≤ limit := few (again body condition 1) (by simp)
      have rounds : totalCost limit (all body ++ [again body condition 1]) <
          roundsCost limit (Node.bodyCost limit body) 0 :=
        totalCost_round once (by simp only [totalCost, cost, Nat.zero_add]; omega)
      exact Nat.lt_of_lt_of_le rounds (Nat.le_add_left _ 2)
  | exec statements =>
    obtain ⟨u, -, done⟩ := bind_eq_ok.1 done
    cases done
    simp [totalCost, cost]
  | foreach header body begun items =>
    cases items with
    | nil =>
      cases done
      exact roundsCost_pos
    | cons item items =>
      cases done
      have next : begun + 1 ≤ limit := few (foreach header body (begun + 1) items) (by simp)
      exact totalCost_round next (by simp only [totalCost, cost]; omega)
  | loop condition body step begun =>
    obtain ⟨more, -, done⟩ := bind_eq_ok.1 done
    cases more with
    | false =>
      cases done
      exact roundsCost_pos
    | true =>
      cases done
      have next : begun + 1 ≤ limit := few (loop condition body step (begun + 1)) (by simp)
      exact totalCost_round next (by simp only [totalCost, cost]; omega)
  | again body condition begun =>
    obtain ⟨more, -, done⟩ := bind_eq_ok.1 done
    cases more with
    | false =>
      cases done
      exact roundsCost_pos
    | true =>
      cases done
      have next : begun + 1 ≤ limit := few (again body condition (begun + 1)) (by simp)
      exact totalCost_round next (by simp only [totalCost, cost]; omega)

end Task

/-! ## The guarded machine -/

namespace Progress
open Run Relation

variable {tools : Tools} {limit : Nat} {p q : Progress} {result : Except Error String}

/-- The next place of a run, or its result. No loop may begin more rounds than the limit, where zero is
no limit. -/
def advance (tools : Tools) (limit : Nat) : Progress → Progress ⊕ Except Error String
  | ⟨[], s⟩ => .inr (.ok s.output)
  | ⟨task :: rest, s⟩ =>
    match task.perform tools s with
    | .error f => .inr (.error (.execution f))
    | .ok (new, t) =>
      if limit = 0 ∨ ∀ loop ∈ new, loop.begun ≤ limit then .inl ⟨new ++ rest, t⟩
      else .inr (.error (.loopLimitExceeded limit))

abbrev Advances (tools : Tools) (limit : Nat) (p q : Progress) : Prop :=
  p.advance tools limit = .inl q

def cost (limit : Nat) (p : Progress) : Nat :=
  Task.totalCost limit p.tasks

theorem cost_advance (limited : limit ≠ 0) (step : Advances tools limit p q) :
    q.cost limit < p.cost limit := by
  match p with
  | ⟨[], s⟩ => cases step
  | ⟨task :: rest, s⟩ =>
    rw [Advances, advance] at step
    split at step
    · cases step
    · next new t done =>
      split at step
      · next few =>
        cases step
        have less := Task.totalCost_perform done (few.resolve_left limited)
        simp only [cost, Task.totalCost_append, Task.totalCost]
        omega
      · cases step

def finish (tools : Tools) (limited : limit ≠ 0) (p : Progress) : Except Error String :=
  match _step : p.advance tools limit with
  | .inl q => finish tools limited q
  | .inr result => result
termination_by p.cost limit
decreasing_by exact cost_advance limited _step

theorem finish_of_advances (limited : limit ≠ 0) (path : ReflTransGen (Advances tools limit) p q)
    (last : q.advance tools limit = .inr result) : p.finish tools limited = result := by
  induction path using ReflTransGen.head_induction_on with
  | refl =>
    rw [finish]
    split
    · next r step => rw [last] at step; cases step
    · next other step => rw [last] at step; cases step; rfl
  | head first _ ih =>
    rw [finish]
    split
    · next r step => rw [first] at step; cases step; exact ih
    · next other step => rw [first] at step; cases step

theorem advances_of_keeping (kept : Keeping tools limit p q) : Advances tools limit p q := by
  obtain ⟨⟨done⟩, few⟩ := kept
  rw [Advances, advance, done]
  exact if_pos (.inr fun loop mem => few loop (List.mem_append_left _ mem))

theorem advance_of_final {result : Except Fault String} (final : p.Final tools result) :
    p.advance tools limit = .inr (result.mapError .execution) := by
  cases final with
  | output => rfl
  | fault failed =>
    rw [advance, failed]
    rfl

theorem exists_advance_exceeded (limited : limit ≠ 0) (reached : Reaches tools p q)
    (few : Within limit p.tasks) (beyond : ¬Within limit q.tasks) :
    ∃ last, ReflTransGen (Advances tools limit) p last ∧
      last.advance tools limit = .inr (.error (.loopLimitExceeded limit)) := by
  induction reached using ReflTransGen.head_induction_on with
  | refl => exact absurd few beyond
  | @head p m first _ ih =>
    by_cases small : Within limit m.tasks
    · obtain ⟨last, path, struck⟩ := ih small
      exact ⟨last, path.head (advances_of_keeping ⟨first, small⟩), struck⟩
    · obtain ⟨done⟩ := first
      refine ⟨_, .refl, ?_⟩
      rw [advance, done]
      refine if_neg fun passed => small ?_
      exact Within.append (passed.resolve_left limited) fun loop mem => few loop (List.mem_cons_of_mem _ mem)

theorem steps_le_cost (limited : limit ≠ 0) (places : Nat → Progress) (steps : Nat)
    (run : ∀ i < steps, Advances tools limit (places i) (places (i + 1))) :
    steps + (places steps).cost limit ≤ (places 0).cost limit := by
  induction steps with
  | zero => exact Nat.le_of_eq (Nat.zero_add _)
  | succ steps ih =>
    have before := ih fun i less => run i (Nat.lt_succ_of_lt less)
    have step := cost_advance limited (run steps (Nat.lt_succ_self steps))
    omega

end Progress

namespace Program
open Run Progress Relation

/-- Under a limit no run takes more steps than the program costs, whatever its data and its functions are.
Every run comes to an end, with the output or the error that the program has under the limit, and so it is
what recursion on the cost gives. -/
theorem execute_terminates (tools : Tools) (program : Program) (context : Context) {limit : Nat}
    (limited : limit ≠ 0) :
    (∀ (places : Nat → Progress) (steps : Nat), places 0 = program.begin context →
      (∀ i < steps, Advances tools limit (places i) (places (i + 1))) → steps ≤ program.cost limit) ∧
    ∃ result, program.execute tools limit context = some result ∧
      (∃ last, ReflTransGen (Advances tools limit) (program.begin context) last ∧
        last.advance tools limit = .inr result) ∧
      (program.begin context).finish tools limited = result := by
  have ends : ∃ result, program.execute tools limit context = some result ∧
      ∃ last, ReflTransGen (Advances tools limit) (program.begin context) last ∧
        last.advance tools limit = .inr result := by
    rcases run_cases tools program context limit with
      ⟨result, last, ran, path, final⟩ | ⟨ran, q, reached, task, mem, number⟩
    · exact ⟨_, execute_of_run ran limited, last, path.lift id fun _ _ => advances_of_keeping,
        advance_of_final final⟩
    · have beyond : ¬Within limit q.tasks := fun few => by
        have small := few task mem
        omega
      exact ⟨_, execute_of_exhausted ran limited,
        exists_advance_exceeded limited reached (within_all program.nodes) beyond⟩
  refine ⟨fun places steps start run => ?_, ?_⟩
  · have paid := steps_le_cost limited places steps run
    have whole : (places 0).cost limit = program.cost limit := by
      rw [start]
      exact Task.totalCost_all program.nodes
    omega
  · obtain ⟨result, executed, last, path, final⟩ := ends
    exact ⟨result, executed, ⟨last, path, final⟩, finish_of_advances limited path final⟩

def restless : Program :=
  ⟨[.whileLoop (.literal (.bool true)) [.forLoop ⟨[], none, []⟩ [.text "x"]]]⟩

theorem execute_terminates_restless :
    2 ≠ 0 ∧ (∃ last, ReflTransGen (Advances ⟨.empty, Value.display⟩ 2) (restless.begin []) last ∧
      last.advance ⟨.empty, Value.display⟩ 2 = .inr (.error (.loopLimitExceeded 2))) ∧
    (restless.begin []).finish ⟨.empty, Value.display⟩ (show 2 ≠ 0 by decide) =
      .error (.loopLimitExceeded 2) := by
  have stopped : restless.execute ⟨.empty, Value.display⟩ 2 [] =
      some (.error (.loopLimitExceeded 2)) := by rfl
  obtain ⟨-, result, executed, ends, finishes⟩ :=
    execute_terminates ⟨.empty, Value.display⟩ restless [] (show 2 ≠ 0 by decide)
  rw [stopped] at executed
  cases executed
  exact ⟨by decide, ends, finishes⟩

theorem not_unlimited_while (tools : Tools) (s : State) (outcome : Except Fault State) :
    ¬Unlimited tools [.whileLoop (.literal (.bool true)) []] s outcome := by
  have going : ∀ limit rounds t, Run.whileLoop (Run.test tools (.literal (.bool true)))
      (fun u => Run.nodes tools limit [] u) rounds t = .error .exhausted := by
    intro limit rounds t
    induction rounds with
    | zero => rfl
    | succ rounds ih => exact ih
  rw [unlimited_iff]
  rintro ⟨rounds, ran⟩
  rw [Run.nodes, Run.node, going] at ran
  cases outcome <;> cases ran

end Program

end Stencil
