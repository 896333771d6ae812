import Stencil.Proofs.Program.Unlimited
import Stencil.Proofs.Reading

/-!
# A limit only cuts off

A run in which every loop may go a number of rounds is the run without a limit, up to the first round
beyond the number (`execute_limit`). A run without a limit that ends is the run with enough rounds
(`Run.unlimited_iff`), and its end is what is written where there is no limit (`unlimited_iff_ends`).
-/

namespace Stencil

namespace Run
open Progress Relation

variable {tools : Tools} {limit : Nat} {tasks new more rest : List Task} {task : Task} {s t : State}
  {p q : Progress}

/-! ## Steps within a limit -/

def Within (limit : Nat) (tasks : List Task) : Prop :=
  ∀ task ∈ tasks, task.begun ≤ limit

theorem Within.append (left : Within limit tasks) (right : Within limit more) :
    Within limit (tasks ++ more) := by
  intro task mem
  rcases List.mem_append.1 mem with mem | mem
  · exact left task mem
  · exact right task mem

theorem within_nil : Within limit [] := by
  rintro task ⟨⟩

theorem within_all (nodes : List Node) : Within limit (Task.all nodes) := by
  intro task mem
  obtain ⟨n, -, rfl⟩ := List.mem_map.1 mem
  exact Nat.zero_le limit

theorem within_singleton (few : task.begun ≤ limit) : Within limit [task] := by
  intro other mem
  rw [List.mem_singleton.1 mem]
  exact few

def Keeping (tools : Tools) (limit : Nat) (p q : Progress) : Prop :=
  Next tools p q ∧ Within limit q.tasks

theorem within_of_path (path : ReflTransGen (Keeping tools limit) p q)
    (ended : ∀ r, ¬Next tools q r) (start : Within limit p.tasks) {r : Progress}
    (reached : Reaches tools p r) : Within limit r.tasks := by
  induction path using ReflTransGen.head_induction_on with
  | refl =>
    rcases ReflTransGen.cases_head reached with rfl | ⟨next, first, -⟩
    · exact start
    · exact absurd first (ended next)
  | head first _ ih =>
    rcases ReflTransGen.cases_head reached with rfl | ⟨next, other, later⟩
    · exact start
    · obtain rfl := first.1.unique other
      exact ih first.2 later

/-! ## The end of a path -/

theorem end_unique (reached : Reaches tools p q) (ended : ∀ next, ¬Next tools q next) {r : Progress}
    (again : Reaches tools p r) (last : ∀ next, ¬Next tools r next) : q = r := by
  have unique : Relator.RightUnique (Next tools) := fun _ _ _ => Next.unique
  rcases ReflTransGen.total_of_right_unique unique reached again with further | further
  · rcases ReflTransGen.cases_head further with rfl | ⟨next, first, -⟩
    · rfl
    · exact absurd first (ended next)
  · rcases ReflTransGen.cases_head further with rfl | ⟨next, first, -⟩
    · rfl
    · exact absurd first (last next)

theorem Within.mono (small : Within limit tasks) {larger : Nat} (le : limit ≤ larger) :
    Within larger tasks :=
  fun task mem => Nat.le_trans (small task mem) le

theorem exists_within (tasks : List Task) : ∃ bound, Within bound tasks := by
  induction tasks with
  | nil => exact ⟨0, within_nil⟩
  | cons task tasks ih =>
    obtain ⟨bound, few⟩ := ih
    refine ⟨max task.begun bound, ?_⟩
    rw [← List.singleton_append]
    exact (within_singleton (Nat.le_max_left ..)).append (few.mono (Nat.le_max_right ..))

theorem exists_bound (path : Reaches tools p q) (ended : ∀ r, ¬Next tools q r) :
    ∃ bound, ∀ r, Reaches tools p r → Within bound r.tasks := by
  induction path using ReflTransGen.head_induction_on with
  | refl =>
    obtain ⟨bound, few⟩ := exists_within q.tasks
    refine ⟨bound, fun r reached => ?_⟩
    rcases ReflTransGen.cases_head reached with rfl | ⟨next, first, -⟩
    · exact few
    · exact absurd first (ended next)
  | @head p m first _ ih =>
    obtain ⟨bound, later⟩ := ih
    obtain ⟨start, few⟩ := exists_within p.tasks
    refine ⟨max start bound, fun r reached => ?_⟩
    rcases ReflTransGen.cases_head reached with rfl | ⟨next, other, further⟩
    · exact few.mono (Nat.le_max_left ..)
    · obtain rfl := first.unique other
      exact (later r further).mono (Nat.le_max_right ..)

/-! ## What tasks do within a limit -/

/-- The tasks end as the result says, whatever is left to do after them. -/
def Comes (tools : Tools) (limit : Nat) (tasks : List Task) (s : State) :
    Except Stop State → Prop
  | .ok t => ∀ rest, Within limit rest →
      ReflTransGen (Keeping tools limit) ⟨tasks ++ rest, s⟩ ⟨rest, t⟩
  | .error (.fault f) => ∀ rest, Within limit rest →
      ∃ p, ReflTransGen (Keeping tools limit) ⟨tasks ++ rest, s⟩ p ∧ p.Final tools (.error f)
  | .error .exhausted => ∀ rest, Within limit rest →
      ∃ p, Reaches tools ⟨tasks ++ rest, s⟩ p ∧ ∃ task ∈ p.tasks, task.begun = limit + 1

variable {result : Except Stop State}

theorem reaches_of_path (path : ReflTransGen (Keeping tools limit) p q) : Reaches tools p q :=
  path.lift id fun _ _ kept => kept.1

theorem comes_nil : Comes tools limit [] s (.ok s) :=
  fun _ _ => .refl

theorem Comes.after (path : ∀ rest, Within limit rest →
    ReflTransGen (Keeping tools limit) ⟨tasks ++ rest, s⟩ ⟨more ++ rest, t⟩)
    (h : Comes tools limit more t result) : Comes tools limit tasks s result := by
  match result, h with
  | .ok _, h => exact fun rest few => (path rest few).trans (h rest few)
  | .error (.fault f), h =>
    intro rest few
    obtain ⟨p, later, final⟩ := h rest few
    exact ⟨p, (path rest few).trans later, final⟩
  | .error .exhausted, h =>
    intro rest few
    obtain ⟨p, later, beyond⟩ := h rest few
    exact ⟨p, (reaches_of_path (path rest few)).trans later, beyond⟩

theorem comes_append {next : State → Except Stop State} (few : Within limit more)
    (first : Comes tools limit tasks s result)
    (second : ∀ t, result = .ok t → Comes tools limit more t (next t)) :
    Comes tools limit (tasks ++ more) s (result >>= next) := by
  match result, first with
  | .ok t, first =>
    refine (second t rfl).after fun rest small => ?_
    rw [List.append_assoc]
    exact first (more ++ rest) (few.append small)
  | .error (.fault f), first =>
    intro rest small
    rw [List.append_assoc]
    exact first (more ++ rest) (few.append small)
  | .error .exhausted, first =>
    intro rest small
    rw [List.append_assoc]
    exact first (more ++ rest) (few.append small)

theorem comes_step (done : Task.perform tools task s = .ok (new, t)) (few : Within limit new)
    (h : Comes tools limit new t result) : Comes tools limit [task] s result :=
  h.after fun _ small => .single ⟨.perform done, few.append small⟩

theorem comes_fault {f : Fault} (failed : Task.perform tools task s = .error f) :
    Comes tools limit [task] s (.error (.fault f)) :=
  fun _ _ => ⟨_, .refl, .fault failed⟩

theorem comes_exhausted (done : Task.perform tools task s = .ok (new, t))
    (beyond : ∃ other ∈ new, other.begun = limit + 1) :
    Comes tools limit [task] s (.error .exhausted) := by
  intro rest _
  obtain ⟨other, mem, number⟩ := beyond
  exact ⟨_, .single (.perform done), other, List.mem_append_left rest mem, number⟩

theorem comes_value {α : Type} {value : Except Fault α} {begun : α → List Task} {after : α → State}
    {next : α → Except Stop State}
    (done : Task.perform tools task s = value >>= fun v => .ok (begun v, after v))
    (few : ∀ v, Within limit (begun v))
    (h : ∀ v, value = .ok v → Comes tools limit (begun v) (after v) (next v)) :
    Comes tools limit [task] s (faulting value >>= next) := by
  cases value with
  | ok v => exact comes_step done (few v) (h v rfl)
  | error f => exact comes_fault done

theorem comes_test {verdict : Except Fault Bool} {next : Except Stop State}
    (done : Task.perform tools task s =
      verdict >>= fun more => if more then .ok (new, s) else .ok ([], s))
    (goes : Within limit new ∧ Comes tools limit new s next ∨
      (∃ other ∈ new, other.begun = limit + 1) ∧ next = .error .exhausted) :
    Comes tools limit [task] s
      (faulting verdict >>= fun more => if more then next else .ok s) := by
  match verdict with
  | .error f => exact comes_fault done
  | .ok false => exact comes_step done within_nil comes_nil
  | .ok true =>
    rcases goes with ⟨few, h⟩ | ⟨beyond, rfl⟩
    · exact comes_step done few h
    · exact comes_exhausted done beyond

/-! ## Loops -/

theorem bind_ok_eq {α : Type} (x : Except Stop α) : (x >>= fun a => .ok a) = x := by
  cases x <;> rfl

def Follows (tools : Tools) (limit : Nat) (tasks : List Task) (step : Step) : Prop :=
  ∀ s, Comes tools limit tasks s (step s)

variable {body : List Node} {step : List Stmt} {round : Step}

theorem follows_exec (statements : List Stmt) :
    Follows tools limit [.exec statements] (exec tools statements) := by
  intro s
  rw [Task.exec_eq_assigned, ← bind_ok_eq (faulting _)]
  exact comes_value rfl (fun _ => within_nil) fun _ _ => comes_nil

-- The rounds that a loop has begun and those that it may still go make up the limit. This is kept by
-- every round, and where no round is left the next one is the first beyond the limit.

theorem comes_loop {condition : Option Expr} {continues : State → Except Stop Bool}
    (tests : ∀ s, continues s = faulting (Task.goesOn tools condition s))
    (inner : Follows tools limit (Task.all body ++ [.exec step]) round) (rounds begun : Nat)
    (total : begun + rounds = limit) (s : State) :
    Comes tools limit [.loop condition body step begun] s (whileLoop continues round rounds s) := by
  induction rounds generalizing begun s with
  | zero =>
    rw [whileLoop, tests]
    exact comes_test (Task.perform_loop tools)
      (.inr ⟨⟨.loop condition body step (begun + 1), by simp, congrArg (· + 1) total⟩, rfl⟩)
  | succ rounds ih =>
    have few : Within limit [.loop condition body step (begun + 1)] :=
      within_singleton (by simp only [Task.begun]; omega)
    have once : Within limit [.exec step] := within_singleton (Nat.zero_le limit)
    rw [whileLoop, tests]
    refine comes_test (Task.perform_loop tools) (.inl ⟨(within_all body).append (once.append few), ?_⟩)
    rw [← List.singleton_append, ← List.append_assoc]
    exact comes_append few (inner s) fun t _ => ih (begun + 1) (by omega) t

theorem comes_each {header : ForeachHeader} (inner : Follows tools limit (Task.all body) round)
    (items : List (Value × Value)) (rounds begun : Nat) (total : begun + rounds = limit) (s : State) :
    Comes tools limit [.foreach header body begun items] s
      (eachLoop (fun pair s => round (bind header pair s)) rounds items s) := by
  induction items generalizing rounds begun s with
  | nil =>
    rw [eachLoop]
    exact comes_step rfl within_nil comes_nil
  | cons item items ih =>
    cases rounds with
    | zero =>
      refine comes_exhausted rfl ⟨.foreach header body (begun + 1) items, by simp, ?_⟩
      exact congrArg (· + 1) total
    | succ rounds =>
      have few : Within limit [.foreach header body (begun + 1) items] :=
        within_singleton (by simp only [Task.begun]; omega)
      rw [eachLoop]
      refine comes_step rfl ((within_all body).append few) ?_
      exact comes_append few (inner _) fun t _ => ih rounds (begun + 1) (by omega) t

theorem comes_again {condition : Expr} (inner : Follows tools limit (Task.all body) round)
    (rounds begun : Nat) (total : begun + rounds = limit) (s : State) :
    Comes tools limit (Task.all body ++ [.again body condition begun]) s
      (doLoop round (test tools condition) (rounds + 1) s) := by
  induction rounds generalizing begun s with
  | zero =>
    rw [doLoop]
    refine comes_append (within_singleton (by simp only [Task.begun]; omega)) (inner s) fun t _ => ?_
    rw [Task.test_eq_holds]
    exact comes_test (Task.perform_again tools)
      (.inr ⟨⟨.again body condition (begun + 1), by simp, congrArg (· + 1) total⟩, rfl⟩)
  | succ rounds ih =>
    have few : Within limit [.again body condition (begun + 1)] :=
      within_singleton (by simp only [Task.begun]; omega)
    rw [doLoop]
    refine comes_append (within_singleton (by simp only [Task.begun]; omega)) (inner s) fun t _ => ?_
    rw [Task.test_eq_holds]
    exact comes_test (Task.perform_again tools)
      (.inl ⟨(within_all body).append few, ih (begun + 1) (by omega) t⟩)

theorem comes_do {condition : Expr} (inner : Follows tools limit (Task.all body) round) (s : State) :
    Comes tools limit [.node (.doLoop body condition)] s
      (doLoop round (test tools condition) limit s) := by
  cases limit with
  | zero => exact comes_exhausted rfl ⟨.again body condition 1, by simp, rfl⟩
  | succ limit =>
    have begun : Within (limit + 1) [.again body condition 1] :=
      within_singleton (Nat.succ_le_succ (Nat.zero_le limit))
    refine comes_step rfl ((within_all body).append begun) ?_
    exact comes_again inner limit 1 (Nat.add_comm 1 limit) s

/-! ## Nodes -/

theorem chosen_eq_branches (cases : List (Expr × List Node)) (otherwise : Option (List Node))
    (s : State) :
    faulting (Task.chosen tools otherwise s cases) >>= (fun body => nodes tools limit body s) =
      branches tools limit cases s >>= fun found =>
        found.elim (nodes tools limit (otherwise.getD []) s) .ok := by
  induction cases with
  | nil => rfl
  | cons branch cases ih =>
    obtain ⟨condition, body⟩ := branch
    rw [branches, Task.chosen, Task.test_eq_holds]
    cases Task.holds tools condition s with
    | error f => rfl
    | ok holds =>
      cases holds with
      | false => exact ih
      | true =>
        show nodes tools limit body s = (nodes tools limit body s >>= fun t => .ok (some t)) >>= _
        cases nodes tools limit body s <;> rfl

theorem node_choose (cases : List (Expr × List Node)) (otherwise : Option (List Node)) (s : State) :
    node tools limit (.choose cases otherwise) s =
      faulting (Task.chosen tools otherwise s cases) >>= fun body => nodes tools limit body s := by
  rw [chosen_eq_branches]
  cases otherwise with
  | none =>
    rw [node]
    refine bind_congr fun found => ?_
    cases found <;> rfl
  | some last =>
    rw [node]
    refine bind_congr fun found => ?_
    cases found <;> rfl

theorem node_foreach (header : ForeachHeader) (body : List Node) (s : State) :
    node tools limit (.foreach header body) s =
      faulting (header.iterable.evaluate tools.functions s.scope >>= pairs) >>= fun items =>
        eachLoop (fun pair s => nodes tools limit body (bind header pair s)) limit items s := by
  rw [node]
  unfold value
  cases header.iterable.evaluate tools.functions s.scope <;> rfl

mutual

theorem follows_node (n : Node) : Follows tools limit [.node n] (node tools limit n) := by
  intro s
  match n with
  | .text text => exact comes_step rfl within_nil comes_nil
  | .print e =>
    rw [node]
    exact comes_value rfl (fun _ => within_nil) fun _ _ => comes_nil
  | .echo e =>
    rw [node]
    exact comes_value rfl (fun _ => within_nil) fun _ _ => comes_nil
  | .dump e =>
    rw [node]
    exact comes_value rfl (fun _ => within_nil) fun _ _ => comes_nil
  | .exec statements =>
    rw [node]
    exact comes_step rfl (within_singleton (Nat.zero_le limit)) (follows_exec statements s)
  | .choose cases none =>
    rw [node_choose]
    exact comes_value rfl within_all fun body found =>
      follows_branches none (by rintro body ⟨⟩) cases s found
  | .choose cases (some last) =>
    rw [node_choose]
    refine comes_value rfl within_all fun body found => follows_branches (some last) ?_ cases s found
    rintro body ⟨⟩
    exact follows_nodes last
  | .foreach header body =>
    rw [node_foreach]
    have done : Task.perform tools (.node (.foreach header body)) s =
        (header.iterable.evaluate tools.functions s.scope >>= pairs) >>= fun items =>
          .ok ([.foreach header body 0 items], s) := by
      rw [Task.perform]
      cases header.iterable.evaluate tools.functions s.scope <;> rfl
    exact comes_value done (fun _ => within_singleton (Nat.zero_le limit))
      fun items _ => comes_each (follows_nodes body) items limit 0 (Nat.zero_add limit) s
  | .forLoop header body =>
    have once : Within limit [.exec header.step] := within_singleton (Nat.zero_le limit)
    have entered : Within limit [.loop header.condition body header.step 0] :=
      within_singleton (Nat.zero_le limit)
    have inner : Follows tools limit (Task.all body ++ [.exec header.step])
        (fun s => do exec tools header.step (← nodes tools limit body s)) :=
      fun s => comes_append once (follows_nodes body s) fun t _ => follows_exec header.step t
    rw [node]
    refine comes_step rfl ((within_singleton (Nat.zero_le limit)).append entered) ?_
    refine comes_append entered (follows_exec header.first s) fun t _ => ?_
    refine comes_loop (fun s => ?_) inner limit 0 (Nat.zero_add limit) t
    unfold Task.goesOn
    cases header.condition with
    | none => rfl
    | some condition => exact Task.test_eq_holds tools condition s
  | .whileLoop condition body =>
    have inner : Follows tools limit (Task.all body ++ [.exec []]) (nodes tools limit body) := by
      intro s
      rw [← bind_ok_eq (nodes tools limit body s)]
      exact comes_append (within_singleton (Nat.zero_le limit)) (follows_nodes body s)
        fun t _ => follows_exec [] t
    rw [node]
    refine comes_step rfl (within_singleton (Nat.zero_le limit)) ?_
    exact comes_loop (Task.test_eq_holds tools condition) inner limit 0 (Nat.zero_add limit) s
  | .doLoop body condition =>
    rw [node]
    exact comes_do (follows_nodes body) s

theorem follows_branches (otherwise : Option (List Node))
    (last : ∀ body, otherwise = some body →
      Follows tools limit (Task.all body) (nodes tools limit body))
    (branches : List (Expr × List Node)) (s : State) {body : List Node}
    (found : Task.chosen tools otherwise s branches = .ok body) :
    Comes tools limit (Task.all body) s (nodes tools limit body s) := by
  match branches with
  | [] =>
    cases found
    cases otherwise with
    | none => exact comes_nil
    | some body => exact last body rfl s
  | (condition, inner) :: others =>
    rw [Task.chosen] at found
    obtain ⟨holds, -, found⟩ := bind_eq_ok.1 found
    cases holds with
    | true =>
      cases found
      exact follows_nodes body s
    | false => exact follows_branches otherwise last others s found

theorem follows_nodes (ns : List Node) : Follows tools limit (Task.all ns) (nodes tools limit ns) := by
  intro s
  match ns with
  | [] => exact comes_nil
  | n :: ns =>
    rw [nodes]
    exact comes_append (within_all ns) (follows_node n s) fun t _ => follows_nodes ns t

end

/-! ## Runs that end -/

def EndsAt (tools : Tools) (p : Progress) : Except Fault State → Prop
  | .ok t => p = ⟨[], t⟩
  | .error f => p.Final tools (.error f)

variable {ns : List Node} {outcome other : Except Fault State}

theorem EndsAt.unique (one : EndsAt tools p outcome) (two : EndsAt tools p other) :
    outcome = other := by
  cases outcome with
  | ok t =>
    cases one
    cases other with
    | ok u => cases two; rfl
    | error f => cases two
  | error f =>
    cases other with
    | ok u => cases two; cases one
    | error g => cases Final.unique one two; rfl

theorem EndsAt.final (ends : EndsAt tools p outcome) : p.Final tools (outcome.map State.output) := by
  cases outcome with
  | ok t =>
    cases ends
    exact .output
  | error f => exact ends

theorem EndsAt.not_next (ends : EndsAt tools p outcome) (q : Progress) : ¬Next tools p q :=
  ends.final.not_next

/-- The nodes end so without a limit on their loops. -/
def Unlimited (tools : Tools) (ns : List Node) (s : State) (outcome : Except Fault State) : Prop :=
  ∃ p, Reaches tools ⟨Task.all ns, s⟩ p ∧ EndsAt tools p outcome

/-- The nodes either take the path of the run without a limit, within the limit and to its end, or they are
exhausted where that run begins a round beyond the limit. -/
theorem nodes_cases (tools : Tools) (ns : List Node) (s : State) (rounds : Nat) :
    (∃ outcome p, nodes tools rounds ns s = outcome.mapError .fault ∧
      ReflTransGen (Keeping tools rounds) ⟨Task.all ns, s⟩ p ∧ EndsAt tools p outcome) ∨
    (nodes tools rounds ns s = .error .exhausted ∧
      ∃ p, Reaches tools ⟨Task.all ns, s⟩ p ∧ ∃ task ∈ p.tasks, task.begun = rounds + 1) := by
  have follows : Comes tools rounds (Task.all ns) s _ := follows_nodes ns s
  rw [← List.append_nil (Task.all ns)]
  match ran : nodes tools rounds ns s with
  | .ok t =>
    rw [ran] at follows
    exact .inl ⟨.ok t, _, rfl, follows [] within_nil, rfl⟩
  | .error (.fault f) =>
    rw [ran] at follows
    obtain ⟨p, path, final⟩ := follows [] within_nil
    exact .inl ⟨.error f, p, rfl, path, final⟩
  | .error .exhausted =>
    rw [ran] at follows
    exact .inr ⟨rfl, follows [] within_nil⟩

theorem unlimited_iff :
    Unlimited tools ns s outcome ↔ ∃ rounds, nodes tools rounds ns s = outcome.mapError .fault := by
  constructor
  · rintro ⟨p, path, ends⟩
    obtain ⟨bound, few⟩ := exists_bound path ends.not_next
    refine ⟨bound, ?_⟩
    rcases nodes_cases tools ns s bound with
      ⟨other, q, ran, again, last⟩ | ⟨-, q, reached, task, mem, more⟩
    · obtain rfl := end_unique path ends.not_next (reaches_of_path again) last.not_next
      rw [ran, ends.unique last]
    · have small := few q reached task mem
      omega
  · rintro ⟨rounds, ran⟩
    rcases nodes_cases tools ns s rounds with ⟨other, p, same, path, ends⟩ | ⟨exhausted, -⟩
    · rw [ran] at same
      cases outcome <;> cases other <;> cases same <;> exact ⟨p, reaches_of_path path, ends⟩
    · rw [ran] at exhausted
      cases outcome <;> cases exhausted

end Run

namespace Program
open Run Progress Relation

variable {tools : Tools} {program : Program} {context : Context}

theorem run_cases (tools : Tools) (program : Program) (context : Context) (rounds : Nat) :
    (∃ result p, program.run tools rounds context = result.mapError .fault ∧
      ReflTransGen (Keeping tools rounds) (program.begin context) p ∧ p.Final tools result) ∨
    (program.run tools rounds context = .error .exhausted ∧
      program.BeginsRound tools context (rounds + 1)) := by
  unfold run
  rcases nodes_cases tools program.nodes ⟨.start context, ""⟩ rounds with
    ⟨outcome, p, ran, path, ends⟩ | ⟨ran, beyond⟩
  · refine .inl ⟨outcome.map State.output, p, ?_, path, ends.final⟩
    rw [ran]
    cases outcome <;> rfl
  · rw [ran]
    exact .inr ⟨rfl, beyond⟩

theorem not_beginsRound_of_path {rounds number : Nat} {p : Progress}
    {result : Except Fault String}
    (path : ReflTransGen (Keeping tools rounds) (program.begin context) p)
    (final : p.Final tools result) (beyond : rounds < number) :
    ¬program.BeginsRound tools context number := by
  rintro ⟨q, reached, task, mem, rfl⟩
  have few := within_of_path path (fun _ => final.not_next) (within_all program.nodes) reached
  exact Nat.not_le_of_lt beyond (few task mem)

theorem Ends.unique {result other : Except Fault String} (one : program.Ends tools context result)
    (two : program.Ends tools context other) : result = other := by
  obtain ⟨p, reached, final⟩ := one
  obtain ⟨q, again, last⟩ := two
  obtain rfl := end_unique reached (fun _ => final.not_next) again fun _ => last.not_next
  exact final.unique last

/-- What is written without a limit is what the run without a limit ends with, and nothing is where that
run does not end. -/
theorem unlimited_iff_ends {result : Except Fault String} :
    program.unlimited tools context = some result ↔ program.Ends tools context result := by
  constructor
  · intro h
    obtain ⟨rounds, ran⟩ := Runs.exists_of_ending h
    rcases run_cases tools program context rounds with ⟨other, p, again, path, final⟩ | ⟨exhausted, -⟩
    · rw [ran] at again
      cases result <;> cases other <;> cases again <;> exact ⟨p, reaches_of_path path, final⟩
    · rw [ran] at exhausted
      cases result <;> cases exhausted
  · rintro ⟨last, reached, final⟩
    obtain ⟨bound, few⟩ := exists_bound reached fun _ => final.not_next
    refine Runs.ending_of_runs bound Nat.one_pos fun rounds => ?_
    rcases run_cases tools program context rounds with
      ⟨other, p, ran, path, ends⟩ | ⟨ran, q, beyond, task, mem, number⟩
    · have same : result = other := Ends.unique ⟨last, reached, final⟩ ⟨p, reaches_of_path path, ends⟩
      exact .inl (same ▸ ran)
    · have small := few q beyond task mem
      exact .inr ⟨ran, by omega⟩

/-- A limit on the rounds of loops stops a run exactly where a loop of the run without a limit begins
one round more. Otherwise the run without a limit ends, and every limit that is no smaller, and none,
gives its result. -/
theorem execute_limit (tools : Tools) (program : Program) (context : Context) {limit : Nat}
    (limited : limit ≠ 0) :
    (program.execute tools limit context = some (.error (.loopLimitExceeded limit)) ↔
      program.BeginsRound tools context (limit + 1)) ∧
    (¬program.BeginsRound tools context (limit + 1) →
      ∃ result, (∀ other, program.Ends tools context other ↔ other = result) ∧
        ∀ larger, larger = 0 ∨ limit ≤ larger →
          program.execute tools larger context = some (result.mapError .execution)) := by
  rcases run_cases tools program context limit with ⟨result, p, ran, path, final⟩ | ⟨ran, beyond⟩
  · have ends : program.Ends tools context result := ⟨p, reaches_of_path path, final⟩
    have within : ∀ number, limit < number → ¬program.BeginsRound tools context number :=
      fun number => not_beginsRound_of_path path final
    have result_of : ∀ larger, larger = 0 ∨ limit ≤ larger →
        program.execute tools larger context = some (result.mapError .execution) := by
      rintro larger (rfl | le)
      · rw [execute_zero, unlimited_iff_ends.2 ends]
        rfl
      · rcases run_cases tools program context larger with ⟨other, q, again, further, last⟩ | ⟨-, more⟩
        · rw [execute_of_run again (by omega), ends.unique ⟨q, reaches_of_path further, last⟩]
        · exact absurd more (within _ (Nat.lt_succ_of_le le))
    refine ⟨⟨fun stopped => ?_, fun more => absurd more (within _ (Nat.lt_succ_self limit))⟩, fun _ => ?_⟩
    · rw [result_of limit (.inr (Nat.le_refl limit))] at stopped
      cases result <;> cases stopped
    · exact ⟨result, fun other => ⟨fun two => two.unique ends, fun same => same ▸ ends⟩, result_of⟩
  · exact ⟨⟨fun _ => beyond, fun _ => execute_of_exhausted ran limited⟩, fun none => absurd beyond none⟩

def grid : Program :=
  ⟨[.foreach ⟨.array [.literal (.bool true), .literal (.bool false)], none, "row"⟩
    [.text "|", .exec [.assign "dots" .set (.literal (.string ""))],
      .doLoop [.text "x", .exec [.assign "dots" .concat (.literal (.string "."))]]
        (.binary .notEq (.path ⟨"dots", []⟩) (.literal (.string "...")))]]⟩

theorem execute_limit_grid :
    (3 ≠ 0 ∧ grid.execute ⟨.empty, Value.display⟩ 3 [] = some (.ok "|xxx|xxx") ∧
      ¬grid.BeginsRound ⟨.empty, Value.display⟩ [] 4 ∧
      grid.Ends ⟨.empty, Value.display⟩ [] (.ok "|xxx|xxx") ∧
      grid.execute ⟨.empty, Value.display⟩ 0 [] = some (.ok "|xxx|xxx")) ∧
    (2 ≠ 0 ∧ grid.execute ⟨.empty, Value.display⟩ 2 [] = some (.error (.loopLimitExceeded 2)) ∧
      grid.BeginsRound ⟨.empty, Value.display⟩ [] 3) := by
  have three : grid.execute ⟨.empty, Value.display⟩ 3 [] = some (.ok "|xxx|xxx") := by rfl
  have two : grid.execute ⟨.empty, Value.display⟩ 2 [] = some (.error (.loopLimitExceeded 2)) := by rfl
  obtain ⟨stops, ends⟩ := @execute_limit ⟨.empty, Value.display⟩ grid [] 3 (by decide)
  have within : ¬grid.BeginsRound ⟨.empty, Value.display⟩ [] 4 := by
    rw [← stops, three]
    rintro ⟨⟩
  obtain ⟨result, only, larger⟩ := ends within
  have same := larger 3 (.inr (by decide))
  rw [three] at same
  cases result with
  | error f => cases same
  | ok text =>
    cases same
    refine ⟨⟨by decide, three, within, (only _).2 rfl, larger 0 (.inl rfl)⟩, by decide, two, ?_⟩
    exact (@execute_limit _ grid [] 2 (by decide)).1.1 two

end Program

end Stencil
