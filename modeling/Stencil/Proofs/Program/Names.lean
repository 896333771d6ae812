import Stencil.Proofs.Program.Effects
import Stencil.Proofs.Program.Limits
import Stencil.Proofs.Program.Output

namespace Stencil

/-! ## Names that are read and names that are assigned -/

mutual

def Expr.roots : Expr → List String
  | .literal _ => []
  | .path p => [p.root]
  | .index target position => target.roots ++ position.roots
  | .member target _ => target.roots
  | .call _ args => Expr.allRoots args
  | .unary _ operand => operand.roots
  | .binary _ left right => left.roots ++ right.roots
  | .logical _ left right => left.roots ++ right.roots
  | .conditional condition yes no => condition.roots ++ (yes.roots ++ no.roots)
  | .array items => Expr.allRoots items

def Expr.allRoots : List Expr → List String
  | [] => []
  | e :: es => e.roots ++ Expr.allRoots es

end

/-- A plain assignment does not read its target. -/
def Stmt.reads : Stmt → List String
  | .assign _ .set value => value.roots
  | .assign target _ value => target :: value.roots
  | .increment target | .decrement target => [target]
  | .expr e => e.roots

def Stmt.targets : Stmt → List String
  | .assign target _ _ | .increment target | .decrement target => [target]
  | .expr _ => []

def Node.reads : Node → List String
  | .text _ => []
  | .print e | .echo e | .dump e => e.roots
  | .exec list => list.flatMap Stmt.reads
  | .choose cases _ => cases.flatMap fun (condition, _) => condition.roots
  | .foreach header _ => header.iterable.roots
  | .forLoop header _ =>
    header.first.flatMap Stmt.reads ++
      ((header.condition.elim [] Expr.roots) ++ header.step.flatMap Stmt.reads)
  | .whileLoop condition _ | .doLoop _ condition => condition.roots

def Node.targets : Node → List String
  | .exec list => list.flatMap Stmt.targets
  | .foreach header _ => header.value :: header.key.toList
  | .forLoop header _ => header.first.flatMap Stmt.targets ++ header.step.flatMap Stmt.targets
  | _ => []

def Program.reads (program : Program) : List String :=
  program.subtrees.flatMap Node.reads

def Program.targets (program : Program) : List String :=
  program.subtrees.flatMap Node.targets

/-! ## What holds of all work with some names -/

variable {tools : Tools} {reads targets : List String}

/-- A property of work that the smallest pieces have, if they read and assign none but these names, and that
is kept where work is put together. -/
structure Work.Composes (tools : Tools) (reads targets : List String)
    (P : ∀ {α : Type}, Work α → Prop) : Prop where
  give : ∀ {α : Type} (a : α), P (pure a)
  stop : ∀ {α : Type} (why : Stop), P (throw why : Work α)
  bind : ∀ {α β : Type} {x : Work α} {f : α → Work β}, P x → (∀ a, P (f a)) → P (x >>= f)
  write : ∀ text, P (Work.write text)
  evaluate : ∀ e : Expr, e.roots ⊆ reads → P (Work.evaluate tools e)
  current : ∀ name ∈ reads, P (Work.current name)
  assign : ∀ name ∈ targets, ∀ v, P (Work.assign name v)

namespace Work.Composes

variable {P : ∀ {α : Type}, Work α → Prop} (composes : Composes tools reads targets P)
include composes

theorem of {α : Type} (result : Except Fault α) : P (Work.of result) := by
  cases result with
  | ok a => exact composes.give a
  | error f => exact composes.stop (.fault f)

theorem test (e : Expr) (known : e.roots ⊆ reads) : P (Work.test tools e) :=
  composes.bind (composes.evaluate e known) fun _ => composes.give _

theorem statement (stmt : Stmt) (reading : stmt.reads ⊆ reads) (writing : stmt.targets ⊆ targets) :
    P (Work.statement tools stmt) := by
  have update : ∀ target ∈ reads, target ∈ targets → ∀ f : Value → Except Fault Value,
      P (do Work.assign target (← Work.of (f (← Work.current target)))) := fun target old new f =>
    composes.bind (composes.current target old) fun _ =>
      composes.bind (composes.of _) fun _ => composes.assign target new _
  cases stmt with
  | assign target op value =>
    have new : target ∈ targets := writing List.mem_cons_self
    cases op with
    | set => exact composes.bind (composes.evaluate value reading) fun _ => composes.assign target new _
    | _ =>
      obtain ⟨old, inside⟩ := List.cons_subset.1 reading
      exact composes.bind (composes.evaluate value inside) fun _ => update target old new _
  | increment target | decrement target =>
    exact update target (reading List.mem_cons_self) (writing List.mem_cons_self) _
  | expr e => exact composes.bind (composes.evaluate e reading) fun _ => composes.give _

theorem statements (list : List Stmt) (reading : list.flatMap Stmt.reads ⊆ reads)
    (writing : list.flatMap Stmt.targets ⊆ targets) : P (Work.statements tools list) := by
  induction list with
  | nil => exact composes.give ()
  | cons stmt rest ih =>
    obtain ⟨first, others⟩ := List.append_subset.1 reading
    obtain ⟨one, more⟩ := List.append_subset.1 writing
    exact composes.bind (composes.statement stmt first one) fun _ => ih others more

theorem whileLoop {continues : Work Bool} {body : Work Unit} (tests : P continues) (inner : P body)
    (rounds : Nat) : P (Work.whileLoop continues body rounds) := by
  induction rounds with
  | zero =>
    refine composes.bind tests fun more => ?_
    cases more with
    | false => exact composes.give ()
    | true => exact composes.stop .exhausted
  | succ rounds ih =>
    refine composes.bind tests fun more => ?_
    cases more with
    | false => exact composes.give ()
    | true => exact composes.bind inner fun _ => ih

theorem doLoop {continues : Work Bool} {body : Work Unit} (tests : P continues) (inner : P body)
    (rounds : Nat) : P (Work.doLoop body continues rounds) := by
  induction rounds with
  | zero => exact composes.stop .exhausted
  | succ rounds ih =>
    refine composes.bind inner fun _ => composes.bind tests fun more => ?_
    cases more with
    | false => exact composes.give ()
    | true => exact ih

theorem eachLoop {α : Type} {body : α → Work Unit} (inner : ∀ a, P (body a)) (items : List α)
    (rounds : Nat) : P (Work.eachLoop body rounds items) := by
  induction items generalizing rounds with
  | nil => cases rounds <;> exact composes.give ()
  | cons item items ih =>
    cases rounds with
    | zero => exact composes.stop .exhausted
    | succ rounds => exact composes.bind (inner item) fun _ => ih rounds

theorem pair (header : ForeachHeader) (writing : header.value :: header.key.toList ⊆ targets)
    (pair : Value × Value) : P (Work.bind header pair) := by
  obtain ⟨iterable, key, value⟩ := header
  obtain ⟨one, more⟩ := List.cons_subset.1 writing
  cases key with
  | none => exact composes.assign value one _
  | some key =>
    exact composes.bind (composes.assign key (more List.mem_cons_self) _) fun _ =>
      composes.assign value one _

theorem goesOn (condition : Option Expr) (reading : condition.elim [] Expr.roots ⊆ reads) :
    P (Work.goesOn tools condition) := by
  cases condition with
  | none => exact composes.give true
  | some condition => exact composes.test condition reading

end Work.Composes

namespace Work.Composes

variable {P : ∀ {α : Type}, Work α → Prop} {all : List Node} {rounds : Nat}
  (composes : Composes tools (all.flatMap Node.reads) (all.flatMap Node.targets) P)
include composes

mutual

theorem node (n : Node) (known : n.subtrees ⊆ all) : P (Work.node tools rounds n) := by
  have self : n ∈ all := known (by cases n <;> simp [Node.subtrees])
  have read : n.reads ⊆ all.flatMap Node.reads := fun _ mem => List.mem_flatMap.2 ⟨n, self, mem⟩
  have written : n.targets ⊆ all.flatMap Node.targets := fun _ mem =>
    List.mem_flatMap.2 ⟨n, self, mem⟩
  match n with
  | .text text => exact composes.write text
  | .print e | .echo e | .dump e =>
    exact composes.bind (composes.evaluate e read) fun _ => composes.write _
  | .exec list => exact composes.statements list read written
  | .choose cases none =>
    rw [Node.subtrees] at known
    have first := (List.append_subset.1 (List.cons_subset.1 known).2).1
    exact branches cases first read (composes.give ())
  | .choose cases (some body) =>
    rw [Node.subtrees] at known
    obtain ⟨first, last⟩ := List.append_subset.1 (List.cons_subset.1 known).2
    exact branches cases first read (nodes body last)
  | .foreach header body =>
    have inner := nodes body (List.cons_subset.1 known).2
    refine composes.bind (composes.evaluate _ read) fun v => composes.bind (composes.of _) fun items => ?_
    exact composes.eachLoop (fun item => composes.bind (composes.pair header written item) fun _ => inner)
      items rounds
  | .forLoop header body =>
    have inner := nodes body (List.cons_subset.1 known).2
    obtain ⟨first, others⟩ := List.append_subset.1 read
    obtain ⟨condition, step⟩ := List.append_subset.1 others
    obtain ⟨begun, stepped⟩ := List.append_subset.1 written
    refine composes.bind (composes.statements _ first begun) fun _ => ?_
    exact composes.whileLoop (composes.goesOn _ condition)
      (composes.bind inner fun _ => composes.statements _ step stepped) rounds
  | .whileLoop condition body =>
    exact composes.whileLoop (composes.test condition read) (nodes body (List.cons_subset.1 known).2) rounds
  | .doLoop body condition =>
    exact composes.doLoop (composes.test condition read) (nodes body (List.cons_subset.1 known).2) rounds

theorem nodes (ns : List Node) (known : Node.bodySubtrees ns ⊆ all) :
    P (Work.nodes tools rounds ns) := by
  match ns with
  | [] => exact composes.give ()
  | n :: ns =>
    rw [Node.bodySubtrees] at known
    obtain ⟨first, others⟩ := List.append_subset.1 known
    exact composes.bind (node n first) fun _ => nodes ns others

theorem branches (cases : List (Expr × List Node)) (known : Node.branchSubtrees cases ⊆ all)
    (read : (cases.flatMap fun (condition, _) => condition.roots) ⊆ all.flatMap Node.reads)
    {otherwise : Work Unit} (last : P otherwise) : P (Work.branches tools rounds cases otherwise) := by
  match cases with
  | [] => exact last
  | (condition, body) :: cases =>
    rw [Node.branchSubtrees] at known
    obtain ⟨first, others⟩ := List.append_subset.1 known
    obtain ⟨here, later⟩ := List.append_subset.1 read
    refine composes.bind (composes.test condition here) fun holds => ?_
    cases holds with
    | false => exact branches cases others later last
    | true => exact nodes body first

end

end Work.Composes

/-! ## Agreement of two runs -/

def Scope.Agree (names : List String) (one two : Scope) : Prop :=
  ∀ name ∈ names, one.lookup name = two.lookup name

/-- The second scope has the same data, and finds the same under every name but the targets. -/
def Scope.KeptBeside (targets : List String) (before after : Scope) : Prop :=
  after.context = before.context ∧
    ∀ name, name ∉ targets → after.lookup name = before.lookup name

variable {names : List String} {one two : Scope} {s t : State}

theorem Scope.Agree.assign (h : one.Agree names two) (target : String) (v : Value) :
    (one.assign target v).Agree names (two.assign target v) := by
  intro name mem
  rw [Scope.lookup_assign, Scope.lookup_assign, h name mem]

mutual

theorem Expr.evaluate_congr {functions : FunctionTable} (e : Expr) (h : one.Agree e.roots two) :
    e.evaluate functions one = e.evaluate functions two := by
  match e with
  | .literal v => rfl
  | .path p =>
    have same : p.resolve? one.lookup = p.resolve? two.lookup := by
      rw [VariablePath.resolve?, VariablePath.resolve?, h p.root List.mem_cons_self]
    rw [evaluate, evaluate, same]
  | .member target segment =>
    rw [evaluate, evaluate, Expr.evaluate_congr target h]
  | .index target position =>
    obtain ⟨left, right⟩ := List.forall_mem_append.1 h
    rw [evaluate, evaluate, Expr.evaluate_congr target left, Expr.evaluate_congr position right]
  | .call name args =>
    rw [evaluate, evaluate, Expr.evaluateAll_congr args h]
  | .unary op operand =>
    rw [evaluate, evaluate, Expr.evaluate_congr operand h]
  | .binary op a b =>
    obtain ⟨left, right⟩ := List.forall_mem_append.1 h
    rw [evaluate, evaluate, Expr.evaluate_congr a left, Expr.evaluate_congr b right]
  | .logical op a b =>
    obtain ⟨left, right⟩ := List.forall_mem_append.1 h
    rw [evaluate, evaluate, Expr.evaluate_congr a left, Expr.evaluate_congr b right]
  | .conditional condition yes no =>
    obtain ⟨first, others⟩ := List.forall_mem_append.1 h
    obtain ⟨left, right⟩ := List.forall_mem_append.1 others
    rw [evaluate, evaluate, Expr.evaluate_congr condition first, Expr.evaluate_congr yes left,
      Expr.evaluate_congr no right]
  | .array items =>
    rw [evaluate, evaluate, Expr.evaluateAll_congr items h]

theorem Expr.evaluateAll_congr {functions : FunctionTable} (es : List Expr)
    (h : one.Agree (Expr.allRoots es) two) :
    Expr.evaluateAll functions one es = Expr.evaluateAll functions two es := by
  match es with
  | [] => rfl
  | e :: es =>
    obtain ⟨first, others⟩ := List.forall_mem_append.1 h
    rw [Expr.evaluateAll, Expr.evaluateAll, Expr.evaluate_congr e first,
      Expr.evaluateAll_congr es others]

end

namespace Work

def Alike (names : List String) (s t : State) : Prop :=
  s.output = t.output ∧ s.scope.Agree names t.scope

/-- Where states are alike, the work gives the same or stops for the same reason, and the states are
alike after it. -/
def Uniform (names : List String) {α : Type} (x : Work α) : Prop :=
  ∀ s t, Alike names s t → (x s).1 = (x t).1 ∧ Alike names (x s).2 (x t).2

theorem Uniform.bind {α β : Type} {x : Work α} {f : α → Work β} (first : Uniform names x)
    (rest : ∀ a, Uniform names (f a)) : Uniform names (x >>= f) := by
  intro s t alike
  have after := first s t alike
  rw [bind_apply, bind_apply]
  generalize x s = p at after ⊢
  generalize x t = q at after ⊢
  obtain ⟨result, u⟩ := p
  obtain ⟨other, v⟩ := q
  obtain ⟨same, after⟩ := after
  cases (same : result = other)
  cases result with
  | ok a => exact rest a u v after
  | error why => exact ⟨rfl, after⟩

theorem uniform_composes : Composes tools names targets (Uniform names) where
  give _ _ _ alike := ⟨rfl, alike⟩
  stop _ _ _ alike := ⟨rfl, alike⟩
  bind := Uniform.bind
  write text s t alike := ⟨rfl, congrArg (· ++ text) alike.1, alike.2⟩
  evaluate e known s t alike := by
    have same : Run.value tools e s = Run.value tools e t :=
      congrArg Run.faulting (Expr.evaluate_congr e fun name mem => alike.2 name (known mem))
    rw [gives_evaluate e s, gives_evaluate e t, same]
    exact ⟨rfl, alike⟩
  current name known s t alike := by
    have same : s.scope.current name = t.scope.current name :=
      congrArg (Option.getD · Value.null) (alike.2 name known)
    exact ⟨congrArg Except.ok same, alike⟩
  assign name _ v s t alike := ⟨rfl, alike.1, alike.2.assign name v⟩

def Confined (targets : List String) {α : Type} (x : Work α) : Prop :=
  ∀ s : State, s.scope.KeptBeside targets (x s).2.scope

theorem Confined.bind {α β : Type} {x : Work α} {f : α → Work β} (first : Confined targets x)
    (rest : ∀ a, Confined targets (f a)) : Confined targets (x >>= f) := by
  intro s
  have after := first s
  rw [bind_apply]
  generalize x s = p at after ⊢
  obtain ⟨why | a, t⟩ := p
  · exact after
  · obtain ⟨data, kept⟩ := after
    obtain ⟨later, more⟩ := rest a t
    exact ⟨later.trans data, fun name free => (more name free).trans (kept name free)⟩

theorem confined_composes : Composes tools reads targets (Confined targets) where
  give _ _ := ⟨rfl, fun _ _ => rfl⟩
  stop _ _ := ⟨rfl, fun _ _ => rfl⟩
  bind := Confined.bind
  write _ _ := ⟨rfl, fun _ _ => rfl⟩
  evaluate e _ s := by
    rw [gives_evaluate e s]
    exact ⟨rfl, fun _ _ => rfl⟩
  current _ _ _ := ⟨rfl, fun _ _ => rfl⟩
  assign target known v s := by
    refine ⟨rfl, fun name free => (Scope.lookup_assign s.scope target name v).trans (if_neg ?_)⟩
    rintro rfl
    exact free known

/-- Both are states that are alike, or both are the same error. -/
inductive EndsAlike {ε : Type} (names : List String) : Except ε State → Except ε State → Prop
  | ok {u v : State} : Alike names u v → EndsAlike names (.ok u) (.ok v)
  | error {e : ε} : EndsAlike names (.error e) (.error e)

theorem EndsAlike.output {ε : Type} {here there : Except ε State}
    (alike : EndsAlike names here there) : here.map State.output = there.map State.output := by
  cases alike with
  | ok alike => exact congrArg Except.ok alike.1
  | error => rfl

theorem Uniform.endsAlike {x : Work Unit} (uniform : Uniform names x) (alike : Alike names s t) :
    EndsAlike names (outcome x s) (outcome x t) := by
  have after := uniform s t alike
  rw [outcome, outcome]
  generalize x s = p at after ⊢
  generalize x t = q at after ⊢
  obtain ⟨result, u⟩ := p
  obtain ⟨other, v⟩ := q
  obtain ⟨same, after⟩ := after
  cases (same : result = other)
  cases result with
  | ok _ => exact .ok after
  | error why => exact .error

theorem Confined.outcome {x : Work Unit} (confined : Confined targets x) (ran : outcome x s = .ok t) :
    s.scope.KeptBeside targets t.scope := by
  have after := confined s
  rw [Work.outcome] at ran
  generalize x s = p at after ran
  obtain ⟨why | _, u⟩ := p
  · cases ran
  · cases ran
    exact after

end Work

namespace Program
open Work

theorem nodes_endsAlike (tools : Tools) (program : Program) (agree : one.Agree program.reads two) (rounds : Nat) :
    EndsAlike program.reads (Run.nodes tools rounds program.nodes ⟨one, ""⟩)
      (Run.nodes tools rounds program.nodes ⟨two, ""⟩) := by
  rw [← outcome_nodes, ← outcome_nodes]
  exact (uniform_composes.nodes program.nodes (List.Subset.refl _)).endsAlike ⟨rfl, agree⟩

theorem confined_nodes (program : Program) (rounds : Nat) :
    Confined program.targets (Work.nodes tools rounds program.nodes) :=
  confined_composes.nodes program.nodes (List.Subset.refl _)

theorem execute_congr (program : Program) {data other : Context} (limit : Nat)
    (agree : (Scope.start data).Agree program.reads (.start other)) :
    program.execute tools limit data = program.execute tools limit other :=
  execute_eq_of_run (fun rounds => (program.nodes_endsAlike tools agree rounds).output) limit

/-- Scopes that agree on the names that a program reads make it end alike, however many rounds its loops
may go. The names that it does not assign keep what is found under them, also when the program stops on
the way, and a statement that fails leaves everything as it was. -/
theorem depends_on_names (tools : Tools) (program : Program) {one two : Scope}
    (agree : one.Agree program.reads two) :
    (∀ rounds, EndsAlike program.reads (Run.nodes tools rounds program.nodes ⟨one, ""⟩)
      (Run.nodes tools rounds program.nodes ⟨two, ""⟩)) ∧
    (∀ outcome, Run.Unlimited tools program.nodes ⟨one, ""⟩ outcome →
      ∃ other, Run.Unlimited tools program.nodes ⟨two, ""⟩ other ∧
        EndsAlike program.reads outcome other) ∧
    (∀ rounds, outcome (Work.nodes tools rounds program.nodes) ⟨one, ""⟩ =
        Run.nodes tools rounds program.nodes ⟨one, ""⟩ ∧
      one.KeptBeside program.targets (Work.nodes tools rounds program.nodes ⟨one, ""⟩).2.scope) ∧
    (∀ t, Run.Unlimited tools program.nodes ⟨one, ""⟩ (.ok t) →
      one.KeptBeside program.targets t.scope) ∧
    ∀ (stmt : Stmt) (s : State) (f : Fault), stmt.run tools.functions s.scope = .error f →
      Work.statement tools stmt s = (.error (.fault f), s) := by
  have limited := program.nodes_endsAlike tools agree
  refine ⟨limited, fun outcome ends => ?_,
    fun rounds => ⟨outcome_nodes _ _, program.confined_nodes rounds _⟩, fun t ends => ?_,
    fun stmt s f failed => ?_⟩
  · obtain ⟨rounds, ran⟩ := Run.unlimited_iff.1 ends
    have both := limited rounds
    rw [ran] at both
    generalize again : Run.nodes tools rounds program.nodes ⟨two, ""⟩ = last at both
    cases outcome with
    | ok u =>
      cases both with
      | @ok _ v after => exact ⟨.ok v, Run.unlimited_iff.2 ⟨rounds, again⟩, .ok after⟩
    | error f =>
      cases both
      exact ⟨.error f, Run.unlimited_iff.2 ⟨rounds, again⟩, .error⟩
  · obtain ⟨rounds, ran⟩ := Run.unlimited_iff.1 ends
    exact (program.confined_nodes rounds).outcome ((outcome_nodes _ _).trans ran)
  · rw [statement_apply, failed]

def joined : Program :=
  ⟨[.foreach ⟨.path ⟨"items", []⟩, none, "item"⟩
      [.exec [.assign "text" .concat (.path ⟨"item", []⟩)]],
    .print (.path ⟨"text", []⟩)]⟩

def joined.given : Scope :=
  ⟨[("items", .array [.string "a", .string "b"]), ("note", .null)], []⟩

def joined.shadowing : Scope :=
  ⟨[("items", .null)], [("items", .array [.string "a", .string "b"])]⟩

theorem depends_on_names_joined :
    joined.given.Agree joined.reads joined.shadowing ∧
      (Run.nodes ⟨.empty, Value.display⟩ 2 joined.nodes ⟨joined.given, ""⟩).map State.output =
        .ok "ab" ∧
      EndsAlike joined.reads (Run.nodes ⟨.empty, Value.display⟩ 2 joined.nodes ⟨joined.given, ""⟩)
        (Run.nodes ⟨.empty, Value.display⟩ 2 joined.nodes ⟨joined.shadowing, ""⟩) ∧
      "note" ∉ joined.targets ∧
      joined.given.KeptBeside joined.targets
        (Work.nodes ⟨.empty, Value.display⟩ 1 joined.nodes ⟨joined.given, ""⟩).2.scope ∧
      Work.statement ⟨.empty, Value.display⟩ (.increment "items") ⟨joined.given, ""⟩ =
        (.error (.fault (.notNumeric (.kind .array))), ⟨joined.given, ""⟩) := by
  have agree : joined.given.Agree joined.reads joined.shadowing := by
    intro name mem
    have known : joined.reads = ["items", "text", "item", "text"] := by rfl
    rw [known] at mem
    simp only [List.mem_cons, List.not_mem_nil, or_false] at mem
    rcases mem with rfl | rfl | rfl | rfl <;> rfl
  have ran : (Run.nodes ⟨.empty, Value.display⟩ 2 joined.nodes ⟨joined.given, ""⟩).map State.output =
      .ok "ab" := by rfl
  obtain ⟨alike, -, kept, -, failing⟩ := depends_on_names ⟨.empty, Value.display⟩ joined agree
  exact ⟨agree, ran, alike 2, by decide, (kept 1).2, failing _ ⟨joined.given, ""⟩ _ rfl⟩

end Program

end Stencil
