import Stencil.Proofs.Expr.Printing
import Stencil.Proofs.Program.Effects
import Stencil.Proofs.Program.Limits

namespace Stencil

/-! ## The loop -/

/-- The first clause, and a `while` that ends its rounds with the step. A condition that is not there is
the literal `true`. -/
def ForHeader.unfolded (header : ForHeader) (body : List Node) : List Node :=
  [.exec header.first,
    .whileLoop (header.condition.getD (.literal (.bool true))) (body ++ [.exec header.step])]

namespace Work

variable {tools : Tools} {rounds : Nat}

theorem nodes_append (ns ms : List Node) :
    nodes tools rounds (ns ++ ms) = nodes tools rounds ns >>= fun _ => nodes tools rounds ms := by
  induction ns with
  | nil => rw [nodes, pure_bind, List.nil_append]
  | cons n ns ih => rw [List.cons_append, nodes, nodes, ih, bind_assoc]

theorem nodes_singleton (n : Node) : nodes tools rounds [n] = node tools rounds n := by
  rw [nodes, nodes, bind_pure_unit]

theorem goesOn_eq_test (condition : Option Expr) :
    goesOn tools condition = test tools (condition.getD (.literal (.bool true))) := by
  cases condition <;> rfl

theorem node_forLoop (header : ForHeader) (body : List Node) :
    node tools rounds (.forLoop header body) = nodes tools rounds (header.unfolded body) := by
  rw [ForHeader.unfolded, nodes, nodes_singleton, node, node, node, nodes_append, nodes_singleton, node,
    goesOn_eq_test]

theorem nodes_forLoop (header : ForHeader) (body before after : List Node) :
    nodes tools rounds (before ++ .forLoop header body :: after) =
      nodes tools rounds (before ++ header.unfolded body ++ after) := by
  rw [nodes_append, nodes, node_forLoop, nodes_append, nodes_append, bind_assoc]

end Work

/-- The nodes leave the same locals and the same output under every limit, also where they stop, and without
a limit they end in the same way or not at all. -/
structure Node.Alike (tools : Tools) (ns ms : List Node) : Prop where
  work : ∀ rounds s, Work.nodes tools rounds ns s = Work.nodes tools rounds ms s
  run : ∀ rounds s, Run.nodes tools rounds ns s = Run.nodes tools rounds ms s
  unlimited : ∀ s outcome, Run.Unlimited tools ns s outcome ↔ Run.Unlimited tools ms s outcome
  execute : ∀ limit context,
    Program.execute tools limit ⟨ns⟩ context = Program.execute tools limit ⟨ms⟩ context

theorem Node.Alike.of_work {tools : Tools} {ns ms : List Node}
    (same : ∀ rounds, Work.nodes tools rounds ns = Work.nodes tools rounds ms) : Alike tools ns ms := by
  have run (rounds : Nat) (s : State) : Run.nodes tools rounds ns s = Run.nodes tools rounds ms s := by
    rw [← Work.outcome_nodes, ← Work.outcome_nodes, same]
  refine ⟨fun rounds s => congrFun (same rounds) s, run, fun s outcome => ?_, fun limit context => ?_⟩
  · rw [Run.unlimited_iff, Run.unlimited_iff]
    exact exists_congr fun rounds => by rw [run]
  · exact Program.execute_eq_of_run (fun rounds => congrArg (Except.map State.output) (run rounds _)) limit

/-! ## Assignments -/

theorem VariablePath.resolve?_root (name : String) (lookup : String → Option Value) :
    resolve? ⟨name, []⟩ lookup = lookup name := by
  rw [resolve?]
  cases lookup name <;> rfl

def AssignOp.compound : List (AssignOp × BinaryOp) :=
  [(.add, .add), (.sub, .sub), (.concat, .concat)]

theorem AssignOp.apply_compound {op : AssignOp} {sign : BinaryOp} (mem : (op, sign) ∈ compound)
    (old new : Value) : op.apply old new = sign.apply old new := by
  simp only [compound, List.mem_cons, Prod.mk.injEq, List.not_mem_nil, or_false] at mem
  rcases mem with ⟨rfl, rfl⟩ | ⟨rfl, rfl⟩ | ⟨rfl, rfl⟩ <;> rfl

namespace Stmt

variable {functions : FunctionTable} {scope : Scope} {op : AssignOp} {sign : BinaryOp}

theorem run_compound (mem : (op, sign) ∈ AssignOp.compound) (name : String) (e : Expr) :
    run functions scope (.assign name op e) =
      run functions scope (.assign name .set (.binary sign (.path ⟨name, []⟩) e)) := by
  rw [run, run, Expr.evaluate, Expr.evaluate, VariablePath.resolve?_root, ← Scope.current]
  -- The short form reads the name last and the long form first, and no expression changes a name.
  cases e.evaluate functions scope with
  | error f => rfl
  | ok new =>
    show (op.apply _ _ >>= _) = (sign.apply _ _ >>= _)
    rw [AssignOp.apply_compound mem]
    cases sign.apply (scope.current name) new <;> rfl

theorem run_increment (name : String) :
    run functions scope (.increment name) =
      run functions scope (.assign name .add (.literal (.int 1))) :=
  rfl

theorem run_decrement (name : String) :
    run functions scope (.decrement name) =
      run functions scope (.assign name .sub (.literal (.int 1))) :=
  rfl

end Stmt

structure Stmt.Alike (tools : Tools) (one other : Stmt) : Prop where
  run : ∀ scope, one.run tools.functions scope = other.run tools.functions scope
  work : ∀ s, Work.statement tools one s = Work.statement tools other s

theorem Stmt.Alike.of_run {tools : Tools} {one other : Stmt}
    (same : ∀ scope, one.run tools.functions scope = other.run tools.functions scope) :
    Alike tools one other := by
  refine ⟨same, fun s => ?_⟩
  rw [Work.statement_apply, Work.statement_apply, same]

/-! ## As they are written -/

section
open Grammar Lexer

inductive Stmt.Target (name : String) : String → Prop
  | dollar : Text.isName name.toList = true → Target name ("$" ++ name)
  | bare : Text.isName name.toList = true → isKeyword name = false → Target name name

variable {name word text : String} {words : List String} {e : Expr}

theorem Stmt.Target.exists_token (target : Target name word) : ∃ k,
    Lexes false word.toList [k] ∧ BindingName k name ∧ Derives .atom [k] (.path ⟨name, []⟩) := by
  cases target with
  | dollar named => exact ⟨_, lexes_variable named, .dollarName name, .dollarName name⟩
  | bare named free => exact ⟨_, lexes_name named, .bareName free, .bareName free⟩

theorem Writes.of_parse (read : Expr.parse text.toList = .ok e) : Writes .choice [text] e := by
  obtain ⟨ks, lexed, derived⟩ := Expr.parse_eq_ok_iff.1 read
  exact ⟨ks, .one lexed, derived⟩

theorem Writes.operation (sign : BinaryOp) (target : Stmt.Target name word)
    (value : Writes .choice words e) :
    Writes .choice (word :: sign.symbol.spelling :: "(" :: (words ++ [")"]))
      (.binary sign (.path ⟨name, []⟩) e) := by
  obtain ⟨k, lexed, -, derived⟩ := target.exists_token
  have left : Writes (stratumOf sign.level) [word] (.path ⟨name, []⟩) :=
    (Writes.atomic lexed derived).loosen (by cases sign <;> decide)
  have right : Writes (stratumOf sign.rightLevel) ("(" :: (words ++ [")"])) e :=
    value.group.loosen (by cases sign <;> decide)
  exact (left.binary sign right).toChoice

theorem Stmt.parseAll_assign (op : AssignOp) (target : Target name word)
    (value : Writes .choice words e) :
    parseAll (" ".intercalate (word :: op.symbol.spelling :: words)).toList =
      .ok [.assign name op e] := by
  obtain ⟨k, lexed, binds, -⟩ := target.exists_token
  obtain ⟨ks, spelled, derived⟩ := value
  exact parseAll_eq_ok_iff.2 ⟨_, (Spells.word lexed (.symbol op.symbol spelled)).lexes,
    .last (.assign binds (assignSign op) derived)⟩

theorem Stmt.parseAll_sign {sign : Symbol} {short : Stmt} (target : Target name word)
    (behind : ∀ {k}, BindingName k name → DerivesStmt [k, .symbol sign] short)
    (before : ∀ {k}, BindingName k name → DerivesStmt [.symbol sign, k] short) :
    parseAll (" ".intercalate [word, sign.spelling]).toList = .ok [short] ∧
      parseAll (" ".intercalate [sign.spelling, word]).toList = .ok [short] := by
  obtain ⟨k, lexed, binds, -⟩ := target.exists_token
  constructor
  · exact parseAll_eq_ok_iff.2
      ⟨_, (Spells.word lexed (.lastly sign)).lexes, .last (behind binds)⟩
  · exact parseAll_eq_ok_iff.2 ⟨_, (Spells.symbol sign (.one lexed)).lexes, .last (before binds)⟩

theorem writes_one : Writes .choice ["1"] (.literal (.int 1)) :=
  (Writes.atomic (lexes_int (by decide : 0 ≤ (1 : Int64).toInt)) (.literal (.int 1))).toChoice

end

/-- A `for` in a program can give its place to its first clause and a `while`. An assignment with an operator
can give its place to the assignment of the operation with the value in parentheses, and `++` and `--`, on
either side of the name, to an assignment with an operator and 1. -/
theorem sugar_faithful (tools : Tools) :
    (∀ (header : ForHeader) (body before after : List Node),
      Node.Alike tools (before ++ .forLoop header body :: after)
        (before ++ header.unfolded body ++ after)) ∧
    (∀ op sign, (op, sign) ∈ AssignOp.compound → ∀ name e,
      let plain : Stmt := .assign name .set (.binary sign (.path ⟨name, []⟩) e)
      Stmt.Alike tools (.assign name op e) plain ∧
      ∀ word text, Stmt.Target name word → Expr.parse text.toList = .ok e →
        Stmt.parseAll (" ".intercalate [word, op.symbol.spelling, text]).toList =
          .ok [.assign name op e] ∧
        Stmt.parseAll
            (" ".intercalate [word, "=", word, sign.symbol.spelling, "(", text, ")"]).toList =
          .ok [plain]) ∧
    ∀ name short op sign,
      (short, op, sign) ∈ [(Stmt.increment name, AssignOp.add, "++"), (.decrement name, .sub, "--")] →
      let long : Stmt := .assign name op (.literal (.int 1))
      Stmt.Alike tools short long ∧
      ∀ word, Stmt.Target name word →
        Stmt.parseAll (" ".intercalate [word, sign]).toList = .ok [short] ∧
        Stmt.parseAll (" ".intercalate [sign, word]).toList = .ok [short] ∧
        Stmt.parseAll (" ".intercalate [word, op.symbol.spelling, "1"]).toList = .ok [long] := by
  refine ⟨fun header body before after => .of_work fun _ => Work.nodes_forLoop header body before after,
    fun op sign compound name e => ⟨.of_run fun _ => Stmt.run_compound compound name e,
      fun word text target read => ?_⟩, fun name short op sign kind => ?_⟩
  · have value := Writes.of_parse read
    exact ⟨Stmt.parseAll_assign op target value,
      Stmt.parseAll_assign .set target (value.operation sign target)⟩
  · simp only [List.mem_cons, Prod.mk.injEq, List.not_mem_nil, or_false] at kind
    rcases kind with ⟨rfl, rfl, rfl⟩ | ⟨rfl, rfl, rfl⟩
    · refine ⟨.of_run fun _ => Stmt.run_increment name, fun word target => ?_⟩
      obtain ⟨behind, before⟩ := Stmt.parseAll_sign target .increment .incrementFirst
      exact ⟨behind, before, Stmt.parseAll_assign .add target writes_one⟩
    · refine ⟨.of_run fun _ => Stmt.run_decrement name, fun word target => ?_⟩
      obtain ⟨behind, before⟩ := Stmt.parseAll_sign target .decrement .decrementFirst
      exact ⟨behind, before, Stmt.parseAll_assign .sub target writes_one⟩

theorem sugar_faithful_endless :
    let tools : Tools := ⟨.empty, Value.display⟩
    let body : List Node := [.echo (.path ⟨"i", []⟩)]
    let header : ForHeader := ⟨[.assign "i" .set (.literal (.int 0))], none, [.increment "i"]⟩
    let x : Expr := .literal (.string "x")
    Program.execute tools 3 ⟨[.forLoop header body]⟩ [] = some (.error (.loopLimitExceeded 3)) ∧
      (Stmt.assign "n" .concat x).run .empty (.start []) = .ok ⟨[], [("n", .string "x")]⟩ ∧
      Stmt.parseAll "$n ~= 'x'".toList = .ok [.assign "n" .concat x] ∧
      Stmt.parseAll "$n = $n ~ ( 'x' )".toList =
        .ok [.assign "n" .set (.binary .concat (.path ⟨"n", []⟩) x)] ∧
      Stmt.parseAll "-- n".toList = .ok [.decrement "n"] ∧
      Stmt.parseAll "n -= 1".toList = .ok [.assign "n" .sub (.literal (.int 1))] := by
  intro tools body header x
  obtain ⟨loops, compounds, ones⟩ := sugar_faithful tools
  obtain ⟨same, texts⟩ := compounds .concat .concat (by decide) "n" x
  have read : Expr.parse "'x'".toList = .ok x := Expr.parse_eq_ok_iff.2
    ⟨_, Lexer.lexes_quotedText "x", Grammar.Derives.loosen (.literal (.str "x")) (by decide)⟩
  obtain ⟨short, long⟩ := texts "$n" "'x'" (.dollar (by decide)) read
  obtain ⟨-, steps⟩ := ones "n" (.decrement "n") .sub "--" (by simp)
  obtain ⟨-, before, one⟩ := steps "n" (.bare (by decide) (by decide))
  refine ⟨?_, (same.run _).trans rfl, short, long, before, one⟩
  exact ((loops header body [] []).execute 3 []).trans rfl

end Stencil
