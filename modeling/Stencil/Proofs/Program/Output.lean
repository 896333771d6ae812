import Stencil.Proofs.Html.Escaping
import Stencil.Proofs.Program.Unlimited
import Stencil.Proofs.Reading

namespace Stencil

mutual

def Node.subtrees : Node → List Node
  | .text s => [.text s]
  | .print e => [.print e]
  | .echo e => [.echo e]
  | .dump e => [.dump e]
  | .exec statements => [.exec statements]
  | .choose cases otherwise =>
    .choose cases otherwise :: (Node.branchSubtrees cases ++ Node.lastSubtrees otherwise)
  | .foreach header body => .foreach header body :: Node.bodySubtrees body
  | .forLoop header body => .forLoop header body :: Node.bodySubtrees body
  | .whileLoop condition body => .whileLoop condition body :: Node.bodySubtrees body
  | .doLoop body condition => .doLoop body condition :: Node.bodySubtrees body

def Node.bodySubtrees : List Node → List Node
  | [] => []
  | n :: ns => n.subtrees ++ Node.bodySubtrees ns

def Node.branchSubtrees : List (Expr × List Node) → List Node
  | [] => []
  | (_, body) :: cases => Node.bodySubtrees body ++ Node.branchSubtrees cases

def Node.lastSubtrees : Option (List Node) → List Node
  | none => []
  | some body => Node.bodySubtrees body

end

def Program.subtrees (program : Program) : List Node :=
  Node.bodySubtrees program.nodes

namespace Run

variable {P : State → Prop} {continues : State → Except Stop Bool} {body : Step}

/-! ## What loops keep -/

def Keeps (P : State → Prop) (step : Step) : Prop :=
  ∀ {s t}, P s → step s = .ok t → P t

theorem keeps_whileLoop (kept : Keeps P body) (rounds : Nat) :
    Keeps P (whileLoop continues body rounds) := by
  induction rounds with
  | zero =>
    intro s t here h
    rw [whileLoop] at h
    obtain ⟨more, -, h⟩ := bind_eq_ok.1 h
    cases more with
    | true => cases h
    | false => cases h; exact here
  | succ rounds ih =>
    intro s t here h
    rw [whileLoop] at h
    obtain ⟨more, -, h⟩ := bind_eq_ok.1 h
    cases more with
    | true =>
      obtain ⟨next, one, rest⟩ := bind_eq_ok.1 h
      exact ih (kept here one) rest
    | false => cases h; exact here

theorem keeps_doLoop (kept : Keeps P body) (rounds : Nat) :
    Keeps P (doLoop body continues rounds) := by
  induction rounds with
  | zero =>
    intro s t _ h
    cases h
  | succ rounds ih =>
    intro s t here h
    rw [doLoop] at h
    obtain ⟨next, one, h⟩ := bind_eq_ok.1 h
    obtain ⟨more, -, h⟩ := bind_eq_ok.1 h
    cases more with
    | true => exact ih (kept here one) h
    | false => cases h; exact kept here one

theorem keeps_eachLoop {α : Type} {body : α → Step} (kept : ∀ item, Keeps P (body item))
    (items : List α) (rounds : Nat) : Keeps P (eachLoop body rounds items) := by
  induction items generalizing rounds with
  | nil =>
    intro s t here h
    rw [eachLoop] at h
    cases h
    exact here
  | cons item items ih =>
    intro s t here h
    cases rounds with
    | zero => cases h
    | succ rounds =>
      rw [eachLoop] at h
      obtain ⟨next, one, rest⟩ := bind_eq_ok.1 h
      exact ih rounds (kept item here one) rest

/-! ## What is written -/

def Clean (nodes : List Node) (part : String) : Prop :=
  .text part ∈ nodes ∨ Html.Inert part.toList

def MadeOf (clean : String → Prop) (output : String) : Prop :=
  ∃ parts, output = String.join parts ∧ ∀ part ∈ parts, clean part

variable {clean : String → Prop}

theorem MadeOf.append {output part : String} (made : MadeOf clean output) (new : clean part) :
    MadeOf clean (output ++ part) := by
  obtain ⟨parts, rfl, all⟩ := made
  refine ⟨parts ++ [part], by simp, fun other mem => ?_⟩
  rcases List.mem_append.1 mem with mem | mem
  · exact all other mem
  · rw [List.mem_singleton.1 mem]
    exact new

def Tidy (all : List Node) (s : State) : Prop :=
  MadeOf (Clean all) s.output

variable {all : List Node} {tools : Tools} {rounds : Nat}

theorem keeps_exec (statements : List Stmt) : Keeps (Tidy all) (exec tools statements) := by
  intro s t here h
  unfold exec at h
  cases ran : faulting (Stmt.runAll tools.functions s.scope statements) with
  | error e =>
    rw [ran] at h
    cases h
  | ok scope =>
    rw [ran] at h
    cases h
    exact here

def Raw : Node → Prop
  | .echo _ | .dump _ => True
  | _ => False

mutual

theorem keeps_node (plain : ∀ n ∈ all, ¬Raw n) (n : Node) (known : n.subtrees ⊆ all) :
    Keeps (Tidy all) (node tools rounds n) := by
  intro s t here h
  match n with
  | .text text =>
    cases h
    exact here.append (.inl (known (by simp [Node.subtrees])))
  | .print e =>
    rw [node] at h
    obtain ⟨v, -, h⟩ := bind_eq_ok.1 h
    cases h
    exact here.append (.inr (Html.inert_escape _))
  | .echo e => exact absurd trivial (plain (.echo e) (known (by simp [Node.subtrees])))
  | .dump e => exact absurd trivial (plain (.dump e) (known (by simp [Node.subtrees])))
  | .exec statements =>
    rw [node] at h
    exact keeps_exec statements here h
  | .choose cases none =>
    rw [Node.subtrees] at known
    have first := (List.append_subset.1 (List.cons_subset.1 known).2).1
    rw [node] at h
    obtain ⟨found, ran, h⟩ := bind_eq_ok.1 h
    cases found with
    | some later =>
      cases h
      exact keeps_branches plain cases first here ran
    | none =>
      cases h
      exact here
  | .choose cases (some body) =>
    rw [Node.subtrees] at known
    obtain ⟨first, last⟩ := List.append_subset.1 (List.cons_subset.1 known).2
    rw [node] at h
    obtain ⟨found, ran, h⟩ := bind_eq_ok.1 h
    cases found with
    | some later =>
      cases h
      exact keeps_branches plain cases first here ran
    | none => exact keeps_nodes plain body last here h
  | .foreach header body =>
    rw [Node.subtrees] at known
    have inside := (List.cons_subset.1 known).2
    rw [node] at h
    obtain ⟨iterable, -, h⟩ := bind_eq_ok.1 h
    obtain ⟨items, -, h⟩ := bind_eq_ok.1 h
    refine keeps_eachLoop (fun item => ?_) items rounds here h
    intro s t here h
    exact keeps_nodes plain body inside (s := bind header item s) here h
  | .forLoop header body =>
    rw [Node.subtrees] at known
    have inside := (List.cons_subset.1 known).2
    rw [node] at h
    obtain ⟨begun, first, h⟩ := bind_eq_ok.1 h
    refine keeps_whileLoop ?_ rounds (keeps_exec header.first here first) h
    intro s t here h
    obtain ⟨ended, ran, h⟩ := bind_eq_ok.1 h
    exact keeps_exec header.step (keeps_nodes plain body inside here ran) h
  | .whileLoop condition body =>
    rw [Node.subtrees] at known
    rw [node] at h
    exact keeps_whileLoop (keeps_nodes plain body (List.cons_subset.1 known).2) rounds here h
  | .doLoop body condition =>
    rw [Node.subtrees] at known
    rw [node] at h
    exact keeps_doLoop (keeps_nodes plain body (List.cons_subset.1 known).2) rounds here h

theorem keeps_nodes (plain : ∀ n ∈ all, ¬Raw n) (ns : List Node)
    (known : Node.bodySubtrees ns ⊆ all) : Keeps (Tidy all) (nodes tools rounds ns) := by
  intro s t here h
  match ns with
  | [] =>
    cases h
    exact here
  | n :: ns =>
    rw [Node.bodySubtrees] at known
    obtain ⟨first, others⟩ := List.append_subset.1 known
    rw [nodes] at h
    obtain ⟨next, one, rest⟩ := bind_eq_ok.1 h
    exact keeps_nodes plain ns others (keeps_node plain n first here one) rest

theorem keeps_branches (plain : ∀ n ∈ all, ¬Raw n) (cases : List (Expr × List Node))
    (known : Node.branchSubtrees cases ⊆ all) {s t : State} (here : Tidy all s)
    (h : branches tools rounds cases s = .ok (some t)) : Tidy all t := by
  match cases with
  | [] => cases h
  | (condition, body) :: cases =>
    rw [Node.branchSubtrees] at known
    obtain ⟨first, others⟩ := List.append_subset.1 known
    rw [branches] at h
    obtain ⟨holds, -, h⟩ := bind_eq_ok.1 h
    cases holds with
    | true =>
      obtain ⟨next, ran, h⟩ := bind_eq_ok.1 h
      cases h
      exact keeps_nodes plain body first here ran
    | false => exact keeps_branches plain cases others here h

end

end Run

/-- The output of a program that neither echoes nor dumps consists of its texts and of inert text. -/
theorem Program.execute_parts {program : Program} {tools : Tools} {limit : Nat} {context : Context}
    {output : String} (plain : ∀ e, .echo e ∉ program.subtrees ∧ .dump e ∉ program.subtrees)
    (h : program.execute tools limit context = some (.ok output)) :
    ∃ parts : List String, output = String.join parts ∧
      ∀ part ∈ parts, .text part ∈ program.subtrees ∨ Html.Inert part.toList := by
  have clean : ∀ n ∈ program.subtrees, ¬Run.Raw n := by
    intro n mem raw
    cases n with
    | echo e => exact (plain e).1 mem
    | dump e => exact (plain e).2 mem
    | _ => exact raw
  obtain ⟨rounds, h⟩ := exists_run_of_execute h
  unfold run at h
  cases ran : Run.nodes tools rounds program.nodes ⟨.start context, ""⟩ with
  | error stop =>
    rw [ran] at h
    cases h
  | ok s =>
    rw [ran] at h
    cases h
    have started : Run.Tidy program.subtrees ⟨.start context, ""⟩ := ⟨[], rfl, nofun⟩
    exact Run.keeps_nodes clean program.nodes (List.Subset.refl _) started ran

def Run.bold : Tools where
  functions := ⟨[("bold", fun args =>
    .ok (.string ("<b>" ++ String.join (args.map Value.display) ++ "</b>")))]⟩
  dump := Value.display

def Program.listing : Program :=
  ⟨[.foreach ⟨.path ⟨"items", []⟩, none, "item"⟩
    [.text "<li>", .print (.call "bold" [.path ⟨"item", []⟩]), .text "</li>"]]⟩

theorem Program.execute_parts_listing :
    (∀ e, .echo e ∉ listing.subtrees ∧ .dump e ∉ listing.subtrees) ∧
      listing.execute Run.bold 2 [("items", .array [.string "Q&A", .bool true])] =
        some (.ok "<li>&lt;b&gt;Q&amp;A&lt;/b&gt;</li><li>&lt;b&gt;1&lt;/b&gt;</li>") ∧
      ∃ parts : List String,
        "<li>&lt;b&gt;Q&amp;A&lt;/b&gt;</li><li>&lt;b&gt;1&lt;/b&gt;</li>" = String.join parts ∧
          ∀ part ∈ parts, .text part ∈ listing.subtrees ∨ Html.Inert part.toList := by
  have plain : ∀ e, .echo e ∉ listing.subtrees ∧ .dump e ∉ listing.subtrees := by
    intro e
    simp [listing, subtrees, Node.subtrees, Node.bodySubtrees]
  have ran : listing.execute Run.bold 2 [("items", .array [.string "Q&A", .bool true])] =
      some (.ok "<li>&lt;b&gt;Q&amp;A&lt;/b&gt;</li><li>&lt;b&gt;1&lt;/b&gt;</li>") := by
    rfl
  exact ⟨plain, ran, execute_parts plain ran⟩

end Stencil
