import Mathlib
import Stencil.Proofs.Template.Phrases

namespace Stencil
open Build

inductive Echoing where
  | uppercase
  | lowercase
  | json
  | date
  | dateformat
  deriving DecidableEq, Repr

namespace Echoing

def name : Echoing → String
  | uppercase => "uppercase"
  | lowercase => "lowercase"
  | json => "json"
  | date => "date"
  | dateformat => "dateformat"

def function : Echoing → String
  | uppercase => "upper"
  | lowercase => "lower"
  | json => "json"
  | date | dateformat => "date"

end Echoing

inductive Item where
  | text (t : PlainText)
  | print (p : PathText)
  | exec (h : Argument Stmt.parseAll)
  | dump (h : Argument Expr.parse)
  | echo (d : Echoing) (h : Call d.function)
  | choose (h : Argument Expr.parse) (body : List Item)
      (others : List (Argument Expr.parse × List Item)) (otherwise : Option (List Item))
  | foreach (h : Argument ForeachHeader.parse) (body : List Item)
  | forLoop (h : Argument ForHeader.parse) (body : List Item)
  | whileLoop (h : Argument Expr.parse) (body : List Item)
  | doLoop (body : List Item) (h : Argument Expr.parse)

namespace Tag

def echo (d : Echoing) (h : Call d.function) : Tag :=
  call d.name d.function (by cases d <;> simp [Echoing.name, Echoing.function, Directive.builtins])
    (by cases d <;> rfl) (by cases d <;> rfl) h

end Tag

namespace Item
open Directive (builtins)

mutual

def phrases : Item → List Phrase
  | text t => [.text t]
  | print p => [.tag (.print p)]
  | exec h => [.tag (.exec h)]
  | dump h => [.tag (.block readsKinds_expr "dump" (by simp [builtins]) rfl h)]
  | echo d h => [.tag (.echo d h)]
  | choose h body others otherwise =>
    .tag (.block readsKinds_expr "if" (by simp [builtins]) rfl h) ::
      (sequence body ++ branches others (ending otherwise))
  | foreach h body =>
    .tag (.block readsKinds_foreach "foreach" (by simp [builtins]) rfl h) ::
      (sequence body ++ [.tag (.bare "endforeach" (by simp [builtins]) rfl)])
  | forLoop h body =>
    .tag (.block readsKinds_for "for" (by simp [builtins]) rfl h) ::
      (sequence body ++ [.tag (.bare "endfor" (by simp [builtins]) rfl)])
  | whileLoop h body =>
    .tag (.block readsKinds_expr "while" (by simp [builtins]) rfl h) ::
      (sequence body ++ [.tag (.bare "endwhile" (by simp [builtins]) rfl)])
  | doLoop body h =>
    .tag (.bare "do" (by simp [builtins]) rfl) ::
      (sequence body ++ [.tag (.block readsKinds_expr "dowhile" (by simp [builtins]) rfl h)])

def sequence : List Item → List Phrase
  | [] => []
  | item :: items => phrases item ++ sequence items

def branches : List (Argument Expr.parse × List Item) → List Phrase → List Phrase
  | [], tail => tail
  | (h, body) :: others, tail =>
    .tag (.block readsKinds_expr "elseif" (by simp [builtins]) rfl h) ::
      (sequence body ++ branches others tail)

def ending : Option (List Item) → List Phrase
  | none => [.tag (.bare "endif" (by simp [builtins]) rfl)]
  | some body =>
    .tag (.bare "else" (by simp [builtins]) rfl) ::
      (sequence body ++ [.tag (.bare "endif" (by simp [builtins]) rfl)])

end

mutual

def node : Item → Node
  | text t => .text (String.ofList t.text)
  | print p => .print (.path p.path)
  | exec h => .exec h.value
  | dump h => .dump h.value
  | echo d h => .echo (.call d.function h.args)
  | choose h body others otherwise =>
    .choose ((h.value, nodes body) :: branchNodes others) (otherwiseNodes otherwise)
  | foreach h body => .foreach h.value (nodes body)
  | forLoop h body => .forLoop h.value (nodes body)
  | whileLoop h body => .whileLoop h.value (nodes body)
  | doLoop body h => .doLoop (nodes body) h.value

def nodes : List Item → List Node
  | [] => []
  | item :: items => node item :: nodes items

def branchNodes : List (Argument Expr.parse × List Item) → List (Expr × List Node)
  | [] => []
  | (h, body) :: others => (h.value, nodes body) :: branchNodes others

def otherwiseNodes : Option (List Item) → Option (List Node)
  | none => none
  | some body => some (nodes body)

end

def source (items : List Item) : String :=
  String.ofList (((sequence items).map Phrase.part).flatMap Part.source)

def artifact (items : List Item) : String :=
  String.ofList (((sequence items).map Phrase.part).flatMap Part.fragment)

/-- Texts do not stand side by side, and no text makes the name of a directive without an argument
longer. -/
def Apart (items : List Item) : Prop :=
  List.IsChain Part.MayPrecede ((sequence items).map Phrase.part)

end Item

/-! ## What a tree yields -/

variable {h : Argument Expr.parse} {i : Instruction}

theorem Argument.expression_eq_ok (head : i.header = Text.trim h.text) :
    i.expression = .ok h.value :=
  Instruction.expression_eq_ok head h.reads

mutual

theorem Item.yields (item : Item) : Yields item.phrases [item.node] :=
  match item with
  | .text t => yields_text t
  | .print p => yields_tag fun key head =>
    builds_print key (Instruction.expression_eq_ok head (VariablePath.parse_path p.spells))
  | .exec h => yields_tag fun key head =>
    builds_exec key (Instruction.readHeader_eq_ok readsKinds_stmts head h.reads)
  | .dump h => yields_tag fun key head => builds_dump key (h.expression_eq_ok head)
  | .echo _ h => yields_tag fun key head =>
    builds_echo key (Instruction.expression_eq_ok head h.reads)
  | .choose h body others otherwise =>
    yields_choose rfl h.expression_eq_ok (yields_sequence body)
      (yields_branches others (yields_ending otherwise))
  | .foreach h body => yields_block (yields_sequence body) fun key head last empty built =>
    have read := Instruction.readHeader_eq_ok readsKinds_foreach head h.reads
    builds_foreach key read built last empty
  | .forLoop h body => yields_block (yields_sequence body) fun key head last empty built =>
    have read := Instruction.readHeader_eq_ok readsKinds_for head h.reads
    builds_forLoop key read built last empty
  | .whileLoop h body => yields_block (yields_sequence body) fun key head last empty built =>
    builds_whileLoop key (h.expression_eq_ok head) built last empty
  | .doLoop body h => yields_block (yields_sequence body) fun key empty last head built =>
    builds_doLoop key empty built last (h.expression_eq_ok head)

theorem yields_sequence (items : List Item) : Yields (Item.sequence items) (Item.nodes items) :=
  match items with
  | [] => .nil
  | item :: items => item.yields.append (yields_sequence items)

theorem yields_branches (others : List (Argument Expr.parse × List Item)) {tail : List Phrase}
    {otherwise : Option (List Node)} (last : YieldsBranches tail [] otherwise) :
    YieldsBranches (Item.branches others tail) (Item.branchNodes others) otherwise :=
  match others with
  | [] => last
  | (h, body) :: others =>
    yieldsBranches_elseIf rfl h.expression_eq_ok (yields_sequence body)
      (yields_branches others last)

theorem yields_ending (otherwise : Option (List Item)) :
    YieldsBranches (Item.ending otherwise) [] (Item.otherwiseNodes otherwise) :=
  match otherwise with
  | none => yieldsBranches_end rfl rfl
  | some body => yieldsBranches_else rfl rfl (yields_sequence body) rfl rfl

end

/-- A tree of items is compiled to its own nodes. -/
theorem compile_source {items : List Item} (apart : Item.Apart items) :
    Template.compile .builtins (Item.source items) =
      .ok ⟨Item.artifact items, ⟨Item.nodes items⟩⟩ :=
  compile_phrases (yields_sequence items) apart

def greetings : List Item :=
  [.foreach ⟨"$users as $user".toList, ⟨.path ⟨"users", []⟩, none, "user"⟩, by cbv, by decide,
      by decide⟩
    [.choose ⟨"$user.new".toList, .path ⟨"user", [.key "new"]⟩, by cbv, by decide, by decide⟩
      [.text ⟨"Welcome, ".toList, by decide,
          fun tag => absurd (tag.subset (List.mem_cons_self ..)) (by decide), by decide, by decide⟩,
        .print ⟨"user.name".toList, ⟨"user", [.key "name"]⟩, rfl⟩]
      []
      (some [.text ⟨" ".toList, by decide,
          fun tag => absurd (tag.subset (List.mem_cons_self ..)) (by decide), by decide, by decide⟩,
        .echo .uppercase ⟨"$user.name".toList, [.path ⟨"user", [.key "name"]⟩], by cbv, by decide,
          by decide⟩])]]

theorem compile_source_greetings :
    Item.Apart greetings ∧
      Template.compile .builtins
          ("@foreach($users as $user)@if($user.new)Welcome, %user.name%@else " ++
            "@uppercase($user.name)@endif@endforeach") =
        .ok ⟨"<?tpl foreach $users as $user ?><?tpl if $user.new ?>Welcome, " ++
            "<?tpl print $user.name ?><?tpl else ?> <?tpl echo upper($user.name) ?>" ++
            "<?tpl endif ?><?tpl endforeach ?>",
          ⟨[.foreach ⟨.path ⟨"users", []⟩, none, "user"⟩
            [.choose
              [(.path ⟨"user", [.key "new"]⟩,
                [.text "Welcome, ", .print (.path ⟨"user", [.key "name"]⟩)])]
              (some [.text " ", .echo (.call "upper" [.path ⟨"user", [.key "name"]⟩])])]]⟩⟩ := by
  have apart : Item.Apart greetings := by
    repeat first | exact Or.inr rfl | constructor
  have source : Item.source greetings =
      "@foreach($users as $user)@if($user.new)Welcome, %user.name%@else " ++
        "@uppercase($user.name)@endif@endforeach" := by cbv
  have artifact : Item.artifact greetings =
      "<?tpl foreach $users as $user ?><?tpl if $user.new ?>Welcome, " ++
        "<?tpl print $user.name ?><?tpl else ?> <?tpl echo upper($user.name) ?>" ++
        "<?tpl endif ?><?tpl endforeach ?>" := by cbv
  have result := compile_source apart
  rw [source, artifact] at result
  exact ⟨apart, result⟩

end Stencil
