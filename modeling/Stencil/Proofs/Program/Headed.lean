import Mathlib
import Stencil.Proofs.InPlace.Cutting
import Stencil.Proofs.Program.Building

/-!
# Accepted headers

A text that one of the four readers accepts is enclosed by its own parentheses and by its own tag,
whatever stands in its strings (`Framed.reads`). So its tag is one instruction, and between texts it
becomes one node.
-/

namespace Stencil
open Text

/-- The keyword of a tag with the header `h`, the tags that it needs before and after it, and the node
that they are read as. -/
inductive Framed (h : List Char) : (before keyword after : List Char) → Node → Prop
  | print {e} (read : Expr.parse h = .ok e) : Framed h [] "print".toList [] (.print e)
  | echo {e} (read : Expr.parse h = .ok e) : Framed h [] "echo".toList [] (.echo e)
  | dump {e} (read : Expr.parse h = .ok e) : Framed h [] "dump".toList [] (.dump e)
  | exec {ss} (read : Stmt.parseAll h = .ok ss) : Framed h [] "exec".toList [] (.exec ss)
  | choose {e} (read : Expr.parse h = .ok e) :
      Framed h [] "if".toList (Fragment.instruction "endif".toList) (.choose [(e, [])] none)
  | branch {g c e} (first : Expr.parse g = .ok c) (read : Expr.parse h = .ok e) :
      Framed h (Fragment.headed "if".toList g) "elseif".toList
        (Fragment.instruction "endif".toList) (.choose [(c, []), (e, [])] none)
  | foreach {header} (read : ForeachHeader.parse h = .ok header) :
      Framed h [] "foreach".toList (Fragment.instruction "endforeach".toList) (.foreach header [])
  | forLoop {header} (read : ForHeader.parse h = .ok header) :
      Framed h [] "for".toList (Fragment.instruction "endfor".toList) (.forLoop header [])
  | whileLoop {e} (read : Expr.parse h = .ok e) :
      Framed h [] "while".toList (Fragment.instruction "endwhile".toList) (.whileLoop e [])
  | doLoop {e} (read : Expr.parse h = .ok e) :
      Framed h (Fragment.instruction "do".toList) "dowhile".toList [] (.doLoop [] e)

def Node.ofText : List Char → List Node
  | [] => []
  | cs => [.text (String.ofList cs)]

theorem ReadsKinds.passed_trim {α : Type} {reader : List Char → Except Error α} {cs : List Char}
    {a : α} (kinds : ReadsKinds reader) (read : reader cs = .ok a) : Passed (Text.trim cs) :=
  kinds.closeTag?_append (kinds.trim read)

/-! ## Stretches between texts -/

namespace Stretch

def ofText (cs : List Char) (closed : ¬Fragment.openTag <:+: cs) : List Stretch :=
  if some : cs = [] then [] else [.text cs some closed]

def IsTag : Stretch → Prop
  | text .. => False
  | tag .. => True

variable {cs : List Char} {closed : ¬Fragment.openTag <:+: cs} {s t : Stretch}

theorem flatMap_ofText : (ofText cs closed).flatMap write = cs := by
  unfold ofText
  split
  · next none =>
    rw [none]
    rfl
  · simp [write]

theorem cut_ofText {pieces : List Piece} (cuts : List.Forall₂ Cut (ofText cs closed) pieces) :
    pieces = Piece.ofText cs := by
  unfold ofText at cuts
  split at cuts
  · next none =>
    cases cuts
    rw [none]
    rfl
  · next some =>
    rcases cuts with _ | ⟨_ | _, _ | _⟩
    cases cs with
    | nil => exact absurd rfl some
    | cons c cs => rfl

theorem IsTag.mayPrecede (h : s.IsTag) : s.MayPrecede t := by
  cases s with
  | text => exact h.elim
  | tag => trivial

theorem IsTag.mayFollow (h : t.IsTag) : s.MayPrecede t := by
  cases t with
  | text => exact h.elim
  | tag => cases s <;> trivial

theorem isChain_ofText : List.IsChain MayPrecede (ofText cs closed) := by
  unfold ofText
  split
  · exact .nil
  · exact .singleton _

end Stretch

variable {front back : List Char} {tags : List Stretch}

theorem Piece.cut_between (some : tags ≠ []) (tagged : ∀ s ∈ tags, s.IsTag)
    (opened : ¬Fragment.openTag <:+: front) (closed : ¬Fragment.openTag <:+: back) :
    ∃ pieces, Piece.cut 0 (front ++ tags.flatMap Stretch.write ++ back) =
        .ok (Piece.ofText front ++ pieces ++ Piece.ofText back) ∧
      List.Forall₂ Stretch.Cut tags pieces := by
  have apart : List.IsChain Stretch.MayPrecede
      (Stretch.ofText front opened ++ tags ++ Stretch.ofText back closed) := by
    rw [List.isChain_append, List.isChain_append]
    refine ⟨⟨Stretch.isChain_ofText, ?_, ?_⟩, Stretch.isChain_ofText, ?_⟩
    · exact (List.pairwise_of_forall_mem_list fun s mem _ _ => (tagged s mem).mayPrecede).isChain
    · intro s _ t first
      exact (tagged t (List.mem_of_mem_head? first)).mayFollow
    · intro s last t _
      rw [List.getLast?_append_of_ne_nil _ some] at last
      exact (tagged s (List.mem_of_mem_getLast? last)).mayPrecede
  obtain ⟨pieces, cuts, follow⟩ := Piece.cut_stretches 0 apart
  rw [List.flatMap_append, List.flatMap_append, Stretch.flatMap_ofText, Stretch.flatMap_ofText]
    at cuts
  obtain ⟨init, last, firsts, ending, rfl⟩ := forall₂_append follow
  obtain ⟨first, middle, begun, inside, rfl⟩ := forall₂_append firsts
  rw [Stretch.cut_ofText begun, Stretch.cut_ofText ending] at cuts
  exact ⟨middle, cuts, inside⟩

/-! ## What tags make -/

def Makes (text : List Char) (n : Node) : Prop :=
  ∃ tags : List Stretch, tags ≠ [] ∧ (∀ s ∈ tags, s.IsTag) ∧ tags.flatMap Stretch.write = text ∧
    ∀ pieces, List.Forall₂ Stretch.Cut tags pieces → Build.Builds pieces [n]

section
open Build

variable {first last middle h : List Char} {n : Node}

theorem builds_ofText (cs : List Char) : Builds (Piece.ofText cs) (Node.ofText cs) := by
  cases cs with
  | nil => exact Builds.nil
  | cons c cs => exact builds_text (c :: cs)

theorem Makes.parse {text : List Char} (makes : Makes text n)
    (opened : ¬Fragment.openTag <:+: front) (closed : ¬Fragment.openTag <:+: back) :
    Program.parse (front ++ text ++ back) = .ok ⟨Node.ofText front ++ n :: Node.ofText back⟩ := by
  obtain ⟨tags, some, tagged, rfl, built⟩ := makes
  obtain ⟨pieces, cuts, follow⟩ := Piece.cut_between some tagged opened closed
  have whole : Builds (Piece.ofText front ++ pieces ++ Piece.ofText back)
      (Node.ofText front ++ [n] ++ Node.ofText back) :=
    Builds.append (Builds.append (builds_ofText front) (built pieces follow)) (builds_ofText back)
  rw [List.append_assoc (Node.ofText front), List.singleton_append] at whole
  exact Program.parse_eq_ok cuts whole

theorem makes_leaf (named : isName first = true) (passed : Passed (trim h))
    (built : ∀ {i : Instruction}, i.keyword = first → i.header = trim h →
      Builds [.instruction i] [n]) : Makes ([] ++ Fragment.headed first h ++ []) n := by
  refine ⟨[.tag first h named passed], by simp, by simp [Stretch.IsTag], by simp [Stretch.write], ?_⟩
  rintro pieces (_ | ⟨_ | ⟨key, head⟩, _ | _⟩)
  exact built key head

theorem makes_pair {h' : List Char} (named : isName first = true) (passed : Passed (trim h))
    (named' : isName last = true) (passed' : Passed (trim h'))
    (built : ∀ {i j : Instruction}, i.keyword = first → i.header = trim h → j.keyword = last →
      j.header = trim h' → Builds [.instruction i, .instruction j] [n]) :
    Makes (Fragment.headed first h ++ Fragment.headed last h') n := by
  refine ⟨[.tag first h named passed, .tag last h' named' passed'], by simp,
    by simp [Stretch.IsTag], by simp [Stretch.write], ?_⟩
  rintro pieces (_ | ⟨_ | ⟨key, head⟩, _ | ⟨_ | ⟨key', head'⟩, _ | _⟩⟩)
  exact built key head key' head'

theorem passed_nil : Passed (trim []) :=
  fun _ => prefixed_nil.symm

theorem makes_block (named : isName first = true) (passed : Passed (trim h))
    (closes : isName last = true)
    (built : ∀ {i j : Instruction}, i.keyword = first → i.header = trim h → j.keyword = last →
      j.header = [] → Builds [.instruction i, .instruction j] [n]) :
    Makes ([] ++ Fragment.headed first h ++ Fragment.instruction last) n := by
  rw [List.nil_append, Fragment.instruction_eq_headed closes]
  exact makes_pair named passed closes passed_nil built

variable {e : Expr}

theorem makes_doLoop (passed : Passed (trim h)) (read : Expr.parse h = .ok e) :
    Makes (Fragment.instruction "do".toList ++ Fragment.headed "dowhile".toList h ++ [])
      (.doLoop [] e) := by
  have opening : isName "do".toList = true := rfl
  rw [List.append_nil, Fragment.instruction_eq_headed opening]
  refine makes_pair opening passed_nil rfl passed fun key empty last head => ?_
  exact builds_doLoop key empty Builds.nil last (Instruction.expression_eq_ok head read)

theorem makes_branch {g : List Char} {c : Expr} (first : Expr.parse g = .ok c)
    (read : Expr.parse h = .ok e) :
    Makes (Fragment.headed "if".toList g ++ Fragment.headed "elseif".toList h ++
      Fragment.instruction "endif".toList) (.choose [(c, []), (e, [])] none) := by
  have closes : isName "endif".toList = true := rfl
  rw [Fragment.instruction_eq_headed closes]
  refine ⟨[.tag "if".toList g rfl (readsKinds_expr.passed_trim first),
    .tag "elseif".toList h rfl (readsKinds_expr.passed_trim read),
    .tag "endif".toList [] closes passed_nil], by simp, by simp [Stretch.IsTag],
    by simp [Stretch.write], ?_⟩
  rintro pieces (_ | ⟨_ | ⟨key, head⟩, _ | ⟨_ | ⟨key', head'⟩, _ | ⟨_ | ⟨last, empty⟩, _ | _⟩⟩⟩)
  refine builds_choose key (Instruction.expression_eq_ok head first) Builds.nil ?_
  exact buildsBranches_elseIf key' (Instruction.expression_eq_ok head' read) Builds.nil
    (buildsBranches_endIf last empty)

end

namespace Framed
open Build

variable {h before keyword after : List Char} {n : Node}

theorem exists_reads (framed : Framed h before keyword after n) :
    ∃ (α : Type) (reader : List Char → Except Error α) (a : α),
      ReadsKinds reader ∧ reader h = .ok a := by
  cases framed with
  | print read | echo read | dump read | choose read | branch _ read | whileLoop read | doLoop read =>
    exact ⟨_, _, _, readsKinds_expr, read⟩
  | exec read => exact ⟨_, _, _, readsKinds_stmts, read⟩
  | foreach read => exact ⟨_, _, _, readsKinds_foreach, read⟩
  | forLoop read => exact ⟨_, _, _, readsKinds_for, read⟩

theorem named (framed : Framed h before keyword after n) : isName keyword = true := by
  cases framed <;> rfl

theorem passed (framed : Framed h before keyword after n) : Passed (trim h) := by
  obtain ⟨α, reader, a, kinds, read⟩ := framed.exists_reads
  exact kinds.passed_trim read

theorem closingAt (framed : Framed h before keyword after n) (a rest : List Char) :
    Stencil.closingAt (a ++ '(' :: (h ++ ')' :: rest)) (byteLength a) =
      pure (some (byteLength a + 1 + byteLength h)) := by
  obtain ⟨α, reader, value, kinds, read⟩ := framed.exists_reads
  have opening : byteLength (a ++ ['(']) = byteLength a + 1 := byteLength_concat a '('
  rw [Directive.closingAt_eq, closing?_of_through (kinds.through read 0), ending, Option.map_some, opening]

theorem makes (framed : Framed h before keyword after n) :
    Makes (before ++ Fragment.headed keyword h ++ after) n := by
  have passed := framed.passed
  cases framed with
  | print read =>
    refine makes_leaf rfl passed fun key head => ?_
    exact builds_print key (Instruction.expression_eq_ok head read)
  | echo read =>
    refine makes_leaf rfl passed fun key head => ?_
    exact builds_echo key (Instruction.expression_eq_ok head read)
  | dump read =>
    refine makes_leaf rfl passed fun key head => ?_
    exact builds_dump key (Instruction.expression_eq_ok head read)
  | exec read =>
    refine makes_leaf rfl passed fun key head => ?_
    exact builds_exec key (Instruction.readHeader_eq_ok readsKinds_stmts head read)
  | choose read =>
    refine makes_block rfl passed rfl fun key head last empty => ?_
    exact builds_choose key (Instruction.expression_eq_ok head read) Builds.nil
      (buildsBranches_endIf last empty)
  | branch first read => exact makes_branch first read
  | foreach read =>
    refine makes_block rfl passed rfl fun key head last empty => ?_
    have header := Instruction.readHeader_eq_ok readsKinds_foreach head read
    exact @builds_foreach [] _ [] _ _ key header Builds.nil last empty
  | forLoop read =>
    refine makes_block rfl passed rfl fun key head last empty => ?_
    have header := Instruction.readHeader_eq_ok readsKinds_for head read
    exact @builds_forLoop [] _ [] _ _ key header Builds.nil last empty
  | whileLoop read =>
    refine makes_block rfl passed rfl fun key head last empty => ?_
    exact builds_whileLoop key (Instruction.expression_eq_ok head read) Builds.nil last empty
  | doLoop read => exact makes_doLoop passed read

theorem cut (framed : Framed h before keyword after n) (opened : ¬Fragment.openTag <:+: front)
    (closed : ¬Fragment.openTag <:+: back) :
    ∃ i : Instruction, i.keyword = keyword ∧ i.header = trim h ∧
      Piece.cut 0 (front ++ Fragment.headed keyword h ++ back) =
        .ok (Piece.ofText front ++ .instruction i :: Piece.ofText back) := by
  have tagged : ∀ s ∈ [Stretch.tag keyword h framed.named framed.passed], s.IsTag := by
    simp [Stretch.IsTag]
  obtain ⟨pieces, cuts, follow⟩ := Piece.cut_between (List.cons_ne_nil _ _) tagged opened closed
  obtain _ | ⟨_ | ⟨key, head⟩, _ | _⟩ := follow
  rw [List.flatMap_singleton, List.append_assoc (Piece.ofText front)] at cuts
  exact ⟨_, key, head, cuts⟩

end Framed

/-- An accepted text ends where its parenthesis closes and where its tag closes, and between texts its
tag becomes the node of what was read. -/
theorem framed_between {h before keyword after : List Char} {n : Node}
    (framed : Framed h before keyword after n) :
    (∀ a rest, closingAt (a ++ '(' :: (h ++ ')' :: rest)) (byteLength a) =
        pure (some (byteLength a + 1 + byteLength h))) ∧
      ∀ {front back}, ¬Fragment.openTag <:+: front → ¬Fragment.openTag <:+: back →
        (∃ i : Instruction, i.keyword = keyword ∧ i.header = trim h ∧
          Piece.cut 0 (front ++ Fragment.headed keyword h ++ back) =
            .ok (Piece.ofText front ++ .instruction i :: Piece.ofText back)) ∧
        Program.parse (front ++ (before ++ Fragment.headed keyword h ++ after) ++ back) =
          .ok ⟨Node.ofText front ++ n :: Node.ofText back⟩ :=
  ⟨framed.closingAt, fun opened closed => ⟨framed.cut opened closed, framed.makes.parse opened closed⟩⟩

def guarded : List Char :=
  " f(')?>') ? \"<?tpl \\\")\" : $a ?? 'it\\'s' ".toList

def guardedExpr : Expr :=
  .conditional (.call "f" [.literal (.string ")?>")]) (.literal (.string "<?tpl \")"))
    (.logical .coalesce (.path ⟨"a", []⟩) (.literal (.string "it's")))

theorem framed_between_guarded :
    Framed guarded [] "if".toList (Fragment.instruction "endif".toList)
        (.choose [(guardedExpr, [])] none) ∧
      ¬Fragment.openTag <:+: "x ?> ".toList ∧
      closingAt ("é(".toList ++ '(' :: (guarded ++ ')' :: ")".toList)) 3 = pure (some 44) ∧
      Program.parse
          "x ?> <?tpl if f(')?>') ? \"<?tpl \\\")\" : $a ?? 'it\\'s' ?><?tpl endif ?>".toList =
        .ok ⟨[.text "x ?> ", .choose [(guardedExpr, [])] none]⟩ := by
  have read : Expr.parse guarded = .ok guardedExpr := by cbv
  have framed := Framed.choose read
  have opened : ¬Fragment.openTag <:+: "x ?> ".toList := by decide
  have closed : ¬Fragment.openTag <:+: [] := by decide
  have stop : byteLength guarded = 40 := by cbv
  obtain ⟨enclosed, placed⟩ := framed_between framed
  have found := enclosed "é(".toList ")".toList
  rw [stop] at found
  exact ⟨framed, opened, found, (placed opened closed).2⟩

end Stencil
