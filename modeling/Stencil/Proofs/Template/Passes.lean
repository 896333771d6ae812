import Stencil.Proofs.Template.Spans

/-!
# What a pass over marked paths leaves

A pass takes the first marked path of a text, then the first one after it, and so on. Tags have no
percent sign, and marks have no angle bracket. So a marked path in the outcome of a pass stands in a text
that the pass has kept. The pass has looked at that place, so it is none of the paths that the pass
takes: nothing of these is left, and nothing of the other kind is new (`passes_settle`).
-/

namespace Stencil.Marker

def marked (m : Marker) (path : List Char) : List Char :=
  m.opening ++ (path ++ m.closing)

def Occurs (m : Marker) (cs : List Char) : Prop :=
  ∃ path, VariablePath.isPath path = true ∧ m.marked path <:+: cs

structure Found where
  gap : List Char
  path : List Char

/-- The first marked path of a text, the first one after that, and so on until none is left. -/
inductive Leftmost (m : Marker) : List Char → List Found → List Char → Prop
  | last {cs} : ¬m.Occurs cs → Leftmost m cs [] cs
  | next {gap path rest found last} : VariablePath.isPath path = true →
      (∀ before other after, VariablePath.isPath other = true →
        gap ++ (m.marked path ++ rest) = before ++ (m.marked other ++ after) →
          gap.length ≤ before.length) →
      Leftmost m rest found last →
      Leftmost m (gap ++ (m.marked path ++ rest)) (⟨gap, path⟩ :: found) last

def refilled (fill : List Char → List Char) (found : List Found) (last : List Char) : List Char :=
  found.flatMap (fun f => f.gap ++ fill f.path) ++ last

structure Clean (m : Marker) : Prop extends m.Tame where
  bare : '<' ∉ m.opening ++ m.closing
  tag : ∀ {path}, VariablePath.isPath path = true →
    (∃ more, m.compile path = '<' :: more) ∧ '%' ∉ m.compile path

theorem clean_print : print.Clean := by
  refine ⟨tame_print, by decide, fun named => ⟨⟨_, rfl⟩, ?_⟩⟩
  rw [Span.compile_print named]
  exact Span.mark_not_mem_fragment _

theorem clean_dump : dump.Clean := by
  refine ⟨tame_dump, by decide, fun named => ⟨⟨_, rfl⟩, ?_⟩⟩
  rw [Span.compile_dump named]
  exact Span.mark_not_mem_fragment _

variable {m : Marker} {c : Char} {cs path rest gap last before after w : List Char} {found : List Found}

/-! ## Places -/

theorem occurrence?_marked (tame : m.Tame) (named : VariablePath.isPath path = true) :
    m.occurrence? (m.marked path ++ rest) = some (path, rest) := by
  rw [occurrence?_eq_some_iff tame]
  exact ⟨by simp only [marked, List.append_assoc], named⟩

theorem eq_marked (tame : m.Tame) (h : m.occurrence? cs = some (path, rest)) :
    cs = m.marked path ++ rest ∧ VariablePath.isPath path = true := by
  obtain ⟨whole, named⟩ := (occurrence?_eq_some_iff tame).1 h
  exact ⟨by simpa only [marked, List.append_assoc] using whole, named⟩

theorem occurrence?_front (tame : m.Tame) (absent : m.occurrence? (cs ++ rest) = none) :
    m.occurrence? cs = none := by
  refine Option.eq_none_iff_forall_ne_some.2 fun ⟨path, after⟩ here => ?_
  obtain ⟨rfl, named⟩ := eq_marked tame here
  rw [List.append_assoc, occurrence?_marked tame named] at absent
  cases absent

theorem exists_marked_cons (tame : m.Tame) (path : List Char) : ∃ more, m.marked path = '%' :: more := by
  obtain ⟨more, opening⟩ := tame.opens
  exact ⟨_, by rw [marked, opening, List.cons_append]⟩

theorem bare_marked (clean : m.Clean) (named : VariablePath.isPath path = true) :
    '<' ∉ m.marked path := by
  have bare := clean.bare
  simp only [marked, List.mem_append, not_or] at bare ⊢
  refine ⟨bare.1, fun mem => ?_, bare.2⟩
  cases VariablePath.isPathChar_of_isPath named _ mem

/-! ## The outcome of a pass -/

theorem exists_of_expand_eq (clean : m.Clean) (bare : '<' ∉ w) (out : m.expand cs = w ++ after) :
    ∃ rest, cs = w ++ rest ∧ m.expand rest = after := by
  induction w generalizing cs with
  | nil => exact ⟨cs, rfl, out⟩
  | cons d w ih =>
    rw [List.mem_cons, not_or] at bare
    cases cs with
    | nil =>
      rw [expand_nil] at out
      cases out
    | cons c cs =>
      cases here : m.occurrence? (c :: cs) with
      | some occurrence =>
        obtain ⟨path, rest⟩ := occurrence
        obtain ⟨⟨more, tag⟩, -⟩ := clean.tag (eq_marked clean.toTame here).2
        rw [expand_of_occurrence here, tag] at out
        exact absurd (List.cons.inj out).1 bare.1
      | none =>
        rw [expand_of_none here, List.cons_append] at out
        obtain ⟨rfl, later⟩ := List.cons.inj out
        obtain ⟨rest, rfl, same⟩ := ih bare.2 later
        exact ⟨rest, rfl, same⟩

theorem exists_of_expand_append (clean : m.Clean) (sign : ∃ more, w = '%' :: more) (bare : '<' ∉ w)
    (out : m.expand cs = before ++ (w ++ after)) :
    ∃ front back, cs = front ++ (w ++ back) ∧ m.expand front = before ∧ m.expand back = after ∧
      m.occurrence? (w ++ back) = none := by
  induction cs using expand.induct m generalizing before with
  | case1 =>
    obtain ⟨more, rfl⟩ := sign
    rw [expand_nil] at out
    simp at out
  | case2 c cs path rest here ih =>
    obtain ⟨whole, named⟩ := eq_marked clean.toTame here
    obtain ⟨more, rfl⟩ := sign
    have unmarked := (clean.tag named).2
    rw [expand_of_occurrence here] at out
    -- The tag has no percent sign, so the text starts after it.
    obtain ⟨between, rfl, later⟩ : ∃ between, before = m.compile path ++ between ∧
        m.expand rest = between ++ ('%' :: more ++ after) := by
      rcases List.append_eq_append_iff.1 out with ⟨between, rfl, later⟩ | ⟨rest, tag, later⟩
      · exact ⟨between, rfl, later⟩
      · cases rest with
        | nil => exact ⟨[], by simpa using tag.symm, by simpa using later.symm⟩
        | cons d rest =>
          obtain ⟨rfl, -⟩ := List.cons.inj later
          exact absurd (by simp [tag]) unmarked
    obtain ⟨front, back, rfl, left, right, absent⟩ := ih later
    refine ⟨m.marked path ++ front, back, by simp only [whole, List.append_assoc], ?_, right, absent⟩
    have again : m.occurrence? (m.marked path ++ front) = some (path, front) :=
      occurrence?_marked clean.toTame named
    obtain ⟨more, starts⟩ := exists_marked_cons clean.toTame path
    rw [starts, List.cons_append] at again ⊢
    rw [expand_of_occurrence again, left]
  | case3 c cs here ih =>
    cases before with
    | nil =>
      obtain ⟨back, whole, right⟩ := exists_of_expand_eq clean bare out
      exact ⟨[], back, whole, expand_nil, right, whole ▸ here⟩
    | cons d before =>
      rw [expand_of_none here] at out
      obtain ⟨rfl, later⟩ := List.cons.inj out
      obtain ⟨front, back, rfl, left, right, absent⟩ := ih later
      have first : m.occurrence? (c :: front) = none := occurrence?_front clean.toTame here
      exact ⟨c :: front, back, rfl, by rw [expand_of_none first, left], right, absent⟩

theorem not_occurs_expand (clean : m.Clean) (cs : List Char) : ¬m.Occurs (m.expand cs) := by
  rintro ⟨path, named, before, after, whole⟩
  rw [List.append_assoc] at whole
  obtain ⟨front, back, -, -, -, absent⟩ := exists_of_expand_append clean
    (exists_marked_cons clean.toTame path) (bare_marked clean named) whole.symm
  rw [occurrence?_marked clean.toTame named] at absent
  cases absent

theorem expand_eq_self (tame : m.Tame) (free : ¬m.Occurs cs) : m.expand cs = cs := by
  induction cs with
  | nil => exact expand_nil
  | cons c cs ih =>
    have absent : m.occurrence? (c :: cs) = none := by
      refine Option.eq_none_iff_forall_ne_some.2 fun ⟨path, rest⟩ here => free ?_
      obtain ⟨whole, named⟩ := eq_marked tame here
      exact ⟨path, named, [], rest, whole.symm⟩
    have later : ¬m.Occurs cs := fun ⟨path, named, inside⟩ =>
      free ⟨path, named, inside.trans (List.suffix_cons c cs).isInfix⟩
    rw [expand_of_none absent, ih later]

/-! ## The first paths -/

theorem exists_of_cons_eq (tame : m.Tame) (absent : m.occurrence? (c :: cs) = none)
    (named : VariablePath.isPath path = true) (whole : c :: cs = before ++ (m.marked path ++ after)) :
    ∃ between, before = c :: between ∧ cs = between ++ (m.marked path ++ after) := by
  cases before with
  | nil =>
    rw [whole, List.nil_append, occurrence?_marked tame named] at absent
    cases absent
  | cons d between =>
    obtain ⟨rfl, later⟩ := List.cons.inj whole
    exact ⟨between, rfl, later⟩

theorem Leftmost.cons (tame : m.Tame) (absent : m.occurrence? (c :: cs) = none)
    (h : m.Leftmost cs found last) : ∃ more final, m.Leftmost (c :: cs) more final := by
  cases h with
  | last free =>
    refine ⟨[], c :: cs, .last fun ⟨path, named, before, after, whole⟩ => ?_⟩
    rw [List.append_assoc] at whole
    obtain ⟨between, rfl, later⟩ := exists_of_cons_eq tame absent named whole.symm
    exact free ⟨path, named, between, after, by rw [later, List.append_assoc]⟩
  | @next gap path rest found last named first leftmost =>
    have longer : m.Leftmost ((c :: gap) ++ (m.marked path ++ rest)) (⟨c :: gap, path⟩ :: found) last := by
      refine .next named (fun before other after named whole => ?_) leftmost
      obtain ⟨between, rfl, later⟩ := exists_of_cons_eq tame absent named whole
      exact Nat.succ_le_succ (first between other after named later)
    exact ⟨_, last, longer⟩

theorem exists_leftmost (tame : m.Tame) (cs : List Char) : ∃ found last, m.Leftmost cs found last := by
  induction cs using expand.induct m with
  | case1 =>
    refine ⟨[], [], .last fun ⟨path, _, inside⟩ => ?_⟩
    obtain ⟨more, starts⟩ := exists_marked_cons tame path
    rw [starts, List.infix_nil] at inside
    cases inside
  | case2 c cs path rest here ih =>
    obtain ⟨whole, named⟩ := eq_marked tame here
    obtain ⟨found, last, leftmost⟩ := ih
    have first : m.Leftmost ([] ++ (m.marked path ++ rest)) (⟨[], path⟩ :: found) last :=
      .next named (fun _ _ _ _ _ => Nat.zero_le _) leftmost
    rw [whole]
    exact ⟨_, last, first⟩
  | case3 c cs here ih =>
    obtain ⟨found, last, leftmost⟩ := ih
    exact leftmost.cons tame here

theorem Leftmost.source (h : m.Leftmost cs found last) : cs = refilled m.marked found last := by
  induction h with
  | last _ => rfl
  | @next gap path rest found last _ _ _ ih =>
    rw [refilled, List.flatMap_cons, List.append_assoc, ← refilled, ← ih, List.append_assoc]

theorem expand_gap (tame : m.Tame) (named : VariablePath.isPath path = true)
    (first : ∀ before other after, VariablePath.isPath other = true →
      gap ++ (m.marked path ++ rest) = before ++ (m.marked other ++ after) →
        gap.length ≤ before.length) :
    m.expand (gap ++ (m.marked path ++ rest)) = gap ++ (m.compile path ++ m.expand rest) := by
  induction gap with
  | nil =>
    have here : m.occurrence? (m.marked path ++ rest) = some (path, rest) :=
      occurrence?_marked tame named
    obtain ⟨more, starts⟩ := exists_marked_cons tame path
    rw [starts, List.cons_append] at here
    rw [List.nil_append, List.nil_append, starts, List.cons_append, expand_of_occurrence here]
  | cons c gap ih =>
    have absent : m.occurrence? (c :: (gap ++ (m.marked path ++ rest))) = none := by
      refine Option.eq_none_iff_forall_ne_some.2 fun ⟨other, after⟩ here => ?_
      obtain ⟨whole, named⟩ := eq_marked tame here
      exact Nat.not_succ_le_zero _ (first [] other after named whole)
    rw [List.cons_append, expand_of_none absent, ih, List.cons_append]
    intro before other after named whole
    exact Nat.le_of_succ_le_succ (first (c :: before) other after named (congrArg (c :: ·) whole))

theorem Leftmost.expand_eq (tame : m.Tame) {tag : List Char → List Char}
    (same : ∀ {path}, VariablePath.isPath path = true → m.compile path = tag path)
    (h : m.Leftmost cs found last) : m.expand cs = refilled tag found last := by
  induction h with
  | last free => exact expand_eq_self tame free
  | @next gap path rest found last named first _ ih =>
    rw [expand_gap tame named first, ih, same named]
    simp only [refilled, List.flatMap_cons, List.append_assoc]

/-- What a pass does to a text: it puts a tag in place of the first marked path, of the first one after
that, and so on, and keeps all the rest. No marked path is left, and another pass changes nothing. -/
structure Settles (m : Marker) (tag : List Char → List Char) (cs : List Char) : Prop where
  splits : ∃ found last, m.Leftmost cs found last
  replaced : ∀ found last, m.Leftmost cs found last →
    cs = refilled m.marked found last ∧ m.expand cs = refilled tag found last
  free : ¬m.Occurs (m.expand cs)
  again : m.expand (m.expand cs) = m.expand cs

theorem settles (clean : m.Clean) {tag : List Char → List Char}
    (same : ∀ {path}, VariablePath.isPath path = true → m.compile path = tag path) (cs : List Char) :
    m.Settles tag cs where
  splits := exists_leftmost clean.toTame cs
  replaced _ _ leftmost := ⟨leftmost.source, leftmost.expand_eq clean.toTame same⟩
  free := not_occurs_expand clean cs
  again := expand_eq_self clean.toTame (not_occurs_expand clean cs)

theorem exists_of_expand_marked {other : Marker} (clean : m.Clean) (known : other.Clean)
    (named : VariablePath.isPath path = true)
    (out : m.expand cs = before ++ (other.marked path ++ after)) :
    ∃ front back, cs = front ++ (other.marked path ++ back) ∧ m.expand front = before ∧
      m.expand back = after := by
  obtain ⟨front, back, whole, left, right, -⟩ := exists_of_expand_append clean
    (exists_marked_cons known.toTame path) (bare_marked known named) out
  exact ⟨front, back, whole, left, right⟩

end Marker

open Marker

/-- Each pass takes its marked paths from the left and leaves none. The second pass makes no printed
path: one in its outcome stood in the text, with the outcomes of what was before and after it on its
two sides. So the first pass has nothing to do after the second. -/
theorem passes_settle (text : List Char) :
    print.Settles (Span.tag "print".toList) text ∧ dump.Settles (Span.tag "dump".toList) text ∧
      (∀ before path after, VariablePath.isPath path = true →
        dump.expand text = before ++ (print.marked path ++ after) →
          ∃ front back, text = front ++ (print.marked path ++ back) ∧ dump.expand front = before ∧
            dump.expand back = after) ∧
      print.expand (dump.expand (print.expand text)) = dump.expand (print.expand text) := by
  refine ⟨settles clean_print Span.compile_print text, settles clean_dump Span.compile_dump text,
    fun before path after named out => exists_of_expand_marked clean_dump clean_print named out, ?_⟩
  refine expand_eq_self tame_print fun ⟨path, named, before, after, whole⟩ => ?_
  rw [List.append_assoc] at whole
  obtain ⟨front, back, kept, -⟩ := exists_of_expand_marked clean_dump clean_print named whole.symm
  exact not_occurs_expand clean_print text
    ⟨path, named, front, back, by rw [kept, List.append_assoc]⟩

theorem passes_settle_abutting :
    let text := "%!c!%%d%".toList
    VariablePath.isPath ['d'] = true ∧
      dump.expand text = "<?tpl dump $c ?>".toList ++ (print.marked ['d'] ++ []) ∧
      (∃ front back, text = front ++ (print.marked ['d'] ++ back) ∧
        dump.expand front = "<?tpl dump $c ?>".toList ∧ dump.expand back = []) ∧
      print.expand (dump.expand (print.expand text)) =
        "<?tpl dump $c ?><?tpl print $d ?>".toList := by
  intro text
  have named : VariablePath.isPath ['d'] = true := rfl
  have shown : dump.expand "%!c!%%d%".toList = "<?tpl dump $c ?>%d%".toList := by cbv
  have both : dump.expand (print.expand "%!c!%%d%".toList) =
      "<?tpl dump $c ?><?tpl print $d ?>".toList := by cbv
  have out : dump.expand text = "<?tpl dump $c ?>".toList ++ (print.marked ['d'] ++ []) :=
    shown.trans rfl
  obtain ⟨-, -, kept, again⟩ := passes_settle text
  exact ⟨named, out, kept _ _ _ named out, again.trans both⟩

end Stencil
