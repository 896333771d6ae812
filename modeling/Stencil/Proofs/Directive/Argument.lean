import Mathlib
import Stencil.Proofs.Directive.Markers

namespace Stencil

namespace Marker
open Text VariablePath

variable {m : Marker} {cs : List Char}

theorem isInert_of_isPathChar {c : Char} (h : isPathChar c = true) : isInert c = true := by
  have all : ∀ d ∈ ['\'', '"', '(', ')', '\\'], isPathChar d = false :=
    List.all_iff_forall_prop.1 rfl
  by_contra other
  have seen : c ∈ ['\'', '"', '(', ')', '\\'] := by
    simp only [isInert, isNeutral, isQuote] at other
    simp only [List.mem_cons, List.not_mem_nil, or_false]
    by_contra none
    simp only [not_or] at none
    simp [none] at other
  rw [all c seen] at h
  cases h

def Marks (m : Marker) (cs : List Char) : Prop :=
  ∃ before path after, cs = before ++ (m.opening ++ (path ++ (m.closing ++ after))) ∧
    isPath path = true

/-- The marks and the tags that they stand for are inert, and the tags are without percent signs and
signs of directives. -/
structure Inert (m : Marker) : Prop extends Tame m where
  marks : ∀ c ∈ m.opening ++ m.closing, isInert c = true
  tags : ∀ path, isPath path = true →
    ∀ c ∈ m.compile path, isInert c = true ∧ c ≠ '%' ∧ c ≠ '@'
  opensTag : ∀ path, m.compile path ≠ []

theorem inert_headed {keyword path : List Char} (key : isName keyword = true)
    (named : isPath path = true) :
    ∀ c ∈ Fragment.headed keyword ('$' :: path), isInert c = true ∧ c ≠ '%' ∧ c ≠ '@' := by
  have seen : ∀ d, isInert d = false ∨ d = '%' ∨ d = '@' →
      d ∉ "<?tpl ?>".toList ∧ d ≠ '$' ∧ isPathChar d = false := by
    intro d other
    have all : ∀ d ∈ ['\'', '"', '(', ')', '\\', '%', '@'],
        d ∉ "<?tpl ?>".toList ∧ d ≠ '$' ∧ isPathChar d = false := List.all_iff_forall_prop.1 rfl
    refine all d ?_
    simp only [isInert, isNeutral, isQuote] at other
    simp only [List.mem_cons, List.not_mem_nil, or_false]
    by_contra none
    simp only [not_or] at none
    simp [none] at other
  have outside : ∀ d, isInert d = false ∨ d = '%' ∨ d = '@' →
      d ∉ Fragment.headed keyword ('$' :: path) := by
    intro d other
    obtain ⟨marks, dollar, char⟩ := seen d other
    refine Fragment.not_mem_headed marks (fun mem => ?_) fun mem => ?_
    · have name := isNameChar_of_isName key d mem
      simp [isPathChar, name] at char
    · rcases List.mem_cons.1 mem with same | mem
      · exact dollar same
      · have chars := isPathChar_of_isPath named d mem
        rw [char] at chars
        cases chars
  intro c mem
  refine ⟨?_, ?_, ?_⟩
  · by_contra other
    exact outside c (.inl (by simpa using other)) mem
  · rintro rfl
    exact outside '%' (.inr (.inl rfl)) mem
  · rintro rfl
    exact outside '@' (.inr (.inr rfl)) mem

theorem inert_print : print.Inert := by
  refine ⟨tame_print, List.all_eq_true.1 rfl, fun path named => ?_, fun path => List.cons_ne_nil _ _⟩
  exact inert_headed rfl named

theorem inert_dump : dump.Inert := by
  refine ⟨tame_dump, List.all_eq_true.1 rfl, fun path named => ?_, fun path => List.cons_ne_nil _ _⟩
  exact inert_headed rfl named

/-! ## Fewer percent signs -/

theorem count_occurrence {path rest : List Char} (inert : m.Inert)
    (found : m.occurrence? cs = some (path, rest))
    (fewer : (m.expand rest).count '%' ≤ rest.count '%') :
    (m.compile path ++ m.expand rest).count '%' < cs.count '%' := by
  obtain ⟨rfl, named⟩ := (occurrence?_eq_some_iff inert.toTame).1 found
  obtain ⟨more, opening⟩ := inert.opens
  have unmarked : (m.compile path).count '%' = 0 :=
    List.count_eq_zero.2 fun mem => (inert.tags path named _ mem).2.1 rfl
  simp only [List.count_append, unmarked, opening, List.count_cons_self]
  omega

theorem count_expand_le (inert : m.Inert) (cs : List Char) :
    (m.expand cs).count '%' ≤ cs.count '%' := by
  induction cs using Marker.expand.induct m with
  | case1 => rw [expand_nil]
  | case2 c cs path rest found ih =>
    rw [expand_of_occurrence found]
    exact Nat.le_of_lt (count_occurrence inert found ih)
  | case3 c cs absent ih =>
    rw [expand_of_none absent, List.count_cons, List.count_cons]
    omega

theorem count_expand_lt (inert : m.Inert) (marks : m.Marks cs) :
    (m.expand cs).count '%' < cs.count '%' := by
  induction cs using Marker.expand.induct m with
  | case1 =>
    obtain ⟨before, path, after, whole, -⟩ := marks
    obtain ⟨more, opening⟩ := inert.opens
    simp [opening] at whole
  | case2 c cs path rest found ih =>
    rw [expand_of_occurrence found]
    exact count_occurrence inert found (count_expand_le inert _)
  | case3 c cs absent ih =>
    obtain ⟨before, path, after, whole, named⟩ := marks
    cases before with
    | nil =>
      have found := (occurrence?_eq_some_iff inert.toTame).2 ⟨whole, named⟩
      rw [absent] at found
      cases found
    | cons b before =>
      cases whole
      have fewer := ih ⟨before, path, after, rfl, named⟩
      rw [expand_of_none absent, List.count_cons, List.count_cons]
      omega

theorem expand_of_not_marks (inert : m.Inert) (free : ¬m.Marks cs) : m.expand cs = cs := by
  induction cs using Marker.expand.induct m with
  | case1 => exact expand_nil
  | case2 c cs path rest found ih =>
    obtain ⟨whole, named⟩ := (occurrence?_eq_some_iff inert.toTame).1 found
    exact absurd ⟨[], path, rest, whole, named⟩ free
  | case3 c cs absent ih =>
    rw [expand_of_none absent, ih]
    rintro ⟨before, path, after, rfl, named⟩
    exact free ⟨c :: before, path, after, rfl, named⟩

/-! ## The same for the scanners -/

theorem unsigned_expand (inert : m.Inert) (unsigned : '@' ∉ cs) : '@' ∉ m.expand cs := by
  induction cs using Marker.expand.induct m with
  | case1 => rwa [expand_nil]
  | case2 c cs path rest found ih =>
    obtain ⟨whole, named⟩ := (occurrence?_eq_some_iff inert.toTame).1 found
    rw [whole] at unsigned
    simp only [List.mem_append, not_or] at unsigned
    rw [expand_of_occurrence found, List.mem_append, not_or]
    exact ⟨fun mem => (inert.tags path named _ mem).2.2 rfl, ih unsigned.2.2.2⟩
  | case3 c cs absent ih =>
    rw [List.mem_cons, not_or] at unsigned
    rw [expand_of_none absent, List.mem_cons, not_or]
    exact ⟨unsigned.1, ih unsigned.2⟩

theorem through_expand {depth : Nat} {state : Quoting} (inert : m.Inert) (proper : state.Proper) :
    through depth state (m.expand cs) = through depth state cs := by
  induction cs using Marker.expand.induct m generalizing depth state with
  | case1 => rw [expand_nil]
  | case2 c cs path rest found ih =>
    obtain ⟨whole, named⟩ := (occurrence?_eq_some_iff inert.toTame).1 found
    obtain ⟨more, opening⟩ := inert.opens
    have tag : through depth state (m.compile path ++ m.expand rest) =
        through depth state.settled (m.expand rest) :=
      through_inert proper (fun c mem => (inert.tags path named c mem).1) (inert.opensTag path)
    have marked : through depth state (m.opening ++ (path ++ (m.closing ++ rest))) =
        through depth state.settled rest := by
      rw [← List.append_assoc, ← List.append_assoc]
      refine through_inert proper (fun c mem => ?_) (by simp [opening])
      simp only [List.mem_append] at mem
      rcases mem with (mem | mem) | mem
      · exact inert.marks c (List.mem_append_left _ mem)
      · exact isInert_of_isPathChar (isPathChar_of_isPath named c mem)
      · exact inert.marks c (List.mem_append_right _ mem)
    rw [expand_of_occurrence found, tag, whole, marked]
    exact ih proper.settled
  | case3 c cs absent ih =>
    rw [expand_of_none absent, through, through]
    cases one : step c depth state with
    | none => rfl
    | some place => exact ih (step_proper proper one)

end Marker

namespace Marker
open Text

variable {m : Marker} {cs : List Char}

theorem occurrence?_append_close (inert : m.Inert) (cs : List Char) :
    m.occurrence? (cs ++ [')']) = (m.occurrence? cs).map fun (path, rest) => (path, rest ++ [')']) := by
  refine Option.ext fun ⟨path, rest⟩ => ?_
  rw [Option.map_eq_some_iff, occurrence?_eq_some_iff inert.toTame]
  constructor
  · rintro ⟨whole, named⟩
    rcases List.eq_nil_or_concat rest with rfl | ⟨before, c, rfl⟩
    · have mem : ')' ∈ m.opening ++ (path ++ (m.closing ++ [])) := whole ▸ by simp
      simp only [List.append_nil, List.mem_append] at mem
      have seen : isInert ')' = true := by
        rcases mem with mem | mem | mem
        · exact inert.marks _ (List.mem_append_left _ mem)
        · exact isInert_of_isPathChar (VariablePath.isPathChar_of_isPath named _ mem)
        · exact inert.marks _ (List.mem_append_right _ mem)
      cases seen
    · simp only [List.concat_eq_append, ← List.append_assoc] at whole
      obtain ⟨front, last⟩ := List.append_inj' whole rfl
      refine ⟨(path, before), ?_, by rw [last, List.concat_eq_append]⟩
      rw [occurrence?_eq_some_iff inert.toTame, front]
      exact ⟨by simp only [List.append_assoc], named⟩
  · rintro ⟨⟨inner, before⟩, found, same⟩
    cases same
    obtain ⟨whole, named⟩ := (occurrence?_eq_some_iff inert.toTame).1 found
    exact ⟨by rw [whole]; simp only [List.append_assoc], named⟩

theorem expand_append_close (inert : m.Inert) : m.expand (cs ++ [')']) = m.expand cs ++ [')'] := by
  induction cs using Marker.expand.induct m with
  | case1 => rw [List.nil_append, expand_nil, expand_unmarked inert.toTame (by decide)]; rfl
  | case2 c cs path rest found ih =>
    have longer := occurrence?_append_close inert (c :: cs)
    rw [found] at longer
    rw [expand_of_occurrence found, List.append_assoc, ← ih]
    exact expand_of_occurrence longer
  | case3 c cs absent ih =>
    have longer := occurrence?_append_close inert (c :: cs)
    rw [absent] at longer
    rw [expand_of_none absent, List.cons_append, List.cons_append, ← ih]
    exact expand_of_none longer

theorem expand_sign {d : Directive} (inert : m.Inert) (tame : d.Tame) :
    m.expand (d.sign ++ '(' :: (cs ++ [')'])) = d.sign ++ '(' :: (m.expand cs ++ [')']) := by
  have front : '%' ∉ d.sign ++ ['('] := by simp [Part.mark_not_mem_sign tame]
  calc m.expand (d.sign ++ '(' :: (cs ++ [')']))
    _ = m.expand ((d.sign ++ ['(']) ++ (cs ++ [')'])) := by simp
    _ = (d.sign ++ ['(']) ++ (m.expand cs ++ [')']) := by
      rw [expand_append inert.toTame front, expand_append_close inert]
    _ = d.sign ++ '(' :: (m.expand cs ++ [')']) := by simp

end Marker

namespace Directive
open Text

/-- The text is an argument that the reader behind the directive accepts. -/
inductive Accepts : Directive → List Char → Prop
  | statements {h ss} : Stmt.parseAll h = .ok ss → Accepts ⟨"php", true, Fragment.exec⟩ h
  | expression {name h e} : name ∈ ["if", "elseif", "while", "dowhile", "dump"] →
      Expr.parse h = .ok e → Accepts (block name) h
  | foreachHeader {h header} : ForeachHeader.parse h = .ok header → Accepts (block "foreach") h
  | forHeader {h header} : ForHeader.parse h = .ok header → Accepts (block "for") h
  | call {name function h args} : (name, function) ∈ [("uppercase", "upper"), ("lowercase", "lower"),
      ("json", "json"), ("date", "date"), ("dateformat", "date")] →
      Expr.parse (name.toList ++ '(' :: (h ++ [')'])) = .ok (.call name args) →
      Accepts (calling name function) h

variable {d : Directive} {h : List Char}

theorem Accepts.known (accepted : d.Accepts h) : d ∈ builtins := by
  cases accepted with
  | statements _ => exact List.mem_cons_self ..
  | expression known _ =>
    simp only [List.mem_cons, List.not_mem_nil, or_false] at known
    rcases known with rfl | rfl | rfl | rfl | rfl <;> simp [builtins]
  | foreachHeader _ | forHeader _ => simp [builtins]
  | call known _ =>
    simp only [List.mem_cons, Prod.mk.injEq, List.not_mem_nil, or_false] at known
    rcases known with ⟨rfl, rfl⟩ | ⟨rfl, rfl⟩ | ⟨rfl, rfl⟩ | ⟨rfl, rfl⟩ | ⟨rfl, rfl⟩ <;>
      simp [builtins]

theorem Accepts.takesArgument (accepted : d.Accepts h) : d.takesArgument = true := by
  cases accepted <;> rfl

theorem Accepts.through (accepted : d.Accepts h) : through 0 .outside h = some (0, .outside) := by
  cases accepted with
  | statements read => exact readsKinds_stmts.through read 0
  | expression _ read => exact readsKinds_expr.through read 0
  | foreachHeader read => exact readsKinds_foreach.through read 0
  | forHeader read => exact readsKinds_for.through read 0
  | @call name function _ args known read =>
    have named : isName name.toList = true ∧ isKeyword name = false := by
      simp only [List.mem_cons, Prod.mk.injEq, List.not_mem_nil, or_false] at known
      rcases known with ⟨rfl, -⟩ | ⟨rfl, -⟩ | ⟨rfl, -⟩ | ⟨rfl, -⟩ | ⟨rfl, -⟩ <;> exact ⟨rfl, rfl⟩
    obtain ⟨ks, lexed, list⟩ := (parse_call_iff named.1 named.2).1 read
    exact lexed.through (list.orderly.balanced 0)

theorem artifact_expanded (accepted : d.Accepts h) (unsigned : '@' ∉ h) :
    DirectiveTable.builtins.artifact (String.ofList (d.sign ++ '(' :: (h ++ [')']))) =
      String.ofList (d.compile (Marker.dump.expand (Marker.print.expand h))) := by
  have tame := tame_builtins d accepted.known
  have whole : through 0 .outside (Marker.dump.expand (Marker.print.expand h)) =
      some (0, .outside) := by
    have proper : Quoting.outside.Proper := trivial
    rw [Marker.through_expand Marker.inert_dump proper,
      Marker.through_expand Marker.inert_print proper, accepted.through]
  have clean := Marker.unsigned_expand Marker.inert_dump (Marker.unsigned_expand Marker.inert_print unsigned)
  have fits : Part.Fits DirectiveTable.builtins.directives (.sign d _) :=
    .argument accepted.known accepted.takesArgument clean whole
  have passes : DirectiveTable.builtins.expand ([Part.sign d _].flatMap (Part.under [])) =
      [Part.sign d _].flatMap Part.fragment :=
    Part.expand_table tame_builtins DirectiveTable.distinct_builtins
      (List.forall_mem_singleton.2 fits) (List.isChain_singleton _)
  unfold DirectiveTable.artifact
  rw [String.toList_ofList, Marker.expand_sign Marker.inert_print tame,
    Marker.expand_sign Marker.inert_dump tame]
  exact congrArg _ (by simpa [Part.under, Part.source, Part.fragment, accepted.takesArgument] using passes)

theorem count_headed {keyword : List Char} (key : '%' ∉ keyword) (header : List Char) :
    (Fragment.headed keyword header).count '%' = header.count '%' := by
  have solid : isBlank '%' = false := rfl
  have none := List.count_eq_zero.2 key
  simp only [Fragment.headed, Fragment.instruction, Fragment.openTag, Fragment.closeTag,
    List.count_append, List.count_cons, List.count_nil, count_trim solid, none]
  simp

theorem count_compile (accepted : d.Accepts h) (argument : List Char) :
    (d.compile argument).count '%' = argument.count '%' := by
  cases accepted with
  | statements _ => exact count_headed (by decide) argument
  | expression known _ =>
    simp only [List.mem_cons, List.not_mem_nil, or_false] at known
    rcases known with rfl | rfl | rfl | rfl | rfl <;> exact count_headed (by decide) argument
  | foreachHeader _ | forHeader _ => exact count_headed (by decide) argument
  | @call _ function _ _ known _ =>
    have key : '%' ∉ function.toList := by
      simp only [List.mem_cons, Prod.mk.injEq, List.not_mem_nil, or_false] at known
      rcases known with ⟨-, rfl⟩ | ⟨-, rfl⟩ | ⟨-, rfl⟩ | ⟨-, rfl⟩ | ⟨-, rfl⟩ <;> decide
    have none := List.count_eq_zero.2 key
    refine (count_headed (by decide) _).trans ?_
    simp [List.count_append, none]

/-- A directive is handed its argument with the marked paths in it expanded, and so the argument as it
is written exactly if no path is marked in it. -/
theorem artifact_argument (accepted : d.Accepts h) (unsigned : '@' ∉ h) :
    DirectiveTable.builtins.artifact (String.ofList (d.sign ++ '(' :: (h ++ [')']))) =
        String.ofList (d.compile (Marker.dump.expand (Marker.print.expand h))) ∧
      (DirectiveTable.builtins.artifact (String.ofList (d.sign ++ '(' :: (h ++ [')']))) =
          String.ofList (d.compile h) ↔ ¬Marker.print.Marks h ∧ ¬Marker.dump.Marks h) := by
  rw [artifact_expanded accepted unsigned]
  refine ⟨rfl, fun same => ?_, fun ⟨noPrint, noDump⟩ => ?_⟩
  · have count := congrArg (List.count '%') (String.ofList_inj.1 same)
    rw [count_compile accepted, count_compile accepted] at count
    have fewer := Marker.count_expand_le Marker.inert_dump (Marker.print.expand h)
    by_cases marked : Marker.print.Marks h
    · have less := Marker.count_expand_lt Marker.inert_print marked
      omega
    · refine ⟨marked, fun shown => ?_⟩
      rw [Marker.expand_of_not_marks Marker.inert_print marked] at count
      have less := Marker.count_expand_lt Marker.inert_dump shown
      omega
  · rw [Marker.expand_of_not_marks Marker.inert_print noPrint,
      Marker.expand_of_not_marks Marker.inert_dump noDump]

theorem accepts_format : (calling "date" "date").Accepts "$t, '%Y%m%d'".toList := by
  have read : Expr.parse ("date".toList ++ '(' :: ("$t, '%Y%m%d'".toList ++ [')'])) =
      .ok (.call "date" [.path ⟨"t", []⟩, .literal (.string "%Y%m%d")]) := by cbv
  exact .call (by decide) read

theorem compile_format : (calling "date" "date").compile
    (Marker.dump.expand (Marker.print.expand "$t, '%Y%m%d'".toList)) =
      "<?tpl echo date($t, '<?tpl print $Y ?>m%d') ?>".toList := by
  cbv

theorem artifact_argument_format :
    (calling "date" "date").Accepts "$t, '%Y%m%d'".toList ∧ '@' ∉ "$t, '%Y%m%d'".toList ∧
      DirectiveTable.builtins.artifact "@date($t, '%Y%m%d')" =
        "<?tpl echo date($t, '<?tpl print $Y ?>m%d') ?>" := by
  have result := (artifact_argument accepts_format (by decide)).1
  rw [compile_format, String.ofList_toList] at result
  exact ⟨accepts_format, by decide, result⟩

theorem exists_artifact_ne_compile :
    ¬∀ (d : Directive) (h : List Char), d.Accepts h → '@' ∉ h →
      DirectiveTable.builtins.artifact (String.ofList (d.sign ++ '(' :: (h ++ [')']))) =
        String.ofList (d.compile h) := by
  intro verbatim
  have same := verbatim _ _ accepts_format (by decide)
  have written : (calling "date" "date").compile "$t, '%Y%m%d'".toList =
      "<?tpl echo date($t, '%Y%m%d') ?>".toList := by cbv
  rw [artifact_expanded accepts_format (by decide), compile_format, written,
    String.ofList_toList, String.ofList_toList] at same
  exact absurd same (by decide)

end Directive

end Stencil
