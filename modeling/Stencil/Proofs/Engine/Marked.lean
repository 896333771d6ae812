import Stencil.Engine
import Stencil.Proofs.Directive.Argument
import Stencil.Proofs.Program.Unlimited
import Stencil.Proofs.Template.Phrases

namespace Stencil

namespace VariablePath

theorem exists_ofText?_iff {cs : List Char} :
    (∃ p, ofText? (String.ofList cs) = .ok p) ↔ isPath cs = true := by
  unfold ofText?
  rw [String.toList_ofList]
  constructor
  · rintro ⟨p, h⟩
    split at h
    · split at h
      · assumption
      · cases h
    · cases h
  · intro path
    obtain ⟨root, members, shape, -, -⟩ := isPath_cases path
    rw [shape]
    exact ⟨_, if_pos path⟩

theorem text_of_ofText? {t : String} {p : VariablePath} (h : ofText? t = .ok p) : p.text = t := by
  unfold ofText? at h
  split at h
  · next root members shape =>
    split at h
    · cases h
      rw [← String.toList_inj, text_members, String.toList_ofList, Text.split_eq_cons shape]
    · cases h
  · cases h

end VariablePath

namespace Text

theorem Trimmed.trim_append_eq {cs : List Char} (h : Trimmed cs) (some : cs ≠ []) (ds : List Char) :
    ∃ es, trim (cs ++ ds) = cs ++ es := by
  have start : trimStart (cs ++ ds) = cs ++ ds := by
    refine dropWhile_of_head fun c mem => ?_
    rw [List.head?_append, List.head?_eq_some_head some] at mem
    exact h.first c (List.head?_eq_some_head some ▸ mem)
  have last : cs.reverse.dropWhile isBlank = cs.reverse := by
    refine dropWhile_of_head fun c mem => ?_
    rw [List.head?_reverse] at mem
    exact h.last c mem
  rw [trim, start, trimEnd, List.reverse_append, List.dropWhile_append, last]
  split
  · exact ⟨[], by rw [List.reverse_reverse, List.append_nil]⟩
  · exact ⟨_, by rw [List.reverse_append, List.reverse_reverse]⟩

end Text

namespace Marker
open Text

variable {cs path rest : List Char}

theorem print_append_ne (named : VariablePath.isPath path = true) (more tail : List Char) :
    Fragment.print ('$' :: path) ++ tail ≠ Fragment.print ('$' :: (path ++ '%' :: more)) := by
  have word : isName "print".toList = true := rfl
  have longer : Trimmed ('$' :: path ++ ['%']) := by
    refine Trimmed.append (trimmed_path named).first (by simp) ?_ (by simp)
    rintro c ⟨⟩
    rfl
  obtain ⟨kept, trimmed⟩ := longer.trim_append_eq (by simp) more
  have inside : trim ('$' :: (path ++ '%' :: more)) = '$' :: (path ++ '%' :: kept) := by
    simpa using trimmed
  intro same
  rw [← List.append_nil (Fragment.print ('$' :: (path ++ '%' :: more))), Fragment.print,
    Fragment.print, Fragment.headed_eq word, Fragment.headed_eq word, (trimmed_path named).trim_eq,
    inside] at same
  have after := List.append_cancel_left (List.cons.inj (List.append_cancel_left same)).2
  simp only [Fragment.after, List.cons_append, List.append_assoc, List.cons.injEq, true_and] at after
  cases (List.cons.inj (List.append_cancel_left after)).1

theorem expand_print_iff (cs : List Char) :
    print.expand ('%' :: (cs ++ ['%'])) = Fragment.print ('$' :: cs) ↔
      VariablePath.isPath cs = true := by
  constructor
  · intro h
    cases found : print.occurrence? ('%' :: (cs ++ ['%'])) with
    | none =>
      rw [expand_of_none found] at h
      cases (List.cons.inj h).1
    | some occurrence =>
      obtain ⟨path, rest⟩ := occurrence
      obtain ⟨whole, named⟩ := (occurrence?_eq_some_iff tame_print).1 found
      rw [expand_of_occurrence found] at h
      rcases List.eq_nil_or_concat' rest with rfl | ⟨more, last, rfl⟩
      · have same : cs ++ ['%'] = path ++ ['%'] := (List.cons.inj whole).2
        rw [List.append_cancel_right same]
        exact named
      · have same : cs ++ ['%'] = (path ++ '%' :: more) ++ [last] := by
          rw [List.append_assoc]
          exact (List.cons.inj whole).2
        rw [(List.append_inj' same rfl).1] at h
        exact absurd h (print_append_ne named more _)
  · intro named
    have found : print.occurrence? ('%' :: (cs ++ ['%'])) = some (cs, []) :=
      (occurrence?_eq_some_iff tame_print).2 ⟨rfl, named⟩
    rw [expand_of_occurrence found, expand_nil, List.append_nil]
    rfl

end Marker

theorem Program.execute_print_path (tools : Tools) (limit : Nat) (p : VariablePath)
    (context : Context) :
    Program.execute tools limit ⟨[.print (.path p)]⟩ context =
      some (.ok ((p.resolve? fun name => context.lookup name).elim "" fun v =>
        Html.escape v.display)) := by
  have sees : (Scope.start context).lookup = fun name => context.lookup name := rfl
  have found : Expr.evaluate tools.functions (Scope.start context) (.path p) =
      .ok ((p.resolve? fun name => context.lookup name).getD .null) := by
    rw [Expr.evaluate, sees]
  have ran (rounds : Nat) : Program.run tools rounds ⟨[.print (.path p)]⟩ context =
      Except.mapError .fault
        (.ok ("" ++ Html.escape ((p.resolve? fun name => context.lookup name).getD .null).display)) := by
    simp only [run, Run.nodes, Run.node, Run.value, found]
    rfl
  rw [execute_of_runs ran, String.empty_append]
  cases p.resolve? fun name => context.lookup name <;> rfl

theorem DirectiveTable.artifact_unsigned (table other : DirectiveTable) {text : String}
    (unsigned : '@' ∉ text.toList) : table.artifact text = other.artifact text := by
  have passes (ds : List Directive) {cs : List Char} (clean : '@' ∉ cs) :
      ds.foldl (fun text d => d.expand text) cs = cs := by
    induction ds with
    | nil => rfl
    | cons d ds ih =>
      have kept : d.expand (cs ++ []) = cs ++ d.expand [] := Directive.expand_append clean
      rw [List.append_nil, Directive.expand_nil, List.append_nil] at kept
      rw [List.foldl_cons, kept, ih]
  have clean := Marker.unsigned_expand Marker.inert_dump (Marker.unsigned_expand Marker.inert_print unsigned)
  unfold artifact expand
  rw [passes _ clean, passes _ clean]

/-- A render of a path between marks writes what the path finds in the data, whatever the directives. -/
theorem Engine.renderText_path (engine : Engine) {t : String} {p : VariablePath}
    (spells : VariablePath.ofText? t = .ok p) (context : Context) :
    engine.renderText ("%" ++ t ++ "%") context =
      some (.ok ((p.resolve? fun name => context.lookup name).elim "" fun v =>
        Html.escape v.display)) := by
  obtain ⟨cs, rfl⟩ : ∃ cs, t = String.ofList cs := ⟨t.toList, String.ofList_toList.symm⟩
  have source : "%" ++ String.ofList cs ++ "%" = String.ofList ('%' :: (cs ++ ['%'])) := by
    rw [← String.toList_inj]
    simp
  have yields : Yields [.tag (.print ⟨cs, p, spells⟩)] [.print (.path p)] :=
    yields_tag fun key head =>
      Build.builds_print key (Instruction.expression_eq_ok head (VariablePath.parse_path spells))
  have compiled := compile_phrases yields (.singleton _)
  have same : ([Phrase.tag (.print ⟨cs, p, spells⟩)].map Phrase.part).flatMap Part.source =
      '%' :: (cs ++ ['%']) := List.append_nil _
  have unsigned : '@' ∉ (String.ofList ('%' :: (cs ++ ['%']))).toList := by
    have path := VariablePath.exists_ofText?_iff.1 ⟨p, spells⟩
    have inside : '@' ∉ cs := fun mem => by cases VariablePath.isPathChar_of_isPath path _ mem
    simp [inside]
  rw [same, Template.compile, DirectiveTable.artifact_unsigned _ engine.directives unsigned,
    ← Template.compile] at compiled
  unfold Engine.renderText Engine.compileText
  rw [source, compiled]
  exact Program.execute_print_path engine.tools engine.config.maxLoopIterations p context

/-- Marks are replaced by the tag of what stands between them exactly around a path. A path is written
as it was read, it is the expression after a dollar sign, and a render writes what it finds. -/
theorem marked_path (t : String) :
    (Marker.print.expand ("%" ++ t ++ "%").toList = Fragment.print ("$" ++ t).toList ↔
      ∃ p, VariablePath.ofText? t = .ok p) ∧
    ∀ p, VariablePath.ofText? t = .ok p →
      p.text = t ∧ Expr.parse ("$" ++ t).toList = .ok (.path p) ∧
        ∀ (engine : Engine) (context : Context), engine.directives = .builtins →
          engine.renderText ("%" ++ t ++ "%") context =
            some (.ok ((p.resolve? fun name => context.lookup name).elim "" fun v =>
              Html.escape v.display)) := by
  obtain ⟨cs, rfl⟩ : ∃ cs, t = String.ofList cs := ⟨t.toList, String.ofList_toList.symm⟩
  have marked : ("%" ++ String.ofList cs ++ "%").toList = '%' :: (cs ++ ['%']) := by simp
  have dollar : ("$" ++ String.ofList cs).toList = '$' :: cs := by simp
  rw [marked, dollar, VariablePath.exists_ofText?_iff]
  refine ⟨Marker.expand_print_iff cs, fun p spells => ?_⟩
  exact ⟨VariablePath.text_of_ofText? spells, VariablePath.parse_path spells,
    fun engine context _ => engine.renderText_path spells context⟩

/-- The root is a keyword, and the members are digits that would be a number, and more than an index
can hold. -/
theorem marked_path_true : ∃ p, VariablePath.ofText? "true.007.1e5.0.99999999999999999999" = .ok p ∧
    p.text = "true.007.1e5.0.99999999999999999999" ∧
    Expr.parse ("$" ++ "true.007.1e5.0.99999999999999999999").toList = .ok (.path p) ∧
    ∀ (config : Config) (now : Calendar.Moment) (files : Files) (context : Context),
      (Engine.start config now files).renderText
          ("%" ++ "true.007.1e5.0.99999999999999999999" ++ "%") context =
        some (.ok ((p.resolve? fun name => context.lookup name).elim "" fun v =>
          Html.escape v.display)) := by
  let p : VariablePath :=
    ⟨"true", [.key "007", .key "1e5", .index 0, .key "99999999999999999999"]⟩
  have read : VariablePath.ofText? "true.007.1e5.0.99999999999999999999" = .ok p := by
    rfl
  obtain ⟨written, parsed, renders⟩ := (marked_path _).2 p read
  exact ⟨p, read, written, parsed, fun config now files context =>
    renders (Engine.start config now files) context rfl⟩

end Stencil
