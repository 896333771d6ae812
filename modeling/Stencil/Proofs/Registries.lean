import Mathlib.Data.List.Nodup
import Mathlib.Data.List.Induction
import Stencil.Directive.Builtin
import Stencil.Function.Builtin
import Stencil.Proofs.Reading

/-!
# Registries

A registry keeps its directives in a list, and beside the list the position of each name. Whatever is
registered, with whatever outcome, the two agree: names are distinct, a name finds the directive that was
first accepted under it, and a refusal changes nothing but that the rest of its batch is left out. Functions
too are found under the name for which they were first registered (`registries_consistent`).
-/

namespace Stencil

/-- Directives in the order in which they came, and the position of each name. -/
structure Registry where
  directives : List Directive
  positions : Entries Nat

namespace Registry

def empty : Registry :=
  ⟨[], []⟩

def names (r : Registry) : List String :=
  r.directives.map Directive.name

def contains (r : Registry) (name : String) : Bool :=
  r.positions.has name

def lookup? (r : Registry) (name : String) : Option Directive :=
  (r.positions.lookup name).bind fun i => r.directives[i]?

def table (r : Registry) : DirectiveTable :=
  ⟨r.directives⟩

def add (r : Registry) (d : Directive) : Registry :=
  ⟨r.directives ++ [d], Entries.put d.name r.directives.length r.positions⟩

def register (r : Registry) (d : Directive) : Except Error Unit × Registry :=
  if r.contains d.name then (.error (.duplicateDirective d.name), r)
  else if Text.isName d.name.toList then (.ok (), r.add d)
  else (.error (.invalidDirective d.name), r)

def registerEach (r : Registry) : List Directive → Except Error Unit × Registry
  | [] => (.ok (), r)
  | d :: ds =>
    match r.register d with
    | (.ok (), larger) => larger.registerEach ds
    | (.error e, same) => (.error e, same)

inductive Call where
  | register (name : String) (takesArgument : Bool) (compile : List Char → List Char)
  | registerDirective (directive : Directive)
  | registerBuiltins

def Call.directives : Call → List Directive
  | .register name takesArgument compile => [⟨name, takesArgument, compile⟩]
  | .registerDirective directive => [directive]
  | .registerBuiltins => Directive.builtins

def perform (r : Registry) (call : Call) : Except Error Unit × Registry :=
  r.registerEach call.directives

def after (r : Registry) (call : Call) : Registry :=
  (r.perform call).2

def run (calls : List Call) : Registry :=
  calls.foldl after empty

def accepted (r : Registry) : List Directive → List Directive
  | [] => []
  | d :: ds =>
    match r.register d with
    | (.ok (), larger) => d :: larger.accepted ds
    | (.error _, _) => []

def history (r : Registry) : List Call → List Directive
  | [] => []
  | call :: calls => r.accepted call.directives ++ (r.after call).history calls

/-- The positions are those of the names in the list, and no name comes twice. -/
structure Indexed (r : Registry) : Prop where
  distinct : r.names.Nodup
  named : ∀ name ∈ r.names, Text.isName name.toList = true
  position : ∀ name i, r.positions.lookup name = some i ↔ r.names[i]? = some name

variable {r : Registry} {d : Directive} {ds : List Directive} {name : String} {e : Error}

theorem names_add (r : Registry) (d : Directive) : (r.add d).names = r.names ++ [d.name] := by
  simp only [names, add, List.map_append, List.map_cons, List.map_nil]

theorem indexed_empty : empty.Indexed :=
  ⟨List.nodup_nil, nofun, fun name i => by simp [empty, names]⟩

theorem Indexed.contains_iff (h : r.Indexed) : r.contains name = true ↔ name ∈ r.names := by
  rw [contains, Entries.has, Option.isSome_iff_exists, List.mem_iff_getElem?]
  exact exists_congr fun i => h.position name i

theorem getElem?_names_add (r : Registry) (d : Directive) (name : String) (i : Nat) :
    (r.add d).names[i]? = some name ↔
      r.names[i]? = some name ∨ i = r.names.length ∧ name = d.name := by
  rw [names_add, List.getElem?_append]
  split
  · next within =>
    have elsewhere : ¬(i = r.names.length ∧ name = d.name) := fun last => by omega
    rw [or_iff_left elsewhere]
  · next beyond =>
    rw [List.getElem?_eq_none (Nat.not_lt.1 beyond), List.getElem?_singleton]
    simp only [Option.ite_none_right_eq_some, Option.some_inj, reduceCtorEq, false_or]
    exact and_congr (by omega) eq_comm

theorem Indexed.add (h : r.Indexed) (fresh : d.name ∉ r.names)
    (named : Text.isName d.name.toList = true) : (r.add d).Indexed := by
  have size : r.directives.length = r.names.length := (List.length_map _).symm
  refine ⟨?_, ?_, fun name i => ?_⟩
  · rw [names_add]
    exact List.nodup_append'.2
      ⟨h.distinct, List.nodup_singleton _, List.disjoint_singleton.2 fresh⟩
  · rw [names_add]
    exact List.forall_mem_append.2 ⟨h.named, List.forall_mem_singleton.2 named⟩
  · rw [getElem?_names_add, Registry.add, Entries.lookup_put, size]
    -- The new name stands at the end, and every other name where it stood.
    by_cases same : name = d.name
    · have absent : r.names[i]? ≠ some name := fun found => fresh (same ▸ List.mem_of_getElem? found)
      rw [if_pos same, Option.some_inj, or_iff_right absent, and_iff_left same]
      exact eq_comm
    · rw [if_neg same, h.position, or_iff_left fun last => same last.2]

theorem Indexed.register_cases (h : r.Indexed) (d : Directive) :
    (d.name ∈ r.names ∧ r.register d = (.error (.duplicateDirective d.name), r)) ∨
      (d.name ∉ r.names ∧ Text.isName d.name.toList = false ∧
        r.register d = (.error (.invalidDirective d.name), r)) ∨
      d.name ∉ r.names ∧ Text.isName d.name.toList = true ∧ r.register d = (.ok (), r.add d) ∧
        (r.add d).Indexed := by
  unfold register
  by_cases known : d.name ∈ r.names
  · exact .inl ⟨known, if_pos (h.contains_iff.2 known)⟩
  · rw [if_neg (mt h.contains_iff.1 known)]
    cases named : Text.isName d.name.toList with
    | false => exact .inr (.inl ⟨known, rfl, rfl⟩)
    | true => exact .inr (.inr ⟨known, rfl, rfl, h.add known named⟩)

theorem Indexed.register_eq_ok_iff (h : r.Indexed) : (r.register d).1 = .ok () ↔
    d.name ∉ r.names ∧ Text.isName d.name.toList = true := by
  rcases h.register_cases d with ⟨known, same⟩ | ⟨fresh, unnamed, same⟩ | ⟨fresh, named, same, -⟩
  · simp [same, known]
  · simp [same, unnamed]
  · simp [same, fresh, named]

theorem Indexed.register_eq_error (h : r.Indexed) (failed : (r.register d).1 = .error e) :
    (r.register d).2 = r ∧
      (d.name ∈ r.names ∧ e = .duplicateDirective d.name ∨
        d.name ∉ r.names ∧ Text.isName d.name.toList = false ∧ e = .invalidDirective d.name) := by
  rcases h.register_cases d with ⟨known, same⟩ | ⟨fresh, unnamed, same⟩ | ⟨-, -, same, -⟩
  · rw [same] at failed ⊢
    cases failed
    exact ⟨rfl, .inl ⟨known, rfl⟩⟩
  · rw [same] at failed ⊢
    cases failed
    exact ⟨rfl, .inr ⟨fresh, unnamed, rfl⟩⟩
  · rw [same] at failed
    cases failed

/-! ## Batches -/

theorem Indexed.registerEach (h : r.Indexed) (ds : List Directive) :
    (r.registerEach ds).2.Indexed ∧
      (r.registerEach ds).2.directives = r.directives ++ r.accepted ds := by
  induction ds generalizing r with
  | nil => exact ⟨h, (List.append_nil _).symm⟩
  | cons d ds ih =>
    rw [Registry.registerEach, accepted]
    rcases h.register_cases d with ⟨-, same⟩ | ⟨-, -, same⟩ | ⟨-, -, same, larger⟩
    · rw [same]
      exact ⟨h, (List.append_nil _).symm⟩
    · rw [same]
      exact ⟨h, (List.append_nil _).symm⟩
    · obtain ⟨indexed, all⟩ := ih larger
      rw [same]
      refine ⟨indexed, all.trans ?_⟩
      rw [List.append_cons]
      rfl

theorem Indexed.registerEach_outcome (h : r.Indexed) (distinct : (ds.map Directive.name).Nodup)
    (named : ∀ d ∈ ds, Text.isName d.name.toList = true) :
    ((r.registerEach ds).1 = .ok () ∧ r.accepted ds = ds ∧ ∀ d ∈ ds, d.name ∉ r.names) ∨
      ∃ before d after, ds = before ++ d :: after ∧ (∀ b ∈ before, b.name ∉ r.names) ∧
        d.name ∈ r.names ∧ (r.registerEach ds).1 = .error (.duplicateDirective d.name) ∧
        r.accepted ds = before := by
  induction ds generalizing r with
  | nil => exact .inl ⟨rfl, rfl, nofun⟩
  | cons d ds ih =>
    rw [List.map_cons, List.nodup_cons] at distinct
    rw [List.forall_mem_cons] at named
    rw [Registry.registerEach, accepted]
    rcases h.register_cases d with ⟨known, same⟩ | ⟨-, unnamed, -⟩ | ⟨fresh, -, same, larger⟩
    · rw [same]
      exact .inr ⟨[], d, ds, rfl, nofun, known, rfl, rfl⟩
    · rw [named.1] at unnamed
      cases unnamed
    · -- No later directive of the batch has the name that was just added.
      have others : ∀ b ∈ ds, b.name ∈ (r.add d).names ↔ b.name ∈ r.names := by
        intro b mem
        have different : b.name ≠ d.name := fun equal =>
          distinct.1 (equal ▸ List.mem_map_of_mem mem)
        simp [names_add, different]
      rw [same]
      rcases ih larger distinct.2 named.2 with
        ⟨ok, all, unknown⟩ | ⟨before, collision, later, rfl, unknown, known, failed, all⟩
      · refine .inl ⟨ok, by simp only [all], List.forall_mem_cons.2 ⟨fresh, fun b mem => ?_⟩⟩
        exact mt (others b mem).2 (unknown b mem)
      · refine .inr ⟨d :: before, collision, later, rfl, List.forall_mem_cons.2 ⟨fresh, fun b mem => ?_⟩,
          (others collision (by simp)).1 known, failed, by simp only [all]⟩
        exact mt (others b (by simp [mem])).2 (unknown b mem)

/-! ## Runs -/

theorem run_concat (calls : List Call) (call : Call) :
    run (calls ++ [call]) = (run calls).after call := by
  rw [run, List.foldl_append]
  rfl

theorem indexed_run (calls : List Call) : (run calls).Indexed := by
  induction calls using List.reverseRecOn with
  | nil => exact indexed_empty
  | append_singleton calls call ih =>
    rw [run_concat]
    exact (ih.registerEach call.directives).1

theorem Indexed.directives_foldl (h : r.Indexed) (calls : List Call) :
    (calls.foldl after r).directives = r.directives ++ r.history calls := by
  induction calls generalizing r with
  | nil => exact (List.append_nil _).symm
  | cons call calls ih =>
    obtain ⟨indexed, all⟩ := h.registerEach call.directives
    have rest := ih indexed
    rw [all, List.append_assoc] at rest
    exact rest

theorem Indexed.lookup?_eq (h : r.Indexed) (name : String) :
    r.lookup? name = r.table.find? name := by
  have unique {a b : Directive} (left : a ∈ r.directives) (right : b ∈ r.directives)
      (same : a.name = b.name) : a = b := List.inj_on_of_nodup_map h.distinct left right same
  rw [lookup?, table, DirectiveTable.find?]
  cases place : r.positions.lookup name with
  | none =>
    have absent : name ∉ r.names := by
      rw [← h.contains_iff, contains, Entries.has, place]
      exact Bool.false_ne_true
    symm
    refine List.find?_eq_none.2 fun d mem same => absent ?_
    exact eq_of_beq same ▸ List.mem_map_of_mem mem
  | some i =>
    have there := (h.position name i).1 place
    rw [names, List.getElem?_map] at there
    obtain ⟨d, found, rfl⟩ := Option.map_eq_some_iff.1 there
    have mem := List.mem_of_getElem? found
    rw [Option.bind_some, found]
    cases first : r.directives.find? fun other => other.name == d.name with
    | none =>
      have missed := List.find?_eq_none.1 first d mem
      exact absurd (beq_self_eq_true _) missed
    | some other =>
      have same : other.name = d.name := by simpa using List.find?_some first
      rw [unique (List.mem_of_find?_eq_some first) mem same]

theorem Indexed.registerEach_table (h : r.Indexed) (ds : List Directive) :
    (r.table.registerEach ds).1 = (r.registerEach ds).2.table := by
  induction ds generalizing r with
  | nil => rfl
  | cons d ds ih =>
    have contains : r.table.contains d.name = true ↔ d.name ∈ r.names :=
      DirectiveTable.contains_eq_true_iff
    rw [DirectiveTable.registerEach, DirectiveTable.register, Registry.registerEach]
    rcases h.register_cases d with ⟨known, same⟩ | ⟨fresh, unnamed, same⟩ | ⟨fresh, named, same, larger⟩
    · rw [if_pos (contains.2 known), same]
    · rw [if_neg (mt contains.1 fresh), unnamed, same]
      rfl
    · rw [if_neg (mt contains.1 fresh), named, same]
      exact ih larger

theorem run_table (calls : List Call) : (run calls).table =
    calls.foldl (fun table call => (table.registerEach call.directives).1) .empty := by
  induction calls using List.reverseRecOn with
  | nil => rfl
  | append_singleton calls call ih =>
    rw [run_concat, List.foldl_append, ← ih]
    exact ((indexed_run calls).registerEach_table call.directives).symm

theorem perform_single {call : Call} (single : call.directives = [d]) (r : Registry) :
    r.perform call = r.register d := by
  rw [perform, single, registerEach]
  split
  · next larger same =>
    rw [same]
    rfl
  · next e same equal => exact equal.symm

theorem distinct_builtins : (Directive.builtins.map Directive.name).Nodup :=
  DirectiveTable.distinct_builtins

theorem named_builtins : ∀ d ∈ Directive.builtins, Text.isName d.name.toList = true := by
  decide

/-- What holds of a registry after some calls, of whatever outcome. -/
structure Consistent (calls : List Call) : Prop where
  distinct : (run calls).names.Nodup
  named : ∀ name ∈ (run calls).names, Text.isName name.toList = true
  position : ∀ name i, (run calls).positions.lookup name = some i ↔ (run calls).names[i]? = some name
  order : (run calls).directives = empty.history calls
  found : ∀ name, (∃ d, (run calls).lookup? name = some d) ↔ name ∈ (run calls).names
  first : ∀ name, (run calls).lookup? name = (empty.history calls).find? fun d => d.name == name
  table : (run calls).table =
    calls.foldl (fun table call => (table.registerEach call.directives).1) .empty
  accepted : ∀ call d, call.directives = [d] → (((run calls).perform call).1 = .ok () ↔
    d.name ∉ (run calls).names ∧ Text.isName d.name.toList = true)
  refused : ∀ call d e, call.directives = [d] → ((run calls).perform call).1 = .error e →
    run (calls ++ [call]) = run calls ∧
      (d.name ∈ (run calls).names ∧ e = .duplicateDirective d.name ∨
        d.name ∉ (run calls).names ∧ Text.isName d.name.toList = false ∧ e = .invalidDirective d.name)
  completed : ((run calls).perform .registerBuiltins).1 = .ok () →
    (run (calls ++ [.registerBuiltins])).directives = (run calls).directives ++ Directive.builtins
  stopped : ∀ e, ((run calls).perform .registerBuiltins).1 = .error e →
    ∃ before d after, Directive.builtins = before ++ d :: after ∧
      (∀ b ∈ before, b.name ∉ (run calls).names) ∧ d.name ∈ (run calls).names ∧
      e = .duplicateDirective d.name ∧
      (run (calls ++ [.registerBuiltins])).directives = (run calls).directives ++ before

theorem consistent_run (calls : List Call) : Consistent calls := by
  have h := indexed_run calls
  have order : (run calls).directives = empty.history calls := indexed_empty.directives_foldl calls
  have first (name : String) :
      (run calls).lookup? name = (empty.history calls).find? fun d => d.name == name :=
    (h.lookup?_eq name).trans (congrArg (List.find? _) order)
  have batch := (h.registerEach Directive.builtins).2
  have outcome := h.registerEach_outcome distinct_builtins named_builtins
  refine ⟨h.distinct, h.named, h.position, order, fun name => ?_, first, run_table calls, ?_, ?_, ?_, ?_⟩
  · rw [h.lookup?_eq, ← Option.isSome_iff_exists]
    exact DirectiveTable.contains_eq_true_iff
  · intro call d single
    rw [perform_single single]
    exact h.register_eq_ok_iff
  · intro call d e single failed
    rw [run_concat, after]
    rw [perform_single single] at failed ⊢
    exact h.register_eq_error failed
  · intro ok
    rw [run_concat]
    refine batch.trans ?_
    rcases outcome with ⟨-, all, -⟩ | ⟨_, _, _, -, -, -, failed, -⟩
    · rw [all]
    · cases ok.symm.trans failed
  · intro e failed
    rw [run_concat]
    rcases outcome with ⟨ok, -, -⟩ | ⟨before, d, later, whole, unknown, known, refusal, all⟩
    · cases failed.symm.trans ok
    · cases failed.symm.trans refusal
      exact ⟨before, d, later, whole, unknown, known, rfl, by rw [← all]; exact batch⟩

example : (run [.register "if" true id, .registerBuiltins]).names = ["if", "php"] := by
  decide

end Registry

/-! ## Functions -/

namespace FunctionTable

def attempt (table : FunctionTable) (name : String) (function : Function) :
    Except Error Unit × FunctionTable :=
  match table.register name function with
  | .ok larger => (.ok (), larger)
  | .error e => (.error e, table)

def run (table : FunctionTable) (added : Entries Function) : FunctionTable :=
  added.foldl (fun table (name, function) => (table.attempt name function).2) table

variable {table : FunctionTable} {name other : String} {function : Function}

theorem contains_iff : table.contains name = true ↔ name ∈ Entries.keys table.entries := by
  rw [contains, Entries.has, List.lookup_isSome_iff, Entries.keys, List.mem_map]
  simp only [beq_iff_eq, eq_comm (a := name)]

theorem find?_eq_none_iff : table.find? name = none ↔ name ∉ Entries.keys table.entries := by
  rw [← contains_iff, contains, Entries.has, Bool.not_eq_true, Option.isSome_eq_false_iff,
    Option.isNone_iff_eq_none, find?]

theorem attempt_cases (table : FunctionTable) (name : String) (function : Function) :
    (name ∈ Entries.keys table.entries ∧
        table.attempt name function = (.error (.duplicateFunction name), table)) ∨
      name ∉ Entries.keys table.entries ∧
        table.attempt name function = (.ok (), ⟨table.entries ++ [(name, function)]⟩) := by
  unfold attempt register
  by_cases known : name ∈ Entries.keys table.entries
  · rw [if_pos (contains_iff.2 known)]
    exact .inl ⟨known, rfl⟩
  · rw [if_neg (mt contains_iff.1 known)]
    exact .inr ⟨known, rfl⟩

theorem find?_attempt (table : FunctionTable) (name other : String) (function : Function) :
    (table.attempt name function).2.find? other =
      (table.find? other).or (if other = name then some function else none) := by
  rcases table.attempt_cases name function with ⟨known, same⟩ | ⟨-, same⟩
  · rw [same]
    split
    · next here =>
      obtain ⟨f, found⟩ := Option.isSome_iff_exists.1 (contains_iff.2 known)
      have found : table.find? other = some f := here ▸ found
      rw [found, Option.some_or]
    · rw [Option.or_none]
  · rw [same]
    simp only [find?, List.lookup_append, Entries.lookup_entry, List.lookup_nil]

theorem find?_run (table : FunctionTable) (added : Entries Function) (name : String) :
    (table.run added).find? name = (table.find? name).or (added.lookup name) := by
  induction added generalizing table with
  | nil => exact (Option.or_none).symm
  | cons entry added ih =>
    obtain ⟨n, f⟩ := entry
    rw [run, List.foldl_cons, ← run, ih, find?_attempt, Option.or_assoc, Entries.lookup_entry]
    split <;> rfl

theorem distinct_attempt (distinct : table.entries.Distinct) (name : String) (function : Function) :
    (table.attempt name function).2.entries.Distinct := by
  rcases table.attempt_cases name function with ⟨-, same⟩ | ⟨fresh, same⟩
  · rw [same]
    exact distinct
  · rw [same, Entries.Distinct, Entries.keys, List.map_append]
    exact List.nodup_append'.2 ⟨distinct, List.nodup_singleton _, List.disjoint_singleton.2 fresh⟩

theorem distinct_run (distinct : table.entries.Distinct) (added : Entries Function) :
    (table.run added).entries.Distinct := by
  induction added generalizing table with
  | nil => exact distinct
  | cons entry added ih => exact ih (distinct_attempt distinct entry.1 entry.2)

/-- What holds of a table that starts with some functions and to which others were added, with whatever
outcome. -/
structure FirstWins (start : FunctionTable) (added : Entries Function) : Prop where
  distinct : (start.run added).entries.Distinct
  first : ∀ name, (start.run added).find? name = (start.entries ++ added).lookup name
  accepted : ∀ name function, ((start.run added).attempt name function).1 = .ok () ↔
    (start.run added).find? name = none
  refused : ∀ name function e, ((start.run added).attempt name function).1 = .error e →
    start.run (added ++ [(name, function)]) = start.run added ∧ e = .duplicateFunction name
  called : ∀ name args, (start.run added).call name args =
    match (start.entries ++ added).lookup name with
    | none => .error (.unknownFunction name)
    | some function => (function args).mapError (.call name)

theorem firstWins_run (distinct : table.entries.Distinct) (added : Entries Function) :
    FirstWins table added := by
  have first (name : String) : (table.run added).find? name = (table.entries ++ added).lookup name := by
    rw [find?_run, List.lookup_append]
    rfl
  refine ⟨distinct_run distinct added, first, fun name function => ?_, fun name function e failed => ?_,
    fun name args => ?_⟩
  · rw [find?_eq_none_iff]
    rcases (table.run added).attempt_cases name function with ⟨known, same⟩ | ⟨fresh, same⟩
    · simp [same, known]
    · simp [same, fresh]
  · rw [run, List.foldl_append, ← run]
    rcases (table.run added).attempt_cases name function with ⟨-, same⟩ | ⟨-, same⟩
    · rw [same] at failed
      cases failed
      exact ⟨congrArg Prod.snd same, rfl⟩
    · rw [same] at failed
      cases failed
  · cases found : (table.entries ++ added).lookup name with
    | none => simp only [call, first, found]
    | some function => simp only [call, first, found]

theorem distinct_builtins (now : Calendar.Moment) : (builtins now).entries.Distinct := by
  simp [Entries.Distinct, Entries.keys, builtins, Builtin.all]

end FunctionTable

/-- Whatever is registered, with whatever outcome, names stay distinct, each name finds what was first
accepted under it, and what is refused leaves everything as it was. -/
theorem registries_consistent (calls : List Registry.Call) (added : Entries Function)
    (now : Calendar.Moment) :
    Registry.Consistent calls ∧ FunctionTable.FirstWins .empty added ∧
      FunctionTable.FirstWins (.builtins now) added := by
  have distinct : FunctionTable.empty.entries.Distinct := List.nodup_nil
  exact ⟨Registry.consistent_run calls, FunctionTable.firstWins_run distinct added,
    FunctionTable.firstWins_run (FunctionTable.distinct_builtins now) added⟩

end Stencil
