import Stencil.Proofs.Engine.Marked
import Stencil.Proofs.Value.Equality

namespace Stencil

/-! ## Entries -/

namespace Entries

variable {α : Type}

theorem lookup_names (f : String → α) (names : List String) (key : String) :
    (names.map fun name => (name, f name)).lookup key = if key ∈ names then some (f key) else none := by
  induction names with
  | nil => rfl
  | cons name names ih =>
    rw [List.map_cons, lookup_entry, ih]
    by_cases same : key = name
    · simp [same]
    · simp [same]

theorem put_of_fresh {key : String} {entries : Entries α} (v : α) (fresh : key ∉ keys entries) :
    put key v entries = entries ++ [(key, v)] := by
  induction entries with
  | nil => rfl
  | cons entry rest ih =>
    obtain ⟨k, w⟩ := entry
    obtain ⟨other, later⟩ := not_or.1 (List.mem_cons.not.1 fresh)
    rw [put, if_neg (Ne.symm other), ih later, List.cons_append]

theorem ofPairs_of_distinct {pairs : Entries α} (distinct : Distinct pairs) : ofPairs pairs = pairs := by
  -- The pairs that are put already come before those that are left, and all their keys are distinct.
  have puts (done left : Entries α) (h : Distinct (done ++ left)) :
      left.foldl (fun entries (k, v) => put k v entries) done = done ++ left := by
    induction left generalizing done with
    | nil => exact (List.append_nil done).symm
    | cons entry left ih =>
      obtain ⟨k, v⟩ := entry
      have fresh : k ∉ keys done := by
        intro known
        rw [Distinct, keys, List.map_append] at h
        exact (List.nodup_append.1 h).2.2 k known k List.mem_cons_self rfl
      rw [List.append_cons] at h ⊢
      rw [← ih _ h, ← put_of_fresh v fresh]
      rfl
  exact puts [] pairs distinct

end Entries

/-! ## Records that are maps -/

namespace Value

mutual

/-- The value with the map of its fields in place of every record, at every depth. -/
def erase : Value → Value
  | .array items => .array (eraseItems items)
  | .map entries => .map (eraseEntries entries)
  | .record _ _ names fields => .map (listed names (eraseEntries fields))
  | v => v

def eraseItems : List Value → List Value
  | [] => []
  | x :: xs => erase x :: eraseItems xs

def eraseEntries : List (String × Value) → List (String × Value)
  | [] => []
  | (k, v) :: rest => (k, erase v) :: eraseEntries rest

end

/-- Every record in the value, at every depth, has exactly the fields that it lists, and lists each once. -/
inductive Lawful : Value → Prop
  | null : Lawful .null
  | bool (b) : Lawful (.bool b)
  | int (n) : Lawful (.int n)
  | float (x) : Lawful (.float x)
  | string (s) : Lawful (.string s)
  | array {items} : (∀ x ∈ items, Lawful x) → Lawful (.array items)
  | map {entries} : (∀ key v, (key, v) ∈ entries → Lawful v) → Lawful (.map entries)
  | record {identity typeName names} {fields : Entries Value} : names.Nodup →
      (∀ name, (fields.lookup name).isSome ↔ name ∈ names) →
      (∀ name v, fields.lookup name = some v → Lawful v) →
      Lawful (.record identity typeName names fields)

theorem eraseItems_eq_map (items : List Value) : eraseItems items = items.map erase := by
  induction items with
  | nil => rfl
  | cons x xs ih => rw [eraseItems, ih, List.map_cons]

theorem eraseEntries_eq_map (entries : Entries Value) :
    eraseEntries entries = entries.map fun (k, v) => (k, erase v) := by
  induction entries with
  | nil => rfl
  | cons entry rest ih => rw [eraseEntries, ih, List.map_cons]

theorem encodeItems_eq_map (settle : Entries Json → Entries Json) (items : List Value) :
    encodeItems settle items = items.map (encode settle) := by
  induction items with
  | nil => rfl
  | cons x xs ih => rw [encodeItems, ih, List.map_cons]

theorem encodeEntries_eq_map (settle : Entries Json → Entries Json) (entries : Entries Value) :
    encodeEntries settle entries = entries.map fun (k, v) => (k, encode settle v) := by
  induction entries with
  | nil => rfl
  | cons entry rest ih => rw [encodeEntries, ih, List.map_cons]

variable {v : Value} {names : List String} {fields : Entries Value}

theorem Lawful.of_fields {identity : Nat} {typeName : String} (distinct : names.Nodup)
    (same : names.Perm (Entries.keys fields)) (values : ∀ field ∈ fields, field.2.Lawful) :
    (Value.record identity typeName names fields).Lawful := by
  refine .record distinct (fun name => ?_) fun name v found => values _ (Entries.mem_of_lookup found)
  rw [List.lookup_isSome_iff, same.mem_iff, Entries.keys, List.mem_map]
  simp only [beq_iff_eq, eq_comm (a := name)]

/-! ## Paths -/

theorem step?_erase (lawful : v.Lawful) (segment : Segment) :
    v.erase.step? segment = (v.step? segment).map erase := by
  cases lawful with
  | null | bool _ | int _ | float _ | string _ => rfl
  | array _ =>
    rw [erase, eraseItems_eq_map]
    cases segment with
    | index n => exact List.getElem?_map
    | key s => rfl
  | map _ =>
    rw [erase, eraseEntries_eq_map]
    exact Entries.lookup_map erase _ _
  | @record _ _ names fields _ has _ =>
    rw [erase, eraseEntries_eq_map, step?, step?, listed, Entries.lookup_names, Entries.lookup_map]
    cases found : fields.lookup segment.text with
    | none =>
      have absent := (has segment.text).not.1 (by simp [found])
      exact if_neg absent
    | some w =>
      have known := (has segment.text).1 (by simp [found])
      exact if_pos known

theorem Lawful.step {found : Value} {segment : Segment} (lawful : v.Lawful)
    (step : v.step? segment = some found) : found.Lawful := by
  cases lawful with
  | null | bool _ | int _ | float _ | string _ => cases step
  | array items =>
    cases segment with
    | index n => exact items found (List.mem_of_getElem? step)
    | key s => cases step
  | map entries => exact entries _ found (Entries.mem_of_lookup step)
  | record _ _ values => exact values _ found step

theorem foldlM_step?_erase (lawful : v.Lawful) (segments : List Segment) :
    segments.foldlM step? v.erase = (segments.foldlM step? v).map erase ∧
      ∀ found, segments.foldlM step? v = some found → found.Lawful := by
  induction segments generalizing v with
  | nil =>
    refine ⟨rfl, ?_⟩
    rintro found ⟨⟩
    exact lawful
  | cons segment segments ih =>
    rw [List.foldlM_cons, List.foldlM_cons, step?_erase lawful]
    cases step : v.step? segment with
    | none => exact ⟨rfl, nofun⟩
    | some next => exact ih (lawful.step step)

/-! ## Texts -/

theorem toJson_erase (lawful : v.Lawful) : v.erase.toJson = v.toJson := by
  unfold toJson
  induction lawful with
  | null | bool _ | int _ | float _ | string _ => rfl
  | array _ ih =>
    rw [erase, encode, encode, eraseItems_eq_map, encodeItems_eq_map, encodeItems_eq_map, List.map_map]
    exact congrArg Json.array (List.map_congr_left ih)
  | map _ ih =>
    rw [erase, encode, encode, eraseEntries_eq_map, encodeEntries_eq_map, encodeEntries_eq_map,
      List.map_map]
    refine congrArg Json.object (List.map_congr_left fun (k, w) mem => ?_)
    exact congrArg (Prod.mk k) (ih k w mem)
  | @record _ _ names fields distinct has _ ih =>
    have members : (names.map fun name =>
        (name, ((encodeEntries Entries.ofPairs fields).lookup name).getD .null)) =
        encodeEntries Entries.ofPairs (listed names (eraseEntries fields)) := by
      rw [encodeEntries_eq_map, encodeEntries_eq_map, eraseEntries_eq_map, listed, List.map_map]
      refine List.map_congr_left fun name mem => congrArg (Prod.mk name) ?_
      obtain ⟨w, found⟩ := Option.isSome_iff_exists.1 ((has name).2 mem)
      rw [Entries.lookup_map, Entries.lookup_map, found]
      exact (ih name w found).symm
    have once : Entries.Distinct (names.map fun name =>
        (name, ((encodeEntries Entries.ofPairs fields).lookup name).getD .null)) := by
      rw [Entries.Distinct, Entries.keys, List.map_map]
      exact (List.map_id names).symm ▸ distinct
    rw [erase, encode, encode, Entries.ofPairs_of_distinct once, members]

theorem display_erase (lawful : v.Lawful) : v.erase.display = v.display := by
  have same := congrArg Json.compact (toJson_erase lawful)
  cases v with
  | array | map | record => exact same
  | _ => rfl

/-! ## Loops -/

theorem pairs?_erase (lawful : v.Lawful) :
    v.erase.pairs? = v.pairs?.map (List.map (Prod.map id erase)) := by
  cases lawful with
  | null | bool _ | int _ | float _ | string _ => rfl
  | array _ =>
    rw [erase, eraseItems_eq_map, pairs?, pairs?, List.zipIdx_map, List.map_map, Option.map_some,
      List.map_map]
    rfl
  | map _ =>
    rw [erase, eraseEntries_eq_map, pairs?, pairs?, List.map_map, Option.map_some, List.map_map]
    rfl
  | @record _ _ names fields _ has _ =>
    rw [erase, eraseEntries_eq_map, pairs?, pairs?, listed, listed, List.map_map, Option.map_some,
      List.map_map, List.map_map]
    refine congrArg some (List.map_congr_left fun name mem => congrArg (Prod.mk _) ?_)
    obtain ⟨w, found⟩ := Option.isSome_iff_exists.1 ((has name).2 mem)
    rw [Entries.lookup_map, found]
    rfl

theorem erase_of_pairs? (none : v.pairs? = none) : v.erase = v := by
  cases v <;> first | rfl | cases none

theorem pairs_erase (lawful : v.Lawful) :
    Run.pairs v.erase = (Run.pairs v).map (List.map (Prod.map id erase)) := by
  unfold Run.pairs
  rw [pairs?_erase lawful]
  cases none : v.pairs? with
  | none => rw [erase_of_pairs? none]; rfl
  | some pairs => rfl

end Value

/-! ## Data -/

namespace Context

def erase (context : Context) : Context :=
  Value.eraseEntries context

def Lawful (context : Context) : Prop :=
  ∀ name v, context.lookup name = some v → v.Lawful

variable {context : Context}

theorem resolve?_erase (lawful : context.Lawful) (p : VariablePath) :
    (p.resolve? fun name => context.erase.lookup name) =
        (p.resolve? fun name => context.lookup name).map Value.erase ∧
      ∀ found, (p.resolve? fun name => context.lookup name) = some found → found.Lawful := by
  have root : context.erase.lookup p.root = (context.lookup p.root).map Value.erase := by
    rw [erase, Value.eraseEntries_eq_map, Entries.lookup_map]
  simp only [VariablePath.resolve?, root]
  cases root : context.lookup p.root with
  | none =>
    refine ⟨rfl, ?_⟩
    rintro found ⟨⟩
  | some v => exact Value.foldlM_step?_erase (lawful _ v root) p.segments

/-- With the map of its fields in place of every record a path finds what it found, with such maps in place
of the records in it, and nothing where it found nothing. What it finds prints as the same text, so that a
path between marks writes the same, and a `foreach` goes through the same keys, or has the same fault. -/
theorem erase_agrees (lawful : context.Lawful) (p : VariablePath) :
    (p.resolve? fun name => context.erase.lookup name) =
        (p.resolve? fun name => context.lookup name).map Value.erase ∧
      (∀ v ∈ p.resolve? fun name => context.lookup name, v.erase.display = v.display) ∧
      (∀ (engine : Engine) (t : String), VariablePath.ofText? t = .ok p →
        engine.renderText ("%" ++ t ++ "%") context.erase = engine.renderText ("%" ++ t ++ "%") context) ∧
      ∀ functions : FunctionTable,
        ((Expr.path p).evaluate functions (.start context.erase) >>= Run.pairs) =
          ((Expr.path p).evaluate functions (.start context) >>= Run.pairs).map
            (List.map (Prod.map id Value.erase)) := by
  obtain ⟨same, laws⟩ := resolve?_erase lawful p
  have prints : ∀ v ∈ p.resolve? fun name => context.lookup name, v.erase.display = v.display :=
    fun v found => Value.display_erase (laws v found)
  refine ⟨same, prints, fun engine t spells => ?_, fun functions => ?_⟩
  · rw [engine.renderText_path spells, engine.renderText_path spells, same]
    cases found : p.resolve? fun name => context.lookup name with
    | none => rfl
    | some v => exact congrArg (fun text => some (Except.ok (Html.escape text))) (prints v found)
  · have sees (data : Context) : (Scope.start data).lookup = fun name => data.lookup name := rfl
    rw [Expr.evaluate, Expr.evaluate, sees, sees, same]
    cases found : p.resolve? fun name => context.lookup name with
    | none => rfl
    | some v => exact Value.pairs_erase (laws v found)

/-- A record in an array in a record. It lists its fields in another order than it has them. -/
def staff : Context :=
  [("team", .record 0 "Team" ["users"] [("users", .array [.null, .record 1 "User" ["name", "tags"]
    [("tags", .array [.int 7, .null]), ("name", .string "<Ann>")]])])]

theorem lawful_staff : staff.Lawful := by
  have tags : (Value.array [.int 7, .null]).Lawful := .array (by simp [Value.Lawful.int, Value.Lawful.null])
  have user : (Value.record 1 "User" ["name", "tags"]
      [("tags", .array [.int 7, .null]), ("name", .string "<Ann>")]).Lawful :=
    .of_fields (by decide) (by decide) (by simp [tags, Value.Lawful.string])
  have users := Value.Lawful.array (List.forall_mem_cons.2 ⟨.null, List.forall_mem_singleton.2 user⟩)
  intro name v found
  obtain ⟨rfl, rfl⟩ : name = "team" ∧ v = _ := by simpa [staff] using Entries.mem_of_lookup found
  exact .of_fields (by decide) (by decide) (List.forall_mem_singleton.2 users)

theorem erase_agrees_staff :
    let user : VariablePath := ⟨"team", [.key "users", .index 1]⟩
    let fields : Entries Value := [("name", .string "<Ann>"), ("tags", .array [.int 7, .null])]
    staff.Lawful ∧ VariablePath.ofText? "team.users.1" = .ok user ∧
      (user.resolve? fun name => staff.erase.lookup name) = some (.map fields) ∧
      (∀ engine : Engine, engine.renderText ("%" ++ "team.users.1" ++ "%") staff.erase =
        engine.renderText ("%" ++ "team.users.1" ++ "%") staff) ∧
      ∀ functions : FunctionTable,
        ((Expr.path user).evaluate functions (.start staff.erase) >>= Run.pairs) =
          .ok [(.string "name", .string "<Ann>"), (.string "tags", .array [.int 7, .null])] := by
  intro user fields
  have spells : VariablePath.ofText? "team.users.1" = .ok user := by rfl
  obtain ⟨same, -, renders, visits⟩ := erase_agrees lawful_staff user
  exact ⟨lawful_staff, spells, same, fun engine => renders engine _ spells, visits⟩

end Context

end Stencil
