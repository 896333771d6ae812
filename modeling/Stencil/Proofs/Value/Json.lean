import Stencil.Proofs.Engine.Erasure
import Stencil.Proofs.Value.Arithmetic

namespace Stencil

/-- What a document can hold without loss: integers of 64 bits and finite doubles, at every depth. -/
inductive Json.Fits : Json → Prop
  | null : Fits .null
  | bool (b) : Fits (.bool b)
  | int {n} : -2 ^ 63 ≤ n → n < 2 ^ 63 → Fits (.int n)
  | float {x} : x.isFinite = true → Fits (.float x)
  | string (s) : Fits (.string s)
  | array {items} : (∀ j ∈ items, Fits j) → Fits (.array items)
  | object {members} : (∀ member ∈ members, Fits member.2) → Fits (.object members)

namespace Value

inductive Finite : Value → Prop
  | null : Finite .null
  | bool (b) : Finite (.bool b)
  | int (n) : Finite (.int n)
  | float {x} : x.isFinite = true → Finite (.float x)
  | string (s) : Finite (.string s)
  | array {items} : (∀ x ∈ items, Finite x) → Finite (.array items)
  | map {entries} : (∀ entry ∈ entries, Finite entry.2) → Finite (.map entries)
  | record {identity typeName names} {fields : Entries Value} :
      (∀ name v, fields.lookup name = some v → Finite v) →
      Finite (.record identity typeName names fields)

inductive Fits : Value → Prop
  | null : Fits .null
  | bool (b) : Fits (.bool b)
  | int (n) : Fits (.int n)
  | float {x} : x.isFinite = true → Fits (.float x)
  | string (s) : Fits (.string s)
  | array {items} : (∀ x ∈ items, Fits x) → Fits (.array items)
  | map {entries} : (∀ entry ∈ entries, Fits entry.2) → Fits (.map entries)

theorem ofJsonItems_eq_map (items : List Json) : ofJsonItems items = items.map ofJson := by
  induction items with
  | nil => rfl
  | cons j js ih => rw [ofJsonItems, ih, List.map_cons]

theorem ofJsonMembers_eq_map (members : Entries Json) :
    ofJsonMembers members = members.map fun (k, j) => (k, ofJson j) := by
  induction members with
  | nil => rfl
  | cons member rest ih => rw [ofJsonMembers, ih, List.map_cons]

theorem ofInt_toInt (n : Int64) : ofInt n.toInt = .int n := by
  have held : int64? n.toInt = some n := int64?_eq_some_iff.2 rfl
  rw [ofInt, held]

theorem exists_ofInt {n : Int} (least : -2 ^ 63 ≤ n) (greatest : n < 2 ^ 63) :
    ∃ m : Int64, m.toInt = n ∧ ofInt n = .int m := by
  cases held : int64? n with
  | none =>
    have outside := int64?_eq_none_iff_outside.1 held
    omega
  | some m => exact ⟨m, int64?_eq_some_iff.1 held, by rw [ofInt, held]⟩

variable {v : Value} {j : Json}

theorem toJson_ofJson (fits : j.Fits) : (ofJson j).toJson = j := by
  unfold toJson
  induction fits with
  | null | bool _ | string _ => rfl
  | int least greatest =>
    obtain ⟨m, same, whole⟩ := exists_ofInt least greatest
    rw [ofJson, whole, encode, same]
  | float finite => rw [ofJson, encode, if_pos finite]
  | array _ ih =>
    rw [ofJson, encode, ofJsonItems_eq_map, encodeItems_eq_map, List.map_map]
    exact congrArg Json.array ((List.map_congr_left ih).trans (List.map_id _))
  | object _ ih =>
    rw [ofJson, encode, ofJsonMembers_eq_map, encodeEntries_eq_map, List.map_map]
    refine congrArg Json.object ((List.map_congr_left ?_).trans (List.map_id _))
    rintro ⟨k, j⟩ mem
    exact congrArg (Prod.mk k) (ih (k, j) mem)

theorem ofJson_toJson (fits : v.Fits) : ofJson v.toJson = v := by
  unfold toJson
  induction fits with
  | null | bool _ | string _ => rfl
  | int n => rw [encode, ofJson, ofInt_toInt]
  | float finite => rw [encode, if_pos finite, ofJson]
  | array _ ih =>
    rw [encode, ofJson, ofJsonItems_eq_map, encodeItems_eq_map, List.map_map]
    exact congrArg Value.array ((List.map_congr_left ih).trans (List.map_id _))
  | map _ ih =>
    rw [encode, ofJson, ofJsonMembers_eq_map, encodeEntries_eq_map, List.map_map]
    refine congrArg Value.map ((List.map_congr_left ?_).trans (List.map_id _))
    rintro ⟨k, w⟩ mem
    exact congrArg (Prod.mk k) (ih (k, w) mem)

theorem Finite.fits_erase (finite : v.Finite) (lawful : v.Lawful) : v.erase.Fits := by
  induction lawful with
  | null => exact .null
  | bool b => exact .bool b
  | int n => exact .int n
  | float x =>
    cases finite with
    | float finite => exact .float finite
  | string s => exact .string s
  | array _ ih =>
    cases finite with
    | array finite =>
      rw [erase, eraseItems_eq_map]
      exact .array (List.forall_mem_map.2 fun x mem => ih x mem (finite x mem))
  | map _ ih =>
    cases finite with
    | map finite =>
      rw [erase, eraseEntries_eq_map]
      refine .map (List.forall_mem_map.2 ?_)
      rintro ⟨k, w⟩ mem
      exact ih k w mem (finite (k, w) mem)
  | @record _ _ names fields _ has _ ih =>
    cases finite with
    | record finite =>
      rw [erase, eraseEntries_eq_map]
      refine .map (List.forall_mem_map.2 fun name listed => ?_)
      obtain ⟨w, found⟩ := Option.isSome_iff_exists.1 ((has name).2 listed)
      rw [Entries.lookup_map, found]
      exact ih name w found (finite name w found)

/-- A document that fits is the JSON form of its value, with its members in order. A value without records
is the value of its JSON form if its doubles are finite, and a lawful value comes back with the map of its
fields in place of every record. -/
theorem json_round_trip :
    (∀ j : Json, j.Fits → (ofJson j).toJson = j) ∧
      (∀ v : Value, v.Fits → ofJson v.toJson = v) ∧
      ∀ v : Value, v.Lawful → v.Finite → ofJson v.toJson = v.erase := by
  refine ⟨fun j => toJson_ofJson, fun v => ofJson_toJson, fun v lawful finite => ?_⟩
  rw [← toJson_erase lawful]
  exact ofJson_toJson (finite.fits_erase lawful)

theorem json_round_trip_point :
    let j : Json := .object [("b", .array [.int 9223372036854775807, .float 1.0]), ("a", .object [])]
    let v : Value := .map [("z", .array [.int (-1), .float (-0.0)]), ("a", .string "<")]
    let r : Value := .array [.record 0 "Point" ["y", "x"] [("x", .int 1), ("y", .float 2.0)]]
    (j.Fits ∧ (ofJson j).toJson = j) ∧ (v.Fits ∧ ofJson v.toJson = v) ∧
      r.Lawful ∧ r.Finite ∧ ofJson r.toJson = .array [.map [("y", .float 2.0), ("x", .int 1)]] := by
  intro j v r
  have fits : j.Fits := by
    have numbers : (Json.array [.int 9223372036854775807, .float 1.0]).Fits :=
      .array (by simp [Json.Fits.int, Json.Fits.float (x := 1.0) (by decide)])
    have nothing : (Json.object []).Fits := .object (List.forall_mem_nil _)
    exact .object (by simp [numbers, nothing])
  have plain : v.Fits := by
    have numbers : (Value.array [.int (-1), .float (-0.0)]).Fits :=
      .array (by simp [Fits.int, Fits.float (x := -0.0) (by decide)])
    exact .map (by simp [numbers, Fits.string])
  have lawful : r.Lawful := by
    have point : (Value.record 0 "Point" ["y", "x"] [("x", .int 1), ("y", .float 2.0)]).Lawful :=
      .of_fields (by decide) (by decide) (by simp [Lawful.int, Lawful.float])
    exact .array (List.forall_mem_singleton.2 point)
  have finite : r.Finite := by
    refine .array (List.forall_mem_singleton.2 (.record fun name w found => ?_))
    have held := Entries.mem_of_lookup found
    simp only [List.mem_cons, Prod.mk.injEq, List.not_mem_nil, or_false] at held
    rcases held with ⟨-, rfl⟩ | ⟨-, rfl⟩
    · exact .int 1
    · exact .float (by decide)
  obtain ⟨documents, values, records⟩ := json_round_trip
  exact ⟨⟨fits, documents j fits⟩, ⟨plain, values v plain⟩, lawful, finite, records r lawful finite⟩

end Value

end Stencil
