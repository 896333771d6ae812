/-!
Values under distinct keys, kept in the order in which the keys first came. Main statements: a key
that is put reads back (`lookup_put`), every other key keeps its value, and keys stay distinct.
-/

namespace Stencil

abbrev Entries (α : Type u) := List (String × α)

namespace Entries

variable {α : Type u}

def keys (entries : Entries α) : List String :=
  entries.map (·.1)

def Distinct (entries : Entries α) : Prop :=
  (keys entries).Nodup

/-- Put a value under a key: in the place of the old value, or at the end for a new key. -/
def put (key : String) (value : α) : Entries α → Entries α
  | [] => [(key, value)]
  | (k, v) :: rest => if k = key then (k, value) :: rest else (k, v) :: put key value rest

def remove (key : String) (entries : Entries α) : Entries α :=
  entries.filter fun (k, _) => k != key

/-- The entries of a list of pairs, where a later pair replaces the value of an earlier one. -/
def ofPairs (pairs : List (String × α)) : Entries α :=
  pairs.foldl (fun entries (k, v) => put k v entries) []

def has (key : String) (entries : Entries α) : Bool :=
  (entries.lookup key).isSome

theorem lookup_entry (key k : String) (v : α) (rest : Entries α) :
    List.lookup key ((k, v) :: rest) = if key = k then some v else rest.lookup key := by
  by_cases same : key = k
  · simp [same]
  · simp [List.lookup_cons, same, beq_eq_false_iff_ne.2 same]

theorem lookup_map {β : Type v} (f : α → β) (entries : Entries α) (key : String) :
    (entries.map fun (k, v) => (k, f v)).lookup key = (entries.lookup key).map f := by
  induction entries with
  | nil => rfl
  | cons entry rest ih =>
    obtain ⟨k, v⟩ := entry
    rw [List.map_cons, lookup_entry, lookup_entry, ih]
    split <;> rfl

theorem lookup_put (key other : String) (value : α) (entries : Entries α) :
    (put key value entries).lookup other =
      if other = key then some value else entries.lookup other := by
  induction entries with
  | nil => simp [put, lookup_entry]
  | cons entry rest ih =>
    obtain ⟨k, v⟩ := entry
    by_cases here : k = key
    · subst here
      simp only [put, if_true, lookup_entry]
      split <;> simp_all
    · simp only [put, here, if_false, lookup_entry, ih]
      by_cases same : other = key
      · simp [same, Ne.symm here]
      · simp [same]

theorem keys_put (key : String) (value : α) (entries : Entries α) :
    keys (put key value entries) =
      if key ∈ keys entries then keys entries else keys entries ++ [key] := by
  induction entries with
  | nil => simp [put, keys]
  | cons entry rest ih =>
    obtain ⟨k, v⟩ := entry
    by_cases here : k = key
    · simp [put, keys, here]
    · have other : key ≠ k := Ne.symm here
      simp only [keys, List.map_cons] at ih ⊢
      simp only [put, here, if_false, List.map_cons, ih, List.mem_cons, other, false_or]
      by_cases known : key ∈ rest.map (·.1) <;> simp [known]

theorem Distinct.put {key : String} {value : α} {entries : Entries α} (h : Distinct entries) :
    Distinct (put key value entries) := by
  unfold Distinct at h ⊢
  rw [keys_put]
  split
  · exact h
  · next fresh => exact List.nodup_append.2 ⟨h, by simp, by rintro a ha b hb rfl; simp_all⟩

theorem lookup_remove (key other : String) (entries : Entries α) :
    (remove key entries).lookup other = if other = key then none else entries.lookup other := by
  induction entries with
  | nil => simp [remove]
  | cons entry rest ih =>
    obtain ⟨k, v⟩ := entry
    simp only [remove] at ih ⊢
    by_cases here : k = key
    · subst here
      simp only [bne_self_eq_false, Bool.false_eq_true, not_false_eq_true, List.filter_cons_of_neg,
        ih, lookup_entry]
      split <;> simp_all
    · have kept : (k != key) = true := by simp [here]
      simp only [kept, List.filter_cons_of_pos, lookup_entry, ih]
      by_cases same : other = k
      · simp [same, here]
      · simp [same]

end Entries

end Stencil
