import Stencil.Proofs.Value.Doubles

namespace Stencil

/-! ## Entries matched by key -/

namespace Entries

variable {α β γ : Type} {a : Entries α} {b : Entries β} {c : Entries γ} {r : α → β → Prop}

theorem mem_of_lookup {key : String} {v : α} (found : a.lookup key = some v) : (key, v) ∈ a := by
  obtain ⟨before, after, rfl, -⟩ := List.lookup_eq_some_iff.1 found
  simp

theorem Distinct.lookup_eq_some_iff (distinct : Distinct a) {key : String} {v : α} :
    a.lookup key = some v ↔ (key, v) ∈ a := by
  refine ⟨mem_of_lookup, fun mem => ?_⟩
  induction a with
  | nil => cases mem
  | cons entry rest ih =>
    obtain ⟨k, w⟩ := entry
    obtain ⟨fresh, others⟩ := List.nodup_cons.1 distinct
    rw [lookup_entry]
    rcases List.mem_cons.1 mem with same | held
    · cases same
      exact if_pos rfl
    · rw [if_neg, ih others held]
      rintro rfl
      exact fresh (List.mem_map.2 ⟨_, held, rfl⟩)

theorem Distinct.lookup_perm {other : Entries α} (distinct : Distinct a) (same : a.Perm other)
    (key : String) : a.lookup key = other.lookup key := by
  have moved : Distinct other := (same.map _).nodup_iff.1 distinct
  refine Option.ext fun v => ?_
  rw [distinct.lookup_eq_some_iff, moved.lookup_eq_some_iff, same.mem_iff]

/-- There are as many entries, and each finds one under its key that it is related to. -/
def Matches (r : α → β → Prop) (a : Entries α) (b : Entries β) : Prop :=
  a.length = b.length ∧ ∀ key v, (key, v) ∈ a → ∃ w, b.lookup key = some w ∧ r v w

theorem Matches.swap (h : Matches r a b) (left : Distinct a) (right : Distinct b) :
    Matches (fun w v => r v w) b a := by
  obtain ⟨size, found⟩ := h
  -- Distinct keys that are all in `b`, and as many as `b` has, are all the keys of `b`.
  have known : keys a ⊆ keys b := by
    intro key mem
    obtain ⟨⟨k, v⟩, held, rfl⟩ := List.mem_map.1 mem
    obtain ⟨w, here, -⟩ := found k v held
    exact List.mem_map.2 ⟨_, mem_of_lookup here, rfl⟩
  have all : (keys a).Perm (keys b) :=
    (List.subperm_of_subset left known).perm_of_length_le (by simp [keys, size])
  refine ⟨size.symm, fun key w mem => ?_⟩
  obtain ⟨⟨k, v⟩, held, rfl⟩ := List.mem_map.1 (all.mem_iff.2 (List.mem_map.2 ⟨_, mem, rfl⟩))
  obtain ⟨other, here, related⟩ := found k v held
  rw [right.lookup_eq_some_iff.2 mem] at here
  cases here
  exact ⟨v, left.lookup_eq_some_iff.2 held, related⟩

theorem Matches.trans {s : β → γ → Prop} (one : Matches r a b) (two : Matches s b c) :
    Matches (fun v x => ∃ w, r v w ∧ s w x) a c := by
  refine ⟨one.1.trans two.1, fun key v mem => ?_⟩
  obtain ⟨w, here, related⟩ := one.2 key v mem
  obtain ⟨x, there, further⟩ := two.2 key w (mem_of_lookup here)
  exact ⟨x, there, w, related, further⟩

theorem Matches.imp {s : α → β → Prop} (h : Matches r a b)
    (weaker : ∀ key v w, (key, v) ∈ a → (key, w) ∈ b → r v w → s v w) : Matches s a b := by
  refine ⟨h.1, fun key v mem => ?_⟩
  obtain ⟨w, here, related⟩ := h.2 key v mem
  exact ⟨w, here, weaker key v w mem (mem_of_lookup here) related⟩

theorem matches_self_iff {r : α → α → Prop} (distinct : Distinct a) :
    Matches r a a ↔ ∀ key v, (key, v) ∈ a → r v v := by
  refine ⟨fun h key v mem => ?_, fun h => ⟨rfl, fun key v mem =>
    ⟨v, distinct.lookup_eq_some_iff.2 mem, h key v mem⟩⟩⟩
  obtain ⟨w, here, related⟩ := h.2 key v mem
  rw [distinct.lookup_eq_some_iff.2 mem] at here
  cases here
  exact related

end Entries

namespace Value

/-! ## Values and what is inside them -/

mutual

/-- The value, and the values inside its arrays and maps. Records are known by their identity, so that
nothing inside them counts. -/
def parts : Value → List Value
  | .array items => .array items :: itemParts items
  | .map entries => .map entries :: entryParts entries
  | v => [v]

def itemParts : List Value → List Value
  | [] => []
  | x :: xs => x.parts ++ itemParts xs

def entryParts : List (String × Value) → List Value
  | [] => []
  | (_, v) :: rest => v.parts ++ entryParts rest

end

def Keyed (v : Value) : Prop :=
  ∀ entries, .map entries ∈ v.parts → Entries.Distinct entries

def WithoutNaN (v : Value) : Prop :=
  ∀ x, .float x ∈ v.parts → x.isNaN = false

theorem mem_itemParts {items : List Value} {part : Value} :
    part ∈ itemParts items ↔ ∃ x ∈ items, part ∈ x.parts := by
  induction items with
  | nil => simp [itemParts]
  | cons x xs ih => simp [itemParts, ih]

theorem mem_entryParts {entries : Entries Value} {part : Value} :
    part ∈ entryParts entries ↔ ∃ key v, (key, v) ∈ entries ∧ part ∈ v.parts := by
  induction entries with
  | nil => simp [entryParts]
  | cons entry rest ih =>
    obtain ⟨k, w⟩ := entry
    simp only [entryParts, List.mem_append, ih, List.mem_cons, Prod.mk.injEq]
    constructor
    · rintro (inside | ⟨key, v, held, inside⟩)
      · exact ⟨k, w, .inl ⟨rfl, rfl⟩, inside⟩
      · exact ⟨key, v, .inr held, inside⟩
    · rintro ⟨key, v, ⟨rfl, rfl⟩ | held, inside⟩
      · exact .inl inside
      · exact .inr ⟨key, v, held, inside⟩

theorem Keyed.item {items : List Value} {x : Value} (h : (array items).Keyed) (mem : x ∈ items) :
    x.Keyed :=
  fun entries inside => h entries (List.mem_cons_of_mem _ (mem_itemParts.2 ⟨x, mem, inside⟩))

theorem Keyed.entry {entries : Entries Value} {key : String} {v : Value}
    (h : (map entries).Keyed) (mem : (key, v) ∈ entries) : v.Keyed :=
  fun others inside => h others (List.mem_cons_of_mem _ (mem_entryParts.2 ⟨key, v, mem, inside⟩))

theorem Keyed.distinct {entries : Entries Value} (h : (map entries).Keyed) :
    Entries.Distinct entries :=
  h entries List.mem_cons_self

theorem withoutNaN_array {items : List Value} :
    (array items).WithoutNaN ↔ ∀ x ∈ items, x.WithoutNaN := by
  simp only [WithoutNaN, parts, List.mem_cons, reduceCtorEq, false_or, mem_itemParts]
  exact ⟨fun h x mem y inside => h y ⟨x, mem, inside⟩, fun h y ⟨x, mem, inside⟩ => h x mem y inside⟩

theorem withoutNaN_map {entries : Entries Value} :
    (map entries).WithoutNaN ↔ ∀ key v, (key, v) ∈ entries → v.WithoutNaN := by
  simp only [WithoutNaN, parts, List.mem_cons, reduceCtorEq, false_or, mem_entryParts]
  exact ⟨fun h key v mem y inside => h y ⟨key, v, mem, inside⟩,
    fun h y ⟨key, v, mem, inside⟩ => h key v mem y inside⟩

theorem withoutNaN_float {x : Float} : (float x).WithoutNaN ↔ x.isNaN = false := by
  simp [WithoutNaN, parts]

@[elab_as_elim]
theorem nested {motive : Value → Prop}
    (flat : ∀ v, v.kind ≠ .array → v.kind ≠ .map → motive v)
    (array : ∀ items, (∀ x ∈ items, motive x) → motive (.array items))
    (map : ∀ entries, (∀ key v, (key, v) ∈ entries → motive v) → motive (.map entries)) (v : Value) :
    motive v := by
  match v with
  | .array items => exact array items fun x mem => nested flat array map x
  | .map entries => exact map entries fun key w mem => nested flat array map w
  | .null | .bool _ | .int _ | .float _ | .string _ | .record .. => exact flat _ nofun nofun
termination_by sizeOf v
decreasing_by
  · have inside := List.sizeOf_lt_of_mem mem
    simp only [Value.array.sizeOf_spec]
    omega
  · have inside := List.sizeOf_lt_of_mem mem
    simp only [Prod.mk.sizeOf_spec, Value.map.sizeOf_spec] at inside ⊢
    omega

/-! ## Containers compared -/

def Aligned (r : Value → Value → Prop) (xs ys : List Value) : Prop :=
  xs.length = ys.length ∧ ∀ i h k, r (xs.get ⟨i, h⟩) (ys.get ⟨i, k⟩)

theorem Aligned.swap {r : Value → Value → Prop} {xs ys : List Value} (h : Aligned r xs ys) :
    Aligned (fun y x => r x y) ys xs :=
  ⟨h.1.symm, fun i one two => h.2 i two one⟩

theorem Aligned.imp {r s : Value → Value → Prop} {xs ys : List Value} (h : Aligned r xs ys)
    (weaker : ∀ x ∈ xs, ∀ y ∈ ys, r x y → s x y) : Aligned s xs ys :=
  ⟨h.1, fun i one two => weaker _ (List.get_mem ..) _ (List.get_mem ..) (h.2 i one two)⟩

theorem Aligned.trans {r s : Value → Value → Prop} {xs ys zs : List Value} (one : Aligned r xs ys)
    (two : Aligned s ys zs) : Aligned (fun x z => ∃ y, r x y ∧ s y z) xs zs :=
  ⟨one.1.trans two.1, fun i here there =>
    ⟨_, one.2 i here (one.1 ▸ here), two.2 i (one.1 ▸ here) there⟩⟩

theorem aligned_self_iff {r : Value → Value → Prop} {xs : List Value} :
    Aligned r xs xs ↔ ∀ x ∈ xs, r x x := by
  refine ⟨fun h x mem => ?_, fun h => ⟨rfl, fun i one _ => h _ (List.get_mem xs ⟨i, one⟩)⟩⟩
  obtain ⟨⟨i, one⟩, rfl⟩ := List.get_of_mem mem
  exact h.2 i one one

theorem aligned_iff {r : Value → Value → Bool} {f : List Value → List Value → Bool}
    (nil : f [] [] = true) (cons : ∀ x xs y ys, f (x :: xs) (y :: ys) = (r x y && f xs ys))
    (long : ∀ x xs, f (x :: xs) [] = false) (short : ∀ y ys, f [] (y :: ys) = false)
    (xs ys : List Value) : f xs ys = true ↔ Aligned (fun x y => r x y = true) xs ys := by
  rw [Aligned, ← List.forall₂_iff_get (R := fun x y => r x y = true)]
  induction xs generalizing ys with
  | nil => cases ys <;> simp [nil, short]
  | cons x xs ih => cases ys <;> simp [cons, long, ih]

theorem found_iff {r : Value → Value → Bool} {f : Entries Value → Entries Value → Bool}
    (nil : ∀ other, f [] other = true)
    (cons : ∀ key v rest other, f ((key, v) :: rest) other =
      ((match other.lookup key with
        | some w => r v w
        | none => false) && f rest other)) (entries other : Entries Value) :
    f entries other = true ↔
      ∀ key v, (key, v) ∈ entries → ∃ w, other.lookup key = some w ∧ r v w = true := by
  induction entries with
  | nil => simp [nil]
  | cons entry rest ih =>
    obtain ⟨k, v⟩ := entry
    rw [cons, Bool.and_eq_true, ih]
    cases here : other.lookup k with
    | none =>
      simp only [Bool.false_eq_true, false_and, false_iff]
      intro all
      obtain ⟨w, found, -⟩ := all k v List.mem_cons_self
      rw [here] at found
      cases found
    | some w =>
      constructor
      · rintro ⟨same, others⟩ key u mem
        rcases List.mem_cons.1 mem with equal | held
        · cases equal
          exact ⟨w, here, same⟩
        · exact others key u held
      · intro all
        refine ⟨?_, fun key u mem => all key u (List.mem_cons_of_mem _ mem)⟩
        obtain ⟨x, found, same⟩ := all k v List.mem_cons_self
        rw [here] at found
        cases found
        exact same

variable {items others : List Value} {entries more : Entries Value} {a b c : Value}
  {r : Value → Value → Bool}

/-- A comparison that goes through containers: lists place by place, and maps key by key. -/
structure Deep (r : Value → Value → Bool) : Prop where
  arrays : ∀ items others, r (array items) (array others) = true ↔
    Aligned (fun x y => r x y = true) items others
  maps : ∀ entries more, r (map entries) (map more) = true ↔
    Entries.Matches (fun v w => r v w = true) entries more
  apart : ∀ items entries, r (array items) (map entries) = false ∧ r (map entries) (array items) = false

theorem deep_identical : Deep identical where
  arrays := aligned_iff rfl (fun _ _ _ _ => rfl) (fun _ _ => rfl) (fun _ _ => rfl)
  maps entries more := by
    rw [identical, Bool.and_eq_true, beq_iff_eq,
      found_iff (fun _ => rfl) (fun _ _ _ _ => rfl) entries more]
    rfl
  apart _ _ := ⟨rfl, rfl⟩

theorem deep_loose : Deep loose where
  arrays := aligned_iff rfl (fun _ _ _ _ => rfl) (fun _ _ => rfl) (fun _ _ => rfl)
  maps entries more := by
    rw [loose, Bool.and_eq_true, beq_iff_eq,
      found_iff (fun _ => rfl) (fun _ _ _ _ => rfl) entries more]
    rfl
  apart _ _ := ⟨rfl, rfl⟩

theorem Deep.symm (deep : Deep r)
    (flat : ∀ a b : Value, a.kind ≠ .array → a.kind ≠ .map → r a b = r b a)
    (left : a.Keyed) (right : b.Keyed) (h : r a b = true) : r b a = true := by
  induction a using nested generalizing b with
  | flat a noArray noMap => exact (flat a b noArray noMap).symm.trans h
  | array items ih =>
    cases b with
    | array others =>
      rw [deep.arrays] at h ⊢
      exact h.swap.imp fun y second x first same => ih x first (left.item first) (right.item second) same
    | map entries =>
      rw [(deep.apart items entries).1] at h
      cases h
    | _ =>
      refine (flat _ _ ?_ ?_).trans h <;> nofun
  | map entries ih =>
    cases b with
    | map more =>
      rw [deep.maps] at h ⊢
      exact (h.swap left.distinct right.distinct).imp fun key w v second first same =>
        ih key v first (left.entry first) (right.entry second) same
    | array items =>
      rw [(deep.apart items entries).2] at h
      cases h
    | _ =>
      refine (flat _ _ ?_ ?_).trans h <;> nofun

theorem Deep.self_iff (deep : Deep r)
    (flat : ∀ v : Value, v.kind ≠ .array → v.kind ≠ .map → (r v v = true ↔ v.WithoutNaN))
    (keyed : a.Keyed) : r a a = true ↔ a.WithoutNaN := by
  induction a using nested with
  | flat a noArray noMap => exact flat a noArray noMap
  | array items ih =>
    rw [deep.arrays, aligned_self_iff, withoutNaN_array]
    exact forall₂_congr fun x mem => ih x mem (keyed.item mem)
  | map entries ih =>
    rw [deep.maps, Entries.matches_self_iff keyed.distinct, withoutNaN_map]
    exact forall₃_congr fun key v mem => ih key v mem (keyed.entry mem)

/-! ## Strict equality -/

theorem kind_of_identical (h : a.identical b = true) : a.kind = b.kind := by
  cases a <;> cases b <;> first | rfl | cases h

theorem identical_flat_comm (noArray : a.kind ≠ .array) (noMap : a.kind ≠ .map) :
    a.identical b = b.identical a := by
  cases a with
  | float x =>
    cases b with
    | float y => exact Doubles.beq_comm x y
    | _ => rfl
  | array => exact absurd rfl noArray
  | map => exact absurd rfl noMap
  | null => cases b <;> rfl
  | bool | int | string | record =>
    cases b <;> simp only [identical, BEq.comm]

theorem identical_flat_self_iff (noArray : a.kind ≠ .array) (noMap : a.kind ≠ .map) :
    a.identical a = true ↔ a.WithoutNaN := by
  cases a with
  | float x => exact Doubles.beq_self_iff.trans withoutNaN_float.symm
  | array => exact absurd rfl noArray
  | map => exact absurd rfl noMap
  | _ => simp [identical, WithoutNaN, parts]

theorem identical_trans (one : a.identical b = true) (two : b.identical c = true) :
    a.identical c = true := by
  induction a using nested generalizing b c with
  | flat a noArray noMap =>
    have kinds := kind_of_identical one
    have further := kind_of_identical two
    cases a <;> cases b <;> cases kinds <;> cases c <;> cases further
    case flat.float.float.refl.float.refl x y z => exact Doubles.beq_trans one two
    case flat.array.array.refl.array.refl => exact absurd rfl noArray
    case flat.map.map.refl.map.refl => exact absurd rfl noMap
    all_goals simp_all [identical]
  | array items ih =>
    cases b with
    | array others =>
      cases c with
      | array last =>
        rw [deep_identical.arrays] at one two ⊢
        exact (one.trans two).imp fun x first z _ ⟨_, same, again⟩ => ih x first same again
      | _ => cases two
    | _ => cases one
  | map entries ih =>
    cases b with
    | map more =>
      cases c with
      | map last =>
        rw [deep_identical.maps] at one two ⊢
        exact (one.trans two).imp fun key v z first _ ⟨_, same, again⟩ => ih key v first same again
      | _ => cases two
    | _ => cases one

theorem identical_perm (distinct : Entries.Distinct entries) (same : entries.Perm more) (v : Value) :
    (map entries).identical v = (map more).identical v ∧
      v.identical (map entries) = v.identical (map more) := by
  cases v with
  | map others =>
    constructor
    · rw [Bool.eq_iff_iff, deep_identical.maps, deep_identical.maps, Entries.Matches, Entries.Matches]
      simp only [same.length_eq, same.mem_iff]
    · rw [Bool.eq_iff_iff, deep_identical.maps, deep_identical.maps, Entries.Matches, Entries.Matches]
      simp only [same.length_eq, distinct.lookup_perm same]
  | _ => exact ⟨rfl, rfl⟩

/-! ## Loose equality -/

theorem looseTexts_comm (s t : String) : looseTexts s t = looseTexts t s := by
  unfold looseTexts
  cases readNumber? s <;> cases readNumber? t
  case some.some x y => exact Doubles.beq_comm _ _
  all_goals exact BEq.comm

theorem looseTexts_self (s : String) : looseTexts s s = true := by
  unfold looseTexts
  cases read : readNumber? s with
  | none => exact beq_self_eq_true s
  | some n => exact Doubles.beq_self_iff.2 (Doubles.isNaN_of_readNumber? read)

theorem loose_truth (h : a.kind = .null ∨ a.kind = .bool) :
    a.loose b = sameTruth a b ∧ b.loose a = sameTruth b a := by
  cases a with
  | null | bool => cases b <;> exact ⟨rfl, rfl⟩
  | _ => exact absurd h (by simp [kind])

theorem loose_flat_comm (noArray : a.kind ≠ .array) (noMap : a.kind ≠ .map) :
    a.loose b = b.loose a := by
  have truths : ∀ v w : Value, v.kind = .null ∨ v.kind = .bool → v.loose w = w.loose v := fun v w h => by
    rw [(loose_truth h).1, (loose_truth h).2, sameTruth, BEq.comm, sameTruth]
  cases a with
  | null => exact truths _ _ (.inl rfl)
  | bool => exact truths _ _ (.inr rfl)
  | array => exact absurd rfl noArray
  | map => exact absurd rfl noMap
  | int n =>
    cases b with
    | null => exact (truths _ _ (.inl rfl)).symm
    | bool => exact (truths _ _ (.inr rfl)).symm
    | int m => exact BEq.comm
    | float y => exact Doubles.beq_comm ..
    | _ => rfl
  | float x =>
    cases b with
    | null => exact (truths _ _ (.inl rfl)).symm
    | bool => exact (truths _ _ (.inr rfl)).symm
    | int m => exact Doubles.beq_comm ..
    | float y => exact Doubles.beq_comm ..
    | _ => rfl
  | string s =>
    cases b with
    | null => exact (truths _ _ (.inl rfl)).symm
    | bool => exact (truths _ _ (.inr rfl)).symm
    | string t => exact looseTexts_comm s t
    | _ => rfl
  | record i =>
    cases b with
    | null => exact (truths _ _ (.inl rfl)).symm
    | bool => exact (truths _ _ (.inr rfl)).symm
    | record j => exact BEq.comm
    | _ => rfl

theorem loose_flat_self_iff (noArray : a.kind ≠ .array) (noMap : a.kind ≠ .map) :
    a.loose a = true ↔ a.WithoutNaN := by
  cases a with
  | float x => exact Doubles.beq_self_iff.trans withoutNaN_float.symm
  | string s => simp [loose, looseTexts_self, WithoutNaN, parts]
  | array => exact absurd rfl noArray
  | map => exact absurd rfl noMap
  | _ => simp [loose, sameTruth, WithoutNaN, parts]

theorem loose_of_identical (h : a.identical b = true) : a.loose b = true := by
  induction a using nested generalizing b with
  | flat a noArray noMap =>
    have kinds := kind_of_identical h
    cases a <;> cases b <;> cases kinds
    case flat.string.string.refl s t =>
      cases eq_of_beq h
      exact looseTexts_self s
    case flat.bool.bool.refl p q =>
      cases eq_of_beq h
      exact beq_self_eq_true _
    case flat.array.array.refl => exact absurd rfl noArray
    case flat.map.map.refl => exact absurd rfl noMap
    all_goals exact h
  | array items ih =>
    cases b with
    | array others =>
      rw [deep_identical.arrays] at h
      rw [deep_loose.arrays]
      exact h.imp fun x first _ _ same => ih x first same
    | _ => cases h
  | map entries ih =>
    cases b with
    | map more =>
      rw [deep_identical.maps] at h
      rw [deep_loose.maps]
      exact h.imp fun key v _ first _ same => ih key v first same
    | _ => cases h

/-- Strict equality is an equivalence of the values without NaN that takes maps in any order and records
by their identity, and loose equality a coarser relation, symmetric and on the same values reflexive. -/
theorem equality_laws :
    (∀ a b : Value, a.Keyed → b.Keyed → a.identical b = b.identical a) ∧
    (∀ a b c : Value, a.identical b = true → b.identical c = true → a.identical c = true) ∧
    (∀ a : Value, a.Keyed → (a.identical a = true ↔ a.WithoutNaN)) ∧
    (∀ (entries others : Entries Value) (v : Value), Entries.Distinct entries → entries.Perm others →
      (map entries).identical v = (map others).identical v ∧
        v.identical (map entries) = v.identical (map others)) ∧
    (∀ i type names fields j type' names' fields',
      (record i type names fields).identical (record j type' names' fields') = true ↔ i = j) ∧
    (∀ a b : Value, a.Keyed → b.Keyed → a.loose b = b.loose a) ∧
    (∀ a : Value, a.Keyed → (a.loose a = true ↔ a.WithoutNaN)) ∧
    ∀ a b : Value, a.identical b = true → a.loose b = true := by
  have strict {a b : Value} := deep_identical.symm (a := a) (b := b) fun _ _ => identical_flat_comm
  have loosely {a b : Value} := deep_loose.symm (a := a) (b := b) fun _ _ => loose_flat_comm
  refine ⟨fun a b left right => ?_, fun _ _ _ => identical_trans,
    fun _ => deep_identical.self_iff fun _ => identical_flat_self_iff,
    fun _ _ v distinct same => identical_perm distinct same v, fun i _ _ _ j _ _ _ => ?_,
    fun a b left right => ?_, fun _ => deep_loose.self_iff fun _ => loose_flat_self_iff,
    fun _ _ => loose_of_identical⟩
  · exact Bool.eq_iff_iff.2 ⟨strict left right, strict right left⟩
  · exact beq_iff_eq
  · exact Bool.eq_iff_iff.2 ⟨loosely left right, loosely right left⟩

theorem equality_of_reordered_map :
    let entries : Entries Value := [("x", .float 1.5), ("y", .array [.null, .record 3 "User" [] []])]
    (map entries).Keyed ∧ (map entries.reverse).Keyed ∧ (map entries).WithoutNaN ∧
      (map entries).identical (map entries.reverse) = true ∧
      (map entries.reverse).identical (map entries) = true ∧
      (map entries).loose (map entries.reverse) = true ∧
      (map entries.reverse).loose (map entries) = true := by
  intro entries
  obtain ⟨symm, -, self, reordered, -, looseSymm, -, implied⟩ := equality_laws
  have keyed : (map entries).Keyed ∧ (map entries.reverse).Keyed := by
    constructor <;> simp [Keyed, parts, entryParts, itemParts, entries, Entries.Distinct, Entries.keys]
  have clean : (map entries).WithoutNaN := by
    intro x inside
    simp only [parts, entryParts, itemParts, entries, List.mem_cons, List.mem_append, reduceCtorEq,
      List.not_mem_nil, or_false, false_or, float.injEq] at inside
    subst inside
    rfl
  have same : (map entries).identical (map entries.reverse) = true := by
    rw [← (reordered entries _ _ keyed.1.distinct (List.reverse_perm entries).symm).2]
    exact (self _ keyed.1).2 clean
  have alike := implied _ _ same
  exact ⟨keyed.1, keyed.2, clean, same, symm _ _ keyed.1 keyed.2 ▸ same, alike,
    looseSymm _ _ keyed.1 keyed.2 ▸ alike⟩

end Value

end Stencil
