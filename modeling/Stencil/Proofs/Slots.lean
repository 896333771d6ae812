import Mathlib
import Stencil.Entries
import Stencil.Slot

/-!
# Slots at once and one by one

The slots of a text are filled in one pass for each. If every mark of a slot stands apart, this comes to
one pass over the text for all of them, which reads nothing that it inserts (`fill_eq_substitute`).
Otherwise a mark in the text of a slot is filled too (`fill_nested`).
-/

namespace Stencil.Slot
open Text

structure Marks where
  find? : List Char → Option (List Char × List Char)
  taken : ∀ {cs content rest}, find? cs = some (content, rest) →
    ∃ mark, mark ≠ [] ∧ cs = mark ++ rest

namespace Marks

variable {m m' : Marks} {c : Char} {cs content rest : List Char}

theorem shorter (h : m.find? cs = some (content, rest)) : rest.length < cs.length := by
  obtain ⟨mark, some, rfl⟩ := m.taken h
  have positive := List.length_pos_iff.2 some
  simp only [List.length_append]
  omega

def insert (m : Marks) (cs : List Char) : List Char :=
  match cs with
  | [] => []
  | c :: cs =>
    match _h : m.find? (c :: cs) with
    | some (content, rest) => content ++ m.insert rest
    | none => c :: m.insert cs
termination_by cs.length
decreasing_by
  · exact shorter ‹_›
  · simp

def none : Marks :=
  ⟨fun _ => .none, nofun⟩

def or (m m' : Marks) : Marks where
  find? cs := (m.find? cs).or (m'.find? cs)
  taken h := by
    rcases Option.or_eq_some_iff.1 h with h | ⟨-, h⟩
    · exact m.taken h
    · exact m'.taken h

def named (slot : String × String) : Marks where
  find? cs := ((namedMarker slot.1).isPrefixOf? cs).map (slot.2.toList, ·)
  taken h := by
    obtain ⟨rest, start, same⟩ := Option.map_eq_some_iff.1 h
    cases same
    exact ⟨_, List.cons_ne_nil _ _, isPrefixOf?_eq_some_iff.1 start⟩

def bare (content : List Char) : Marks where
  find? cs := (marker.isPrefixOf? cs).bind fun rest =>
    if goesOn rest then .none else some (content, rest)
  taken h := by
    obtain ⟨rest, start, same⟩ := Option.bind_eq_some_iff.1 h
    split at same
    · cases same
    · cases same
      exact ⟨marker, List.cons_ne_nil _ _, isPrefixOf?_eq_some_iff.1 start⟩

def all (slots : List (String × String)) : Marks :=
  slots.foldl (fun m slot => m.or (named slot)) none

theorem insert_nil : m.insert [] = [] := by
  rw [insert]

theorem insert_of_some (h : m.find? cs = some (content, rest)) :
    m.insert cs = content ++ m.insert rest := by
  cases cs with
  | nil => exact absurd (shorter h) (Nat.not_lt_zero _)
  | cons c cs =>
    rw [insert]
    split
    · next found =>
      cases h.symm.trans found
      rfl
    · next absent =>
      rw [h] at absent
      cases absent

theorem insert_of_none (h : m.find? (c :: cs) = .none) : m.insert (c :: cs) = c :: m.insert cs := by
  rw [insert]
  split
  · next found =>
    rw [h] at found
    cases found
  · rfl

theorem insert_none : none.insert cs = cs := by
  induction cs with
  | nil => rw [insert_nil]
  | cons c cs ih => rw [insert_of_none rfl, ih]

theorem insert_append {front : List Char}
    (absent : ∀ u, u ≠ [] → u <:+ front → m.find? (u ++ rest) = .none) :
    m.insert (front ++ rest) = front ++ m.insert rest := by
  induction front with
  | nil => rfl
  | cons c front ih =>
    have here := absent (c :: front) (List.cons_ne_nil _ _) List.suffix_rfl
    have later := ih fun u some ending => absent u some (ending.trans (List.suffix_cons c front))
    rw [List.cons_append] at here ⊢
    rw [insert_of_none here, later, List.cons_append]

theorem exists_of_insert {q out : List Char}
    (absent : ∀ v w after, w ≠ [] → q = v ++ w → cs = v ++ after → m.find? after = .none)
    (inserted : m.insert cs = q ++ out) : ∃ after, cs = q ++ after := by
  induction q generalizing cs with
  | nil => exact ⟨cs, rfl⟩
  | cons c q ih =>
    have here := absent [] (c :: q) cs (List.cons_ne_nil _ _) rfl rfl
    cases cs with
    | nil =>
      rw [insert_nil] at inserted
      cases inserted
    | cons d cs =>
      rw [insert_of_none here, List.cons_append] at inserted
      obtain ⟨rfl, tail⟩ := List.cons.inj inserted
      have later (v w after : List Char) (some : w ≠ []) (inside : q = v ++ w)
          (whole : cs = v ++ after) : m.find? after = .none :=
        absent (d :: v) w after some (by rw [inside, List.cons_append])
          (by rw [whole, List.cons_append])
      obtain ⟨after, rfl⟩ := ih later tail
      exact ⟨after, rfl⟩

/-- The second marks are where they were, and none is in what is inserted for the first. -/
structure Apart (m m' : Marks) (cs : List Char) : Prop where
  kept : ∀ {ds}, ds <:+ cs → m.find? ds = .none → m'.find? (m.insert ds) =
    (m'.find? ds).map fun (content, rest) => (content, m.insert rest)
  fresh : ∀ {ds content rest}, ds <:+ cs → m.find? ds = some (content, rest) →
    ∀ u, u ≠ [] → u <:+ content → m'.find? (u ++ m.insert rest) = .none

theorem Apart.suffix (apart : Apart m m' cs) (ending : rest <:+ cs) : Apart m m' rest :=
  ⟨fun e => apart.kept (e.trans ending), fun e => apart.fresh (e.trans ending)⟩

theorem insert_insert {cs : List Char} (apart : Apart m m' cs) : m'.insert (m.insert cs) = (m.or m').insert cs := by
  have next {rest : List Char} (ending : rest <:+ cs) (fewer : rest.length < cs.length) :
      m'.insert (m.insert rest) = (m.or m').insert rest :=
    insert_insert (apart.suffix ending)
  have both : (m.or m').find? cs = (m.find? cs).or (m'.find? cs) := rfl
  cases found : m.find? cs with
  | some parts =>
    obtain ⟨content, rest⟩ := parts
    obtain ⟨mark, -, whole⟩ := m.taken found
    rw [found, Option.some_or] at both
    rw [insert_of_some found, insert_of_some both,
      insert_append (apart.fresh List.suffix_rfl found), next ⟨mark, whole.symm⟩ (shorter found)]
  | none =>
    have kept := apart.kept List.suffix_rfl found
    rw [found, Option.none_or] at both
    cases other : m'.find? cs with
    | some parts =>
      obtain ⟨content, rest⟩ := parts
      obtain ⟨mark, -, whole⟩ := m'.taken other
      rw [other] at kept both
      rw [insert_of_some kept, insert_of_some both, next ⟨mark, whole.symm⟩ (shorter other)]
    | none =>
      rw [other] at kept both
      cases cs with
      | nil => simp only [insert_nil]
      | cons c cs =>
        rw [insert_of_none found] at kept ⊢
        rw [insert_of_none kept, insert_of_none both,
          next (List.suffix_cons c cs) (Nat.lt_succ_self _)]
termination_by cs.length
decreasing_by exact fewer

theorem all_concat (slots : List (String × String)) (slot : String × String) :
    all (slots ++ [slot]) = (all slots).or (named slot) := by
  rw [all, List.foldl_append]
  rfl

theorem exists_of_find?_all {slots : List (String × String)}
    (h : (all slots).find? cs = some (content, rest)) :
    ∃ slot ∈ slots, slot.2.toList = content ∧ cs = namedMarker slot.1 ++ rest := by
  induction slots using List.reverseRecOn with
  | nil => cases h
  | append_singleton slots slot ih =>
    rw [all_concat] at h
    rcases Option.or_eq_some_iff.1 h with h | ⟨-, h⟩
    · obtain ⟨other, mem, found⟩ := ih h
      exact ⟨other, List.mem_append_left _ mem, found⟩
    · obtain ⟨rest, start, same⟩ := Option.map_eq_some_iff.1 h
      cases same
      exact ⟨slot, by simp, rfl, isPrefixOf?_eq_some_iff.1 start⟩

/-! ## One pass -/

theorem replace_eq_insert (slot : String × String) (cs : List Char) :
    replace (namedMarker slot.1) slot.2.toList cs = (named slot).insert cs := by
  cases cs with
  | nil => rw [replace, insert_nil]
  | cons c cs =>
    have here : (named slot).find? (c :: cs) =
        ((namedMarker slot.1).isPrefixOf? (c :: cs)).map (slot.2.toList, ·) := rfl
    rw [replace]
    split
    · next rest start =>
      have found : (named slot).find? (c :: cs) = some (slot.2.toList, rest) := by
        rw [here, start, Option.map_some]
      have fewer := shorter found
      have some : namedMarker slot.1 ≠ [] := List.cons_ne_nil _ _
      rw [dif_neg some, insert_of_some found, replace_eq_insert slot rest]
    · next absent =>
      rw [absent] at here
      rw [insert_of_none here, replace_eq_insert slot cs]
termination_by cs.length
decreasing_by
  · exact fewer
  · exact Nat.lt_succ_self _

theorem find?_bare_inside {content u : List Char} (some : u ≠ []) (ending : u <:+ marker.tail)
    (rest : List Char) : (bare content).find? (u ++ rest) = .none := by
  cases u with
  | nil => exact absurd rfl some
  | cons c u =>
    have inside : c ∈ marker.tail := ending.subset (List.mem_cons_self ..)
    have other : '@' ≠ c := by
      rintro rfl
      exact absurd inside (by decide)
    have absent : marker.isPrefixOf? (c :: (u ++ rest)) = .none := by
      rw [marker, isPrefixOf?_cons_cons, if_neg (by simpa using other)]
    show (marker.isPrefixOf? (c :: (u ++ rest))).bind _ = .none
    rw [absent, Option.bind_none]

theorem replaceBare_eq_insert (content cs : List Char) :
    replaceBare content cs = (bare content).insert cs := by
  cases cs with
  | nil => rw [replaceBare, insert_nil]
  | cons c cs =>
    have here : (bare content).find? (c :: cs) = (marker.isPrefixOf? (c :: cs)).bind fun rest =>
        if goesOn rest then .none else some (content, rest) := rfl
    rw [replaceBare]
    split
    · next rest start =>
      have whole := isPrefixOf?_eq_some_iff.1 start
      have fewer : rest.length < (c :: cs).length := by
        rw [length_of_isPrefixOf? start]
        exact Nat.lt_add_of_pos_left (Nat.succ_pos _)
      rw [start, Option.bind_some, whole] at here
      rw [replaceBare_eq_insert content rest, whole]
      split
      · next more =>
        rw [if_pos more] at here
        refine (insert_append fun u some ending => ?_).symm
        rcases List.suffix_cons_iff.1 ending with rfl | inside
        · exact here
        · exact find?_bare_inside some inside rest
      · next alone =>
        rw [if_neg alone] at here
        exact (insert_of_some here).symm
    · next absent =>
      rw [absent] at here
      rw [insert_of_none here, replaceBare_eq_insert content cs]
termination_by cs.length
decreasing_by
  · exact fewer
  · exact Nat.lt_succ_self _

end Marks

/-! ## Marks that stand apart -/

/-- No mark begins in the text, even if more text follows. -/
def Inert (cs : List Char) : Prop :=
  ∀ u ∈ cs.tails, u ≠ [] → ¬u <+: marker ∧ ¬marker <+: u

def Begins (slots : List (String × String)) (cs : List Char) : Prop :=
  cs ≠ [] ∧ ∃ slot ∈ slots, cs <+: namedMarker slot.1 ∧ cs ≠ namedMarker slot.1

/-- Where the mark of a slot stands, no mark is begun before it, and none begins in the text of the
slot. -/
def Separate (slots : List (String × String)) (cs : List Char) : Prop :=
  ∀ slot ∈ slots, ∀ before ∈ cs.inits, before ++ namedMarker slot.1 <+: cs →
    Inert slot.2.toList ∧ ∀ u ∈ before.tails, ¬Begins slots u

instance (cs : List Char) : Decidable (Inert cs) :=
  inferInstanceAs (Decidable (∀ u ∈ cs.tails, u ≠ [] → ¬u <+: marker ∧ ¬marker <+: u))

instance (slots : List (String × String)) (cs : List Char) : Decidable (Begins slots cs) :=
  inferInstanceAs
    (Decidable (cs ≠ [] ∧ ∃ slot ∈ slots, cs <+: namedMarker slot.1 ∧ cs ≠ namedMarker slot.1))

instance (slots : List (String × String)) (cs : List Char) : Decidable (Separate slots cs) :=
  inferInstanceAs (Decidable (∀ slot ∈ slots, ∀ before ∈ cs.inits,
    before ++ namedMarker slot.1 <+: cs →
      Inert slot.2.toList ∧ ∀ u ∈ before.tails, ¬Begins slots u))

variable {slots others : List (String × String)} {cs ds text before p : List Char}

theorem Inert.isPrefixOf?_eq_none (inert : Inert cs) {u : List Char} (some : u ≠ [])
    (ending : u <:+ cs) (rest : List Char) : marker.isPrefixOf? (u ++ rest) = none := by
  obtain ⟨short, long⟩ := inert u ((List.mem_tails _ _).2 ending) some
  rw [Option.eq_none_iff_forall_ne_some]
  intro after start
  have whole : marker <+: u ++ rest := ⟨after, (isPrefixOf?_eq_some_iff.1 start).symm⟩
  rcases List.prefix_or_prefix_of_prefix (List.prefix_append u rest) whole with h | h
  · exact short h
  · exact long h

def Begun (slots : List (String × String)) (p : List Char) : Prop :=
  ∀ v w, v ≠ [] → w ≠ [] → p = v ++ w → Begins slots v

theorem begun_namedMarker {slot : String × String} (mem : slot ∈ slots) :
    Begun slots (namedMarker slot.1) := by
  intro v w some more whole
  refine ⟨some, slot, mem, ⟨w, whole.symm⟩, ?_⟩
  rintro rfl
  exact more (List.self_eq_append_right.1 whole)

theorem begun_marker {slot : String × String} (mem : slot ∈ slots) : Begun slots marker := by
  intro v w some more whole
  have longer : namedMarker slot.1 = v ++ (w ++ ("('".toList ++ slot.1.toList ++ "')".toList)) := by
    rw [← List.append_assoc, ← whole]
    rfl
  refine begun_namedMarker mem v _ some ?_ longer
  simp [more]

theorem isPrefixOf?_namedMarker_eq_none (absent : marker.isPrefixOf? cs = none) (name : String) :
    (namedMarker name).isPrefixOf? cs = none := by
  rw [Option.eq_none_iff_forall_ne_some]
  intro rest start
  have whole : cs = marker ++ ("('".toList ++ name.toList ++ "')".toList ++ rest) := by
    rw [isPrefixOf?_eq_some_iff.1 start, namedMarker]
    simp only [List.append_assoc]
  rw [isPrefixOf?_eq_some_iff.2 whole] at absent
  cases absent

section
variable (apart : Separate slots text) (known : others ⊆ slots)
include apart known

theorem Separate.of_found {content rest : List Char} (whole : text = before ++ cs)
    (found : (Marks.all others).find? cs = some (content, rest)) :
    Inert content ∧ ∀ u, u <:+ before → ¬Begins slots u := by
  obtain ⟨slot, mem, rfl, start⟩ := Marks.exists_of_find?_all found
  have here : before ++ namedMarker slot.1 <+: text := by
    rw [whole, start, ← List.append_assoc]
    exact List.prefix_append _ _
  have inside : before ∈ text.inits := by
    rw [List.mem_inits, whole]
    exact List.prefix_append _ _
  obtain ⟨inert, unbegun⟩ := apart slot (known mem) before inside here
  exact ⟨inert, fun u ending => unbegun u ((List.mem_tails _ _).2 ending)⟩

theorem Separate.find?_eq_none {u : List Char} (begins : Begins slots u) (ending : u <:+ before)
    (whole : text = before ++ cs) : (Marks.all others).find? cs = none := by
  rw [Option.eq_none_iff_forall_ne_some]
  rintro ⟨content, rest⟩ found
  exact (apart.of_found known whole found).2 u ending begins

theorem Separate.isPrefixOf?_insert {p : List Char} (begun : Begun slots p)
    (whole : text = before ++ cs) (absent : (Marks.all others).find? cs = none) :
    p.isPrefixOf? ((Marks.all others).insert cs) =
      (p.isPrefixOf? cs).map (Marks.all others).insert := by
  have inside (v w after : List Char) (some : w ≠ []) (parts : p = v ++ w)
      (same : cs = v ++ after) : (Marks.all others).find? after = none := by
    by_cases first : v = []
    · rw [first, List.nil_append] at same
      rw [← same]
      exact absent
    · refine apart.find?_eq_none known (begun v w first some parts) (List.suffix_append before v) ?_
      rw [whole, same, List.append_assoc]
  cases start : p.isPrefixOf? cs with
  | some rest =>
    obtain rfl := isPrefixOf?_eq_some_iff.1 start
    rw [Option.map_some, isPrefixOf?_eq_some_iff]
    refine Marks.insert_append fun u some ⟨front, parts⟩ => ?_
    exact inside front u (u ++ rest) some parts.symm (by rw [← parts, List.append_assoc])
  | none =>
    rw [Option.map_none, Option.eq_none_iff_forall_ne_some]
    intro out found
    obtain ⟨rest, same⟩ := Marks.exists_of_insert inside (isPrefixOf?_eq_some_iff.1 found)
    rw [isPrefixOf?_eq_some_iff.2 same] at start
    cases start

theorem Separate.apart_named {slot : String × String} (mem : slot ∈ slots) :
    Marks.Apart (Marks.all others) (Marks.named slot) text where
  kept := by
    rintro ds ⟨before, whole⟩ absent
    have same := apart.isPrefixOf?_insert known (begun_namedMarker mem) whole.symm absent
    show ((namedMarker slot.1).isPrefixOf? _).map _ =
      (((namedMarker slot.1).isPrefixOf? ds).map _).map _
    rw [same, Option.map_map, Option.map_map]
    rfl
  fresh := by
    rintro ds content rest ⟨before, whole⟩ found u some ending
    have inert := (apart.of_found known whole.symm found).1
    have absent := inert.isPrefixOf?_eq_none some ending ((Marks.all others).insert rest)
    show ((namedMarker slot.1).isPrefixOf? _).map _ = none
    rw [isPrefixOf?_namedMarker_eq_none absent, Option.map_none]

theorem Separate.goesOn_insert {rest : List Char} {slot : String × String} (mem : slot ∈ slots)
    (whole : text = before ++ (marker ++ rest)) :
    goesOn ((Marks.all others).insert rest) = goesOn rest := by
  have begins : Begins slots marker :=
    begun_namedMarker mem marker _ (List.cons_ne_nil _ _) (by simp) (List.append_assoc ..)
  have absent : (Marks.all others).find? rest = none := by
    refine apart.find?_eq_none known begins (List.suffix_append before marker) ?_
    rw [whole, List.append_assoc]
  cases rest with
  | nil => rw [Marks.insert_nil]
  | cons c rest =>
    rw [Marks.insert_of_none absent]
    rfl

theorem Separate.apart_bare {slot : String × String} (mem : slot ∈ slots) (content : List Char) :
    Marks.Apart (Marks.all others) (Marks.bare content) text where
  kept := by
    rintro ds ⟨before, whole⟩ absent
    have same := apart.isPrefixOf?_insert known (begun_marker mem) whole.symm absent
    show (marker.isPrefixOf? _).bind _ = ((marker.isPrefixOf? ds).bind _).map _
    rw [same]
    cases start : marker.isPrefixOf? ds with
    | none => rfl
    | some rest =>
      rw [isPrefixOf?_eq_some_iff.1 start] at whole
      simp only [Option.map_some, Option.bind_some, apart.goesOn_insert known mem whole.symm]
      split <;> rfl
  fresh := by
    rintro ds inserted rest ⟨before, whole⟩ found u some ending
    have inert := (apart.of_found known whole.symm found).1
    have absent := inert.isPrefixOf?_eq_none some ending ((Marks.all others).insert rest)
    show (marker.isPrefixOf? _).bind _ = none
    rw [absent, Option.bind_none]

end

/-! ## All slots at once -/

/-- Read the text once from left to right. Every mark of a slot is filled with the text of the slot,
and every mark that stands alone with the text of the default slot, if there is one. -/
def substitute (slots : List (String × String)) (cs : List Char) : List Char :=
  match slots.lookup defaultName with
  | some content => ((Marks.all slots).or (.bare content.toList)).insert cs
  | none => (Marks.all slots).insert cs

theorem foldl_replace (apart : Separate slots text) (known : others ⊆ slots) :
    others.foldl (fun text slot => replace (namedMarker slot.1) slot.2.toList text) text =
      (Marks.all others).insert text := by
  induction others using List.reverseRecOn with
  | nil => exact Marks.insert_none.symm
  | append_singleton others slot ih =>
    have fewer : others ⊆ slots := fun _ inside => known (List.mem_append_left _ inside)
    have mem : slot ∈ slots := known (List.mem_append_right _ (List.mem_singleton_self _))
    rw [List.foldl_append, ih fewer, List.foldl_cons, List.foldl_nil, Marks.replace_eq_insert,
      Marks.insert_insert (apart.apart_named fewer mem), Marks.all_concat]

/-- If the marks of the slots stand apart, the passes of filling do what one pass does. -/
theorem fill_eq_substitute {s : String} (apart : Separate slots s.toList) :
    fill slots s = String.ofList (substitute slots s.toList) := by
  have named := foldl_replace apart (List.Subset.refl slots)
  unfold fill substitute
  cases default : slots.lookup defaultName with
  | none => exact congrArg String.ofList named
  | some content =>
    have mem : (defaultName, content) ∈ slots := by
      obtain ⟨before, after, rfl, -⟩ := List.lookup_eq_some_iff.1 default
      simp
    have both := Marks.insert_insert (apart.apart_bare (List.Subset.refl slots) mem content.toList)
    rw [← Marks.replaceBare_eq_insert, ← named] at both
    exact congrArg String.ofList both

def page : List (String × String) :=
  [("default", "<p>me@slots.org</p>"), ("title", "It's (so) @ home")]

theorem fill_eq_substitute_page :
    Separate page "<h1>@slot('title')</h1> @slot @slot('other') @slots".toList ∧
      fill page "<h1>@slot('title')</h1> @slot @slot('other') @slots" =
        "<h1>It's (so) @ home</h1> <p>me@slots.org</p> @slot('other') @slots" := by
  have apart : Separate page "<h1>@slot('title')</h1> @slot @slot('other') @slots".toList := by
    decide +kernel
  have filled := fill_eq_substitute apart
  have text : String.ofList (substitute page
      "<h1>@slot('title')</h1> @slot @slot('other') @slots".toList) =
        "<h1>It's (so) @ home</h1> <p>me@slots.org</p> @slot('other') @slots" := by
    decide +kernel
  exact ⟨apart, filled.trans text⟩

/-! ## Marks in the texts of slots -/

theorem replace_namedMarker (name content : String) :
    replace (namedMarker name) content.toList (namedMarker name) = content.toList := by
  have found : (Marks.named (name, content)).find? (namedMarker name) =
      some (content.toList, []) := by
    have start : (namedMarker name).isPrefixOf? (namedMarker name) = some [] := by
      rw [isPrefixOf?_eq_some_iff, List.append_nil]
    show ((namedMarker name).isPrefixOf? _).map _ = _
    rw [start, Option.map_some]
  rw [Marks.replace_eq_insert (name, content), Marks.insert_of_some found, Marks.insert_nil,
    List.append_nil]

theorem fill_nested {first second : String} (content : String) (named : first ≠ defaultName)
    (named' : second ≠ defaultName) :
    fill [(first, String.ofList (namedMarker second)), (second, content)]
      (String.ofList (namedMarker first)) = content := by
  have inner := replace_namedMarker first (String.ofList (namedMarker second))
  rw [String.toList_ofList] at inner
  have absent : List.lookup defaultName
      [(first, String.ofList (namedMarker second)), (second, content)] = none := by
    rw [Entries.lookup_entry, if_neg named.symm, Entries.lookup_entry, if_neg named'.symm]
    rfl
  unfold fill
  rw [absent]
  simp only [List.foldl_cons, List.foldl_nil, String.toList_ofList, inner, replace_namedMarker,
    String.ofList_toList]

theorem fill_ne_substitute :
    fill [("a", "@slot('b')"), ("b", "X")] "@slot('a')" = "X" ∧
      fill [("a", "@slot('b')"), ("b", "X")] "@slot('a')" ≠
        String.ofList (substitute [("a", "@slot('b')"), ("b", "X")] "@slot('a')".toList) := by
  have filled : fill [("a", "@slot('b')"), ("b", "X")] "@slot('a')" = "X" := by cbv
  have once : String.ofList (substitute [("a", "@slot('b')"), ("b", "X")] "@slot('a')".toList) =
      "@slot('b')" := by
    cbv
  rw [filled, once]
  decide

end Stencil.Slot
