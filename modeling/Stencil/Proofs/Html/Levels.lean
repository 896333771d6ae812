import Stencil.Proofs.Html.Dumps

namespace Stencil

/-! ## Places in a value -/

namespace Value

variable {v w x : Value} {n : Nat}

theorem holds_succ_iff : v.Holds (n + 1) x ↔
    ∃ entries key w, v.members? = some entries ∧ (key, w) ∈ entries ∧ w.Holds n x := by
  constructor
  · intro held
    induction n generalizing x with
    | zero =>
      obtain _ | ⟨outermost, shown, mem⟩ := held
      cases outermost
      exact ⟨_, _, x, shown, mem, .self⟩
    | succ n ih =>
      obtain _ | ⟨above, shown, mem⟩ := held
      obtain ⟨entries, key, w, first, inside, below⟩ := ih above
      exact ⟨entries, key, w, first, inside, .member below shown mem⟩
  · rintro ⟨entries, key, w, first, inside, held⟩
    induction held with
    | self => exact .member .self first inside
    | member _ shown mem ih => exact .member ih shown mem

theorem holds_zero_iff : v.Holds 0 x ↔ x = v := by
  constructor
  · rintro ⟨⟩
    rfl
  · rintro rfl
    exact .self

/-- A container with one place in it left open. -/
inductive Frame where
  | item (before after : List Value)
  | entry (before : Entries Value) (key : String) (after : Entries Value)
  | field (identity : Nat) (typeName : String) (names : List String) (before : Entries Value)
      (name : String) (after : Entries Value)

def Frame.fill : Frame → Value → Value
  | .item before after, x => .array (before ++ x :: after)
  | .entry before key after, x => .map (before ++ (key, x) :: after)
  | .field identity typeName names before name after, x =>
    .record identity typeName names (before ++ (name, x) :: after)

def plug (frames : List Frame) (x : Value) : Value :=
  frames.foldr Frame.fill x

theorem plug_concat (frames : List Frame) (frame : Frame) (x : Value) :
    plug (frames ++ [frame]) x = plug frames (frame.fill x) := by
  rw [plug, List.foldr_append]
  rfl

theorem plug_ne_string {frames : List Frame} (some : frames ≠ []) (x : Value) (s : String) :
    plug frames x ≠ .string s := by
  cases frames with
  | nil => exact absurd rfl some
  | cons frame frames => cases frame <;> nofun

theorem exists_fill {entries inner : Entries Value} {key : String} (shown : w.members? = some entries)
    (mem : (key, x) ∈ entries) (held : x.members? = some inner) :
    ∃ frame : Frame, w = frame.fill x := by
  cases w with
  | array items =>
    cases shown
    obtain ⟨⟨y, i⟩, place, same⟩ := List.mem_map.1 mem
    obtain ⟨-, rfl⟩ := Prod.mk.inj same
    obtain ⟨before, after, rfl⟩ := List.append_of_mem (List.fst_mem_of_mem_zipIdx place)
    exact ⟨.item before after, rfl⟩
  | map entries =>
    cases shown
    obtain ⟨before, after, rfl⟩ := List.append_of_mem mem
    exact ⟨.entry before key after, rfl⟩
  | record identity typeName names fields =>
    cases shown
    obtain ⟨name, -, same⟩ := List.mem_map.1 mem
    obtain ⟨-, rfl⟩ := Prod.mk.inj same
    cases found : fields.lookup name with
    | none =>
      -- A field that the record lacks is shown as null, and that holds nothing.
      rw [found] at held
      cases held
    | some y =>
      obtain ⟨before, after, rfl, -⟩ := List.lookup_eq_some_iff.1 found
      exact ⟨.field identity typeName names before name after, rfl⟩
  | null | bool | int | float | string => cases shown

theorem Holds.exists_plug (held : v.Holds n w) {entries : Entries Value}
    (shown : w.members? = some entries) :
    ∃ frames, frames.length = n ∧ v = plug frames w := by
  induction held generalizing entries with
  | self => exact ⟨[], rfl, rfl⟩
  | member _ outer mem ih =>
    obtain ⟨frames, rfl, whole⟩ := ih outer
    obtain ⟨frame, same⟩ := exists_fill outer mem shown
    refine ⟨frames ++ [frame], List.length_append, ?_⟩
    rw [plug_concat, ← same]
    exact whole

end Value

namespace Html
open Value Markup

/-! ## Descending -/

def wrap (style text : String) : String :=
  opening .span ("templar-val templar-" ++ style) ++ text ++ closing .span

def warning : String :=
  wrap "warning" "*MAX DEPTH*"

def flatText : Value → String
  | .null => wrap "null" "null"
  | .bool b => wrap "bool" (if b then "true" else "false")
  | .int n => wrap "int" (Value.display (.int n))
  | .float x => wrap "float" (Value.display (.float x))
  | .string s => wrap "string" ("\"" ++ escape (shorten s) ++ "\"")
  | _ => ""

structure Descent where
  text : String
  seen : List (Nat × Value)

def rowTexts (style : String) (entries : List (String × String)) : List String :=
  entries.zipIdx.map fun ((key, value), i) => rowText style (i + 1 == entries.length) key value

/-- The text of a value at a level, counted from the root of what is dumped. What keeps the descent from
going on for ever is the depth limit alone, whatever the value holds. -/
def descend (level : Nat) (v : Value) : Descent :=
  match v.members? with
  | none => ⟨flatText v, [(level, v)]⟩
  | some entries =>
    if depthLimit < level then ⟨warning, [(level, v)]⟩
    else
      let parts := entries.map fun (key, x) => (key, descend (level + 1) x)
      ⟨containerText v (rowTexts (rowStyle v) (parts.map fun (key, part) => (key, part.text))),
        (level, v) :: parts.flatMap fun (_, part) => part.seen⟩
termination_by depthLimit + 1 - level

def descent : Value → Descent
  | .string s => ⟨escape s, [(0, .string s)]⟩
  | v => descend 0 v

variable {v w x y : Value} {level n : Nat} {entries : Entries Value}

theorem descend_flat (flat : v.members? = none) (level : Nat) :
    descend level v = ⟨flatText v, [(level, v)]⟩ := by
  rw [descend, flat]

theorem descend_deep (held : v.members? = some entries) (deep : depthLimit < level) :
    descend level v = ⟨warning, [(level, v)]⟩ := by
  rw [descend, held]
  exact if_pos deep

theorem descend_container (held : v.members? = some entries) (shallow : level ≤ depthLimit) :
    descend level v =
      ⟨containerText v (rowTexts (rowStyle v)
          (entries.map fun (key, x) => (key, (descend (level + 1) x).text))),
        (level, v) :: entries.flatMap fun (_, x) => (descend (level + 1) x).seen⟩ := by
  rw [descend, held]
  simp only [if_neg (Nat.not_lt.2 shallow), List.map_map, List.flatMap_map]
  rfl

theorem mem_seen_descend (reached : level ≤ depthLimit + 1) : (n, x) ∈ (descend level v).seen ↔
    ∃ deeper, n = level + deeper ∧ v.Holds deeper x ∧ n ≤ depthLimit + 1 := by
  obtain ⟨left, limit⟩ : ∃ left, depthLimit + 1 = level + left := Nat.exists_eq_add_of_le reached
  induction left generalizing level v with
  | zero =>
    have alone : (descend level v).seen = [(level, v)] := by
      cases held : v.members? with
      | none => rw [descend_flat held]
      | some entries => rw [descend_deep held (by omega)]
    rw [alone, List.mem_singleton, Prod.mk.injEq]
    constructor
    · rintro ⟨rfl, rfl⟩
      exact ⟨0, rfl, .self, reached⟩
    · rintro ⟨deeper, rfl, inside, bound⟩
      obtain rfl : deeper = 0 := by omega
      exact ⟨rfl, holds_zero_iff.1 inside⟩
  | succ left ih =>
    cases held : v.members? with
    | none =>
      rw [descend_flat held, List.mem_singleton, Prod.mk.injEq]
      constructor
      · rintro ⟨rfl, rfl⟩
        exact ⟨0, rfl, .self, reached⟩
      · rintro ⟨deeper, rfl, inside, bound⟩
        cases deeper with
        | zero => exact ⟨rfl, holds_zero_iff.1 inside⟩
        | succ deeper =>
          obtain ⟨_, _, _, shown, -⟩ := holds_succ_iff.1 inside
          cases held.symm.trans shown
    | some entries =>
      have below (w : Value) : (n, x) ∈ (descend (level + 1) w).seen ↔
          ∃ deeper, n = level + 1 + deeper ∧ w.Holds deeper x ∧ n ≤ depthLimit + 1 :=
        ih (by omega) (by omega)
      rw [descend_container held (by omega), List.mem_cons, Prod.mk.injEq, List.mem_flatMap]
      constructor
      · rintro (⟨rfl, rfl⟩ | ⟨⟨key, w⟩, mem, seen⟩)
        · exact ⟨0, rfl, .self, reached⟩
        · obtain ⟨deeper, rfl, inside, bound⟩ := (below w).1 seen
          refine ⟨deeper + 1, by omega, ?_, bound⟩
          exact holds_succ_iff.2 ⟨entries, key, w, held, mem, inside⟩
      · rintro ⟨deeper, rfl, inside, bound⟩
        cases deeper with
        | zero => exact .inl ⟨rfl, holds_zero_iff.1 inside⟩
        | succ deeper =>
          obtain ⟨_, key, w, shown, mem, inside⟩ := holds_succ_iff.1 inside
          cases held.symm.trans shown
          exact .inr ⟨(key, w), mem, (below w).2 ⟨deeper, by omega, inside, bound⟩⟩

theorem write_scalar (style : String) (children : List Markup) :
    (scalar style children).write = wrap style (String.join (children.map write)) :=
  write_element ..

theorem textAt_flat (flat : v.members? = none) (level : Nat) : textAt level v = flatText v := by
  cases v with
  | array | map | record => cases flat
  | _ =>
    simp only [textAt, markup, absent, write_scalar, flatText, List.map_cons, List.map_nil, write_fixed,
      write_text, String.join_cons, String.join_nil, String.append_empty, String.append_assoc]

theorem textAt_deep (held : v.members? = some entries) (deep : depthLimit < level) :
    textAt level v = warning := by
  have nothing : depthLimit + 1 - level = 0 := by omega
  rw [textAt, nothing, markup_zero held, tooDeep, write_scalar, List.map_singleton, write_fixed]
  rfl

theorem text_descend (reached : level ≤ depthLimit + 1) (v : Value) :
    (descend level v).text = textAt level v := by
  obtain ⟨left, limit⟩ : ∃ left, depthLimit + 1 = level + left := Nat.exists_eq_add_of_le reached
  induction left generalizing level v with
  | zero =>
    cases held : v.members? with
    | none => rw [descend_flat held, textAt_flat held]
    | some entries => rw [descend_deep held (by omega), textAt_deep held (by omega)]
  | succ left ih =>
    cases held : v.members? with
    | none => rw [descend_flat held, textAt_flat held]
    | some entries =>
      have shallow : level ≤ depthLimit := by omega
      obtain ⟨rows, whole, size, row⟩ := textAt_container shallow held
      rw [descend_container held shallow, whole]
      refine congrArg (containerText v) (List.ext_getElem? fun i => ?_)
      simp only [rowTexts, List.getElem?_map, List.getElem?_zipIdx, List.length_map]
      cases place : entries[i]? with
      | none =>
        have beyond : rows.length ≤ i := size ▸ List.getElem?_eq_none_iff.1 place
        rw [List.getElem?_eq_none beyond]
        rfl
      | some entry =>
        obtain ⟨key, x⟩ := entry
        rw [row i key x place, ← ih (by omega) x (by omega), Nat.zero_add]
        rfl

/-! ## Other containers below the limit -/

theorem markup_fill (frame : Frame) (same : markup n x = markup n y) :
    markup (n + 1) (frame.fill x) = markup (n + 1) (frame.fill y) := by
  cases frame <;>
    simp only [Frame.fill, markup, markupItems_eq_map, markupEntries_eq_map, List.map_append,
      List.map_cons, same]

theorem markup_plug (frames : List Frame) (same : markup n x = markup n y) :
    markup (n + frames.length) (plug frames x) = markup (n + frames.length) (plug frames y) := by
  induction frames with
  | nil => exact same
  | cons frame frames ih => exact markup_fill frame ih

theorem dump_plug {frames : List Frame} {inner : Entries Value}
    (deep : frames.length = depthLimit + 1) (held : x.members? = some entries)
    (other : y.members? = some inner) : dump (plug frames x) = dump (plug frames y) := by
  have some : frames ≠ [] := by
    rintro rfl
    cases deep
  have same : markup 0 x = markup 0 y := (markup_zero held).trans (markup_zero other).symm
  rw [dump_eq_textAt (plug_ne_string some x), dump_eq_textAt (plug_ne_string some y), textAt, textAt,
    Nat.sub_zero, ← deep, ← Nat.zero_add frames.length, markup_plug frames same]

/-! ## Whole dumps -/

theorem dump_eq_text (v : Value) : dump v = (descent v).text := by
  cases v with
  | string s => rfl
  | _ => exact (text_descend (Nat.zero_le _) _).symm

theorem mem_seen (v : Value) :
    (n, x) ∈ (descent v).seen ↔ v.Holds n x ∧ n ≤ depthLimit + 1 := by
  have whole := mem_seen_descend (n := n) (x := x) (v := v) (Nat.zero_le (depthLimit + 1))
  simp only [Nat.zero_add, exists_eq_left'] at whole
  cases v with
  | string s => rw [descent, ← whole, descend_flat rfl]
  | _ => exact whole

theorem ne_string_of_holds (held : v.Holds n w) (inside : n ≠ 0 ∨ w.members? ≠ none) (s : String) :
    v ≠ .string s := by
  rintro rfl
  cases n with
  | zero =>
    rw [holds_zero_iff] at held
    subst held
    rcases inside with absurd | absurd <;> exact absurd rfl
  | succ n =>
    obtain ⟨_, _, _, shown, -⟩ := holds_succ_iff.1 held
    cases shown

theorem within_dump (held : v.Holds n w) (inside : n ≠ 0 ∨ w.members? ≠ none)
    (reached : n ≤ depthLimit + 1) : Within (textAt n w) (dump v) := by
  rw [dump_eq_textAt (ne_string_of_holds held inside)]
  exact within_of_holds held reached

/-- The dump of a value is the text of a descent that looks at exactly the values that it holds down to the
level below the depth limit. Every container down to the limit is written with one row for each of its
entries; below it a container is written as the warning and nothing else, and a scalar as anywhere. Any
container there can give its place to any other, and the dump stays as it is. -/
theorem dump_levels (v : Value) :
    (dump v = (descent v).text ∧
      ∀ level w, (level, w) ∈ (descent v).seen ↔ v.Holds level w ∧ level ≤ depthLimit + 1) ∧
    (∀ level w entries, v.Holds level w → level ≤ depthLimit → w.members? = some entries →
      ∃ rows, Within (containerText w rows) (dump v) ∧ rows.length = entries.length ∧
        ∀ (i : Nat) key x, entries[i]? = some (key, x) → rows[i]? = some
          (rowText (rowStyle w) (i + 1 == entries.length) key (descend (level + 1) x).text)) ∧
    (∀ w entries, v.Holds (depthLimit + 1) w → w.members? = some entries →
      (descend (depthLimit + 1) w).text = warning ∧ Within warning (dump v)) ∧
    (∀ w, v.Holds (depthLimit + 1) w → w.members? = none →
      (descend (depthLimit + 1) w).text = flatText w ∧ Within (flatText w) (dump v)) ∧
    (∀ w entries, v.Holds (depthLimit + 1) w → w.members? = some entries →
      ∃ frames, frames.length = depthLimit + 1 ∧ v = plug frames w) ∧
    ∀ frames w other entries inner, frames.length = depthLimit + 1 → v = plug frames w →
      w.members? = some entries → other.members? = some inner → dump (plug frames other) = dump v := by
  refine ⟨⟨dump_eq_text v, fun level w => mem_seen v⟩, ?_, ?_, ?_, ?_, ?_⟩
  · intro level w entries held shallow shown
    have within := within_dump held (.inr (by simp [shown])) (Nat.le_succ_of_le shallow)
    obtain ⟨rows, whole, size, row⟩ := textAt_container shallow shown
    refine ⟨rows, whole ▸ within, size, fun i key x place => ?_⟩
    rw [text_descend (Nat.succ_le_succ shallow)]
    exact row i key x place
  · intro w entries held shown
    have within := within_dump held (.inl (Nat.succ_ne_zero _)) (Nat.le_refl _)
    rw [textAt_deep shown (Nat.lt_succ_self _)] at within
    exact ⟨congrArg Descent.text (descend_deep shown (Nat.lt_succ_self _)), within⟩
  · intro w held flat
    have within := within_dump held (.inl (Nat.succ_ne_zero _)) (Nat.le_refl _)
    rw [textAt_flat flat] at within
    exact ⟨congrArg Descent.text (descend_flat flat _), within⟩
  · intro w entries held shown
    exact held.exists_plug shown
  · rintro frames w other entries inner deep rfl shown also
    exact dump_plug deep also shown

def mixedFrames : List Frame :=
  List.replicate 5 (.item [.null] []) ++ List.replicate 5 (.entry [] "k" []) ++
    [.field 0 "Box" ["lost", "inner"] [] "inner" []]

theorem dump_levels_mixed :
    let v := plug mixedFrames (.array [.int 1])
    v.Holds 11 (.array [.int 1]) ∧ v.Holds 11 .null ∧ Within warning (dump v) ∧
      Within (flatText .null) (dump v) ∧ dump (plug mixedFrames (.map [])) = dump v := by
  intro v
  have item {n} {x y : Value} (held : x.Holds n y) : (Value.array [.null, x]).Holds (n + 1) y :=
    holds_succ_iff.2 ⟨_, "1", x, rfl, .tail _ (.head _), held⟩
  have entry {n} {x y : Value} (held : x.Holds n y) : (Value.map [("k", x)]).Holds (n + 1) y :=
    holds_succ_iff.2 ⟨_, "k", x, rfl, .head _, held⟩
  have box : v.Holds 10 (.record 0 "Box" ["lost", "inner"] [("inner", .array [.int 1])]) :=
    item (item (item (item (item (entry (entry (entry (entry (entry .self)))))))))
  have lost : v.Holds 11 .null := .member box rfl (.head _)
  have array : v.Holds 11 (.array [.int 1]) := .member box rfl (.tail _ (.head _))
  obtain ⟨-, -, deep, flat, -, replaced⟩ := dump_levels v
  exact ⟨array, lost, (deep _ _ array rfl).2, (flat _ lost rfl).2,
    replaced mixedFrames _ _ _ _ rfl rfl rfl rfl⟩

end Html

end Stencil
