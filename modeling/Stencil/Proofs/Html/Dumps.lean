import Stencil.Html.Dump
import Stencil.Proofs.Html.Nesting

namespace Stencil

namespace Value

def members? : Value → Option (Entries Value)
  | .array items => some (items.zipIdx.map fun (x, i) => (toString i, x))
  | .map entries => some entries
  | .record _ _ names fields => some (listed names fields)
  | _ => none

/-- The second value is in the first one, inside so many containers. -/
inductive Holds (v : Value) : Nat → Value → Prop
  | self : Holds v 0 v
  | member {level w entries key x} : Holds v level w → w.members? = some entries →
      (key, x) ∈ entries → Holds v (level + 1) x

end Value

namespace Html
open Markup

def dumpTags : List (Tag × String) :=
  [(.div, "templar-dump array"), (.div, "templar-dump object"), (.div, "items"), (.div, "properties"),
    (.div, "item"), (.div, "prop"), (.span, "type"), (.span, "prefix"), (.span, "key"), (.span, "empty"),
    (.span, "templar-val templar-null"), (.span, "templar-val templar-bool"),
    (.span, "templar-val templar-int"), (.span, "templar-val templar-float"),
    (.span, "templar-val templar-string"), (.span, "templar-val templar-warning")]

/-! ## Containers -/

def container : Value → List (String × Markup) → Markup
  | .record _ typeName _ _ => object typeName
  | _ => tree

theorem markupItems_eq_map (deeper : Nat) (items : List Value) :
    markupItems deeper items = items.map (markup deeper) := by
  induction items with
  | nil => rfl
  | cons x xs ih => rw [markupItems, ih, List.map_cons]

theorem markupEntries_eq_map (deeper : Nat) (entries : Entries Value) :
    markupEntries deeper entries = entries.map fun (k, v) => (k, markup deeper v) := by
  induction entries with
  | nil => rfl
  | cons entry rest ih =>
    obtain ⟨k, v⟩ := entry
    rw [markupEntries, ih, List.map_cons]

variable {w : Value} {entries : Entries Value}

theorem markup_zero (held : w.members? = some entries) : markup 0 w = tooDeep := by
  cases w <;> first | rfl | cases held

theorem markup_container (held : w.members? = some entries) (deeper : Nat) :
    markup (deeper + 1) w = container w (entries.map fun (k, x) => (k, markup deeper x)) := by
  cases w with
  | array items =>
    cases held
    rw [markup, markupItems_eq_map, List.zipIdx_map, List.map_map, List.map_map]
    rfl
  | map entries =>
    cases held
    rw [markup, markupEntries_eq_map]
    rfl
  | record identity typeName names fields =>
    cases held
    rw [markup, markupEntries_eq_map, Value.listed, List.map_map]
    refine congrArg (object typeName) (List.map_congr_left fun name _ => ?_)
    rw [Entries.lookup_map, Function.comp_apply]
    cases fields.lookup name <;> rfl
  | null | bool | int | float | string => cases held

/-! ## Numbers -/

def Numeric (c : Char) : Prop :=
  c.isDigit = true ∨ c ∈ ['-', '.', 'N', 'A', 'I', 'F']

theorem numeric_toDigits {n : Nat} : ∀ c ∈ Nat.toDigits 10 n, Numeric c :=
  fun _ mem => .inl (Nat.isDigit_of_mem_toDigits (by decide) (by decide) mem)

theorem numeric_repr (n : Nat) : ∀ c ∈ n.repr.toList, Numeric c := by
  rw [Nat.toList_repr]
  exact numeric_toDigits

theorem numeric_zeros (n : Nat) : ∀ c ∈ Decimal.zeros n, Numeric c := by
  intro c mem
  rw [(List.mem_replicate.1 mem).2]
  exact .inl rfl

theorem numeric_positional (d : Decimal.Numeral) : ∀ c ∈ d.positional false, Numeric c := by
  have digits := @numeric_toDigits d.digits
  unfold Decimal.Numeral.positional
  dsimp only
  split
  · simp only [Bool.false_eq_true, if_false, List.append_nil, List.forall_mem_append]
    exact ⟨digits, numeric_zeros _⟩
  split
  · simp only [List.forall_mem_append, List.forall_mem_cons]
    exact ⟨fun c mem => digits c (List.mem_of_mem_take mem), .inr (by simp),
      fun c mem => digits c (List.mem_of_mem_drop mem)⟩
  · simp only [List.forall_mem_append, List.forall_mem_cons]
    exact ⟨⟨.inl rfl, .inr (by simp), numeric_zeros _⟩, digits⟩

theorem numeric_display {v : Value} (number : v.kind = .int ∨ v.kind = .float) :
    ∀ c ∈ v.display.toList, Numeric c := by
  cases v with
  | int n =>
    rw [Value.display, Int.toString_eq_repr, Int.repr_eq_if]
    split
    · exact numeric_repr _
    · simp only [String.toList_append, List.forall_mem_append]
      exact ⟨fun c mem => .inr (by simp_all), numeric_repr _⟩
  | float x =>
    have sign : ∀ c ∈ (if Decimal.isNegative x then "-" else "").toList, Numeric c := by
      split <;> simp [Numeric]
    rw [Value.display, Decimal.Layout.write]
    dsimp only
    split
    · simp [Value.plainLayout, Numeric]
    split
    · simp only [String.toList_append, List.forall_mem_append]
      exact ⟨sign, by simp [Value.plainLayout, Numeric]⟩
    · simp only [String.toList_append, List.forall_mem_append, String.toList_ofList]
      exact ⟨sign, numeric_positional _⟩
  | _ => simp [Value.kind] at number

theorem all_isOrdinary_of_numeric {cs : List Char} (numeric : ∀ c ∈ cs, Numeric c) :
    cs.all isOrdinary = true := by
  rw [List.all_eq_true]
  intro c mem
  simp only [isOrdinary, Bool.and_eq_true, bne_iff_ne]
  refine ⟨⟨?_, ?_⟩, ?_⟩ <;>
    (rintro rfl; simpa [Numeric] using numeric _ mem)

/-! ## Tidy markup -/

theorem tidy_fixed {s : String} (ordinary : s.toList.all isOrdinary = true) :
    Tidy dumpTags (.fixed s) :=
  .fixed (calm_of_ordinary ordinary)

theorem tidy_number {v : Value} (number : v.kind = .int ∨ v.kind = .float) :
    Tidy dumpTags (.fixed v.display) :=
  tidy_fixed (all_isOrdinary_of_numeric (numeric_display number))

theorem tidy_scalar {style : String} {children : List Markup}
    (known : (.span, "templar-val templar-" ++ style) ∈ dumpTags)
    (each : ∀ m ∈ children, Tidy dumpTags m) : Tidy dumpTags (scalar style children) :=
  .element known each

theorem tidy_tooDeep : Tidy dumpTags tooDeep :=
  tidy_scalar (by decide) (List.forall_mem_singleton.2 (tidy_fixed (by decide)))

theorem tidy_heading {m : Markup} (tidy : Tidy dumpTags m) : Tidy dumpTags (heading [m]) :=
  .element (by decide) (List.forall_mem_singleton.2 tidy)

theorem tidy_row {style : String} {value : Markup} (last : Bool) (key : String)
    (known : (.div, style) ∈ dumpTags) (tidy : Tidy dumpTags value) :
    Tidy dumpTags (row style last key value) := by
  have mark : Tidy dumpTags (.element .span "prefix" [.fixed (if last then "└─" else "├─")]) := by
    refine .element (by decide) (List.forall_mem_singleton.2 (tidy_fixed ?_))
    cases last <;> decide
  have name : Tidy dumpTags (.element .span "key" [.text key]) :=
    .element (by decide) (List.forall_mem_singleton.2 (.text key))
  refine .element known ?_
  simp only [List.forall_mem_cons]
  exact ⟨mark, tidy_fixed (by decide), name, tidy_fixed (by decide), tidy, by simp⟩

theorem tidy_rows {style : String} (known : (.div, style) ∈ dumpTags) {members : List (String × Markup)}
    (each : ∀ member ∈ members, Tidy dumpTags member.2) : ∀ m ∈ rows style members, Tidy dumpTags m := by
  induction members with
  | nil => simp [rows]
  | cons member rest ih =>
    obtain ⟨key, value⟩ := member
    obtain ⟨first, others⟩ := List.forall_mem_cons.1 each
    rw [rows, List.forall_mem_cons]
    exact ⟨tidy_row _ key known first, ih others⟩

theorem tidy_body {style rowStyle empty : String} (known : (.div, style) ∈ dumpTags)
    (rowKnown : (.div, rowStyle) ∈ dumpTags) (ordinary : empty.toList.all isOrdinary = true)
    {members : List (String × Markup)} (each : ∀ member ∈ members, Tidy dumpTags member.2) :
    ∀ m ∈ body style rowStyle empty members, Tidy dumpTags m := by
  unfold body
  split
  · simp only [List.forall_mem_cons]
    exact ⟨tidy_fixed (by decide),
      .element (by decide) (List.forall_mem_singleton.2 (tidy_fixed ordinary)), by simp⟩
  · rw [List.forall_mem_singleton]
    exact .element known (tidy_rows rowKnown each)

theorem tidy_container (w : Value) {members : List (String × Markup)}
    (each : ∀ member ∈ members, Tidy dumpTags member.2) : Tidy dumpTags (container w members) := by
  cases w with
  | record identity typeName names fields =>
    refine .element (by decide) (List.forall_mem_cons.2 ⟨tidy_heading (.text _), ?_⟩)
    exact tidy_body (by decide) (by decide) (by decide) each
  | _ =>
    refine .element (by decide) (List.forall_mem_cons.2 ⟨tidy_heading (.fixed ?_), ?_⟩)
    · refine calm_of_ordinary ?_
      simp only [String.toList_append, List.all_append, Bool.and_eq_true]
      exact ⟨⟨by decide, all_isOrdinary_of_numeric (numeric_repr _)⟩, by decide⟩
    · exact tidy_body (by decide) (by decide) (by decide) each

theorem tidy_flat (flat : w.members? = none) (deeper : Nat) : Tidy dumpTags (markup deeper w) := by
  cases w with
  | null => exact tidy_scalar (by decide) (List.forall_mem_singleton.2 (tidy_fixed (by decide)))
  | bool b =>
    refine tidy_scalar (by decide) (List.forall_mem_singleton.2 (tidy_fixed ?_))
    cases b <;> decide
  | int n => exact tidy_scalar (by decide) (List.forall_mem_singleton.2 (tidy_number (.inl rfl)))
  | float x => exact tidy_scalar (by decide) (List.forall_mem_singleton.2 (tidy_number (.inr rfl)))
  | string s =>
    refine tidy_scalar (by decide) ?_
    simp only [List.forall_mem_cons]
    exact ⟨tidy_fixed (by decide), .text _, tidy_fixed (by decide), by simp⟩
  | array | map | record => cases flat

theorem tidy_markup (deeper : Nat) (v : Value) : Tidy dumpTags (markup deeper v) := by
  -- The levels that may still open fall with every container.
  induction deeper generalizing v with
  | zero =>
    cases held : v.members? with
    | none => exact tidy_flat held 0
    | some entries =>
      rw [markup_zero held]
      exact tidy_tooDeep
  | succ deeper ih =>
    cases held : v.members? with
    | none => exact tidy_flat held (deeper + 1)
    | some entries =>
      rw [markup_container held]
      refine tidy_container v fun member mem => ?_
      obtain ⟨⟨key, x⟩, -, rfl⟩ := List.mem_map.1 mem
      exact ih x

/-! ## Written containers -/

def rowText (style : String) (last : Bool) (key value : String) : String :=
  opening .div style ++ opening .span "prefix" ++ (if last then "└─" else "├─") ++ closing .span ++ " " ++
    opening .span "key" ++ escape key ++ closing .span ++ ": " ++ value ++ closing .div

def rowsText (style empty : String) (rows : List String) : String :=
  if rows.isEmpty then " " ++ opening .span "empty" ++ empty ++ closing .span
  else opening .div style ++ String.join rows ++ closing .div

def containerText : Value → List String → String
  | .record _ typeName _ _, rows =>
    opening .div "templar-dump object" ++ opening .span "type" ++ escape typeName ++ closing .span ++
      rowsText "properties" "\x7b\x7d" rows ++ closing .div
  | _, rows =>
    opening .div "templar-dump array" ++ opening .span "type" ++
      ("array(" ++ toString rows.length ++ ")") ++ closing .span ++
      rowsText "items" "[]" rows ++ closing .div

def rowStyle : Value → String
  | .record .. => "prop"
  | _ => "item"

theorem write_row (style : String) (last : Bool) (key : String) (value : Markup) :
    (row style last key value).write = rowText style last key value.write := by
  simp only [row, rowText, write_element, List.map_cons, List.map_nil, write_fixed, write_text,
    String.join_cons, String.join_nil, String.append_empty, String.append_assoc]

theorem length_rows (style : String) (members : List (String × Markup)) :
    (rows style members).length = members.length := by
  induction members with
  | nil => rfl
  | cons member rest ih => rw [rows, List.length_cons, ih, List.length_cons]

theorem getElem?_rows (style : String) (members : List (String × Markup)) (i : Nat) :
    (rows style members)[i]? = members[i]?.map fun (key, value) =>
      row style (i + 1 == members.length) key value := by
  induction members generalizing i with
  | nil => rfl
  | cons member rest ih =>
    obtain ⟨key, value⟩ := member
    cases i with
    | zero =>
      cases rest <;> simp [rows]
    | succ i => simp [rows, ih]

theorem write_body (style rowStyle empty : String) (members : List (String × Markup)) :
    String.join ((body style rowStyle empty members).map write) =
      rowsText style empty ((rows rowStyle members).map write) := by
  cases members with
  | nil =>
    simp only [body, rows, rowsText, List.isEmpty_nil, if_true, List.map_cons, List.map_nil, write_fixed,
      write_element, String.join_cons, String.join_nil, String.append_empty, String.append_assoc]
  | cons member rest =>
    simp only [body, rows, rowsText, List.isEmpty_cons, Bool.false_eq_true, if_false, List.map_cons,
      List.map_nil, write_element, String.join_cons, String.join_nil, String.append_empty]

theorem write_container (w : Value) (members : List (String × Markup)) :
    (container w members).write = containerText w ((rows (rowStyle w) members).map write) := by
  cases w <;>
    simp only [container, tree, object, heading, containerText, rowStyle, write_element, List.map_cons,
      List.map_nil, write_fixed, write_text, String.join_cons, String.join_nil, String.append_empty,
      write_body, List.length_map, length_rows, String.append_assoc]

def textAt (level : Nat) (v : Value) : String :=
  (markup (depthLimit + 1 - level) v).write

theorem textAt_container {level : Nat} (shallow : level ≤ depthLimit)
    (held : w.members? = some entries) :
    ∃ rows : List String, textAt level w = containerText w rows ∧ rows.length = entries.length ∧
      ∀ (i : Nat) key x, entries[i]? = some (key, x) → rows[i]? =
        some (rowText (rowStyle w) (i + 1 == entries.length) key (textAt (level + 1) x)) := by
  obtain ⟨deeper, left⟩ : ∃ deeper, depthLimit = level + deeper := Nat.exists_eq_add_of_le shallow
  have here : depthLimit + 1 - level = deeper + 1 := by omega
  have below : depthLimit + 1 - (level + 1) = deeper := by omega
  unfold textAt
  rw [here, below, markup_container held, write_container]
  refine ⟨_, rfl, ?_, fun i key x place => ?_⟩
  · rw [List.length_map, length_rows, List.length_map]
  · simp only [List.getElem?_map, getElem?_rows, place, Option.map_some, write_row, List.length_map]

/-! ## Places in a dump -/

def Within (s t : String) : Prop :=
  ∃ front back, t = front ++ s ++ back

theorem Within.refl (s : String) : Within s s :=
  ⟨"", "", by simp⟩

theorem Within.trans {s t u : String} (inner : Within s t) (outer : Within t u) : Within s u := by
  obtain ⟨before, after, rfl⟩ := inner
  obtain ⟨front, back, rfl⟩ := outer
  exact ⟨front ++ before, after ++ back, by simp only [String.append_assoc]⟩

theorem within_join {part : String} {parts : List String} (mem : part ∈ parts) :
    Within part (String.join parts) := by
  obtain ⟨before, after, rfl⟩ := List.append_of_mem mem
  exact ⟨String.join before, String.join after, by
    rw [String.join_append, String.join_cons, String.append_assoc]⟩

theorem within_rowText (style : String) (last : Bool) (key value : String) :
    Within value (rowText style last key value) :=
  ⟨_, closing .div, rfl⟩

theorem within_rowsText {part : String} {rows : List String} (style empty : String)
    (mem : part ∈ rows) : Within part (rowsText style empty rows) := by
  have some : rows.isEmpty = false := by
    rw [List.isEmpty_eq_false_iff]
    exact List.ne_nil_of_mem mem
  rw [rowsText, some]
  exact (within_join mem).trans ⟨opening .div style, closing .div, rfl⟩

theorem within_containerText {part : String} {rows : List String} (w : Value) (mem : part ∈ rows) :
    Within part (containerText w rows) := by
  cases w with
  | record => exact (within_rowsText _ _ mem).trans ⟨_, closing .div, rfl⟩
  | _ => exact (within_rowsText _ _ mem).trans ⟨_, closing .div, rfl⟩

/-- What a value holds down to the level below the depth limit is written in the text of the value. -/
theorem within_of_holds {v : Value} {level : Nat} (held : v.Holds level w)
    (reached : level ≤ depthLimit + 1) : Within (textAt level w) (textAt 0 v) := by
  induction held with
  | self => exact .refl _
  | @member level w entries key x _ shown mem ih =>
    have outer := ih (by omega)
    obtain ⟨rows, whole, -, row⟩ := textAt_container (Nat.le_of_succ_le_succ reached) shown
    obtain ⟨i, place⟩ := List.getElem?_of_mem mem
    rw [whole] at outer
    exact (within_rowText ..).trans
      ((within_containerText w (List.mem_of_getElem? (row i key x place))).trans outer)

theorem dump_eq_textAt {v : Value} (composed : ∀ s, v ≠ .string s) : dump v = textAt 0 v := by
  cases v <;> first | rfl | exact absurd rfl (composed _)

/-- The dump of a value other than a text is nested markup: its tags are those of the list, properly
nested and closed, with calm text between them. Every container in the value down to the depth limit is
written in it with exactly one row for each entry, in order, with the mark of the last row in the last
only. -/
theorem dump_nested (v : Value) (composed : ∀ s, v ≠ .string s) :
    Nested dumpTags (dump v) ∧
      ∀ level w entries, v.Holds level w → level ≤ depthLimit → w.members? = some entries →
        ∃ front rows back, dump v = front ++ containerText w rows ++ back ∧
          rows.length = entries.length ∧
          ∀ (i : Nat) key x, entries[i]? = some (key, x) → rows[i]? =
            some (rowText (rowStyle w) (i + 1 == entries.length) key (textAt (level + 1) x)) := by
  rw [dump_eq_textAt composed]
  refine ⟨(tidy_markup _ v).nested_write, fun level w entries held shallow shown => ?_⟩
  obtain ⟨rows, whole, size, row⟩ := textAt_container shallow shown
  obtain ⟨front, back, place⟩ := within_of_holds held (Nat.le_succ_of_le shallow)
  rw [whole] at place
  exact ⟨front, rows, back, place, size, row⟩

theorem dump_nested_pair :
    (∀ s, Value.array [.string "<&", .map []] ≠ .string s) ∧
      Nested dumpTags (dump (.array [.string "<&", .map []])) ∧
      ∃ front rows back, dump (.array [.string "<&", .map []]) =
          front ++ containerText (.array [.string "<&", .map []]) rows ++ back ∧
        rows.length = 2 ∧ rows[0]? = some (rowText "item" false "0" (textAt 1 (.string "<&"))) ∧
        rows[1]? = some (rowText "item" true "1" (textAt 1 (.map []))) := by
  have composed : ∀ s, Value.array [.string "<&", .map []] ≠ .string s := by simp
  obtain ⟨nested, each⟩ := dump_nested (.array [.string "<&", .map []]) composed
  obtain ⟨front, rows, back, whole, size, row⟩ := each 0 _ _ .self (by decide) rfl
  exact ⟨composed, nested, front, rows, back, whole, size, row 0 "0" _ rfl, row 1 "1" _ rfl⟩

end Html

end Stencil
