import Mathlib.Data.List.TakeWhile
import Stencil.Proofs.Html.Escaping
import Stencil.Text.Start

namespace Stencil.Html
open Text

/-! ## Undoing -/

def special : List Char :=
  ['&', '<', '>', '"', '\'']

def decoded? (cs : List Char) : Option (Char × List Char) :=
  special.findSome? fun c =>
    (entity? c).bind fun entity => (entity.toList.isPrefixOf? cs).map fun rest => (c, rest)

theorem decoded?_shorter {c : Char} {cs rest : List Char} (h : decoded? cs = some (c, rest)) :
    rest.length < cs.length := by
  obtain ⟨d, -, h⟩ := List.exists_of_findSome?_eq_some h
  obtain ⟨entity, known, h⟩ := Option.bind_eq_some_iff.1 h
  obtain ⟨after, start, same⟩ := Option.map_eq_some_iff.1 h
  cases same
  have long : 0 < entity.toList.length := by
    unfold entity? at known
    split at known <;> cases known <;> decide +kernel
  rw [length_of_isPrefixOf? start]
  omega

def unescape (cs : List Char) : List Char :=
  match cs with
  | [] => []
  | c :: cs =>
    match _h : decoded? (c :: cs) with
    | some (d, rest) => d :: unescape rest
    | none => c :: unescape cs
termination_by cs.length
decreasing_by
  · exact decoded?_shorter _h
  · simp

variable {c : Char} {cs : List Char}

theorem decoded?_entity {entity : String} (known : entity? c = some entity) (rest : List Char) :
    decoded? (entity.toList ++ rest) = some (c, rest) := by
  unfold entity? at known
  split at known <;> cases known <;> rfl

theorem decoded?_eq_none (other : c ≠ '&') (cs : List Char) : decoded? (c :: cs) = none := by
  refine List.findSome?_eq_none_iff.2 fun d _ => ?_
  rw [Option.bind_eq_none_iff]
  intro entity known
  rw [Option.map_eq_none_iff, Option.eq_none_iff_forall_ne_some]
  intro rest start
  have whole := isPrefixOf?_eq_some_iff.1 start
  unfold entity? at known
  split at known <;> cases known <;> exact other (List.cons.inj whole).1

theorem unescape_of_decoded? {d : Char} {rest : List Char} (h : decoded? cs = some (d, rest)) :
    unescape cs = d :: unescape rest := by
  cases cs with
  | nil => exact absurd (decoded?_shorter h) (Nat.not_lt_zero _)
  | cons c cs =>
    rw [unescape]
    split
    · next found =>
      cases h.symm.trans found
      rfl
    · next none =>
      rw [none] at h
      cases h

theorem unescape_escapeChar (c : Char) (rest : List Char) :
    unescape (escapeChar c ++ rest) = c :: unescape rest := by
  unfold escapeChar
  cases known : entity? c with
  | some entity => exact unescape_of_decoded? (decoded?_entity known rest)
  | none =>
    have other : c ≠ '&' := by
      rintro rfl
      cases known
    have none := decoded?_eq_none other rest
    rw [List.singleton_append, unescape]
    split
    · next found => rw [none] at found; cases found
    · rfl

theorem unescape_flatMap (cs : List Char) : unescape (cs.flatMap escapeChar) = cs := by
  induction cs with
  | nil => rw [List.flatMap_nil, unescape]
  | cons c cs ih => rw [List.flatMap_cons, unescape_escapeChar, ih]

/-! ## Sharing -/

/-- A text that is the given one itself, or a new one. -/
inductive Shared where
  | borrowed (s : String)
  | owned (s : String)

def Shared.text : Shared → String
  | .borrowed s => s
  | .owned s => s

def needsEntity (c : Char) : Bool :=
  (entity? c).isSome

def pushEscaped (out : String) (c : Char) : String :=
  match entity? c with
  | some entity => out ++ entity
  | none => out.push c

def escapeShared (s : String) : Shared :=
  match s.toList.dropWhile (!needsEntity ·) with
  | [] => .borrowed s
  | rest => .owned (rest.foldl pushEscaped (String.ofList (s.toList.takeWhile (!needsEntity ·))))

theorem toList_pushEscaped (out : String) (c : Char) :
    (pushEscaped out c).toList = out.toList ++ escapeChar c := by
  unfold pushEscaped escapeChar
  cases entity? c with
  | none => simp
  | some entity => simp

theorem toList_foldl_pushEscaped (cs : List Char) (out : String) :
    (cs.foldl pushEscaped out).toList = out.toList ++ cs.flatMap escapeChar := by
  induction cs generalizing out with
  | nil => simp
  | cons c cs ih => rw [List.foldl_cons, ih, toList_pushEscaped, List.flatMap_cons, List.append_assoc]

theorem flatMap_of_plain (plain : ∀ c ∈ cs, needsEntity c = false) : cs.flatMap escapeChar = cs :=
  flatMap_escapeChar fun c mem => by simpa [needsEntity] using plain c mem

theorem length_escapeChar (c : Char) : 1 + (needsEntity c).toNat ≤ (escapeChar c).length := by
  unfold escapeChar needsEntity
  cases known : entity? c with
  | none => simp
  | some entity =>
    unfold entity? at known
    split at known <;> cases known <;> decide +kernel

theorem length_le_flatMap (cs : List Char) : cs.length ≤ (cs.flatMap escapeChar).length := by
  induction cs with
  | nil => simp
  | cons c cs ih =>
    have first := length_escapeChar c
    rw [List.flatMap_cons, List.length_append, List.length_cons]
    omega

theorem plain_of_flatMap (same : cs.flatMap escapeChar = cs) : ∀ c ∈ cs, needsEntity c = false := by
  intro c mem
  obtain ⟨front, back, rfl⟩ := List.append_of_mem mem
  have longer := congrArg List.length same
  have first := length_escapeChar c
  have left := length_le_flatMap front
  have right := length_le_flatMap back
  simp only [List.flatMap_append, List.flatMap_cons, List.length_append, List.length_cons] at longer
  rw [← Bool.toNat_eq_zero]
  omega

theorem toList_text_escapeShared (s : String) :
    (escapeShared s).text.toList = s.toList.flatMap escapeChar := by
  have whole := List.takeWhile_append_dropWhile (p := (!needsEntity ·)) (l := s.toList)
  have plain : (s.toList.takeWhile (!needsEntity ·)).flatMap escapeChar =
      s.toList.takeWhile (!needsEntity ·) :=
    flatMap_of_plain fun c mem => by simpa using List.all_eq_true.1 List.all_takeWhile c mem
  unfold escapeShared
  split
  · next none =>
    rw [none, List.append_nil] at whole
    rw [whole] at plain
    exact plain.symm
  · rw [Shared.text, toList_foldl_pushEscaped, String.toList_ofList]
    have parts := congrArg (List.flatMap escapeChar) whole
    rw [List.flatMap_append, plain] at parts
    exact parts

theorem escapeShared_eq_borrowed_iff {s t : String} :
    escapeShared s = .borrowed t ↔ s = t ∧ ∀ c ∈ s.toList, needsEntity c = false := by
  unfold escapeShared
  split
  · next none =>
    have plain := List.dropWhile_eq_nil_iff.1 none
    rw [Shared.borrowed.injEq]
    exact ⟨fun same => ⟨same, fun c mem => by simpa using plain c mem⟩, And.left⟩
  · next rest =>
    simp only [reduceCtorEq, false_iff, not_and]
    rintro - plain
    exact rest (List.dropWhile_eq_nil_iff.2 fun c mem => by rw [plain c mem]; rfl)

/-- What is escaped is inert and is read back by one pass from left to right, so no two texts are escaped
alike. Escaping goes character by character, so it goes through what is joined. The text is given back as
it is exactly if escaping does not change it. -/
theorem escape_laws (s : String) :
    Inert (escape s).toList ∧
      String.ofList (unescape (escape s).toList) = s ∧
      (∀ t, escape s = escape t → s = t) ∧
      (∀ t, escape (s ++ t) = escape s ++ escape t) ∧
      escape s = String.join (s.toList.map fun c => (entity? c).getD c.toString) ∧
      (escapeShared s).text = escape s ∧
      ((∃ t, escapeShared s = .borrowed t) ↔ escape s = s) := by
  have back (t : String) : String.ofList (unescape (escape t).toList) = t := by
    rw [toList_escape, unescape_flatMap, String.ofList_toList]
  refine ⟨inert_escape s, back s, fun t same => ?_, fun t => ?_, ?_, ?_, ?_⟩
  · rw [← back s, same, back t]
  · rw [← String.toList_inj, String.toList_append]
    simp only [toList_escape, String.toList_append, List.flatMap_append]
  · rw [← String.toList_inj, toList_escape, String.toList_join, List.flatMap_map]
    refine congrArg (s.toList.flatMap ·) (funext fun c => ?_)
    unfold escapeChar
    cases entity? c <;> simp
  · rw [← String.toList_inj, toList_text_escapeShared, toList_escape]
  · simp only [escapeShared_eq_borrowed_iff, exists_eq_left']
    rw [← String.toList_inj, toList_escape]
    exact ⟨flatMap_of_plain, plain_of_flatMap⟩

end Stencil.Html
