import Stencil.Proofs.Reading
import Stencil.Store.Files

namespace Stencil

namespace Text

variable {separator : Char} {cs ds : List Char}

theorem split_append (separator : Char) (cs ds : List Char) :
    split separator (cs ++ separator :: ds) = split separator cs ++ split separator ds := by
  induction cs with
  | nil =>
    have here : (separator == separator) = true := beq_self_eq_true separator
    rw [List.nil_append, split.eq_2, here]
    rfl
  | cons c cs ih =>
    obtain ⟨part, parts, tail⟩ := exists_split separator cs
    rw [List.cons_append, split, split, ih, tail]
    cases c == separator with
    | true => rfl
    | false => rfl

theorem split_of_not_mem (absent : separator ∉ cs) : split separator cs = [cs] := by
  induction cs with
  | nil => rfl
  | cons c cs ih =>
    rw [List.mem_cons, not_or] at absent
    have other : (c == separator) = false := beq_eq_false_iff_ne.2 (Ne.symm absent.1)
    rw [split, ih absent.2, other]

end Text

namespace Files

variable {files : Files} {place : Place} {path name : String}

/-- Where the parts of a path lead from a place, whatever is there. -/
def lead (place : Place) : List String → Place
  | [] => place
  | part :: rest =>
    if part = "" || part = "." then lead place rest
    else if part = ".." then lead place.tail rest
    else lead (part :: place) rest

def placeOf (working : Place) (path : String) : Place :=
  lead (if isRooted path then [] else working) (parts path)

theorem walk_eq {ps : List String} {start : Place} (h : files.walk start ps = .ok place) :
    place = lead start ps := by
  induction ps generalizing start with
  | nil =>
    cases h
    rfl
  | cons part ps ih =>
    rw [walk] at h
    rw [lead]
    split at h
    · split at h
      · next same => rw [if_pos same]; exact ih h
      · next other =>
        rw [if_neg other]
        split at h
        · next up => rw [if_pos up]; exact ih h
        · next down =>
          rw [if_neg down]
          split at h
          · cases h
          · split at h
            · next last =>
              cases h
              rw [List.isEmpty_iff.1 last]
              rfl
            · exact ih h
    · split at h
      · cases h
      · cases h

theorem locate_eq (h : files.locate path = .ok place) : place = placeOf files.working path := by
  unfold locate at h
  obtain ⟨_, _, h⟩ := bind_eq_ok.1 h
  split at h
  · cases h
  · exact walk_eq h

/-! ## Names in directories -/

structure Names (name : String) : Prop where
  plain : '/' ∉ name.toList
  some : name ≠ ""
  notHere : name ≠ "."
  notUp : name ≠ ".."

theorem lead_append (place : Place) (ps qs : List String) :
    lead place (ps ++ qs) = lead (lead place ps) qs := by
  induction ps generalizing place with
  | nil => rfl
  | cons part ps ih =>
    rw [List.cons_append, lead, lead]
    split
    · exact ih place
    · split
      · exact ih place.tail
      · exact ih (part :: place)

theorem lead_name (named : Names name) (place : Place) : lead place [name] = name :: place := by
  simp [lead, named.some, named.notHere, named.notUp]

theorem Names.not_isRooted (named : Names name) : isRooted name = false := by
  refine beq_eq_false_iff_ne.2 fun first => named.plain ?_
  exact List.mem_of_mem_head? first

theorem isRooted_append {s t : String} (some : s ≠ "") : isRooted (s ++ t) = isRooted s := by
  unfold isRooted
  rw [String.toList_append]
  cases first : s.toList with
  | nil => exact absurd (String.toList_eq_nil_iff.1 first) some
  | cons c cs => rfl

theorem parts_of_name (named : Names name) : parts name = [name] := by
  rw [parts, Text.split_of_not_mem named.plain, List.map_singleton, String.ofList_toList]

theorem parts_append {s t u : String} (between : u.toList = s.toList ++ '/' :: t.toList) :
    parts u = parts s ++ parts t := by
  rw [parts, between, Text.split_append, List.map_append]
  rfl

theorem isRooted_join (directory : String) (named : Names name) :
    isRooted (join directory name) = isRooted directory := by
  have relative : ¬isRooted name = true := by simp [named.not_isRooted]
  rw [join, if_neg relative]
  by_cases empty : directory = ""
  · subst empty
    have here : ("".isEmpty || "".toList.getLast? == some '/') = true := rfl
    rw [if_pos here, String.empty_append, named.not_isRooted]
    rfl
  · have more : directory ++ "/" ≠ "" := by simp [empty]
    split
    · rw [isRooted_append empty]
    · rw [isRooted_append more, isRooted_append empty]

theorem parts_join (directory : String) :
    ∃ ps, (parts directory = ps ∨ parts directory = ps ++ [""]) ∧
      ∀ {name}, Names name → parts (join directory name) = ps ++ [name] := by
  have relative {name : String} (named : Names name) : ¬isRooted name = true := by
    simp [named.not_isRooted]
  by_cases empty : directory = ""
  · subst empty
    have here : ("".isEmpty || "".toList.getLast? == some '/') = true := rfl
    refine ⟨[], .inr rfl, fun {name} named => ?_⟩
    rw [join, if_neg (relative named), if_pos here, String.empty_append, parts_of_name named]
    rfl
  · by_cases ends : directory.toList.getLast? = some '/'
    · obtain ⟨front, whole⟩ := List.getLast?_eq_some_iff.1 ends
      have shorter : parts directory = parts (String.ofList front) ++ parts "" :=
        parts_append (by simp [whole])
      refine ⟨parts (String.ofList front), .inr shorter, fun {name} named => ?_⟩
      have longer : parts (directory ++ name) = parts (String.ofList front) ++ parts name :=
        parts_append (by simp [whole])
      rw [join, if_neg (relative named), if_pos (by simp [ends]), longer, parts_of_name named]
    · refine ⟨parts directory, .inl rfl, fun {name} named => ?_⟩
      have whole : parts (directory ++ "/" ++ name) = parts directory ++ parts name :=
        parts_append (by simp)
      rw [join, if_neg (relative named), if_neg (by simp [empty, ends]), whole, parts_of_name named]

theorem placeOf_join (working : Place) (directory : String) (named : Names name) :
    placeOf working (join directory name) = name :: placeOf working directory := by
  obtain ⟨ps, same | same, whole⟩ := parts_join directory
  · rw [placeOf, placeOf, isRooted_join directory named, whole named, lead_append, lead_name named, same]
  · rw [placeOf, placeOf, isRooted_join directory named, whole named, lead_append, lead_name named, same,
      lead_append]
    rfl

end Files

end Stencil
