/-!
The parts of a text between separators. Main statement: a text is its parts with the separators between
them (`split_eq_cons`).
-/

namespace Stencil.Text

def split (separator : Char) : List Char → List (List Char)
  | [] => [[]]
  | c :: cs =>
    match c == separator, split separator cs with
    | true, parts => [] :: parts
    | false, part :: parts => (c :: part) :: parts
    | false, [] => [[c]]

variable {separator : Char} {cs first : List Char} {others : List (List Char)}

theorem exists_split (separator : Char) (cs : List Char) :
    ∃ first others, split separator cs = first :: others := by
  cases cs with
  | nil => exact ⟨[], [], rfl⟩
  | cons c cs =>
    rw [split]
    split
    · exact ⟨_, _, rfl⟩
    · exact ⟨_, _, rfl⟩
    · exact ⟨_, _, rfl⟩

theorem split_eq_cons (h : split separator cs = first :: others) :
    cs = first ++ others.flatMap (separator :: ·) := by
  induction cs generalizing first others with
  | nil =>
    cases h
    rfl
  | cons c cs ih =>
    obtain ⟨part, parts, tail⟩ := exists_split separator cs
    have whole := ih tail
    rw [split, tail] at h
    cases here : c == separator with
    | true =>
      rw [here] at h
      cases h
      rw [List.flatMap_cons, List.nil_append, List.cons_append, ← whole, beq_iff_eq.1 here]
    | false =>
      rw [here] at h
      cases h
      rw [List.cons_append, ← whole]

end Stencil.Text
