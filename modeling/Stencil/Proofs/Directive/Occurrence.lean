import Stencil.Directive.Basic
import Stencil.Proofs.Expr.Lexing
import Stencil.Proofs.Text.Balance

/-!
# One directive on a text

What an occurrence of a directive is (`occurrence?_eq_some_iff`), and what expansion does at the front of a
text: characters other than the at sign stay, an occurrence of the directive becomes its fragment, and the
sign of another directive stays.
-/

namespace Stencil.Directive
open Text

/-! ## Signs and occurrences -/

/-- A sign of the directive, before the rest of a text: up to the opening parenthesis, or a name that
ends there. -/
inductive Triggers (d : Directive) : (mark rest : List Char) → Prop
  | argument {blanks rest} : d.takesArgument = true → AllBlank blanks →
      Triggers d (d.sign ++ blanks ++ ['(']) rest
  | bare {rest} : d.takesArgument = false → atWordEnd rest = true → Triggers d d.sign rest

/-- An occurrence of the directive with its argument, before the rest of a text: a sign, and a balanced
text up to the closing parenthesis if it takes an argument. -/
inductive Occurs (d : Directive) : (occurrence argument rest : List Char) → Prop
  | argument {mark h rest} : d.takesArgument = true → Triggers d mark (h ++ ')' :: rest) → Balanced h →
      Occurs d (mark ++ h ++ [')']) h rest
  | bare {mark rest} : d.takesArgument = false → Triggers d mark rest → Occurs d mark [] rest

variable {d e : Directive} {c : Char} {cs h inner rest : List Char}

theorem trigger?_eq_some_iff :
    d.trigger? cs = some inner ↔ ∃ mark, cs = mark ++ inner ∧ d.Triggers mark inner := by
  constructor
  · intro found
    unfold trigger? at found
    split at found
    · cases found
    next after start =>
    obtain rfl := isPrefixOf?_eq_some_iff.1 start
    split at found
    · next takes =>
      split at found
      · next shape =>
        cases found
        have blanks := List.takeWhile_append_dropWhile (p := isBlank) (l := after)
        refine ⟨_, ?_, .argument takes (@allBlank_takeWhile after)⟩
        rw [List.append_assoc, List.append_assoc, List.singleton_append, ← shape, blanks]
      · cases found
    · next bare =>
      split at found
      · next ended =>
        cases found
        exact ⟨_, rfl, .bare (Bool.eq_false_iff.2 bare) ended⟩
      · cases found
  · rintro ⟨mark, rfl, triggers⟩
    cases triggers with
    | @argument blanks _ takes blank =>
      have start : d.sign.isPrefixOf? (d.sign ++ blanks ++ ['('] ++ inner) =
          some (blanks ++ '(' :: inner) := isPrefixOf?_eq_some_iff.2 (by simp)
      have shape : (blanks ++ '(' :: inner).dropWhile isBlank = '(' :: inner := by
        rw [List.dropWhile_append_of_pos blank, List.dropWhile_cons_of_neg (by decide)]
      unfold trigger?
      simp only [start, takes, if_true, shape]
    | bare takes ended =>
      unfold trigger?
      simp only [isPrefixOf?_eq_some_iff.2 (rfl : d.sign ++ inner = _), takes, ended, if_true,
        Bool.false_eq_true, if_false]

theorem occurrence?_eq_some_iff : d.occurrence? cs = some (h, rest) ↔
    ∃ occurrence, cs = occurrence ++ rest ∧ d.Occurs occurrence h rest := by
  constructor
  · intro found
    unfold occurrence? at found
    split at found
    · cases found
    next inner trigger =>
    obtain ⟨mark, rfl, triggers⟩ := trigger?_eq_some_iff.1 trigger
    split at found
    · next takes =>
      obtain ⟨rfl, balanced⟩ := closing?_eq_some_iff.1 found
      exact ⟨_, by simp, .argument takes triggers balanced⟩
    · next bare =>
      cases found
      exact ⟨mark, rfl, .bare (Bool.eq_false_iff.2 bare) triggers⟩
  · rintro ⟨occurrence, rfl, occurs⟩
    unfold occurrence?
    cases occurs with
    | @argument mark _ _ takes triggers balanced =>
      have trigger : d.trigger? (mark ++ h ++ [')'] ++ rest) = some (h ++ ')' :: rest) :=
        trigger?_eq_some_iff.2 ⟨mark, by simp, triggers⟩
      simp only [trigger, takes, if_true, closing?_eq_some_iff.2 ⟨rfl, balanced⟩]
    | bare takes triggers =>
      simp only [trigger?_eq_some_iff.2 ⟨_, rfl, triggers⟩, takes, Bool.false_eq_true, if_false]

/-! ## Expanding -/

theorem expand_of_occurrence {tail : List Char} (found : d.occurrence? (c :: cs) = some (h, tail)) :
    d.expand (c :: cs) = d.compile h ++ d.expand tail := by
  rw [expand]
  split
  · next same =>
    rw [found] at same
    cases same
    rfl
  · next none =>
    rw [found] at none
    cases none

theorem expand_of_none (absent : d.occurrence? (c :: cs) = none) :
    d.expand (c :: cs) = c :: d.expand cs := by
  rw [expand]
  split
  · next found =>
    rw [absent] at found
    cases found
  · rfl

theorem expand_of_trigger?_eq_none (absent : d.trigger? (c :: cs) = none) :
    d.expand (c :: cs) = c :: d.expand cs := by
  refine expand_of_none ?_
  unfold occurrence?
  rw [absent]

theorem trigger?_eq_none_of_ne (other : c ≠ '@') : d.trigger? (c :: cs) = none := by
  have start : d.sign.isPrefixOf? (c :: cs) = none := by
    unfold sign
    rw [isPrefixOf?_cons_cons, if_neg]
    simpa using other.symm
  unfold trigger?
  rw [start]

theorem expand_append (unsigned : '@' ∉ cs) : d.expand (cs ++ rest) = cs ++ d.expand rest := by
  induction cs with
  | nil => rfl
  | cons c cs ih =>
    rw [List.mem_cons, not_or] at unsigned
    rw [List.cons_append, expand_of_trigger?_eq_none (trigger?_eq_none_of_ne (Ne.symm unsigned.1)),
      ih unsigned.2, List.cons_append]

theorem expand_nil : d.expand [] = [] := by
  rw [expand]

/-! ## Signs of the directive -/

theorem expand_argument (takes : d.takesArgument = true) (balanced : through 0 .outside h = some (0, .outside)) :
    d.expand (d.sign ++ '(' :: (h ++ ')' :: rest)) = d.compile h ++ d.expand rest := by
  have sign : d.Triggers (d.sign ++ [] ++ ['(']) (h ++ ')' :: rest) := .argument takes nofun
  have found : d.occurrence? (d.sign ++ '(' :: (h ++ ')' :: rest)) = some (h, rest) :=
    occurrence?_eq_some_iff.2 ⟨_, by simp, .argument takes sign (balanced_iff_through.2 balanced)⟩
  exact expand_of_occurrence found

theorem expand_bare (bare : d.takesArgument = false) (ended : atWordEnd rest = true) :
    d.expand (d.sign ++ rest) = d.compile [] ++ d.expand rest := by
  have found : d.occurrence? (d.sign ++ rest) = some ([], rest) :=
    occurrence?_eq_some_iff.2 ⟨_, rfl, .bare bare (.bare bare ended)⟩
  exact expand_of_occurrence found

/-! ## Signs of other directives -/

theorem isWord_of_isNameChar (name : isNameChar c = true) : isWord c = true := by
  have bounds := Lexer.isNameChar_bounds name
  unfold isWord
  rw [if_pos (by omega)]
  exact name

theorem not_isBlank_of_isNameChar (name : isNameChar c = true) : isBlank c = false := by
  refine Bool.eq_false_iff.2 fun blank => ?_
  have inner := Lexer.isNameChar_bounds name
  have outer := Lexer.isBlank_bounds blank
  omega

theorem not_atWordEnd {more : List Char} (names : ∀ c ∈ more, isNameChar c = true) (some : more ≠ []) :
    atWordEnd (more ++ rest) = false := by
  cases more with
  | nil => exact absurd rfl some
  | cons c more =>
    have word := isWord_of_isNameChar (names c (List.mem_cons_self ..))
    simp [atWordEnd, word]

theorem trigger?_eq_none_of_name_ne (named : isName d.name.toList = true)
    (other : isName e.name.toList = true) (different : d.name ≠ e.name)
    (ended : atWordEnd rest = true) : d.trigger? (e.sign ++ rest) = none := by
  unfold trigger?
  split
  · rfl
  next after start =>
  have same := isPrefixOf?_eq_some_iff.1 start
  rw [sign, sign, List.cons_append, List.cons_append, List.cons.injEq] at same
  obtain ⟨more, longer, goesOn⟩ | ⟨more, shorter, rfl⟩ := List.append_eq_append_iff.1 same.2
  · have names : ∀ c ∈ more, isNameChar c = true := fun c mem =>
      isNameChar_of_isName named c (longer ▸ List.mem_append_right _ mem)
    have some : more ≠ [] := by
      rintro rfl
      rw [List.append_nil] at longer
      exact different (String.toList_inj.1 longer)
    rw [goesOn, not_atWordEnd names some] at ended
    cases ended
  · have names : ∀ c ∈ more, isNameChar c = true := fun c mem =>
      isNameChar_of_isName other c (shorter ▸ List.mem_append_right _ mem)
    have some : more ≠ [] := by
      rintro rfl
      rw [List.append_nil] at shorter
      exact different (String.toList_inj.1 shorter).symm
    rw [not_atWordEnd names some]
    cases more with
    | nil => exact absurd rfl some
    | cons c more =>
      have name := names c (List.mem_cons_self ..)
      rw [List.cons_append, List.dropWhile_cons, not_isBlank_of_isNameChar name]
      split
      · split
        · next shape =>
          cases shape
          cases name
        · rfl
      · rfl

theorem expand_other_sign (named : isName d.name.toList = true) (other : isName e.name.toList = true)
    (different : d.name ≠ e.name) (ended : atWordEnd rest = true) :
    d.expand (e.sign ++ rest) = e.sign ++ d.expand rest := by
  have unsigned : '@' ∉ e.name.toList := by
    intro mem
    have name := isNameChar_of_isName other _ mem
    cases name
  have absent := trigger?_eq_none_of_name_ne named other different ended
  calc d.expand ('@' :: (e.name.toList ++ rest))
    _ = '@' :: d.expand (e.name.toList ++ rest) := expand_of_trigger?_eq_none absent
    _ = '@' :: (e.name.toList ++ d.expand rest) := by rw [expand_append unsigned]

end Stencil.Directive
