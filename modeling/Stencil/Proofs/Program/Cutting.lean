import Stencil.Program.Piece
import Stencil.Proofs.Directive.Parts

/-!
# Cutting artifacts

An artifact written as texts and tags is cut into exactly these pieces (`cut_stretches`). The header
of a tag must be one that the search for the closing mark passes over.
-/

namespace Stencil
open Text

def Text.Passed (cs : List Char) : Prop :=
  ∀ tail, closeTag? .outside (cs ++ tail) = prefixed cs (closeTag? .outside tail)

theorem Text.Passed.append {cs ds : List Char} (left : Passed cs) (right : Passed ds) :
    Passed (cs ++ ds) := by
  intro tail
  rw [List.append_assoc, left, right, prefixed_prefixed]

theorem Text.passed_of_plain {cs : List Char} (plain : ∀ c ∈ cs, isQuote c = false ∧ c ≠ '?') :
    Passed cs :=
  fun _ => closeTag?_of_plain plain

theorem Text.passed_of_isName {cs : List Char} (named : isName cs = true) : Passed cs := by
  refine passed_of_plain fun c mem => ?_
  exact (Lexer.isPlain_of_isNameChar (isNameChar_of_isName named c mem)).unasked

/-! ## Tags -/

namespace Fragment

def after : List Char → List Char
  | [] => []
  | header => ' ' :: header

variable {keyword header rest : List Char}

theorem solid_of_isName (named : isName keyword = true) : ∀ c ∈ keyword, isBlank c = false := by
  intro c mem
  refine Bool.eq_false_iff.2 fun blank => ?_
  have low := Lexer.isBlank_bounds blank
  have high := Lexer.isNameChar_bounds (isNameChar_of_isName named c mem)
  omega

theorem ne_nil_of_isName (named : isName keyword = true) : keyword ≠ [] := by
  rintro rfl
  cases named

theorem trimmed_of_isName (named : isName keyword = true) : Trimmed keyword := by
  have solid := solid_of_isName named
  exact ⟨fun c mem => solid c (List.mem_of_mem_head? mem),
    fun c mem => solid c (List.mem_of_mem_getLast? mem)⟩

theorem trim_headed (named : isName keyword = true) :
    trim (keyword ++ ' ' :: trim header) = keyword ++ after (trim header) := by
  have trimmed := trimmed_of_isName named
  cases whole : trim header with
  | nil =>
    rw [after, List.append_nil]
    exact trimmed.trim_append allBlank_space
  | cons c cs =>
    have ending : ∀ d ∈ (' ' :: c :: cs).getLast?, isBlank d = false := by
      rw [List.getLast?_cons_cons, ← whole]
      exact (trimmed_trim header).last
    exact (Trimmed.append trimmed.first (ne_nil_of_isName named) ending (by simp)).trim_eq

theorem instruction_eq_headed (named : isName keyword = true) :
    instruction keyword = headed keyword [] := by
  have spaced : trim (keyword ++ ' ' :: trim []) = keyword ++ after (trim []) := trim_headed named
  have bare : after (trim []) = [] := rfl
  rw [headed, instruction, instruction, spaced, (trimmed_of_isName named).trim_eq, bare,
    List.append_nil]

theorem headed_eq (named : isName keyword = true) :
    headed keyword header ++ rest =
      openTag ++ (' ' :: (keyword ++ (after (trim header) ++ (' ' :: '?' :: '>' :: rest)))) := by
  rw [headed, instruction, trim_headed named]
  simp [closeTag]

end Fragment

namespace Instruction

variable {keyword : List Char}

theorem ofBody_headed (offset : Nat) (header : List Char) (named : isName keyword = true) :
    let i := ofBody offset (' ' :: (keyword ++ (Fragment.after (trim header) ++ [' '])))
    i.keyword = keyword ∧ i.header = trim header := by
  have solid := Fragment.solid_of_isName named
  have word : ∀ c ∈ keyword, (!isBlank c) = true := fun c mem => by rw [solid c mem]; rfl
  have begun : trimStart (' ' :: (keyword ++ (Fragment.after (trim header) ++ [' ']))) =
      keyword ++ (Fragment.after (trim header) ++ [' ']) := by
    cases keyword with
    | nil => cases named
    | cons c cs =>
      have space : isBlank ' ' = true := rfl
      rw [trimStart, List.dropWhile_cons_of_pos space]
      exact dropWhile_of_head fun d mem => solid d (by cases mem; exact List.mem_cons_self ..)
  have stops : ∃ tail, Fragment.after (trim header) ++ [' '] = ' ' :: tail := by
    cases trim header with
    | nil => exact ⟨[], rfl⟩
    | cons c cs => exact ⟨_, rfl⟩
  obtain ⟨tail, space⟩ := stops
  simp only [ofBody, begun]
  constructor
  · rw [List.takeWhile_append_of_pos word, space]
    exact List.append_nil _
  · rw [List.dropWhile_append_of_pos word, space]
    show trim (' ' :: tail) = trim header
    rw [← space]
    cases whole : trim header with
    | nil => exact Trimmed.nil.trim_append allBlank_space
    | cons c cs =>
      have trimmed := trimmed_trim header
      rw [whole] at trimmed
      have between : trim ([' '] ++ (c :: cs ++ [' '])) = c :: cs :=
        trimmed.trim_between allBlank_space allBlank_space
      exact between

end Instruction

/-! ## Pieces -/

/-- A stretch of an artifact: a text without tags, or a tag with its keyword and its header. -/
inductive Stretch where
  | text (cs : List Char) (some : cs ≠ []) (closed : ¬Fragment.openTag <:+: cs)
  | tag (keyword header : List Char) (named : isName keyword = true) (passed : Passed (trim header))

namespace Stretch

def write : Stretch → List Char
  | text cs _ _ => cs
  | tag keyword header _ _ => Fragment.headed keyword header

def MayPrecede : Stretch → Stretch → Prop
  | text .., text .. => False
  | _, _ => True

inductive Cut : Stretch → Piece → Prop
  | text {cs some closed} : Cut (.text cs some closed) (.text cs)
  | tag {keyword header named passed i} : i.keyword = keyword → i.header = trim header →
      Cut (.tag keyword header named passed) (.instruction i)

end Stretch

theorem forall₂_append {α β : Type} {R : α → β → Prop} {xs ys : List α} {zs : List β}
    (h : List.Forall₂ R (xs ++ ys) zs) :
    ∃ front back, List.Forall₂ R xs front ∧ List.Forall₂ R ys back ∧ zs = front ++ back := by
  induction xs generalizing zs with
  | nil => exact ⟨[], zs, .nil, h, rfl⟩
  | cons x xs ih =>
    obtain _ | ⟨first, tail⟩ := h
    obtain ⟨front, back, left, right, rfl⟩ := ih tail
    exact ⟨_, back, .cons first left, right, rfl⟩

namespace Piece

variable {cs rest : List Char} {c : Char}

theorem tagStart?_eq_none (closed : ¬Fragment.openTag <:+: c :: cs)
    (stops : ∀ d ∈ rest.head?, d = '<') : tagStart? (c :: (cs ++ rest)) = none := by
  unfold tagStart?
  split
  · next body start =>
    exfalso
    rw [isPrefixOf?_eq_some_iff, ← List.cons_append, List.append_eq_append_iff] at start
    rcases start with ⟨more, mark, same⟩ | ⟨more, same, -⟩
    · cases more with
      | nil =>
        rw [List.append_nil] at mark
        exact closed (mark ▸ List.infix_rfl)
      | cons d more =>
        obtain rfl := stops d (by rw [same]; rfl)
        have inside : '<' ∈ Fragment.openTag.tail := by
          rw [mark]
          simp
        exact absurd inside (by decide)
    · exact closed ⟨[], more, by rw [same, List.nil_append]⟩
  · rfl

theorem cut_cons (offset : Nat) (absent : tagStart? (c :: cs) = none) :
    cut offset (c :: cs) = (cut (offset + c.utf8Size) cs).map (begunWith c) := by
  rw [cut]
  split
  · rfl
  · next found =>
    rw [absent] at found
    cases found

theorem cut_of_tag {body inner : List Char} (offset : Nat) (start : tagStart? (c :: cs) = some body)
    (close : closeTag? .outside body = some (inner, rest)) :
    ∃ next, cut offset (c :: cs) =
      (cut next rest).map (.instruction (.ofBody offset inner) :: ·) := by
  rw [cut]
  split
  · next absent =>
    rw [start] at absent
    cases absent
  · next found =>
    cases start.symm.trans found
    split
    · next absent =>
      rw [close] at absent
      cases absent
    · next found =>
      cases close.symm.trans found
      exact ⟨_, rfl⟩

theorem cut_text {after : List Piece → Prop} (offset : Nat) (some : cs ≠ [])
    (closed : ¬Fragment.openTag <:+: cs) (stops : ∀ d ∈ rest.head?, d = '<')
    (untexted : ∀ ds pieces, ¬after (.text ds :: pieces))
    (tail : ∀ offset, ∃ pieces, cut offset rest = .ok pieces ∧ after pieces) :
    ∃ pieces, cut offset (cs ++ rest) = .ok (.text cs :: pieces) ∧ after pieces := by
  induction cs generalizing offset with
  | nil => exact absurd rfl some
  | cons c cs ih =>
    rw [List.cons_append, cut_cons offset (tagStart?_eq_none closed stops)]
    by_cases last : cs = []
    · obtain ⟨pieces, read, follow⟩ := tail (offset + c.utf8Size)
      refine ⟨pieces, ?_, follow⟩
      rw [last, List.nil_append, read]
      match pieces with
      | [] => rfl
      | .text ds :: pieces => exact absurd follow (untexted ds pieces)
      | .instruction i :: pieces => rfl
    · have free : ¬Fragment.openTag <:+: cs := fun inside => closed (List.infix_cons inside)
      obtain ⟨pieces, read, follow⟩ := ih (offset + c.utf8Size) last free
      exact ⟨pieces, by rw [read]; rfl, follow⟩

theorem tagStart?_openTag (cs : List Char) :
    tagStart? (Fragment.openTag ++ ' ' :: cs) = some (' ' :: cs) :=
  rfl

theorem passed_space : Passed [' '] :=
  passed_of_plain (List.all_iff_forall_prop.1 rfl)

theorem closeTag?_body {body : List Char} (passed : Passed body) (rest : List Char) :
    closeTag? .outside (' ' :: (body ++ (' ' :: '?' :: '>' :: rest))) =
      some (' ' :: (body ++ [' ']), rest) := by
  have whole := (passed_space.append (passed.append passed_space)) ('?' :: '>' :: rest)
  rw [List.append_assoc, List.append_assoc, List.singleton_append, List.singleton_append] at whole
  rw [whole, closeTag?, if_pos ⟨rfl, rfl, rfl⟩]
  simp [prefixed]

theorem passed_after {header : List Char} (passed : Passed header) :
    Passed (Fragment.after header) := by
  cases header with
  | nil => exact passed
  | cons c cs => exact passed_space.append passed

theorem cut_tag {keyword header : List Char} (offset : Nat) (rest : List Char)
    (named : isName keyword = true) (passed : Passed (trim header)) :
    ∃ i next, cut offset (Fragment.headed keyword header ++ rest) =
        (cut next rest).map (.instruction i :: ·) ∧
      i.keyword = keyword ∧ i.header = trim header := by
  have body : Passed (keyword ++ Fragment.after (trim header)) :=
    (passed_of_isName named).append (passed_after passed)
  have start := tagStart?_openTag
    (keyword ++ (Fragment.after (trim header) ++ (' ' :: '?' :: '>' :: rest)))
  have close : closeTag? .outside
      (' ' :: (keyword ++ (Fragment.after (trim header) ++ (' ' :: '?' :: '>' :: rest)))) =
      some (' ' :: (keyword ++ (Fragment.after (trim header) ++ [' '])), rest) := by
    have whole := closeTag?_body body rest
    rwa [List.append_assoc, List.append_assoc] at whole
  have read := Instruction.ofBody_headed offset header named
  rw [Fragment.headed_eq named]
  obtain ⟨next, cuts⟩ := cut_of_tag offset start close
  exact ⟨_, next, cuts, read⟩

/-- An artifact is cut into the pieces of its stretches. -/
theorem cut_stretches {stretches : List Stretch} (offset : Nat)
    (apart : List.IsChain Stretch.MayPrecede stretches) :
    ∃ pieces, cut offset (stretches.flatMap Stretch.write) = .ok pieces ∧
      List.Forall₂ Stretch.Cut stretches pieces := by
  induction stretches generalizing offset with
  | nil => exact ⟨[], by rw [List.flatMap_nil, cut], .nil⟩
  | cons s stretches ih =>
    have tail := fun offset => ih offset apart.tail
    rw [List.flatMap_cons]
    cases s with
    | text cs some closed =>
      -- Only a tag or the end comes after a text, so the text is one piece.
      have tagged : ∀ t ∈ stretches.head?, ∃ keyword header named passed,
          t = .tag keyword header named passed := by
        intro t first
        have next := List.isChain_cons.1 apart |>.1 t first
        cases t with
        | text _ _ _ => exact next.elim
        | tag keyword header named passed => exact ⟨keyword, header, named, passed, rfl⟩
      have stops : ∀ d ∈ (stretches.flatMap Stretch.write).head?, d = '<' := by
        cases stretches with
        | nil => rintro d ⟨⟩
        | cons t stretches =>
          obtain ⟨_, _, _, _, rfl⟩ := tagged t rfl
          rintro d ⟨⟩
          rfl
      have untexted : ∀ ds pieces, ¬List.Forall₂ Stretch.Cut stretches (.text ds :: pieces) := by
        rintro ds pieces (_ | ⟨cuts, _⟩)
        obtain ⟨_, _, _, _, rfl⟩ := tagged _ rfl
        cases cuts
      obtain ⟨pieces, read, follow⟩ := cut_text offset some closed stops untexted tail
      exact ⟨_, read, .cons .text follow⟩
    | tag keyword header named passed =>
      obtain ⟨i, next, read, key, head⟩ := cut_tag offset _ named passed
      obtain ⟨pieces, rest, follow⟩ := tail next
      refine ⟨.instruction i :: pieces, ?_, .cons (.tag key head) follow⟩
      rw [Stretch.write, read, rest]
      rfl

end Piece

end Stencil
