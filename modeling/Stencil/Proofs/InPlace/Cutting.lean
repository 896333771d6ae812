import Stencil.Proofs.InPlace.Expanding
import Stencil.Proofs.Program.Cutting

/-!
# Artifacts, in place

An artifact is cut at the marks of its tags. A mark that is not one of a tag is passed over as a whole;
no other mark starts inside it. The pieces are those of `Piece.cut`, with the same offsets.
-/

namespace Stencil
open InPlace Text

def Text.offsetOf? (wanted : List Char → Bool) : List Char → Option Nat
  | [] => none
  | c :: cs => if wanted (c :: cs) then some 0 else (offsetOf? wanted cs).map (c.utf8Size + ·)

def Instruction.split (body : List Char) (offset bodyOffset : Nat) : InPlace Instruction := do
  let begun := trimStart body
  let lead ← minus (byteLength body) (byteLength begun)
  let length := (offsetOf? (fun cs => cs.head?.any isBlank) begun).getD (byteLength begun)
  let keyword ← slice begun 0 length
  let after ← sliceFrom begun length
  let headerLead ← minus (byteLength after) (byteLength (trimStart after))
  return ⟨keyword, trim after, offset, bodyOffset + lead + length + headerLead⟩

namespace Piece

def textBetween (text : List Char) (start stop : Nat) : InPlace (List Piece) :=
  if start < stop then do return [.text (← slice text start stop)] else pure []

def cutFrom (text : List Char) (pieces : List Piece) (copied search : Nat) :
    (rounds : Nat) → InPlace (List Piece)
  | 0 => breach .standstill
  | rounds + 1 => do
    match offsetOf? Fragment.openTag.isPrefixOf (← sliceFrom text search) with
    | none => return pieces ++ (← textBetween text copied (byteLength text))
    | some found =>
      let offset := search + found
      let start := offset + byteLength Fragment.openTag
      if (← sliceFrom text start).head?.all isBlank then
        match ← closeTagFrom (bytes text) start none with
        | none => refuse (.malformed offset .unterminatedTag)
        | some stop =>
          let before ← textBetween text copied offset
          let i ← Instruction.split (← slice text start stop) offset start
          let next := stop + byteLength Fragment.closeTag
          cutFrom text (pieces ++ before ++ [.instruction i]) next next rounds
      else cutFrom text pieces copied start rounds

end Piece

/-! ## Instructions -/

theorem Text.offsetOf?_isBlank (cs : List Char) :
    (offsetOf? (fun cs => cs.head?.any isBlank) cs).getD (byteLength cs) =
      byteLength (cs.takeWhile (!isBlank ·)) := by
  induction cs with
  | nil => rfl
  | cons c cs ih =>
    rw [offsetOf?, List.head?_cons, Option.any_some, List.takeWhile_cons]
    cases isBlank c with
    | true => rfl
    | false =>
      rw [Bool.not_false, if_pos rfl, if_neg Bool.false_ne_true, byteLength_cons, byteLength_cons, ← ih]
      cases offsetOf? (fun cs => cs.head?.any isBlank) cs <;> rfl

theorem Text.byteLength_dropWhile_le (p : Char → Bool) (cs : List Char) :
    byteLength (cs.dropWhile p) ≤ byteLength cs := by
  have whole := congrArg byteLength (List.takeWhile_append_dropWhile (p := p) (l := cs))
  rw [byteLength_append] at whole
  omega

theorem Instruction.split_eq (body : List Char) (offset : Nat) :
    split body offset (offset + byteLength Fragment.openTag) = pure (ofBody offset body) := by
  have less : byteLength (trimStart body) ≤ byteLength body := byteLength_dropWhile_le isBlank body
  generalize begins : trimStart body = begun at less
  have whole : begun.takeWhile (!isBlank ·) ++ begun.dropWhile (!isBlank ·) = begun :=
    List.takeWhile_append_dropWhile
  have keyword := slice_append [] (begun.takeWhile (!isBlank ·)) (begun.dropWhile (!isBlank ·))
  have after := sliceFrom_append (begun.takeWhile (!isBlank ·)) (begun.dropWhile (!isBlank ·))
  rw [List.nil_append, whole, byteLength_nil, Nat.zero_add] at keyword
  rw [whole] at after
  have sum := congrArg byteLength whole
  rw [byteLength_append] at sum
  have fewer : byteLength (trimStart (begun.dropWhile (!isBlank ·))) ≤
      byteLength (begun.dropWhile (!isBlank ·)) := byteLength_dropWhile_le isBlank _
  simp only [split, ofBody, begins, minus_eq less, pure_bind, offsetOf?_isBlank, keyword, after,
    minus_eq fewer]
  congr 2
  omega

/-! ## Pieces -/

namespace Piece

variable {c : Char} {cs body inner rest held : List Char} {pieces more : List Piece}

def ofText : List Char → List Piece
  | [] => []
  | cs => [.text cs]

theorem foldr_begunWith_append (held : List Char) (h : ∀ cs rest, more ≠ .text cs :: rest) :
    held.foldr begunWith more = ofText held ++ more := by
  induction held with
  | nil => rfl
  | cons c held ih =>
    rw [List.foldr_cons, ih]
    cases held with
    | nil =>
      cases more with
      | nil => rfl
      | cons p more =>
        cases p with
        | text cs => exact absurd rfl (h cs more)
        | instruction i => rfl
    | cons d held => rfl

theorem textBetween_append (done held tail : List Char) :
    textBetween (done ++ held ++ tail) (byteLength done) (byteLength (done ++ held)) =
      pure (ofText held) := by
  rw [textBetween, byteLength_append]
  cases held with
  | nil => rw [byteLength_nil, Nat.add_zero, if_neg (Nat.lt_irrefl _)]; rfl
  | cons c held =>
    have positive := Char.utf8Size_pos c
    rw [if_pos (by rw [byteLength_cons]; omega), slice_append]
    rfl

theorem exists_of_tagStart? (h : tagStart? cs = some body) :
    cs = Fragment.openTag ++ body ∧ body.head?.all isBlank = true := by
  unfold tagStart? at h
  split at h
  · next after start =>
    split at h
    · next blank =>
      cases h
      exact ⟨isPrefixOf?_eq_some_iff.1 start, blank⟩
    · cases h
  · cases h

theorem tagStart?_openTag_iff : tagStart? (Fragment.openTag ++ body) = none ↔
    ¬body.head?.all isBlank = true := by
  have start := isPrefixOf?_eq_some_iff.2 (rfl : Fragment.openTag ++ body = Fragment.openTag ++ body)
  unfold tagStart?
  simp only [start, ite_eq_right_iff, reduceCtorEq, imp_false]

theorem cutFrom_skip (xs : List Char) (copied rounds : Nat)
    (absent : Fragment.openTag.isPrefixOf (c :: cs) = false) :
    cutFrom (xs ++ c :: cs) pieces copied (byteLength xs) rounds =
      cutFrom (xs ++ c :: cs) pieces copied (byteLength (xs ++ [c])) rounds := by
  have after := sliceFrom_append (xs ++ [c]) cs
  rw [List.append_assoc, List.singleton_append] at after
  cases rounds with
  | zero => rfl
  | succ rounds =>
    rw [cutFrom, cutFrom, sliceFrom_append, after, pure_bind, pure_bind, offsetOf?,
      if_neg (Bool.eq_false_iff.1 absent)]
    cases offsetOf? Fragment.openTag.isPrefixOf cs with
    | none => rfl
    | some found => simp only [Option.map_some, byteLength_concat, Nat.add_assoc]

theorem cutFrom_skip_mark (xs : List Char) (copied rounds : Nat)
    (absent : tagStart? (c :: cs) = none) :
    ∃ left, rounds ≤ left ∧ cutFrom (xs ++ c :: cs) pieces copied (byteLength xs) (rounds + 1) =
      cutFrom (xs ++ c :: cs) pieces copied (byteLength (xs ++ [c])) left := by
  cases mark : Fragment.openTag.isPrefixOf (c :: cs) with
  | false => exact ⟨rounds + 1, Nat.le_succ _, cutFrom_skip xs copied (rounds + 1) mark⟩
  | true =>
    obtain ⟨body, whole⟩ := List.isPrefixOf_iff_prefix.1 mark
    rw [← whole, tagStart?_openTag_iff] at absent
    have after := sliceFrom_append (xs ++ Fragment.openTag) body
    rw [List.append_assoc, whole] at after
    have jump : cutFrom (xs ++ c :: cs) pieces copied (byteLength xs) (rounds + 1) =
        cutFrom (xs ++ c :: cs) pieces copied (byteLength (xs ++ Fragment.openTag)) rounds := by
      rw [cutFrom, sliceFrom_append, pure_bind, offsetOf?, if_pos mark]
      simp only [Nat.add_zero, ← byteLength_append, after, pure_bind, absent, Bool.false_eq_true,
        if_false]
    -- None of the other characters of the mark starts a mark.
    cases whole
    have second := @cutFrom_skip '?' ('t' :: 'p' :: 'l' :: body) pieces (xs ++ ['<']) copied rounds rfl
    have third := @cutFrom_skip 't' ('p' :: 'l' :: body) pieces (xs ++ ['<', '?']) copied rounds rfl
    have fourth := @cutFrom_skip 'p' ('l' :: body) pieces (xs ++ ['<', '?', 't']) copied rounds rfl
    have fifth := @cutFrom_skip 'l' body pieces (xs ++ ['<', '?', 't', 'p']) copied rounds rfl
    simp only [List.append_assoc, List.cons_append, List.nil_append] at second third fourth fifth
    refine ⟨rounds, Nat.le_refl _, ?_⟩
    exact jump.trans (second.trans (third.trans (fourth.trans fifth))).symm

theorem cutFrom_tag (xs : List Char) (copied rounds : Nat) (blank : body.head?.all isBlank = true) :
    cutFrom (xs ++ (Fragment.openTag ++ body)) pieces copied (byteLength xs) (rounds + 1) =
      match ending (xs ++ Fragment.openTag) (closeTag? .outside body) with
      | none => refuse (.malformed (byteLength xs) .unterminatedTag)
      | some stop => (do
        let before ← textBetween (xs ++ (Fragment.openTag ++ body)) copied (byteLength xs)
        let inner ← slice (xs ++ (Fragment.openTag ++ body)) (byteLength (xs ++ Fragment.openTag)) stop
        let i ← Instruction.split inner (byteLength xs) (byteLength (xs ++ Fragment.openTag))
        cutFrom (xs ++ (Fragment.openTag ++ body)) (pieces ++ before ++ [.instruction i])
          (stop + byteLength Fragment.closeTag) (stop + byteLength Fragment.closeTag) rounds) := by
  have mark : Fragment.openTag.isPrefixOf (Fragment.openTag ++ body) = true := rfl
  have after := sliceFrom_append (xs ++ Fragment.openTag) body
  have found := closeTagFrom_eq body (xs ++ Fragment.openTag) .outside (by rintro _ ⟨⟩)
  rw [List.append_assoc] at after found
  have here : offsetOf? Fragment.openTag.isPrefixOf (Fragment.openTag ++ body) = some 0 := if_pos mark
  simp only [Quoting.passed, Quoting.mark, Nat.add_zero] at found
  rw [cutFrom, sliceFrom_append, pure_bind, here]
  simp only [Nat.add_zero, ← byteLength_append, after, pure_bind, blank, if_true, found]

theorem cut_of_start (offset : Nat) (start : tagStart? (c :: cs) = some body) :
    cut offset (c :: cs) =
      match closeTag? .outside body with
      | none => .error (.malformed offset .unterminatedTag)
      | some (inner, rest) =>
        (cut (offset + byteLength (Fragment.openTag ++ inner ++ Fragment.closeTag)) rest).map
          (.instruction (.ofBody offset inner) :: ·) := by
  rw [cut]
  split
  · next absent =>
    rw [start] at absent
    cases absent
  · next same =>
    cases start.symm.trans same
    split
    · next unclosed => rw [unclosed]
    · next closed => rw [closed]

theorem cutFrom_found (blank : body.head?.all isBlank = true)
    (closed : closeTag? .outside body = some (inner, rest)) (done held : List Char)
    (pieces : List Piece) (rounds : Nat) :
    cutFrom (done ++ held ++ (Fragment.openTag ++ body)) pieces (byteLength done)
        (byteLength (done ++ held)) (rounds + 1) =
      cutFrom (done ++ held ++ Fragment.openTag ++ inner ++ Fragment.closeTag ++ rest)
        (pieces ++ ofText held ++ [.instruction (.ofBody (byteLength (done ++ held)) inner)])
        (byteLength (done ++ held ++ Fragment.openTag ++ inner ++ Fragment.closeTag))
        (byteLength (done ++ held ++ Fragment.openTag ++ inner ++ Fragment.closeTag)) rounds := by
  have text : done ++ held ++ (Fragment.openTag ++ body) =
      done ++ held ++ Fragment.openTag ++ inner ++ (Fragment.closeTag ++ rest) := by
    simp [closeTag?_eq_append closed, Fragment.closeTag]
  rw [cutFrom_tag _ _ _ blank, closed]
  simp only [ending, Option.map_some, textBetween_append, pure_bind]
  rw [text, slice_append, pure_bind, byteLength_append _ Fragment.openTag, Instruction.split_eq,
    pure_bind, List.append_assoc _ Fragment.closeTag]
  simp only [byteLength_append]

theorem cutFrom_eq (cs done held : List Char) (pieces : List Piece) {rounds : Nat}
    (enough : cs.length < rounds) :
    cutFrom (done ++ held ++ cs) pieces (byteLength done) (byteLength (done ++ held)) rounds =
      of ((cut (byteLength (done ++ held)) cs).map fun more => pieces ++ held.foldr begunWith more) := by
  match cs, rounds, enough with
  | [], rounds + 1, _ =>
    have last : held.foldr begunWith [] = ofText held := by
      rw [foldr_begunWith_append held (by rintro cs rest ⟨⟩), List.append_nil]
    have text := textBetween_append done held []
    have none := sliceFrom_append (done ++ held) []
    rw [List.append_nil] at text none ⊢
    rw [cutFrom, cut, none, pure_bind, offsetOf?, Except.map, last, of_ok]
    simp only [text, pure_bind]
  | c :: cs, rounds + 1, enough =>
    cases start : tagStart? (c :: cs) with
    | none =>
      obtain ⟨left, less, skip⟩ := @cutFrom_skip_mark c cs pieces (done ++ held) (byteLength done)
        rounds start
      have next := cutFrom_eq cs done (held ++ [c]) pieces
        (Nat.lt_of_lt_of_le (Nat.lt_of_succ_lt_succ enough) less)
      rw [← List.append_assoc done, List.append_assoc _ [c], List.singleton_append,
        byteLength_concat] at next
      rw [skip, cut_cons _ start, byteLength_concat, next]
      cases cut (byteLength (done ++ held) + c.utf8Size) cs with
      | error e => rfl
      | ok more => simp only [Except.map, List.foldr_append, List.foldr_cons, List.foldr_nil]
    | some body =>
      obtain ⟨whole, blank⟩ := exists_of_tagStart? start
      rw [cut_of_start _ start]
      cases closed : closeTag? .outside body with
      | none =>
        rw [whole, cutFrom_tag _ _ _ blank, closed]
        rfl
      | some parts =>
        obtain ⟨inner, rest⟩ := parts
        have fewer : rest.length < (c :: cs).length := by
          rw [whole, closeTag?_eq_append closed]
          simp only [List.length_append, List.length_cons]
          omega
        have next := cutFrom_eq rest (done ++ held ++ Fragment.openTag ++ inner ++ Fragment.closeTag)
          [] (pieces ++ ofText held ++ [.instruction (.ofBody (byteLength (done ++ held)) inner)])
          (Nat.lt_of_lt_of_le fewer (Nat.le_of_lt_succ enough))
        rw [List.append_nil] at next
        rw [whole, cutFrom_found blank closed, next]
        simp only [← byteLength_append, ← List.append_assoc]
        cases cut (byteLength (done ++ held ++ Fragment.openTag ++ inner ++ Fragment.closeTag)) rest with
        | error e => rfl
        | ok more =>
          simp only [Except.map, List.foldr_nil]
          rw [foldr_begunWith_append held (by rintro cs rest ⟨⟩)]
          simp only [List.append_assoc, List.singleton_append]
termination_by cs.length
decreasing_by
  · exact Nat.lt_succ_self _
  · exact fewer

end Piece

end Stencil
