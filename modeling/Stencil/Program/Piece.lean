import Stencil.Directive.Fragment
import Stencil.Error
import Stencil.Text.Bytes
import Stencil.Text.Quoting
import Stencil.Text.Start

/-!
Artifacts as pieces: texts, and the tags between them. Main statement: a tag takes characters from the
text (`tag?_shorter`), so cutting ends.
-/

namespace Stencil

/-- An instruction: its keyword and header, the offset of its tag, and the offset of its header. -/
structure Instruction where
  keyword : List Char
  header : List Char
  offset : Nat
  headerOffset : Nat

namespace Instruction

def ofBody (offset : Nat) (body : List Char) : Instruction :=
  let isWordChar (c : Char) := !Text.isBlank c
  let begun := Text.trimStart body
  let after := begun.dropWhile isWordChar
  let taken := Text.byteLength body - Text.byteLength (Text.trimStart after)
  { keyword := begun.takeWhile isWordChar
    header := Text.trim after
    offset := offset
    headerOffset := offset + Text.byteLength Fragment.openTag + taken }

end Instruction

inductive Piece where
  | text (cs : List Char)
  | instruction (i : Instruction)

namespace Piece

/-- What follows the mark of a tag at the front of a text. The mark ends at white space or at the end
of the text. -/
def tagStart? (cs : List Char) : Option (List Char) :=
  match Fragment.openTag.isPrefixOf? cs with
  | some body => if body.head?.all Text.isBlank then some body else none
  | none => none

theorem tagStart?_shorter {cs body : List Char} (h : tagStart? cs = some body) :
    body.length < cs.length := by
  unfold tagStart? at h
  split at h
  · next rest start =>
    have whole := Text.length_of_isPrefixOf? start
    simp only [Fragment.openTag, List.length_cons] at whole
    split at h
    · cases h
      omega
    · simp at h
  · simp at h

def begunWith (c : Char) : List Piece → List Piece
  | .text cs :: rest => .text (c :: cs) :: rest
  | pieces => .text [c] :: pieces

def cut (offset : Nat) (cs : List Char) : Except Error (List Piece) :=
  match cs with
  | [] => .ok []
  | c :: cs =>
    match _h : tagStart? (c :: cs) with
    | none => (cut (offset + c.utf8Size) cs).map (begunWith c)
    | some body =>
      match _k : Text.closeTag? .outside body with
      | none => .error (.malformed offset .unterminatedTag)
      | some (inner, rest) =>
        let next := offset + Text.byteLength (Fragment.openTag ++ inner ++ Fragment.closeTag)
        (cut next rest).map (.instruction (.ofBody offset inner) :: ·)
termination_by cs.length
decreasing_by
  · simp
  · have fewer := tagStart?_shorter _h
    have whole := congrArg List.length (Text.closeTag?_eq_append _k)
    simp only [List.length_append, List.length_cons] at whole fewer ⊢
    omega

end Piece

end Stencil
