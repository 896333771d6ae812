import Stencil.Text.Alphanumeric
import Stencil.Text.Start

namespace Stencil.Slot

def marker : List Char :=
  ['@', 's', 'l', 'o', 't']

def defaultName : String :=
  "default"

def namedMarker (name : String) : List Char :=
  marker ++ "('".toList ++ name.toList ++ "')".toList

/-- The text with `content` in place of every `pattern`, which is not empty, from left to right. -/
def replace (pattern content : List Char) (cs : List Char) : List Char :=
  match cs with
  | [] => []
  | c :: cs =>
    match _h : pattern.isPrefixOf? (c :: cs) with
    | some rest =>
      if _h : pattern = [] then c :: cs
      else content ++ replace pattern content rest
    | none => c :: replace pattern content cs
termination_by cs.length
decreasing_by
  · have whole := Text.length_of_isPrefixOf? ‹_›
    have positive := List.length_pos_iff.2 ‹_›
    simp only [List.length_cons] at whole ⊢
    omega
  · simp

/-- A name or a parenthesis follows the mark, so that it does not stand alone. -/
def goesOn : List Char → Bool
  | [] => false
  | c :: _ => c == '(' || Text.isAlphanumeric c || c == '_'

def replaceBare (content : List Char) (cs : List Char) : List Char :=
  match cs with
  | [] => []
  | c :: cs =>
    match _h : marker.isPrefixOf? (c :: cs) with
    | some rest => (if goesOn rest then marker else content) ++ replaceBare content rest
    | none => c :: replaceBare content cs
termination_by cs.length
decreasing_by
  · have whole := Text.length_of_isPrefixOf? ‹_›
    simp only [marker, List.length_cons] at whole ⊢
    omega
  · simp

/-- Fill the slots of a text, in the order of their names, and the marks that stand alone last. -/
def fill (slots : List (String × String)) (s : String) : String :=
  let named := slots.foldl
    (fun text (name, content) => replace (namedMarker name) content.toList text) s.toList
  match slots.lookup defaultName with
  | some content => String.ofList (replaceBare content.toList named)
  | none => String.ofList named

end Stencil.Slot
