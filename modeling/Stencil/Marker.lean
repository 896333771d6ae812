import Stencil.Directive.Fragment
import Stencil.Path
import Stencil.Text.Start

namespace Stencil

/-- A pair of marks around a path, and the tag that they stand for. -/
structure Marker where
  opening : List Char
  closing : List Char
  compile : List Char → List Char

namespace Marker

def isPathChar (c : Char) : Bool :=
  Text.isNameChar c || c == '.'

def occurrence? (m : Marker) (cs : List Char) : Option (List Char × List Char) := do
  let inner ← m.opening.isPrefixOf? cs
  let path := inner.takeWhile isPathChar
  let rest ← m.closing.isPrefixOf? (inner.dropWhile isPathChar)
  if VariablePath.isPath path then some (path, rest) else none

theorem occurrence?_shorter {m : Marker} {cs path rest : List Char}
    (h : m.occurrence? cs = some (path, rest)) : rest.length < cs.length := by
  unfold occurrence? at h
  simp only [Option.bind_eq_bind, Option.bind_eq_some_iff] at h
  obtain ⟨inner, opened, after, closed, found⟩ := h
  split at found
  · next named =>
    cases found
    have outer := Text.length_of_isPrefixOf? opened
    have ended := Text.length_of_isPrefixOf? closed
    have whole : inner.length =
        (inner.takeWhile isPathChar).length + (inner.dropWhile isPathChar).length := by
      rw [← List.length_append, List.takeWhile_append_dropWhile]
    have positive := List.length_pos_iff.2 (VariablePath.ne_nil_of_isPath named)
    omega
  · simp at found

def expand (m : Marker) (cs : List Char) : List Char :=
  match cs with
  | [] => []
  | c :: cs =>
    match _h : m.occurrence? (c :: cs) with
    | some (path, rest) => m.compile path ++ m.expand rest
    | none => c :: m.expand cs
termination_by cs.length
decreasing_by
  · exact occurrence?_shorter ‹_›
  · simp

def print : Marker :=
  ⟨['%'], ['%'], fun path => Fragment.print ('$' :: path)⟩

def dump : Marker :=
  ⟨['%', '!'], ['!', '%'], fun path => Fragment.dump ('$' :: path)⟩

end Marker

end Stencil
