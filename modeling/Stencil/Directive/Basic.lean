import Stencil.Text.Blank
import Stencil.Text.Bytes
import Stencil.Text.Quoting
import Stencil.Text.Start
import Stencil.Text.Word

/-!
Directives: names after an at sign that stand for fragments. Main statement: every occurrence takes
characters from the text (`occurrence?_shorter`), so expansion ends.
-/

namespace Stencil

/-- A directive: its name, whether an argument in parentheses follows it, and the fragment that an
occurrence with an argument stands for. -/
structure Directive where
  name : String
  takesArgument : Bool
  compile : List Char → List Char

namespace Directive

def sign (d : Directive) : List Char :=
  '@' :: d.name.toList

/-- What follows the directive at the front of a text: after its opening parenthesis if it takes an
argument, else after its name. -/
def trigger? (d : Directive) (cs : List Char) : Option (List Char) :=
  match d.sign.isPrefixOf? cs with
  | none => none
  | some rest =>
    if d.takesArgument then
      match rest.dropWhile Text.isBlank with
      | '(' :: inner => some inner
      | _ => none
    else if Text.atWordEnd rest then some rest
    else none

/-- The argument of the directive at the front of a text, and what follows the occurrence. Without a
closing parenthesis there is no occurrence. -/
def occurrence? (d : Directive) (cs : List Char) : Option (List Char × List Char) :=
  match d.trigger? cs with
  | none => none
  | some inner => if d.takesArgument then Text.closing? 0 .outside inner else some ([], inner)

theorem trigger?_shorter {d : Directive} {cs rest : List Char} (h : d.trigger? cs = some rest) :
    rest.length < cs.length := by
  unfold trigger? at h
  split at h
  · simp at h
  · next after start =>
    have whole := Text.length_of_isPrefixOf? start
    simp only [sign, List.length_cons] at whole
    split at h
    · split at h
      · next inner shape =>
        have fewer := (List.dropWhile_sublist (l := after) Text.isBlank).length_le
        simp only [shape, List.length_cons] at fewer
        cases h
        omega
      · simp at h
    · split at h
      · cases h
        omega
      · simp at h

theorem occurrence?_shorter {d : Directive} {cs argument rest : List Char}
    (h : d.occurrence? cs = some (argument, rest)) : rest.length < cs.length := by
  unfold occurrence? at h
  split at h
  · simp at h
  · next inner found =>
    have fewer := trigger?_shorter found
    split at h
    · have whole := congrArg List.length (Text.closing?_eq_append h)
      simp only [List.length_append, List.length_cons] at whole
      omega
    · cases h
      omega

def expand (d : Directive) (cs : List Char) : List Char :=
  match cs with
  | [] => []
  | c :: cs =>
    match _h : d.occurrence? (c :: cs) with
    | some (argument, rest) => d.compile argument ++ d.expand rest
    | none => c :: d.expand cs
termination_by cs.length
decreasing_by
  · exact occurrence?_shorter ‹_›
  · simp

/-- The first and the last offset of every place where the directive starts, up to the parenthesis if
it takes an argument. -/
def triggers (d : Directive) (offset : Nat) (cs : List Char) : List (Nat × Nat) :=
  match cs with
  | [] => []
  | c :: cs =>
    match _h : d.trigger? (c :: cs) with
    | some rest =>
      let ending := offset + Text.byteLength ((c :: cs).take ((c :: cs).length - rest.length))
      (offset, ending) :: d.triggers ending rest
    | none => d.triggers (offset + c.utf8Size) cs
termination_by cs.length
decreasing_by
  · exact trigger?_shorter ‹_›
  · simp

end Directive

end Stencil
