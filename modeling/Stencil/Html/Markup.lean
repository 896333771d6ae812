import Stencil.Html.Escape

namespace Stencil.Html

inductive Tag where
  | div
  | span
  deriving DecidableEq, Repr

def Tag.name : Tag → String
  | .div => "div"
  | .span => "span"

inductive Markup where
  /-- Text that is written with entities. -/
  | text (s : String)
  /-- Text of this library that is written as it is. -/
  | fixed (s : String)
  | element (tag : Tag) (style : String) (children : List Markup)

namespace Markup

mutual

def writeTo (out : String) : Markup → String
  | .text s => out ++ escape s
  | .fixed s => out ++ s
  | .element tag style children =>
    writeAll (out ++ "<" ++ tag.name ++ " class=\"" ++ style ++ "\">") children
      ++ "</" ++ tag.name ++ ">"

def writeAll (out : String) : List Markup → String
  | [] => out
  | m :: ms => writeAll (writeTo out m) ms

end

def write (m : Markup) : String :=
  writeTo "" m

end Markup

end Stencil.Html
