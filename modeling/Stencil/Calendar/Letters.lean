import Stencil.Calendar.Write

namespace Stencil.Calendar

def letterPattern? : Char → Option String
  | 'd' => some "%d"
  | 'D' => some "%a"
  | 'j' => some "%-d"
  | 'l' => some "%A"
  | 'N' => some "%u"
  | 'w' => some "%w"
  | 'F' => some "%B"
  | 'm' => some "%m"
  | 'M' => some "%b"
  | 'n' => some "%-m"
  | 'Y' => some "%Y"
  | 'y' => some "%y"
  | 'a' => some "%P"
  | 'A' => some "%p"
  | 'g' => some "%-I"
  | 'G' => some "%-H"
  | 'h' => some "%I"
  | 'H' => some "%H"
  | 'i' => some "%M"
  | 's' => some "%S"
  | 'T' => some "%Z"
  | 'P' => some "%:z"
  | 'O' => some "%z"
  | 'U' => some "%s"
  | 'c' => some "%Y-%m-%dT%H:%M:%S%:z"
  | 'r' => some "%a, %d %b %Y %H:%M:%S %z"
  | _ => none

def plainPattern (c : Char) : List Char :=
  if c = '%' then ['%', '%'] else [c]

/-- The pattern of a format. A character after a backslash stands for itself, and a backslash at the
end for nothing. -/
def letterPattern : List Char → List Char
  | [] => []
  | '\\' :: [] => []
  | '\\' :: c :: cs => plainPattern c ++ letterPattern cs
  | c :: cs =>
    (match letterPattern? c with
      | some pattern => pattern.toList
      | none => plainPattern c) ++ letterPattern cs

def defaultFormat : List Char :=
  ['Y', '-', 'm', '-', 'd']

/-- The moment in a format. A format with a percent sign is a pattern already. -/
def Moment.writeFormat? (m : Moment) (format : List Char) : Option (List Char) :=
  m.write? (if format.contains '%' then format else letterPattern format)

end Stencil.Calendar
