import Stencil.Json.Basic
import Stencil.Decimal.Layout
import Stencil.Text.Quoted

namespace Stencil.Json

/-- Doubles take the fewest digits, keep a point, and are written without an exponent from `10 ^ -5`
up to `10 ^ 16`. -/
def floatLayout : Decimal.Layout where
  positional power := -5 ≤ power && power < 16
  pointZero := true
  plusSign := true
  tie := .even
  nan := "null"
  infinity := "null"

/-- A double that is no number is null. -/
def floatText (x : Float) : String :=
  if x.isFinite then floatLayout.write x else "null"

def fourHexDigits (n : Nat) : List Char :=
  let digits := Text.hexDigits n
  Decimal.zeros (4 - digits.length) ++ digits

def escapeChar (c : Char) : List Char :=
  if c == '"' then ['\\', '"']
  else if c == '\\' then ['\\', '\\']
  else if c == '\n' then ['\\', 'n']
  else if c == '\r' then ['\\', 'r']
  else if c == '\t' then ['\\', 't']
  else if c.toNat = 8 then ['\\', 'b']
  else if c.toNat = 12 then ['\\', 'f']
  else if c.toNat < 32 then '\\' :: 'u' :: fourHexDigits c.toNat
  else [c]

def stringText (s : String) : String :=
  String.ofList ('"' :: s.toList.flatMap escapeChar ++ ['"'])

def scalarText : Json → String
  | .null => "null"
  | .bool b => if b then "true" else "false"
  | .int n => toString n
  | .float x => floatText x
  | .string s => stringText s
  | .array _ => "[]"
  | .object _ => "\x7b\x7d"

mutual

def writeCompact (out : String) : Json → String
  | .array items => writeCompactItems (out ++ "[") "" items ++ "]"
  | .object members => writeCompactMembers (out ++ "\x7b") "" members ++ "\x7d"
  | scalar => out ++ scalarText scalar

def writeCompactItems (out separator : String) : List Json → String
  | [] => out
  | item :: rest => writeCompactItems (writeCompact (out ++ separator) item) "," rest

def writeCompactMembers (out separator : String) : List (String × Json) → String
  | [] => out
  | (key, item) :: rest =>
    writeCompactMembers (writeCompact (out ++ separator ++ stringText key ++ ":") item) "," rest

end

def compact (j : Json) : String :=
  writeCompact "" j

def lineAt (level : Nat) : String :=
  "\n" ++ String.ofList (List.replicate (2 * level) ' ')

mutual

def writePretty (level : Nat) (out : String) : Json → String
  | .array (item :: rest) =>
    writePrettyItems (level + 1) (out ++ "[") "" (item :: rest) ++ lineAt level ++ "]"
  | .object (member :: rest) =>
    writePrettyMembers (level + 1) (out ++ "\x7b") "" (member :: rest) ++ lineAt level ++ "\x7d"
  | scalar => out ++ scalarText scalar

def writePrettyItems (level : Nat) (out separator : String) : List Json → String
  | [] => out
  | item :: rest =>
    writePrettyItems level (writePretty level (out ++ separator ++ lineAt level) item) "," rest

def writePrettyMembers (level : Nat) (out separator : String) : List (String × Json) → String
  | [] => out
  | (key, item) :: rest =>
    let begun := out ++ separator ++ lineAt level ++ stringText key ++ ": "
    writePrettyMembers level (writePretty level begun item) "," rest

end

def pretty (j : Json) : String :=
  writePretty 0 "" j

end Stencil.Json
