import Stencil.Json.Text
import Stencil.Value.Json

namespace Stencil.Value

def plainLayout : Decimal.Layout where
  positional _ := true
  pointZero := false
  plusSign := false
  tie := .up
  nan := "NAN"
  infinity := "INF"

/-- The text that a value prints as. Null and false print nothing, containers print as JSON. -/
def display : Value → String
  | .null => ""
  | .bool b => if b then "1" else ""
  | .int n => toString n.toInt
  | .float x => plainLayout.write x
  | .string s => s
  | v => v.toJson.compact

/-- Shown doubles keep a point, and take an exponent below `10 ^ -4` and from `10 ^ 16`. -/
def shownLayout : Decimal.Layout where
  positional power := -4 ≤ power && power < 16
  pointZero := true
  plusSign := false
  tie := .up
  nan := "NaN"
  infinity := "inf"

mutual

def shown : Value → String
  | .null => "Null"
  | .bool b => "Bool(" ++ (if b then "true" else "false") ++ ")"
  | .int n => "Integer(" ++ toString n.toInt ++ ")"
  | .float x => "Float(" ++ shownLayout.write x ++ ")"
  | .string s => "String(" ++ Text.quoted s ++ ")"
  | .array items => "Array([" ++ ", ".intercalate (shownItems items) ++ "])"
  | .map entries =>
    let entry (e : String × String) := Text.quoted e.1 ++ ": " ++ e.2
    "Map(\x7b" ++ ", ".intercalate ((shownEntries entries).map entry) ++ "\x7d)"
  | .record _ typeName names fields =>
    let found := shownEntries fields
    let field (name : String) := name ++ ": " ++ (found.lookup name).getD "Null"
    if names.isEmpty then typeName
    else typeName ++ " \x7b " ++ ", ".intercalate (names.map field) ++ " \x7d"

def shownItems : List Value → List String
  | [] => []
  | x :: xs => shown x :: shownItems xs

def shownEntries : List (String × Value) → List (String × String)
  | [] => []
  | (k, v) :: rest => (k, shown v) :: shownEntries rest

end

end Stencil.Value
