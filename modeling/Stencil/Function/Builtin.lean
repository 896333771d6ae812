import Stencil.Calendar.Letters
import Stencil.Calendar.Read
import Stencil.Function.Table
import Stencil.Html.Escape
import Stencil.Json.Text
import Stencil.Text.Casing
import Stencil.Value.Display
import Stencil.Value.Number

namespace Stencil.Builtin

def unary (f : Value → Except CallFault Value) : Function
  | [a] => f a
  | args => .error (.arity 1 1 args.length)

def optional (f : Value → Option Value → Except CallFault Value) : Function
  | [a] => f a none
  | [a, b] => f a (some b)
  | args => .error (.arity 1 2 args.length)

def ofText (f : List Char → List Char) : Function :=
  unary fun v => .ok (.string (String.ofList (f v.display.toList)))

def upper : Function :=
  ofText Text.upper

def lower : Function :=
  ofText Text.lower

def trim : Function :=
  ofText Text.trim

/-- The number of members of a container or of characters of a text. Null has none, and any other
value is one. -/
def size : Value → Nat
  | .null => 0
  | .array items => items.length
  | .map entries => entries.length
  | .record _ _ names _ => names.length
  | .string s => s.length
  | _ => 1

def count : Function :=
  unary fun v => .ok (.int (Int64.ofNat (size v)))

/-- The value as JSON: on indented lines, or on one line if the second argument is false. -/
def json : Function :=
  optional fun v pretty =>
    let document := v.listing
    .ok (.string (if pretty.all Value.truthy then document.pretty else document.compact))

def default : Function
  | [.null, fallback] => .ok fallback
  | [.string s, fallback] => .ok (if s.isEmpty then fallback else .string s)
  | [v, _] => .ok v
  | args => .error (.arity 2 2 args.length)

def escape : Function :=
  unary fun v => .ok (.string (Html.escape v.display))

def integer (v : Value) : Except CallFault Int64 :=
  (v.toNumber.map Number.truncate).mapError .notNumeric

def distance (first last : Int64) : UInt64 :=
  if first < last then last.toUInt64 - first.toUInt64 else first.toUInt64 - last.toUInt64

/-- A step without its sign. The least integer counts as the greatest. -/
def stride (step : Int64) : Int64 :=
  (int64? step.toInt.natAbs).getD Int64.maxValue

/-- The next integer, or the end of the range of integers where there is none. -/
def advance (rising : Bool) (stride current : Int64) : Int64 :=
  clampInt64 (if rising then current.toInt + stride.toInt else current.toInt - stride.toInt)

def collect (rising : Bool) (stride : Int64) : Nat → Int64 → Array Int64 → Array Int64
  | 0, _, items => items
  | rounds + 1, current, items =>
    collect rising stride rounds (advance rising stride current) (items.push current)

/-- The integers from `first` to `last`, a step apart. They go down if `last` is less. -/
def progression (first last step : Int64) : Except CallFault (Array Int64) :=
  let stride := stride step
  if stride = 0 then .error .zeroStep
  else
    let steps := distance first last / stride.toUInt64
    if rangeLimit ≤ steps.toNat then .error .rangeTooLong
    else .ok (collect (decide (first ≤ last)) stride (steps.toNat + 1) first #[])

def between (first last step : Value) : Except CallFault Value := do
  let items ← progression (← integer first) (← integer last) (← integer step)
  return .array (items.toList.map .int)

def range : Function
  | [first, last] => between first last (.int 1)
  | [first, last, step] => between first last step
  | args => .error (.arity 2 3 args.length)

def join : Function :=
  optional fun v separator =>
    let joined (parts : List Value) : Except CallFault Value :=
      .ok (.string ((separator.elim "" Value.display).intercalate (parts.map Value.display)))
    match v with
    | .array items => joined items
    | .map entries => joined (entries.map (·.2))
    | .null => joined []
    | v => .error (.cannotJoin v.kind)

/-- The keys of a container in order, which are the indices of an array. -/
def keysOf : Value → Except CallFault (List Value)
  | .null => .ok []
  | .array items => .ok ((List.range items.length).map fun i => .int (Int64.ofNat i))
  | .map entries => .ok (entries.map fun (k, _) => .string k)
  | .record _ _ names _ => .ok (names.map .string)
  | v => .error (.cannotListKeys v.kind)

def keys : Function :=
  unary fun v => (keysOf v).map .array

def moment? (now : Calendar.Moment) : Value → Option Calendar.Moment
  | .int n => Calendar.Moment.ofSeconds? n.toInt
  | .float x => Calendar.Moment.ofSeconds? (Number.float x).truncate.toInt
  | .string s => Calendar.Moment.ofText? now (Text.trim s.toList)
  | _ => none

def dateFormat : Option Value → List Char
  | none | some .null => Calendar.defaultFormat
  | some v => v.display.toList

/-- The moment of a value in a format, or null if the value stands for no moment. -/
def date (now : Calendar.Moment) : Function :=
  optional fun v format =>
    match moment? now v with
    | none => .ok .null
    | some moment =>
      match moment.writeFormat? (dateFormat format) with
      | some text => .ok (.string (String.ofList text))
      | none => .error (.invalidDateFormat (String.ofList (dateFormat format)))

def all (now : Calendar.Moment) : Entries Function :=
  [("upper", upper), ("lower", lower), ("trim", trim), ("count", count), ("json", json),
    ("date", date now), ("default", default), ("escape", escape), ("range", range), ("join", join),
    ("keys", keys)]

end Stencil.Builtin

namespace Stencil

def FunctionTable.builtins (now : Calendar.Moment) : FunctionTable :=
  ⟨Builtin.all now⟩

end Stencil
