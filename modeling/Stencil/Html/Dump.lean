import Stencil.Html.Markup
import Stencil.Value.Display

namespace Stencil.Html

def depthLimit : Nat :=
  10

def textLimit : Nat :=
  100

def shorten (s : String) : String :=
  let cs := s.toList
  if textLimit < cs.length then String.ofList (cs.take textLimit ++ ['.', '.', '.']) else s

def scalar (style : String) (children : List Markup) : Markup :=
  .element .span ("templar-val templar-" ++ style) children

/-- The markup of null, which also stands for a field that a record lists and lacks. -/
def absent : Markup :=
  scalar "null" [.fixed "null"]

def tooDeep : Markup :=
  scalar "warning" [.fixed "*MAX DEPTH*"]

def heading (children : List Markup) : Markup :=
  .element .span "type" children

def row (style : String) (last : Bool) (key : String) (value : Markup) : Markup :=
  .element .div style
    [.element .span "prefix" [.fixed (if last then "└─" else "├─")], .fixed " ",
      .element .span "key" [.text key], .fixed ": ", value]

def rows (style : String) : List (String × Markup) → List Markup
  | [] => []
  | (key, value) :: rest => row style rest.isEmpty key value :: rows style rest

def body (style rowStyle empty : String) (entries : List (String × Markup)) : List Markup :=
  if entries.isEmpty then [.fixed " ", .element .span "empty" [.fixed empty]]
  else [.element .div style (rows rowStyle entries)]

def tree (entries : List (String × Markup)) : Markup :=
  .element .div "templar-dump array"
    (heading [.fixed ("array(" ++ toString entries.length ++ ")")] :: body "items" "item" "[]" entries)

def object (typeName : String) (fields : List (String × Markup)) : Markup :=
  .element .div "templar-dump object"
    (heading [.text typeName] :: body "properties" "prop" "\x7b\x7d" fields)

mutual

/-- The markup of a value at a level, where `deeper` is how many levels may still open. -/
def markup (deeper : Nat) : Value → Markup
  | .null => absent
  | .bool b => scalar "bool" [.fixed (if b then "true" else "false")]
  | .int n => scalar "int" [.fixed (Value.display (.int n))]
  | .float x => scalar "float" [.fixed (Value.display (.float x))]
  | .string s => scalar "string" [.fixed "\"", .text (shorten s), .fixed "\""]
  | .array items =>
    match deeper with
    | 0 => tooDeep
    | deeper + 1 => tree ((markupItems deeper items).zipIdx.map fun (m, i) => (toString i, m))
  | .map entries =>
    match deeper with
    | 0 => tooDeep
    | deeper + 1 => tree (markupEntries deeper entries)
  | .record _ typeName names fields =>
    match deeper with
    | 0 => tooDeep
    | deeper + 1 =>
      let found := markupEntries deeper fields
      object typeName
        (names.map fun name => (name, (found.lookup name).getD absent))

def markupItems (deeper : Nat) : List Value → List Markup
  | [] => []
  | x :: xs => markup deeper x :: markupItems deeper xs

def markupEntries (deeper : Nat) : List (String × Value) → List (String × Markup)
  | [] => []
  | (k, v) :: rest => (k, markup deeper v) :: markupEntries deeper rest

end

/-- The markup of a value as text. A text by itself is only escaped. -/
def dump : Value → String
  | .string s => escape s
  | v => (markup (depthLimit + 1) v).write

def dumpStyles : String :=
  "\n".intercalate [
    "<style>",
    ".templar-dump \x7b font-family: ui-monospace, Menlo, Consolas, monospace; font-size: 13px; background: #1e1e1e; color: #d4d4d4; padding: 12px 16px; border-radius: 6px; margin: 8px 0; line-height: 1.5; \x7d",
    ".templar-dump .type \x7b color: #4ec9b0; font-weight: 600; \x7d",
    ".templar-dump .key \x7b color: #9cdcfe; \x7d",
    ".templar-dump .prefix \x7b color: #555; \x7d",
    ".templar-dump .empty \x7b color: #6a9955; \x7d",
    ".templar-dump .items, .templar-dump .properties \x7b margin-left: 8px; padding-left: 12px; border-left: 1px solid #333; \x7d",
    ".templar-val.templar-string \x7b color: #ce9178; \x7d",
    ".templar-val.templar-int, .templar-val.templar-float \x7b color: #b5cea8; \x7d",
    ".templar-val.templar-bool \x7b color: #569cd6; \x7d",
    ".templar-val.templar-null \x7b color: #6a9955; font-style: italic; \x7d",
    ".templar-val.templar-warning \x7b color: #f44747; font-weight: bold; \x7d",
    "</style>"]

end Stencil.Html
