import Stencil.Expr.Token
import Stencil.Value.Basic
import Stencil.Value.Display

/-!
Everything that can go wrong, by cause, with the one wording of each cause.
-/

namespace Stencil

inductive Expected where
  | symbol (s : Symbol)
  | asWord
  | variableName
  | memberName
  | expression
  | ending

def Expected.text : Expected → String
  | .symbol s => "'" ++ s.spelling ++ "'"
  | .asWord => "'as'"
  | .variableName => "variable name"
  | .memberName => "member name"
  | .expression => "expression"
  | .ending => "end of expression"

def TokenKind.numberLayout : Decimal.Layout :=
  { Value.plainLayout with nan := "NaN", infinity := "inf" }

def TokenKind.describe : TokenKind → String
  | .ident s => "'" ++ s ++ "'"
  | .segment s => "'" ++ s ++ "'"
  | .variable s => "'$" ++ s ++ "'"
  | .int n => "'" ++ toString n.toInt ++ "'"
  | .float x => "'" ++ numberLayout.write x ++ "'"
  | .str _ => "string literal"
  | .symbol s => s.name

inductive Problem where
  | missingVariableName
  | unterminatedString
  | unexpectedCharacter (c : Char)
  | expected (what : Expected) (found : Option TokenKind)
  | unexpectedKeyword (word : Keyword)
  | unterminatedTag
  | unexpectedInstruction (keyword : String)
  | emptyInstruction
  | unknownInstruction (keyword : String)
  | missingHeader (keyword : String)
  | unwantedHeader (keyword : String)
  | unclosedBlock (keyword : String)

def Problem.message : Problem → String
  | .missingVariableName => "expected variable name after '$'"
  | .unterminatedString => "unterminated string literal"
  | .unexpectedCharacter c => "unexpected character '" ++ c.toString ++ "'"
  | .expected what found =>
    "expected " ++ what.text ++ ", found " ++ (found.map TokenKind.describe).getD "end of input"
  | .unexpectedKeyword word => "unexpected keyword '" ++ word.text ++ "'"
  | .unterminatedTag => "unterminated instruction tag"
  | .unexpectedInstruction keyword => "unexpected '" ++ keyword ++ "'"
  | .emptyInstruction => "empty instruction"
  | .unknownInstruction keyword => "unknown instruction '" ++ keyword ++ "'"
  | .missingHeader keyword => "'" ++ keyword ++ "' requires an expression"
  | .unwantedHeader keyword => "'" ++ keyword ++ "' takes no arguments"
  | .unclosedBlock keyword => "unclosed '" ++ keyword ++ "' block"

inductive NotNumeric where
  | text (s : String)
  | kind (k : Value.Kind)

def NotNumeric.message : NotNumeric → String
  | .text s => "Cannot convert '" ++ s ++ "' to number"
  | .kind k => "Cannot convert " ++ k.name ++ " to number"

inductive CallFault where
  | arity (least most given : Nat)
  | notNumeric (cause : NotNumeric)
  | zeroStep
  | rangeTooLong
  | cannotJoin (k : Value.Kind)
  | cannotListKeys (k : Value.Kind)
  | invalidDateFormat (format : String)
  | other (message : String)

def rangeLimit : Nat :=
  1000000

def CallFault.message : CallFault → String
  | .arity least most given =>
    let wanted := if least = most then toString least else toString least ++ " to " ++ toString most
    "expected " ++ wanted ++ " argument(s), got " ++ toString given
  | .notNumeric cause => "Execution error: " ++ cause.message
  | .zeroStep => "step must not be zero"
  | .rangeTooLong => "range exceeds " ++ toString rangeLimit ++ " elements"
  | .cannotJoin k => "cannot join " ++ k.name
  | .cannotListKeys k => "cannot list keys of " ++ k.name
  | .invalidDateFormat format => "invalid date format '" ++ format ++ "'"
  | .other message => message

inductive Fault where
  | notNumeric (cause : NotNumeric)
  | divisionByZero
  | moduloByZero
  | incomparable (left right : Value.Kind)
  | notIterable (k : Value.Kind)
  | unknownFunction (name : String)
  | call (name : String) (cause : CallFault)

def Fault.message : Fault → String
  | .notNumeric cause => cause.message
  | .divisionByZero => "Division by zero"
  | .moduloByZero => "Modulo by zero"
  | .incomparable left right => "Cannot compare " ++ left.name ++ " with " ++ right.name
  | .notIterable k => "Cannot iterate over " ++ k.name
  | .unknownFunction name => "Unknown function '" ++ name ++ "'"
  | .call name cause => name ++ "(): " ++ cause.message

inductive FileFault where
  | notFound
  | alreadyExists
  | notADirectory
  | isADirectory
  | notText
  | nameTooLong
  | nulInName
  deriving DecidableEq, Repr

def FileFault.message : FileFault → String
  | .notFound => "No such file or directory (os error 2)"
  | .alreadyExists => "File exists (os error 17)"
  | .notADirectory => "Not a directory (os error 20)"
  | .isADirectory => "Is a directory (os error 21)"
  | .notText => "stream did not contain valid UTF-8"
  | .nameTooLong => "File name too long (os error 36)"
  | .nulInName => "file name contained an unexpected NUL byte"

inductive Misfit where
  | shape (found : Json) (wanted : String)
  | range (n : Int) (wanted : String)
  | tooLong (length : Nat)

def quoteMark : String :=
  "\x60"

def Json.glimpse : Json → String
  | .null => "null"
  | .bool b => "boolean " ++ quoteMark ++ (if b then "true" else "false") ++ quoteMark
  | .int n => "integer " ++ quoteMark ++ toString n ++ quoteMark
  | .float x => "floating point " ++ quoteMark ++ Json.floatText x ++ quoteMark
  | .string s => "string " ++ Text.quoted s
  | .array _ => "sequence"
  | .object _ => "map"

def Misfit.message : Misfit → String
  | .shape found wanted => "invalid type: " ++ found.glimpse ++ ", expected " ++ wanted
  | .range n wanted => "invalid value: " ++ (Json.int n).glimpse ++ ", expected " ++ wanted
  | .tooLong length =>
    "invalid length " ++ toString length ++ ", expected fewer elements in array"

inductive Error where
  | duplicateDirective (name : String)
  | invalidDirective (name : String)
  | duplicateFunction (name : String)
  | templateNotFound (path : String)
  | unreadable (path : String) (cause : FileFault)
  | invalidPath (text : String)
  /-- The data of a render is not an object but has the given shape. -/
  | invalidContext (shape : String)
  | malformed (offset : Nat) (problem : Problem)
  | execution (fault : Fault)
  | loopLimitExceeded (limit : Nat)
  | serialization (cause : Misfit)

namespace Error

def message : Error → String
  | .duplicateDirective name => "Directive already registered: " ++ name
  | .invalidDirective name =>
    "Invalid directive '" ++ name ++ "': name must match [A-Za-z_][A-Za-z0-9_]*"
  | .duplicateFunction name => "Function already registered: " ++ name
  | .templateNotFound path => "Template not found: " ++ path
  | .unreadable path cause => "I/O error on " ++ path ++ ": " ++ cause.message
  | .invalidPath text => "Invalid variable path: " ++ text
  | .invalidContext shape => "Invalid context: expected a JSON object, got " ++ shape
  | .malformed offset problem =>
    "Syntax error at offset " ++ toString offset ++ ": " ++ problem.message
  | .execution fault => "Execution error: " ++ fault.message
  | .loopLimitExceeded limit => "Loop exceeded " ++ toString limit ++ " iterations"
  | .serialization cause => "Serialization error: " ++ cause.message

def code : Error → String
  | .duplicateDirective _ => "duplicate_directive"
  | .invalidDirective _ => "invalid_directive"
  | .duplicateFunction _ => "duplicate_function"
  | .templateNotFound _ => "template_not_found"
  | .unreadable .. => "source_unreadable"
  | .invalidPath _ => "invalid_path"
  | .invalidContext _ => "invalid_context"
  | .malformed .. => "syntax_error"
  | .execution _ => "execution_error"
  | .loopLimitExceeded _ => "loop_limit_exceeded"
  | .serialization _ => "serialization_error"

inductive Category where
  | registration
  | source
  | execution

def category : Error → Category
  | .duplicateDirective _ | .invalidDirective _ | .duplicateFunction _ => .registration
  | .templateNotFound _ | .unreadable .. => .source
  | _ => .execution

end Error

end Stencil
