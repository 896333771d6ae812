import Stencil.Text.Blank

namespace Stencil.Fragment

def openTag : List Char :=
  ['<', '?', 't', 'p', 'l']

def closeTag : List Char :=
  ['?', '>']

def instruction (body : List Char) : List Char :=
  openTag ++ ' ' :: Text.trim body ++ ' ' :: closeTag

def headed (keyword header : List Char) : List Char :=
  instruction (keyword ++ ' ' :: Text.trim header)

def print (expression : List Char) : List Char :=
  headed "print".toList expression

def echo (expression : List Char) : List Char :=
  headed "echo".toList expression

def dump (expression : List Char) : List Char :=
  headed "dump".toList expression

def exec (statements : List Char) : List Char :=
  headed "exec".toList statements

def call (function arguments : List Char) : List Char :=
  echo (function ++ '(' :: arguments ++ [')'])

end Stencil.Fragment
