namespace Stencil

inductive Verb where
  | print
  | echo
  | dump
  | exec
  | ifStart
  | elseIf
  | elseStart
  | endIf
  | foreachStart
  | endForeach
  | forStart
  | endFor
  | whileStart
  | endWhile
  | doStart
  | doWhile
  deriving DecidableEq, Repr

namespace Verb

def text : Verb → String
  | print => "print"
  | echo => "echo"
  | dump => "dump"
  | exec => "exec"
  | ifStart => "if"
  | elseIf => "elseif"
  | elseStart => "else"
  | endIf => "endif"
  | foreachStart => "foreach"
  | endForeach => "endforeach"
  | forStart => "for"
  | endFor => "endfor"
  | whileStart => "while"
  | endWhile => "endwhile"
  | doStart => "do"
  | doWhile => "dowhile"

def all : List Verb :=
  [print, echo, dump, exec, ifStart, elseIf, elseStart, endIf, foreachStart, endForeach, forStart,
    endFor, whileStart, endWhile, doStart, doWhile]

def ofText? (keyword : String) : Option Verb :=
  all.find? fun verb => verb.text == keyword

theorem ofText?_text (verb : Verb) : ofText? verb.text = some verb := by
  cases verb <;> decide

theorem text_of_ofText? {keyword : String} {verb : Verb} (h : ofText? keyword = some verb) :
    keyword = verb.text := by
  have := List.find?_some h
  simp only [beq_iff_eq] at this
  exact this.symm

end Verb

end Stencil
