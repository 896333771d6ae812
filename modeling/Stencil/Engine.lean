import Stencil.Config
import Stencil.Directive.Builtin
import Stencil.Function.Builtin
import Stencil.Html.Dump
import Stencil.Program.Run
import Stencil.Slot
import Stencil.Store.Cache

namespace Stencil

structure Engine where
  config : Config
  directives : DirectiveTable
  functions : FunctionTable
  /-- How a value is shown to the author of a template. -/
  dumper : Value → String
  cache : Cache

abbrev Used (α : Type) := Except Error α × Engine

namespace Engine

def start (config : Config) (now : Calendar.Moment) (files : Files) : Engine where
  config := config
  directives := .builtins
  functions := .builtins now
  dumper := Html.dump
  cache := .start files config.cachePath

def registerDirective (engine : Engine) (d : Directive) : Except Error Engine := do
  return { engine with directives := ← engine.directives.register d }

def registerFunction (engine : Engine) (name : String) (function : Function) :
    Except Error Engine := do
  return { engine with functions := ← engine.functions.register name function }

def build (config : Config) (now : Calendar.Moment) (directives : List Directive)
    (functions : Entries Function) (dumper : Value → String) (files : Files) :
    Except Error Engine := do
  let engine ← directives.foldlM registerDirective (start config now files)
  let engine ← functions.foldlM (fun engine (name, f) => engine.registerFunction name f) engine
  return { engine with dumper := dumper }

/-- Add directives one after the other, up to the first that is refused. -/
def boot (engine : Engine) (directives : List Directive) : Used Unit :=
  let (table, refusal) := engine.directives.registerEach directives
  (match refusal with
    | none => .ok ()
    | some e => .error e, { engine with directives := table })

def tools (engine : Engine) : Tools :=
  ⟨engine.functions, engine.dumper⟩

def compileText (engine : Engine) (text : String) : Except Error Template :=
  Template.compile engine.directives text

def execute (engine : Engine) (program : Program) (context : Context) : Outcome :=
  program.execute engine.tools engine.config.maxLoopIterations context

def renderTemplate (engine : Engine) (template : Except Error Template) (context : Context) : Outcome :=
  match template with
  | .error e => some (.error e)
  | .ok template => engine.execute template.program context

def renderText (engine : Engine) (text : String) (context : Context) : Outcome :=
  engine.renderTemplate (engine.compileText text) context

def getOrCompile (engine : Engine) (source : Source) : Used Template :=
  let (result, cache) := engine.cache.getOrCompile engine.directives source
  (result, { engine with cache := cache })

def renderFile (engine : Engine) (path : String) (context : Context) : Outcome × Engine :=
  match Source.ofFile engine.cache.files path with
  | .error e => (some (.error e), engine)
  | .ok source =>
    let (template, engine) := engine.getOrCompile source
    (engine.renderTemplate template context, engine)

def render (engine : Engine) (view : String) (context : Context) : Outcome × Engine :=
  engine.renderFile (engine.config.templatePath view) context

def renderComponent (engine : Engine) (name : String) (context : Context)
    (slots : List (String × String)) : Outcome × Engine :=
  let (outcome, engine) := engine.renderFile (engine.config.componentPath name) context
  (outcome.map (Except.map (Slot.fill slots)), engine)

end Engine

end Stencil
