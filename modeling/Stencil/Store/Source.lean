import Stencil.Store.Files

namespace Stencil

structure Source where
  identifier : String
  text : String
  path : Option String
  deriving DecidableEq, Repr

namespace Source

/-- A text without a file. All of these share one name. -/
def inline (text : String) : Source :=
  ⟨"<inline>", text, none⟩

def ofFile (files : Files) (path : String) : Except Error Source :=
  match files.read path with
  | .ok text => .ok ⟨path, text, some path⟩
  | .error .notFound => .error (.templateNotFound path)
  | .error fault => .error (.unreadable path fault)

def modified? (files : Files) (source : Source) : Option Int :=
  source.path.bind files.modified?

end Source

end Stencil
