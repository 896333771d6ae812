import Stencil.Directive.Table
import Stencil.Marker
import Stencil.Program.Build

namespace Stencil

/-- The artifact of a text: printed paths, shown paths, and then directives become tags. -/
def DirectiveTable.artifact (directives : DirectiveTable) (text : String) : String :=
  String.ofList (directives.expand (Marker.dump.expand (Marker.print.expand text.toList)))

structure Template where
  artifact : String
  program : Program

namespace Template

def ofArtifact (artifact : String) : Except Error Template :=
  (Program.parse artifact.toList).map (⟨artifact, ·⟩)

def compile (directives : DirectiveTable) (text : String) : Except Error Template :=
  ofArtifact (directives.artifact text)

end Template

end Stencil
