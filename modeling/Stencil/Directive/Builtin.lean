import Stencil.Directive.Fragment
import Stencil.Directive.Table

namespace Stencil.Directive

def block (name : String) : Directive :=
  ⟨name, true, Fragment.headed name.toList⟩

def bare (name : String) : Directive :=
  ⟨name, false, fun _ => Fragment.instruction name.toList⟩

def calling (name function : String) : Directive :=
  ⟨name, true, Fragment.call function.toList⟩

/-- The directives in the order in which they are expanded. -/
def builtins : List Directive :=
  [⟨"php", true, Fragment.exec⟩,
    block "if", block "elseif", bare "else", bare "endif",
    block "foreach", bare "endforeach",
    block "for", bare "endfor",
    block "while", bare "endwhile",
    bare "do", block "dowhile",
    calling "uppercase" "upper", calling "lowercase" "lower", calling "json" "json",
    calling "date" "date", calling "dateformat" "date",
    block "dump"]

end Stencil.Directive

namespace Stencil

def DirectiveTable.builtins : DirectiveTable :=
  ⟨Directive.builtins⟩

theorem DirectiveTable.distinct_builtins : DirectiveTable.builtins.Distinct := by
  unfold DirectiveTable.Distinct
  decide

end Stencil
