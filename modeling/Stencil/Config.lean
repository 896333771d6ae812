import Stencil.Error
import Stencil.Store.Files

namespace Stencil

structure Config where
  viewPath : String
  cachePath : String
  componentsPath : String
  extension : String
  /-- The rounds that a loop may go, where zero is no limit. -/
  maxLoopIterations : Nat
  deriving DecidableEq, Repr

namespace Config

def default : Config where
  viewPath := "./views"
  cachePath := "./cache"
  componentsPath := "./views/components"
  extension := "tpl"
  maxLoopIterations := 0

def rootedAt (base : String) : Config :=
  let views := Files.join base "views"
  { default with
    viewPath := views
    cachePath := Files.join base "cache"
    componentsPath := Files.join views "components" }

def text (wanted : String) : Json → Except Misfit String
  | .string s => .ok s
  | j => .error (.shape j wanted)

def number : Json → Except Misfit Nat
  | .int n =>
    if 0 ≤ n ∧ n.toNat < UInt64.size then .ok n.toNat
    else if (int64? n).isSome then .error (.range n "usize")
    else .error (.shape (.float (Value.nearestFloat n)) "usize")
  | j => .error (.shape j "usize")

def names : List String :=
  ["view_path", "cache_path", "components_path", "extension", "max_loop_iterations"]

/-- Change the setting with a name. Unknown names change nothing. -/
def set (config : Config) (name : String) (j : Json) : Except Misfit Config := do
  if name = "view_path" then return { config with viewPath := ← text "path string" j }
  else if name = "cache_path" then return { config with cachePath := ← text "path string" j }
  else if name = "components_path" then
    return { config with componentsPath := ← text "path string" j }
  else if name = "extension" then return { config with extension := ← text "a string" j }
  else if name = "max_loop_iterations" then return { config with maxLoopIterations := ← number j }
  else return config

/-- The settings in a document: by their names, or in order. What is missing has no choice. -/
def read (j : Json) : Except Misfit Config :=
  match j with
  | .object members => members.foldlM (fun config (name, j) => config.set name j) default
  | .array items => do
    let config ← (names.zip items).foldlM (fun config (name, j) => config.set name j) default
    if names.length < items.length then .error (.tooLong items.length) else return config
  | j => .error (.shape j "struct TemplarConfig")

def ofJson (j : Json) : Except Error Config :=
  (read j).mapError .serialization

def toJson (config : Config) : Json :=
  .object
    [("view_path", .string config.viewPath), ("cache_path", .string config.cachePath),
      ("components_path", .string config.componentsPath), ("extension", .string config.extension),
      ("max_loop_iterations", .int config.maxLoopIterations)]

def templatePath (config : Config) (name : String) : String :=
  Files.join config.viewPath (name ++ "." ++ config.extension)

def componentPath (config : Config) (name : String) : String :=
  Files.join config.componentsPath (name ++ "." ++ config.extension)

end Config

end Stencil
