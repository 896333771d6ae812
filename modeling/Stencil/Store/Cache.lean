import Stencil.Store.Digest
import Stencil.Store.Source
import Stencil.Template

/-!
Artifacts kept in files, and templates kept in memory. A template in memory is good as long as its
artifact file has the time that it had when the template was made.
-/

namespace Stencil

structure Loaded where
  modified : Int
  template : Template

structure CacheEntry where
  identifier : String
  modified : Option Int
  path : String
  deriving DecidableEq, Repr

structure Tally where
  hits : Nat
  misses : Nat
  stores : Nat
  deriving DecidableEq, Repr

structure Cache where
  files : Files
  directory : String
  loaded : Entries Loaded
  tally : Tally

abbrev Cached (α : Type) := Except Error α × Cache

namespace Cache

def extension : String :=
  "tplc"

def start (files : Files) (directory : String) : Cache :=
  ⟨files, directory, [], ⟨0, 0, 0⟩⟩

def artifactPathIn (directory identifier : String) : String :=
  Files.join directory (Digest.hex identifier ++ "." ++ extension)

def artifactPath (cache : Cache) (identifier : String) : String :=
  artifactPathIn cache.directory identifier

/-- The source has a file, and its artifact is not older. -/
def isFresh (cache : Cache) (source : Source) : Bool :=
  match source.modified? cache.files, cache.files.modified? (cache.artifactPath source.identifier) with
  | some ofSource, some ofArtifact => ofSource ≤ ofArtifact
  | _, _ => false

def load (cache : Cache) (identifier : String) : Except Error (Option String) :=
  let path := cache.artifactPath identifier
  match cache.files.read path with
  | .ok text => .ok (some text)
  | .error .notFound => .ok none
  | .error fault => .error (.unreadable path fault)

def entryOf (cache : Cache) (source : Source) : CacheEntry :=
  ⟨source.identifier, source.modified? cache.files, cache.artifactPath source.identifier⟩

def entry? (cache : Cache) (source : Source) : Option CacheEntry :=
  if cache.files.isFile (cache.artifactPath source.identifier) then some (cache.entryOf source)
  else none

def store (cache : Cache) (source : Source) (artifact : String) : Cached CacheEntry :=
  match cache.files.makeDirectories cache.directory with
  | .error fault => (.error (.unreadable cache.directory fault), cache)
  | .ok files =>
    let path := cache.artifactPath source.identifier
    match files.write path artifact.toUTF8 with
    | .error fault => (.error (.unreadable path fault), { cache with files := files })
    | .ok files =>
      let tally := { cache.tally with stores := cache.tally.stores + 1 }
      let cache := { cache with files := files, tally := tally }
      (.ok (cache.entryOf source), cache)

def remember (cache : Cache) (identifier : String) (modified : Int) (template : Template) : Cache :=
  { cache with loaded := Entries.put identifier ⟨modified, template⟩ cache.loaded }

def forget (cache : Cache) (identifier : String) : Cache :=
  { cache with loaded := Entries.remove identifier cache.loaded }

/-- The template in memory, if it was made when its artifact file had the given time. -/
def loaded? (cache : Cache) (identifier : String) (modified : Int) : Option Template :=
  match cache.loaded.lookup identifier with
  | some entry => if entry.modified = modified then some entry.template else none
  | none => none

/-- The template of an artifact file, from memory if it is good there. A file that holds no program
gives none. -/
def loadTemplate (cache : Cache) (identifier : String) : Cached (Option Template) :=
  match cache.files.modified? (cache.artifactPath identifier) with
  | none => (.ok none, cache)
  | some modified =>
    match cache.loaded? identifier modified with
    | some template => (.ok (some template), cache)
    | none =>
      match cache.load identifier with
      | .error e => (.error e, cache)
      | .ok none => (.ok none, cache)
      | .ok (some artifact) =>
        match Template.ofArtifact artifact with
        | .ok template => (.ok (some template), cache.remember identifier modified template)
        | .error _ => (.ok none, cache.forget identifier)

def freshTemplate (cache : Cache) (source : Source) : Cached (Option Template) :=
  if cache.isFresh source then cache.loadTemplate source.identifier else (.ok none, cache)

def countHit (cache : Cache) : Cache :=
  { cache with tally := { cache.tally with hits := cache.tally.hits + 1 } }

def countMiss (cache : Cache) : Cache :=
  { cache with tally := { cache.tally with misses := cache.tally.misses + 1 } }

def rememberStored (cache : Cache) (identifier : String) (template : Template) : Cache :=
  match cache.files.modified? (cache.artifactPath identifier) with
  | some modified => cache.remember identifier modified template
  | none => cache

def make (cache : Cache) (directives : DirectiveTable) (source : Source) : Cached Template :=
  match Template.compile directives source.text with
  | .error e => (.error e, cache)
  | .ok template =>
    match cache.store source template.artifact with
    | (.error e, cache) => (.error e, cache)
    | (.ok _, cache) => (.ok template, cache.rememberStored source.identifier template)

def getOrCompile (cache : Cache) (directives : DirectiveTable) (source : Source) :
    Cached Template :=
  match cache.freshTemplate source with
  | (.error e, cache) => (.error e, cache)
  | (.ok (some template), cache) => (.ok template, cache.countHit)
  | (.ok none, cache) => cache.countMiss.make directives source

def removeFile (cache : Cache) (path : String) : Cached Unit :=
  match cache.files.removeFile path with
  | .ok files => (.ok (), { cache with files := files })
  | .error .notFound => (.ok (), cache)
  | .error fault => (.error (.unreadable path fault), cache)

def invalidate (cache : Cache) (identifier : String) : Cached Unit :=
  (cache.forget identifier).removeFile (cache.artifactPath identifier)

def removeFiles (cache : Cache) : List String → Cached Unit
  | [] => (.ok (), cache)
  | path :: paths =>
    match cache.removeFile path with
    | (.ok (), cache) => cache.removeFiles paths
    | failed => failed

def clear (cache : Cache) : Cached Unit :=
  let cache := { cache with loaded := [] }
  match cache.files.names cache.directory with
  | .error .notFound => (.ok (), cache)
  | .error fault => (.error (.unreadable cache.directory fault), cache)
  | .ok names =>
    let artifacts := names.filter fun name => Files.extension? name == some extension
    cache.removeFiles (artifacts.map (Files.join cache.directory))

end Cache

end Stencil
