import Stencil.Engine
import Stencil.Proofs.Program.Unlimited
import Stencil.Proofs.Store.Making

/-!
# Transparent caches

Whatever was written, removed and rendered before, an engine renders a file as it renders the present
text of the file without the cache (`run_transparent`).
-/

namespace Stencil
open Files

inductive Event where
  | write (path text : String)
  | makeDirectories (path : String)
  | delete (path : String)
  | wait (seconds : Nat)
  | render (view : String) (context : Context)
  | renderComponent (name : String) (context : Context) (slots : List (String × String))
  | invalidate (identifier : String)
  | clear

/-- An artifact file beside the file of its source: that of the present text, under these directives. -/
def DirectiveTable.Makes (directives : DirectiveTable) (_ : String) : FileEntry → FileEntry → Prop
  | .file source _, .file artifact _ =>
    ∀ text, String.fromUTF8? source = some text → artifact = (directives.artifact text).toUTF8
  | _, _ => True

namespace Engine

variable {engine : Engine} {used : String → Prop}

def withFiles (engine : Engine) (files : Except FileFault Files) : Engine :=
  match files with
  | .ok files => { engine with cache := { engine.cache with files := files } }
  | .error _ => engine

def withCache (engine : Engine) (cache : Cache) : Engine :=
  { engine with cache := cache }

def after (engine : Engine) : Event → Engine
  | .write path text => engine.withFiles (engine.cache.files.write path text.toUTF8)
  | .makeDirectories path => engine.withFiles (engine.cache.files.makeDirectories path)
  | .delete path => engine.withFiles (engine.cache.files.removeFile path)
  | .wait seconds =>
    engine.withFiles (.ok { engine.cache.files with clock := engine.cache.files.clock + seconds })
  | .render view context => (engine.render view context).2
  | .renderComponent name context slots => (engine.renderComponent name context slots).2
  | .invalidate identifier => engine.withCache (engine.cache.invalidate identifier).2
  | .clear => engine.withCache engine.cache.clear.2

def run (engine : Engine) (events : List Event) : Engine :=
  events.foldl after engine

/-- What the present text of the file at a path writes on some data, without the cache. -/
def renderPresent (engine : Engine) (path : String) (context : Context) : Outcome :=
  match engine.cache.files.read path with
  | .ok text => engine.renderText text context
  | .error .notFound => some (.error (.templateNotFound path))
  | .error fault => some (.error (.unreadable path fault))

def artifacts (engine : Engine) : Place :=
  placeOf engine.cache.files.working engine.cache.directory

/-- The engine has no artifacts yet. The paths that are used are outside the directory of the artifacts,
and their digests differ. -/
structure Starts (engine : Engine) (used : String → Prop) : Prop where
  loaded : engine.cache.loaded = []
  empty : ∀ name, engine.cache.files.find? (name :: engine.artifacts) = none
  outside : ∀ {path}, used path → ¬engine.artifacts <:+ placeOf engine.cache.files.working path
  distinct : ∀ {a b}, used a → used b → Digest.hex a = Digest.hex b → a = b

/-- Only the engine writes to the directory of the artifacts, and only paths that are used are
rendered. -/
def Allows (engine : Engine) (used : String → Prop) : Event → Prop
  | .write path _ => ¬engine.artifacts <:+ placeOf engine.cache.files.working path
  | .render view _ => used (engine.config.templatePath view)
  | .renderComponent name _ _ => used (engine.config.componentPath name)
  | _ => True

/-- No operation on files fails while the cache gets the template of a path. -/
def FilesWork (engine : Engine) (path : String) : Prop :=
  ∀ text, engine.cache.files.read path = .ok text → ∀ e, e.IsUnreadable →
    (engine.getOrCompile (.ofPath path text)).1 ≠ .error e

def Starts.setting (starts : engine.Starts used) : Setting where
  working := engine.cache.files.working
  directory := engine.cache.directory
  used := used
  made := engine.directives.Makes
  outside := starts.outside
  distinct := starts.distinct

theorem Starts.sound (starts : engine.Starts used) : Sound starts.setting engine.cache := by
  have absent : ∀ {path e}, engine.cache.files.find? (starts.setting.artifactPlace path) ≠ some e := by
    intro path e found
    have none := starts.empty (Cache.artifactName path)
    cases none.symm.trans found
  refine ⟨rfl, rfl, ?_, ?_, ?_⟩
  · intro path content time _ found
    exact absurd found absent
  · intro path content time source modified _ found
    exact absurd found absent
  · intro path found _ loaded
    rw [starts.loaded] at loaded
    cases loaded

/-! ## Rendering -/

variable {path text : String} {context : Context} {cache : Cache}

theorem renderFile_eq (read : engine.cache.files.read path = .ok text) :
    engine.renderFile path context =
      (engine.renderTemplate (engine.getOrCompile (.ofPath path text)).1 context,
        engine.withCache (engine.cache.getOrCompile engine.directives (.ofPath path text)).2) := by
  have source : Source.ofFile engine.cache.files path = .ok (.ofPath path text) := by
    rw [Source.ofFile, read]
    rfl
  rw [renderFile, source]
  rfl

theorem renderFile_eq_present (unread : ∀ text, engine.cache.files.read path ≠ .ok text) :
    engine.renderFile path context = (engine.renderPresent path context, engine) := by
  unfold renderFile renderPresent Source.ofFile
  cases read : engine.cache.files.read path with
  | ok text => exact absurd read (unread text)
  | error fault =>
    cases fault with
    | notFound => rfl
    | _ => rfl

variable {s : Setting}

theorem fits_of_read {directives : DirectiveTable} (working : cache.files.working = s.working)
    (made : s.made = directives.Makes) (read : cache.files.read path = .ok text) :
    s.Fits cache.files directives path text := by
  intro source modified template present compiled
  obtain ⟨content, time, there, decoded⟩ := read_eq_ok read
  rw [working, present] at there
  cases there
  rw [made]
  intro now decodedNow
  rw [decoded] at decodedNow
  cases decodedNow
  rfl

theorem compile_of_serves {directives : DirectiveTable} {template : Template} (sound : Sound s cache)
    (made : s.made = directives.Makes) (known : s.used path) (read : cache.files.read path = .ok text)
    (served : s.Serves cache path text template) : Template.compile directives text = .ok template := by
  obtain ⟨fresh, content, time, artifact, there, decodedThere, lowered⟩ := served
  obtain ⟨source, modified, -, decoded, right⟩ := sound.made_of_isFresh known read fresh there
  rw [made] at right
  rw [right text decoded, fromUTF8?_toUTF8] at decodedThere
  cases decodedThere
  exact lowered

theorem renderFile_transparent (sound : Sound s engine.cache)
    (made : s.made = engine.directives.Makes) (known : s.used path)
    (works : engine.FilesWork path) :
    (engine.renderFile path context).1 = engine.renderPresent path context := by
  by_cases readable : ∃ text, engine.cache.files.read path = .ok text
  · obtain ⟨text, read⟩ := readable
    have getting := sound.getOrCompile known (fits_of_read sound.working made read)
    have same : (engine.getOrCompile (.ofPath path text)).1 = engine.compileText text := by
      rcases getting.result with ⟨e, failed, unreadable⟩ | ⟨template, served, got⟩ | ⟨-, compiled⟩
      · exact absurd failed (works text read e unreadable)
      · exact got.trans (compile_of_serves sound made known read served).symm
      · exact compiled
    rw [renderFile_eq read, renderPresent, read]
    simp only
    rw [same]
    rfl
  · rw [not_exists] at readable
    rw [renderFile_eq_present readable]

theorem sound_renderFile (sound : Sound s engine.cache)
    (made : s.made = engine.directives.Makes) (known : s.used path) :
    ∃ later, (engine.renderFile path context).2 = engine.withCache later ∧ Sound s later := by
  by_cases readable : ∃ text, engine.cache.files.read path = .ok text
  · obtain ⟨text, read⟩ := readable
    have getting := sound.getOrCompile known (fits_of_read sound.working made read)
    refine ⟨_, ?_, getting.sound⟩
    rw [renderFile_eq read]
  · rw [not_exists] at readable
    refine ⟨engine.cache, ?_, sound⟩
    rw [renderFile_eq_present readable]
    rfl

/-! ## Events -/

theorem sound_withFiles {files : Except FileFault Files} (sound : Sound s engine.cache)
    (h : ∀ {later}, files = .ok later →
      Later (placeOf s.working s.directory) engine.cache.files later) :
    ∃ later, engine.withFiles files = engine.withCache later ∧ Sound s later := by
  cases files with
  | error fault => exact ⟨engine.cache, rfl, sound⟩
  | ok later => exact ⟨{ engine.cache with files := later }, rfl, sound.later (h rfl)⟩

variable {events : List Event}

def rendered? (config : Config) : Event → Option String
  | .render view _ => some (config.templatePath view)
  | .renderComponent name _ _ => some (config.componentPath name)
  | _ => none

theorem used_of_rendered? {event : Event} (allowed : engine.Allows used event)
    (renders : rendered? engine.config event = some path) : used path := by
  cases event with
  | render view context =>
    cases renders
    exact allowed
  | renderComponent name context slots =>
    cases renders
    exact allowed
  | _ => cases renders

theorem after_of_rendered? (engine : Engine) {event : Event}
    (renders : rendered? engine.config event = some path) :
    ∃ context, engine.after event = (engine.renderFile path context).2 := by
  cases event with
  | render view context =>
    cases renders
    exact ⟨context, rfl⟩
  | renderComponent name context slots =>
    cases renders
    exact ⟨context, rfl⟩
  | _ => cases renders

theorem after_eq_withCache (engine : Engine) (event : Event) :
    ∃ cache, engine.after event = engine.withCache cache := by
  have withFiles : ∀ files, ∃ cache, engine.withFiles files = engine.withCache cache := by
    intro files
    cases files with
    | error fault => exact ⟨engine.cache, rfl⟩
    | ok files => exact ⟨{ engine.cache with files := files }, rfl⟩
  have renderFile : ∀ path context, ∃ cache,
      (engine.renderFile path context).2 = engine.withCache cache := by
    intro path context
    by_cases readable : ∃ text, engine.cache.files.read path = .ok text
    · obtain ⟨text, read⟩ := readable
      rw [renderFile_eq read]
      exact ⟨_, rfl⟩
    · rw [not_exists] at readable
      rw [renderFile_eq_present readable]
      exact ⟨engine.cache, rfl⟩
  cases event with
  | write path text => exact withFiles _
  | makeDirectories path => exact withFiles _
  | delete path => exact withFiles _
  | wait seconds => exact withFiles (.ok _)
  | render view context => exact renderFile _ context
  | renderComponent name context slots => exact renderFile _ context
  | invalidate identifier => exact ⟨_, rfl⟩
  | clear => exact ⟨_, rfl⟩

theorem after_quiet {event : Event} (sound : Sound s engine.cache)
    (quiet : rendered? engine.config event = none)
    (outside : ∀ path text, event = .write path text →
      ¬placeOf s.working s.directory <:+ placeOf s.working path) :
    ∃ later, engine.after event = engine.withCache later ∧ Sound s later := by
  cases event with
  | write path text =>
    refine sound_withFiles sound fun wrote => ?_
    rw [write_eq_ok wrote]
    refine later_written (fun name same => outside path text rfl ?_) _
    rw [sound.working] at same
    exact same ▸ List.suffix_cons _ _
  | makeDirectories path => exact sound_withFiles sound later_makeDirectories
  | delete path =>
    refine sound_withFiles sound fun removed => ?_
    rw [removeFile_eq_ok removed]
    exact later_remove _ _
  | wait seconds =>
    have waiting := sound.later (Later.waiting engine.cache.files seconds)
    exact ⟨_, rfl, waiting⟩
  | render view context => cases quiet
  | renderComponent name context slots => cases quiet
  | invalidate identifier => exact ⟨_, rfl, sound.invalidate identifier⟩
  | clear => exact ⟨_, rfl, sound.clear⟩

theorem after_withCache (starts : engine.Starts used) {event : Event}
    (sound : Sound starts.setting cache) (allowed : engine.Allows used event) :
    ∃ later, (engine.withCache cache).after event = engine.withCache later ∧
      Sound starts.setting later := by
  have sound : Sound starts.setting (engine.withCache cache).cache := sound
  cases renders : rendered? engine.config event with
  | some path =>
    have known := used_of_rendered? allowed renders
    obtain ⟨context, same⟩ := (engine.withCache cache).after_of_rendered? renders
    rw [same]
    exact sound_renderFile sound rfl known
  | none =>
    refine after_quiet sound renders ?_
    rintro path text rfl
    exact allowed

theorem run_withCache (starts : engine.Starts used) (sound : Sound starts.setting cache)
    (allowed : ∀ event ∈ events, engine.Allows used event) :
    ∃ later, (engine.withCache cache).run events = engine.withCache later ∧
      Sound starts.setting later := by
  -- The engine before any event stays fixed, and only its cache goes from event to event.
  induction events generalizing cache with
  | nil => exact ⟨cache, rfl, sound⟩
  | cons event events ih =>
    rw [List.forall_mem_cons] at allowed
    obtain ⟨middle, first, sound⟩ := after_withCache starts sound allowed.1
    obtain ⟨later, rest, sound⟩ := ih sound allowed.2
    refine ⟨later, ?_, sound⟩
    rw [← rest, ← first]
    rfl

/-- After any events, an engine renders a view or a component as it renders the present text of its file
without the cache. -/
theorem run_transparent (starts : engine.Starts used)
    (allowed : ∀ event ∈ events, engine.Allows used event) :
    (∀ view context, used (engine.config.templatePath view) →
      (engine.run events).FilesWork (engine.config.templatePath view) →
      ((engine.run events).render view context).1 =
        (engine.run events).renderPresent (engine.config.templatePath view) context) ∧
    ∀ name context slots, used (engine.config.componentPath name) →
      (engine.run events).FilesWork (engine.config.componentPath name) →
      ((engine.run events).renderComponent name context slots).1 =
        ((engine.run events).renderPresent (engine.config.componentPath name) context).map
          (Except.map (Slot.fill slots)) := by
  obtain ⟨cache, reached, sound⟩ := run_withCache starts starts.sound allowed
  have same : engine.run events = engine.withCache cache := reached
  rw [same]
  constructor
  · intro view context known works
    exact renderFile_transparent sound rfl known works
  · intro name context slots known works
    exact congrArg (Option.map (Except.map (Slot.fill slots)))
      (renderFile_transparent sound rfl known works)

theorem renderTemplate_of_run {template : Except Error Template} {output : String}
    (unlimited : engine.config.maxLoopIterations = 0)
    (ran : (template.toOption.bind fun template =>
      (template.program.run engine.tools 1 context).toOption) = some output) :
    engine.renderTemplate template context = some (.ok output) := by
  obtain ⟨compiled, made, ran⟩ := Option.bind_eq_some_iff.1 ran
  obtain rfl := toOption_eq_some.1 made
  have ran : compiled.program.run engine.tools 1 context = Except.mapError .fault (.ok output) :=
    toOption_eq_some.1 ran
  have ended := Program.execute_zero_of_run ran
  rw [← unlimited] at ended
  exact ended

def greeter : Engine :=
  start .default .epoch .empty

theorem greeter_empty (name : String) :
    greeter.cache.files.find? (name :: greeter.artifacts) = none := by
  have directory : greeter.artifacts = ["cache", "work"] := by decide +kernel
  rw [directory]
  simp [greeter, start, Cache.start, Files.find?, Files.empty, List.lookup_cons]

def Greeting (path : String) : Prop :=
  path = "./views/hi.tpl" ∨ path = "./views/components/hi.tpl"

def rewriting : List Event :=
  [.makeDirectories "./views", .write "./views/hi.tpl" "Hello", .render "hi" [],
    .write "./views/hi.tpl" "Bye"]

theorem run_transparent_rewriting :
    greeter.Starts Greeting ∧ (∀ event ∈ rewriting, greeter.Allows Greeting event) ∧
      (greeter.run rewriting).FilesWork "./views/hi.tpl" ∧
      ((greeter.run rewriting).render "hi" []).1 = some (.ok "Bye") := by
  have starts : greeter.Starts Greeting := by
    refine ⟨rfl, greeter_empty, ?_, ?_⟩
    · rintro path (rfl | rfl) <;> decide +kernel
    · have differ : Digest.hex "./views/hi.tpl" ≠ Digest.hex "./views/components/hi.tpl" := by
        decide +kernel
      rintro a b (rfl | rfl) (rfl | rfl) same
      · rfl
      · exact absurd same differ
      · exact absurd same.symm differ
      · rfl
  have view : greeter.config.templatePath "hi" = "./views/hi.tpl" := by decide +kernel
  have known : Greeting (greeter.config.templatePath "hi") := .inl view
  have allowed : ∀ event ∈ rewriting, greeter.Allows Greeting event := by
    have outside := starts.outside known
    rw [view] at outside
    simp only [rewriting, List.forall_mem_cons]
    exact ⟨trivial, outside, known, outside, nofun⟩
  have evaluated : ((greeter.run rewriting).cache.files.read "./views/hi.tpl").toOption = some "Bye" ∧
      ((greeter.run rewriting).getOrCompile (.ofPath "./views/hi.tpl" "Bye")).1.isOk = true := by
    decide +kernel
  obtain ⟨read, good⟩ := evaluated
  have read := toOption_eq_some.1 read
  have works : (greeter.run rewriting).FilesWork "./views/hi.tpl" := by
    intro now again e _ failed
    cases read.symm.trans again
    rw [failed] at good
    cases good
  have present : (greeter.run rewriting).renderPresent "./views/hi.tpl" [] = some (.ok "Bye") := by
    rw [renderPresent, read]
    exact renderTemplate_of_run (by decide +kernel) (by decide +kernel)
  have result := (run_transparent starts allowed).1 "hi" [] known (view ▸ works)
  rw [view] at result
  exact ⟨starts, allowed, works, result.trans present⟩

end Engine

end Stencil
