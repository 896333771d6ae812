import Mathlib.Data.List.Induction
import Stencil.Proofs.Engine.Transparency

/-!
# Sessions

In a session the directives of an engine change, other engines come to use the same files, and sources
are kept to get their templates later. Whatever is done, a fresh artifact was stored by an act before
which the file of the source was as it is now (`session_sound`).
-/

namespace Stencil
open Files

inductive Act where
  | use (event : Event)
  | registerDirective (directive : Directive)
  | registerFunction (name : String) (function : Function)
  /-- Another engine takes over the files, with directives and functions of its own. -/
  | restart (directives : DirectiveTable) (functions : FunctionTable) (dumper : Value → String)
  | keep (path : String)
  /-- Get the template of a source that was kept. -/
  | compile (index : Nat)

def Act.ChangesDirectives : Act → Prop
  | .registerDirective _ => True
  | .restart _ _ _ => True
  | _ => False

structure Session where
  engine : Engine
  kept : List Source

namespace Session

variable (session : Session)

def cache : Cache :=
  session.engine.cache

def files : Files :=
  session.cache.files

def after : Act → Session
  | .use event => { session with engine := session.engine.after event }
  | .registerDirective d =>
    match session.engine.registerDirective d with
    | .ok engine => { session with engine := engine }
    | .error _ => session
  | .registerFunction name function =>
    match session.engine.registerFunction name function with
    | .ok engine => { session with engine := engine }
    | .error _ => session
  | .restart directives functions dumper =>
    let cache := .start session.files session.cache.directory
    { session with engine := ⟨session.engine.config, directives, functions, dumper, cache⟩ }
  | .keep path =>
    match Source.ofFile session.files path with
    | .ok source => { session with kept := session.kept ++ [source] }
    | .error _ => session
  | .compile index =>
    match session.kept[index]? with
    | some source => { session with engine := (session.engine.getOrCompile source).2 }
    | none => session

/-- The source whose template an act gets. -/
def source? : Act → Option Source
  | .use event =>
    (Engine.rendered? session.engine.config event).bind fun path =>
      (Source.ofFile session.files path).toOption
  | .compile index => session.kept[index]?
  | _ => none

end Session

namespace Engine

variable (engine : Engine)

def session (acts : List Act) : Session :=
  acts.foldl Session.after ⟨engine, []⟩

def fileAt (acts : List Act) (path : String) : Option FileEntry :=
  (engine.session acts).files.find? (placeOf engine.cache.files.working path)

def Permits (used : String → Prop) : Act → Prop
  | .use event => engine.Allows used event
  | .keep path => used path
  | _ => True

def artifactAt (acts : List Act) (path : String) : Option FileEntry :=
  (engine.session acts).files.find? (Cache.artifactName path :: engine.artifacts)

/-- An act makes the artifact of a text for a path, while the file at the path is as given. -/
structure Prepares (before : List Act) (act : Act) (path text : String) (source artifact : FileEntry) :
    Prop where
  asked : (engine.session before).source? act = some (.ofPath path text)
  given : engine.fileAt before path = some source
  compiled : ∃ template,
    Template.compile (engine.session before).engine.directives text = .ok template
  made : artifact =
    (engine.session before).engine.directives.artifactFile text (engine.session before).files.clock

/-- The act stores the artifact that it makes: it is there after the act, and not before. -/
structure Stores (before : List Act) (act : Act) (path text : String) (source artifact : FileEntry) :
    Prop extends Engine.Prepares engine before act path text source artifact where
  absent : engine.artifactAt before path ≠ some artifact
  present : engine.artifactAt (before ++ [act]) path = some artifact

def Stored (acts : List Act) (path : String) (source artifact : FileEntry) : Prop :=
  ∃ before act after text, acts = before ++ act :: after ∧
    engine.Stores before act path text source artifact

/-- The artifact of the path is fresh, and it is the one that the act stored, while the file at the path
was as it is now. -/
structure Provides (acts : List Act) (path text : String) (before : List Act) (act : Act) : Prop where
  fresh : (engine.session acts).cache.isFresh (.ofPath path text) = true
  stored : ∃ source artifact, engine.fileAt acts path = some source ∧
    engine.artifactAt acts path = some artifact ∧
    engine.Stores before act path text source artifact

end Engine

theorem Source.ofFile_eq_ok {files : Files} {path : String} {source : Source}
    (h : Source.ofFile files path = .ok source) :
    ∃ text, files.read path = .ok text ∧ source = .ofPath path text := by
  unfold ofFile at h
  split at h
  · next text read =>
    cases h
    exact ⟨text, read, rfl⟩
  · cases h
  · cases h

/-! ## One act -/

namespace Session

variable {session : Session} {act : Act} {s : Setting} {source : Source}

theorem after_of_source? (asked : session.source? act = some source) :
    (session.after act).engine =
      session.engine.withCache (session.cache.getOrCompile session.engine.directives source).2 := by
  cases act with
  | use event =>
    obtain ⟨path, renders, found⟩ := Option.bind_eq_some_iff.1 asked
    obtain ⟨text, read, rfl⟩ := Source.ofFile_eq_ok (toOption_eq_some.1 found)
    obtain ⟨context, same⟩ := session.engine.after_of_rendered? renders
    change session.engine.after event = _
    rw [same, Engine.renderFile_eq read]
    rfl
  | compile index =>
    have kept : session.kept[index]? = some source := asked
    unfold after
    simp only
    rw [kept]
    rfl
  | _ => cases asked

theorem sound_of_source?_eq_none (sound : Sound s session.cache) (unasked : session.source? act = none)
    (outside : ∀ path text, act = .use (.write path text) →
      ¬placeOf s.working s.directory <:+ placeOf s.working path) :
    Sound s (session.after act).cache := by
  cases act with
  | use event =>
    change Sound s (session.engine.after event).cache
    cases renders : Engine.rendered? session.engine.config event with
    | none =>
      obtain ⟨later, same, sound⟩ := Engine.after_quiet sound renders
        fun path text write => outside path text (congrArg Act.use write)
      rw [same]
      exact sound
    | some path =>
      obtain ⟨context, same⟩ := session.engine.after_of_rendered? renders
      have unread : ∀ text, session.engine.cache.files.read path ≠ .ok text := by
        intro text read
        have missing := Option.bind_eq_none_iff.1 unasked path renders
        unfold Source.ofFile files cache at missing
        rw [read] at missing
        cases missing
      rw [same, Engine.renderFile_eq_present unread]
      exact sound
  | registerDirective d =>
    unfold after Engine.registerDirective
    simp only
    cases session.engine.directives.register d with
    | error e => exact sound
    | ok table => exact sound
  | registerFunction name function =>
    unfold after Engine.registerFunction
    simp only
    cases session.engine.functions.register name function with
    | error e => exact sound
    | ok table => exact sound
  | restart directives functions dumper =>
    exact ⟨sound.working, sound.directory, sound.older, sound.fresh, nofun⟩
  | keep path =>
    unfold after
    simp only
    split
    · exact sound
    · exact sound
  | compile index =>
    have missing : session.kept[index]? = none := unasked
    unfold after
    simp only
    rw [missing]
    exact sound

theorem after_fixed (session : Session) (act : Act) :
    (session.after act).engine.config = session.engine.config ∧
      (¬act.ChangesDirectives →
        (session.after act).engine.directives = session.engine.directives) := by
  cases act with
  | use event =>
    obtain ⟨cache, same⟩ := session.engine.after_eq_withCache event
    unfold after
    simp only
    rw [same]
    exact ⟨rfl, fun _ => rfl⟩
  | registerDirective d =>
    refine ⟨?_, fun fixed => absurd trivial fixed⟩
    unfold after Engine.registerDirective
    simp only
    cases session.engine.directives.register d <;> rfl
  | registerFunction name function =>
    unfold after Engine.registerFunction
    simp only
    cases session.engine.functions.register name function <;> exact ⟨rfl, fun _ => rfl⟩
  | restart directives functions dumper => exact ⟨rfl, fun fixed => absurd trivial fixed⟩
  | keep path =>
    unfold after
    simp only
    split <;> exact ⟨rfl, fun _ => rfl⟩
  | compile index =>
    unfold after
    simp only
    split <;> exact ⟨rfl, fun _ => rfl⟩

theorem after_kept (session : Session) (act : Act) :
    (session.after act).kept = session.kept ∨
      ∃ path text, act = .keep path ∧ session.files.read path = .ok text ∧
        (session.after act).kept = session.kept ++ [.ofPath path text] := by
  cases act with
  | keep path =>
    unfold after
    simp only
    split
    · next source found =>
      obtain ⟨text, read, rfl⟩ := Source.ofFile_eq_ok found
      exact .inr ⟨path, text, rfl, read, rfl⟩
    · exact .inl rfl
  | registerDirective d =>
    unfold after
    simp only
    split <;> exact .inl rfl
  | registerFunction name function =>
    unfold after
    simp only
    split <;> exact .inl rfl
  | compile index =>
    unfold after
    simp only
    split <;> exact .inl rfl
  | _ => exact .inl rfl

end Session

/-! ## Whole sessions -/

namespace Engine

variable {engine : Engine} {used : String → Prop} {acts : List Act} {act : Act} {path text : String}
  {source : Source}

theorem session_concat (engine : Engine) (acts : List Act) (act : Act) :
    engine.session (acts ++ [act]) = (engine.session acts).after act := by
  unfold session
  rw [List.foldl_append]
  rfl

theorem session_config (engine : Engine) (acts : List Act) :
    (engine.session acts).engine.config = engine.config := by
  induction acts using List.reverseRecOn with
  | nil => rfl
  | append_singleton acts act ih => rw [session_concat, (Session.after_fixed _ act).1, ih]

theorem session_directives (acts : List Act) {more : List Act}
    (fixed : ∀ act ∈ more, ¬act.ChangesDirectives) :
    (engine.session (acts ++ more)).engine.directives = (engine.session acts).engine.directives := by
  induction more using List.reverseRecOn with
  | nil => rw [List.append_nil]
  | append_singleton more act ih =>
    rw [List.forall_mem_append, List.forall_mem_singleton] at fixed
    rw [← List.append_assoc, session_concat, (Session.after_fixed _ act).2 fixed.2, ih fixed.1]

theorem exists_keep {index : Nat} (kept : (engine.session acts).kept[index]? = some source) :
    ∃ before path after text, acts = before ++ .keep path :: after ∧
      (engine.session before).kept.length = index ∧
      (engine.session before).files.read path = .ok text ∧ source = .ofPath path text := by
  induction acts using List.reverseRecOn with
  | nil => cases kept
  | append_singleton acts act ih =>
    have earlier : (engine.session acts).kept[index]? = some source →
        ∃ before path after text, acts ++ [act] = before ++ .keep path :: after ∧
          (engine.session before).kept.length = index ∧
          (engine.session before).files.read path = .ok text ∧ source = .ofPath path text := by
      intro kept
      obtain ⟨before, path, after, text, rfl, rest⟩ := ih kept
      exact ⟨before, path, after ++ [act], text, by simp, rest⟩
    rw [session_concat] at kept
    rcases (engine.session acts).after_kept act with same | ⟨path, text, rfl, read, more⟩
    · rw [same] at kept
      exact earlier kept
    · rw [more, List.getElem?_append] at kept
      split at kept
      · exact earlier kept
      · next large =>
        obtain ⟨within, same⟩ := List.getElem?_eq_some_iff.1 kept
        rw [List.length_singleton] at within
        rw [List.getElem_singleton] at same
        exact ⟨acts, path, [], text, rfl, by omega, read, same.symm⟩

theorem exists_ofPath (allowed : ∀ act ∈ acts, engine.Permits used act)
    (permitted : engine.Permits used act)
    (asked : (engine.session acts).source? act = some source) :
    ∃ path text, used path ∧ source = .ofPath path text := by
  cases act with
  | use event =>
    obtain ⟨path, renders, found⟩ := Option.bind_eq_some_iff.1 asked
    obtain ⟨text, read, rfl⟩ := Source.ofFile_eq_ok (toOption_eq_some.1 found)
    rw [session_config] at renders
    exact ⟨path, text, used_of_rendered? permitted renders, rfl⟩
  | compile index =>
    obtain ⟨before, path, after, text, rfl, -, -, rfl⟩ := exists_keep asked
    exact ⟨path, text, allowed (.keep path) (by simp), rfl⟩
  | _ => cases asked

theorem Stored.append {source artifact : FileEntry} (stored : engine.Stored acts path source artifact)
    (act : Act) : engine.Stored (acts ++ [act]) path source artifact := by
  obtain ⟨before, storing, after, text, rfl, stores⟩ := stored
  exact ⟨before, storing, after ++ [act], text, by simp, stores⟩

def Starts.stored (starts : engine.Starts used) (acts : List Act) : Setting :=
  { starts.setting with made := engine.Stored acts }

/-- What an act makes for a path counts too. Whether it stores that shows only afterwards. -/
def Starts.prepared (starts : engine.Starts used) (acts : List Act) (act : Act) (path text : String) :
    Setting :=
  { starts.setting with
    made := fun other source artifact => engine.Stored acts other source artifact ∨
      other = path ∧ engine.Prepares acts act path text source artifact }

theorem stored_of_prepared (starts : engine.Starts used)
    (sound : Sound (starts.stored acts) (engine.session acts).cache)
    (after : Sound (starts.prepared acts act path text) (engine.session (acts ++ [act])).cache) :
    Sound (starts.stored (acts ++ [act])) (engine.session (acts ++ [act])).cache := by
  refine after.refine fun {other content time source} known there right => ?_
  rcases right with stored | ⟨rfl, prepares⟩
  · exact stored.append act
  · refine ⟨acts, act, [], text, rfl, prepares, fun already => ?_, there⟩
    have early : time < (engine.session acts).files.clock := sound.older known already
    have made := prepares.made
    cases made
    exact Int.lt_irrefl _ early

theorem sound_of_source? (starts : engine.Starts used) (known : used path)
    (sound : Sound (starts.stored acts) (engine.session acts).cache)
    (asked : (engine.session acts).source? act = some (.ofPath path text)) :
    Sound (starts.stored (acts ++ [act])) (engine.session (acts ++ [act])).cache := by
  have prepared : Sound (starts.prepared acts act path text) (engine.session acts).cache :=
    sound.refine fun _ _ => .inl
  have after : Sound (starts.prepared acts act path text) (engine.session (acts ++ [act])).cache := by
    rw [session_concat]
    unfold Session.cache
    rw [Session.after_of_source? asked]
    refine (prepared.getOrCompile known ?_).sound
    intro source modified template present compiled
    exact .inr ⟨rfl, asked, present, ⟨template, compiled⟩, rfl⟩
  exact stored_of_prepared starts sound after

/-- Whatever is done in a session, the cache stays sound: fresh artifacts are those that acts stored for
files that are still as they were. -/
theorem session_sound (starts : engine.Starts used)
    (allowed : ∀ act ∈ acts, engine.Permits used act) :
    Sound (starts.stored acts) (engine.session acts).cache := by
  induction acts using List.reverseRecOn with
  | nil =>
    refine starts.sound.refine fun {path content time source} _ found _ => ?_
    have absent := starts.empty (Cache.artifactName path)
    cases absent.symm.trans found
  | append_singleton acts act ih =>
    rw [List.forall_mem_append, List.forall_mem_singleton] at allowed
    obtain ⟨allowed, permitted⟩ := allowed
    have sound := ih allowed
    cases asked : (engine.session acts).source? act with
    | some source =>
      obtain ⟨path, text, known, rfl⟩ := exists_ofPath allowed permitted asked
      exact sound_of_source? starts known sound asked
    | none =>
      have later : Sound (starts.stored (acts ++ [act])) (engine.session acts).cache :=
        sound.refine fun _ _ stored => stored.append act
      rw [session_concat]
      refine Session.sound_of_source?_eq_none later asked ?_
      rintro path text rfl
      exact permitted

/-! ## What is there after a session -/

namespace Provides

variable {before : List Act}

theorem asked (provides : engine.Provides acts path text before act) :
    (engine.session before).source? act = some (.ofPath path text) := by
  obtain ⟨_, _, -, -, stores⟩ := provides.stored
  exact stores.asked

theorem unchanged (provides : engine.Provides acts path text before act) :
    engine.fileAt before path = engine.fileAt acts path := by
  obtain ⟨_, _, source, -, stores⟩ := provides.stored
  exact stores.given.trans source.symm

theorem template (provides : engine.Provides acts path text before act) :
    ∃ content time template, engine.artifactAt acts path = some (.file content time) ∧
      String.fromUTF8? content =
        some ((engine.session before).engine.directives.artifact text) ∧
      Template.compile (engine.session before).engine.directives text = .ok template := by
  obtain ⟨_, artifact, -, there, stores⟩ := provides.stored
  obtain ⟨template, compiled⟩ := stores.compiled
  have made := stores.made
  cases made
  exact ⟨_, _, template, there, fromUTF8?_toUTF8 _, compiled⟩

end Provides

theorem fileAt_of_read (starts : engine.Starts used)
    (allowed : ∀ act ∈ acts, engine.Permits used act)
    (read : (engine.session acts).files.read path = .ok text) :
    ∃ content time, engine.fileAt acts path = some (.file content time) ∧
      String.fromUTF8? content = some text := by
  have working : (engine.session acts).files.working = engine.cache.files.working :=
    (session_sound starts allowed).working
  obtain ⟨content, time, found, decoded⟩ := read_eq_ok read
  rw [working] at found
  exact ⟨content, time, found, decoded⟩

theorem read_unique {early : List Act} {now : String} (starts : engine.Starts used)
    (allowedEarly : ∀ act ∈ early, engine.Permits used act)
    (allowed : ∀ act ∈ acts, engine.Permits used act)
    (readEarly : (engine.session early).files.read path = .ok text)
    (read : (engine.session acts).files.read path = .ok now)
    (same : engine.fileAt early path = engine.fileAt acts path) : text = now := by
  obtain ⟨_, _, present, decoded⟩ := fileAt_of_read starts allowedEarly readEarly
  obtain ⟨_, _, presentNow, decodedNow⟩ := fileAt_of_read starts allowed read
  rw [same, presentNow] at present
  cases present
  exact Option.some.inj (decoded.symm.trans decodedNow)

/-- A fresh artifact was stored by an act, and the file at the path has not changed since. If there is a
directory in its place, none is loaded. -/
theorem load_fresh {now : String} (starts : engine.Starts used)
    (allowed : ∀ act ∈ acts, engine.Permits used act) (known : used path)
    (read : (engine.session acts).files.read path = .ok now)
    (fresh : (engine.session acts).cache.isFresh (.ofPath path now) = true) :
    (∃ before act after text, acts = before ++ act :: after ∧
      engine.Provides acts path text before act ∧
      (engine.session acts).cache.load path =
        .ok (some ((engine.session before).engine.directives.artifact text))) ∨
    ∃ time, engine.artifactAt acts path = some (.directory time) ∧
      (engine.session acts).cache.load path =
        .error (.unreadable ((engine.session acts).cache.artifactPath path) .isADirectory) := by
  have sound := session_sound starts allowed
  obtain ⟨_, _, -, dated, -⟩ := Cache.times_of_isFresh fresh
  obtain ⟨e, entry, -⟩ := entry_of_modified? dated
  have there := entry_eq_ok entry
  rw [sound.placeOf_artifactPath] at there
  cases e with
  | directory time =>
    refine .inr ⟨time, there, ?_⟩
    unfold Cache.load
    simp only
    rw [read_of_entry_directory entry]
  | file content time =>
    obtain ⟨source, modified, present, -, before, act, after, text, happened, stores⟩ :=
      sound.made_of_isFresh known read fresh there
    refine .inl ⟨before, act, after, text, happened, ⟨fresh, _, _, present, there, stores⟩, ?_⟩
    have artifact := stores.made
    cases artifact
    unfold Cache.load
    simp only
    rw [read_of_entry_file entry (fromUTF8?_toUTF8 _)]

def HiView (path : String) : Prop :=
  path = "./views/hi.tpl"

theorem greeter_starts : greeter.Starts HiView := by
  refine ⟨rfl, greeter_empty, ?_, ?_⟩
  · rintro path rfl
    decide +kernel
  · rintro a b rfl rfl -
    rfl

end Engine

end Stencil
