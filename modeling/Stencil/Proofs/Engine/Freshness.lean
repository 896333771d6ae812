import Stencil.Proofs.Engine.Session

/-!
# What a fresh artifact holds

A fresh artifact is that of a text that was read from the path and whose template was got since the file
was last written (`load_of_isFresh`). The file may have been written between the two, and then the
artifact is not that of the present text (`load_of_isFresh_outdated`).
-/

namespace Stencil
open Files

namespace Engine

/-- The acts after which the source of an act was read: those before the act, or if the source was kept,
those before it was. -/
inductive ReadAfter (engine : Engine) : List Act → Act → List Act → Prop
  | now (before : List Act) (event : Event) : engine.ReadAfter before (.use event) before
  | kept (early rest : List Act) (path : String) :
    engine.ReadAfter (early ++ .keep path :: rest) (.compile (engine.session early).kept.length) early

/-- Where an artifact comes from: an act got the template of a text that had been read from the path, and
the file at the path has not changed since the act. The text is the present one, unless the file changed
between reading and the act. -/
structure Origin (engine : Engine) (acts : List Act) (path now : String) (before : List Act) (act : Act)
    (early : List Act) (text : String) : Prop where
  happened : ∃ after, acts = before ++ act :: after
  asked : (engine.session before).source? act = some (.ofPath path text)
  unchanged : engine.fileAt before path = engine.fileAt acts path
  readAfter : engine.ReadAfter before act early
  read : (engine.session early).files.read path = .ok text
  present : engine.fileAt early path = engine.fileAt acts path → text = now

variable {engine : Engine} {used : String → Prop} {acts before early : List Act} {act : Act}
  {path text now : String}

theorem ReadAfter.mem (reading : engine.ReadAfter before act early) {other : Act} (mem : other ∈ early) :
    other ∈ before := by
  cases reading with
  | now event => exact mem
  | kept rest path => exact List.mem_append_left _ mem

theorem exists_readAfter (asked : (engine.session before).source? act = some (.ofPath path text)) :
    ∃ early, engine.ReadAfter before act early ∧
      (engine.session early).files.read path = .ok text := by
  cases act with
  | use event =>
    obtain ⟨_, -, found⟩ := Option.bind_eq_some_iff.1 asked
    obtain ⟨_, read, same⟩ := Source.ofFile_eq_ok (toOption_eq_some.1 found)
    cases same
    exact ⟨before, .now before event, read⟩
  | compile index =>
    obtain ⟨early, _, rest, _, rfl, rfl, read, same⟩ := exists_keep asked
    cases same
    exact ⟨early, .kept early rest path, read⟩
  | _ => cases asked

/-- As long as the directives stay the same, a fresh artifact is that of a text whose template was got
since the file was last written. If a directory is in its place, it cannot be loaded. -/
theorem load_of_isFresh (starts : engine.Starts used)
    (allowed : ∀ act ∈ acts, engine.Permits used act) (fixed : ∀ act ∈ acts, ¬act.ChangesDirectives)
    (known : used path) (read : (engine.session acts).files.read path = .ok now)
    (fresh : (engine.session acts).cache.isFresh (.ofPath path now) = true) :
    (∃ before act early text, engine.Origin acts path now before act early text ∧
      (engine.session acts).cache.load path = .ok (some (engine.directives.artifact text))) ∨
    (engine.session acts).cache.load path =
      .error (.unreadable ((engine.session acts).cache.artifactPath path) .isADirectory) := by
  rcases load_fresh starts allowed known read fresh with
    ⟨before, act, after, text, rfl, provides, loaded⟩ | ⟨time, -, failed⟩
  · left
    obtain ⟨early, reading, earlyRead⟩ := exists_readAfter provides.asked
    have directives : (engine.session before).engine.directives = engine.directives :=
      session_directives [] fun act mem => fixed act (List.mem_append_left _ mem)
    rw [directives] at loaded
    have allowedEarly : ∀ act ∈ early, engine.Permits used act :=
      fun act mem => allowed act (List.mem_append_left _ (reading.mem mem))
    exact ⟨before, act, early, text, ⟨⟨after, rfl⟩, provides.asked, provides.unchanged, reading,
      earlyRead, read_unique starts allowedEarly allowed earlyRead read⟩, loaded⟩
  · exact .inr failed

/-- The view is written anew after its source was read, and before the template of the source is got. -/
def outdating : List Act :=
  [.use (.makeDirectories "./views"), .use (.write "./views/hi.tpl" "Hello"), .keep "./views/hi.tpl",
    .use (.write "./views/hi.tpl" "Bye"), .compile 0]

theorem outdating_permitted :
    (∀ act ∈ outdating, greeter.Permits HiView act) ∧ ∀ act ∈ outdating, ¬act.ChangesDirectives := by
  have outside : ¬greeter.artifacts <:+ placeOf greeter.cache.files.working "./views/hi.tpl" :=
    greeter_starts.outside rfl
  constructor
  · simp only [outdating, List.forall_mem_cons]
    exact ⟨trivial, outside, rfl, outside, trivial, nofun⟩
  · simp [outdating, Act.ChangesDirectives]

theorem outdating_fresh :
    (greeter.session outdating).files.read "./views/hi.tpl" = .ok "Bye" ∧
      (greeter.session outdating).cache.isFresh (.ofPath "./views/hi.tpl" "Bye") = true ∧
      (greeter.session outdating).cache.load "./views/hi.tpl" = .ok (some "Hello") := by
  rw [← toOption_eq_some, ← toOption_eq_some]
  decide +kernel

/-- An artifact that is fresh need not be that of the present text. -/
theorem load_of_isFresh_outdated :
    greeter.Starts HiView ∧ (∀ act ∈ outdating, greeter.Permits HiView act) ∧
      (∀ act ∈ outdating, ¬act.ChangesDirectives) ∧
      (greeter.session outdating).files.read "./views/hi.tpl" = .ok "Bye" ∧
      (greeter.session outdating).cache.isFresh (.ofPath "./views/hi.tpl" "Bye") = true ∧
      (greeter.session outdating).cache.load "./views/hi.tpl" ≠
        .ok (some (greeter.directives.artifact "Bye")) := by
  obtain ⟨allowed, fixed⟩ := outdating_permitted
  obtain ⟨read, fresh, loaded⟩ := outdating_fresh
  refine ⟨greeter_starts, allowed, fixed, read, fresh, ?_⟩
  have artifact : greeter.directives.artifact "Bye" = "Bye" := by decide +kernel
  rw [loaded, artifact]
  intro same
  have texts : "Hello" = "Bye" := Option.some.inj (Except.ok.inj same)
  exact absurd texts (by decide)

theorem load_of_isFresh_outdating :
    greeter.Starts HiView ∧ (∀ act ∈ outdating, greeter.Permits HiView act) ∧
      (∀ act ∈ outdating, ¬act.ChangesDirectives) ∧
      (greeter.session outdating).files.read "./views/hi.tpl" = .ok "Bye" ∧
      (greeter.session outdating).cache.isFresh (.ofPath "./views/hi.tpl" "Bye") = true ∧
      ∃ before act early text,
        greeter.Origin outdating "./views/hi.tpl" "Bye" before act early text ∧
          greeter.directives.artifact text = "Hello" := by
  obtain ⟨allowed, fixed⟩ := outdating_permitted
  obtain ⟨read, fresh, loaded⟩ := outdating_fresh
  refine ⟨greeter_starts, allowed, fixed, read, fresh, ?_⟩
  rcases load_of_isFresh greeter_starts allowed fixed rfl read fresh with
    ⟨before, act, early, text, origin, same⟩ | failed
  · rw [loaded] at same
    exact ⟨before, act, early, text, origin, (Option.some.inj (Except.ok.inj same)).symm⟩
  · rw [loaded] at failed
    cases failed

end Engine

end Stencil
