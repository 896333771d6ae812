import Stencil.Proofs.Engine.Session

/-!
# Directives that are registered late

A directive that is registered takes effect on every view whose artifact is not fresh or was stored since.
From a fresh artifact that was stored before, a view is rendered under the directives of that time
(`render_registered`), even if they give another text (`render_registered_late`).
-/

namespace Stencil
open Files

namespace Engine

/-- What the present text of the file at a path writes after some acts, under the directives that there
were after others. -/
def renderUnder (engine : Engine) (before acts : List Act) (path : String) (context : Context) :
    Outcome :=
  let directives := (engine.session before).engine.directives
  { (engine.session acts).engine with directives := directives }.renderPresent path context

variable {engine : Engine} {used : String → Prop} {acts before : List Act} {act : Act}
  {path text : String} {context : Context}

theorem read_of_source? (keeps : ∀ index, act ≠ .compile index)
    (asked : (engine.session acts).source? act = some (.ofPath path text)) :
    (engine.session acts).files.read path = .ok text := by
  cases act with
  | use event =>
    obtain ⟨_, -, found⟩ := Option.bind_eq_some_iff.1 asked
    obtain ⟨_, read, same⟩ := Source.ofFile_eq_ok (toOption_eq_some.1 found)
    cases same
    exact read
  | compile index => exact absurd rfl (keeps index)
  | _ => cases asked

theorem renderFile_eq_under
    (read : (engine.session acts).files.read path = .ok text)
    (got : ((engine.session acts).engine.getOrCompile (.ofPath path text)).1 =
      Template.compile (engine.session before).engine.directives text) :
    ((engine.session acts).engine.renderFile path context).1 =
      engine.renderUnder before acts path context := by
  unfold renderUnder renderPresent
  simp only
  have read : (engine.session acts).engine.cache.files.read path = .ok text := read
  rw [renderFile_eq read, read]
  simp only
  rw [got]
  rfl

theorem renderUnder_of_unread (unread : ∀ now, (engine.session acts).files.read path ≠ .ok now) :
    engine.renderUnder before acts path context =
      (engine.session acts).engine.renderPresent path context := by
  unfold renderUnder renderPresent
  simp only
  cases read : (engine.session acts).engine.cache.files.read path with
  | ok now => exact absurd read (unread now)
  | error fault => cases fault <;> rfl

theorem getting_session (starts : engine.Starts used)
    (allowed : ∀ act ∈ acts, engine.Permits used act) (known : used path) (now : String) :
    Getting { starts.setting with made := fun _ _ _ => True } (engine.session acts).cache
      (engine.session acts).engine.directives path now
      ((engine.session acts).cache.getOrCompile (engine.session acts).engine.directives
        (.ofPath path now)) := by
  -- How artifacts are made does not matter for what is got.
  have lax : Sound { starts.setting with made := fun _ _ _ => True } (engine.session acts).cache :=
    (session_sound starts allowed).refine fun _ _ _ => trivial
  exact lax.getOrCompile known fun _ _ _ _ _ => trivial

theorem Provides.text_eq {after : List Act} {now : String} (starts : engine.Starts used)
    (happened : acts = before ++ act :: after) (allowed : ∀ act ∈ acts, engine.Permits used act)
    (keeps : ∀ index, .compile index ∉ acts) (provides : engine.Provides acts path text before act)
    (read : (engine.session acts).files.read path = .ok now) : text = now := by
  have readBefore : (engine.session before).files.read path = .ok text := by
    refine read_of_source? (fun index same => keeps index ?_) provides.asked
    rw [happened, same]
    simp
  have allowedBefore : ∀ act ∈ before, engine.Permits used act := by
    intro act mem
    rw [happened] at allowed
    exact allowed act (List.mem_append_left _ mem)
  exact read_unique starts allowedBefore allowed readBefore read provides.unchanged

/-- From a fresh artifact a file is rendered under the directives for which the artifact was stored. -/
theorem renderFile_of_provides {after : List Act} (starts : engine.Starts used)
    (happened : acts = before ++ act :: after) (allowed : ∀ act ∈ acts, engine.Permits used act)
    (keeps : ∀ index, .compile index ∉ acts) (known : used path)
    (works : (engine.session acts).engine.FilesWork path)
    (provides : engine.Provides acts path text before act) :
    ((engine.session acts).engine.renderFile path context).1 =
      engine.renderUnder before acts path context := by
  by_cases readable : ∃ now, (engine.session acts).files.read path = .ok now
  · obtain ⟨now, read⟩ := readable
    obtain rfl := provides.text_eq starts happened allowed keeps read
    obtain ⟨content, time, template, there, decoded, compiled⟩ := provides.template
    rcases (getting_session starts allowed known text).of_serves
      ⟨provides.fresh, content, time, _, there, decoded, compiled⟩ with ⟨e, failed, unreadable⟩ | got
    · exact absurd failed (works text read e unreadable)
    · exact renderFile_eq_under read (got.trans compiled.symm)
  · rw [not_exists] at readable
    rw [renderFile_eq_present readable, renderUnder_of_unread readable]

theorem renderFile_session (starts : engine.Starts used)
    (allowed : ∀ act ∈ acts, engine.Permits used act) (known : used path)
    (works : (engine.session acts).engine.FilesWork path) :
    (∃ before act after text, acts = before ++ act :: after ∧
      engine.Provides acts path text before act) ∨
    ((engine.session acts).engine.renderFile path context).1 =
      (engine.session acts).engine.renderPresent path context := by
  by_cases readable : ∃ now, (engine.session acts).files.read path = .ok now
  · obtain ⟨now, read⟩ := readable
    rcases (getting_session starts allowed known now).result with
      ⟨e, failed, unreadable⟩ | ⟨template, ⟨fresh, content, time, artifact, there, -⟩, -⟩ | ⟨-, compiled⟩
    · exact absurd failed (works now read e unreadable)
    · rcases load_fresh starts allowed known read fresh with
        ⟨before, act, after, text, happened, provides, -⟩ | ⟨time, directory, -⟩
      · exact .inl ⟨before, act, after, text, happened, provides⟩
      · cases there.symm.trans directory
    · exact .inr (renderFile_eq_under read compiled)
  · rw [not_exists] at readable
    rw [renderFile_eq_present readable]
    exact .inr rfl

theorem directives_registered {earlier later : List Act} {d : Directive} {table : DirectiveTable}
    (registered : (engine.session earlier).engine.directives.register d = .ok table)
    (fixed : ∀ act ∈ later, ¬act.ChangesDirectives) :
    (engine.session (earlier ++ .registerDirective d :: later)).engine.directives = table := by
  rw [List.append_cons, session_directives _ fixed, session_concat]
  unfold Session.after registerDirective
  simp only
  rw [registered]
  rfl

/-- An act of a session is the given one, or comes before or after it. -/
theorem before_or_after {earlier later after : List Act} {other : Act}
    (whole : earlier ++ other :: later = before ++ act :: after) (differ : act ≠ other) :
    (∃ middle, earlier = before ++ act :: middle) ∨
      ∃ middle, before = earlier ++ other :: middle ∧ later = middle ++ act :: after := by
  rcases List.append_eq_append_iff.1 whole with ⟨middle, rfl, rest⟩ | ⟨middle, rfl, rest⟩
  · cases middle with
    | nil => exact absurd (List.cons.inj rest).1.symm differ
    | cons first middle =>
      obtain ⟨rfl, rfl⟩ := List.cons.inj rest
      exact .inr ⟨middle, rfl, rfl⟩
  · cases middle with
    | nil => exact absurd (List.cons.inj rest).1 differ
    | cons first middle =>
      obtain ⟨rfl, rfl⟩ := List.cons.inj rest
      exact .inl ⟨middle, rfl⟩

/-- After a directive is registered, a view whose fresh artifact was stored before is rendered as its present
text under the directives for which the artifact was stored. Every other view is rendered as its present
text under the new directives. -/
theorem render_registered {earlier later : List Act} {d : Directive} {table : DirectiveTable}
    {view : String} (context : Context) (starts : engine.Starts used)
    (happened : acts = earlier ++ .registerDirective d :: later)
    (registered : (engine.session earlier).engine.directives.register d = .ok table)
    (allowed : ∀ act ∈ acts, engine.Permits used act) (keeps : ∀ index, .compile index ∉ acts)
    (fixed : ∀ act ∈ later, ¬act.ChangesDirectives) (known : used (engine.config.templatePath view))
    (works : (engine.session acts).engine.FilesWork (engine.config.templatePath view)) :
    (engine.session acts).engine.directives = table ∧
      (∀ before act middle text, earlier = before ++ act :: middle →
        engine.Provides acts (engine.config.templatePath view) text before act →
        ((engine.session acts).engine.render view context).1 =
          engine.renderUnder before acts (engine.config.templatePath view) context) ∧
      ((∀ before act middle text, earlier = before ++ act :: middle →
        ¬engine.Provides acts (engine.config.templatePath view) text before act) →
        ((engine.session acts).engine.render view context).1 =
          (engine.session acts).engine.renderPresent (engine.config.templatePath view) context) := by
  have present : (engine.session acts).engine.directives = table := by
    rw [happened]
    exact directives_registered registered fixed
  unfold render
  rw [session_config]
  refine ⟨present, fun before act middle text stored provides => ?_, fun none => ?_⟩
  · have whole : acts = before ++ act :: (middle ++ .registerDirective d :: later) := by
      rw [happened, stored, List.append_assoc, List.cons_append]
    exact renderFile_of_provides starts whole allowed keeps known works provides
  · rcases renderFile_session starts allowed known works with
      ⟨before, act, after, text, whole, provides⟩ | result
    · have differ : act ≠ .registerDirective d := by
        rintro rfl
        cases provides.asked
      rw [renderFile_of_provides starts whole allowed keeps known works provides]
      rcases before_or_after (happened ▸ whole) differ with ⟨middle, stored⟩ | ⟨middle, rfl, rfl⟩
      · exact absurd provides (none before act middle text stored)
      · -- The artifact was stored since the directive is there.
        unfold renderUnder
        rw [directives_registered registered fun act mem => fixed act (List.mem_append_left _ mem),
          ← present]
    · exact result

def rule : Directive :=
  ⟨"hr", false, fun _ => "<hr>".toList⟩

/-- The view is rendered before the directive in it is registered. -/
def beforeRule : List Act :=
  [.use (.makeDirectories "./views"), .use (.write "./views/hi.tpl" "@hr"), .use (.render "hi" [])]

def withRule : List Act :=
  beforeRule ++ [.registerDirective rule]

theorem templatePath_hi : greeter.config.templatePath "hi" = "./views/hi.tpl" := by
  decide +kernel

theorem withRule_permitted :
    (∀ act ∈ withRule, greeter.Permits HiView act) ∧ ∀ index, .compile index ∉ withRule := by
  have outside : ¬greeter.artifacts <:+ placeOf greeter.cache.files.working "./views/hi.tpl" :=
    greeter_starts.outside rfl
  constructor
  · simp only [withRule, beforeRule, List.cons_append, List.nil_append, List.forall_mem_cons]
    exact ⟨trivial, outside, templatePath_hi, trivial, nofun⟩
  · simp [withRule, beforeRule]

theorem withRule_read :
    (greeter.session withRule).files.read "./views/hi.tpl" = .ok "@hr" ∧
      ((greeter.session withRule).engine.getOrCompile (.ofPath "./views/hi.tpl" "@hr")).1.isOk = true ∧
      ((greeter.session beforeRule).engine.directives.register rule).isOk = true := by
  rw [← toOption_eq_some]
  decide +kernel

theorem exists_register_rule :
    ∃ table, (greeter.session beforeRule).engine.directives.register rule = .ok table := by
  obtain ⟨-, -, registered⟩ := withRule_read
  cases result : (greeter.session beforeRule).engine.directives.register rule with
  | error e =>
    rw [result] at registered
    cases registered
  | ok table => exact ⟨table, rfl⟩

theorem withRule_works : (greeter.session withRule).engine.FilesWork "./views/hi.tpl" := by
  obtain ⟨read, good, -⟩ := withRule_read
  intro text readText e _ failed
  cases read.symm.trans readText
  rw [failed] at good
  cases good

theorem withRule_rendered :
    ((greeter.session withRule).engine.render "hi" []).1 = some (.ok "@hr") ∧
      (greeter.session withRule).engine.renderText "@hr" [] = some (.ok "<hr>") := by
  have read : (greeter.session withRule).engine.cache.files.read "./views/hi.tpl" = .ok "@hr" :=
    withRule_read.1
  have view : (greeter.session withRule).engine.config.templatePath "hi" = "./views/hi.tpl" := by
    rw [session_config, templatePath_hi]
  constructor
  · rw [render, view, renderFile_eq read]
    exact renderTemplate_of_run (by decide +kernel) (by decide +kernel)
  · exact renderTemplate_of_run (by decide +kernel) (by decide +kernel)

/-- A directive that is registered need not take effect on a view that was rendered before. -/
theorem render_registered_late :
    greeter.Starts HiView ∧ (∀ act ∈ withRule, greeter.Permits HiView act) ∧
      (∃ table, (greeter.session beforeRule).engine.directives.register rule = .ok table) ∧
      ((greeter.session withRule).engine.render "hi" []).1 ≠
        (greeter.session withRule).engine.renderText "@hr" [] := by
  obtain ⟨allowed, -⟩ := withRule_permitted
  obtain ⟨rendered, present⟩ := withRule_rendered
  refine ⟨greeter_starts, allowed, exists_register_rule, ?_⟩
  rw [rendered, present]
  simp

theorem render_registered_rule :
    greeter.Starts HiView ∧ (∀ act ∈ withRule, greeter.Permits HiView act) ∧
      (greeter.session withRule).engine.FilesWork "./views/hi.tpl" ∧
      ∃ table, (greeter.session beforeRule).engine.directives.register rule = .ok table ∧
        (greeter.session withRule).engine.directives = table ∧
        ∃ before act middle text, beforeRule = before ++ act :: middle ∧
          greeter.Provides withRule "./views/hi.tpl" text before act ∧
          greeter.renderUnder before withRule "./views/hi.tpl" [] = some (.ok "@hr") := by
  obtain ⟨allowed, keeps⟩ := withRule_permitted
  obtain ⟨rendered, written⟩ := withRule_rendered
  obtain ⟨table, registered⟩ := exists_register_rule
  have happened : withRule = beforeRule ++ .registerDirective rule :: [] := rfl
  obtain ⟨directives, earlier, otherwise⟩ := render_registered [] greeter_starts happened registered
    allowed keeps nofun templatePath_hi (templatePath_hi ▸ withRule_works)
  refine ⟨greeter_starts, allowed, withRule_works, table, registered, directives, ?_⟩
  rw [templatePath_hi, rendered] at earlier otherwise
  have present : (greeter.session withRule).engine.renderPresent "./views/hi.tpl" [] =
      some (.ok "<hr>") := by
    have read : (greeter.session withRule).engine.cache.files.read "./views/hi.tpl" = .ok "@hr" :=
      withRule_read.1
    rw [renderPresent, read]
    exact written
  rw [present] at otherwise
  -- If no act had stored the artifact before the directive is there, the line would be written.
  by_contra none
  have line : (some (.ok "@hr") : Outcome) = some (.ok "<hr>") := by
    refine otherwise fun before act middle text stored provides => none ?_
    exact ⟨before, act, middle, text, stored, provides, (earlier _ _ _ _ stored provides).symm⟩
  simp at line

end Engine

end Stencil
