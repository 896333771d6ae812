import Stencil.Proofs.Store.Damage
import Stencil.Proofs.Store.Edits

/-!
# Calls

All that a call for a template can do to a cache (`called`): it finds a template and counts a hit, or it
counts a miss and makes one or refuses to. A template that was got is found again, as long as its artifact
is fresh (`getOrCompile_again`).
-/

namespace Stencil
open Files

namespace Cache

def readable (cache : Cache) (id : String) : Bool :=
  (cache.files.modified? (cache.artifactPath id)).isNone ||
    (cache.files.read (cache.artifactPath id)).isOk

/-- The artifact file of a source is fresh, but it has to be read and holds no program. -/
def Discards (cache : Cache) (source : Source) : Prop :=
  cache.isFresh source = true ∧ ∃ modified artifact e,
    cache.files.modified? (cache.artifactPath source.identifier) = some modified ∧
      cache.loaded? source.identifier modified = none ∧
      cache.load source.identifier = .ok (some artifact) ∧ Template.ofArtifact artifact = .error e

def Refuses (cache : Cache) (directives : DirectiveTable) (source : Source) (e : Error) : Prop :=
  Template.compile directives source.text = .error e ∨
    ∃ template, Template.compile directives source.text = .ok template ∧
      (cache.store source template.artifact).1 = .error e

/-- If there is an artifact file of the name, the template is in memory and good. -/
def Holds (cache : Cache) (id : String) (template : Template) : Prop :=
  ∀ modified, cache.files.modified? (cache.artifactPath id) = some modified →
    cache.loaded? id modified = some template

def Adds (cache : Cache) (id : String) (later : Cache) : Prop :=
  ∀ other, other ≠ id → Entries.has other later.loaded = true → Entries.has other cache.loaded = true

inductive Looked (cache : Cache) (source : Source) : Cached (Option Template) → Prop where
  | warm {template} (holds : cache.Holds source.identifier template) :
    Looked cache source (.ok (some template), cache)
  | read {modified template}
      (dated : cache.files.modified? (cache.artifactPath source.identifier) = some modified) :
    Looked cache source (.ok (some template), cache.remember source.identifier modified template)
  | stale (kept : ¬cache.Discards source) : Looked cache source (.ok none, cache)
  | discarded (discards : cache.Discards source) :
    Looked cache source (.ok none, cache.forget source.identifier)
  | unreadable {e} (unread : cache.readable source.identifier = false) :
    Looked cache source (.error e, cache)

inductive Made (cache : Cache) (directives : DirectiveTable) (source : Source) : Cached Template → Prop where
  | stored {template later} (files : ∃ edits, later.files = cache.files.edits edits)
      (tally : later.tally = { cache.tally with stores := cache.tally.stores + 1 })
      (holds : later.Holds source.identifier template) (adds : cache.Adds source.identifier later) :
    Made cache directives source (.ok template, later)
  | refused {e} (edits : List Edit) (refuses : cache.Refuses directives source e) :
    Made cache directives source (.error e, { cache with files := cache.files.edits edits })

/-- All that a call can do. -/
inductive Called (cache : Cache) (directives : DirectiveTable) (source : Source) :
    Cached Template → Prop where
  | hit {template later} (files : later.files = cache.files)
      (tally : later.tally = { cache.tally with hits := cache.tally.hits + 1 })
      (holds : later.Holds source.identifier template) (adds : cache.Adds source.identifier later) :
    Called cache directives source (.ok template, later)
  | stored {template later} (files : ∃ edits, later.files = cache.files.edits edits)
      (tally : later.tally = ⟨cache.tally.hits, cache.tally.misses + 1, cache.tally.stores + 1⟩)
      (holds : later.Holds source.identifier template) (adds : cache.Adds source.identifier later) :
    Called cache directives source (.ok template, later)
  | refused {e later} (files : ∃ edits, later.files = cache.files.edits edits)
      (tally : later.tally = { cache.tally with misses := cache.tally.misses + 1 })
      (refuses : cache.Refuses directives source e)
      (kept : ∀ id, Entries.has id later.loaded = true →
        Entries.has id cache.loaded = true ∧ (id = source.identifier → ¬cache.Discards source)) :
    Called cache directives source (.error e, later)
  | unreadable {e} (unread : cache.readable source.identifier = false) :
    Called cache directives source (.error e, cache)

variable {cache later : Cache} {directives : DirectiveTable} {source : Source} {template : Template}
  {id : String} {modified : Int} {e : Error}

theorem adds_self (cache : Cache) (id : String) : cache.Adds id cache :=
  fun _ _ known => known

theorem loaded?_remember (cache : Cache) (id : String) (modified : Int) (template : Template) :
    (cache.remember id modified template).loaded? id modified = some template := by
  rw [loaded?, remember, Entries.lookup_put, if_pos (Eq.refl id)]
  exact if_pos (Eq.refl modified)

theorem adds_remember (cache : Cache) (id : String) (modified : Int) (template : Template) :
    cache.Adds id (cache.remember id modified template) := by
  intro other different known
  rw [remember, Entries.has, Entries.lookup_put, if_neg different] at known
  exact known

theorem has_forget {other : String} (known : Entries.has other (cache.forget id).loaded = true) :
    other ≠ id ∧ Entries.has other cache.loaded = true := by
  rw [forget, Entries.has, Entries.lookup_remove] at known
  split at known
  · cases known
  · next different => exact ⟨different, known⟩

theorem holds_of_loaded? (dated : cache.files.modified? (cache.artifactPath id) = some modified)
    (warm : cache.loaded? id modified = some template) : cache.Holds id template := by
  intro time there
  rw [dated] at there
  cases there
  exact warm

theorem holds_remember (dated : cache.files.modified? (cache.artifactPath id) = some modified)
    (template : Template) : (cache.remember id modified template).Holds id template :=
  holds_of_loaded? dated (cache.loaded?_remember id modified template)

/-! ## Looking for a fresh artifact -/

theorem readable_eq_false (dated : cache.files.modified? (cache.artifactPath id) = some modified)
    (failed : cache.load id = .error e) : cache.readable id = false := by
  unfold load at failed
  rw [readable, dated]
  simp only at failed
  split at failed
  · cases failed
  · cases failed
  · next fault _ unread =>
    rw [unread]
    rfl

theorem Discards.readable (discards : cache.Discards source) :
    cache.readable source.identifier = true := by
  obtain ⟨-, _, artifact, _, -, -, loaded, -⟩ := discards
  rw [Cache.readable, load_eq_some loaded]
  exact Bool.or_true _

theorem looked (cache : Cache) (source : Source) : Looked cache source (cache.freshTemplate source) := by
  unfold freshTemplate
  split
  · next fresh =>
    unfold loadTemplate
    split
    · next undated =>
      refine .stale ?_
      rintro ⟨-, _, _, _, dated, -⟩
      cases undated.symm.trans dated
    · next modified dated =>
      split
      · next template warm => exact .warm (holds_of_loaded? dated warm)
      · next cold =>
        split
        · next e failed => exact .unreadable (readable_eq_false dated failed)
        · next absent => exact absurd absent (load_ne_none (by rw [dated]; nofun))
        · next artifact loaded =>
          split
          · exact .read dated
          · next e refused =>
            exact .discarded ⟨fresh, modified, artifact, e, dated, cold, loaded, refused⟩
  · next unfresh => exact .stale fun discards => unfresh discards.1

/-! ## Making a template -/

theorem store_congr (files : later.files = cache.files) (directory : later.directory = cache.directory)
    (artifact : String) : (later.store source artifact).1 = (cache.store source artifact).1 := by
  unfold store artifactPath
  rw [files, directory]
  split
  · rfl
  · simp only
    split
    · rfl
    · rfl

theorem Refuses.congr (refuses : later.Refuses directives source e) (files : later.files = cache.files)
    (directory : later.directory = cache.directory) : cache.Refuses directives source e := by
  rcases refuses with failed | ⟨template, compiled, failed⟩
  · exact .inl failed
  · exact .inr ⟨template, compiled, (store_congr files directory _).symm.trans failed⟩

theorem store_cases (cache : Cache) (source : Source) (artifact : String) : ∃ edits,
    (∃ e, cache.store source artifact = (.error e, { cache with files := cache.files.edits edits })) ∨
      ∃ entry, cache.store source artifact = (.ok entry, { cache with
        files := cache.files.edits edits
        tally := { cache.tally with stores := cache.tally.stores + 1 } }) := by
  unfold store
  split
  · exact ⟨[], .inl ⟨_, rfl⟩⟩
  · next files made =>
    have first : cache.files.edited (.makeDirectories cache.directory) = files := edited_of_attempt made
    let path := cache.artifactPath source.identifier
    simp only
    split
    · next fault _ =>
      refine ⟨[.makeDirectories cache.directory], .inl ⟨.unreadable path fault, ?_⟩⟩
      rw [edits, List.foldl_cons, first]
      rfl
    · next later wrote =>
      have second : files.edited (.write path artifact.toUTF8) = later := edited_of_attempt wrote
      let stored : Cache :=
        ⟨later, cache.directory, cache.loaded, { cache.tally with stores := cache.tally.stores + 1 }⟩
      refine ⟨[.makeDirectories cache.directory, .write path artifact.toUTF8],
        .inr ⟨stored.entryOf source, ?_⟩⟩
      rw [edits, List.foldl_cons, List.foldl_cons, first, second]
      rfl

theorem rememberStored_cases (cache : Cache) (id : String) (template : Template) :
    (cache.rememberStored id template).Holds id template ∧
      cache.Adds id (cache.rememberStored id template) := by
  unfold rememberStored
  split
  · next modified dated =>
    exact ⟨holds_remember dated template, cache.adds_remember id modified template⟩
  · next undated =>
    refine ⟨fun modified dated => ?_, cache.adds_self id⟩
    cases undated.symm.trans dated

theorem made (cache : Cache) (directives : DirectiveTable) (source : Source) :
    Made cache directives source (cache.make directives source) := by
  unfold make
  split
  · next e failed => exact .refused [] (.inl failed)
  · next template compiled =>
    obtain ⟨edits, ⟨e, failed⟩ | ⟨entry, stored⟩⟩ := cache.store_cases source template.artifact
    · rw [failed]
      exact .refused edits (.inr ⟨template, compiled, by rw [failed]⟩)
    · rw [stored]
      obtain ⟨holds, adds⟩ := rememberStored_cases { cache with
        files := cache.files.edits edits
        tally := { cache.tally with stores := cache.tally.stores + 1 } } source.identifier template
      exact .stored ⟨edits, rememberStored_files _⟩ (rememberStored_tally _) holds adds

/-! ## Calls -/

theorem called (cache : Cache) (directives : DirectiveTable) (source : Source) :
    Called cache directives source (cache.getOrCompile directives source) := by
  unfold getOrCompile
  have looked := cache.looked source
  generalize cache.freshTemplate source = found at looked
  cases looked with
  | warm holds => exact .hit rfl rfl holds (cache.adds_self _)
  | read dated => exact .hit rfl rfl (holds_remember dated _) (cache.adds_remember _ _ _)
  | stale kept =>
    have made := cache.countMiss.made directives source
    simp only
    generalize cache.countMiss.make directives source = outcome at made
    cases made with
    | stored files tally holds adds => exact .stored files tally holds adds
    | refused edits refuses =>
      exact .refused ⟨edits, rfl⟩ rfl (refuses.congr rfl rfl) fun id known => ⟨known, fun _ => kept⟩
  | discarded discards =>
    -- The call may drop a template and then put the one that it makes in its place.
    have made := (cache.forget source.identifier).countMiss.made directives source
    simp only
    generalize (cache.forget source.identifier).countMiss.make directives source = outcome at made
    cases made with
    | stored files tally holds adds =>
      refine .stored files tally holds fun other different known => ?_
      exact (has_forget (adds other different known)).2
    | refused edits refuses =>
      refine .refused ⟨edits, rfl⟩ rfl (refuses.congr rfl rfl) fun id known => ?_
      obtain ⟨different, held⟩ := has_forget known
      exact ⟨held, fun same => absurd same different⟩
  | unreadable unread => exact .unreadable unread

theorem refuses_of_error (readable : cache.readable source.identifier = true)
    (failed : (cache.getOrCompile directives source).1 = .error e) : cache.Refuses directives source e := by
  have called := cache.called directives source
  generalize cache.getOrCompile directives source = outcome at called failed
  cases called with
  | hit => cases failed
  | stored => cases failed
  | refused _ _ refuses =>
    cases failed
    exact refuses
  | unreadable unread => cases readable.symm.trans unread

theorem getOrCompile_again {again : Source} {others : DirectiveTable}
    (got : cache.getOrCompile directives source = (.ok template, later))
    (same : again.identifier = source.identifier) (fresh : later.isFresh again = true) :
    later.getOrCompile others again = (.ok template, later.countHit) := by
  have holds : later.Holds source.identifier template := by
    have called := cache.called directives source
    rw [got] at called
    cases called with
    | hit _ _ holds _ => exact holds
    | stored _ _ holds _ => exact holds
  obtain ⟨modified, dated⟩ : ∃ modified,
      later.files.modified? (later.artifactPath source.identifier) = some modified := by
    unfold isFresh at fresh
    split at fresh
    · next ofSource ofArtifact _ dated => exact ⟨ofArtifact, same ▸ dated⟩
    · cases fresh
  unfold getOrCompile freshTemplate loadTemplate
  rw [if_pos fresh, same, dated]
  simp only [holds modified dated]

end Cache

end Stencil
