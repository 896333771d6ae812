import Stencil.Proofs.Store.Soundness

/-!
# Getting templates

A sound cache gives the template of a fresh artifact, or else the template of the text that it is asked for
(`getOrCompile`), unless the files fail. It is sound afterwards, if an artifact that is made now is made as
it should be.
-/

namespace Stencil
open Files

theorem fromUTF8?_toUTF8 (s : String) : String.fromUTF8? s.toUTF8 = some s := by
  rw [String.fromUTF8?, String.toUTF8_eq_toByteArray, dif_pos s.isValidUTF8]
  rfl

theorem Template.artifact_of_compile {directives : DirectiveTable} {text : String}
    {template : Template} (h : compile directives text = .ok template) :
    template.artifact = directives.artifact text := by
  unfold compile ofArtifact at h
  cases lowered : Program.parse (directives.artifact text).toList with
  | error e =>
    rw [lowered] at h
    cases h
  | ok program =>
    rw [lowered] at h
    cases h
    rfl

def Source.ofPath (path text : String) : Source :=
  ⟨path, text, some path⟩

theorem Cache.times_of_isFresh {cache : Cache} {path text : String}
    (h : cache.isFresh (.ofPath path text) = true) :
    ∃ ofSource ofArtifact, cache.files.modified? path = some ofSource ∧
      cache.files.modified? (cache.artifactPath path) = some ofArtifact ∧ ofSource ≤ ofArtifact := by
  unfold isFresh at h
  split at h
  · next ofSource ofArtifact source artifact =>
    exact ⟨ofSource, ofArtifact, source, artifact, of_decide_eq_true h⟩
  · cases h

def DirectiveTable.artifactFile (directives : DirectiveTable) (text : String) (time : Int) : FileEntry :=
  .file (directives.artifact text).toUTF8 time

/-- An artifact of the text that is made now is made as it should be for the file at the path. -/
def Setting.Fits (s : Setting) (files : Files) (directives : DirectiveTable) (path text : String) :
    Prop :=
  ∀ source modified template, files.find? (placeOf s.working path) = some (.file source modified) →
    Template.compile directives text = .ok template →
    s.made path (.file source modified) (directives.artifactFile text files.clock)

namespace Sound

variable {s : Setting} {cache : Cache} {directives : DirectiveTable} {path text : String}

theorem made_of_isFresh {now : String} {content : ByteArray} {time : Int} (sound : Sound s cache)
    (known : s.used path) (read : cache.files.read path = .ok now)
    (fresh : cache.isFresh (.ofPath path text) = true)
    (there : cache.files.find? (s.artifactPlace path) = some (.file content time)) :
    ∃ source modified, cache.files.find? (placeOf s.working path) = some (.file source modified) ∧
      String.fromUTF8? source = some now ∧ s.made path (.file source modified) (.file content time) := by
  obtain ⟨ofSource, ofArtifact, source, artifact, le⟩ := Cache.times_of_isFresh fresh
  obtain ⟨e, present, rfl⟩ := modified?_eq_some source
  obtain ⟨e', there', rfl⟩ := modified?_eq_some artifact
  obtain ⟨bytes, modified, same, decoded⟩ := read_eq_ok read
  rw [sound.placeOf_artifactPath, there] at there'
  rw [sound.working] at present same
  rw [same] at present
  cases there'
  cases present
  exact ⟨bytes, modified, same, decoded, sound.fresh known there same le⟩

/-! ## Storing -/

theorem written {template : Template} (sound : Sound s cache) (known : s.used path)
    (fits : s.Fits cache.files directives path text)
    (compiled : Template.compile directives text = .ok template) :
    Sound s { cache with
      files := cache.files.written (s.artifactPlace path) (directives.artifact text).toUTF8 } := by
  have next : cache.files.clock < cache.files.clock + 1 := Int.lt_succ _
  refine ⟨sound.working, sound.directory, ?_, ?_, ?_⟩
  · intro other content time knownOther found
    rw [find?_written] at found
    split at found
    · cases found
      exact next
    · exact Int.lt_trans (sound.older knownOther found) next
  · intro other content time source modified knownOther artifact found le
    rw [find?_written] at artifact found
    -- The source is outside the directory of the artifacts, so it is not what was written.
    rw [if_neg (s.placeOf_ne_artifactPlace knownOther path)] at found
    split at artifact
    · next same =>
      obtain rfl := s.artifactPlace_inj knownOther known same
      cases artifact
      exact fits _ _ _ found compiled
    · exact sound.fresh knownOther artifact found le
  · intro other found knownOther loaded
    obtain ⟨before, good⟩ := sound.good knownOther loaded
    refine ⟨Int.lt_trans before next, fun e there same => ?_⟩
    rw [find?_written] at there
    split at there
    · cases there
      -- The template in memory is older than the new artifact file.
      exact absurd (same ▸ before) (Int.lt_irrefl _)
    · exact good e there same

end Sound

structure Storing (s : Setting) (directives : DirectiveTable) (path text : String)
    (outcome : Cached CacheEntry) : Prop where
  sound : Sound s outcome.2
  fault : ∀ {e}, outcome.1 = .error e → e.IsUnreadable
  stored : ∀ {entry}, outcome.1 = .ok entry →
    ∃ time, outcome.2.files.find? (s.artifactPlace path) = some (directives.artifactFile text time)

structure Making (s : Setting) (directives : DirectiveTable) (text : String)
    (outcome : Cached Template) : Prop where
  sound : Sound s outcome.2
  result : outcome.1 = Template.compile directives text ∨ ∃ e, outcome.1 = .error e ∧ e.IsUnreadable

def Setting.Serves (s : Setting) (cache : Cache) (path text : String) (template : Template) : Prop :=
  cache.isFresh (.ofPath path text) = true ∧ s.Stored cache.files path template

/-- The cache after getting the template of a text: sound, with a template of a fresh artifact if there is
one, and else with that of the text, unless the files failed. -/
structure Getting (s : Setting) (cache : Cache) (directives : DirectiveTable) (path text : String)
    (outcome : Cached Template) : Prop where
  sound : Sound s outcome.2
  result : (∃ e, outcome.1 = .error e ∧ e.IsUnreadable) ∨
    (∃ template, s.Serves cache path text template ∧ outcome.1 = .ok template) ∨
    (∀ template, ¬s.Serves cache path text template) ∧ outcome.1 = Template.compile directives text

theorem Setting.Serves.unique {s : Setting} {cache : Cache} {path text : String}
    {template other : Template} (one : s.Serves cache path text template)
    (two : s.Serves cache path text other) : template = other := by
  obtain ⟨-, content, time, artifact, there, decoded, lowered⟩ := one
  obtain ⟨-, content', time', artifact', there', decoded', lowered'⟩ := two
  cases there.symm.trans there'
  cases decoded.symm.trans decoded'
  exact Except.ok.inj (lowered.symm.trans lowered')

theorem Getting.of_serves {s : Setting} {cache : Cache} {directives : DirectiveTable}
    {path text : String} {template : Template} {outcome : Cached Template}
    (getting : Getting s cache directives path text outcome)
    (served : s.Serves cache path text template) :
    (∃ e, outcome.1 = .error e ∧ e.IsUnreadable) ∨ outcome.1 = .ok template := by
  rcases getting.result with failed | ⟨other, again, got⟩ | ⟨none, -⟩
  · exact .inl failed
  · exact .inr (served.unique again ▸ got)
  · exact absurd served (none template)

theorem Setting.Fits.later {s : Setting} {files later : Files} {directives : DirectiveTable}
    {path text name : String} (fits : s.Fits files directives path text)
    (made : files.makeDirectories name = .ok later) : s.Fits later directives path text := by
  intro source modified template found compiled
  unfold makeDirectories at made
  obtain ⟨_, _, made⟩ := bind_eq_ok.1 made
  rw [(makeParts_clock made).1]
  rcases makeParts_find? made (placeOf s.working path) with same | ⟨-, new⟩
  · exact fits _ _ _ (same ▸ found) compiled
  · rw [new] at found
    cases found

namespace Sound

variable {s : Setting} {cache : Cache} {directives : DirectiveTable} {path text : String}
  {template : Template}

theorem store (sound : Sound s cache) (known : s.used path)
    (fits : s.Fits cache.files directives path text)
    (compiled : Template.compile directives text = .ok template) :
    Storing s directives path text
      (cache.store (.ofPath path text) (directives.artifact text)) := by
  unfold Cache.store
  split
  · refine ⟨sound, ?_, nofun⟩
    rintro _ ⟨⟩
    exact ⟨_, _, rfl⟩
  · next files made =>
    have directory : Sound s { cache with files := files } :=
      sound.later (later_makeDirectories made)
    simp only
    split
    · refine ⟨directory, ?_, nofun⟩
      rintro _ ⟨⟩
      exact ⟨_, _, rfl⟩
    · next later wrote =>
      have place := directory.placeOf_artifactPath path
      have new : later = files.written (s.artifactPlace path) (directives.artifact text).toUTF8 :=
        place ▸ write_eq_ok wrote
      subst new
      have stored := directory.written known (fits.later made) compiled
      refine ⟨stored.counted _, nofun, fun _ => ⟨files.clock, ?_⟩⟩
      exact (find?_written ..).trans (if_pos rfl)

theorem rememberStored {time : Int} (sound : Sound s cache) (known : s.used path)
    (compiled : Template.compile directives text = .ok template)
    (stored : cache.files.find? (s.artifactPlace path) = some (directives.artifactFile text time)) :
    Sound s (cache.rememberStored path template) := by
  unfold Cache.rememberStored
  split
  · next modified dated =>
    obtain ⟨e, present, rfl⟩ := modified?_eq_some dated
    rw [sound.placeOf_artifactPath, stored] at present
    cases present
    refine sound.remember ⟨sound.older known stored, fun e there _ => ?_⟩
    rw [stored] at there
    cases there
    exact ⟨_, _, rfl, fromUTF8?_toUTF8 _, compiled⟩
  · exact sound

theorem make (sound : Sound s cache) (known : s.used path)
    (fits : s.Fits cache.files directives path text) :
    Making s directives text (cache.make directives (.ofPath path text)) := by
  unfold Cache.make
  split
  · next e refused => exact ⟨sound, .inl refused.symm⟩
  · next template compiled =>
    have storing : Storing s directives path text
        (cache.store (.ofPath path text) template.artifact) := by
      rw [Template.artifact_of_compile compiled]
      exact sound.store known fits compiled
    split
    · next e later failed =>
      rw [failed] at storing
      exact ⟨storing.sound, .inr ⟨e, rfl, storing.fault rfl⟩⟩
    · next entry later done =>
      rw [done] at storing
      obtain ⟨time, there⟩ := storing.stored rfl
      exact ⟨storing.sound.rememberStored known compiled there, .inl compiled.symm⟩

theorem getting_of_making {outcome : Cached Template} (making : Making s directives text outcome)
    (unserved : ∀ template, ¬s.Serves cache path text template) :
    Getting s cache directives path text outcome := by
  refine ⟨making.sound, ?_⟩
  rcases making.result with compiled | failed
  · exact .inr (.inr ⟨unserved, compiled⟩)
  · exact .inl failed

theorem getOrCompile (sound : Sound s cache) (known : s.used path)
    (fits : s.Fits cache.files directives path text) :
    Getting s cache directives path text (cache.getOrCompile directives (.ofPath path text)) := by
  unfold Cache.getOrCompile Cache.freshTemplate
  by_cases fresh : cache.isFresh (.ofPath path text) = true
  · have finding : Finding s cache path
        (cache.loadTemplate (Source.ofPath path text).identifier) := sound.loadTemplate known
    rw [if_pos fresh]
    split
    · next e later failed =>
      rw [failed] at finding
      exact ⟨finding.sound, .inl ⟨e, rfl, finding.fault rfl⟩⟩
    · next template later hit =>
      rw [hit] at finding
      exact ⟨finding.sound.counted _, .inr (.inl ⟨template, ⟨fresh, finding.found rfl⟩, rfl⟩)⟩
    · next later missed =>
      rw [missed] at finding
      have same : s.Fits later.countMiss.files directives path text := by
        have files : later.countMiss.files = cache.files := finding.files
        rw [files]
        exact fits
      refine getting_of_making ((finding.sound.counted _).make known same) fun template served => ?_
      obtain ⟨_, _, -, dated, -⟩ := Cache.times_of_isFresh fresh
      exact finding.missed rfl (by rw [dated]; nofun) template served.2
  · rw [if_neg fresh]
    exact getting_of_making ((sound.counted _).make known fits) fun _ served => fresh served.1

end Sound

end Stencil
