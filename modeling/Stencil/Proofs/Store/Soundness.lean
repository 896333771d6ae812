import Stencil.Proofs.Store.Changes
import Stencil.Store.Cache

/-!
# Sound caches

A cache is sound if every fresh artifact is made as it should be for the present file of its source, and
every template in memory that is still good is that of its artifact (`Sound`). All that is done with files
outside the directory of the artifacts keeps a cache sound, and so does every operation of the cache.
-/

namespace Stencil
open Files

/-! ## Names of artifacts -/

theorem Digest.slash_not_mem_hex (id : String) : '/' ∉ (Digest.hex id).toList := by
  have digit : ∀ n < 16, Nat.digitChar n ≠ '/' := by decide
  unfold hex
  rw [String.toList_ofList]
  intro mem
  obtain ⟨byte, -, mem⟩ := List.mem_flatMap.1 mem
  have small := byte.toNat_lt
  rcases List.mem_cons.1 mem with same | mem
  · exact digit (byte.toNat / 16) (by omega) same.symm
  · exact digit (byte.toNat % 16) (by omega) (List.mem_singleton.1 mem).symm

namespace Cache

def artifactName (id : String) : String :=
  Digest.hex id ++ "." ++ extension

theorem toList_artifactName (id : String) :
    (artifactName id).toList = (Digest.hex id).toList ++ ['.', 't', 'p', 'l', 'c'] := by
  rw [artifactName, String.toList_append, String.toList_append, List.append_assoc]
  rfl

theorem names_artifactName (id : String) : Names (artifactName id) := by
  have long : ∀ {s : String}, s.toList.length < 5 → artifactName id ≠ s := by
    rintro s short rfl
    rw [toList_artifactName, List.length_append] at short
    exact absurd short (by simp)
  refine ⟨?_, long (by decide), long (by decide), long (by decide)⟩
  rw [toList_artifactName, List.mem_append, not_or]
  exact ⟨Digest.slash_not_mem_hex id, by decide⟩

theorem artifactName_inj {a b : String} (h : artifactName a = artifactName b) :
    Digest.hex a = Digest.hex b := by
  have same := congrArg String.toList h
  rw [toList_artifactName, toList_artifactName] at same
  exact String.toList_inj.1 (List.append_cancel_right same)

theorem placeOf_artifactPathIn (working : Place) (directory id : String) :
    placeOf working (artifactPathIn directory id) = artifactName id :: placeOf working directory :=
  placeOf_join working directory (names_artifactName id)

end Cache

/-- What does not change: the directory of the artifacts, the paths that are rendered, and which artifacts
are made as they should be, beside the file of the source at a path. The paths are outside the directory,
and their digests differ. -/
structure Setting where
  working : Place
  directory : String
  used : String → Prop
  made : String → FileEntry → FileEntry → Prop
  outside : ∀ {path}, used path → ¬placeOf working directory <:+ placeOf working path
  distinct : ∀ {a b}, used a → used b → Digest.hex a = Digest.hex b → a = b

namespace Setting

variable (s : Setting)

def artifactPlace (path : String) : Place :=
  Cache.artifactName path :: placeOf s.working s.directory

theorem artifactPlace_inj {a b : String} (known : s.used a) (other : s.used b)
    (same : s.artifactPlace a = s.artifactPlace b) : a = b :=
  s.distinct known other (Cache.artifactName_inj (List.cons.inj same).1)

theorem placeOf_ne_artifactPlace {path : String} (known : s.used path) (id : String) :
    placeOf s.working path ≠ s.artifactPlace id := by
  intro same
  exact s.outside known (same ▸ List.suffix_cons _ _)

end Setting

/-- The template in memory is older than now, and as long as its artifact file has its time, it is that
of the artifact. -/
def Setting.Good (s : Setting) (files : Files) (path : String) (found : Loaded) : Prop :=
  found.modified < files.clock ∧
    ∀ e, files.find? (s.artifactPlace path) = some e → e.modified = found.modified →
      ∃ content text, e = .file content found.modified ∧ String.fromUTF8? content = some text ∧
        Template.ofArtifact text = .ok found.template

/-- A fresh artifact is made as it should be for the present file of its source, and a template in memory
that is still good is that of its artifact. -/
structure Sound (s : Setting) (cache : Cache) : Prop where
  working : cache.files.working = s.working
  directory : cache.directory = s.directory
  older : ∀ {path content time}, s.used path →
    cache.files.find? (s.artifactPlace path) = some (.file content time) → time < cache.files.clock
  fresh : ∀ {path content time source modified}, s.used path →
    cache.files.find? (s.artifactPlace path) = some (.file content time) →
    cache.files.find? (placeOf s.working path) = some (.file source modified) → modified ≤ time →
    s.made path (.file source modified) (.file content time)
  good : ∀ {path found}, s.used path → cache.loaded.lookup path = some found →
    s.Good cache.files path found

namespace Sound

variable {s : Setting} {cache : Cache} {files : Files} {path : String}

theorem later (sound : Sound s cache) (h : Later (placeOf s.working s.directory) cache.files files) :
    Sound s { cache with files := files } := by
  -- An artifact file that is there is an old one. A source that is new is newer than every artifact.
  have kept : ∀ {path content time}, files.find? (s.artifactPlace path) = some (.file content time) →
      cache.files.find? (s.artifactPlace path) = some (.file content time) := by
    intro path content time found
    rcases h.entry found with old | ⟨-, new⟩
    · exact old
    · obtain ⟨_, other⟩ := new _ rfl
      cases other
  refine ⟨h.working.trans sound.working, sound.directory, ?_, ?_, ?_⟩
  · intro path content time known found
    exact Int.lt_of_lt_of_le (sound.older known (kept found)) h.clock
  · intro path content time source modified known artifact found le
    have before := sound.older known (kept artifact)
    rcases h.entry found with old | ⟨new, -⟩
    · exact sound.fresh known (kept artifact) old le
    · exact absurd (Int.lt_of_le_of_lt le before) (Int.not_lt.2 new)
  · intro path found known loaded
    obtain ⟨before, good⟩ := sound.good known loaded
    refine ⟨Int.lt_of_lt_of_le before h.clock, fun e present same => ?_⟩
    rcases h.entry present with old | ⟨new, -⟩
    · exact good e old same
    · exact absurd (same ▸ before) (Int.not_lt.2 new)

theorem refine {made : String → FileEntry → FileEntry → Prop} (sound : Sound s cache)
    (h : ∀ {path content time source}, s.used path →
      cache.files.find? (s.artifactPlace path) = some (.file content time) →
      s.made path source (.file content time) → made path source (.file content time)) :
    Sound { s with made := made } cache := by
  refine ⟨sound.working, sound.directory, sound.older, ?_, sound.good⟩
  intro path content time source modified known artifact found le
  exact h known artifact (sound.fresh known artifact found le)

theorem counted (sound : Sound s cache) (tally : Tally) : Sound s { cache with tally := tally } :=
  ⟨sound.working, sound.directory, sound.older, sound.fresh, sound.good⟩

theorem forget (sound : Sound s cache) (id : String) : Sound s (cache.forget id) := by
  refine ⟨sound.working, sound.directory, sound.older, sound.fresh, fun {path found} known loaded => ?_⟩
  rw [Cache.forget, Entries.lookup_remove] at loaded
  split at loaded
  · cases loaded
  · exact sound.good known loaded

theorem remember {modified : Int} {template : Template} (sound : Sound s cache)
    (good : s.Good cache.files path ⟨modified, template⟩) :
    Sound s (cache.remember path modified template) := by
  refine ⟨sound.working, sound.directory, sound.older, sound.fresh, fun {other found} known loaded => ?_⟩
  rw [Cache.remember, Entries.lookup_put] at loaded
  split at loaded
  · next same =>
    cases loaded
    exact same ▸ good
  · exact sound.good known loaded

/-! ## Removing -/

theorem removeFile (sound : Sound s cache) (path : String) : Sound s (cache.removeFile path).2 := by
  unfold Cache.removeFile
  split
  · next files removed =>
    rw [removeFile_eq_ok removed]
    exact sound.later (later_remove _ _)
  · exact sound
  · exact sound

theorem removeFiles (sound : Sound s cache) (paths : List String) :
    Sound s (cache.removeFiles paths).2 := by
  induction paths generalizing cache with
  | nil => exact sound
  | cons path paths ih =>
    have first := sound.removeFile path
    rw [Cache.removeFiles]
    split
    · next removed =>
      rw [removed] at first
      exact ih first
    · exact first

theorem invalidate (sound : Sound s cache) (id : String) : Sound s (cache.invalidate id).2 :=
  (sound.forget id).removeFile _

theorem clear (sound : Sound s cache) : Sound s cache.clear.2 := by
  have dropped : Sound s { cache with loaded := [] } :=
    ⟨sound.working, sound.directory, sound.older, sound.fresh, nofun⟩
  unfold Cache.clear
  simp only
  split
  · exact dropped
  · exact dropped
  · exact dropped.removeFiles _

/-! ## Loading -/

theorem placeOf_artifactPath (sound : Sound s cache) (path : String) :
    placeOf cache.files.working (cache.artifactPath path) = s.artifactPlace path := by
  rw [Cache.artifactPath, Cache.placeOf_artifactPathIn, sound.working, sound.directory]
  rfl

end Sound

def Error.IsUnreadable (e : Error) : Prop :=
  ∃ path cause, e = .unreadable path cause

theorem Cache.loaded?_eq_some {cache : Cache} {path : String} {modified : Int} {template : Template}
    (h : cache.loaded? path modified = some template) :
    cache.loaded.lookup path = some ⟨modified, template⟩ := by
  unfold Cache.loaded? at h
  split at h
  · next found loaded =>
    split at h
    · next still =>
      subst still
      cases h
      exact loaded
    · cases h
  · cases h

theorem Cache.load_eq_error {cache : Cache} {path : String} {e : Error}
    (h : cache.load path = .error e) : e.IsUnreadable := by
  unfold Cache.load at h
  simp only at h
  split at h
  · cases h
  · cases h
  · cases h
    exact ⟨_, _, rfl⟩

theorem Cache.load_eq_some {cache : Cache} {path artifact : String}
    (h : cache.load path = .ok (some artifact)) :
    cache.files.read (cache.artifactPath path) = .ok artifact := by
  unfold Cache.load at h
  simp only at h
  split at h
  · next text read =>
    cases h
    exact read
  · cases h
  · cases h

def Setting.Stored (s : Setting) (files : Files) (path : String) (template : Template) : Prop :=
  ∃ content time text, files.find? (s.artifactPlace path) = some (.file content time) ∧
    String.fromUTF8? content = some text ∧ Template.ofArtifact text = .ok template

/-- The cache after looking for the template of an artifact: sound, with the same files. If there is an
artifact file and nothing was found, no template comes from that file. -/
structure Finding (s : Setting) (cache : Cache) (path : String)
    (outcome : Cached (Option Template)) : Prop where
  sound : Sound s outcome.2
  files : outcome.2.files = cache.files
  fault : ∀ {e}, outcome.1 = .error e → e.IsUnreadable
  found : ∀ {template}, outcome.1 = .ok (some template) → s.Stored cache.files path template
  missed : outcome.1 = .ok none → cache.files.modified? (cache.artifactPath path) ≠ none →
    ∀ template, ¬s.Stored cache.files path template

theorem Files.read_ne_notFound {files : Files} {path : String} (dated : files.modified? path ≠ none) :
    files.read path ≠ .error .notFound := by
  intro absent
  unfold modified? at dated
  unfold read at absent
  cases found : files.entry path with
  | error fault =>
    rw [found] at dated
    exact dated rfl
  | ok e =>
    rw [found, ok_bind] at absent
    split at absent
    · cases absent
    · split at absent <;> cases absent

theorem Cache.load_ne_none {cache : Cache} {path : String}
    (dated : cache.files.modified? (cache.artifactPath path) ≠ none) : cache.load path ≠ .ok none := by
  intro absent
  unfold load at absent
  simp only at absent
  split at absent
  · cases absent
  · next missing => exact read_ne_notFound dated missing
  · cases absent

namespace Sound

variable {s : Setting} {cache : Cache} {path : String}

theorem loadTemplate (sound : Sound s cache) (known : s.used path) :
    Finding s cache path (cache.loadTemplate path) := by
  have place := sound.placeOf_artifactPath path
  unfold Cache.loadTemplate
  split
  · next undated => exact ⟨sound, rfl, nofun, nofun, fun _ dated => absurd undated dated⟩
  · next modified dated =>
    obtain ⟨e, present, same⟩ := modified?_eq_some dated
    rw [place] at present
    split
    · next template warm =>
      refine ⟨sound, rfl, nofun, ?_, nofun⟩
      rintro _ ⟨⟩
      have loaded := Cache.loaded?_eq_some warm
      obtain ⟨content, text, rfl, decoded, lowered⟩ := (sound.good known loaded).2 e present same
      exact ⟨content, modified, text, present, decoded, lowered⟩
    · split
      · next fault failed =>
        refine ⟨sound, rfl, ?_, nofun, nofun⟩
        rintro _ ⟨⟩
        exact Cache.load_eq_error failed
      · next absent => exact ⟨sound, rfl, nofun, nofun, fun _ dated => absurd absent (Cache.load_ne_none dated)⟩
      · next artifact loaded =>
        obtain ⟨content, time, there, decoded⟩ := read_eq_ok (Cache.load_eq_some loaded)
        rw [place] at there
        obtain rfl : e = .file content time := Option.some.inj (present.symm.trans there)
        obtain rfl : time = modified := same
        split
        · next template lowered =>
          refine ⟨sound.remember ⟨sound.older known there, ?_⟩, rfl, nofun, ?_, nofun⟩
          · intro e' present' _
            rw [there] at present'
            cases present'
            exact ⟨content, artifact, rfl, decoded, lowered⟩
          · rintro _ ⟨⟩
            exact ⟨content, time, artifact, there, decoded, lowered⟩
        · next refused =>
          refine ⟨sound.forget path, rfl, nofun, nofun, ?_⟩
          rintro - - template ⟨content', time', text, there', decoded', lowered⟩
          rw [there] at there'
          cases there'
          rw [decoded] at decoded'
          cases decoded'
          exact absurd lowered (by rw [refused]; nofun)

end Sound

end Stencil
