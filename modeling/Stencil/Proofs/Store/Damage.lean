import Mathlib
import Stencil.Directive.Builtin
import Stencil.Proofs.Store.Making

/-!
# Damaged artifacts

What a fresh artifact file gives, whatever its bytes are (`getOrCompile_of_damaged`). A text without a
program is replaced. Bytes that are no text are an error, and they stay.
-/

namespace Stencil

namespace Files

variable {files : Files} {start place : Place} {directory name path : String}
  {content : ByteArray} {time : Int}

/-! ## Directories that are there -/

theorem checkPath_of_append {s t : String} (h : checkPath (s ++ t) = .ok ()) :
    checkPath s = .ok () := by
  unfold checkPath at h ⊢
  split at h
  · cases h
  · next clean =>
    split at h
    · cases h
    · next short =>
      rw [String.toList_append, List.contains_append, Bool.or_eq_true, not_or] at clean
      rw [String.utf8ByteSize_append] at short
      rw [if_neg clean.1, if_neg (by omega)]

theorem exists_join (directory : String) (named : Names name) :
    ∃ tail, join directory name = directory ++ tail := by
  have relative : ¬isRooted name = true := by simp [named.not_isRooted]
  rw [join, if_neg relative]
  split
  · exact ⟨name, rfl⟩
  · exact ⟨"/" ++ name, String.append_assoc⟩

theorem isDirectory_of_walk {part : String} {rest : List String}
    (walked : files.walk start (part :: rest) = .ok place) : files.isDirectory start = true := by
  rw [walk] at walked
  split at walked
  · assumption
  · split at walked <;> cases walked

theorem makeParts_of_walk {ps tail : List String}
    (nothing : ∀ place, files.makeParts place tail = .ok files)
    (walked : files.walk start (ps ++ [name]) = .ok place) :
    files.makeParts start (ps ++ tail) = .ok files := by
  induction ps generalizing start with
  | nil => exact nothing start
  | cons part ps ih =>
    have here := isDirectory_of_walk walked
    obtain ⟨next, rest, more⟩ : ∃ next rest, ps ++ [name] = next :: rest :=
      List.exists_cons_of_ne_nil (by simp)
    rw [List.cons_append, walk, if_pos here] at walked
    rw [List.cons_append, makeParts]
    split at walked
    · next blank =>
      rw [if_pos blank]
      exact ih walked
    · next solid =>
      rw [if_neg solid]
      split at walked
      · next up =>
        rw [if_pos up]
        exact ih walked
      · next down =>
        rw [if_neg down]
        split at walked
        · cases walked
        · next short =>
          rw [more, if_neg (by simp), ← more] at walked
          have further : files.isDirectory (part :: start) = true := by
            rw [more] at walked
            exact isDirectory_of_walk walked
          rw [if_neg short, if_pos further]
          exact ih walked

theorem makeDirectories_of_locate (named : Names name)
    (located : files.locate (join directory name) = .ok place) :
    files.makeDirectories directory = .ok files := by
  unfold locate at located
  obtain ⟨_, checked, walked⟩ := bind_eq_ok.1 located
  obtain ⟨tail, whole⟩ := exists_join directory named
  rw [whole] at checked
  unfold makeDirectories
  rw [checkPath_of_append checked, ok_bind]
  split at walked
  · cases walked
  · obtain ⟨ps, same, parts⟩ := parts_join directory
    rw [parts named, Files.start, isRooted_join directory named] at walked
    rcases same with same | same
    · have nothing (place : Place) : files.makeParts place [] = .ok files := rfl
      rw [same, ← List.append_nil ps]
      exact makeParts_of_walk nothing walked
    · have nothing (place : Place) : files.makeParts place [""] = .ok files := by
        simp [makeParts]
      rw [same]
      exact makeParts_of_walk nothing walked

/-! ## Writing over a file -/

theorem walk_congr {later : Files} (directories : ∀ place, later.isDirectory place = files.isDirectory place)
    (present : ∀ place, (later.find? place).isSome = (files.find? place).isSome) (ps : List String) :
    later.walk start ps = files.walk start ps := by
  induction ps generalizing start with
  | nil => rfl
  | cons part ps ih =>
    rw [walk, walk, directories, present]
    simp only [ih]

theorem locate_written {old : ByteArray} (there : files.find? place = some (.file old time))
    (path : String) (content : ByteArray) :
    (files.written place content).locate path = files.locate path := by
  have directories (other : Place) :
      (files.written place content).isDirectory other = files.isDirectory other := by
    unfold isDirectory
    by_cases here : other = place
    · rw [find?_written, if_pos here, here, there]
    · rw [find?_written, if_neg here]
  have present (other : Place) :
      ((files.written place content).find? other).isSome = (files.find? other).isSome := by
    by_cases here : other = place
    · rw [find?_written, if_pos here, here, there, Option.isSome_some, Option.isSome_some]
    · rw [find?_written, if_neg here]
  unfold locate Files.start
  simp only [walk_congr directories present]
  rfl

theorem write_over {old : ByteArray} (entry : files.entry path = .ok (.file old time))
    (content : ByteArray) :
    ∃ later, files.write path content = .ok later ∧
      later.entry path = .ok (.file content files.clock) := by
  obtain ⟨place, located, there⟩ := locate_of_entry entry
  refine ⟨files.written place content, ?_, ?_⟩
  · unfold write writeAt
    rw [located, ok_bind, there]
    rfl
  · unfold Files.entry
    rw [locate_written there, located, ok_bind, find?_written, if_pos rfl]
    rfl

end Files

open Files

namespace Cache

variable {cache : Cache} {directives : DirectiveTable} {source : Source} {template : Template}
  {content : ByteArray} {time : Int}

/-- The artifact file of a source is fresh, and no template in memory was made from it. -/
structure Unloaded (cache : Cache) (source : Source) (content : ByteArray) (time : Int) : Prop where
  entry : cache.files.entry (cache.artifactPath source.identifier) = .ok (.file content time)
  fresh : cache.isFresh source = true
  unloaded : cache.loaded? source.identifier time = none

namespace Unloaded

theorem modified? (h : Unloaded cache source content time) :
    cache.files.modified? (cache.artifactPath source.identifier) = some time :=
  modified?_of_entry h.entry

theorem getOrCompile_notText (h : Unloaded cache source content time)
    (undecoded : String.fromUTF8? content = none) :
    cache.getOrCompile directives source =
      (.error (.unreadable (cache.artifactPath source.identifier) .notText), cache) := by
  have read : cache.files.read (cache.artifactPath source.identifier) = .error .notText := by
    unfold Files.read
    rw [h.entry, ok_bind]
    simp only [undecoded]
  have load : cache.load source.identifier =
      .error (.unreadable (cache.artifactPath source.identifier) .notText) := by
    unfold Cache.load
    simp only [read]
  unfold getOrCompile freshTemplate loadTemplate
  rw [if_pos h.fresh, h.modified?]
  simp only [h.unloaded, load]

theorem load {artifact : String} (h : Unloaded cache source content time)
    (decoded : String.fromUTF8? content = some artifact) :
    cache.load source.identifier = .ok (some artifact) := by
  unfold Cache.load
  simp only [read_of_entry_file h.entry decoded]

theorem getOrCompile_lowered {artifact : String} {found : Template}
    (h : Unloaded cache source content time) (decoded : String.fromUTF8? content = some artifact)
    (lowered : Template.ofArtifact artifact = .ok found) :
    cache.getOrCompile directives source =
      (.ok found, (cache.remember source.identifier time found).countHit) := by
  unfold getOrCompile freshTemplate loadTemplate
  rw [if_pos h.fresh, h.modified?]
  simp only [h.unloaded, h.load decoded, lowered]

end Unloaded

theorem store_over (artifact : String)
    (entry : cache.files.entry (cache.artifactPath source.identifier) = .ok (.file content time)) :
    ∃ known later, cache.store source artifact = (.ok known, later) ∧
      later.files.entry (cache.artifactPath source.identifier) =
        .ok (.file artifact.toUTF8 cache.files.clock) ∧
      later.tally = { cache.tally with stores := cache.tally.stores + 1 } := by
  obtain ⟨place, located, -⟩ := locate_of_entry entry
  have made : cache.files.makeDirectories cache.directory = .ok cache.files :=
    makeDirectories_of_locate (names_artifactName source.identifier) located
  obtain ⟨files, wrote, written⟩ := write_over entry artifact.toUTF8
  unfold store
  simp only [made, wrote]
  exact ⟨_, _, rfl, written, rfl⟩

theorem rememberStored_files (id : String) : (cache.rememberStored id template).files = cache.files := by
  unfold rememberStored
  split <;> rfl

theorem rememberStored_tally (id : String) : (cache.rememberStored id template).tally = cache.tally := by
  unfold rememberStored
  split <;> rfl

theorem make_over (compiled : Template.compile directives source.text = .ok template)
    (entry : cache.files.entry (cache.artifactPath source.identifier) = .ok (.file content time)) :
    ∃ later, cache.make directives source = (.ok template, later) ∧
      later.files.read (cache.artifactPath source.identifier) =
        .ok (directives.artifact source.text) ∧
      later.tally = { cache.tally with stores := cache.tally.stores + 1 } := by
  obtain ⟨known, later, stored, written, tally⟩ := store_over template.artifact entry
  refine ⟨later.rememberStored source.identifier template, ?_, ?_, ?_⟩
  · unfold make
    simp only [compiled, stored]
  · rw [rememberStored_files, read_of_entry_file written (fromUTF8?_toUTF8 _),
      Template.artifact_of_compile compiled]
  · rw [rememberStored_tally, tally]

theorem Unloaded.getOrCompile_unlowered {artifact : String} {e : Error}
    (h : Unloaded cache source content time) (decoded : String.fromUTF8? content = some artifact)
    (unlowered : Template.ofArtifact artifact = .error e) :
    cache.getOrCompile directives source =
      (cache.forget source.identifier).countMiss.make directives source := by
  unfold getOrCompile freshTemplate loadTemplate
  rw [if_pos h.fresh, h.modified?]
  simp only [h.unloaded, h.load decoded, unlowered]

end Cache

open Cache

/-- A template is got whatever text the artifact file holds: that of the text, or if the text has no
program that of the source, which replaces the file. If the file holds no text, none is got. -/
theorem getOrCompile_of_damaged {cache : Cache} {directives : DirectiveTable} {source : Source}
    {template : Template} {content : ByteArray} {time : Int}
    (compiled : Template.compile directives source.text = .ok template)
    (there : Unloaded cache source content time) :
    (∀ {artifact found}, String.fromUTF8? content = some artifact →
      Template.ofArtifact artifact = .ok found →
        cache.getOrCompile directives source =
          (.ok found, (cache.remember source.identifier time found).countHit)) ∧
      (∀ {artifact e}, String.fromUTF8? content = some artifact →
        Template.ofArtifact artifact = .error e →
          ∃ later, cache.getOrCompile directives source = (.ok template, later) ∧
            later.files.read (cache.artifactPath source.identifier) =
              .ok (directives.artifact source.text) ∧
            later.tally = ⟨cache.tally.hits, cache.tally.misses + 1, cache.tally.stores + 1⟩) ∧
      (String.fromUTF8? content = none →
        cache.getOrCompile directives source =
          (.error (.unreadable (cache.artifactPath source.identifier) .notText), cache)) := by
  refine ⟨there.getOrCompile_lowered, fun decoded unlowered => ?_, there.getOrCompile_notText⟩
  have entry : (cache.forget source.identifier).countMiss.files.entry
      (cache.artifactPath source.identifier) = .ok (.file content time) := there.entry
  obtain ⟨later, made, read, tally⟩ := make_over compiled entry
  exact ⟨later, (there.getOrCompile_unlowered decoded unlowered).trans made, read, tally⟩

def viewArtifact : Place :=
  artifactName "./views/p.tpl" :: ["cache", "work"]

def kept : Cache where
  files :=
    let entries := [(["cache", "work"], .directory 0), (["views", "work"], .directory 0),
      (["p.tpl", "views", "work"], .file "ok".toUTF8 1000), (viewArtifact, .file "ok".toUTF8 2000)]
    { Files.empty with entries := entries ++ Files.empty.entries }
  directory := "./cache"
  loaded := []
  tally := ⟨0, 0, 0⟩

def spoilt (content : ByteArray) : Cache :=
  { kept with files := kept.files.written viewArtifact content }

theorem spoilt_unloaded (content : ByteArray) :
    Unloaded (spoilt content) (.ofPath "./views/p.tpl" "ok") content Files.firstTime := by
  have present : kept.files.find? viewArtifact = some (.file "ok".toUTF8 2000) := by
    simp [kept, viewArtifact, Files.find?, List.lookup_cons]
  have artifact : kept.files.locate (kept.artifactPath "./views/p.tpl") = .ok viewArtifact := by
    rw [← toOption_eq_some]
    decide +kernel
  have source : kept.files.locate "./views/p.tpl" = .ok ["p.tpl", "views", "work"] := by
    rw [← toOption_eq_some]
    decide +kernel
  have entry : (spoilt content).files.entry (kept.artifactPath "./views/p.tpl") =
      .ok (.file content Files.firstTime) := by
    unfold Files.entry spoilt
    simp only
    rw [locate_written present, artifact, ok_bind, find?_written, if_pos rfl]
    rfl
  have view : (spoilt content).files.entry "./views/p.tpl" = .ok (.file "ok".toUTF8 1000) := by
    have other : ["p.tpl", "views", "work"] ≠ viewArtifact := by simp [viewArtifact]
    unfold Files.entry spoilt
    simp only
    rw [locate_written present, source, ok_bind, find?_written, if_neg other]
    rfl
  have ofSource : (Source.ofPath "./views/p.tpl" "ok").modified? (spoilt content).files = some 1000 :=
    modified?_of_entry view
  have ofArtifact : (spoilt content).files.modified? ((spoilt content).artifactPath
      (Source.ofPath "./views/p.tpl" "ok").identifier) = some Files.firstTime :=
    modified?_of_entry entry
  refine ⟨entry, ?_, rfl⟩
  unfold isFresh
  rw [ofSource, ofArtifact]
  rfl

theorem compile_ok :
    Template.compile .builtins "ok" = .ok ⟨"ok", ⟨[.text "ok"]⟩⟩ := by
  cbv

theorem getOrCompile_of_damaged_text :
    Template.compile .builtins "ok" = .ok ⟨"ok", ⟨[.text "ok"]⟩⟩ ∧
      Unloaded (spoilt "<?tpl endif ?>".toUTF8) (.ofPath "./views/p.tpl" "ok")
        "<?tpl endif ?>".toUTF8 Files.firstTime ∧
      ∃ later, (spoilt "<?tpl endif ?>".toUTF8).getOrCompile .builtins (.ofPath "./views/p.tpl" "ok") =
          (.ok ⟨"ok", ⟨[.text "ok"]⟩⟩, later) ∧
        later.files.read (kept.artifactPath "./views/p.tpl") = .ok "ok" ∧
        later.tally = ⟨0, 1, 1⟩ := by
  have unlowered : Template.ofArtifact "<?tpl endif ?>" =
      .error (.malformed 0 (.unexpectedInstruction "endif")) := by
    cbv
  have there := spoilt_unloaded "<?tpl endif ?>".toUTF8
  have artifact : DirectiveTable.builtins.artifact "ok" = "ok" :=
    (Template.artifact_of_compile compile_ok).symm
  have decoded := fromUTF8?_toUTF8 "<?tpl endif ?>"
  have compiled : Template.compile .builtins (Source.ofPath "./views/p.tpl" "ok").text =
      .ok ⟨"ok", ⟨[.text "ok"]⟩⟩ := compile_ok
  obtain ⟨-, replaced, -⟩ := getOrCompile_of_damaged compiled there
  obtain ⟨later, got, read, tally⟩ := replaced decoded unlowered
  refine ⟨compile_ok, there, later, got, ?_, tally⟩
  rw [← artifact]
  exact read

theorem getOrCompile_of_damaged_bytes :
    Template.compile .builtins "ok" = .ok ⟨"ok", ⟨[.text "ok"]⟩⟩ ∧
      Unloaded (spoilt ⟨#[255]⟩) (.ofPath "./views/p.tpl" "ok") ⟨#[255]⟩ Files.firstTime ∧
      (spoilt ⟨#[255]⟩).getOrCompile .builtins (.ofPath "./views/p.tpl" "ok") =
        (.error (.unreadable (kept.artifactPath "./views/p.tpl") .notText), spoilt ⟨#[255]⟩) := by
  have undecoded : String.fromUTF8? ⟨#[255]⟩ = none := by decide +kernel
  have there := spoilt_unloaded ⟨#[255]⟩
  exact ⟨compile_ok, there, there.getOrCompile_notText undecoded⟩

end Stencil
