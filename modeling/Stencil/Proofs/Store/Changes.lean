import Stencil.Proofs.Store.Places

/-!
# Changes of files

What an operation on files leaves behind. Files are later than others if every entry is an old one or
has a new time (`Later`), and no new file is in the directory of the artifacts.
-/

namespace Stencil.Files

variable {files later : Files} {place : Place} {path : String} {content : ByteArray}

/-! ## Reading -/

theorem locate_of_entry {e : FileEntry} (h : files.entry path = .ok e) :
    ∃ place, files.locate path = .ok place ∧ files.find? place = some e := by
  unfold entry at h
  obtain ⟨place, located, h⟩ := bind_eq_ok.1 h
  split at h
  · next found =>
    cases h
    exact ⟨place, located, found⟩
  · cases h

theorem entry_eq_ok {e : FileEntry} (h : files.entry path = .ok e) :
    files.find? (placeOf files.working path) = some e := by
  obtain ⟨place, located, found⟩ := locate_of_entry h
  rw [← locate_eq located]
  exact found

theorem modified?_of_entry {e : FileEntry} (h : files.entry path = .ok e) :
    files.modified? path = some e.modified := by
  unfold modified?
  rw [h]
  rfl

theorem entry_of_modified? {time : Int} (h : files.modified? path = some time) :
    ∃ e, files.entry path = .ok e ∧ e.modified = time := by
  unfold modified? at h
  obtain ⟨e, found, same⟩ := Option.map_eq_some_iff.1 h
  exact ⟨e, toOption_eq_some.1 found, same⟩

theorem modified?_eq_some {time : Int} (h : files.modified? path = some time) :
    ∃ e, files.find? (placeOf files.working path) = some e ∧ e.modified = time := by
  obtain ⟨e, found, same⟩ := entry_of_modified? h
  exact ⟨e, entry_eq_ok found, same⟩

theorem read_eq_ok {text : String} (h : files.read path = .ok text) :
    ∃ content time, files.find? (placeOf files.working path) = some (.file content time) ∧
      String.fromUTF8? content = some text := by
  unfold read at h
  obtain ⟨e, found, h⟩ := bind_eq_ok.1 h
  split at h
  · cases h
  · next content time =>
    split at h
    · next decoded =>
      cases h
      exact ⟨content, time, entry_eq_ok found, decoded⟩
    · cases h

theorem read_of_entry_file {time : Int} {text : String}
    (entry : files.entry path = .ok (.file content time)) (decoded : String.fromUTF8? content = some text) :
    files.read path = .ok text := by
  unfold read
  rw [entry, ok_bind]
  simp only
  rw [decoded]
  rfl

theorem read_of_entry_directory {time : Int} (entry : files.entry path = .ok (.directory time)) :
    files.read path = .error .isADirectory := by
  unfold read
  rw [entry]
  rfl

/-! ## Writing and removing -/

theorem find?_remove (files : Files) (place other : Place) :
    (files.remove place).find? other = if other = place then none else files.find? other := by
  unfold remove find?
  induction files.entries with
  | nil => simp
  | cons head rest ih =>
    obtain ⟨p, e⟩ := head
    by_cases here : p = place
    · subst here
      by_cases same : other = p
      · simpa [same] using ih
      · simpa [List.lookup_cons, same, beq_eq_false_iff_ne.2 same] using ih
    · by_cases same : other = p
      · subst same
        simp [here]
      · simpa [here, List.lookup_cons, beq_eq_false_iff_ne.2 same] using ih

def written (files : Files) (place : Place) (content : ByteArray) : Files :=
  { files.put place (.file content files.clock) with clock := files.clock + 1 }

theorem write_eq_ok (h : files.write path content = .ok later) :
    later = files.written (placeOf files.working path) content := by
  unfold write writeAt at h
  cases located : files.locate path with
  | error fault =>
    rw [located] at h
    cases h
  | ok place =>
    rw [located, ok_bind] at h
    rw [← locate_eq located]
    split at h
    · cases h
    · cases h
      rfl

theorem find?_written (files : Files) (place other : Place) (content : ByteArray) :
    (files.written place content).find? other =
      if other = place then some (.file content files.clock) else files.find? other :=
  find?_put files place other _

theorem removeFile_eq_ok (h : files.removeFile path = .ok later) :
    later = files.remove (placeOf files.working path) := by
  unfold removeFile at h
  obtain ⟨place, located, h⟩ := bind_eq_ok.1 h
  rw [← locate_eq located]
  split at h
  · cases h
  · cases h
  · cases h
    rfl

/-! ## Making directories -/

theorem makeParts_clock {ps : List String} (h : files.makeParts place ps = .ok later) :
    later.clock = files.clock ∧ later.working = files.working := by
  induction ps generalizing files place with
  | nil =>
    cases h
    exact ⟨rfl, rfl⟩
  | cons part ps ih =>
    rw [makeParts] at h
    split at h
    · exact ih h
    · split at h
      · exact ih h
      · split at h
        · cases h
        · simp only at h
          split at h
          · exact ih h
          · split at h
            · cases h
            · have tail := ih h
              exact tail

theorem makeParts_find? {ps : List String} (h : files.makeParts place ps = .ok later)
    (other : Place) :
    later.find? other = files.find? other ∨
      files.find? other = none ∧ later.find? other = some (.directory files.clock) := by
  induction ps generalizing files place with
  | nil =>
    cases h
    exact .inl rfl
  | cons part ps ih =>
    rw [makeParts] at h
    split at h
    · exact ih h
    · split at h
      · exact ih h
      · split at h
        · cases h
        · simp only at h
          split at h
          · exact ih h
          · split at h
            · cases h
            · next missing =>
              rw [Option.not_isSome_iff_eq_none] at missing
              have tail := ih h
              rw [find?_put] at tail
              by_cases here : other = part :: place
              · subst here
                rw [if_pos rfl] at tail
                rcases tail with same | ⟨none, -⟩
                · exact .inr ⟨missing, same⟩
                · cases none
              · rw [if_neg here] at tail
                exact tail

/-! ## Later files -/

/-- Every entry is an old one or has a new time, and every new entry in the directory is a directory. -/
structure Later (directory : Place) (files later : Files) : Prop where
  working : later.working = files.working
  clock : files.clock ≤ later.clock
  entry : ∀ {place e}, later.find? place = some e →
    files.find? place = some e ∨
      files.clock ≤ e.modified ∧ ∀ name, place = name :: directory → ∃ time, e = .directory time

variable {directory : Place}

theorem Later.waiting (files : Files) (n : Nat) :
    Later directory files { files with clock := files.clock + n } :=
  ⟨rfl, Int.le_add_of_nonneg_right (Int.natCast_nonneg n), .inl⟩

theorem later_written (outside : ∀ name, place ≠ name :: directory) (content : ByteArray) :
    Later directory files (files.written place content) := by
  refine ⟨rfl, Int.le_add_one (Int.le_refl _), fun {other e} found => ?_⟩
  rw [find?_written] at found
  split at found
  · next here =>
    cases found
    exact .inr ⟨Int.le_refl _, fun name same => absurd (here.symm.trans same) (outside name)⟩
  · exact .inl found

theorem later_remove (files : Files) (place : Place) : Later directory files (files.remove place) := by
  refine ⟨rfl, Int.le_refl _, fun {other e} found => ?_⟩
  rw [find?_remove] at found
  split at found
  · cases found
  · exact .inl found

theorem later_makeDirectories (h : files.makeDirectories path = .ok later) :
    Later directory files later := by
  unfold makeDirectories at h
  obtain ⟨_, _, h⟩ := bind_eq_ok.1 h
  obtain ⟨clock, working⟩ := makeParts_clock h
  refine ⟨working, Int.le_of_eq clock.symm, fun {other e} found => ?_⟩
  rcases makeParts_find? h other with same | ⟨-, new⟩
  · rw [same] at found
    exact .inl found
  · rw [new] at found
    cases found
    exact .inr ⟨Int.le_refl _, fun _ _ => ⟨_, rfl⟩⟩

end Stencil.Files
