import Stencil.Proofs.Store.Soundness

/-!
# Edits of files

Whatever is done to files, every name in them can be spelled in a path (`Proper.edits`). A file that is
removed changes no path to another name in its directory (`entry_beside`).
-/

namespace Stencil

theorem Text.not_mem_of_mem_split {separator : Char} {cs part : List Char}
    (mem : part ∈ split separator cs) : separator ∉ part := by
  induction cs generalizing part with
  | nil =>
    rw [split, List.mem_singleton] at mem
    subst mem
    exact List.not_mem_nil
  | cons c cs ih =>
    obtain ⟨first, others, tail⟩ := exists_split separator cs
    rw [split, tail] at mem
    rw [tail] at ih
    cases here : c == separator with
    | true =>
      rw [here] at mem
      rcases List.mem_cons.1 mem with rfl | later
      · exact List.not_mem_nil
      · exact ih later
    | false =>
      rw [here] at mem
      rcases List.mem_cons.1 mem with rfl | later
      · rw [List.mem_cons, not_or]
        exact ⟨Ne.symm (beq_eq_false_iff_ne.1 here), ih List.mem_cons_self⟩
      · exact ih (List.mem_cons_of_mem _ later)

namespace Files

variable {files later : Files} {place : Place} {path directory name other : String}

/-! ## Names -/

structure Proper (files : Files) : Prop where
  working : ∀ name ∈ files.working, Names name
  entries : ∀ entry ∈ files.entries, ∀ name ∈ entry.1, Names name

theorem names_of_parts {part : String} (mem : part ∈ parts path) (solid : ¬(part = "" || part = "."))
    (down : part ≠ "..") : Names part := by
  obtain ⟨cs, split, rfl⟩ := List.mem_map.1 mem
  rw [Bool.or_eq_true, decide_eq_true_iff, decide_eq_true_iff, not_or] at solid
  refine ⟨?_, solid.1, solid.2, down⟩
  rw [String.toList_ofList]
  exact Text.not_mem_of_mem_split split

theorem names_tail (named : ∀ name ∈ place, Names name) : ∀ name ∈ place.tail, Names name :=
  fun name mem => named name (List.mem_of_mem_tail mem)

theorem names_lead {ps : List String} (spelled : ∀ part ∈ ps, part ∈ parts path)
    (named : ∀ name ∈ place, Names name) : ∀ name ∈ lead place ps, Names name := by
  induction ps generalizing place with
  | nil => exact named
  | cons part ps ih =>
    rw [List.forall_mem_cons] at spelled
    rw [lead]
    split
    · exact ih spelled.2 named
    · next solid =>
      split
      · exact ih spelled.2 (names_tail named)
      · next down =>
        exact ih spelled.2 (List.forall_mem_cons.2 ⟨names_of_parts spelled.1 solid down, named⟩)

namespace Proper

theorem start (proper : files.Proper) (path : String) : ∀ name ∈ files.start path, Names name := by
  unfold Files.start
  split
  · nofun
  · exact proper.working

theorem placeOf (proper : files.Proper) (path : String) :
    ∀ name ∈ placeOf files.working path, Names name :=
  names_lead (fun _ => id) (proper.start path)

theorem put (proper : files.Proper) (named : ∀ name ∈ place, Names name) (entry : FileEntry) :
    (files.put place entry).Proper := by
  refine ⟨proper.working, List.forall_mem_cons.2 ⟨named, fun held mem => ?_⟩⟩
  exact proper.entries held (List.mem_filter.1 mem).1

theorem remove (proper : files.Proper) (place : Place) : (files.remove place).Proper :=
  ⟨proper.working, fun held mem => proper.entries held (List.mem_filter.1 mem).1⟩

theorem write {content : ByteArray} (proper : files.Proper)
    (wrote : files.write path content = .ok later) : later.Proper := by
  rw [write_eq_ok wrote]
  have placed := proper.put (proper.placeOf path) (.file content files.clock)
  exact ⟨placed.working, placed.entries⟩

theorem touch {time : Int} (proper : files.Proper) (touched : files.touch path time = .ok later) :
    later.Proper := by
  unfold Files.touch at touched
  obtain ⟨place, located, touched⟩ := bind_eq_ok.1 touched
  split at touched
  · cases touched
    rw [locate_eq located]
    exact proper.put (proper.placeOf path) _
  · cases touched

theorem removeFile (proper : files.Proper) (removed : files.removeFile path = .ok later) :
    later.Proper := by
  rw [removeFile_eq_ok removed]
  exact proper.remove _

theorem makeParts {ps : List String} (proper : files.Proper) (spelled : ∀ part ∈ ps, part ∈ parts path)
    (named : ∀ name ∈ place, Names name) (made : files.makeParts place ps = .ok later) :
    later.Proper := by
  induction ps generalizing files place with
  | nil =>
    cases made
    exact proper
  | cons part ps ih =>
    rw [List.forall_mem_cons] at spelled
    rw [Files.makeParts] at made
    split at made
    · exact ih proper spelled.2 named made
    · next solid =>
      split at made
      · exact ih proper spelled.2 (names_tail named) made
      · next down =>
        have next : ∀ name ∈ part :: place, Names name :=
          List.forall_mem_cons.2 ⟨names_of_parts spelled.1 solid down, named⟩
        split at made
        · cases made
        · simp only at made
          split at made
          · exact ih proper spelled.2 next made
          · split at made
            · cases made
            · exact ih (proper.put next _) spelled.2 next made

theorem makeDirectories (proper : files.Proper) (made : files.makeDirectories path = .ok later) :
    later.Proper := by
  unfold Files.makeDirectories at made
  obtain ⟨_, _, made⟩ := bind_eq_ok.1 made
  exact proper.makeParts (fun _ => id) (proper.start path) made

theorem names_of_names {names : List String} (proper : files.Proper)
    (listed : files.names path = .ok names) : ∀ name ∈ names, Names name := by
  unfold Files.names at listed
  obtain ⟨place, -, listed⟩ := bind_eq_ok.1 listed
  split at listed
  · cases listed
    intro name mem
    obtain ⟨entry, held, found⟩ := List.mem_filterMap.1 (List.mem_mergeSort.1 mem)
    have named := proper.entries entry held
    simp only at found
    split at found
    · next first parent same =>
      rw [Option.ite_none_right_eq_some] at found
      obtain ⟨-, ⟨⟩⟩ := found
      exact named name (same ▸ List.mem_cons_self)
    · cases found
  · split at listed <;> cases listed

end Proper

/-! ## Paths beside a file -/

theorem walk_of_isDirectory {start : Place} {ps : List String}
    (same : ∀ place, later.isDirectory place = files.isDirectory place)
    (walked : files.walk start ps = .ok place) : later.walk start ps = .ok place := by
  induction ps generalizing start with
  | nil => exact walked
  | cons part ps ih =>
    rw [walk] at walked ⊢
    rw [same]
    split at walked
    · next here =>
      rw [if_pos here]
      split at walked
      · next blank =>
        rw [if_pos blank]
        exact ih walked
      · next solid =>
        rw [if_neg solid]
        split at walked
        · next up =>
          rw [if_pos up]
          exact ih walked
        · next down =>
          rw [if_neg down]
          split at walked
          · cases walked
          · next short =>
            rw [if_neg short]
            split at walked
            · next last =>
              rw [if_pos last]
              exact walked
            · next more =>
              rw [if_neg more]
              exact ih walked
    · split at walked <;> cases walked

/-- Where a walk to a name leads somewhere, a walk to another name leads beside it. -/
theorem walk_beside {start : Place} {ps : List String} (beside : Names other)
    (walked : files.walk start (ps ++ [name]) = .ok place) :
    files.walk start (ps ++ [other]) =
      if nameLimit < other.utf8ByteSize then .error .nameTooLong else .ok (other :: lead start ps) := by
  induction ps generalizing start with
  | nil =>
    rw [List.nil_append, walk] at walked ⊢
    split at walked
    · next here =>
      have solid : ¬(other = "" || other = ".") := by simp [beside.some, beside.notHere]
      rw [if_pos here, if_neg solid, if_neg beside.notUp]
      rfl
    · split at walked <;> cases walked
  | cons part ps ih =>
    have more : ∀ last : String, ¬(ps ++ [last]).isEmpty = true := by simp
    rw [List.cons_append, walk] at walked ⊢
    rw [lead]
    split at walked
    · next here =>
      rw [if_pos here]
      split at walked
      · next blank =>
        rw [if_pos blank, if_pos blank]
        exact ih walked
      · next solid =>
        rw [if_neg solid, if_neg solid]
        split at walked
        · next up =>
          rw [if_pos up, if_pos up]
          exact ih walked
        · next down =>
          rw [if_neg down, if_neg down]
          split at walked
          · cases walked
          · next short =>
            rw [if_neg (more name)] at walked
            rw [if_neg short, if_neg (more other)]
            exact ih walked
    · split at walked <;> cases walked

theorem isDirectory_remove {content : ByteArray} {time : Int}
    (file : files.find? place = some (.file content time)) (other : Place) :
    (files.remove place).isDirectory other = files.isDirectory other := by
  unfold isDirectory
  rw [find?_remove]
  by_cases here : other = place
  · rw [if_pos here, here, file]
  · rw [if_neg here]

theorem start_join (files : Files) (directory : String) (named : Names name) :
    files.start (join directory name) = files.start directory := by
  rw [Files.start, Files.start, isRooted_join directory named]

theorem locate_beside {content : ByteArray} {time : Int} (named : Names name) (beside : Names other)
    (located : files.locate (join directory name) = .ok place)
    (file : files.find? place = some (.file content time)) :
    (files.remove place).locate (join directory other) = files.locate (join directory other) := by
  obtain ⟨ps, -, whole⟩ := parts_join directory
  have known : files.walk (files.start directory) (ps ++ [name]) = .ok place := by
    unfold locate at located
    obtain ⟨_, -, walked⟩ := bind_eq_ok.1 located
    split at walked
    · cases walked
    · rwa [whole named, start_join files directory named] at walked
  have still := walk_of_isDirectory (isDirectory_remove file) known
  have level := (walk_beside beside still).trans (walk_beside beside known).symm
  unfold locate
  rw [start_join _ directory beside, start_join _ directory beside, whole beside, ← level]
  rfl

theorem entry_beside (named : Names name) (beside : Names other) (different : other ≠ name)
    (removed : files.removeFile (join directory name) = .ok later) :
    later.entry (join directory other) = files.entry (join directory other) := by
  unfold removeFile at removed
  obtain ⟨place, located, removed⟩ := bind_eq_ok.1 removed
  split at removed
  · cases removed
  · cases removed
  · next content time file =>
    cases removed
    unfold entry
    rw [locate_beside named beside located file]
    cases found : files.locate (join directory other) with
    | error fault => rfl
    | ok q =>
      have apart : q ≠ place := by
        rw [locate_eq found, locate_eq located, placeOf_join files.working directory beside,
          placeOf_join files.working directory named]
        exact fun equal => different (List.cons.inj equal).1
      rw [ok_bind, ok_bind, find?_remove, if_neg apart]

end Files

/-! ## Edits -/

inductive Edit where
  | write (path : String) (content : ByteArray)
  | touch (path : String) (time : Int)
  | delete (path : String)
  | makeDirectories (path : String)

namespace Files

variable {files later : Files}

def attempt (files : Files) : Edit → Except FileFault Files
  | .write path content => files.write path content
  | .touch path time => files.touch path time
  | .delete path => files.removeFile path
  | .makeDirectories path => files.makeDirectories path

def edited (files : Files) (edit : Edit) : Files :=
  match files.attempt edit with
  | .ok later => later
  | .error _ => files

def edits (files : Files) (list : List Edit) : Files :=
  list.foldl edited files

theorem edited_of_attempt {edit : Edit} (done : files.attempt edit = .ok later) :
    files.edited edit = later := by
  rw [edited, done]

theorem working_edited (files : Files) (edit : Edit) : (files.edited edit).working = files.working := by
  unfold edited
  split
  · next later done =>
    cases edit with
    | write path content =>
      rw [write_eq_ok done]
      rfl
    | touch path time =>
      unfold attempt touch at done
      obtain ⟨place, -, done⟩ := bind_eq_ok.1 done
      split at done
      · cases done
        rfl
      · cases done
    | delete path =>
      rw [removeFile_eq_ok done]
      rfl
    | makeDirectories path =>
      unfold attempt makeDirectories at done
      obtain ⟨_, -, done⟩ := bind_eq_ok.1 done
      exact (makeParts_clock done).2
  · rfl

theorem find?_delete (files : Files) (path : String) (place : Place) :
    (files.edited (.delete path)).find? place = files.find? place ∨
      (files.edited (.delete path)).find? place = none ∧ place = placeOf files.working path ∧
        ∃ content time, files.find? place = some (.file content time) := by
  unfold edited
  split
  · next later removed =>
    unfold attempt removeFile at removed
    obtain ⟨there, located, removed⟩ := bind_eq_ok.1 removed
    split at removed
    · cases removed
    · cases removed
    · next content time file =>
      cases removed
      rw [find?_remove]
      by_cases here : place = there
      · rw [if_pos here, here]
        exact .inr ⟨rfl, locate_eq located, content, time, file⟩
      · rw [if_neg here]
        exact .inl rfl
  · exact .inl rfl

theorem Proper.edited (proper : files.Proper) (edit : Edit) : (files.edited edit).Proper := by
  unfold Files.edited
  split
  · next later done =>
    cases edit with
    | write path content => exact proper.write done
    | touch path time => exact proper.touch done
    | delete path => exact proper.removeFile done
    | makeDirectories path => exact proper.makeDirectories done
  · exact proper

theorem Proper.edits (proper : files.Proper) (list : List Edit) : (files.edits list).Proper := by
  induction list generalizing files with
  | nil => exact proper
  | cons edit list ih => exact ih (proper.edited edit)

end Files

end Stencil
