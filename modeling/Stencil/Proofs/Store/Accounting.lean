import Stencil.Proofs.Store.Calls

/-!
# Accounting

A cache counts every call once, as a hit or as a miss, and every miss stores an artifact or fails. It holds
no template in memory but those of calls that succeeded and that nothing has dropped since. This is so after
any calls, edits of files, invalidations and clearings (`cache_accounts`).
-/

namespace Stencil
open Files

namespace Cache

inductive Op where
  | get (directives : DirectiveTable) (path text : String)
  | edit (edit : Edit)
  | invalidate (identifier : String)
  | clear

def after (cache : Cache) : Op → Cache
  | .get directives path text => (cache.getOrCompile directives (.ofPath path text)).2
  | .edit edit => { cache with files := cache.files.edited edit }
  | .invalidate identifier => (cache.invalidate identifier).2
  | .clear => cache.clear.2

def run (cache : Cache) (ops : List Op) : Cache :=
  ops.foldl after cache

def outcome (cache : Cache) : Op → List (Except Error Template)
  | .get directives path text => [(cache.getOrCompile directives (.ofPath path text)).1]
  | _ => []

def results (cache : Cache) : List Op → List (Except Error Template)
  | [] => []
  | op :: ops => cache.outcome op ++ (cache.after op).results ops

def reads (cache : Cache) : Op → Bool
  | .get _ path _ => cache.readable path
  | _ => true

/-- At every call, the artifact file of the path can be read, if there is one. -/
def readsAll (cache : Cache) : List Op → Bool
  | [] => true
  | op :: ops => cache.reads op && (cache.after op).readsAll ops

def Drops (cache : Cache) (id : String) : Op → Prop
  | .get _ path text => path = id ∧ cache.Discards (.ofPath path text)
  | .edit _ => False
  | .invalidate identifier => identifier = id
  | .clear => True

def Keeps (cache : Cache) (id : String) : List Op → Prop
  | [] => True
  | op :: ops => ¬cache.Drops id op ∧ (cache.after op).Keeps id ops

/-- Among some operations, a call for a name gave a template that none of the later ones dropped. -/
def Supplies (cache : Cache) (ops : List Op) (id : String) : Prop :=
  ∃ before directives text template later after, ops = before ++ .get directives id text :: after ∧
    (cache.run before).getOrCompile directives (.ofPath id text) = (.ok template, later) ∧
    later.Keeps id after

variable {cache : Cache} {ops : List Op} {op : Op} {id other : String}

/-! ## Maintenance -/

theorem removeFile_eq (cache : Cache) (path : String) :
    (cache.removeFile path).2 = { cache with files := cache.files.edited (.delete path) } := by
  unfold removeFile edited attempt
  simp only
  cases cache.files.removeFile path with
  | ok files => rfl
  | error fault =>
    cases fault with
    | notFound => rfl
    | _ => rfl

theorem removeFiles_eq (cache : Cache) (paths : List String) :
    ∃ edits, (cache.removeFiles paths).2 = { cache with files := cache.files.edits edits } := by
  induction paths generalizing cache with
  | nil => exact ⟨[], rfl⟩
  | cons path paths ih =>
    have first := cache.removeFile_eq path
    rw [removeFiles]
    split
    · next removed =>
      rw [removed] at first
      obtain ⟨edits, rest⟩ := ih _
      refine ⟨.delete path :: edits, rest.trans ?_⟩
      simp only at first
      rw [first]
      rfl
    · exact ⟨[.delete path], first⟩

theorem clear_eq (cache : Cache) :
    ∃ edits, cache.clear.2 = { cache with files := cache.files.edits edits, loaded := [] } := by
  unfold clear
  simp only
  split
  · exact ⟨[], rfl⟩
  · exact ⟨[], rfl⟩
  · exact removeFiles_eq { cache with loaded := [] } _

theorem invalidate_beside (cache : Cache) (apart : Digest.hex other ≠ Digest.hex id) :
    (cache.invalidate id).2.loaded.lookup other = cache.loaded.lookup other ∧
      (cache.invalidate id).2.files.entry (cache.artifactPath other) =
        cache.files.entry (cache.artifactPath other) := by
  have different : other ≠ id := fun same => apart (congrArg _ same)
  rw [invalidate, removeFile_eq]
  refine ⟨(Entries.lookup_remove ..).trans (if_neg different), ?_⟩
  change (cache.files.edited (.delete (cache.artifactPath id))).entry _ = _
  unfold edited
  split
  · next later removed =>
    have names : artifactName other ≠ artifactName id := fun same => apart (artifactName_inj same)
    exact entry_beside (names_artifactName id) (names_artifactName other) names removed
  · rfl

theorem find?_removeFiles (cache : Cache) (paths : List String) (place : Place) :
    (cache.removeFiles paths).2.files.find? place = cache.files.find? place ∨
      (cache.removeFiles paths).2.files.find? place = none ∧ ∃ path ∈ paths,
        place = placeOf cache.files.working path ∧
          ∃ content time, cache.files.find? place = some (.file content time) := by
  induction paths generalizing cache with
  | nil => exact .inl rfl
  | cons path paths ih =>
    have deleted := find?_delete cache.files path place
    have working := working_edited cache.files (.delete path)
    have first := cache.removeFile_eq path
    have alone : (cache.removeFile path).2.files.find? place = cache.files.find? place ∨
        (cache.removeFile path).2.files.find? place = none ∧ ∃ other ∈ path :: paths,
          place = placeOf cache.files.working other ∧
            ∃ content time, cache.files.find? place = some (.file content time) := by
      rw [first]
      refine deleted.imp_right ?_
      rintro ⟨gone, there, file⟩
      exact ⟨gone, path, List.mem_cons_self, there, file⟩
    rw [removeFiles]
    split
    · next middle removed =>
      rw [removed] at first alone
      simp only at first
      subst first
      rcases ih _ with same | ⟨gone, other, mem, there, content, time, file⟩
      · rw [same]
        exact alone
      · simp only at there file
        refine .inr ⟨gone, other, List.mem_cons_of_mem _ mem, working ▸ there, content, time, ?_⟩
        rcases deleted with same | ⟨none, -⟩
        · exact same.symm.trans file
        · cases none.symm.trans file
    · exact alone

theorem find?_clear (proper : cache.files.Proper) (place : Place) :
    cache.clear.2.files.find? place = cache.files.find? place ∨
      cache.clear.2.files.find? place = none ∧ ∃ name content time,
        place = name :: placeOf cache.files.working cache.directory ∧
          extension? name = some extension ∧
          cache.files.find? place = some (.file content time) := by
  unfold clear
  simp only
  split
  · exact .inl rfl
  · exact .inl rfl
  · next names listed =>
    have removed := find?_removeFiles { cache with loaded := [] }
      ((names.filter fun name => extension? name == some extension).map (join cache.directory)) place
    refine removed.imp_right ?_
    rintro ⟨gone, path, mem, there, content, time, file⟩
    obtain ⟨name, chosen, rfl⟩ := List.mem_map.1 mem
    obtain ⟨known, extended⟩ := List.mem_filter.1 chosen
    have named := proper.names_of_names listed name known
    rw [placeOf_join _ _ named] at there
    exact ⟨gone, name, content, time, there, eq_of_beq extended, file⟩

/-! ## One operation -/

theorem after_cases (cache : Cache) (op : Op) :
    (∃ directives path text, op = .get directives path text) ∨ cache.outcome op = [] ∧ ∃ edits loaded,
      cache.after op = { cache with files := cache.files.edits edits, loaded := loaded } := by
  cases op with
  | get directives path text => exact .inl ⟨directives, path, text, rfl⟩
  | edit edit => exact .inr ⟨rfl, [edit], cache.loaded, rfl⟩
  | invalidate id =>
    refine .inr ⟨rfl, [.delete (cache.artifactPath id)], Entries.remove id cache.loaded, ?_⟩
    rw [after, invalidate, removeFile_eq]
    rfl
  | clear =>
    obtain ⟨edits, cleared⟩ := cache.clear_eq
    exact .inr ⟨rfl, edits, [], cleared⟩

theorem files_after (cache : Cache) (op : Op) :
    ∃ edits, (cache.after op).files = cache.files.edits edits := by
  rcases cache.after_cases op with ⟨directives, path, text, rfl⟩ | ⟨-, edits, loaded, same⟩
  · have called := cache.called directives (.ofPath path text)
    unfold after
    simp only
    generalize cache.getOrCompile directives (.ofPath path text) = outcome at called
    cases called with
    | hit files => exact ⟨[], files⟩
    | stored files => exact files
    | refused files => exact files
    | unreadable => exact ⟨[], rfl⟩
  · exact ⟨edits, congrArg Cache.files same⟩

theorem tally_after (reads : cache.reads op = true) :
    (cache.after op).tally.hits + (cache.after op).tally.misses =
        cache.tally.hits + cache.tally.misses + (cache.outcome op).length ∧
      (cache.after op).tally.misses + cache.tally.stores =
        cache.tally.misses + (cache.after op).tally.stores +
          (cache.outcome op).countP fun result => !result.isOk := by
  rcases cache.after_cases op with ⟨directives, path, text, rfl⟩ | ⟨silent, edits, loaded, same⟩
  · have called := cache.called directives (.ofPath path text)
    unfold after outcome
    simp only
    generalize cache.getOrCompile directives (.ofPath path text) = outcome at called
    -- A call counts as a hit, or as a miss and then as a store too unless it fails.
    cases called with
    | hit _ tally =>
      rw [tally]
      exact ⟨Nat.add_right_comm cache.tally.hits 1 cache.tally.misses, rfl⟩
    | stored _ tally =>
      rw [tally]
      exact ⟨rfl, Nat.add_right_comm cache.tally.misses 1 cache.tally.stores⟩
    | refused _ tally =>
      rw [tally]
      exact ⟨rfl, Nat.add_right_comm cache.tally.misses 1 cache.tally.stores⟩
    | unreadable unread => cases reads.symm.trans unread
  · rw [silent, same]
    exact ⟨rfl, rfl⟩

theorem eq_of_hit (counted : (cache.after op).tally.hits ≠ cache.tally.hits) :
    (cache.after op).files = cache.files ∧
      (cache.after op).tally = { cache.tally with hits := cache.tally.hits + 1 } := by
  rcases cache.after_cases op with ⟨directives, path, text, rfl⟩ | ⟨-, edits, loaded, same⟩
  · have called := cache.called directives (.ofPath path text)
    unfold after at counted ⊢
    simp only at counted ⊢
    generalize cache.getOrCompile directives (.ofPath path text) = outcome at called counted
    cases called with
    | hit files tally => exact ⟨files, tally⟩
    | stored _ tally => exact absurd (congrArg Tally.hits tally) counted
    | refused _ tally => exact absurd (congrArg Tally.hits tally) counted
    | unreadable => exact absurd rfl counted
  · exact absurd (congrArg (fun cache => cache.tally.hits) same) counted

theorem has_after (cache : Cache) (op : Op) (known : Entries.has id (cache.after op).loaded = true) :
    (∃ directives text template, op = .get directives id text ∧
        cache.getOrCompile directives (.ofPath id text) = (.ok template, cache.after op)) ∨
      Entries.has id cache.loaded = true ∧ ¬cache.Drops id op := by
  cases op with
  | get directives path text =>
    have called := cache.called directives (.ofPath path text)
    unfold after at known ⊢
    simp only at known ⊢
    cases got : cache.getOrCompile directives (.ofPath path text) with
    | mk result later =>
      rw [got] at called known
      by_cases same : id = path
      · subst same
        cases called with
        | hit => exact .inl ⟨directives, text, _, rfl, got⟩
        | stored => exact .inl ⟨directives, text, _, rfl, got⟩
        | refused _ _ _ kept =>
          obtain ⟨held, undiscarded⟩ := kept id known
          exact .inr ⟨held, fun dropped => undiscarded rfl dropped.2⟩
        | unreadable unread =>
          refine .inr ⟨known, fun dropped => ?_⟩
          cases dropped.2.readable.symm.trans unread
      · have undropped : ¬cache.Drops id (.get directives path text) := fun dropped => same dropped.1.symm
        refine .inr ⟨?_, undropped⟩
        cases called with
        | hit _ _ _ adds => exact adds id same known
        | stored _ _ _ adds => exact adds id same known
        | refused _ _ _ kept => exact (kept id known).1
        | unreadable => exact known
  | edit edit => exact .inr ⟨known, fun dropped => dropped⟩
  | invalidate identifier =>
    rw [after, invalidate, removeFile_eq] at known
    obtain ⟨different, held⟩ := has_forget known
    exact .inr ⟨held, fun same => different same.symm⟩
  | clear =>
    obtain ⟨edits, cleared⟩ := cache.clear_eq
    rw [after, cleared] at known
    cases known

/-! ## Runs -/

theorem tally_run (cache : Cache) (ops : List Op) (reads : cache.readsAll ops = true) :
    (cache.run ops).tally.hits + (cache.run ops).tally.misses =
        cache.tally.hits + cache.tally.misses + (cache.results ops).length ∧
      (cache.run ops).tally.misses + cache.tally.stores =
        cache.tally.misses + (cache.run ops).tally.stores +
          (cache.results ops).countP fun result => !result.isOk := by
  induction ops generalizing cache with
  | nil => exact ⟨rfl, rfl⟩
  | cons op ops ih =>
    rw [readsAll, Bool.and_eq_true] at reads
    obtain ⟨calls, failures⟩ := tally_after reads.1
    obtain ⟨moreCalls, moreFailures⟩ := ih (cache.after op) reads.2
    rw [results, List.length_append, List.countP_append]
    rw [run, List.foldl_cons, ← run]
    omega

theorem has_run (cache : Cache) (ops : List Op) (known : Entries.has id (cache.run ops).loaded = true) :
    cache.Supplies ops id ∨ Entries.has id cache.loaded = true ∧ cache.Keeps id ops := by
  induction ops generalizing cache with
  | nil => exact .inr ⟨known, trivial⟩
  | cons op ops ih =>
    rcases ih (cache.after op) known with supplied | ⟨held, keeps⟩
    · obtain ⟨before, directives, text, template, later, after, rfl, got, keeps⟩ := supplied
      exact .inl ⟨op :: before, directives, text, template, later, after, rfl, got, keeps⟩
    · rcases cache.has_after op held with ⟨directives, text, template, rfl, got⟩ | ⟨was, kept⟩
      · exact .inl ⟨[], directives, text, template, _, ops, rfl, got, keeps⟩
      · exact .inr ⟨was, kept, keeps⟩

theorem proper_run (proper : cache.files.Proper) (ops : List Op) : (cache.run ops).files.Proper := by
  induction ops generalizing cache with
  | nil => exact proper
  | cons op ops ih =>
    obtain ⟨edits, same⟩ := cache.files_after op
    refine ih ?_
    rw [same]
    exact proper.edits edits

structure Accounts (start : Cache) (ops : List Op) (cache : Cache) : Prop where
  calls : cache.tally.hits + cache.tally.misses = (start.results ops).length
  failures : cache.tally.misses =
    cache.tally.stores + (start.results ops).countP fun result => !result.isOk
  memory : ∀ id, Entries.has id cache.loaded = true → start.Supplies ops id

structure Obeys (cache : Cache) : Prop where
  failure : ∀ directives path text e, cache.readable path = true →
    (cache.getOrCompile directives (.ofPath path text)).1 = .error e →
      cache.Refuses directives (.ofPath path text) e
  hit : ∀ op, (cache.after op).tally.hits ≠ cache.tally.hits → (cache.after op).files = cache.files ∧
    (cache.after op).tally = { cache.tally with hits := cache.tally.hits + 1 }
  invalidated : ∀ id other, Digest.hex other ≠ Digest.hex id →
    (cache.invalidate id).2.loaded.lookup other = cache.loaded.lookup other ∧
      (cache.invalidate id).2.files.entry (cache.artifactPath other) =
        cache.files.entry (cache.artifactPath other)
  cleared : ∀ place, cache.clear.2.files.find? place = cache.files.find? place ∨
    cache.clear.2.files.find? place = none ∧ ∃ name content time,
      place = name :: placeOf cache.files.working cache.directory ∧ extension? name = some extension ∧
        cache.files.find? place = some (.file content time)
  again : ∀ directives path text template later ofSource ofArtifact,
    cache.getOrCompile directives (.ofPath path text) = (.ok template, later) →
    later.files.modified? path = some ofSource →
    later.files.modified? (later.artifactPath path) = some ofArtifact → ofSource ≤ ofArtifact →
      later.getOrCompile directives (.ofPath path text) = (.ok template, later.countHit)

theorem accounts_run (files : Files) (directory : String) {ops : List Op}
    (reads : (Cache.start files directory).readsAll ops = true) :
    Accounts (Cache.start files directory) ops ((Cache.start files directory).run ops) := by
  obtain ⟨calls, failures⟩ := tally_run _ ops reads
  refine ⟨?_, ?_, fun id known => ?_⟩
  · simpa [Cache.start] using calls
  · simpa [Cache.start] using failures
  · rcases has_run _ ops known with supplied | ⟨held, -⟩
    · exact supplied
    · cases held

theorem obeys (proper : cache.files.Proper) : cache.Obeys := by
  refine ⟨?_, fun op => eq_of_hit, fun id other => cache.invalidate_beside, find?_clear proper, ?_⟩
  · intro directives path text e readable failed
    exact refuses_of_error readable failed
  · intro directives path text template later ofSource ofArtifact got source artifact le
    have dated : (Source.ofPath path text).modified? later.files = some ofSource := source
    have stored : later.files.modified? (later.artifactPath (Source.ofPath path text).identifier) =
        some ofArtifact := artifact
    refine getOrCompile_again got rfl ?_
    rw [isFresh, dated, stored]
    exact decide_eq_true le

end Cache

open Cache

/-- After any operations, the counts of a cache and its memory are those of the calls that were made, and the
next operation touches nothing but what it should. -/
theorem cache_accounts (files : Files) (directory : String) (ops : List Op) (proper : files.Proper)
    (reads : (Cache.start files directory).readsAll ops = true) :
    Accounts (Cache.start files directory) ops ((Cache.start files directory).run ops) ∧
      Obeys ((Cache.start files directory).run ops) := by
  refine ⟨accounts_run files directory reads, ?_⟩
  exact obeys (proper_run proper ops)

def viewing : List Op :=
  [.edit (.makeDirectories "./views"), .edit (.write "./views/p.tpl" "ok".toUTF8),
    .get .builtins "./views/p.tpl" "ok", .get .builtins "./views/p.tpl" "ok",
    .get .builtins "./views/q.tpl" "<?tpl endif ?>", .invalidate "./views/q.tpl"]

theorem cache_accounts_viewing :
    let start := Cache.start .empty "./cache"
    Files.empty.Proper ∧ start.readsAll viewing = true ∧ (start.run viewing).tally = ⟨1, 2, 1⟩ ∧
      (start.results viewing).length = 3 ∧
      (start.results viewing).countP (fun result => !result.isOk) = 1 ∧
      start.Supplies viewing "./views/p.tpl" := by
  intro start
  have proper : Files.empty.Proper := by
    have work : Names "work" := ⟨by decide, by decide, by decide, by decide⟩
    refine ⟨List.forall_mem_singleton.2 work, ?_⟩
    simp [Files.empty, work]
  have evaluated : start.readsAll viewing = true ∧ (start.run viewing).tally = ⟨1, 2, 1⟩ ∧
      Entries.has "./views/p.tpl" (start.run viewing).loaded = true := by
    decide +kernel
  obtain ⟨reads, tally, known⟩ := evaluated
  obtain ⟨accounts, -⟩ := cache_accounts .empty "./cache" viewing proper reads
  have calls := accounts.calls
  have failures := accounts.failures
  rw [tally] at calls failures
  exact ⟨proper, reads, tally, calls.symm, (Nat.add_left_cancel failures).symm, accounts.memory _ known⟩

end Stencil
