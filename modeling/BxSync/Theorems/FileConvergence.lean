import BxSync.Theorems.Convergence

/-! The files of `file_thread` against a list that stays as it is. -/

namespace BxSync

open Machine Aging

/-! ### One file -/

/-- The INSERT or the UPDATE of a file is refused, or writes its row. -/
theorem writeFile_eq (t : Table Nat Nat) (id checksum : Nat) (fk cv : Bool) :
    (if (t.lookup id).isNone then Table.insertRow t id checksum fk cv else Table.update t (some id) checksum fk cv) =
      if fk then (none, t) else (some cv, t.insert id checksum) := by
  unfold Table.insertRow Table.update
  cases hknown : t.lookup id <;> cases fk <;> simp [hknown]

/-- The row after a file is stored: the one of the file, or the one before it with an error. -/
theorem persistFile_row (db : Database) (id : Nat) (item : FileItem) :
    PruneTarget.file.row (persistFile db id item).2 id = some item.file.checksum ∨
      (PruneTarget.file.row (persistFile db id item).2 id = PruneTarget.file.row db id ∧ (persistFile db id item).1 ≠ .noError) := by
  have hinsert : (db.file.insert id item.file.checksum).lookup id = some item.file.checksum := AList.lookup_insert _
  simp only [row_file]
  unfold persistFile
  split
  · exact Or.inr ⟨rfl, bxDatabaseQueryError_ne _⟩
  dsimp only
  split
  · exact Or.inl ‹_›
  simp only [writeFile_eq]
  rcases item.answers.write with needReconnect | ⟨fk, cv⟩ | ⟨fk, cv, needReconnect⟩
  · exact Or.inr ⟨rfl, bxDatabaseQueryError_ne _⟩
  · cases fk with
    | true => exact Or.inr ⟨rfl, bxDatabaseQueryError_ne false⟩
    | false => exact Or.inl hinsert
  · cases fk with
    | true => exact Or.inr ⟨rfl, bxDatabaseQueryError_ne _⟩
    | false => exact Or.inl hinsert

theorem persistFile_stores (db : Database) (id : Nat) (item : FileItem) {cv : Bool} (hselect : item.answers.select = .answered)
    (hwrite : item.answers.write = .ran false cv) : PruneTarget.file.row (persistFile db id item).2 id = some item.file.checksum := by
  have hinsert : (db.file.insert id item.file.checksum).lookup id = some item.file.checksum := AList.lookup_insert _
  simp only [row_file]
  unfold persistFile
  rw [hselect]
  dsimp only
  split
  · exact ‹_›
  · simp only [writeFile_eq, hwrite]
    exact hinsert

theorem rowSync_file (s : Database × Cache) (item : FileItem) {id : Nat} (hid : item.file.id = some id) :
    RowSync PruneTarget.file.row id item.file.checksum s (filePageItem s item).2 where
  rows k hk := filePageItem_ne s item (by rw [hid]; exact fun heq => hk (Option.some.inj heq).symm)
  entries k hk := (filePageItem_touched s item id hid).entry_ne hk hk
  same h := by
    unfold filePageItem
    rw [hid]
    dsimp only
    unfold syncFile
    split
    · exact Or.inr ⟨rfl, rfl⟩
    · rcases persistFile_row s.1 id item with hrow | ⟨hrow, herror⟩
      · exact Or.inl hrow
      · exact Or.inr ⟨hrow, if_neg herror⟩

/-- A file whose statements succeed is stored. -/
theorem filePageItem_stores (s : Database × Cache) (item : FileItem) {id : Nat} {cv : Bool} (hid : item.file.id = some id)
    (hselect : item.answers.select = .answered) (hwrite : item.answers.write = .ran false cv)
    (h : Sound (PruneTarget.file.row s.1 id) (s.2.entry id) item.file.checksum) :
    PruneTarget.file.row (filePageItem s item).2.1 id = some item.file.checksum := by
  unfold filePageItem
  rw [hid]
  dsimp only
  unfold syncFile
  split
  · rename_i hok
    exact h.ok hok
  · exact persistFile_stores s.1 id item hselect hwrite

/-! ### The file list -/

/-- The ids and the checksums of a file list. -/
def fileRows (list : List BXFileMeta) : List (Nat × Nat) := servedRows BXFileMeta.id BXFileMeta.checksum list

/-- The server answers the walk of an iteration with the pages of the list. -/
def FileInput.Lists (i : FileInput) (list : List BXFileMeta) : Prop := ListPages FileItem.file list i.pages 0

/-- The statements of the rows succeed. -/
def FileInput.Stores (i : FileInput) : Prop :=
  ∀ item ∈ pageRows i.pages, item.answers.select = .answered ∧ ∃ cv, item.answers.write = .ran false cv

theorem syncsRows_file (list : List BXFileMeta) :
    fileWalker.SyncsRows .file FileItem.file BXFileMeta.id BXFileMeta.checksum list where
  touches := touchesCache_fileWalker
  rowId _ := rfl
  sync s item _ hid := rowSync_file s item hid
  unset s item _ hid := congrArg Prod.snd (filePageItem_unset s item hid)

section

variable {list : List BXFileMeta} {s : FileState} {i : FileInput}

/-- The walk of an iteration. -/
def fileWalk (s : FileState) (i : FileInput) : WalkResult (Database × Cache) Unit :=
  fileWalker.walkPagesFrom i.connected i.pages 0 (s.db, s.files) ()

theorem fresh_fileWalk (hlists : i.Lists list) (hw : (fileWalk s i).error = .noError) :
    ∀ row ∈ fileRows list, ¬(fileWalk s i).store.2.Stale row.1 :=
  (syncsRows_file list).fresh_walk hlists hw

/-- A walk without an error whose statements succeed has stored the list. -/
theorem fileWalk_stores (hdistinct : Distinct (fileRows list)) (hlists : i.Lists list) (hstores : i.Stores)
    (hw : (fileWalk s i).error = .noError) (hs : SoundOn PruneTarget.file.row (fileRows list) (s.db, s.files)) :
    ∀ row ∈ fileRows list, PruneTarget.file.row (fileWalk s i).store.1 row.1 = some row.2 := by
  intro row hrow
  obtain ⟨file, hfile, hid, hchecksum⟩ := of_mem_servedRows hrow
  have hrows := Walker.SyncsRows.pageRows_of_walk hlists hw
  rw [← List.drop_zero (l := list), ← hrows] at hfile
  obtain ⟨item, hitem, rfl⟩ := List.mem_map.mp hfile
  rw [← hchecksum]
  refine (syncsRows_file list).walk_stores (J := fun _ => True)
    (p := fun item => item.answers.select = .answered ∧ ∃ cv, item.answers.write = .ran false cv) hdistinct hlists hw hs trivial
    (fun _ _ _ => trivial) ?_ hitem (hstores item hitem) hid
  rintro s item id ⟨hselect, cv, hwrite⟩ - hid hsound
  exact filePageItem_stores s item hid hselect hwrite hsound

end

/-! ### The iterations of file_thread -/

def fileStamps : Stamps FileState Nat := PruneTarget.file.stamps.comap fun s => (s.db, s.files)

/-- `bx_cache_hydrate` on the file table. -/
def hydrateFiles (db : Database) : FileState where
  db := db
  files := bxCacheHydrate (checksumRows db.file) cacheCreate

section

variable {list : List BXFileMeta} {s : FileState} {i : FileInput}

/-- The prune of an iteration after its walk. -/
def FileInput.pruned (i : FileInput) (store : Database × Cache) : BXillError × Database × Cache × List Event :=
  bxPruneItems Database.deleteFile i.prune.prepared i.drift i.prune.deletes store.1 store.2

/-- An iteration that walks the list without an error prunes, and every iteration bumps. -/
theorem fileStep_cases (s : FileState) (i : FileInput) :
    ((fileWalk s i).error = .noError ∧ (fileStep s i).1.error = (i.pruned (fileWalk s i).store).1 ∧
      (fileStep s i).2.db = (i.pruned (fileWalk s i).store).2.1 ∧
      (fileStep s i).2.files = cacheNextVersion (i.pruned (fileWalk s i).store).2.2.1) ∨
    ((fileWalk s i).error ≠ .noError ∧ (fileStep s i).1.error = (fileWalk s i).error ∧
      (fileStep s i).2.db = (fileWalk s i).store.1 ∧ (fileStep s i).2.files = cacheNextVersion (fileWalk s i).store.2) := by
  unfold fileStep fileWalk
  dsimp only
  split
  · rename_i hw
    exact Or.inl ⟨hw, rfl, rfl, rfl⟩
  · rename_i hw
    exact Or.inr ⟨hw, rfl, rfl, rfl⟩

theorem version_fileWalk (s : FileState) (i : FileInput) : (fileWalk s i).store.2.version = s.files.version :=
  (touchesCache_fileWalker.kept_walk i.connected i.pages 0 (s.db, s.files) ()).version

theorem version_pruned (i : FileInput) (store : Database × Cache) : (i.pruned store).2.2.1.version = store.2.version :=
  (pruned_bxPruneItems Database.deleteFile _ _ _ _ _).version

theorem soundOn_fileStep (hdistinct : Distinct (fileRows list)) (hlists : i.Lists list) (hdrift : 0 < pruneDrift i.drift)
    (hwrap : s.files.version + 1 < uint64Max) (hs : SoundOn PruneTarget.file.row (fileRows list) (s.db, s.files)) :
    SoundOn PruneTarget.file.row (fileRows list) ((fileStep s i).2.db, (fileStep s i).2.files) := by
  have hwalk : SoundOn PruneTarget.file.row (fileRows list) (fileWalk s i).store :=
    (syncsRows_file list).soundOn_walk hdistinct hlists hs
  have hversion := version_fileWalk s i
  rcases fileStep_cases s i with ⟨hw, -, hdb, hfiles⟩ | ⟨-, -, hdb, hfiles⟩
  · rw [hdb, hfiles]
    refine soundOn_next ?_ (soundOn_prune (t := .file) (fresh_fileWalk hlists hw) hdrift hwalk)
    have hpruned := version_pruned i (fileWalk s i).store
    unfold FileInput.pruned at hpruned
    show (bxPruneItems Database.deleteFile _ _ _ _ _).2.2.1.version + 1 ≠ uint64Max
    rw [hpruned, hversion]
    exact Nat.ne_of_lt hwrap
  · rw [hdb, hfiles]
    exact soundOn_next (by rw [hversion]; exact Nat.ne_of_lt hwrap) hwalk

/-- The id is on the list. -/
def FileListed (list : List BXFileMeta) (id : Nat) : Prop := ∃ file ∈ list, file.id = some id

theorem quiet_filePageItem (s : Database × Cache) (item : FileItem) (hitem : item.file ∈ list) :
    PruneTarget.file.stamps.Quiet (FileListed list) s (filePageItem s item).2 := by
  cases hid : item.file.id with
  | none =>
    rw [filePageItem_unset s item hid]
    exact .refl s
  | some id =>
    have hlisted : FileListed list id := ⟨item.file, hitem, hid⟩
    refine quiet_of_touched (fun k hk hhas => ?_) (filePageItem_touched s item id hid) hlisted hlisted
    have hne := filePageItem_ne s item (k := k) (by rw [hid]; exact fun heq => hk (Option.some.inj heq ▸ hlisted))
    show (s.1.file.lookup k).isSome = true
    rw [← hne]
    exact hhas

theorem quiet_fileWalk (hlists : i.Lists list) :
    PruneTarget.file.stamps.Quiet (FileListed list) (s.db, s.files) (fileWalk s i).store :=
  fileWalker.walkPagesFrom_rel (fun s => .refl s) .trans quiet_filePageItem _ _ _ _ _ hlists.shown

theorem quiet_fileStep (hlists : i.Lists list) (hwrap : s.files.version + 1 < uint64Max) :
    fileStamps.Quiet (FileListed list) s (fileStep s i).2 ∧ (fileStep s i).2.files.version = s.files.version + 1 := by
  have hwalk : PruneTarget.file.stamps.Quiet (FileListed list) (s.db, s.files) (fileWalk s i).store := quiet_fileWalk hlists
  have hversion := version_fileWalk s i
  rcases fileStep_cases s i with ⟨hw, -, hdb, hfiles⟩ | ⟨-, -, hdb, hfiles⟩
  · have hpruned := version_pruned i (fileWalk s i).store
    have hne : (i.pruned (fileWalk s i).store).2.2.1.version + 1 ≠ uint64Max := by
      rw [hpruned, hversion]
      exact Nat.ne_of_lt hwrap
    refine ⟨?_, by rw [hfiles, Cache.version_cacheNextVersion _ hne, hpruned, hversion]⟩
    show PruneTarget.file.stamps.Quiet _ _ ((fileStep s i).2.db, (fileStep s i).2.files)
    rw [hdb, hfiles]
    exact (hwalk.trans (quiet_bxPruneItems (t := .file) _ _ _)).trans (quiet_cacheNextVersion hne)
  · have hne : (fileWalk s i).store.2.version + 1 ≠ uint64Max := by
      rw [hversion]
      exact Nat.ne_of_lt hwrap
    refine ⟨?_, by rw [hfiles, Cache.version_cacheNextVersion _ hne, hversion]⟩
    show PruneTarget.file.stamps.Quiet _ _ ((fileStep s i).2.db, (fileStep s i).2.files)
    rw [hdb, hfiles]
    exact hwalk.trans (quiet_cacheNextVersion hne)

theorem aged_hydrateFiles (db : Database) : fileStamps.Aged (FileListed list) 0 (hydrateFiles db) := by
  refine aged_zero (t := .file) fun id _ hhas => ?_
  obtain ⟨checksum, hrow⟩ := Option.isSome_iff_exists.mp hhas
  exact (Cache.carries_bxCacheHydrate (nodup_checksumRows db.file) ((lookup_checksumRows db.file id).trans hrow)).live

/-- What iterations against a fixed list preserve: the listed files are sound, and the others age. -/
theorem run_fileStep (hdistinct : Distinct (fileRows list)) :
    ∀ (inputs : List FileInput) (s : FileState) (n : Nat), (∀ i ∈ inputs, i.Lists list ∧ 0 < pruneDrift i.drift) →
      s.files.version + inputs.length < uint64Max → fileStamps.Aged (FileListed list) n s →
      SoundOn PruneTarget.file.row (fileRows list) (s.db, s.files) →
      let s' := final fileStep s inputs
      fileStamps.Aged (FileListed list) (n + inputs.length) s' ∧ SoundOn PruneTarget.file.row (fileRows list) (s'.db, s'.files) ∧
        s'.files.version = s.files.version + inputs.length
  | [], _, _, _, _, haged, hsound => ⟨haged, hsound, rfl⟩
  | i :: inputs, s, n, hinputs, hwrap, haged, hsound => by
    obtain ⟨⟨hlists, hdrift⟩, hrest⟩ := List.forall_mem_cons.mp hinputs
    rw [List.length_cons] at hwrap ⊢
    obtain ⟨hquiet, hversion⟩ := quiet_fileStep (s := s) hlists (by omega)
    obtain ⟨haged', hsound', hversion'⟩ := run_fileStep hdistinct inputs (fileStep s i).2 (n + 1) hrest (by omega)
      (haged.step hquiet hversion) (soundOn_fileStep hdistinct hlists hdrift (by omega) hsound)
    rw [Nat.add_comm inputs.length, ← Nat.add_assoc]
    exact ⟨haged', hsound', by rw [final, hversion', hversion, Nat.add_assoc]⟩

/-- Against a list that stays as it is the file table becomes that list, from any table and whatever failed before:
    an iteration without an error whose statements succeed is enough once as many as the drift have passed. -/
theorem files_converge (list : List BXFileMeta) (hdistinct : Distinct (fileRows list)) (db : Database)
    (inputs : List FileInput) (last : FileInput) (hlists : ∀ i ∈ inputs ++ [last], i.Lists list)
    (hdrifts : ∀ i ∈ inputs ++ [last], 0 < pruneDrift i.drift) (hwrap : inputs.length + 1 < uint64Max)
    (hpassed : pruneDrift last.drift ≤ inputs.length) (hstores : last.Stores)
    (herror : (fileStep (final fileStep (hydrateFiles db) inputs) last).1.error = .noError) (id : Nat) :
    (final fileStep (hydrateFiles db) (inputs ++ [last])).db.file.lookup id = (fileRows list).lookup id := by
  obtain ⟨hinputs, hlast⟩ := List.forall_mem_append.mp hlists
  obtain ⟨hdrifts, hdrift⟩ := List.forall_mem_append.mp hdrifts
  obtain ⟨haged, hsound, hversion⟩ := run_fileStep hdistinct inputs (hydrateFiles db) 0 (fun i hi => ⟨hinputs i hi, hdrifts i hi⟩)
    (by rw [show (hydrateFiles db).files.version = 1 from Cache.version_bxCacheHydrate _ _]; omega) (aged_hydrateFiles db) (soundOn_hydrate (nodup_checksumRows db.file) (lookup_checksumRows db.file) _)
  rw [Nat.zero_add] at haged
  rw [final_append]
  generalize final fileStep (hydrateFiles db) inputs = s at *
  have hlast := hlast last List.mem_cons_self
  have hdrift := hdrift last List.mem_cons_self
  rcases fileStep_cases s last with ⟨hw, hpruned, hdb, hfiles⟩ | ⟨hw, hfailed, -⟩
  · have hwalk : PruneTarget.file.stamps.Quiet (FileListed list) (s.db, s.files) (fileWalk s last).store := quiet_fileWalk hlast
    have haged : PruneTarget.file.stamps.Aged (FileListed list) inputs.length (s.db, s.files) := haged
    have hold := haged.step hwalk (k := 0) (version_fileWalk s last)
    have hsweep := sweeps_bxPruneItems (t := .file) (hpruned.symm.trans herror)
    show (fileStep s last).2.db.file.lookup id = _
    by_cases hid : ∃ checksum, (id, checksum) ∈ fileRows list
    · obtain ⟨checksum, hmem⟩ := hid
      have hstored := fileWalk_stores hdistinct hlast hstores hw hsound _ hmem
      have hkept := (prune_keeps .file last.prune.prepared last.prune.deletes (fileWalk s last).store.1
        fun hdue => fresh_fileWalk hlast hw _ hmem (Cache.stale_of_mem_cacheIterAll hdrift hdue)).1
      rw [hdistinct.lookup hmem, hdb]
      exact hkept.trans hstored
    · have hnone : (fileRows list).lookup id = none :=
        List.lookup_eq_none_iff.mpr fun row hrow => bne_iff_ne.mpr fun heq : id = row.1 => hid ⟨row.2, by rwa [heq]⟩
      rw [hnone, ← Option.not_isSome_iff_eq_none]
      intro hhas
      rw [hdb] at hhas
      obtain ⟨file, hfile, hfileId⟩ := hold.swept (quiet_bxPruneItems (t := .file) _ _ _) hsweep hpassed id hhas
      exact hid ⟨_, mem_servedRows hfile hfileId⟩
  · exact absurd (hfailed.symm.trans herror) hw

end

/-! ### A file table

    File 1 changed and file 2 is gone. One iteration gets no answer, one is complete. -/

def staleFiles : Database := { Database.empty with file := AList.insert 1 7 (AList.insert 2 5 ∅) }

def changedFile : FileItem := { file := { id := some 1, checksum := 9 }, answers := .quiet }

def unansweredWalk : FileInput := { connected := true, pages := [], drift := 1, prune := ⟨true, []⟩ }

def completeWalk : FileInput :=
  { connected := true, pages := [savedPage [changedFile], savedPage []], drift := 1, prune := ⟨true, [.ran false false]⟩ }

theorem files_converge_changed :
    (final fileStep (hydrateFiles staleFiles) [unansweredWalk, completeWalk]).db.file.lookup 1 = some 9 := by
  have hlists : ∀ i ∈ [unansweredWalk, completeWalk], i.Lists [changedFile.file] := by
    refine List.forall_mem_cons.mpr ⟨fun n reply rows hreply => ?_, List.forall_mem_singleton.mpr fun n reply rows hreply hrows => ?_⟩
    · simp [unansweredWalk] at hreply
    · rcases n with _ | _ | n
      · cases hreply
        cases hrows
        rfl
      · cases hreply
        cases hrows
        rfl
      · simp [completeWalk] at hreply
  have hstores : completeWalk.Stores := List.forall_mem_singleton.mpr ⟨rfl, false, rfl⟩
  exact files_converge [changedFile.file] (List.nodup_singleton _) staleFiles [unansweredWalk] completeWalk hlists (by decide)
    (by decide) (by decide) hstores (by decide) 1

end BxSync
