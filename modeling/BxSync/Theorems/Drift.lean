import BxSync.Lib.Machine
import BxSync.Theorems.CacheWalk
import BxSync.Theorems.Frame

/-! What a drift counts. The version of a cache goes up with every attempt to walk its list, a failed one
    too, so the difference of the version and `lastSeen` bounds the attempts since an id was last handed
    over. -/

namespace BxSync

open Machine

/-! ### The property -/

/-- The ids handed to DELETE. -/
def deletedIds (log : List Event) : List Nat := log.flatMap fun
  | .deleted id => [id]
  | _ => []

@[simp] theorem deletedIds_nil : deletedIds [] = [] := rfl
@[simp] theorem deletedIds_deleted (id : Nat) (log : List Event) : deletedIds (.deleted id :: log) = id :: deletedIds log := rfl

/-- What the calls of one thread did for the list of one resource. -/
structure ListCalls (ο : Type) where
  /-- The call tried to walk the list. -/
  attempted : ο → Bool
  /-- Its walk started at the first page and returned NoError. -/
  complete : ο → Bool
  handed : ο → List Nat
  deleted : ο → List Nat
  drift : ο → Nat

namespace ListCalls

variable {ο : Type} (v : ListCalls ο)

/-- The calls since the id was last handed over, the latest first. -/
def since (id : Nat) (calls : List ο) : List ο := calls.reverse.takeWhile fun call => id ∉ v.handed call

/-- A DELETE follows a complete walk, and at least as many counted calls as the drift since the id was last
    handed over. -/
def DriftSafeAt (counted : ο → Bool) (before : List ο) (call : ο) : Prop :=
  ∀ id ∈ v.deleted call, v.complete call ∧ v.drift call ≤ (v.since id (before ++ [call])).countP counted

def DriftSafe (counted : ο → Bool) (calls : List ο) : Prop :=
  ∀ before call after, calls = before ++ call :: after → v.DriftSafeAt counted before call

theorem since_append (id : Nat) (calls : List ο) (call : ο) :
    v.since id (calls ++ [call]) = if id ∈ v.handed call then [] else call :: v.since id calls := by
  unfold since
  rw [List.reverse_append, List.reverse_singleton, List.singleton_append, List.takeWhile_cons]
  split_ifs <;> simp_all

end ListCalls

/-- The project list in `chain_thread`. -/
def projectCalls : ListCalls ChainCall where
  attempted call := call.input.sync.connected && call.pre.cursors.memory.phase = .project
  complete call := call.pre.cursors.memory = ⟨.project, 0⟩ && .walked .project ∈ call.out.log
  handed call := if call.pre.cursors.memory.phase = .project then handedIds call.out.log else []
  deleted call := deletedIds call.prunes.projectLog
  drift call := pruneDrift call.input.drift

/-- The file list in `file_thread`. -/
def fileCalls : ListCalls FileCall where
  attempted _ := true
  complete call := call.walk.error = .noError
  handed call := handedIds call.walk.log
  deleted call := deletedIds call.log
  drift call := pruneDrift call.input.drift

/-! ### The prune -/

/-- A prune takes live items away and adds none. -/
structure Cache.Pruned (c c' : Cache) : Prop where
  version : c'.version = c.version
  live : ∀ k item, c'.entry k = some item → 0 < item.lastSeen → c.entry k = some item

/-- The id is live and was last seen at least `drift` versions ago. -/
def Cache.Prunable (c : Cache) (drift id : Nat) : Prop :=
  drift < c.version ∧ ∃ item, c.entry id = some item ∧ 0 < item.lastSeen ∧ item.lastSeen ≤ c.version - drift

namespace Cache

variable {c c' c'' : Cache}

theorem Pruned.refl (c : Cache) : Pruned c c := ⟨rfl, fun _ _ h _ => h⟩

theorem Pruned.trans (h : Pruned c c') (h' : Pruned c' c'') : Pruned c c'' where
  version := h'.version.trans h.version
  live k item hk hpos := h.live k item (h'.live k item hk hpos) hpos

theorem Pruned.prunable (h : Pruned c c') {drift id : Nat} (hp : c'.Prunable drift id) : c.Prunable drift id := by
  obtain ⟨hlt, item, hentry, hpos, hle⟩ := hp
  rw [h.version] at hlt hle
  exact ⟨hlt, item, h.live id item hentry hpos, hpos, hle⟩

theorem pruned_cacheTombstone (c : Cache) (id : Nat) : Pruned c (cacheTombstone c id) where
  version := version_cacheTombstone c id
  live k item hk hpos := by
    rw [entry_cacheTombstone] at hk
    split at hk
    · obtain ⟨old, -, rfl⟩ := Option.map_eq_some_iff.mp hk
      exact absurd hpos (lt_irrefl 0)
    · exact hk

theorem pruned_cachePrune (c : Cache) : Pruned c (cachePrune c) where
  version := rfl
  live k item hk _ := by
    rw [entry_cachePrune] at hk
    exact (Option.filter_eq_some_iff.mp hk).1

end Cache

section

variable (delete : Delete) (drift : Nat)

theorem pruned_pruneLoop (execs : List Exec) (iter : CacheIter) (db : Database) (c : Cache) :
    Cache.Pruned c (pruneLoop delete drift execs iter db c).2.2.1 := by
  fun_induction pruneLoop delete drift execs iter db c
  case case1 => exact Cache.pruned_cachePrune _
  case case2 | case3 => exact .refl _
  case case4 ih => exact (Cache.pruned_cacheTombstone _ _).trans ih

theorem pruneLoop_deleted (execs : List Exec) (iter : CacheIter) (db : Database) (c : Cache) (hv : iter.version = c.version) :
    ∀ id ∈ deletedIds (pruneLoop delete drift execs iter db c).2.2.2, c.Prunable drift id := by
  revert hv
  have yielded : ∀ {c : Cache} {iter next : CacheIter} {id : Nat}, cacheIterNextPrunableId c iter drift = (some id, next) →
      iter.version = c.version → c.Prunable drift id ∧ next.version = c.version := by
    intro c iter next id hnext hv
    obtain ⟨hlt, hnv, j, item, hj, hid, ⟨hpos, hle⟩, -⟩ := cacheIterNextPrunableId_some hnext
    rw [hv] at hlt hle
    exact ⟨⟨hlt, item, c.entry_eq_some.mpr ⟨List.mem_of_getElem? hj, hid⟩, hpos, hle⟩, hnv.trans hv⟩
  fun_induction pruneLoop delete drift execs iter db c
  case case1 => simp
  case case2 hnext =>
    intro hv id hid
    obtain rfl : id = _ := by simpa using hid
    exact (yielded hnext hv).1
  case case3 hnext _ _ _ =>
    intro hv id hid
    obtain rfl : id = _ := by simpa using hid
    exact (yielded hnext hv).1
  case case4 c id _ _ _ hnext _ _ _ others ih =>
    intro hv id' hid
    obtain ⟨hp, hnv⟩ := yielded hnext hv
    have hpruned := Cache.pruned_cacheTombstone c id
    rcases List.mem_cons.mp hid with rfl | hid
    · exact hp
    · exact hpruned.prunable (ih (hnv.trans hpruned.version.symm) id' hid)

theorem pruned_bxPruneItems (prepared : Bool) (conf : Int) (execs : List Exec) (db : Database) (c : Cache) :
    Cache.Pruned c (bxPruneItems delete prepared conf execs db c).2.2.1 := by
  unfold bxPruneItems
  split
  · exact pruned_pruneLoop delete _ _ _ _ _
  · exact .refl _

theorem bxPruneItems_deleted (prepared : Bool) (conf : Int) (execs : List Exec) (db : Database) (c : Cache) :
    ∀ id ∈ deletedIds (bxPruneItems delete prepared conf execs db c).2.2.2, c.Prunable (pruneDrift conf) id := by
  unfold bxPruneItems
  split
  · exact pruneLoop_deleted delete _ _ _ _ _ rfl
  · exact fun id hid => nomatch hid

end

/-! ### One call -/

/-- A call walks, prunes and bumps: a walk keeps the cache and leaves fresh what it handed over, what is
    deleted was prunable after a complete walk, and an attempt ends with a bump. -/
structure ListCalls.Drifts {ο : Type} (v : ListCalls ο) (call : ο) (pre walked left post : Cache) : Prop where
  kept : Cache.Kept pre walked
  fresh : ∀ id ∈ v.handed call, ¬walked.Stale id
  pruned : Cache.Pruned walked left
  deleted : ∀ id ∈ v.deleted call, v.complete call ∧ v.attempted call ∧ walked.Prunable (v.drift call) id
  bumped : post = if v.attempted call then cacheNextVersion left else left

/-- The version is ahead of a live item by the attempts since it was handed over, and by the bump of the
    call that handed it over. -/
def ListCalls.Bounded {ο : Type} (v : ListCalls ο) (calls : List ο) (c : Cache) : Prop :=
  ∀ id item, c.entry id = some item → 0 < item.lastSeen →
    c.version ≤ item.lastSeen + 1 + (v.since id calls).countP v.attempted

namespace ListCalls

variable {ο : Type} {v : ListCalls ο} {calls : List ο} {call : ο} {pre walked left post : Cache}

theorem Drifts.safe (h : v.Drifts call pre walked left post) (hb : v.Bounded calls pre) :
    v.DriftSafeAt v.attempted calls call := by
  intro id hid
  obtain ⟨hcomplete, hattempted, hlt, item, hentry, hpos, hle⟩ := h.deleted id hid
  refine ⟨hcomplete, ?_⟩
  rw [v.since_append]
  rcases Nat.eq_zero_or_pos (v.drift call) with hz | hd
  · omega
  · rw [if_neg fun hhanded => h.fresh id hhanded ⟨item, hentry, hpos, by omega⟩, List.countP_cons_of_pos hattempted]
    have hversion := h.kept.version
    rcases h.kept.seen id item hentry with hseen | ⟨old, hold, hseen⟩
    · omega
    · have := hb id old hold (by omega)
      omega

theorem Drifts.bounded (h : v.Drifts call pre walked left post) (hb : v.Bounded calls pre) :
    v.Bounded (calls ++ [call]) post := by
  have hbefore : ∀ id item, left.entry id = some item → 0 < item.lastSeen →
      left.version + (if v.attempted call then 1 else 0) ≤
        item.lastSeen + 1 + (v.since id (calls ++ [call])).countP v.attempted := by
    intro id item hentry hpos
    have hwalked := h.pruned.live id item hentry hpos
    have hversion := h.pruned.version.trans h.kept.version
    have hone : (if v.attempted call then 1 else 0) ≤ 1 := by split_ifs <;> omega
    rcases h.kept.seen id item hwalked with hseen | ⟨old, hold, hseen⟩
    · omega
    · rw [v.since_append]
      by_cases hhanded : id ∈ v.handed call
      · have hle : walked.version ≤ item.lastSeen := by
          by_contra hlt
          exact h.fresh id hhanded ⟨item, hwalked, hpos, by omega⟩
        have := h.pruned.version
        omega
      · rw [if_neg hhanded, List.countP_cons]
        have := hb id old hold (by omega)
        omega
  rw [h.bumped]
  intro id item hentry hpos
  split at hentry
  · rename_i hattempted
    rw [if_pos hattempted]
    by_cases hwrap : left.version + 1 = uint64Max
    · -- At the wrap every item counts as seen.
      rw [Cache.cacheNextVersion_wrap _ hwrap] at hentry ⊢
      show 1 ≤ _
      omega
    · rw [Cache.entry_cacheNextVersion _ hwrap] at hentry
      rw [Cache.version_cacheNextVersion _ hwrap]
      simpa [hattempted] using hbefore id item hentry hpos
  · rename_i hattempted
    rw [if_neg hattempted]
    simpa [hattempted] using hbefore id item hentry hpos

/-- In a run whose calls all drift so, every DELETE is safe. -/
theorem driftSafe_of_drifts {σ ι : Type} (step : σ → ι → ο × σ) (cache : σ → Cache)
    (hstep : ∀ s i, ∃ walked left, v.Drifts (step s i).1 (cache s) walked left (cache (step s i).2)) {s : σ}
    (h0 : v.Bounded [] (cache s)) (inputs : List ι) : v.DriftSafe v.attempted (outputs step s inputs) := by
  intro before call after heq
  refine run_safe step (I := fun calls s => v.Bounded calls (cache s)) (C := fun _ => True) h0 ?_ (fun _ _ => trivial) heq
  intro calls s i hb _
  obtain ⟨walked, left, h⟩ := hstep s i
  exact ⟨h.safe hb, h.bounded hb⟩

end ListCalls

theorem bounded_bxCacheHydrate {ο : Type} (v : ListCalls ο) (rows : List (Nat × Nat)) :
    v.Bounded [] (bxCacheHydrate rows cacheCreate) := by
  have hversion : ∀ c : Cache, (bxCacheHydrate rows c).version = c.version := by
    unfold bxCacheHydrate
    induction rows with
    | nil => exact fun _ => rfl
    | cons row rows ih => exact fun c => (ih _).trans (Cache.version_cacheSetItem c row.1 row.2)
  intro id item _ hpos
  rw [hversion]
  show 1 ≤ _
  omega

/-! ### The project list -/

theorem pruneProjects_drifts (i : ChainStepInput) (flag : Bool) (p : PruneState) (hlog : p.projectLog = []) :
    Cache.Pruned p.state.projects (pruneProjects i flag p).state.projects ∧
      ∀ id ∈ deletedIds (pruneProjects i flag p).projectLog,
        flag = true ∧ p.state.projects.Prunable (pruneDrift i.drift) id := by
  unfold pruneProjects
  split
  · rename_i h
    exact ⟨pruned_bxPruneItems _ _ _ _ _ _, fun id hid => ⟨h.2, bxPruneItems_deleted _ _ _ _ _ _ id hid⟩⟩
  · exact ⟨.refl _, fun id hid => by rw [hlog] at hid; exact nomatch hid⟩

/-- The prunes of an iteration, read for projects. -/
theorem pruneStep_drifts (i : ChainStepInput) (out : ChainOut) :
    Cache.Pruned out.state.projects (pruneStep i out).state.projects ∧
      ∀ id ∈ deletedIds (pruneStep i out).projectLog,
        out.result.pruneProject = true ∧ out.state.projects.Prunable (pruneDrift i.drift) id := by
  have hcontacts : ∀ flag p, (pruneContacts i flag p).state.projects = p.state.projects ∧
      (pruneContacts i flag p).projectLog = p.projectLog := by
    intro flag p
    unfold pruneContacts
    split <;> exact ⟨rfl, rfl⟩
  have hinvoices : ∀ flag p, (pruneInvoices i flag p).state.projects = p.state.projects ∧
      (pruneInvoices i flag p).projectLog = p.projectLog := by
    intro flag p
    unfold pruneInvoices
    split <;> exact ⟨rfl, rfl⟩
  unfold pruneStep
  rw [(hinvoices _ _).1, (hinvoices _ _).2]
  have := pruneProjects_drifts i out.result.pruneProject
    (pruneContacts i out.result.pruneContact
      { error := out.result.error
        state := out.state
        called := []
        contactLog := []
        projectLog := []
        invoiceLog := [] }) (hcontacts _ _).2
  rwa [(hcontacts _ _).1] at this

theorem syncProject_bump (s : ChainState) (i : ChainInput) : (syncProject s i).result.bumpProject = true := by
  unfold syncProject
  dsimp only
  split <;> rfl

theorem syncProject_projects (s : ChainState) (i : ChainInput) :
    (syncProject s i).state.projects = (walkProjects s i).store.2 := by
  unfold syncProject
  dsimp only
  split <;> rfl

theorem handedIds_syncProject (s : ChainState) (i : ChainInput) :
    handedIds (syncProject s i).log = handedIds (walkProjects s i).log := by
  unfold syncProject
  dsimp only
  split
  · rfl
  · simp [finishResource]

theorem syncProject_prune {s : ChainState} {i : ChainInput} (h : (syncProject s i).result.pruneProject = true) :
    s.cursors.memory.offset = 0 ∧ .walked .project ∈ (syncProject s i).log := by
  unfold syncProject at h ⊢
  dsimp only at h ⊢
  split at h
  · exact nomatch h
  · rename_i hw
    rw [if_neg hw]
    refine ⟨(of_decide_eq_true h).2, List.mem_append_left _ ?_⟩
    exact Walker.walked_mem (projectWalker (onValidatedPage .project)) _ _ _ _ (not_not.mp hw)

theorem drifts_chainStep (s : ChainState) (i : ChainStepInput) :
    ∃ walked left, projectCalls.Drifts (chainStep s i).1 s.projects walked left (chainStep s i).2.projects := by
  by_cases hphase : i.sync.connected = true ∧ s.cursors.memory.phase = .project
  · obtain ⟨hconn, hphase⟩ := hphase
    have hsync := bxChainSync_project hconn hphase
    have hout : (chainStep s i).1.out = syncProject s i.sync := hsync
    obtain ⟨hpruned, hdeleted⟩ := pruneStep_drifts i (syncProject s i.sync)
    have hattempted : projectCalls.attempted (chainStep s i).1 = true := by
      show (i.sync.connected && decide (s.cursors.memory.phase = .project)) = true
      rw [hconn, hphase]
      rfl
    refine ⟨(syncProject s i.sync).state.projects, (pruneStep i (syncProject s i.sync)).state.projects, ?_, ?_, hpruned, ?_, ?_⟩
    · rw [syncProject_projects]
      exact kept_walkProjects s i.sync
    · have hhanded : projectCalls.handed (chainStep s i).1 = handedIds (walkProjects s i.sync).log := by
        rw [← handedIds_syncProject, ← hout]
        exact if_pos hphase
      rw [hhanded, syncProject_projects]
      exact (touchesCache_projectWalker _).fresh_handed _ _ _ (s.db, s.projects) _
    · intro id hid
      have hid' : id ∈ deletedIds (pruneStep i (syncProject s i.sync)).projectLog := by
        rw [← hsync]
        exact hid
      obtain ⟨hprune, hprunable⟩ := hdeleted id hid'
      obtain ⟨hoffset, hwalked⟩ := syncProject_prune hprune
      refine ⟨?_, hattempted, hprunable⟩
      have hmemory : (chainStep s i).1.pre.cursors.memory = ⟨.project, 0⟩ := by
        show s.cursors.memory = _
        rw [← hphase, ← hoffset]
      simp [projectCalls, hmemory, hout, hwalked]
    · rw [if_pos hattempted]
      unfold chainStep bumpStep
      dsimp only
      rw [hsync, syncProject_bump, if_pos rfl]
  · have hne : i.sync.connected = true → s.cursors.memory.phase.resource ≠ .project := by
      intro hconn hres
      refine hphase ⟨hconn, ?_⟩
      cases hp : s.cursors.memory.phase with
      | project => rfl
      | contactActive | contactArchived | invoiceList | invoiceMissed =>
        rw [hp] at hres
        exact nomatch hres
    have hf := frame_bxChainSync s i.sync .project hne
    have hcache : (chainStep s i).2.projects = s.projects := (chainStep_frame s i .project hne).1
    refine ⟨s.projects, s.projects, .refl _, ?_, .refl _, ?_, ?_⟩
    · intro id hid
      have hnone : projectCalls.handed (chainStep s i).1 = [] := by
        by_cases hp : s.cursors.memory.phase = .project
        · have hconn : i.sync.connected = false := Bool.eq_false_iff.mpr fun hconn => hphase ⟨hconn, hp⟩
          have hlog : (chainStep s i).1.out.log = [] := congrArg ChainOut.log (bxChainSync_disconnected hconn)
          show (if _ then handedIds (chainStep s i).1.out.log else []) = []
          rw [hlog]
          exact ite_self _
        · exact if_neg hp
      rw [hnone] at hid
      exact nomatch hid
    · intro id hid
      have := ((pruneStep_drifts i (bxChainSync s i.sync)).2 id hid).1
      rw [show (bxChainSync s i.sync).result.pruneProject = false from hf.prune] at this
      exact nomatch this
    · rw [hcache]
      refine (if_neg fun hattempted => hphase ?_).symm
      obtain ⟨hconn, hp⟩ := (Bool.and_eq_true _ _).mp hattempted
      exact ⟨hconn, of_decide_eq_true hp⟩

/-- In every run of `chain_thread` from any row a project is deleted only after at least as many attempts to
    walk the list as the drift since it was last handed over. -/
theorem projectDrift_safe (db : Database) (contacts invoices : Cache) (rows : List (Nat × Nat)) (row : BXChainCursor)
    (inputs : List ChainStepInput) :
    projectCalls.DriftSafe projectCalls.attempted
      (outputs chainStep (bxChainInit db contacts (bxCacheHydrate rows cacheCreate) invoices row) inputs) :=
  ListCalls.driftSafe_of_drifts chainStep ChainState.projects drifts_chainStep (bounded_bxCacheHydrate _ rows) inputs

/-! ### The file list -/

theorem drifts_fileStep (s : FileState) (i : FileInput) :
    ∃ walked left, fileCalls.Drifts (fileStep s i).1 s.files walked left (fileStep s i).2.files := by
  have hkept := (touchesCache_fileWalker).kept_walk i.connected i.pages 0 (s.db, s.files) ()
  have hfresh := (touchesCache_fileWalker).fresh_handed i.connected i.pages 0 (s.db, s.files) ()
  unfold fileStep
  dsimp only
  split
  · rename_i hw
    refine ⟨_, _, hkept, hfresh, pruned_bxPruneItems Database.deleteFile i.prune.prepared i.drift i.prune.deletes _ _, ?_, rfl⟩
    intro id hid
    exact ⟨decide_eq_true hw, rfl, bxPruneItems_deleted _ _ _ _ _ _ id hid⟩
  · exact ⟨_, _, hkept, hfresh, .refl _, fun id hid => (nomatch hid), rfl⟩

/-- The same for files in `file_thread`, whose walks all start at the first page. -/
theorem fileDrift_safe (db : Database) (rows : List (Nat × Nat)) (inputs : List FileInput) :
    fileCalls.DriftSafe fileCalls.attempted
      (outputs fileStep { db, files := bxCacheHydrate rows cacheCreate } inputs) :=
  ListCalls.driftSafe_of_drifts fileStep FileState.files drifts_fileStep (bounded_bxCacheHydrate _ rows) inputs

/-- Every attempt to walk the list of projects or files counts, and only the last must be complete. -/
theorem drift_safe (db : Database) (contacts invoices : Cache) (rows : List (Nat × Nat)) (row : BXChainCursor)
    (inputs : List ChainStepInput) (fileInputs : List FileInput) :
    projectCalls.DriftSafe projectCalls.attempted
        (outputs chainStep (bxChainInit db contacts (bxCacheHydrate rows cacheCreate) invoices row) inputs) ∧
      fileCalls.DriftSafe fileCalls.attempted
        (outputs fileStep { db, files := bxCacheHydrate rows cacheCreate } fileInputs) :=
  ⟨projectDrift_safe db contacts invoices rows row inputs, fileDrift_safe db rows fileInputs⟩

/-! ### A run

    File 1 was hydrated. -/

def fileStart : FileState := { db := .empty, files := bxCacheHydrate [(1, 7)] cacheCreate }

def fileAnswers (pages : List (Option (PageReply FileItem))) : FileInput where
  connected := true
  pages := pages
  drift := 2
  prune := ⟨true, [.ran false false]⟩

def afterFailedWalks : FileState := final fileStep fileStart [fileAnswers [], fileAnswers []]

/-- Two walks without an answer and one complete walk are enough for a drift of 2. -/
theorem fileDrift_failedWalks :
    ¬fileCalls.DriftSafe fileCalls.complete
      (outputs fileStep fileStart [fileAnswers [], fileAnswers [], fileAnswers [savedPage []]]) := by
  intro h
  have hdelete := h (outputs fileStep fileStart [fileAnswers [], fileAnswers []])
    (fileStep afterFailedWalks (fileAnswers [savedPage []])).1 [] rfl 1 (by decide)
  exact absurd hdelete.2 (by decide)

end BxSync
