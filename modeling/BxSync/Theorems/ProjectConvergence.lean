import BxSync.Theorems.Convergence

/-! The projects of the chain against a list that stays as it is. A project is stored only if its contact is, so the
    table becomes the part of the list whose contacts are stored. -/

namespace BxSync

open Machine Aging

/-! ### One project -/

section

variable {α : Type} {t : Table Nat α} {id : Nat} {row : α} {exec : Exec} {state : CacheState} {orphan : Bool}

/-- A statement of an id without a failure or a warning writes its row, when the UPDATE of a known id finds one. -/
theorem persistRow_ok (hok : bxDatabasePersistOk (persistRow t exec state (some id) row orphan).1 = true)
    (hknown : state ≠ .cacheNotSet → (t.lookup id).isSome) :
    (persistRow t exec state (some id) row orphan).2.lookup id = some row := by
  have hinsert : (t.insert id row).lookup id = some row := AList.lookup_insert t
  cases hstmt : (persistRow t exec state (some id) row orphan).1 with
  | failed =>
    rw [hstmt] at hok
    cases hok
  | done warned =>
    rw [hstmt] at hok
    obtain ⟨fk, cv, heffect⟩ := Exec.run_done hstmt
    change _ = (some warned, (persistRow t exec state (some id) row orphan).2) at heffect
    obtain rfl : warned = false := by
      cases warned
      · rfl
      · cases hok
    revert heffect
    generalize (persistRow t exec state (some id) row orphan).2 = t'
    intro heffect
    unfold insertIgnoreId Table.insertIgnore Table.update at heffect
    dsimp only [Option.getD] at heffect
    split_ifs at heffect with hstate hdropped hrow hrefused
    · cases heffect
    · rw [← (Prod.mk.inj heffect).2]
      exact hinsert
    · cases heffect
    · rw [← (Prod.mk.inj heffect).2]
      exact hinsert
    · exact absurd (hknown hstate) hrow

variable (t id row state) in
/-- A statement that is answered writes the row of an id whose parents are stored, if none is there for an INSERT
    and one is for an UPDATE. -/
theorem persistRow_ran (cv : Bool) (hnew : state = .cacheNotSet → t.lookup id = none)
    (hknown : state ≠ .cacheNotSet → (t.lookup id).isSome) :
    (persistRow t (.ran false cv) state (some id) row false).2.lookup id = some row := by
  have hinsert : (t.insert id row).lookup id = some row := AList.lookup_insert t
  unfold persistRow insertIgnoreId Table.insertIgnore Table.update
  by_cases hstate : state = .cacheNotSet
  · simp [Exec.run, hstate, hnew hstate]
  · simp [Exec.run, hstate, hknown hstate]

end

theorem executeRequest_eq (state : CacheState) (db : Database) (item : ProjectItem) :
    (executeRequest state db item).2 =
      { db with project := (persistRow db.project item.answers.persist state item.project.id
          ⟨item.project.checksum, item.project.contactId⟩ (db.contact.lookup (item.project.contactId.getD 0)).isNone).2 } := by
  unfold executeRequest persistRow
  dsimp only
  split <;> rfl

theorem executeRequest_ok {state : CacheState} {db : Database} {item : ProjectItem} (h : (executeRequest state db item).1 = .noError) :
    bxDatabasePersistOk (persistRow db.project item.answers.persist state item.project.id
      ⟨item.project.checksum, item.project.contactId⟩ (db.contact.lookup (item.project.contactId.getD 0)).isNone).1 = true := by
  revert h
  unfold executeRequest persistRow
  dsimp only
  split
  · rename_i heq
    intro h
    exact absurd h (bxDatabaseQueryError_ne _)
  · rename_i warned heq
    rw [heq]
    cases warned
    · exact fun _ => rfl
    · intro h
      cases h

/-- The row of a project after its statement: the one of the project, or the one before it with an error. -/
theorem executeRequest_row (state : CacheState) (db : Database) {item : ProjectItem} {id : Nat} (hid : item.project.id = some id)
    (hknown : state ≠ .cacheNotSet → (db.project.lookup id).isSome) :
    (PruneTarget.resource .project).row (executeRequest state db item).2 id = some item.project.checksum ∨
      ((PruneTarget.resource .project).row (executeRequest state db item).2 id = (PruneTarget.resource .project).row db id ∧
        (executeRequest state db item).1 ≠ .noError) := by
  simp only [row_project]
  by_cases herror : (executeRequest state db item).1 = .noError
  · have hok := executeRequest_ok herror
    rw [hid] at hok
    left
    rw [executeRequest_eq, hid]
    exact congrArg (Option.map ProjectRow.checksum) (persistRow_ok hok hknown)
  · rw [executeRequest_eq, hid]
    rcases persistRow_cases db.project item.answers.persist state (some id) ⟨item.project.checksum, item.project.contactId⟩
      (db.contact.lookup (item.project.contactId.getD 0)).isNone with hkept | hwritten
    · right
      rw [hkept]
      exact ⟨rfl, herror⟩
    · left
      rw [hwritten, Option.getD_some, AList.lookup_insert]
      rfl

theorem rowSync_project (s : Database × Cache) (item : ProjectItem) {id : Nat} (hid : item.project.id = some id) :
    RowSync (PruneTarget.resource .project).row id item.project.checksum s (projectPageItem s item).2 where
  rows k hk := by
    obtain ⟨rows, hdb, hne⟩ := bxProjectSyncItem_frame s.1 s.2 item
    rw [hid] at hne
    show Option.map _ ((bxProjectSyncItem s.1 s.2 item).2.1.project.lookup k) = _
    rw [hdb]
    exact congrArg (Option.map ProjectRow.checksum) (hne k hk)
  entries k hk := by
    have htouched := projectPageItem_touched s item
    rw [hid] at htouched
    exact htouched.entry_ne hk hk
  same h := by
    unfold projectPageItem bxProjectSyncItem
    dsimp only
    rw [hid, Option.getD_some]
    have hrow : (cacheCheckItem s.2 id item.project.checksum).1 ≠ .cacheOk →
        (cacheCheckItem s.2 id item.project.checksum).1 ≠ .cacheNotSet → (s.1.project.lookup id).isSome := by
      intro hok hset
      have hstate : (cacheCheckItem s.2 id item.project.checksum).1 = .cacheNotSync := by
        revert hok hset
        cases (cacheCheckItem s.2 id item.project.checksum).1 <;> decide
      have := h.notSync hstate
      rwa [row_project, Option.isSome_map] at this
    split
    · exact Or.inr ⟨rfl, rfl⟩
    split
    · exact Or.inr ⟨rfl, rfl⟩
    split
    · exact Or.inr ⟨rfl, rfl⟩
    rename_i hok _ _
    have hexecuted := executeRequest_row _ s.1 hid (hrow hok)
    split
    · exact hexecuted.imp_right fun h => ⟨h.1, rfl⟩
    split
    · exact hexecuted.imp_right fun h => ⟨h.1, rfl⟩
    · rename_i herror
      exact Or.inl (hexecuted.resolve_right fun h => herror h.2)

/-- A project whose statements succeed and whose contact is stored is stored. -/
theorem projectPageItem_stores (s : Database × Cache) (item : ProjectItem) {id : Nat} {cv : Bool} (hid : item.project.id = some id)
    (hselect : item.answers.contact = .answered) (hwrite : item.answers.persist = .ran false cv)
    (hcontact : s.1.has .contact (item.project.contactId.getD 0))
    (h : Sound ((PruneTarget.resource .project).row s.1 id) (s.2.entry id) item.project.checksum) :
    (PruneTarget.resource .project).row (projectPageItem s item).2.1 id = some item.project.checksum := by
  have hparent : projectContactPresent s.1 item = (.noError, true) := by
    unfold projectContactPresent bxContactIsInDatabase
    split
    · rfl
    · rw [hselect]
      exact congrArg (Prod.mk BXillError.noError) hcontact
  have horphan : (s.1.contact.lookup (item.project.contactId.getD 0)).isNone = false := by
    rw [Option.isNone_eq_false_iff]
    exact hcontact
  unfold projectPageItem bxProjectSyncItem
  dsimp only
  rw [hid, Option.getD_some, hparent]
  split
  · rename_i hok
    exact h.ok hok
  rename_i hok
  have hstored : (PruneTarget.resource .project).row (executeRequest (cacheCheckItem s.2 id item.project.checksum).1 s.1 item).2 id =
      some item.project.checksum := by
    have hran := fun state => persistRow_ran s.1.project id ⟨item.project.checksum, item.project.contactId⟩ state cv
    cases hstate : (cacheCheckItem s.2 id item.project.checksum).1 with
    | cacheOk => exact absurd hstate hok
    | cacheNotSync =>
      have hknown := h.notSync hstate
      rw [row_project, Option.isSome_map] at hknown
      rw [row_project, executeRequest_eq, hid, hwrite, horphan, hran _ (fun h => by cases h) fun _ => hknown]
      rfl
    | cacheNotSet =>
      rcases h.notSet hstate with hrow | hrow
      · rw [row_project, Option.map_eq_none_iff] at hrow
        rw [row_project, executeRequest_eq, hid, hwrite, horphan, hran _ (fun _ => hrow) fun hne => absurd rfl hne]
        rfl
      · -- The INSERT IGNORE of a row that is there drops it.
        rcases executeRequest_row .cacheNotSet s.1 hid fun hne => absurd rfl hne with hnew | ⟨hkept, -⟩
        · exact hnew
        · rw [hkept, hrow]
  simp only [ne_eq, not_true_eq_false, if_false, Bool.not_true, Bool.false_eq_true]
  split_ifs <;> exact hstored

/-! ### The rows of the other tables -/

/-- A DELETE changes its own table, and the one of projects that of invoices. -/
theorem row_delete_other {d r : Resource} (hne : r ≠ d) (hcascade : d = .project → r ≠ .invoice) (db : Database) (id : Nat)
    (fk cv : Bool) (k : Nat) :
    (PruneTarget.resource r).row ((PruneTarget.resource d).delete db id fk cv).2 k = (PruneTarget.resource r).row db k := by
  cases fk with
  | true => rw [PruneTarget.delete_refused]
  | false =>
    cases d <;> cases r
    all_goals first | exact absurd rfl hne | exact absurd rfl (hcascade rfl) | rfl

theorem row_prune_other {d r : Resource} (hne : r ≠ d) (hcascade : d = .project → r ≠ .invoice) (prepared : Bool) (conf : Int)
    (deletes : List Exec) (db : Database) (c : Cache) (k : Nat) :
    (PruneTarget.resource r).row (bxPruneItems d.delete prepared conf deletes db c).2.1 k = (PruneTarget.resource r).row db k := by
  have hids : ∀ ids execs db, (PruneTarget.resource r).row (deleteIds d.delete ids execs db).2 k = (PruneTarget.resource r).row db k := by
    intro ids execs db
    fun_induction deleteIds d.delete ids execs db
    case case1 | case2 => rfl
    case case3 id ids exec rest db needReconnect db' hrun =>
      rw [show db' = (exec.run db (d.delete db id)).2 from (congrArg Prod.snd hrun).symm]
      exact exec.run_table (Q := fun db' => (PruneTarget.resource r).row db' k = (PruneTarget.resource r).row db k) rfl
        fun fk cv => row_delete_other hne hcascade db id fk cv k
    case case4 id ids exec rest db warned db' hrun others ih =>
      rw [ih, show db' = (exec.run db (d.delete db id)).2 from (congrArg Prod.snd hrun).symm]
      exact exec.run_table (Q := fun db' => (PruneTarget.resource r).row db' k = (PruneTarget.resource r).row db k) rfl
        fun fk cv => row_delete_other hne hcascade db id fk cv k
  unfold bxPruneItems
  split
  · obtain ⟨-, -, hdb, -⟩ := pruneLoop_eq d.delete (pruneDrift conf) deletes (cacheIterInit c) db c
    rw [hdb]
    exact hids _ _ _
  · rfl

/-! ### A call of the chain -/

/-- The ids and the checksums of a project list. -/
def projectRows (list : List BXObjectProject) : List (Nat × Nat) := servedRows BXObjectProject.id BXObjectProject.checksum list

/-- In its project phase a call is answered with the pages of the list. -/
def ChainCall.Lists (call : ChainCall) (list : List BXObjectProject) : Prop :=
  call.pre.cursors.memory.phase = .project →
    ListPages ProjectItem.project list call.input.sync.projects call.pre.cursors.memory.offset

/-- The statements of the project rows succeed. -/
def ChainStepInput.StoresProjects (i : ChainStepInput) : Prop :=
  ∀ item ∈ pageRows i.sync.projects, item.answers.contact = .answered ∧ ∃ cv, item.answers.persist = .ran false cv

theorem syncsRows_project {κ : Type} (onPage : κ → Nat → Save → BXillError × κ × Option BXChainCursor) {list : List BXObjectProject}
    (hids : ∀ project ∈ list, project.id.isSome) :
    (projectWalker onPage).SyncsRows (.resource .project) ProjectItem.project BXObjectProject.id BXObjectProject.checksum list where
  touches := touchesCache_projectWalker onPage
  rowId _ := rfl
  sync s item _ hid := rowSync_project s item hid
  unset s item hitem hid := by
    have := hids _ hitem
    rw [hid] at this
    cases this

section

variable {list : List BXObjectProject} {s : ChainState} {i : ChainStepInput}

/-- The rows and the cache of the projects in the state of the chain. -/
def SoundChain (list : List BXObjectProject) (s : ChainState) : Prop :=
  SoundOn (PruneTarget.resource .project).row (projectRows list) (s.db, s.projects)

/-- Projects are pruned only after a walk from the first page to the end. -/
theorem pruneProject_walk (h : (bxChainSync s i.sync).result.pruneProject = true) :
    i.sync.connected = true ∧ s.cursors.memory = ⟨.project, 0⟩ ∧ (walkProjects s i.sync).error = .noError := by
  have hphase : i.sync.connected = true ∧ s.cursors.memory.phase = .project := by
    by_contra hne
    have hprune : (bxChainSync s i.sync).result.pruneProject = false := (frame_bxChainSync s i.sync .project fun hc hr => by
      refine hne ⟨hc, ?_⟩
      revert hr
      cases s.cursors.memory.phase <;> decide).prune
    rw [hprune] at h
    cases h
  obtain ⟨hc, hphase⟩ := hphase
  rw [bxChainSync_project hc hphase] at h
  obtain ⟨hoffset, -⟩ := syncProject_prune h
  refine ⟨hc, by rw [← hphase, ← hoffset], ?_⟩
  by_contra hw
  unfold syncProject at h
  dsimp only at h
  rw [if_pos hw] at h
  cases h

/-- Without the flag of projects only the other two are pruned. -/
theorem pruneStep_other (i : ChainStepInput) {out : ChainOut} (hproject : out.result.pruneProject ≠ true) :
    ∃ p₀ p₁ : PruneState, p₀.state = out.state ∧ p₀.called = [] ∧ (p₁ = p₀ ∨ PruneEffect i .contact p₀ p₁) ∧
      (pruneStep i out = p₁ ∨ PruneEffect i .invoice p₁ (pruneStep i out)) := by
  unfold pruneStep
  rw [show ∀ p, pruneProjects i out.result.pruneProject p = p from fun p => if_neg fun h => hproject h.2]
  exact ⟨_, _, rfl, rfl, pruneContacts_effect .., pruneInvoices_effect ..⟩

theorem called_project {out : ChainOut} (h : .project ∈ (pruneStep i out).called) : out.result.pruneProject = true := by
  by_contra hproject
  obtain ⟨p₀, p₁, -, hnone, h₁, h₂⟩ := pruneStep_other i hproject
  rcases called_of_effect h₂ h with h | ⟨hr, -⟩
  · rcases called_of_effect h₁ h with h | ⟨hr, -⟩
    · rw [hnone] at h
      cases h
    · cases hr
  · cases hr

/-- The prunes of a call, where only the one of projects may be due. -/
theorem pruneStep_project (i : ChainStepInput) {out : ChainOut} (hcontact : out.result.pruneContact = false)
    (hinvoice : out.result.pruneInvoice = false) :
    ((pruneStep i out).state.db = out.state.db ∧ (pruneStep i out).state.projects = out.state.projects) ∨
      (out.result.pruneProject = true ∧ (pruneStep i out).state.db = (i.prune .project out.state).2.1 ∧
        (pruneStep i out).state.projects = (i.prune .project out.state).2.2.1) := by
  unfold pruneStep pruneContacts pruneInvoices
  rw [hcontact, hinvoice]
  simp only [Bool.false_eq_true, and_false, if_false]
  unfold pruneProjects
  split
  · rename_i h
    exact Or.inr ⟨h.2, rfl, rfl⟩
  · exact Or.inl ⟨rfl, rfl⟩

/-- A prune of another resource leaves the rows of the projects. -/
theorem PruneEffect.rows {p p' : PruneState} {d : Resource} (h : p' = p ∨ PruneEffect i d p p') (hd : d ≠ .project) (k : Nat) :
    (PruneTarget.resource .project).row p'.state.db k = (PruneTarget.resource .project).row p.state.db k := by
  rcases h with rfl | h
  · rfl
  · rw [h.db]
    exact row_prune_other hd.symm (fun heq => absurd heq hd) _ _ _ _ _ k

theorem rows_pruneStep (i : ChainStepInput) {out : ChainOut} (hproject : out.result.pruneProject ≠ true) (k : Nat) :
    (PruneTarget.resource .project).row (pruneStep i out).state.db k = (PruneTarget.resource .project).row out.state.db k := by
  obtain ⟨p₀, p₁, hstart, -, h₁, h₂⟩ := pruneStep_other i hproject
  rw [PruneEffect.rows h₂ (by decide) k, PruneEffect.rows h₁ (by decide) k, hstart]

/-- A call bumps the version of the projects after its prunes only. -/
theorem version_pruneStep (s : ChainState) (i : ChainStepInput) :
    (pruneStep i (bxChainSync s i.sync)).state.projects.version = s.projects.version := by
  have hserves : i.sync.Serves s.cursors.memory.phase fun _ _ => True :=
    ⟨fun _ _ _ => trivial, fun _ _ _ => trivial, fun _ _ _ => ⟨trivial, trivial⟩, fun _ _ _ _ _ _ _ _ => ⟨trivial, trivial⟩⟩
  exact ((callQuiet_bxChainSync hserves).trans (callQuiet_pruneStep i _)).version .project

/-- The state of the projects between the walk and the bump of a call. -/
theorem soundOn_pruneStep (hdistinct : Distinct (projectRows list)) (hids : ∀ project ∈ list, project.id.isSome)
    (hlists : (chainStep s i).1.Lists list) (hdrift : 0 < pruneDrift i.drift) (hs : SoundChain list s) :
    SoundChain list (pruneStep i (bxChainSync s i.sync)).state := by
  by_cases hproject : i.sync.connected = true ∧ s.cursors.memory.phase = .project
  · obtain ⟨hc, hphase⟩ := hproject
    have hframe : ∀ r, r ≠ .project → (bxChainSync s i.sync).result.prune r = false := fun r hr =>
      (frame_bxChainSync s i.sync r fun _ heq => hr (by rw [← heq, hphase]; rfl)).prune
    have hleaves : (bxChainSync s i.sync).leaves .project (walkProjects s i.sync).store := by
      rw [bxChainSync_project hc hphase]
      exact leaves_syncProject s i.sync
    have hwalk : SoundOn (PruneTarget.resource .project).row (projectRows list) (walkProjects s i.sync).store :=
      (syncsRows_project _ hids).soundOn_walk hdistinct (hlists hphase) hs
    have hout : SoundOn (PruneTarget.resource .project).row (projectRows list)
        ((bxChainSync s i.sync).state.db, (bxChainSync s i.sync).state.projects) := by
      obtain ⟨hdb, hcache⟩ := hleaves
      rw [hdb, show (bxChainSync s i.sync).state.projects = _ from hcache]
      exact hwalk
    unfold SoundChain
    rcases pruneStep_project i (hframe .contact (by decide)) (hframe .invoice (by decide)) with ⟨hdb, hcache⟩ | ⟨hflag, hdb, hcache⟩
    · rw [hdb, hcache]
      exact hout
    · obtain ⟨-, hmemory, hw⟩ := pruneProject_walk hflag
      have hlists : ListPages ProjectItem.project list i.sync.projects s.cursors.memory.offset := hlists hphase
      have hfresh : ∀ row ∈ projectRows list, ¬(bxChainSync s i.sync).state.projects.Stale row.1 := by
        rw [show (bxChainSync s i.sync).state.projects = _ from hleaves.2]
        unfold walkProjects at hw ⊢
        rw [hmemory] at hw hlists ⊢
        exact (syncsRows_project _ hids).fresh_walk hlists hw
      rw [hdb, hcache]
      exact soundOn_prune (t := .resource .project) hfresh hdrift hout
  · have hphase : i.sync.connected = true → s.cursors.memory.phase.resource ≠ .project := by
      intro hc hr
      refine hproject ⟨hc, ?_⟩
      revert hr
      cases s.cursors.memory.phase <;> decide
    have hframe := frame_bxChainSync s i.sync .project hphase
    have hflag : (bxChainSync s i.sync).result.pruneProject = false := hframe.prune
    have hcache : (pruneStep i (bxChainSync s i.sync)).state.projects = s.projects :=
      (pruneStep_projects i _ hflag).trans hframe.cache
    intro id checksum hmem
    dsimp only
    rw [rows_pruneStep i (by rw [hflag]; decide), rows_bxChainSync s i.sync hphase, hcache]
    exact hs id checksum hmem

theorem soundChain_chainStep (hdistinct : Distinct (projectRows list)) (hids : ∀ project ∈ list, project.id.isSome)
    (hlists : (chainStep s i).1.Lists list) (hdrift : 0 < pruneDrift i.drift)
    (hwrap : (chainStep s i).1.out.result.bumpProject → s.projects.version + 1 < uint64Max) (hs : SoundChain list s) :
    SoundChain list (chainStep s i).2 := by
  have hpruned := soundOn_pruneStep hdistinct hids hlists hdrift hs
  show SoundOn (PruneTarget.resource .project).row (projectRows list) ((pruneStep i (bxChainSync s i.sync)).state.db,
    if (bxChainSync s i.sync).result.bumpProject then cacheNextVersion (pruneStep i (bxChainSync s i.sync)).state.projects
    else (pruneStep i (bxChainSync s i.sync)).state.projects)
  split
  · rename_i hbump
    refine soundOn_next ?_ hpruned
    rw [version_pruneStep]
    exact Nat.ne_of_lt (hwrap hbump)
  · exact hpruned

/-! ### Runs -/

/-- The list of projects, and any id of another resource. -/
def ProjectListed (list : List BXObjectProject) (r : Resource) (id : Nat) : Prop :=
  r = .project → ∃ project ∈ list, project.id = some id

theorem ChainCall.Lists.serves {call : ChainCall} (hids : ∀ project ∈ list, project.id.isSome) (h : call.Lists list) :
    call.Serves (ProjectListed list) where
  contacts _ _ _ hr := by cases hr
  projects hphase item hitem _ := by
    have hmem := (h hphase).shown item hitem
    obtain ⟨id, hid⟩ := Option.isSome_iff_exists.mp (hids _ hmem)
    exact ⟨item.project, hmem, by rw [hid, Option.getD_some]⟩
  invoices _ _ _ := ⟨fun hr => (by cases hr), fun hr => (by cases hr)⟩
  missed _ _ _ _ _ _ _ _ := ⟨fun hr => (by cases hr), fun hr => (by cases hr)⟩

/-- What calls against a fixed list preserve: the listed projects are sound, and the others age. -/
theorem run_chainStep (hdistinct : Distinct (projectRows list)) (hids : ∀ project ∈ list, project.id.isSome) :
    ∀ (inputs : List ChainStepInput) (s : ChainState) (n : Nat), (∀ call ∈ outputs chainStep s inputs, call.Lists list) →
      (∀ i ∈ inputs, 0 < pruneDrift i.drift) → s.projects.version + inputs.length < uint64Max →
      (chainStamps .project).Aged (ProjectListed list .project) n s → SoundChain list s →
      (chainStamps .project).Aged (ProjectListed list .project)
          (n + (outputs chainStep s inputs).countP fun call => call.out.result.bumpProject) (final chainStep s inputs) ∧
        SoundChain list (final chainStep s inputs)
  | [], _, _, _, _, _, haged, hsound => ⟨haged, hsound⟩
  | i :: inputs, s, n, hlists, hdrifts, hwrap, haged, hsound => by
    obtain ⟨hlist, hlists⟩ := List.forall_mem_cons.mp hlists
    obtain ⟨hdrift, hdrifts⟩ := List.forall_mem_cons.mp hdrifts
    rw [List.length_cons] at hwrap
    obtain ⟨hquiet, hversion⟩ := quiet_chainStep (hlist.serves hids) .project (s := s) fun _ =>
      show s.projects.version + 1 < uint64Max by omega
    have hone := Bool.toNat_le ((chainStep s i).1.out.result.bump .project)
    have hversion : (chainStep s i).2.projects.version = s.projects.version + ((chainStep s i).1.out.result.bump .project).toNat :=
      hversion
    have hrest := run_chainStep hdistinct hids inputs (chainStep s i).2 _ hlists hdrifts (by omega) (haged.step hquiet hversion)
      (soundChain_chainStep hdistinct hids hlist hdrift (fun _ => by omega) hsound)
    have hcount : (outputs chainStep s (i :: inputs)).countP (fun call => call.out.result.bumpProject) =
        ((chainStep s i).1.out.result.bump .project).toNat +
          (outputs chainStep (chainStep s i).2 inputs).countP fun call => call.out.result.bumpProject := by
      rw [outputs, List.countP_cons, Nat.add_comm]
      show (if (chainStep s i).1.out.result.bumpProject = true then 1 else 0) + _ = (chainStep s i).1.out.result.bumpProject.toNat + _
      cases (chainStep s i).1.out.result.bumpProject <;> rfl
    rw [hcount, ← Nat.add_assoc]
    exact hrest

end

section

variable {list : List BXObjectProject} {s : ChainState} {i : ChainStepInput}

/-- A call that prunes projects leaves the rows of the contacts. -/
theorem contacts_chainStep (hphase : s.cursors.memory.phase = .project) (k : Nat) :
    (PruneTarget.resource .contact).row (chainStep s i).2.db k = (PruneTarget.resource .contact).row s.db k := by
  have hne : ∀ r, r ≠ .project → i.sync.connected = true → s.cursors.memory.phase.resource ≠ r := fun r hr _ heq =>
    hr (by rw [← heq, hphase]; rfl)
  have hframe := fun r hr => (frame_bxChainSync s i.sync r (hne r hr)).prune
  show (PruneTarget.resource .contact).row (pruneStep i (bxChainSync s i.sync)).state.db k = _
  rw [← rows_bxChainSync s i.sync (hne .contact (by decide))]
  rcases pruneStep_project i (hframe .contact (by decide)) (hframe .invoice (by decide)) with ⟨hdb, -⟩ | ⟨-, hdb, -⟩
  · rw [hdb]
  · rw [hdb]
    exact row_prune_other (by decide) (fun _ => by decide) _ _ _ _ _ k

/-- A call that prunes the projects has stored those of the list whose contacts are stored. -/
theorem stored_chainStep (hdistinct : Distinct (projectRows list)) (hids : ∀ project ∈ list, project.id.isSome)
    (hlists : (chainStep s i).1.Lists list) (hdrift : 0 < pruneDrift i.drift) (hstores : i.StoresProjects)
    (hcalled : .project ∈ (chainStep s i).1.prunes.called) (hs : SoundChain list s) {project : BXObjectProject}
    (hproject : project ∈ list) {id : Nat} (hid : project.id = some id)
    (hcontact : (chainStep s i).2.db.has .contact (project.contactId.getD 0)) :
    (PruneTarget.resource .project).row (chainStep s i).2.db id = some project.checksum := by
  obtain ⟨hc, hmemory, hw⟩ := pruneProject_walk (called_project hcalled)
  have hphase : s.cursors.memory.phase = .project := by rw [hmemory]
  have hlists : ListPages ProjectItem.project list i.sync.projects s.cursors.memory.offset := hlists hphase
  have hleaves : (bxChainSync s i.sync).leaves .project (walkProjects s i.sync).store := by
    rw [bxChainSync_project hc hphase]
    exact leaves_syncProject s i.sync
  have hcontact : s.db.has .contact (project.contactId.getD 0) = true := by
    change (PruneTarget.resource .contact).has _ _ = true at hcontact
    rwa [PruneTarget.has_eq, contacts_chainStep hphase, ← PruneTarget.has_eq] at hcontact
  have hsyncs := syncsRows_project (onValidatedPage .project) hids
  unfold walkProjects at hw hleaves
  rw [hmemory] at hw hlists hleaves
  have hrows := Walker.SyncsRows.pageRows_of_walk hlists hw
  obtain ⟨item, hitem, rfl⟩ : ∃ item ∈ pageRows i.sync.projects, item.project = project := by
    rw [← List.drop_zero (l := list), ← hrows] at hproject
    exact List.mem_map.mp hproject
  have hstored : (PruneTarget.resource .project).row (bxChainSync s i.sync).state.db id = some item.project.checksum := by
    rw [hleaves.1]
    refine hsyncs.walk_stores (J := fun store => store.1.has .contact (item.project.contactId.getD 0))
      (p := fun other => other.project.contactId = item.project.contactId ∧ other.answers.contact = .answered ∧
        ∃ cv, other.answers.persist = .ran false cv) hdistinct hlists hw hs hcontact ?_ ?_ hitem ⟨rfl, hstores item hitem⟩ hid
    · intro store other hstored
      obtain ⟨rows, hdb, -⟩ := bxProjectSyncItem_frame store.1 store.2 other
      show (bxProjectSyncItem store.1 store.2 other).2.1.has .contact _ = true
      rw [hdb]
      exact hstored
    · rintro store other id ⟨hsame, hselect, cv, hwrite⟩ hstored hid hsound
      exact projectPageItem_stores store other hid hselect hwrite (by rw [hsame]; exact hstored) hsound
  have hframe := fun r (hr : r ≠ .project) => (frame_bxChainSync s i.sync r fun _ heq => hr (by rw [← heq, hphase]; rfl)).prune
  show (PruneTarget.resource .project).row (pruneStep i (bxChainSync s i.sync)).state.db id = _
  rcases pruneStep_project i (hframe .contact (by decide)) (hframe .invoice (by decide)) with ⟨hdb, -⟩ | ⟨-, hdb, -⟩
  · rw [hdb, hstored]
  · have hfresh := hsyncs.fresh_walk hlists hw _ (mem_servedRows hproject hid)
    rw [← hleaves.2] at hfresh
    rw [hdb, ← hstored]
    exact (prune_keeps (.resource .project) _ _ _ fun hdue => hfresh (Cache.stale_of_mem_cacheIterAll hdrift hdue)).1

end

/-- A process that starts from the tables and the row. -/
def startChain (db : Database) (contacts invoices : Cache) (row : BXChainCursor) : ChainState :=
  bxChainInit db contacts (bxCacheHydrate (db.checksums .project) cacheCreate) invoices row

theorem aged_startChain (list : List BXObjectProject) (db : Database) (contacts invoices : Cache) (row : BXChainCursor) :
    (chainStamps .project).Aged (ProjectListed list .project) 0 (startChain db contacts invoices row) := by
  refine aged_zero (t := .resource .project) fun id _ hhas => ?_
  obtain ⟨project, hproject⟩ : ∃ project, db.project.lookup id = some project := Option.isSome_iff_exists.mp hhas
  have hrow := lookup_map_entries db.project ProjectRow.checksum id
  rw [hproject] at hrow
  exact (Cache.carries_bxCacheHydrate (nodup_map_entries db.project ProjectRow.checksum) hrow).live

/-- Against a list of projects that stays as it is, from any tables and whatever failed before: a call that prunes without an error
    and whose statements succeed leaves the projects of the list whose contacts are stored with their checksums, and no
    others than those of the list, once the projects were bumped as many times as the drift. -/
theorem projects_converge (list : List BXObjectProject) (hdistinct : Distinct (projectRows list))
    (hids : ∀ project ∈ list, project.id.isSome) (db : Database) (contacts invoices : Cache) (row : BXChainCursor)
    (inputs : List ChainStepInput) (last : ChainStepInput)
    (hlists : ∀ call ∈ outputs chainStep (startChain db contacts invoices row) (inputs ++ [last]), call.Lists list)
    (hdrifts : ∀ i ∈ inputs ++ [last], 0 < pruneDrift i.drift) (hwrap : inputs.length + 1 < uint64Max)
    (hpassed : pruneDrift last.drift ≤
      (outputs chainStep (startChain db contacts invoices row) inputs).countP fun call => call.out.result.bumpProject)
    (hstores : last.StoresProjects)
    (hcalled : .project ∈ (chainStep (final chainStep (startChain db contacts invoices row) inputs) last).1.prunes.called)
    (herror : (chainStep (final chainStep (startChain db contacts invoices row) inputs) last).1.prunes.error = .noError) :
    let db' := (final chainStep (startChain db contacts invoices row) (inputs ++ [last])).db
    (∀ id, db'.has .project id → ∃ project ∈ list, project.id = some id) ∧
      ∀ project ∈ list, ∀ id, project.id = some id → db'.has .contact (project.contactId.getD 0) →
        (db'.project.lookup id).map ProjectRow.checksum = some project.checksum := by
  rw [outputs_append] at hlists
  obtain ⟨hlists, hlast⟩ := List.forall_mem_append.mp hlists
  obtain ⟨hdrifts, hdrift⟩ := List.forall_mem_append.mp hdrifts
  have hlast := hlast _ List.mem_cons_self
  have hdrift := hdrift last List.mem_cons_self
  obtain ⟨haged, hsound⟩ := run_chainStep hdistinct hids inputs (startChain db contacts invoices row) 0 hlists hdrifts
    (by rw [show (startChain db contacts invoices row).projects.version = 1 from Cache.version_bxCacheHydrate _ _]; omega)
    (aged_startChain list db contacts invoices row)
    (soundOn_hydrate (nodup_map_entries db.project ProjectRow.checksum) (lookup_map_entries db.project ProjectRow.checksum) _)
  rw [Nat.zero_add] at haged
  rw [final_append]
  generalize final chainStep (startChain db contacts invoices row) inputs = s at *
  refine ⟨fun id hid => swept_chainStep (hlast.serves hids) haged hpassed hcalled herror id hid rfl, ?_⟩
  intro project hproject id hid hcontact
  exact stored_chainStep hdistinct hids hlast hdrift hstores hcalled hsound hproject hid hcontact

/-! ### A project table

    Project 1 changed and project 2 is gone. One call gets no answer, one is complete. -/

def staleProjects : Database :=
  { Database.empty with
    contact := AList.insert 3 ⟨4, false⟩ ∅
    project := AList.insert 1 ⟨7, some 3⟩ (AList.insert 2 ⟨5, some 3⟩ ∅) }

def changedProject : ProjectItem := { project := { id := some 1, checksum := 9, contactId := some 3 }, answers := .quiet }

def completeCall : ChainStepInput :=
  { ChainStepInput.of { ChainInput.silent with projects := [savedPage [changedProject], savedPage []] } with
    projectPrune := ⟨true, [.ran false false]⟩ }

def changedStart : ChainState := startChain staleProjects cacheCreate cacheCreate ⟨.project, 0⟩

theorem projects_converge_changed :
    let db' := (final chainStep changedStart [.of .silent, completeCall]).db
    (∀ id, db'.has .project id → ∃ project ∈ [changedProject.project], project.id = some id) ∧
      ∀ project ∈ [changedProject.project], ∀ id, project.id = some id → db'.has .contact (project.contactId.getD 0) →
        (db'.project.lookup id).map ProjectRow.checksum = some project.checksum := by
  have hsilent : (chainStep changedStart (.of .silent)).1.Lists [changedProject.project] := by
    intro _ n reply rows hreply
    simp [chainStep, ChainStepInput.of, ChainInput.silent] at hreply
  have hcomplete : (chainStep (chainStep changedStart (.of .silent)).2 completeCall).1.Lists [changedProject.project] := by
    intro _ n reply rows hreply hrows
    rcases n with _ | _ | n
    · cases hreply
      cases hrows
      rfl
    · cases hreply
      cases hrows
      rfl
    · simp [chainStep, completeCall, ChainStepInput.of] at hreply
  have hstores : completeCall.StoresProjects := List.forall_mem_singleton.mpr ⟨rfl, false, rfl⟩
  exact projects_converge [changedProject.project] (List.nodup_singleton _) (List.forall_mem_singleton.mpr rfl) staleProjects
    cacheCreate cacheCreate ⟨.project, 0⟩ [.of .silent] completeCall
    (List.forall_mem_cons.mpr ⟨hsilent, List.forall_mem_singleton.mpr hcomplete⟩) (by decide) (by decide) (by decide) hstores
    (by decide) (by decide)

end BxSync
