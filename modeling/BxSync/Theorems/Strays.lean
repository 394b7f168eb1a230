import BxSync.Lib.Aging
import BxSync.Theorems.Cascade
import BxSync.Theorems.Drift

/-! Rows whose id no list shows any more. A walk leaves them alone, each bump makes them one version older, and the
    first prune without an error at no more than their age deletes them, whatever failed before. -/

namespace BxSync

open Machine Aging

/-! ### Walks over rows that satisfy a condition -/

/-- The rows of the answered pages. -/
def shownRows {ρ : Type} (replies : List (Option (PageReply ρ))) : List ρ :=
  replies.flatMap fun reply => (reply.bind PageReply.rows).getD []

namespace Walker

variable {σ κ ρ : Type} (w : Walker σ κ ρ) {R : σ → σ → Prop} {p : ρ → Prop}

theorem syncRows_rel (hrefl : ∀ s, R s s) (htrans : ∀ {a b c}, R a b → R b c → R a c)
    (hsync : ∀ s row, p row → R s (w.sync s row).2) (rows : List ρ) (s : σ) (hp : ∀ row ∈ rows, p row) :
    R s (w.syncRows rows s).2.1 := by
  revert hp
  fun_induction w.syncRows rows s
  case case1 => exact fun _ => hrefl _
  case case2 => exact fun hp => hsync _ _ (hp _ List.mem_cons_self)
  case case3 ih =>
    intro hp
    exact htrans (hsync _ _ (hp _ List.mem_cons_self)) (ih fun row hrow => hp row (List.mem_cons_of_mem _ hrow))

/-- What the row callback does to the store at rows of a kind, a walk over such rows does. -/
theorem walkPages_rel (hrefl : ∀ s, R s s) (htrans : ∀ {a b c}, R a b → R b c → R a c)
    (hsync : ∀ s row, p row → R s (w.sync s row).2) (replies : List (Option (PageReply ρ))) (offset : Nat) (s : σ) (k : κ)
    (hp : ∀ row ∈ shownRows replies, p row) : R s (w.walkPages replies offset s k).store := by
  have hrows := w.syncRows_rel hrefl htrans hsync
  revert hp
  fun_induction w.walkPages replies offset s k
  case case1 | case2 | case3 => exact fun _ => hrefl _
  case case4 hreply _ _ _ | case5 hreply _ _ _ _ | case6 hreply _ _ _ _ _ _ _ _ =>
    intro hp
    exact hrows _ _ fun row hrow => hp row (by simp [shownRows, hreply, hrow])
  case case7 hreply _ _ _ _ _ _ _ _ _ ih =>
    intro hp
    refine htrans (hrows _ _ fun row hrow => hp row (by simp [shownRows, hreply, hrow])) (ih fun row hrow => hp row ?_)
    rw [shownRows, List.flatMap_cons]
    exact List.mem_append_right _ hrow

theorem walkPagesFrom_rel (hrefl : ∀ s, R s s) (htrans : ∀ {a b c}, R a b → R b c → R a c)
    (hsync : ∀ s row, p row → R s (w.sync s row).2) (connected : Bool) (replies : List (Option (PageReply ρ))) (start : Nat)
    (s : σ) (k : κ) (hp : ∀ row ∈ shownRows replies, p row) : R s (w.walkPagesFrom connected replies start s k).store := by
  unfold walkPagesFrom
  split
  · exact w.walkPages_rel hrefl htrans hsync replies start s k hp
  · exact hrefl _

end Walker

/-! ### What one object changes -/

section

variable {α : Type}

/-- The INSERT IGNORE or the UPDATE of an object, by the state of its id. -/
def persistRow (t : Table Nat α) (exec : Exec) (state : CacheState) (id : Option Nat) (row : α) (orphan : Bool) : Stmt × Table Nat α :=
  exec.run t fun fk cv =>
    if state = .cacheNotSet then insertIgnoreId t id row (fk || orphan) cv else Table.update t id row (fk || orphan) cv

/-- It writes the row of its id, or nothing. -/
theorem persistRow_cases (t : Table Nat α) (exec : Exec) (state : CacheState) (id : Option Nat) (row : α) (orphan : Bool) :
    (persistRow t exec state id row orphan).2 = t ∨ (persistRow t exec state id row orphan).2 = t.insert (id.getD 0) row := by
  refine exec.run_table (Q := fun t' => t' = t ∨ t' = t.insert (id.getD 0) row) (Or.inl rfl) fun fk cv => ?_
  unfold insertIgnoreId Table.insertIgnore Table.update
  split
  · split
    · exact Or.inl rfl
    · exact Or.inr rfl
  · cases id with
    | none => exact Or.inl rfl
    | some key =>
      dsimp only
      split_ifs
      · exact Or.inl rfl
      · exact Or.inr rfl
      · exact Or.inl rfl

theorem lookup_persistRow_ne (t : Table Nat α) (exec : Exec) (state : CacheState) (id : Option Nat) (row : α) (orphan : Bool)
    {k : Nat} (hk : k ≠ id.getD 0) : (persistRow t exec state id row orphan).2.lookup k = t.lookup k := by
  rcases persistRow_cases t exec state id row orphan with h | h
  · rw [h]
  · rw [h]
    exact AList.lookup_insert_ne hk

theorem persistRow_contact (archived : Bool) (state : CacheState) (db : Database) (item : ContactItem) :
    persistContact archived state db item =
      ((persistRow db.contact item.answers.persist state item.contact.id ⟨item.contact.checksum, archived⟩ false).1,
        { db with contact :=
            (persistRow db.contact item.answers.persist state item.contact.id ⟨item.contact.checksum, archived⟩ false).2 }) := by
  unfold persistContact persistRow
  simp only [Bool.or_false]

end

theorem bxContactSyncItem_frame (archived : Bool) (db : Database) (c : Cache) (item : ContactItem) :
    ∃ rows links, (bxContactSyncItem archived db c item).2.1 = { db with contact := rows, cg2c := links } ∧
      ∀ k, k ≠ item.contact.id.getD 0 → rows.lookup k = db.contact.lookup k := by
  unfold bxContactSyncItem
  dsimp only
  split
  · exact ⟨_, _, rfl, fun _ _ => rfl⟩
  split
  · exact ⟨_, _, rfl, fun _ _ => rfl⟩
  split
  · exact ⟨_, _, rfl, fun _ _ => rfl⟩
  have hpersist : ∃ rows, (persistContact archived (cacheCheckItem c (item.contact.id.getD 0) item.contact.checksum).1
      db item).2 = { db with contact := rows } ∧ ∀ k, k ≠ item.contact.id.getD 0 → rows.lookup k = db.contact.lookup k := by
    rw [persistRow_contact]
    exact ⟨_, rfl, fun k hk => lookup_persistRow_ne _ _ _ _ _ _ hk⟩
  split
  · rename_i heq
    obtain ⟨rows, hrows, hne⟩ := hpersist
    rw [heq] at hrows
    exact ⟨rows, db.cg2c, hrows, hne⟩
  · rename_i heq
    obtain ⟨rows, hrows, hne⟩ := hpersist
    rw [heq] at hrows
    dsimp only at hrows
    split
    · exact ⟨rows, db.cg2c, hrows, hne⟩
    · exact ⟨rows, _, by rw [contactExtras_frame, hrows], hne⟩

theorem bxProjectSyncItem_frame (db : Database) (c : Cache) (item : ProjectItem) :
    ∃ rows, (bxProjectSyncItem db c item).2.1 = { db with project := rows } ∧
      ∀ k, k ≠ item.project.id.getD 0 → rows.lookup k = db.project.lookup k := by
  have hpersist : ∀ state, ∃ rows, (executeRequest state db item).2 = { db with project := rows } ∧
      ∀ k, k ≠ item.project.id.getD 0 → rows.lookup k = db.project.lookup k := by
    intro state
    have hne := fun k => lookup_persistRow_ne (k := k) db.project item.answers.persist state item.project.id
      { checksum := item.project.checksum, contactId := item.project.contactId }
      (db.contact.lookup (item.project.contactId.getD 0)).isNone
    unfold executeRequest
    dsimp only
    split
    · exact ⟨_, rfl, hne⟩
    · exact ⟨_, rfl, hne⟩
  unfold bxProjectSyncItem
  dsimp only
  split
  · exact ⟨_, rfl, fun _ _ => rfl⟩
  split
  · exact ⟨_, rfl, fun _ _ => rfl⟩
  split
  · exact ⟨_, rfl, fun _ _ => rfl⟩
  split
  · exact hpersist _
  split
  · exact hpersist _
  · exact hpersist _

theorem bxInvoiceSyncItem_frame (db : Database) (c : Cache) (item : InvoiceItem) :
    ∃ rows positions, (bxInvoiceSyncItem db c item).2.1 = { db with invoice := rows, invoicePosition := positions } ∧
      ∀ k, k ≠ (invoiceObject item).id.getD 0 → rows.lookup k = db.invoice.lookup k := by
  unfold bxInvoiceSyncItem
  dsimp only
  split
  · exact ⟨_, _, rfl, fun _ _ => rfl⟩
  split
  · exact ⟨_, _, rfl, fun _ _ => rfl⟩
  split
  · exact ⟨_, _, rfl, fun _ _ => rfl⟩
  have hpersist : ∃ rows, (persistInvoice (cacheCheckItem c (item.invoice.id.getD 0) item.invoice.checksum).1 db
      (invoiceObject item) item.answers).2 = { db with invoice := rows } ∧
      ∀ k, k ≠ (invoiceObject item).id.getD 0 → rows.lookup k = db.invoice.lookup k :=
    ⟨_, rfl, fun k hk => lookup_persistRow_ne _ _ _ _ _ _ hk⟩
  split
  · rename_i heq
    obtain ⟨rows, hrows, hne⟩ := hpersist
    rw [heq] at hrows
    exact ⟨rows, db.invoicePosition, hrows, hne⟩
  · rename_i heq
    obtain ⟨rows, hrows, hne⟩ := hpersist
    rw [heq] at hrows
    dsimp only at hrows
    split
    · exact ⟨rows, db.invoicePosition, hrows, hne⟩
    · unfold storeInvoiceParts
      dsimp only
      split
      · exact ⟨rows, _, by rw [bxInvoicePositionsStore_frame, hrows], hne⟩
      · exact ⟨rows, _, by rw [bxInvoicePositionsStore_frame, hrows], hne⟩

theorem lookup_persistFile_ne (db : Database) (id : Nat) (item : FileItem) {k : Nat} (hk : k ≠ id) :
    (persistFile db id item).2.file.lookup k = db.file.lookup k := by
  have hinsert : (db.file.insert id item.file.checksum).lookup k = db.file.lookup k := AList.lookup_insert_ne hk
  unfold persistFile
  split
  · rfl
  dsimp only
  split
  · rfl
  have hwritten : (item.answers.write.run db.file fun fk cv =>
      if (db.file.lookup id).isNone then Table.insertRow db.file id item.file.checksum fk cv
      else Table.update db.file (some id) item.file.checksum fk cv).2.lookup k = db.file.lookup k := by
    refine item.answers.write.run_table (Q := fun t : Table Nat Nat => t.lookup k = db.file.lookup k) rfl fun fk cv => ?_
    unfold Table.insertRow Table.update
    dsimp only
    split_ifs
    all_goals first | rfl | exact hinsert
  split
  · exact hwritten
  · exact hwritten

theorem filePageItem_ne (s : Database × Cache) (item : FileItem) {k : Nat} (hk : item.file.id ≠ some k) :
    (filePageItem s item).2.1.file.lookup k = s.1.file.lookup k := by
  cases hid : item.file.id with
  | none => rw [filePageItem_unset s item hid]
  | some id =>
    have hne : k ≠ id := fun heq => hk (by rw [hid, heq])
    unfold filePageItem
    rw [hid]
    unfold syncFile
    dsimp only
    split
    · rfl
    · exact lookup_persistFile_ne s.1 id item hne

/-- An id that is neither checked nor stored keeps its entry. -/
theorem Cache.Touched.entry_ne {c c' : Cache} {id objectId k : Nat} (h : Cache.Touched c id objectId c') (hid : k ≠ id)
    (hobject : k ≠ objectId) : c'.entry k = c.entry k := by
  cases h with
  | checked checksum => rw [Cache.entry_cacheCheckItem, if_neg hid]
  | stored checksum checksum' => rw [Cache.entry_cacheSetItem, if_neg hobject, Cache.entry_cacheCheckItem, if_neg hid]

/-! ### Rows -/

/-- The checksum in the row of an id. -/
def PruneTarget.row (t : PruneTarget) (db : Database) (id : Nat) : Option Nat :=
  match t with
  | .resource .contact => (db.contact.lookup id).map ContactRow.checksum
  | .resource .project => (db.project.lookup id).map ProjectRow.checksum
  | .resource .invoice => (db.invoice.lookup id).map InvoiceRow.checksum
  | .file => db.file.lookup id

theorem row_file (db : Database) (id : Nat) : PruneTarget.file.row db id = db.file.lookup id := rfl

theorem row_project (db : Database) (id : Nat) :
    (PruneTarget.resource .project).row db id = (db.project.lookup id).map ProjectRow.checksum := rfl

theorem PruneTarget.has_eq (t : PruneTarget) (db : Database) (id : Nat) : t.has db id = (t.row db id).isSome := by
  rcases t with ⟨_ | _ | _⟩ | _
  · exact Option.isSome_map.symm
  · exact Option.isSome_map.symm
  · exact Option.isSome_map.symm
  · rfl

/-! ### Stamps -/

/-- The rows of a table, stamped by the live items of its cache. -/
def PruneTarget.stamps (t : PruneTarget) : Stamps (Database × Cache) Nat where
  has s id := t.has s.1 id
  stamp s id := ((s.2.entry id).filter fun item => 0 < item.lastSeen).map CacheItem.lastSeen
  now s := s.2.version

section

variable {t : PruneTarget} {listed : Nat → Prop} {db : Database} {c : Cache} {id : Nat}

theorem stamp_eq_some {n : Nat} :
    t.stamps.stamp (db, c) id = some n ↔ ∃ item, c.entry id = some item ∧ 0 < item.lastSeen ∧ item.lastSeen = n := by
  show ((c.entry id).filter fun item => 0 < item.lastSeen).map CacheItem.lastSeen = some n ↔ _
  cases c.entry id with
  | none => simp
  | some item =>
    by_cases hpos : 0 < item.lastSeen <;> simp [Option.filter, hpos]

/-- What is live has a stamp of at most the version. -/
theorem aged_zero (h : ∀ id, ¬listed id → t.has db id → c.Live id) : t.stamps.Aged listed 0 (db, c) := by
  intro id hid hhas
  obtain ⟨item, hentry, hpos⟩ := h id hid hhas
  exact ⟨item.lastSeen, stamp_eq_some.mpr ⟨item, hentry, hpos, rfl⟩, c.seen item (c.entry_eq_some.mp hentry).1⟩

/-- The sync of an object whose ids are listed. -/
theorem quiet_of_touched {s s' : Database × Cache} {objectId : Nat}
    (hrows : ∀ k, ¬listed k → t.has s'.1 k → t.has s.1 k) (h : Cache.Touched s.2 id objectId s'.2) (hid : listed id)
    (hobject : listed objectId) : t.stamps.Quiet listed s s' := by
  intro k hk hhas
  have hne : k ≠ id := fun heq => hk (heq ▸ hid)
  have hne' : k ≠ objectId := fun heq => hk (heq ▸ hobject)
  refine ⟨hrows k hk hhas, ?_⟩
  show Option.map _ (Option.filter _ (s'.2.entry k)) = Option.map _ (Option.filter _ (s.2.entry k))
  rw [h.entry_ne hne hne']

theorem quiet_cacheNextVersion (hwrap : c.version + 1 ≠ uint64Max) : t.stamps.Quiet listed (db, c) (db, cacheNextVersion c) := by
  intro k _ hhas
  refine ⟨hhas, ?_⟩
  show Option.map _ (Option.filter _ ((cacheNextVersion c).entry k)) = Option.map _ (Option.filter _ (c.entry k))
  rw [Cache.entry_cacheNextVersion c hwrap]

/-! ### Prunes -/

/-- No DELETE adds a row, of its own table or of another. -/
theorem has_delete (d t : PruneTarget) (db : Database) (id : Nat) (fk cv : Bool) (k : Nat)
    (h : t.has (d.delete db id fk cv).2 k) : t.has db k := by
  cases fk with
  | true => rwa [d.delete_refused] at h
  | false =>
    have herase : ∀ {α : Type} (rows : Table Nat α), ((rows.erase id).lookup k).isSome → (rows.lookup k).isSome :=
      fun rows hk => ((Table.isSome_lookup_erase rows id k).mp hk).1
    rcases d with ⟨_ | _ | _⟩ | _ <;> rcases t with ⟨_ | _ | _⟩ | _
    all_goals first | exact h | exact herase _ h | exact eraseAll_lookup _ _ _ h

theorem has_deleteIds_le (d t : PruneTarget) (ids : List Nat) (execs : List Exec) (db : Database) (k : Nat)
    (h : t.has (deleteIds d.delete ids execs db).2 k) : t.has db k := by
  revert h
  fun_induction deleteIds d.delete ids execs db
  case case1 | case2 => exact id
  case case3 id ids exec rest db needReconnect db' hrun =>
    intro h
    have hdb : (exec.run db (d.delete db id)).2 = db' := congrArg Prod.snd hrun
    rw [← hdb] at h
    exact exec.run_table (Q := fun db' => t.has db' k → t.has db k) (fun hk => hk) (fun fk cv => has_delete d t db id fk cv k) h
  case case4 id ids exec rest db warned db' hrun others ih =>
    intro h
    have hdb : (exec.run db (d.delete db id)).2 = db' := congrArg Prod.snd hrun
    have h := ih h
    rw [← hdb] at h
    exact exec.run_table (Q := fun db' => t.has db' k → t.has db k) (fun hk => hk) (fun fk cv => has_delete d t db id fk cv k) h

/-- What is left of its table has none of the ids whose DELETE is done. -/
theorem has_deleteIds_done (t : PruneTarget) (ids : List Nat) (execs : List Exec) (db : Database) (k : Nat)
    (h : t.has (deleteIds t.delete ids execs db).2 k) : k ∉ ids.take (deleteIds t.delete ids execs db).1 := by
  revert h
  fun_induction deleteIds t.delete ids execs db
  case case1 | case2 | case3 => simp
  case case4 id ids exec rest db warned db' hrun others ih =>
    intro h
    rw [List.take_succ_cons, List.mem_cons, not_or]
    exact ⟨((has_of_done t hrun k).mp (has_deleteIds_le t t ids rest db' k h)).2, ih h⟩

theorem has_bxPruneItems (d t : PruneTarget) (prepared : Bool) (conf : Int) (deletes : List Exec) (k : Nat)
    (h : t.has (bxPruneItems d.delete prepared conf deletes db c).2.1 k) : t.has db k := by
  unfold bxPruneItems at h
  split at h
  · obtain ⟨-, -, hdb, -⟩ := pruneLoop_eq d.delete (pruneDrift conf) deletes (cacheIterInit c) db c
    rw [hdb] at h
    exact has_deleteIds_le d t _ deletes db k h
  · exact h

/-- Wherever a prune ends, a row that is left has its stamp. -/
theorem quiet_bxPruneItems (prepared : Bool) (conf : Int) (deletes : List Exec) :
    t.stamps.Quiet listed (db, c)
      ((bxPruneItems t.delete prepared conf deletes db c).2.1, (bxPruneItems t.delete prepared conf deletes db c).2.2.1) := by
  intro k _ hhas
  refine ⟨has_bxPruneItems t t prepared conf deletes k hhas, ?_⟩
  have hhas : t.has (bxPruneItems t.delete prepared conf deletes db c).2.1 k := hhas
  show Option.map _ (Option.filter _ (Cache.entry _ k)) = Option.map _ (Option.filter _ (c.entry k))
  congr 1
  unfold bxPruneItems at hhas ⊢
  split at hhas
  · rename_i hp
    rw [if_pos hp]
    obtain ⟨-, -, hdb, hcache, -⟩ := pruneLoop_eq t.delete (pruneDrift conf) deletes (cacheIterInit c) db c
    rw [hdb] at hhas
    have hleft := has_deleteIds_done t _ deletes db k hhas
    rw [hcache]
    split
    · rename_i hall
      rw [hall, List.take_length] at hleft
      rw [Cache.entry_cachePrune, Cache.entry_tombstoneAll, if_neg hleft]
      cases c.entry k with
      | none => rfl
      | some item => by_cases hz : item.lastSeen = 0 <;> simp [Option.filter, hz, Nat.pos_iff_ne_zero]
    · rw [Cache.entry_tombstoneAll, if_neg hleft]
  · rename_i hp
    rw [if_neg hp]

/-- A prune without an error leaves no row that is due. -/
theorem sweeps_bxPruneItems {prepared : Bool} {conf : Int} {deletes : List Exec}
    (h : (bxPruneItems t.delete prepared conf deletes db c).1 = .noError) :
    t.stamps.Sweeps (pruneDrift conf) (db, c)
      ((bxPruneItems t.delete prepared conf deletes db c).2.1, (bxPruneItems t.delete prepared conf deletes db c).2.2.1) := by
  intro k n hhas hstamp
  have hhas : t.has (bxPruneItems t.delete prepared conf deletes db c).2.1 k := hhas
  obtain ⟨item, hentry, hpos, rfl⟩ := stamp_eq_some.mp hstamp
  show c.version < item.lastSeen + pruneDrift conf
  unfold bxPruneItems at h hhas
  split at h
  · rename_i hp
    rw [if_pos hp] at hhas
    have hids : prunableFrom c (pruneDrift conf) (cacheIterInit c) = cacheIterAll c (pruneDrift conf) :=
      (cacheIterCollect_eq c _ _ _ (Nat.lt_succ_self _)).symm
    obtain ⟨-, herror, hdb, -⟩ := pruneLoop_eq t.delete (pruneDrift conf) deletes (cacheIterInit c) db c
    rw [hids] at herror hdb
    rw [hdb] at hhas
    have hleft := has_deleteIds_done t _ deletes db k hhas
    rw [herror.mp h, List.take_length, mem_cacheIterAll_iff] at hleft
    by_contra hdue
    exact hleft ⟨item, hentry, hpos, by omega⟩
  · cases h

end

/-! ### A call of the chain -/

/-- The rows and the cache of one resource in the state of the chain. -/
def chainStamps (r : Resource) : Stamps ChainState Nat := (PruneTarget.resource r).stamps.comap fun s => (s.db, s.cache r)

/-- Every object that an answer to the requests of a phase holds has a listed id. -/
structure ChainInput.Serves (i : ChainInput) (phase : BXChainPhase) (listed : Resource → Nat → Prop) : Prop where
  contacts : phase.resource = .contact → ∀ item ∈ shownRows i.contacts, listed .contact (item.contact.id.getD 0)
  projects : phase = .project → ∀ item ∈ shownRows i.projects, listed .project (item.project.id.getD 0)
  invoices : phase = .invoiceList →
    ∀ item ∈ shownRows i.invoices, listed .invoice (item.invoice.id.getD 0) ∧ listed .invoice ((invoiceObject item).id.getD 0)
  missed : phase = .invoiceMissed →
    ∀ missed ∈ i.missed, ∀ reply, missed.reply = some reply → reply.httpCode = 200 → ∀ invoice, reply.decoded = some invoice →
      listed .invoice (invoice.id.getD 0) ∧ listed .invoice ((invoiceObject { invoice, answers := missed.answers }).id.getD 0)

/-- What the sync of objects of one resource leaves: its version, its rows outside the list, and the rows of the
    others. -/
structure SyncQuiet (r : Resource) (listed : Nat → Prop) (s s' : Database × Cache) : Prop where
  quiet : (PruneTarget.resource r).stamps.Quiet listed s s'
  version : s'.2.version = s.2.version
  rows : ∀ other, other ≠ r → ∀ k, (PruneTarget.resource other).row s'.1 k = (PruneTarget.resource other).row s.1 k

namespace SyncQuiet

variable {r : Resource} {listed : Nat → Prop} {s s' s'' : Database × Cache}

theorem refl (s : Database × Cache) : SyncQuiet r listed s s := ⟨.refl _, rfl, fun _ _ _ => rfl⟩

theorem trans (h : SyncQuiet r listed s s') (h' : SyncQuiet r listed s' s'') : SyncQuiet r listed s s'' where
  quiet := h.quiet.trans h'.quiet
  version := h'.version.trans h.version
  rows other hne k := (h'.rows other hne k).trans (h.rows other hne k)

end SyncQuiet

section

variable {listed : Nat → Prop}

theorem syncQuiet_contact (archived : Bool) (s : Database × Cache) (item : ContactItem) (h : listed (item.contact.id.getD 0)) :
    SyncQuiet .contact listed s (contactPageItem archived s item).2 := by
  obtain ⟨rows, links, hdb, hne⟩ := bxContactSyncItem_frame archived s.1 s.2 item
  have htouched := contactPageItem_touched archived s item
  have hdb : (contactPageItem archived s item).2.1 = { s.1 with contact := rows, cg2c := links } := hdb
  refine ⟨quiet_of_touched (fun k hk hhas => ?_) htouched h h, htouched.kept.version, fun other hother k => ?_⟩
  · rw [hdb] at hhas
    have hlookup := hne k fun heq => hk (heq ▸ h)
    show (s.1.contact.lookup k).isSome = true
    rw [← hlookup]
    exact hhas
  · rw [hdb]
    cases other <;> first | exact absurd rfl hother | rfl

theorem syncQuiet_project (s : Database × Cache) (item : ProjectItem) (h : listed (item.project.id.getD 0)) :
    SyncQuiet .project listed s (projectPageItem s item).2 := by
  obtain ⟨rows, hdb, hne⟩ := bxProjectSyncItem_frame s.1 s.2 item
  have htouched := projectPageItem_touched s item
  have hdb : (projectPageItem s item).2.1 = { s.1 with project := rows } := hdb
  refine ⟨quiet_of_touched (fun k hk hhas => ?_) htouched h h, htouched.kept.version, fun other hother k => ?_⟩
  · rw [hdb] at hhas
    have hlookup := hne k fun heq => hk (heq ▸ h)
    show (s.1.project.lookup k).isSome = true
    rw [← hlookup]
    exact hhas
  · rw [hdb]
    cases other <;> first | exact absurd rfl hother | rfl

theorem syncQuiet_invoice (s : Database × Cache) (item : InvoiceItem)
    (h : listed (item.invoice.id.getD 0) ∧ listed ((invoiceObject item).id.getD 0)) :
    SyncQuiet .invoice listed s (invoicePageItem s item).2 := by
  obtain ⟨rows, positions, hdb, hne⟩ := bxInvoiceSyncItem_frame s.1 s.2 item
  have htouched := invoicePageItem_touched s item
  have hdb : (invoicePageItem s item).2.1 = { s.1 with invoice := rows, invoicePosition := positions } := hdb
  refine ⟨quiet_of_touched (fun k hk hhas => ?_) htouched h.1 h.2, htouched.kept.version, fun other hother k => ?_⟩
  · rw [hdb] at hhas
    have hlookup := hne k fun heq => hk (heq ▸ h.2)
    show (s.1.invoice.lookup k).isSome = true
    rw [← hlookup]
    exact hhas
  · rw [hdb]
    cases other <;> first | exact absurd rfl hother | rfl

/-- The missed phase requests ids that are not listed, too. Only an object of an answer 200 is synced. -/
theorem syncQuiet_fetchMissed (replies : List MissedReply) (iter : CacheIter) (db : Database) (c : Cache)
    (h : ∀ missed ∈ replies, ∀ reply, missed.reply = some reply → reply.httpCode = 200 → ∀ invoice, reply.decoded = some invoice →
      listed (invoice.id.getD 0) ∧ listed ((invoiceObject { invoice, answers := missed.answers }).id.getD 0)) :
    SyncQuiet .invoice listed (db, c)
      ((fetchMissed replies iter db c).2.1, (fetchMissed replies iter db c).2.2.1) := by
  revert h
  fun_induction fetchMissed replies iter db c
  case case1 | case2 | case3 | case5 | case6 => exact fun _ => .refl _
  case case4 ih => exact fun h => ih fun missed hmissed => h missed (List.mem_cons_of_mem _ hmissed)
  case case7 missed rest _ reply hreply _ _ invoice hdecoded hcode synced _ =>
    intro h
    exact syncQuiet_invoice (_, _) { invoice, answers := missed.answers }
      (h missed List.mem_cons_self reply hreply (not_not.mp hcode) invoice hdecoded)
  case case8 missed rest _ reply hreply _ _ invoice hdecoded hcode synced _ others ih =>
    intro h
    exact (syncQuiet_invoice (_, _) { invoice, answers := missed.answers }
      (h missed List.mem_cons_self reply hreply (not_not.mp hcode) invoice hdecoded)).trans
      (ih fun missed hmissed => h missed (List.mem_cons_of_mem _ hmissed))

end

/-- The tables and the cache that a phase leaves are those of its walk. -/
def ChainOut.leaves (out : ChainOut) (r : Resource) (store : Database × Cache) : Prop :=
  out.state.db = store.1 ∧ out.state.cache r = store.2

section

variable (s : ChainState) (i : ChainInput)

theorem leaves_syncContactActive :
    (syncContactActive s i).leaves .contact (walkContacts { s with contactFromZero := false } i false .contactActive).store := by
  unfold syncContactActive ChainOut.leaves
  dsimp only
  split <;> exact ⟨rfl, rfl⟩

theorem leaves_syncContactArchived :
    (syncContactArchived s i).leaves .contact (walkContacts s i true .contactArchived).store := by
  unfold syncContactArchived ChainOut.leaves
  dsimp only
  split <;> exact ⟨rfl, rfl⟩

theorem leaves_syncProject : (syncProject s i).leaves .project (walkProjects s i).store := by
  unfold syncProject ChainOut.leaves
  dsimp only
  split <;> exact ⟨rfl, rfl⟩

theorem leaves_syncInvoiceList :
    (syncInvoiceList s i).leaves .invoice (walkInvoices { s with invoiceFromZero := false } i).store := by
  unfold syncInvoiceList ChainOut.leaves
  dsimp only
  split_ifs <;> exact ⟨rfl, rfl⟩

theorem leaves_syncInvoiceMissed : (syncInvoiceMissed s i).leaves .invoice
    ((bxInvoiceFetchMissed i.missed s.db s.invoices).2.1, (bxInvoiceFetchMissed i.missed s.db s.invoices).2.2.1) := by
  unfold syncInvoiceMissed ChainOut.leaves
  dsimp only
  split <;> exact ⟨rfl, rfl⟩

end

/-- A call keeps the version of every cache, and leaves the rows that are not listed alone. -/
structure CallQuiet (listed : Resource → Nat → Prop) (s s' : ChainState) : Prop where
  quiet : ∀ r, (chainStamps r).Quiet (listed r) s s'
  version : ∀ r, (s'.cache r).version = (s.cache r).version

section

variable {listed : Resource → Nat → Prop} {s s' s'' : ChainState} {i : ChainInput}

theorem CallQuiet.refl (s : ChainState) : CallQuiet listed s s := ⟨fun _ => .refl _, fun _ => rfl⟩

theorem CallQuiet.trans (h : CallQuiet listed s s') (h' : CallQuiet listed s' s'') : CallQuiet listed s s'' :=
  ⟨fun r => (h.quiet r).trans (h'.quiet r), fun r => (h'.version r).trans (h.version r)⟩

theorem SyncQuiet.of_leaves {r : Resource} {s store : Database × Cache} {out : ChainOut} {listed : Nat → Prop}
    (h : SyncQuiet r listed s store) (hleaves : out.leaves r store) : SyncQuiet r listed s (out.state.db, out.state.cache r) := by
  obtain ⟨hdb, hcache⟩ := hleaves
  rwa [hdb, hcache]

/-- A phase is the sync of objects of its resource. -/
theorem syncQuiet_bxChainSync (hc : i.connected = true) (h : i.Serves s.cursors.memory.phase listed) :
    SyncQuiet s.cursors.memory.phase.resource (listed s.cursors.memory.phase.resource)
      (s.db, s.cache s.cursors.memory.phase.resource)
      ((bxChainSync s i).state.db, (bxChainSync s i).state.cache s.cursors.memory.phase.resource) := by
  have hrefl : ∀ (r : Resource) (s : Database × Cache), SyncQuiet r (listed r) s s := fun _ => .refl
  cases hp : s.cursors.memory.phase with
  | contactActive =>
    rw [hp] at h
    rw [bxChainSync_contactActive hc hp]
    exact ((contactWalker false _).walkPagesFrom_rel (hrefl .contact) .trans (syncQuiet_contact false) _ _ _ _ _
      (h.contacts rfl)).of_leaves (leaves_syncContactActive s i)
  | contactArchived =>
    rw [hp] at h
    rw [bxChainSync_contactArchived hc hp]
    exact ((contactWalker true _).walkPagesFrom_rel (hrefl .contact) .trans (syncQuiet_contact true) _ _ _ _ _
      (h.contacts rfl)).of_leaves (leaves_syncContactArchived s i)
  | project =>
    rw [hp] at h
    rw [bxChainSync_project hc hp]
    exact ((projectWalker _).walkPagesFrom_rel (hrefl .project) .trans syncQuiet_project _ _ _ _ _
      (h.projects rfl)).of_leaves (leaves_syncProject s i)
  | invoiceList =>
    rw [hp] at h
    rw [bxChainSync_invoiceList hc hp]
    exact ((invoiceWalker _).walkPagesFrom_rel (hrefl .invoice) .trans syncQuiet_invoice _ _ _ _ _
      (h.invoices rfl)).of_leaves (leaves_syncInvoiceList s i)
  | invoiceMissed =>
    rw [hp] at h
    rw [bxChainSync_invoiceMissed hc hp]
    exact (syncQuiet_fetchMissed _ _ _ _ (h.missed rfl)).of_leaves (leaves_syncInvoiceMissed s i)

/-- A phase changes the rows of its resource only. -/
theorem rows_bxChainSync (s : ChainState) (i : ChainInput) {r : Resource}
    (hr : i.connected = true → s.cursors.memory.phase.resource ≠ r) (k : Nat) :
    (PruneTarget.resource r).row (bxChainSync s i).state.db k = (PruneTarget.resource r).row s.db k := by
  cases hc : i.connected with
  | false => rw [bxChainSync_disconnected hc]
  | true =>
    have hserves : i.Serves s.cursors.memory.phase fun _ _ => True :=
      ⟨fun _ _ _ => trivial, fun _ _ _ => trivial, fun _ _ _ => ⟨trivial, trivial⟩, fun _ _ _ _ _ _ _ _ => ⟨trivial, trivial⟩⟩
    exact (syncQuiet_bxChainSync hc hserves).rows r (hr hc).symm k

theorem callQuiet_bxChainSync (h : i.Serves s.cursors.memory.phase listed) : CallQuiet listed s (bxChainSync s i).state := by
  cases hc : i.connected with
  | false =>
    rw [bxChainSync_disconnected hc]
    exact .refl s
  | true =>
    have hsync := syncQuiet_bxChainSync hc h
    have hframe := fun other (hother : other ≠ s.cursors.memory.phase.resource) =>
      frame_bxChainSync s i other fun _ heq => hother heq.symm
    generalize s.cursors.memory.phase.resource = r at hsync hframe
    refine ⟨fun other => ?_, fun other => ?_⟩ <;> by_cases hother : other = r
    · subst hother
      exact hsync.quiet
    · intro k hk hhas
      refine ⟨?_, ?_⟩
      · show (PruneTarget.resource other).has s.db k = true
        rw [PruneTarget.has_eq, ← hsync.rows other hother k, ← PruneTarget.has_eq]
        exact hhas
      · show (PruneTarget.resource other).stamps.stamp (_, (bxChainSync s i).state.cache other) k = _
        rw [(hframe other hother).cache]
        rfl
    · subst hother
      exact hsync.version
    · rw [(hframe other hother).cache]

end

/-! ### The prunes of a call -/

def ChainStepInput.pruneAnswers (i : ChainStepInput) : Resource → PruneAnswers
  | .contact => i.contactPrune
  | .project => i.projectPrune
  | .invoice => i.invoicePrune

/-- `bx_prune_items` for one resource. -/
def ChainStepInput.prune (i : ChainStepInput) (r : Resource) (s : ChainState) : BXillError × Database × Cache × List Event :=
  bxPruneItems r.delete (i.pruneAnswers r).prepared i.drift (i.pruneAnswers r).deletes s.db (s.cache r)

/-- A prune that is called leaves its tables, its cache and its error. -/
structure PruneEffect (i : ChainStepInput) (r : Resource) (p p' : PruneState) : Prop where
  error : p'.error = (i.prune r p.state).1
  db : p'.state.db = (i.prune r p.state).2.1
  cache : p'.state.cache r = (i.prune r p.state).2.2.1
  other : ∀ other, other ≠ r → p'.state.cache other = p.state.cache other
  called : p'.called = p.called ++ [r]
  before : p.error = .noError

section

variable (i : ChainStepInput) (flag : Bool) (p : PruneState)

theorem pruneContacts_effect : pruneContacts i flag p = p ∨ PruneEffect i .contact p (pruneContacts i flag p) := by
  unfold pruneContacts
  split
  · rename_i h
    exact Or.inr ⟨rfl, rfl, rfl, fun other hne => by cases other <;> first | exact absurd rfl hne | rfl, rfl, h.1⟩
  · exact Or.inl rfl

theorem pruneProjects_effect : pruneProjects i flag p = p ∨ PruneEffect i .project p (pruneProjects i flag p) := by
  unfold pruneProjects
  split
  · rename_i h
    exact Or.inr ⟨rfl, rfl, rfl, fun other hne => by cases other <;> first | exact absurd rfl hne | rfl, rfl, h.1⟩
  · exact Or.inl rfl

theorem pruneInvoices_effect : pruneInvoices i flag p = p ∨ PruneEffect i .invoice p (pruneInvoices i flag p) := by
  unfold pruneInvoices
  split
  · rename_i h
    exact Or.inr ⟨rfl, rfl, rfl, fun other hne => by cases other <;> first | exact absurd rfl hne | rfl, rfl, h.1⟩
  · exact Or.inl rfl

end

section

variable {listed : Resource → Nat → Prop} {i : ChainStepInput} {r : Resource} {p p' : PruneState}

theorem PruneEffect.quiet (h : PruneEffect i r p p') : CallQuiet listed p.state p'.state := by
  refine ⟨fun other => ?_, fun other => ?_⟩ <;> by_cases hother : other = r
  · subst hother
    show (PruneTarget.resource other).stamps.Quiet (listed other) _ (p'.state.db, p'.state.cache other)
    rw [h.db, h.cache]
    exact quiet_bxPruneItems (t := .resource other) _ _ _
  · intro k _ hhas
    have hhas : p'.state.db.has other k := hhas
    rw [h.db] at hhas
    refine ⟨has_bxPruneItems (.resource r) (.resource other) _ _ _ k hhas, ?_⟩
    show (PruneTarget.resource other).stamps.stamp (_, p'.state.cache other) k = _
    rw [h.other other hother]
    rfl
  · subst hother
    rw [h.cache]
    exact (pruned_bxPruneItems other.delete _ _ _ _ _).version
  · rw [h.other other hother]

theorem PruneEffect.sweeps (h : PruneEffect i r p p') (herror : p'.error = .noError) :
    (chainStamps r).Sweeps (pruneDrift i.drift) p.state p'.state := by
  rw [h.error] at herror
  show (PruneTarget.resource r).stamps.Sweeps _ _ (p'.state.db, p'.state.cache r)
  rw [h.db, h.cache]
  exact sweeps_bxPruneItems (t := .resource r) herror

/-- The prunes of a call in their order. -/
theorem pruneStep_effects (i : ChainStepInput) (out : ChainOut) :
    ∃ p₀ p₁ p₂ : PruneState, p₀.state = out.state ∧ p₀.called = [] ∧
      (p₁ = p₀ ∨ PruneEffect i .contact p₀ p₁) ∧ (p₂ = p₁ ∨ PruneEffect i .project p₁ p₂) ∧
      (pruneStep i out = p₂ ∨ PruneEffect i .invoice p₂ (pruneStep i out)) :=
  ⟨_, _, _, rfl, rfl, pruneContacts_effect .., pruneProjects_effect .., pruneInvoices_effect ..⟩

theorem quiet_of_effect (h : p' = p ∨ PruneEffect i r p p') : CallQuiet listed p.state p'.state := by
  rcases h with rfl | h
  · exact .refl _
  · exact h.quiet

theorem callQuiet_pruneStep (i : ChainStepInput) (out : ChainOut) : CallQuiet listed out.state (pruneStep i out).state := by
  obtain ⟨p₀, p₁, p₂, hstart, -, h₁, h₂, h₃⟩ := pruneStep_effects i out
  rw [← hstart]
  exact ((quiet_of_effect h₁).trans (quiet_of_effect h₂)).trans (quiet_of_effect h₃)

theorem error_of_effect (h : p' = p ∨ PruneEffect i r p p') (herror : p'.error = .noError) : p.error = .noError := by
  rcases h with rfl | h
  · exact herror
  · exact h.before

theorem called_of_effect {r' : Resource} (h : p' = p ∨ PruneEffect i r p p') (hcalled : r' ∈ p'.called) :
    r' ∈ p.called ∨ (r' = r ∧ PruneEffect i r p p') := by
  rcases h with rfl | h
  · exact Or.inl hcalled
  · rw [h.called, List.mem_append, List.mem_singleton] at hcalled
    exact hcalled.imp_right fun heq => ⟨heq, h⟩

/-- Prunes without an error have swept each resource they were called for. -/
theorem pruneStep_swept (listed : Resource → Nat → Prop) (i : ChainStepInput) (out : ChainOut) (hcalled : r ∈ (pruneStep i out).called)
    (herror : (pruneStep i out).error = .noError) :
    ∃ s₁ s₂, CallQuiet listed out.state s₁ ∧ (chainStamps r).Sweeps (pruneDrift i.drift) s₁ s₂ ∧
      CallQuiet listed s₁ s₂ ∧ CallQuiet listed s₂ (pruneStep i out).state := by
  obtain ⟨p₀, p₁, p₂, hstart, hnone, h₁, h₂, h₃⟩ := pruneStep_effects i out
  have herror₂ := error_of_effect h₃ herror
  have herror₁ := error_of_effect h₂ herror₂
  rw [← hstart]
  rcases called_of_effect h₃ hcalled with hcalled | ⟨rfl, heffect⟩
  · rcases called_of_effect h₂ hcalled with hcalled | ⟨rfl, heffect⟩
    · rcases called_of_effect h₁ hcalled with hcalled | ⟨rfl, heffect⟩
      · rw [hnone] at hcalled
        cases hcalled
      · exact ⟨p₀.state, p₁.state, .refl _, heffect.sweeps herror₁, heffect.quiet, (quiet_of_effect h₂).trans (quiet_of_effect h₃)⟩
    · exact ⟨p₁.state, p₂.state, quiet_of_effect h₁, heffect.sweeps herror₂, heffect.quiet, quiet_of_effect h₃⟩
  · exact ⟨p₂.state, _, (quiet_of_effect h₁).trans (quiet_of_effect h₂), heffect.sweeps herror, heffect.quiet, .refl _⟩

end

/-! ### Runs -/

section

variable {listed : Resource → Nat → Prop} {r : Resource} {s : ChainState} {i : ChainStepInput}

theorem cache_bumpStep (result : BXChainResult) (s : ChainState) (r : Resource) :
    (bumpStep result s).cache r = if result.bump r then cacheNextVersion (s.cache r) else s.cache r := by
  cases r <;> rfl

/-- A call of `chain_thread` leaves the rows that are not listed alone, and its bump makes them one version older. -/
theorem quiet_chainStep (h : i.sync.Serves s.cursors.memory.phase listed) (r : Resource)
    (hwrap : (chainStep s i).1.out.result.bump r → (s.cache r).version + 1 < uint64Max) :
    (chainStamps r).Quiet (listed r) s (chainStep s i).2 ∧
      ((chainStep s i).2.cache r).version = (s.cache r).version + ((chainStep s i).1.out.result.bump r).toNat := by
  have hcall : CallQuiet listed s (pruneStep i (bxChainSync s i.sync)).state :=
    (callQuiet_bxChainSync h).trans (callQuiet_pruneStep i _)
  have hversion := hcall.version r
  have hcache : (chainStep s i).2.cache r =
      if (bxChainSync s i.sync).result.bump r then cacheNextVersion ((pruneStep i (bxChainSync s i.sync)).state.cache r)
      else (pruneStep i (bxChainSync s i.sync)).state.cache r := cache_bumpStep ..
  have hwrap : (bxChainSync s i.sync).result.bump r → (s.cache r).version + 1 < uint64Max := hwrap
  show (PruneTarget.resource r).stamps.Quiet (listed r) _ ((pruneStep i (bxChainSync s i.sync)).state.db, (chainStep s i).2.cache r) ∧
    _ = (s.cache r).version + ((bxChainSync s i.sync).result.bump r).toNat
  rw [hcache]
  cases hbump : (bxChainSync s i.sync).result.bump r with
  | false => exact ⟨hcall.quiet r, hversion⟩
  | true =>
    have hne : ((pruneStep i (bxChainSync s i.sync)).state.cache r).version + 1 ≠ uint64Max := by
      rw [hversion]
      exact Nat.ne_of_lt (hwrap hbump)
    refine ⟨Stamps.Quiet.trans (v := (PruneTarget.resource r).stamps) (hcall.quiet r) (quiet_cacheNextVersion hne), ?_⟩
    rw [if_pos rfl, Cache.version_cacheNextVersion _ hne, hversion]
    rfl

/-- The server lists what a call shows. -/
def ChainCall.Serves (call : ChainCall) (listed : Resource → Nat → Prop) : Prop :=
  call.input.sync.Serves call.pre.cursors.memory.phase listed

/-- A call that prunes a resource without an error leaves no row of it outside the list that is as old as the drift. -/
theorem swept_chainStep {n : Nat} (h : (chainStep s i).1.Serves listed) (haged : (chainStamps r).Aged (listed r) n s)
    (hdrift : pruneDrift i.drift ≤ n) (hcalled : r ∈ (chainStep s i).1.prunes.called)
    (herror : (chainStep s i).1.prunes.error = .noError) (id : Nat) (hid : (chainStep s i).2.db.has r id) : listed r id := by
  have hsync : CallQuiet listed s (bxChainSync s i.sync).state := callQuiet_bxChainSync h
  obtain ⟨s₁, s₂, hbefore, hsweep, hquiet, hafter⟩ := pruneStep_swept listed i _ hcalled herror
  have hdue := (haged.step (hsync.quiet r) (k := 0) (hsync.version r)).step (hbefore.quiet r) (k := 0) (hbefore.version r)
  by_contra hnot
  have hid : (chainStamps r).has (pruneStep i (bxChainSync s i.sync)).state id := hid
  exact hnot (hdue.swept (hquiet.quiet r) hsweep hdrift id (hafter.quiet r id hnot hid).1)

/-- Whatever fails on the way: once as many bumps of a resource as the drift have passed in which the server did
    not show an id, the next prune of the resource without an error leaves no row of it. -/
theorem noStrays (listed : Resource → Nat → Prop) (r : Resource) (s : ChainState) (inputs : List ChainStepInput)
    (last : ChainStepInput) (hserves : ∀ call ∈ outputs chainStep s (inputs ++ [last]), call.Serves listed)
    (hstart : ∀ id, ¬listed r id → s.db.has r id → (s.cache r).Live id)
    (hversion : (s.cache r).version + (outputs chainStep s inputs).countP (fun call => call.out.result.bump r) < uint64Max)
    (hdrift : pruneDrift last.drift ≤ (outputs chainStep s inputs).countP fun call => call.out.result.bump r)
    (hcalled : r ∈ (chainStep (final chainStep s inputs) last).1.prunes.called)
    (herror : (chainStep (final chainStep s inputs) last).1.prunes.error = .noError) :
    ∀ id, (final chainStep s (inputs ++ [last])).db.has r id → listed r id := by
  rw [outputs_append] at hserves
  obtain ⟨hcalls, hserved⟩ := List.forall_mem_append.mp hserves
  obtain ⟨haged, -⟩ := Stamps.Aged.run (v := chainStamps r) chainStep (C := fun call => call.Serves listed)
    (fun s i h hwrap => quiet_chainStep h r hwrap) inputs s 0 (aged_zero hstart) hcalls hversion
  rw [Nat.zero_add] at haged
  rw [final_append]
  exact swept_chainStep (hserved _ List.mem_cons_self) haged hdrift hcalled herror

end

/-! ### A project that is gone

    Project 1 was hydrated. The server has no project any more: one walk that is not answered, one that is. -/

def goneStart : ChainState :=
  bxChainInit { Database.empty with project := AList.insert 1 ⟨7, none⟩ ∅ } cacheCreate (bxCacheHydrate [(1, 7)] cacheCreate)
    cacheCreate ⟨.project, 0⟩

def goneReplies : ChainStepInput :=
  { ChainStepInput.of { ChainInput.silent with projects := [savedPage []] } with projectPrune := ⟨true, [.ran false false]⟩ }

/-- What a sync over pages of no rows serves. -/
theorem serves_of_none {i : ChainInput} {phase : BXChainPhase} {listed : Resource → Nat → Prop}
    (hcontacts : shownRows i.contacts = []) (hprojects : shownRows i.projects = []) (hinvoices : shownRows i.invoices = [])
    (hmissed : i.missed = []) : i.Serves phase listed :=
  ⟨by simp [hcontacts], by simp [hprojects], by simp [hinvoices], by simp [hmissed]⟩

theorem noStrays_project : (final chainStep goneStart [.of .silent, goneReplies]).db.has .project 1 = false := by
  have hserves : ∀ call ∈ outputs chainStep goneStart [.of .silent, goneReplies], call.Serves fun _ _ => False :=
    List.forall_mem_cons.mpr ⟨serves_of_none rfl rfl rfl rfl, List.forall_mem_singleton.mpr (serves_of_none rfl rfl rfl rfl)⟩
  have hstart : ∀ id, ¬False → goneStart.db.has .project id → (goneStart.cache .project).Live id := by
    intro id _ hid
    obtain rfl : id = 1 := by
      by_contra hne
      have hlookup : (AList.insert 1 (⟨7, none⟩ : ProjectRow) (∅ : Table Nat ProjectRow)).lookup id = none := by
        rw [AList.lookup_insert_ne hne]
        rfl
      have hsome : ((AList.insert 1 (⟨7, none⟩ : ProjectRow) (∅ : Table Nat ProjectRow)).lookup id).isSome = true := hid
      rw [hlookup] at hsome
      cases hsome
    exact Cache.live_cacheSetItem cacheCreate 1 7
  exact Bool.eq_false_iff.mpr (noStrays (fun _ _ => False) .project goneStart [.of .silent] goneReplies hserves hstart
    (by decide) (by decide) (by decide) (by decide) 1)

end BxSync
