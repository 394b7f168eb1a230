import BxSync.Theorems.PruneAtomic

/-! Whether every live id of the invoice cache has its row. The DELETE of a project takes the rows of its invoices
    along, and nothing tells the cache. -/

namespace BxSync

open Machine

/-! ### The property -/

/-- An invoice that the cache knows is in the table. -/
def InvoicesStored (m : Mirror) : Prop := ∀ id, (m.cache .invoice).Live id → m.db.has .invoice id = true

/-- A DELETE takes effect. -/
def Exec.deletes : Exec → Bool
  | .unsent _ => false
  | .ran fkError _ => !fkError
  | .unreported fkError _ _ => !fkError

/-- A DELETE is done and reported. -/
def Exec.deleteReported : Exec → Bool
  | .ran fkError _ => !fkError
  | _ => false

/-- The DELETEs a prune sends for a list of ids: it stops at the first that fails. -/
def sentDeletes : List Nat → List Exec → List (Nat × Exec)
  | id :: ids, exec :: execs => (id, exec) :: if exec.deleteReported then sentDeletes ids execs else []
  | _, _ => []

/-- A changed invoice is stored under an id that has a row, or not stored. -/
def InvoiceItem.storesRow (db : Database) (c : Cache) (item : InvoiceItem) : Bool :=
  (cacheCheckItem c (item.invoice.id.getD 0) item.invoice.checksum).1 ≠ .cacheNotSync ||
    db.has .invoice ((invoiceObject item).id.getD 0) ||
    invoiceParentsPresent db (invoiceObject item) item.answers ≠ (.noError, true)

instance (c : Cache) (id : Nat) : Decidable (c.Live id) :=
  decidable_of_iff ((c.entry id).any fun item => 0 < item.lastSeen) (by simp [Cache.Live, Option.any_eq_true])

/-- No project is deleted while a live invoice refers to it, no invoice is deleted without a report, a changed
    invoice is stored under an id that has a row, and the version does not wrap over a tombstone. -/
def StoredCondition (call : MirrorCall) : Prop :=
  let invoices := call.pre.cache .invoice
  match call.input with
  | .invoice item => item.storesRow call.pre.db invoices
  | .prune .project true conf deletes =>
    ∀ sent ∈ sentDeletes (cacheIterAll (call.pre.cache .project) (pruneDrift conf)) deletes, sent.2.deletes →
      ∀ row ∈ call.pre.db.invoice.entries, row.2.projectId = some sent.1 → ¬invoices.Live row.1
  | .prune .invoice true conf deletes =>
    ∀ sent ∈ sentDeletes (cacheIterAll invoices (pruneDrift conf)) deletes, sent.2.deletes → sent.2.deleteReported
  | .bump .invoice => invoices.version + 1 = uint64Max → ∀ item ∈ invoices.items, 0 < item.lastSeen
  | _ => True

/-! ### Live ids -/

namespace Cache

variable (c : Cache) (id k : Nat)

theorem live_cacheCheckItem (checksum : Nat) : (cacheCheckItem c id checksum).2.Live k ↔ c.Live k := by
  refine ⟨fun ⟨item, hentry, hpos⟩ => ?_, fun h => h.check id checksum⟩
  rw [entry_cacheCheckItem] at hentry
  split at hentry
  · subst_vars
    obtain ⟨old, hold, rfl⟩ := Option.map_eq_some_iff.mp hentry
    refine ⟨old, hold, ?_⟩
    split at hpos
    · exact hpos
    · exact Nat.pos_of_ne_zero ‹_›
  · exact ⟨item, hentry, hpos⟩

theorem live_cacheSetItem_iff (checksum : Nat) : (cacheSetItem c id checksum).Live k ↔ k = id ∨ c.Live k := by
  constructor
  · rintro ⟨item, hentry, hpos⟩
    rw [entry_cacheSetItem] at hentry
    split at hentry
    · exact Or.inl ‹_›
    · exact Or.inr ⟨item, hentry, hpos⟩
  · rintro (rfl | h)
    · exact live_cacheSetItem c k checksum
    · exact h.set id checksum

theorem mem_of_live_bxCacheHydrate {rows : List (Nat × Nat)} (h : (bxCacheHydrate rows c).Live k) :
    k ∈ rows.map Prod.fst ∨ c.Live k := by
  unfold bxCacheHydrate at h
  induction rows generalizing c with
  | nil => exact Or.inr h
  | cons row rows ih =>
    rcases ih _ h with hmem | hlive
    · exact Or.inl (List.mem_cons_of_mem _ hmem)
    · rcases (live_cacheSetItem_iff c row.1 k row.2).mp hlive with rfl | hlive
      · exact Or.inl List.mem_cons_self
      · exact Or.inr hlive

variable {c k}

/-- A wrap revives tombstones. -/
theorem live_of_cacheNextVersion (hwrap : c.version + 1 = uint64Max → ∀ item ∈ c.items, 0 < item.lastSeen)
    (h : (cacheNextVersion c).Live k) : c.Live k := by
  obtain ⟨item, hentry, hpos⟩ := h
  by_cases hmax : c.version + 1 = uint64Max
  · rw [cacheNextVersion_wrap c hmax, entry_cacheResetVersion] at hentry
    obtain ⟨old, hold, rfl⟩ := Option.map_eq_some_iff.mp hentry
    exact ⟨old, hold, hwrap hmax old (c.entry_eq_some.mp hold).1⟩
  · rw [entry_cacheNextVersion c hmax] at hentry
    exact ⟨item, hentry, hpos⟩

end Cache

/-! ### One invoice -/

section

variable {α : Type} {t : Table Nat α}

theorem persist_keeps (exec : Exec) (state : CacheState) (id : Option Nat) (row : α) (orphan : Bool) {k : Nat}
    (hk : (t.lookup k).isSome) :
    (((exec.run t fun fk cv =>
      if state = .cacheNotSet then insertIgnoreId t id row (fk || orphan) cv
      else Table.update t id row (fk || orphan) cv).2).lookup k).isSome := by
  have hinsert : ∀ key, ((t.insert key row).lookup k).isSome := fun key => by
    rw [Table.lookup_insert_eq]
    split
    · rfl
    · exact hk
  refine exec.run_table (Q := fun t' : Table Nat α => (t'.lookup k).isSome) hk fun fk cv => ?_
  unfold insertIgnoreId Table.insertIgnore Table.update
  split
  · split
    · exact hk
    · exact hinsert _
  · cases id with
    | none => exact hk
    | some key =>
      dsimp only
      split_ifs
      · exact hk
      · exact hinsert _
      · exact hk

theorem insertIgnoreId_written {exec : Exec} {id : Option Nat} {row : α} {orphan : Bool}
    (h : (exec.run t fun fk cv => insertIgnoreId t id row (fk || orphan) cv).1 = .done false) :
    (((exec.run t fun fk cv => insertIgnoreId t id row (fk || orphan) cv).2).lookup (id.getD 0)).isSome := by
  obtain ⟨fk, cv, heffect⟩ := Exec.run_done h
  generalize (exec.run t fun fk cv => insertIgnoreId t id row (fk || orphan) cv).2 = t' at heffect
  unfold insertIgnoreId Table.insertIgnore at heffect
  split at heffect
  · nomatch heffect
  · rw [← (Prod.mk.inj heffect).2, AList.lookup_insert]
    rfl

end

/-- Without a warning the row of the object is there, if it was there before an UPDATE. -/
theorem has_persistInvoice {state : CacheState} {db db' : Database} {invoice : BXObjectInvoice} {a : InvoiceAnswers}
    (h : persistInvoice state db invoice a = (.done false, db'))
    (hrow : state ≠ .cacheNotSet → db.has .invoice (invoice.id.getD 0) = true) :
    db'.has .invoice (invoice.id.getD 0) = true := by
  obtain ⟨hstmt, rfl⟩ := Prod.mk.inj h
  by_cases hstate : state = .cacheNotSet
  · simp only [hstate, if_true] at hstmt ⊢
    exact insertIgnoreId_written hstmt
  · exact persist_keeps _ _ _ _ _ (hrow hstate)

theorem persistInvoice_keeps (state : CacheState) (db : Database) (invoice : BXObjectInvoice) (a : InvoiceAnswers) {k : Nat}
    (hk : db.has .invoice k = true) : (persistInvoice state db invoice a).2.has .invoice k = true :=
  persist_keeps _ _ _ _ _ hk

theorem has_bxInvoicePositionsStore (db : Database) (invoiceId : Nat) (positions : Positions) (answers : List PositionAnswers)
    (k : Nat) : (bxInvoicePositionsStore db invoiceId positions answers).2.has .invoice k = db.has .invoice k := by
  rw [bxInvoicePositionsStore_frame]
  rfl

theorem stored_invoice {db : Database} {c : Cache} {item : InvoiceItem} (h : ∀ id, c.Live id → db.has .invoice id = true)
    (hC : item.storesRow db c = true) :
    ∀ id, (bxInvoiceSyncItem db c item).2.2.Live id → (bxInvoiceSyncItem db c item).2.1.has .invoice id = true := by
  have hchecked : ∀ id, (cacheCheckItem c (item.invoice.id.getD 0) item.invoice.checksum).2.Live id → db.has .invoice id = true :=
    fun id hlive => h id ((Cache.live_cacheCheckItem c _ _ _).mp hlive)
  unfold bxInvoiceSyncItem
  dsimp only
  split
  · exact hchecked
  rename_i hnotOk
  split
  · exact hchecked
  split
  · exact hchecked
  rename_i herror hpresent
  have hparents : invoiceParentsPresent db (invoiceObject item) item.answers = (.noError, true) :=
    Prod.ext (not_not.mp herror) (by simpa using hpresent)
  have hkeeps : ∀ k, db.has .invoice k = true → (persistInvoice (cacheCheckItem c (item.invoice.id.getD 0)
      item.invoice.checksum).1 db (invoiceObject item) item.answers).2.has .invoice k = true :=
    fun k => persistInvoice_keeps _ _ _ _
  split
  · rename_i heq
    rw [heq] at hkeeps
    exact fun id hlive => hkeeps id (hchecked id hlive)
  · rename_i warned db' heq
    rw [heq] at hkeeps
    split
    · exact fun id hlive => hkeeps id (hchecked id hlive)
    · rename_i hok
      obtain rfl : warned = false := by
        cases warned
        · rfl
        · exact absurd rfl hok
      have hself : db'.has .invoice ((invoiceObject item).id.getD 0) = true := by
        refine has_persistInvoice heq fun hstate => ?_
        -- The state is not set, not in sync or ok.
        have hsync : (cacheCheckItem c (item.invoice.id.getD 0) item.invoice.checksum).1 = .cacheNotSync := by
          cases hcase : (cacheCheckItem c (item.invoice.id.getD 0) item.invoice.checksum).1 <;> simp_all
        simpa [InvoiceItem.storesRow, hsync, hparents] using hC
      unfold storeInvoiceParts
      dsimp only
      split
      · intro id hlive
        rw [has_bxInvoicePositionsStore]
        rcases (Cache.live_cacheSetItem_iff _ _ _ _).mp hlive with rfl | hlive
        · exact hself
        · exact hkeeps id (hchecked id hlive)
      · intro id hlive
        rw [has_bxInvoicePositionsStore]
        exact hkeeps id (hchecked id hlive)

/-! ### Prunes -/

/-- A project and its invoices go together, and no other invoice. -/
theorem invoice_deleteProject (db : Database) (id k : Nat) (cv : Bool) {row : InvoiceRow} (hrow : db.invoice.lookup k = some row)
    (hproject : row.projectId ≠ some id) : (db.deleteProject id false cv).2.invoice.lookup k = some row := by
  have hkept : k ∉ (db.invoice.entries.filter fun e => e.2.projectId = some id).map Sigma.fst := by
    intro hmem
    obtain ⟨e, he, rfl⟩ := List.mem_map.mp hmem
    obtain ⟨hentry, hid⟩ := List.mem_filter.mp he
    have := hrow.symm.trans (AList.mem_lookup_iff.mpr hentry)
    obtain rfl := Option.some.inj this
    exact hproject (by simpa using hid)
  show (Table.eraseAll db.invoice _).lookup k = some row
  rw [Table.lookup_eraseAll, if_neg hkept, hrow]

theorem run_delete_of_not_deletes (resource : Resource) {exec : Exec} (h : exec.deletes = false) (db : Database) (id : Nat) :
    (exec.run db (resource.delete db id)).2 = db := by
  cases exec with
  | unsent => rfl
  | ran fk cv =>
    obtain rfl : fk = true := by simpa [Exec.deletes] using h
    simp only [Exec.run, delete_refused]
  | unreported fk cv _ =>
    obtain rfl : fk = true := by simpa [Exec.deletes] using h
    simp only [Exec.run, delete_refused]

theorem run_delete_of_deletes (resource : Resource) {exec : Exec} (h : exec.deletes = true) (db : Database) (id : Nat) :
    (exec.run db (resource.delete db id)).2 = (resource.delete db id false false).2 := by
  cases exec with
  | unsent => nomatch h
  | ran fk cv =>
    obtain rfl : fk = false := by simpa [Exec.deletes] using h
    cases resource <;> rfl
  | unreported fk cv _ =>
    obtain rfl : fk = false := by simpa [Exec.deletes] using h
    cases resource <;> rfl

theorem run_delete_done (resource : Resource) (exec : Exec) (db : Database) (id : Nat) :
    (∃ warned, (exec.run db (resource.delete db id)).1 = .done warned) ↔ exec.deleteReported = true := by
  cases exec with
  | unsent | unreported => simp [Exec.run, Exec.deleteReported]
  | ran fk cv => cases fk <;> cases resource <;> simp [Exec.run, Exec.deleteReported, Resource.delete, Database.deleteContact,
      Database.deleteProject, Database.deleteInvoice]

theorem run_delete_keeps (resource : Resource) {Q : Database → Prop} (exec : Exec) (db : Database) (id : Nat)
    (hdelete : exec.deletes = true → ∀ db, Q db → Q (resource.delete db id false false).2) (h : Q db) :
    Q (exec.run db (resource.delete db id)).2 := by
  cases hexec : exec.deletes with
  | true =>
    rw [run_delete_of_deletes resource hexec]
    exact hdelete hexec db h
  | false =>
    rw [run_delete_of_not_deletes resource hexec]
    exact h

/-- What a sent DELETE with effect keeps, the DELETEs of a prune keep. -/
theorem deleteIds_keeps (resource : Resource) {Q : Database → Prop} (ids : List Nat) (execs : List Exec) (db : Database)
    (hdelete : ∀ sent ∈ sentDeletes ids execs, sent.2.deletes = true → ∀ db, Q db → Q (resource.delete db sent.1 false false).2)
    (h : Q db) : Q (deleteIds resource.delete ids execs db).2 := by
  revert hdelete h
  fun_induction deleteIds resource.delete ids execs db
  case case1 | case2 => exact fun _ h => h
  case case3 id ids exec execs db needReconnect db' hrun =>
    intro hdelete h
    obtain rfl : (exec.run db (resource.delete db id)).2 = db' := congrArg Prod.snd hrun
    exact run_delete_keeps resource exec db id (hdelete (id, exec) (by simp [sentDeletes])) h
  case case4 id ids exec execs db warned db' hrun others ih =>
    intro hdelete h
    obtain rfl : (exec.run db (resource.delete db id)).2 = db' := congrArg Prod.snd hrun
    have hreported : exec.deleteReported = true := (run_delete_done resource exec db id).mp ⟨warned, congrArg Prod.fst hrun⟩
    refine ih (fun sent hsent => hdelete sent (by simp [sentDeletes, hreported, hsent])) ?_
    exact run_delete_keeps resource exec db id (hdelete (id, exec) (by simp [sentDeletes])) h

theorem has_prunedProjects {ids : List Nat} {execs : List Exec} {db : Database} {k : Nat} {row : InvoiceRow}
    (hrow : db.invoice.lookup k = some row)
    (hC : ∀ sent ∈ sentDeletes ids execs, sent.2.deletes = true → row.projectId ≠ some sent.1) :
    (deleteIds Resource.project.delete ids execs db).2.has .invoice k = true := by
  have := deleteIds_keeps .project (Q := fun db => db.invoice.lookup k = some row) ids execs db
    (fun sent hsent hexec db h => invoice_deleteProject db sent.1 k false h (hC sent hsent hexec)) hrow
  exact Option.isSome_iff_exists.mpr ⟨row, this⟩

theorem has_prunedInvoices (ids : List Nat) (execs : List Exec) (db : Database) (k : Nat)
    (hC : ∀ sent ∈ sentDeletes ids execs, sent.2.deletes = true → sent.2.deleteReported = true)
    (hk : k ∉ ids.take (deleteIds Resource.invoice.delete ids execs db).1) (h : db.has .invoice k = true) :
    (deleteIds Resource.invoice.delete ids execs db).2.has .invoice k = true := by
  revert hC hk h
  fun_induction deleteIds Resource.invoice.delete ids execs db
  case case1 | case2 => exact fun _ _ h => h
  case case3 id ids exec execs db needReconnect db' hrun =>
    intro hC _ h
    obtain rfl : (exec.run db (Resource.invoice.delete db id)).2 = db' := congrArg Prod.snd hrun
    have hexec : exec.deletes = false := by
      by_contra hdeletes
      have hreported := hC (id, exec) (by simp [sentDeletes]) (by simpa using hdeletes)
      obtain ⟨warned, hdone⟩ := (run_delete_done .invoice exec db id).mpr hreported
      rw [hrun] at hdone
      cases hdone
    rw [run_delete_of_not_deletes .invoice hexec]
    exact h
  case case4 id ids exec execs db warned db' hrun others ih =>
    intro hC hk h
    have hreported : exec.deleteReported = true := (run_delete_done .invoice exec db id).mp ⟨warned, congrArg Prod.fst hrun⟩
    rw [List.take_succ_cons, List.mem_cons, not_or] at hk
    refine ih (fun sent hsent => hC sent (by simp [sentDeletes, hreported, hsent])) hk.2 ?_
    exact (has_of_done (.resource .invoice) hrun k).mpr ⟨h, hk.1⟩

/-- What a prune leaves of the tables and of the cache. -/
theorem bxPruneItems_prepared (resource : Resource) (conf : Int) (deletes : List Exec) (db : Database) (c : Cache) :
    let ids := cacheIterAll c (pruneDrift conf)
    let done := deleteIds resource.delete ids deletes db
    let r := bxPruneItems resource.delete true conf deletes db c
    r.2.1 = done.2 ∧ ∀ k, r.2.2.1.Live k ↔ c.Live k ∧ k ∉ ids.take done.1 := by
  obtain ⟨-, -, hdb, hcache, -⟩ := pruneLoop_eq resource.delete (pruneDrift conf) deletes (cacheIterInit c) db c
  have hids : prunableFrom c (pruneDrift conf) (cacheIterInit c) = cacheIterAll c (pruneDrift conf) :=
    (cacheIterCollect_eq c _ _ _ (Nat.lt_succ_self _)).symm
  rw [hids] at hdb hcache
  intro ids done r
  refine ⟨hdb, fun k => ?_⟩
  have hcache : r.2.2.1 = _ := hcache
  rw [hcache]
  split
  · rename_i hall
    rw [live_cachePrune, live_tombstoneAll, show ids.take done.1 = ids from hall ▸ List.take_length]
  · rw [live_tombstoneAll]

/-! ### The other tables -/

theorem invoice_bxContactSyncItem (archived : Bool) (db : Database) (c : Cache) (item : ContactItem) :
    (bxContactSyncItem archived db c item).2.1.invoice = db.invoice := by
  unfold bxContactSyncItem
  dsimp only
  split
  · rfl
  split
  · rfl
  split
  · rfl
  have hpersist : (persistContact archived (cacheCheckItem c (item.contact.id.getD 0) item.contact.checksum).1 db item).2.invoice =
      db.invoice := rfl
  split
  · rename_i heq
    rw [heq] at hpersist
    exact hpersist
  · rename_i heq
    rw [heq] at hpersist
    split
    · exact hpersist
    · rw [contactExtras_frame]
      exact hpersist

theorem invoice_bxProjectSyncItem (db : Database) (c : Cache) (item : ProjectItem) :
    (bxProjectSyncItem db c item).2.1.invoice = db.invoice := by
  have hpersist : ∀ state, (executeRequest state db item).2.invoice = db.invoice := fun state => by
    unfold executeRequest
    dsimp only
    split <;> rfl
  unfold bxProjectSyncItem
  dsimp only
  split
  · rfl
  split
  · rfl
  split
  · rfl
  split
  · exact hpersist _
  split
  · exact hpersist _
  · exact hpersist _

theorem invoice_prunedContacts (ids : List Nat) (execs : List Exec) (db : Database) :
    (deleteIds Resource.contact.delete ids execs db).2.invoice = db.invoice :=
  deleteIds_keeps .contact (Q := fun db' => db'.invoice = db.invoice) ids execs db (fun _ _ _ _ h => h) rfl

/-! ### Runs -/

theorem InvoicesStored.put {m : Mirror} (h : InvoicesStored m) (resource : Resource) (hne : resource ≠ .invoice)
    {s : Database × Cache} (hrows : ∀ id, (m.cache .invoice).Live id → m.db.has .invoice id = true → s.1.has .invoice id = true) :
    InvoicesStored (m.put resource s) := by
  intro id hlive
  rw [Mirror.put_cache_of_ne _ _ hne.symm] at hlive
  exact hrows id hlive (h id hlive)

theorem has_of_invoice {db db' : Database} (h : db'.invoice = db.invoice) (k : Nat) (hk : db.has .invoice k = true) :
    db'.has .invoice k = true := by
  unfold Database.has
  rw [h]
  exact hk

theorem InvoicesStored.prune {m : Mirror} (h : InvoicesStored m) (resource : Resource) (prepared : Bool) (conf : Int)
    (deletes : List Exec) (hC : StoredCondition ⟨m, .prune resource prepared conf deletes⟩) :
    InvoicesStored (m.next (.prune resource prepared conf deletes)) := by
  cases prepared with
  | false =>
    cases resource with
    | contact => exact h.put .contact (by decide) fun _ _ hk => hk
    | project => exact h.put .project (by decide) fun _ _ hk => hk
    | invoice =>
      intro id hlive
      refine h id ?_
      simpa [Mirror.next, bxPruneItems] using hlive
  | true =>
    obtain ⟨hdb, hcache⟩ := bxPruneItems_prepared resource conf deletes m.db (m.cache resource)
    cases resource with
    | contact =>
      refine h.put .contact (by decide) fun id _ hk => ?_
      dsimp only
      rw [hdb]
      exact has_of_invoice (invoice_prunedContacts _ _ _) id hk
    | project =>
      refine h.put .project (by decide) fun id hlive hk => ?_
      dsimp only
      rw [hdb]
      obtain ⟨row, hrow⟩ := Option.isSome_iff_exists.mp hk
      refine has_prunedProjects hrow fun sent hsent hexec hproject => ?_
      exact hC sent hsent hexec ⟨id, row⟩ (AList.mem_lookup_iff.mp hrow) hproject hlive
    | invoice =>
      intro id hlive
      have hlive := (hcache id).mp (by simpa [Mirror.next] using hlive)
      show (bxPruneItems Resource.invoice.delete true conf deletes m.db (m.cache .invoice)).2.1.has .invoice id = true
      rw [hdb]
      exact has_prunedInvoices _ _ _ id hC hlive.2 (h id hlive.1)

theorem InvoicesStored.hydrate (db : Database) : InvoicesStored (hydrateCaches db) := by
  intro id hlive
  have hlive : (bxCacheHydrate (db.checksums .invoice) cacheCreate).Live id := hlive
  rcases Cache.mem_of_live_bxCacheHydrate _ _ hlive with hmem | ⟨item, hentry, -⟩
  · obtain ⟨row, hrow, rfl⟩ := List.mem_map.mp hmem
    obtain ⟨e, he, rfl⟩ := List.mem_map.mp hrow
    exact Option.isSome_iff_exists.mpr ⟨e.2, AList.mem_lookup_iff.mpr he⟩
  · nomatch hentry

theorem InvoicesStored.next {m : Mirror} (h : InvoicesStored m) (input : MirrorInput) (hC : StoredCondition ⟨m, input⟩) :
    InvoicesStored (m.next input) := by
  cases input with
  | contact archived item => exact h.put .contact (by decide) fun id _ hk => has_of_invoice (invoice_bxContactSyncItem ..) id hk
  | project item => exact h.put .project (by decide) fun id _ hk => has_of_invoice (invoice_bxProjectSyncItem ..) id hk
  | invoice item =>
    intro id hlive
    have hlive : (bxInvoiceSyncItem m.db (m.cache .invoice) item).2.2.Live id := by
      simpa [Mirror.next] using hlive
    exact stored_invoice h hC id hlive
  | prune resource prepared conf deletes => exact h.prune resource prepared conf deletes hC
  | bump resource =>
    cases resource with
    | contact => exact h.put .contact (by decide) fun _ _ hk => hk
    | project => exact h.put .project (by decide) fun _ _ hk => hk
    | invoice =>
      intro id hlive
      have hlive : (cacheNextVersion (m.cache .invoice)).Live id := by
        simpa [Mirror.next] using hlive
      exact h id (Cache.live_of_cacheNextVersion hC hlive)
  | restart => exact InvoicesStored.hydrate m.db

/-- In every state of a run whose steps all meet the condition the live invoices are in the table. -/
theorem invoicesStored_of_condition (db : Database) (inputs : List MirrorInput)
    (hC : ∀ call ∈ outputs mirrorStep (hydrateCaches db) inputs, StoredCondition call) :
    InvoicesStored (final mirrorStep (hydrateCaches db) inputs) :=
  final_inv mirrorStep (fun _ input h hcall => h.next input hcall) inputs _ (InvoicesStored.hydrate db) hC

/-! ### A project is pruned

    Invoice 5 is in the table, and project 1. The project was not seen for one version. -/

def oneInvoice (projectId : Option Nat) : Database :=
  { Database.empty with
    project := (∅ : Table Nat ProjectRow).insert 1 { checksum := 7, contactId := none }
    invoice := (∅ : Table Nat InvoiceRow).insert 5 { checksum := 9, contactId := none, projectId } }

def pruneProject : List MirrorInput := [.bump .project, .prune .project true 1 [.ran false false]]

/-- The invoice has no project, and stays. -/
theorem invoicesStored_noProject :
    (final mirrorStep (hydrateCaches (oneInvoice none)) pruneProject).db.has .project 1 = false ∧
      InvoicesStored (final mirrorStep (hydrateCaches (oneInvoice none)) pruneProject) := by
  refine ⟨by decide, invoicesStored_of_condition (oneInvoice none) pruneProject fun call hcall => ?_⟩
  simp only [pruneProject, outputs, List.mem_cons, List.not_mem_nil, or_false] at hcall
  rcases hcall with rfl | rfl
  · trivial
  · show ∀ sent ∈ _, _
    decide

/-- The prune succeeds and the invoice goes with its project. The list still has it, and the cache says that it is
    in sync. -/
theorem invoicesStored_cascade :
    let before := final mirrorStep (hydrateCaches (oneInvoice (some 1))) [.bump .project]
    let after := final mirrorStep (hydrateCaches (oneInvoice (some 1))) pruneProject
    (bxPruneItems Resource.project.delete true 1 [.ran false false] before.db (before.cache .project)).1 = .noError ∧
      ¬InvoicesStored after ∧ (cacheCheckItem (after.cache .invoice) 5 9).1 = .cacheOk := by
  refine ⟨by decide, fun h => ?_, by decide⟩
  exact absurd (h 5 (by decide)) (by decide)

end BxSync
