import BxSync.Lib.Machine
import BxSync.Mirror

/-! Whether every row of a table is known to its cache. An INSERT IGNORE writes a row before the cache is set,
    and what lies between the two decides: a warning, a lost reply, or a position that is not stored. -/

namespace BxSync

open Machine

/-! ### The property -/

/-- The id has a row in the table of the resource. -/
def Database.has (db : Database) : Resource → Nat → Bool
  | .contact, id => (db.contact.lookup id).isSome
  | .project, id => (db.project.lookup id).isSome
  | .invoice, id => (db.invoice.lookup id).isSome

/-- No id with a row is reported as not set. -/
def CacheTableAgree (m : Mirror) : Prop :=
  ∀ resource id checksum, m.db.has resource id → (cacheCheckItem (m.cache resource) id checksum).1 ≠ .cacheNotSet

/-- An INSERT IGNORE writes its row. `refused` says that its key is known or a parent is missing. -/
def Exec.inserts (exec : Exec) (refused : Bool) : Bool :=
  match exec with
  | .unsent _ => false
  | .ran fkError _ => !(refused || fkError)
  | .unreported fkError _ _ => !(refused || fkError)

/-- The reply arrives and counts no warning. -/
def Exec.clean : Exec → Bool
  | .ran _ false => true
  | _ => false

def ContactItem.agrees (db : Database) (c : Cache) (item : ContactItem) : Bool :=
  let contact := item.contact
  (cacheCheckItem c (contact.id.getD 0) contact.checksum).1 ≠ .cacheNotSet ||
    ensureContactUsers contact item.answers ≠ .noError ||
    !item.answers.persist.inserts (db.contact.lookup (contact.id.getD 0)).isSome ||
    (item.answers.persist.clean && contact.id.isSome)

def ProjectItem.agrees (db : Database) (c : Cache) (item : ProjectItem) : Bool :=
  let project := item.project
  (cacheCheckItem c (project.id.getD 0) project.checksum).1 ≠ .cacheNotSet ||
    projectContactPresent db item ≠ (.noError, true) ||
    !item.answers.persist.inserts ((db.project.lookup (project.id.getD 0)).isSome ||
      (db.contact.lookup (project.contactId.getD 0)).isNone) ||
    (item.answers.persist.clean && project.id.isSome)

def PositionAnswers.succeed (a : PositionAnswers) : Bool :=
  a.select = .answered &&
    match a.write with
    | .ran false _ => true
    | _ => false

/-- The statements of every position succeed. -/
def positionsSucceed : List BXPosition → List PositionAnswers → Bool
  | [], _ => true
  | _ :: _, [] => false
  | position :: positions, a :: answers => position.id.isSome && a.succeed && positionsSucceed positions answers

def InvoiceItem.storesPositions (item : InvoiceItem) : Bool :=
  match (invoiceObject item).positions with
  | .array positions => positionsSucceed positions item.answers.positions
  | _ => true

/-- A parent of the invoice has no row. -/
def BXObjectInvoice.orphan (db : Database) (invoice : BXObjectInvoice) : Bool :=
  (invoice.contactId.any fun id => (db.contact.lookup id).isNone) ||
    ((invoice.projectId.filter (· ≠ 0)).any fun id => (db.project.lookup id).isNone)

def InvoiceItem.agrees (db : Database) (c : Cache) (item : InvoiceItem) : Bool :=
  let invoice := invoiceObject item
  (cacheCheckItem c (item.invoice.id.getD 0) item.invoice.checksum).1 ≠ .cacheNotSet ||
    invoiceParentsPresent db invoice item.answers ≠ (.noError, true) ||
    !item.answers.persist.inserts ((db.invoice.lookup (invoice.id.getD 0)).isSome || invoice.orphan db) ||
    (item.answers.persist.clean && invoice.id.isSome && item.storesPositions)

/-- Whenever the step writes a new row, its INSERT IGNORE is answered without a warning, and all positions of
    an invoice are stored. -/
def AgreeCondition (call : MirrorCall) : Prop :=
  match call.input with
  | .contact _ item => item.agrees call.pre.db (call.pre.cache .contact)
  | .project item => item.agrees call.pre.db (call.pre.cache .project)
  | .invoice item => item.agrees call.pre.db (call.pre.cache .invoice)
  | _ => True

/-! ### Live ids -/

namespace Cache

/-- The id is in the cache and not deleted. -/
def Live (c : Cache) (id : Nat) : Prop := ∃ item, c.entry id = some item ∧ 0 < item.lastSeen

theorem cacheCheckItem_notSet (c : Cache) (id checksum : Nat) :
    (cacheCheckItem c id checksum).1 ≠ .cacheNotSet ↔ c.Live id := by
  rw [cacheCheckItem_state]
  unfold Live
  cases c.entry id with
  | none => simp
  | some item =>
    by_cases hz : item.lastSeen = 0
    · simp [hz]
    · have hpos := Nat.pos_of_ne_zero hz
      by_cases hc : item.checksum = checksum <;> simp [hz, hc, hpos]

variable {c : Cache} {k : Nat}

theorem Live.check (h : c.Live k) (id checksum : Nat) : (cacheCheckItem c id checksum).2.Live k := by
  obtain ⟨item, hentry, hpos⟩ := h
  unfold Live
  rw [entry_cacheCheckItem]
  split
  · subst_vars
    exact ⟨_, by rw [hentry, Option.map_some, if_neg (Nat.pos_iff_ne_zero.mp hpos)], c.version_pos⟩
  · exact ⟨item, hentry, hpos⟩

theorem live_cacheSetItem (c : Cache) (id checksum : Nat) : (cacheSetItem c id checksum).Live id :=
  ⟨_, by rw [entry_cacheSetItem, if_pos rfl], c.version_pos⟩

theorem Live.set (h : c.Live k) (id checksum : Nat) : (cacheSetItem c id checksum).Live k := by
  by_cases hk : k = id
  · subst hk
    exact live_cacheSetItem c k checksum
  · obtain ⟨item, hentry, hpos⟩ := h
    exact ⟨item, by rw [entry_cacheSetItem, if_neg hk, hentry], hpos⟩

theorem Live.next (h : c.Live k) : (cacheNextVersion c).Live k := by
  obtain ⟨item, hentry, hpos⟩ := h
  by_cases hwrap : c.version + 1 = uint64Max
  · rw [cacheNextVersion_wrap c hwrap]
    exact ⟨_, by rw [entry_cacheResetVersion, hentry, Option.map_some], Nat.one_pos⟩
  · exact ⟨item, by rw [entry_cacheNextVersion c hwrap, hentry], hpos⟩

theorem Live.tombstone (h : c.Live k) {id : Nat} (hk : k ≠ id) : (cacheTombstone c id).Live k := by
  obtain ⟨item, hentry, hpos⟩ := h
  exact ⟨item, by rw [entry_cacheTombstone, if_neg hk, hentry], hpos⟩

theorem Live.prune (h : c.Live k) : (cachePrune c).Live k := by
  obtain ⟨item, hentry, hpos⟩ := h
  refine ⟨item, ?_, hpos⟩
  rw [entry_cachePrune, hentry]
  simp [Nat.pos_iff_ne_zero.mp hpos]

theorem Live.hydrate (h : c.Live k) (rows : List (Nat × Nat)) : (bxCacheHydrate rows c).Live k := by
  unfold bxCacheHydrate
  induction rows generalizing c with
  | nil => exact h
  | cons row rows ih => exact ih (h.set row.1 row.2)

theorem live_bxCacheHydrate {rows : List (Nat × Nat)} {row : Nat × Nat} (hrow : row ∈ rows) (c : Cache) :
    (bxCacheHydrate rows c).Live row.1 := by
  induction rows generalizing c with
  | nil => exact nomatch hrow
  | cons first rows ih =>
    rcases List.mem_cons.mp hrow with rfl | hrow
    · exact (live_cacheSetItem c row.1 row.2).hydrate rows
    · exact ih hrow _

end Cache

/-- Every row of one table is live in the cache. -/
def AgreeOn (resource : Resource) (db : Database) (c : Cache) : Prop := ∀ id, db.has resource id → c.Live id

/-! ### Statements -/

section

variable {α : Type} {t : Table Nat α}

/-- An INSERT IGNORE that agrees writes nothing, or its row and reports that. -/
theorem insertIgnoreId_agrees {exec : Exec} {id : Option Nat} {orphan : Bool} (row : α)
    (h : (!exec.inserts ((t.lookup (id.getD 0)).isSome || orphan) || (exec.clean && id.isSome)) = true) :
    let stmt := exec.run t fun fk cv => insertIgnoreId t id row (fk || orphan) cv
    stmt.2 = t ∨ (stmt.1 = .done false ∧ stmt.2 = t.insert (id.getD 0) row ∧
      exec.inserts ((t.lookup (id.getD 0)).isSome || orphan) = true) := by
  have refused : ∀ fk cv, ((t.lookup (id.getD 0)).isSome || orphan || fk) = true →
      insertIgnoreId t id row (fk || orphan) cv = (some true, t) := by
    intro fk cv hr
    refine if_pos ?_
    simp only [Bool.or_eq_true] at hr ⊢
    tauto
  cases exec with
  | unsent => exact Or.inl rfl
  | unreported fk cv _ =>
    left
    show (insertIgnoreId t id row (fk || orphan) cv).2 = t
    rw [refused fk cv (by simpa [Exec.inserts, Exec.clean] using h)]
  | ran fk cv =>
    by_cases hr : ((t.lookup (id.getD 0)).isSome || orphan || fk) = true
    · left
      simp only [Exec.run, refused fk cv hr]
    · right
      have hclean : cv = false ∧ id.isSome = true := by
        simp only [Exec.inserts, hr, Exec.clean] at h
        cases cv <;> simp_all
      have hwritten : insertIgnoreId t id row (fk || orphan) cv = (some false, t.insert (id.getD 0) row) := by
        unfold insertIgnoreId Table.insertIgnore
        rw [if_neg (by simp only [Bool.or_eq_true] at hr ⊢; tauto), hclean.1, Option.isNone_eq_false_iff.mpr hclean.2]
        rfl
      exact ⟨by simp only [Exec.run, hwritten], by simp only [Exec.run, hwritten], by simp [Exec.inserts, hr]⟩

theorem update_lookup (exec : Exec) (id : Option Nat) (row : α) (orphan : Bool) (k : Nat)
    (h : (((exec.run t fun fk cv => Table.update t id row (fk || orphan) cv).2).lookup k).isSome) : (t.lookup k).isSome := by
  have hupdate : ∀ fk cv, ((Table.update t id row fk cv).2.lookup k).isSome → (t.lookup k).isSome := by
    intro fk cv hk
    cases id with
    | none => exact hk
    | some key =>
      unfold Table.update at hk
      dsimp only at hk
      split_ifs at hk with hkey hfk
      · exact hk
      · rw [Table.lookup_insert_eq] at hk
        split at hk
        · subst_vars
          exact hkey
        · exact hk
      · exact hk
  exact exec.run_table (Q := fun t' : Table Nat α => (t'.lookup k).isSome → (t.lookup k).isSome) (fun hk => hk)
    (fun fk cv => hupdate _ cv) h

/-- The INSERT IGNORE or the UPDATE of an object, by the state of its id: a row is new only if it is the row
    of the object and the statement reports it. -/
theorem persist_agrees (exec : Exec) (state : CacheState) (id : Option Nat) (row : α) (orphan : Bool)
    (h : state = .cacheNotSet →
      (!exec.inserts ((t.lookup (id.getD 0)).isSome || orphan) || (exec.clean && id.isSome)) = true) (k : Nat) :
    let stmt := exec.run t fun fk cv =>
      if state = .cacheNotSet then insertIgnoreId t id row (fk || orphan) cv else Table.update t id row (fk || orphan) cv
    (stmt.2.lookup k).isSome → (t.lookup k).isSome ∨
      ((stmt.1 = .done false ∧ k = id.getD 0) ∧ state = .cacheNotSet ∧
        exec.inserts ((t.lookup (id.getD 0)).isSome || orphan) = true) := by
  by_cases hstate : state = .cacheNotSet
  · simp only [if_pos hstate]
    rcases insertIgnoreId_agrees row (h hstate) with hkept | ⟨hdone, hwritten, hinserts⟩
    · rw [hkept]
      exact Or.inl
    · rw [hwritten, hdone, Table.lookup_insert_eq]
      split
      · exact fun _ => Or.inr ⟨⟨rfl, ‹_›⟩, hstate, hinserts⟩
      · exact Or.inl
  · simp only [if_neg hstate]
    exact fun hk => Or.inl (update_lookup exec id row orphan k hk)

end

/-! ### One object -/

/-- What a step leaves: the rows of its resource agree with its cache, and no other table gained a row. -/
structure Agreed (resource : Resource) (db : Database) (s : Database × Cache) : Prop where
  agree : AgreeOn resource s.1 s.2
  other : ∀ other, other ≠ resource → ∀ id, s.1.has other id → db.has other id

/-- What the statement of an object leaves: a row is new only if it is the row of the object and the
    statement reports it. -/
structure Persisted (resource : Resource) (db : Database) (id : Nat) (stmt : Stmt × Database) : Prop where
  new : ∀ k, stmt.2.has resource k → db.has resource k ∨ (stmt.1 = .done false ∧ k = id)
  other : ∀ other, other ≠ resource → ∀ k, stmt.2.has other k → db.has other k

namespace Persisted

variable {resource : Resource} {db db' : Database} {id : Nat} {c : Cache}

/-- A statement that failed or warned wrote nothing new. -/
theorem unstored {stmt : Stmt} (h : Persisted resource db id (stmt, db')) (hstmt : bxDatabasePersistOk stmt = false)
    (hlive : ∀ k, db.has resource k → c.Live k) : Agreed resource db (db', c) where
  agree k hk := by
    rcases h.new k hk with hold | ⟨rfl, -⟩
    · exact hlive k hold
    · exact nomatch hstmt
  other := h.other

theorem stored {stmt : Stmt} {db'' : Database} (h : Persisted resource db id (stmt, db'))
    (hrows : ∀ r k, db''.has r k = db'.has r k) (hlive : ∀ k, db.has resource k → c.Live k) (checksum : Nat) :
    Agreed resource db (db'', cacheSetItem c id checksum) where
  agree k hk := by
    rw [hrows] at hk
    rcases h.new k hk with hold | ⟨-, rfl⟩
    · exact (hlive k hold).set id checksum
    · exact Cache.live_cacheSetItem c k checksum
  other r hr k hk := h.other r hr k (by rwa [← hrows])

end Persisted

theorem contactExtras_frame (db : Database) (item : ContactItem) :
    (contactExtras db item).2 = { db with cg2c := (contactExtras db item).2.cg2c } := by
  have hlink : ∀ contactId gids execs (db : Database),
      (linkGroups contactId gids execs db).2 = { db with cg2c := (linkGroups contactId gids execs db).2.cg2c } := by
    intro contactId gids execs db
    fun_induction linkGroups contactId gids execs db
    case case1 | case3 | case4 => rfl
    case case2 ih => exact ih
    case case5 ih => exact ih
  have hgroups : (bxContactGroupLink (item.contact.id.getD 0) item.contact.contactGroupIds item.answers db).2 =
      { db with
        cg2c := (bxContactGroupLink (item.contact.id.getD 0) item.contact.contactGroupIds item.answers db).2.cg2c } := by
    unfold bxContactGroupLink
    split
    · rfl
    · exact hlink ..
  unfold contactExtras
  dsimp only
  split <;> exact hgroups

theorem agreed_contact (archived : Bool) {db : Database} {c : Cache} {item : ContactItem} (h : AgreeOn .contact db c)
    (hC : item.agrees db c) : Agreed .contact db (bxContactSyncItem archived db c item).2 := by
  have hlive : ∀ id, db.has .contact id → (cacheCheckItem c (item.contact.id.getD 0) item.contact.checksum).2.Live id :=
    fun id hid => (h id hid).check _ _
  have hkept : Agreed .contact db (db, (cacheCheckItem c (item.contact.id.getD 0) item.contact.checksum).2) :=
    ⟨hlive, fun _ _ _ hid => hid⟩
  unfold bxContactSyncItem
  dsimp only
  split
  · exact hkept
  split
  · exact hkept
  split
  · exact hkept
  rename_i _ _ husers
  have hpersist : Persisted .contact db (item.contact.id.getD 0) (persistContact archived
      (cacheCheckItem c (item.contact.id.getD 0) item.contact.checksum).1 db item) := by
    have hrow := persist_agrees (t := db.contact) item.answers.persist
      (cacheCheckItem c (item.contact.id.getD 0) item.contact.checksum).1 item.contact.id
      { checksum := item.contact.checksum, archived } false fun hstate => by
        simpa [ContactItem.agrees, hstate, not_not.mp husers] using hC
    simp only [Bool.or_false] at hrow
    exact ⟨fun k hk => (hrow k hk).imp_right And.left, fun other hne k hk => by cases other <;> first | exact absurd rfl hne | exact hk⟩
  split
  · rename_i heq
    rw [heq] at hpersist
    exact hpersist.unstored rfl hlive
  · rename_i warned db' heq
    rw [heq] at hpersist
    split
    · rename_i hok
      exact hpersist.unstored (by simpa using hok) hlive
    · refine hpersist.stored (fun r k => ?_) hlive _
      rw [contactExtras_frame]
      cases r <;> rfl

/-- The request of a project returns NoError when its statement is reported without a warning. -/
theorem persisted_executeRequest (state : CacheState) (db : Database) (item : ProjectItem)
    (h : state = .cacheNotSet → (!item.answers.persist.inserts ((db.project.lookup (item.project.id.getD 0)).isSome ||
      (db.contact.lookup (item.project.contactId.getD 0)).isNone) ||
      (item.answers.persist.clean && item.project.id.isSome)) = true) :
    ∃ stmt, Persisted .project db (item.project.id.getD 0) (stmt, (executeRequest state db item).2) ∧
      ((executeRequest state db item).1 ≠ .noError → bxDatabasePersistOk stmt = false) := by
  have hrow := persist_agrees (t := db.project) item.answers.persist state item.project.id
    { checksum := item.project.checksum, contactId := item.project.contactId } _ h
  unfold executeRequest
  dsimp only at hrow ⊢
  generalize item.answers.persist.run db.project _ = persisted at hrow ⊢
  obtain ⟨stmt, table⟩ := persisted
  have hother : ∀ other, other ≠ Resource.project → ∀ k, { db with project := table }.has other k → db.has other k :=
    fun other hne k hk => by cases other <;> first | exact absurd rfl hne | exact hk
  refine ⟨stmt, ?_⟩
  cases stmt with
  | failed needReconnect => exact ⟨⟨fun k hk => (hrow k hk).imp_right And.left, hother⟩, fun _ => rfl⟩
  | done warned => exact ⟨⟨fun k hk => (hrow k hk).imp_right And.left, hother⟩, fun hne => by simpa using hne⟩

theorem agreed_project {db : Database} {c : Cache} {item : ProjectItem} (h : AgreeOn .project db c)
    (hC : item.agrees db c) : Agreed .project db (bxProjectSyncItem db c item).2 := by
  have hlive : ∀ id, db.has .project id → (cacheCheckItem c (item.project.id.getD 0) item.project.checksum).2.Live id :=
    fun id hid => (h id hid).check _ _
  have hkept : Agreed .project db (db, (cacheCheckItem c (item.project.id.getD 0) item.project.checksum).2) :=
    ⟨hlive, fun _ _ _ hid => hid⟩
  unfold bxProjectSyncItem
  dsimp only
  split
  · exact hkept
  split
  · exact hkept
  split
  · exact hkept
  rename_i _ herror hpresent
  have hparent : projectContactPresent db item = (.noError, true) :=
    Prod.ext (not_not.mp herror) (by simpa using hpresent)
  obtain ⟨stmt, hpersisted, hfailed⟩ := persisted_executeRequest (cacheCheckItem c (item.project.id.getD 0)
    item.project.checksum).1 db item fun hstate => by
      simpa [ProjectItem.agrees, hstate, hparent] using hC
  split
  · rename_i he
    exact hpersisted.unstored (hfailed (by rw [he]; exact nofun)) hlive
  split
  · rename_i he
    exact hpersisted.unstored (hfailed he) hlive
  · exact hpersisted.stored (fun _ _ => rfl) hlive _

theorem persistOnePosition_frame (db : Database) (invoiceId : Nat) (position : BXPosition) (a : PositionAnswers) :
    (persistOnePosition db invoiceId position a).2 =
      { db with invoicePosition := (persistOnePosition db invoiceId position a).2.invoicePosition } := by
  unfold persistOnePosition
  dsimp only
  split
  · rfl
  split
  · rfl
  split <;> rfl

theorem bxInvoicePositionsStore_frame (db : Database) (invoiceId : Nat) (positions : Positions) (answers : List PositionAnswers) :
    (bxInvoicePositionsStore db invoiceId positions answers).2 =
      { db with invoicePosition := (bxInvoicePositionsStore db invoiceId positions answers).2.invoicePosition } := by
  have hall : ∀ positions answers (db : Database), (storePositions invoiceId positions answers db).2 =
      { db with invoicePosition := (storePositions invoiceId positions answers db).2.invoicePosition } := by
    intro positions answers db
    fun_induction storePositions invoiceId positions answers db
    case case1 | case2 => rfl
    case case3 => exact persistOnePosition_frame ..
    case case4 position _ a _ db persisted _ ih =>
      obtain ⟨table, htable⟩ : ∃ table, persisted.2 = { db with invoicePosition := table } := 
        ⟨_, persistOnePosition_frame db invoiceId position a⟩
      rw [ih, htable]
  unfold bxInvoicePositionsStore
  split
  · rfl
  · rfl
  · exact hall ..

theorem persistOnePosition_succeed {db : Database} {invoiceId : Nat} {position : BXPosition} {a : PositionAnswers}
    (hinvoice : (db.invoice.lookup invoiceId).isSome) (hid : position.id.isSome) (ha : a.succeed) :
    (persistOnePosition db invoiceId position a).1 = .noError := by
  obtain ⟨id, hid⟩ := Option.isSome_iff_exists.mp hid
  simp only [PositionAnswers.succeed, Bool.and_eq_true, decide_eq_true_eq] at ha
  obtain ⟨hselect, hwrite⟩ := ha
  obtain ⟨converted, hran⟩ : ∃ converted, a.write = .ran false converted := by
    split at hwrite
    · exact ⟨_, ‹_›⟩
    · exact nomatch hwrite
  unfold persistOnePosition
  rw [hselect, hid, hran]
  dsimp only [Option.bind_some]
  split
  · rfl
  split
  · rename_i needReconnect hfailed
    -- The row is inserted when there is none, and updated else. Neither is refused.
    have hdone : ∃ warned, Stmt.failed needReconnect = .done warned := by
      rw [← hfailed]
      cases hrow : db.invoicePosition.lookup (id, invoiceId) with
      | none => exact ⟨converted, Exec.run_ran (by simp [Table.insertRow, hrow, Option.isNone_eq_false_iff.mpr hinvoice])⟩
      | some checksum => exact ⟨converted, Exec.run_ran (by simp [Table.update, hrow])⟩
    obtain ⟨warned, hw⟩ := hdone
    exact nomatch hw
  · rfl

theorem storePositions_succeed {invoiceId : Nat} (positions : List BXPosition) (answers : List PositionAnswers) (db : Database)
    (hinvoice : (db.invoice.lookup invoiceId).isSome) (h : positionsSucceed positions answers) :
    (storePositions invoiceId positions answers db).1 = .noError := by
  revert hinvoice h
  fun_induction storePositions invoiceId positions answers db
  case case1 => exact fun _ _ => rfl
  case case2 => exact fun _ h => nomatch h
  case case3 he =>
    intro hinvoice h
    simp only [positionsSucceed, Bool.and_eq_true] at h
    exact absurd (persistOnePosition_succeed hinvoice h.1.1 h.1.2) he
  case case4 position _ a _ db persisted _ ih =>
    intro hinvoice h
    simp only [positionsSucceed, Bool.and_eq_true] at h
    refine ih ?_ h.2
    have := persistOnePosition_frame db invoiceId position a
    rw [show persisted.2 = _ from this]
    exact hinvoice

/-- Without an error of the positions the cache is set, and an error is possible only if no row is new. -/
theorem agreed_storeInvoiceParts {db db' : Database} {c : Cache} {item : InvoiceItem} {stmt : Stmt}
    (hpersisted : Persisted .invoice db ((invoiceObject item).id.getD 0) (stmt, db'))
    (hlive : ∀ id, db.has .invoice id → c.Live id)
    (hpositions : ∀ id, db'.has .invoice id → db.has .invoice id ∨ item.storesPositions = true) :
    Agreed .invoice db (storeInvoiceParts db' c (invoiceObject item) item.answers).2 := by
  have hframe := bxInvoicePositionsStore_frame db' ((invoiceObject item).id.getD 0) (invoiceObject item).positions
    item.answers.positions
  have hrows : ∀ r k, (bxInvoicePositionsStore db' ((invoiceObject item).id.getD 0) (invoiceObject item).positions
      item.answers.positions).2.has r k = db'.has r k := by
    intro r k
    rw [hframe]
    cases r <;> rfl
  unfold storeInvoiceParts
  dsimp only
  split
  · exact hpersisted.stored hrows hlive _
  · rename_i he
    refine ⟨fun k hk => ?_, fun r hr k hk => hpersisted.other r hr k (by rwa [← hrows])⟩
    rw [hrows] at hk
    rcases hpersisted.new k hk with hold | ⟨-, rfl⟩
    · exact hlive k hold
    rcases hpositions _ hk with hold | hstores
    · exact hlive _ hold
    · -- All positions of a new row are stored.
      refine absurd ?_ he
      unfold InvoiceItem.storesPositions at hstores
      unfold bxInvoicePositionsStore
      split
      · rfl
      · rfl
      · rename_i positions hp
        rw [hp] at hstores
        exact storePositions_succeed positions _ db' hk hstores

theorem agreed_invoice {db : Database} {c : Cache} {item : InvoiceItem} (h : AgreeOn .invoice db c)
    (hC : item.agrees db c) : Agreed .invoice db (bxInvoiceSyncItem db c item).2 := by
  have hlive : ∀ id, db.has .invoice id → (cacheCheckItem c (item.invoice.id.getD 0) item.invoice.checksum).2.Live id :=
    fun id hid => (h id hid).check _ _
  have hkept : Agreed .invoice db (db, (cacheCheckItem c (item.invoice.id.getD 0) item.invoice.checksum).2) :=
    ⟨hlive, fun _ _ _ hid => hid⟩
  unfold bxInvoiceSyncItem
  dsimp only
  split
  · exact hkept
  split
  · exact hkept
  split
  · exact hkept
  rename_i _ herror hpresent
  have hparents : invoiceParentsPresent db (invoiceObject item) item.answers = (.noError, true) :=
    Prod.ext (not_not.mp herror) (by simpa using hpresent)
  have hcondition : ∀ hstate : (cacheCheckItem c (item.invoice.id.getD 0) item.invoice.checksum).1 = .cacheNotSet,
      (!item.answers.persist.inserts ((db.invoice.lookup ((invoiceObject item).id.getD 0)).isSome ||
        (invoiceObject item).orphan db) ||
        (item.answers.persist.clean && (invoiceObject item).id.isSome && item.storesPositions)) = true := by
    intro hstate
    simpa [InvoiceItem.agrees, hstate, hparents] using hC
  have hrow := persist_agrees (t := db.invoice) item.answers.persist
    (cacheCheckItem c (item.invoice.id.getD 0) item.invoice.checksum).1 (invoiceObject item).id
    { checksum := (invoiceObject item).checksum
      contactId := (invoiceObject item).contactId
      projectId := (invoiceObject item).projectId.filter (· ≠ 0) } ((invoiceObject item).orphan db) fun hstate => by
    have := hcondition hstate
    simp only [Bool.or_eq_true, Bool.and_eq_true] at this ⊢
    exact this.imp_right And.left
  have hpersist : Persisted .invoice db ((invoiceObject item).id.getD 0) (persistInvoice
      (cacheCheckItem c (item.invoice.id.getD 0) item.invoice.checksum).1 db (invoiceObject item) item.answers) :=
    ⟨fun k hk => (hrow k hk).imp_right And.left, fun other hne k hk => by
      cases other <;> first | exact absurd rfl hne | exact hk⟩
  have hpositions : ∀ k, (persistInvoice (cacheCheckItem c (item.invoice.id.getD 0) item.invoice.checksum).1 db
      (invoiceObject item) item.answers).2.has .invoice k → db.has .invoice k ∨ item.storesPositions = true := by
    intro k hk
    refine (hrow k hk).imp_right fun ⟨_, hstate, hinserts⟩ => ?_
    have := hcondition hstate
    rw [hinserts] at this
    simp only [Bool.not_true, Bool.false_or, Bool.and_eq_true] at this
    exact this.2
  split
  · rename_i heq
    rw [heq] at hpersist
    exact hpersist.unstored rfl hlive
  · rename_i warned db' heq
    rw [heq] at hpersist hpositions
    split
    · rename_i hok
      exact hpersist.unstored (by simpa using hok) hlive
    · exact agreed_storeInvoiceParts hpersist hlive hpositions

/-! ### Prunes -/

theorem eraseAll_lookup {κ α : Type} [DecidableEq κ] (t : Table κ α) (keys : List κ) (k : κ)
    (h : ((Table.eraseAll t keys).lookup k).isSome) : (t.lookup k).isSome := by
  rw [Table.lookup_eraseAll] at h
  split at h
  · exact nomatch h
  · exact h

/-- A DELETE that the server runs adds no row and removes its own. -/
theorem delete_rows (resource : Resource) (db : Database) (id : Nat) (cv : Bool) (other : Resource) (k : Nat)
    (h : (resource.delete db id false cv).2.has other k) : db.has other k ∧ (other = resource → k ≠ id) := by
  cases resource with
  | contact =>
    cases other with
    | contact => exact ((Table.isSome_lookup_erase _ _ _).mp h).imp_right fun hne _ => hne
    | project | invoice => exact ⟨h, nofun⟩
  | project =>
    cases other with
    | contact => exact ⟨h, nofun⟩
    | project => exact ((Table.isSome_lookup_erase _ _ _).mp h).imp_right fun hne _ => hne
    | invoice => exact ⟨eraseAll_lookup _ _ _ h, nofun⟩
  | invoice =>
    cases other with
    | contact | project => exact ⟨h, nofun⟩
    | invoice => exact ((Table.isSome_lookup_erase _ _ _).mp h).imp_right fun hne _ => hne

theorem delete_refused (resource : Resource) (db : Database) (id : Nat) (cv : Bool) :
    resource.delete db id true cv = (none, db) := by
  cases resource <;> rfl

/-- A DELETE adds no row, and one that is done has removed its own. -/
theorem run_delete (resource : Resource) (exec : Exec) (db : Database) (id : Nat) (other : Resource) (k : Nat)
    (h : (exec.run db (resource.delete db id)).2.has other k) :
    db.has other k ∧ ∀ warned, (exec.run db (resource.delete db id)).1 = .done warned → other = resource → k ≠ id := by
  have hrows : ∀ fk cv, (resource.delete db id fk cv).2.has other k → db.has other k := by
    intro fk cv hrow
    cases fk with
    | false => exact (delete_rows resource db id cv other k hrow).1
    | true => rwa [delete_refused] at hrow
  refine ⟨exec.run_table (Q := fun db' : Database => db'.has other k → db.has other k) (fun hk => hk) hrows h, fun warned hdone => ?_⟩
  obtain ⟨fk, cv, heffect⟩ := Exec.run_done hdone
  cases fk with
  | true =>
    rw [delete_refused] at heffect
    nomatch heffect
  | false =>
    rw [← congrArg Prod.snd heffect] at h
    exact (delete_rows resource db id cv other k h).2

/-- A prune takes the row of what it deletes before the cache lets go of it. -/
theorem agreed_pruneLoop (resource : Resource) (drift : Nat) (execs : List Exec) (iter : CacheIter) (db : Database) (c : Cache)
    (h : AgreeOn resource db c) :
    let r := pruneLoop resource.delete drift execs iter db c
    AgreeOn resource r.2.1 r.2.2.1 ∧ ∀ other k, r.2.1.has other k → db.has other k := by
  revert h
  fun_induction pruneLoop resource.delete drift execs iter db c
  case case1 => exact fun h => ⟨fun k hk => (h k hk).prune, fun _ _ hk => hk⟩
  case case2 => exact fun h => ⟨h, fun _ _ hk => hk⟩
  case case3 db c id _ exec _ _ _ db' heq =>
    intro h
    have hrun := run_delete resource exec db id
    rw [heq] at hrun
    exact ⟨fun k hk => h k (hrun _ k hk).1, fun other k hk => (hrun other k hk).1⟩
  case case4 db c id _ exec _ _ warned db' heq others ih =>
    intro h
    have hrun := run_delete resource exec db id
    rw [heq] at hrun
    have hnext : AgreeOn resource db' (cacheTombstone c id) := fun k hk =>
      (h k (hrun _ k hk).1).tombstone ((hrun _ k hk).2 warned rfl rfl)
    obtain ⟨hagree, hrows⟩ := ih hnext
    exact ⟨hagree, fun other k hk => (hrun other k (hrows other k hk)).1⟩

theorem agreed_bxPruneItems (resource : Resource) (prepared : Bool) (drift : Int) (deletes : List Exec) {db : Database} {c : Cache}
    (h : AgreeOn resource db c) :
    let r := bxPruneItems resource.delete prepared drift deletes db c
    Agreed resource db (r.2.1, r.2.2.1) := by
  unfold bxPruneItems
  split
  · obtain ⟨hagree, hrows⟩ := agreed_pruneLoop resource (pruneDrift drift) deletes (cacheIterInit c) db c h
    exact ⟨hagree, fun other _ k hk => hrows other k hk⟩
  · exact ⟨h, fun _ _ _ hk => hk⟩

/-! ### Runs -/

theorem cacheTableAgree_iff (m : Mirror) : CacheTableAgree m ↔ ∀ resource, AgreeOn resource m.db (m.cache resource) := by
  unfold CacheTableAgree AgreeOn
  constructor
  · exact fun h resource id hid => (Cache.cacheCheckItem_notSet _ id 0).mp (h resource id 0 hid)
  · exact fun h resource id checksum hid => (Cache.cacheCheckItem_notSet _ id checksum).mpr (h resource id hid)

theorem agree_put {m : Mirror} (h : ∀ resource, AgreeOn resource m.db (m.cache resource)) {resource : Resource}
    {s : Database × Cache} (hs : Agreed resource m.db s) :
    ∀ other, AgreeOn other (m.put resource s).db ((m.put resource s).cache other) := by
  intro other
  by_cases hother : other = resource
  · subst hother
    rw [Mirror.put_cache]
    exact hs.agree
  · rw [Mirror.put_cache_of_ne _ _ hother]
    exact fun id hid => h other id (hs.other other hother id hid)

theorem agree_hydrateCaches (db : Database) (resource : Resource) :
    AgreeOn resource (hydrateCaches db).db ((hydrateCaches db).cache resource) := by
  have hmem : ∀ {α : Type} (t : Table Nat α) id, (t.lookup id).isSome → ∃ row, Sigma.mk id row ∈ t.entries :=
    fun t id hid => by
      obtain ⟨row, hrow⟩ := Option.isSome_iff_exists.mp hid
      exact ⟨row, AList.mem_lookup_iff.mp hrow⟩
  intro id hid
  cases resource with
  | contact =>
    obtain ⟨row, hrow⟩ := hmem db.contact id hid
    exact Cache.live_bxCacheHydrate (List.mem_map.mpr ⟨_, hrow, rfl⟩) cacheCreate
  | project =>
    obtain ⟨row, hrow⟩ := hmem db.project id hid
    exact Cache.live_bxCacheHydrate (List.mem_map.mpr ⟨_, hrow, rfl⟩) cacheCreate
  | invoice =>
    obtain ⟨row, hrow⟩ := hmem db.invoice id hid
    exact Cache.live_bxCacheHydrate (List.mem_map.mpr ⟨_, hrow, rfl⟩) cacheCreate

theorem agree_next (m : Mirror) (input : MirrorInput) (h : ∀ resource, AgreeOn resource m.db (m.cache resource))
    (hC : AgreeCondition ⟨m, input⟩) : ∀ resource, AgreeOn resource (m.next input).db ((m.next input).cache resource) := by
  cases input with
  | contact archived item => exact agree_put h (agreed_contact archived (h .contact) hC)
  | project item => exact agree_put h (agreed_project (h .project) hC)
  | invoice item => exact agree_put h (agreed_invoice (h .invoice) hC)
  | prune resource prepared drift deletes => exact agree_put h (agreed_bxPruneItems resource prepared drift deletes (h resource))
  | bump resource => exact agree_put h ⟨fun id hid => (h resource id hid).next, fun _ _ _ hid => hid⟩
  | restart => exact agree_hydrateCaches m.db

/-- After a run from a hydration whose steps all meet the condition, the tables and the caches agree. -/
theorem cacheTableAgree_of_condition (db : Database) (inputs : List MirrorInput)
    (hC : ∀ call ∈ outputs mirrorStep (hydrateCaches db) inputs, AgreeCondition call) :
    CacheTableAgree (final mirrorStep (hydrateCaches db) inputs) := by
  rw [cacheTableAgree_iff]
  exact final_inv mirrorStep (I := fun m => ∀ resource, AgreeOn resource m.db (m.cache resource))
    (fun m input => agree_next m input) inputs _ (agree_hydrateCaches db) hC

/-! ### Two runs

    Contact 1 is new. The server converts a value of its row, or not. -/

def newContact (converted : Bool) : MirrorInput :=
  .contact false
    { contact := { id := some 1, checksum := 7, userId := none, ownerId := none, contactGroupIds := [] }
      answers := { ContactAnswers.quiet with persist := .ran false converted } }

/-- The row and the cache item are both there. -/
theorem cacheTableAgree_newContact :
    (final mirrorStep (hydrateCaches .empty) [newContact false]).db.has .contact 1 ∧
      CacheTableAgree (final mirrorStep (hydrateCaches .empty) [newContact false]) :=
  ⟨by decide, cacheTableAgree_of_condition .empty [newContact false] (by
    intro call hcall
    obtain rfl := List.mem_singleton.mp hcall
    show ContactItem.agrees _ _ _ = true
    decide)⟩

/-- The row is there with a warning, and the cache was not set. -/
theorem cacheTableAgree_converted :
    ¬CacheTableAgree (final mirrorStep (hydrateCaches .empty) [newContact true]) := by
  intro h
  exact h .contact 1 7 (by decide) (by decide)

end BxSync
