import BxSync.Lib.Machine
import BxSync.Mirror

/-! Whether the positions of an invoice are stored when its sync is skipped. The row carries its checksum
    before the positions are stored, and the cache is set after them, even when there was no array to store. -/

namespace BxSync

open Machine

/-! ### The property -/

/-- One of the databases holds the position for the invoice. -/
def StoredIn (dbs : List Database) (invoiceId : Nat) (position : BXPosition) : Prop :=
  ∃ db ∈ dbs, ∃ id, position.id = some id ∧ db.invoicePosition.lookup (id, invoiceId) = some position.checksum

/-- The database after each position of the loop of `bx_kb_positions_store`. -/
def positionMoments (invoiceId : Nat) : List BXPosition → List PositionAnswers → Database → List Database
  | position :: positions, a :: answers, db =>
    let persisted := persistOnePosition db invoiceId position a
    persisted.2 :: if persisted.1 ≠ .noError then [] else positionMoments invoiceId positions answers persisted.2
  | _, _, _ => []

/-- The statement of the object of an item, if its sync gets so far. -/
def invoiceStatement (db : Database) (c : Cache) (item : InvoiceItem) : Option (Stmt × Database) :=
  let checked := (cacheCheckItem c (item.invoice.id.getD 0) item.invoice.checksum).1
  if checked ≠ .cacheOk ∧ invoiceParentsPresent db (invoiceObject item) item.answers = (.noError, true) then
    some (persistInvoice checked db (invoiceObject item) item.answers)
  else none

/-- The sync of an item stores the positions of its object. -/
def InvoiceItem.reachesPositions (db : Database) (c : Cache) (item : InvoiceItem) : Bool :=
  (invoiceStatement db c item).any fun stmt => bxDatabasePersistOk stmt.1

/-- The databases between the positions of a step. -/
def MirrorCall.moments (call : MirrorCall) : List Database :=
  match call.input with
  | .invoice item =>
    match invoiceStatement call.pre.db (call.pre.cache .invoice) item, (invoiceObject item).positions with
    | some (.done false, db), .array positions =>
      positionMoments ((invoiceObject item).id.getD 0) positions item.answers.positions db
    | _, _ => []
  | _ => []

/-- When an invoice is skipped, every position of the remote array was stored. `remote` gives the array of the
    version of an invoice with a checksum, and `start` is the database before the run. -/
def PositionsCompleteAt (remote : Nat → Nat → List BXPosition) (start : Database) (before : List MirrorCall) (call : MirrorCall) :
    Prop :=
  ∀ id checksum, (cacheCheckItem (call.pre.cache .invoice) id checksum).1 = .cacheOk →
    ∀ position ∈ remote id checksum, StoredIn (start :: before.flatMap MirrorCall.moments) id position

def PositionsComplete (remote : Nat → Nat → List BXPosition) (start : Database) (calls : List MirrorCall) : Prop :=
  ∀ before call after, calls = before ++ call :: after → PositionsCompleteAt remote start before call

/-- An array that is stored is the one of its version. -/
def HonestPositions (remote : Nat → Nat → List BXPosition) (call : MirrorCall) : Prop :=
  match call.input with
  | .invoice item => ∀ positions, (invoiceObject item).positions = .array positions →
      positions = remote ((invoiceObject item).id.getD 0) (invoiceObject item).checksum
  | _ => True

/-- A row is written from an object with an array of positions unless its version has none, and a restart
    finds every row of an invoice as the cache has it. -/
def PositionsCondition (remote : Nat → Nat → List BXPosition) (call : MirrorCall) : Prop :=
  match call.input with
  | .invoice item => item.reachesPositions call.pre.db (call.pre.cache .invoice) →
      (∃ positions, (invoiceObject item).positions = .array positions) ∨
        remote ((invoiceObject item).id.getD 0) (invoiceObject item).checksum = []
  | .restart => ∀ row ∈ call.pre.db.checksums .invoice, (cacheCheckItem (call.pre.cache .invoice) row.1 row.2).1 = .cacheOk
  | _ => True

/-! ### What is stored -/

theorem StoredIn.mono {dbs dbs' : List Database} {invoiceId : Nat} {position : BXPosition} (h : StoredIn dbs invoiceId position)
    (hsub : ∀ db ∈ dbs, db ∈ dbs') : StoredIn dbs' invoiceId position := by
  obtain ⟨db, hdb, hrow⟩ := h
  exact ⟨db, hsub db hdb, hrow⟩

theorem lookup_persisted {t t' : Table (Nat × Nat) Nat} {key : Nat × Nat} {checksum : Nat} {orphan fk cv warned : Bool}
    (h : (if (t.lookup key).isNone then Table.insertRow t key checksum (fk || orphan) cv
      else Table.update t (some key) checksum fk cv) = (some warned, t')) : t'.lookup key = some checksum := by
  have hinsert : (t.insert key checksum).lookup key = some checksum := AList.lookup_insert t
  split at h
  · unfold Table.insertRow at h
    split at h
    · exact nomatch h
    · rw [← (Prod.mk.inj h).2]
      exact hinsert
  · rename_i hknown
    have hsome : (t.lookup key).isSome := by simpa [Option.isSome_iff_ne_none] using hknown
    unfold Table.update at h
    dsimp only at h
    rw [if_pos hsome] at h
    split at h
    · exact nomatch h
    · rw [← (Prod.mk.inj h).2]
      exact hinsert

theorem persistOnePosition_stored {db : Database} {invoiceId : Nat} {position : BXPosition} {a : PositionAnswers}
    (h : (persistOnePosition db invoiceId position a).1 = .noError) :
    StoredIn [(persistOnePosition db invoiceId position a).2] invoiceId position := by
  revert h
  unfold persistOnePosition
  dsimp only
  split
  · exact fun h => absurd h (bxDatabaseQueryError_ne _)
  split
  · rename_i hknown
    obtain ⟨id, hid, hrow⟩ := Option.bind_eq_some_iff.mp hknown
    exact fun _ => ⟨db, List.mem_singleton_self _, id, hid, hrow⟩
  split
  · exact fun h => absurd h (bxDatabaseQueryError_ne _)
  · rename_i warned hdone
    intro _
    obtain ⟨fk, cv, heffect⟩ := Exec.run_done hdone
    refine ⟨_, List.mem_singleton_self _, ?_⟩
    cases hid : position.id with
    | none =>
      rw [hid] at heffect
      exact nomatch heffect
    | some id =>
      simp only [hid, Option.bind_some] at heffect ⊢
      exact ⟨id, rfl, lookup_persisted heffect⟩

/-- Positions that are stored without an error were each in the table after their turn. -/
theorem storePositions_stored {invoiceId : Nat} (positions : List BXPosition) (answers : List PositionAnswers) (db : Database)
    (h : (storePositions invoiceId positions answers db).1 = .noError) :
    ∀ position ∈ positions, StoredIn (positionMoments invoiceId positions answers db) invoiceId position := by
  revert h
  fun_induction storePositions invoiceId positions answers db
  case case1 => exact fun _ => by simp
  case case2 => exact fun h => nomatch h
  case case3 he => exact fun h => absurd h he
  case case4 position positions a answers db persisted he ih =>
    intro h
    have hstored := persistOnePosition_stored (not_not.mp he)
    refine List.forall_mem_cons.mpr ⟨hstored.mono ?_, fun other hother => (ih h other hother).mono ?_⟩
    · intro db' hdb'
      rw [List.mem_singleton.mp hdb', positionMoments]
      exact List.mem_cons_self
    · intro db' hdb'
      rw [positionMoments]
      exact List.mem_cons_of_mem _ (by rwa [if_neg he])

/-! ### What the cache has -/

namespace Cache

/-- Every item satisfies a relation between ids and checksums. -/
def All (R : Nat → Nat → Prop) (c : Cache) : Prop := ∀ id item, c.entry id = some item → R id item.checksum

variable {R R' : Nat → Nat → Prop} {c : Cache}

theorem All.mono (h : c.All R) (hR : ∀ id checksum, R id checksum → R' id checksum) : c.All R' :=
  fun id item hentry => hR _ _ (h id item hentry)

theorem all_cacheCreate : cacheCreate.All R := by
  intro id item hentry
  exact nomatch (cacheCreate.entry_eq_some.mp hentry).1

theorem All.cacheOk (h : c.All R) {id checksum : Nat} (hok : (cacheCheckItem c id checksum).1 = .cacheOk) : R id checksum := by
  rw [cacheCheckItem_state] at hok
  split at hok
  · exact nomatch hok
  · rename_i item hentry
    split_ifs at hok with hz hne
    rw [← not_not.mp hne]
    exact h id item hentry

theorem All.check (h : c.All R) (id checksum : Nat) : (cacheCheckItem c id checksum).2.All R := by
  intro k item hentry
  rw [entry_cacheCheckItem] at hentry
  split at hentry
  · subst_vars
    obtain ⟨old, hold, rfl⟩ := Option.map_eq_some_iff.mp hentry
    have := h _ old hold
    split <;> exact this
  · exact h k item hentry

theorem All.set (h : c.All R) {id checksum : Nat} (hR : R id checksum) : (cacheSetItem c id checksum).All R := by
  intro k item hentry
  rw [entry_cacheSetItem] at hentry
  split at hentry
  · subst_vars
    obtain rfl := Option.some.inj hentry
    exact hR
  · exact h k item hentry

theorem All.tombstone (h : c.All R) (id : Nat) : (cacheTombstone c id).All R := by
  intro k item hentry
  rw [entry_cacheTombstone] at hentry
  split at hentry
  · subst_vars
    obtain ⟨old, hold, rfl⟩ := Option.map_eq_some_iff.mp hentry
    exact h _ old hold
  · exact h k item hentry

theorem All.prune (h : c.All R) : (cachePrune c).All R := by
  intro k item hentry
  rw [entry_cachePrune] at hentry
  exact h k item (Option.filter_eq_some_iff.mp hentry).1

theorem All.next (h : c.All R) : (cacheNextVersion c).All R := by
  intro k item hentry
  by_cases hwrap : c.version + 1 = uint64Max
  · rw [cacheNextVersion_wrap c hwrap, entry_cacheResetVersion] at hentry
    obtain ⟨old, hold, rfl⟩ := Option.map_eq_some_iff.mp hentry
    exact h k old hold
  · exact h k item (by rwa [entry_cacheNextVersion c hwrap] at hentry)

theorem All.hydrate (h : c.All R) {rows : List (Nat × Nat)} (hrows : ∀ row ∈ rows, R row.1 row.2) :
    (bxCacheHydrate rows c).All R := by
  unfold bxCacheHydrate
  induction rows generalizing c with
  | nil => exact h
  | cons row rows ih =>
    exact ih (h.set (hrows row List.mem_cons_self)) fun other hother => hrows other (List.mem_cons_of_mem _ hother)

theorem All.pruneLoop (delete : Delete) (drift : Nat) (execs : List Exec) (iter : CacheIter) (db : Database) (h : c.All R) :
    (pruneLoop delete drift execs iter db c).2.2.1.All R := by
  revert h
  fun_induction BxSync.pruneLoop delete drift execs iter db c
  case case1 => exact All.prune
  case case2 | case3 => exact id
  case case4 ih => exact fun h => ih (h.tombstone _)

end Cache

/-! ### One step -/

/-- The sync of an invoice adds its object to the cache only after its positions are stored. -/
theorem all_bxInvoiceSyncItem {R : Nat → Nat → Prop} {db : Database} {c : Cache} {item : InvoiceItem} (h : c.All R)
    (hstore : ∀ db', invoiceStatement db c item = some (.done false, db') →
      (bxInvoicePositionsStore db' ((invoiceObject item).id.getD 0) (invoiceObject item).positions
        item.answers.positions).1 = .noError → R ((invoiceObject item).id.getD 0) (invoiceObject item).checksum) :
    (bxInvoiceSyncItem db c item).2.2.All R := by
  have hchecked : (cacheCheckItem c (item.invoice.id.getD 0) item.invoice.checksum).2.All R := h.check _ _
  unfold bxInvoiceSyncItem
  dsimp only
  split
  · exact hchecked
  split
  · exact hchecked
  split
  · exact hchecked
  rename_i hstate herror hpresent
  have hreached : invoiceStatement db c item = some (persistInvoice
      (cacheCheckItem c (item.invoice.id.getD 0) item.invoice.checksum).1 db (invoiceObject item) item.answers) := by
    unfold invoiceStatement
    exact if_pos ⟨hstate, Prod.ext (not_not.mp herror) (by simpa using hpresent)⟩
  split
  · exact hchecked
  · rename_i warned db' heq
    rw [heq] at hreached
    cases warned with
    | true => exact hchecked
    | false =>
      unfold storeInvoiceParts
      dsimp only
      split
      · exact absurd ‹_› (by decide)
      · split
        · rename_i hnoError
          exact hchecked.set (hstore db' hreached hnoError)
        · exact hchecked

/-- The positions of an invoice with a checksum were stored at some moment. -/
def Stored (remote : Nat → Nat → List BXPosition) (dbs : List Database) (id checksum : Nat) : Prop :=
  ∀ position ∈ remote id checksum, StoredIn dbs id position

variable {remote : Nat → Nat → List BXPosition}

theorem Stored.mono {dbs dbs' : List Database} (hsub : ∀ db ∈ dbs, db ∈ dbs') (id checksum : Nat)
    (h : Stored remote dbs id checksum) : Stored remote dbs' id checksum :=
  fun position hposition => (h position hposition).mono hsub

/-- Under the condition, an object whose positions are stored without an error has all positions of its version
    stored in the step. -/
theorem stored_moments {m : Mirror} {item : InvoiceItem} (hhonest : HonestPositions remote ⟨m, .invoice item⟩)
    (hC : PositionsCondition remote ⟨m, .invoice item⟩) {db' : Database}
    (hreached : invoiceStatement m.db (m.cache .invoice) item = some (.done false, db'))
    (hstored : (bxInvoicePositionsStore db' ((invoiceObject item).id.getD 0) (invoiceObject item).positions
      item.answers.positions).1 = .noError) :
    Stored remote (MirrorCall.moments ⟨m, .invoice item⟩) ((invoiceObject item).id.getD 0) (invoiceObject item).checksum := by
  have hreaches : item.reachesPositions m.db (m.cache .invoice) := by
    unfold InvoiceItem.reachesPositions
    rw [hreached]
    rfl
  rcases hC hreaches with ⟨positions, harray⟩ | hnone
  · intro position hposition
    rw [← hhonest positions harray] at hposition
    rw [harray] at hstored
    simp only [MirrorCall.moments, hreached, harray]
    exact storePositions_stored positions _ db' hstored position hposition
  · intro position hposition
    rw [hnone] at hposition
    exact nomatch hposition

/-- Every invoice in the cache has had its positions stored. -/
theorem all_next {m : Mirror} {dbs : List Database} (input : MirrorInput) (h : (m.cache .invoice).All (Stored remote dbs))
    (hhonest : HonestPositions remote ⟨m, input⟩) (hC : PositionsCondition remote ⟨m, input⟩) :
    ((m.next input).cache .invoice).All (Stored remote (dbs ++ MirrorCall.moments ⟨m, input⟩)) := by
  have hmono : ∀ {c : Cache}, c.All (Stored remote dbs) → c.All (Stored remote (dbs ++ MirrorCall.moments ⟨m, input⟩)) :=
    fun hc => hc.mono (Stored.mono fun db hdb => List.mem_append_left _ hdb)
  refine m.next_invoice input (hmono h) ?_ ?_ (hmono h).next ?_
  · rintro item rfl
    refine all_bxInvoiceSyncItem (hmono h) fun db' hreached hstored => ?_
    exact Stored.mono (fun db hdb => List.mem_append_right _ hdb) _ _ (stored_moments hhonest hC hreached hstored)
  · rintro prepared drift deletes rfl
    unfold bxPruneItems
    split
    · exact hmono (h.pruneLoop _ _ _ _ _)
    · exact hmono h
  · rintro rfl
    exact Cache.all_cacheCreate.hydrate fun row hrow => (hmono h).cacheOk (hC row hrow)

/-! ### Runs -/

/-- In a run whose steps all meet the condition, an invoice that is skipped has had every position stored. The
    rows the run starts with have theirs. -/
theorem positionsComplete_of_condition (remote : Nat → Nat → List BXPosition) (db : Database) (inputs : List MirrorInput)
    (hstart : ∀ row ∈ db.checksums .invoice, ∀ position ∈ remote row.1 row.2, StoredIn [db] row.1 position)
    (hhonest : ∀ call ∈ outputs mirrorStep (hydrateCaches db) inputs, HonestPositions remote call)
    (hC : ∀ call ∈ outputs mirrorStep (hydrateCaches db) inputs, PositionsCondition remote call) :
    PositionsComplete remote db (outputs mirrorStep (hydrateCaches db) inputs) := by
  intro before call after heq
  refine run_safe mirrorStep
    (I := fun history m => (m.cache .invoice).All (Stored remote (db :: history.flatMap MirrorCall.moments)))
    (C := fun call => HonestPositions remote call ∧ PositionsCondition remote call) ?_ ?_
    (fun call hcall => ⟨hhonest call hcall, hC call hcall⟩) heq
  · exact Cache.all_cacheCreate.hydrate hstart
  · intro history m input hinv hcall
    refine ⟨fun id checksum hok => hinv.cacheOk hok, ?_⟩
    have hnext := all_next input hinv hcall.1 hcall.2
    rw [List.flatMap_append, List.flatMap_singleton]
    exact hnext

/-! ### Two runs

    The list shows invoice 1 without its positions. The GET by id answers with them, or not at all. -/

/-- Invoice 1 has one position. -/
def remotePositions (id : Nat) (_checksum : Nat) : List BXPosition :=
  if id = 1 then [{ id := some 5, checksum := 9 }] else []

def listedInvoice (positions : Positions) : BXObjectInvoice :=
  { id := some 1, checksum := 7, contactId := none, projectId := none, positions }

def listedItem (answered : Bool) : MirrorInput :=
  .invoice
    { invoice := listedInvoice .absent
      answers :=
        { InvoiceAnswers.quiet with
          detail :=
            if answered then some { httpCode := 200, decoded := some (listedInvoice (.array (remotePositions 1 7))) } else none
          positions := [{ select := .answered, write := .ran false false }] } }

/-- The position is stored before the invoice is skipped, in the same run and after a restart. -/
theorem positionsComplete_detailAnswered :
    (cacheCheckItem ((final mirrorStep (hydrateCaches .empty) [listedItem true, .restart]).cache .invoice) 1 7).1 = .cacheOk ∧
      PositionsComplete remotePositions .empty
        (outputs mirrorStep (hydrateCaches .empty) [listedItem true, .restart, listedItem true]) := by
  refine ⟨by decide, positionsComplete_of_condition remotePositions .empty _ (fun row hrow => nomatch hrow) ?_ ?_⟩
  · intro call hcall
    simp only [outputs, List.mem_cons, List.not_mem_nil, or_false] at hcall
    rcases hcall with rfl | rfl | rfl
    · exact fun positions h => (Positions.array.inj h).symm
    · trivial
    · exact fun positions h => (Positions.array.inj h).symm
  · intro call hcall
    simp only [outputs, List.mem_cons, List.not_mem_nil, or_false] at hcall
    rcases hcall with rfl | rfl | rfl
    · exact fun _ => Or.inl ⟨_, rfl⟩
    · show ∀ row ∈ Database.checksums _ .invoice, _ = CacheState.cacheOk
      decide
    · exact fun _ => Or.inl ⟨_, rfl⟩

/-- Without an answer the row is written and the cache set, and the next sync skips the invoice. -/
theorem positionsComplete_detailUnanswered :
    ¬PositionsComplete remotePositions .empty (outputs mirrorStep (hydrateCaches .empty) [listedItem false, listedItem false]) := by
  intro h
  obtain ⟨db, hdb, id, hid, hrow⟩ := h [(mirrorStep (hydrateCaches .empty) (listedItem false)).1] _ [] rfl 1 7 (by decide)
    { id := some 5, checksum := 9 } (by decide)
  obtain rfl : db = Database.empty := List.mem_singleton.mp hdb
  exact nomatch hrow

end BxSync
