import BxSync.Lib.Machine
import BxSync.Theorems.CacheWalk
import BxSync.Theorems.Phases

/-! Which ids the missed phase loads. What the list showed was seen at the current version, and only a bump
    makes it stale. A list whose row is not saved and a failed attempt of the missed phase bump. -/

namespace BxSync

open Machine

/-! ### The property -/

/-- Adds what a call of the invoice list showed. The list asked for at its first page starts over. -/
def addListShown (shown : List Nat) (call : ChainCall) : List Nat :=
  match call.pre.cursors.memory.phase with
  | .invoiceList =>
    if call.pre.cursors.memory.offset = 0 then shownIds call.out.log else shown ++ shownIds call.out.log
  | _ => shown

/-- The invoice ids shown since the list was last requested at its first page. -/
def listShown (calls : List ChainCall) : List Nat := calls.foldl addListShown []

/-- Adds what a call of the missed phase loaded. Any other phase starts over. -/
def addMissedLoaded (loaded : List Nat) (call : ChainCall) : List Nat :=
  match call.pre.cursors.memory.phase with
  | .invoiceMissed => loaded ++ loadedIds call.out.log
  | _ => []

/-- The invoice ids the current missed phase has loaded so far. -/
def missedLoaded (calls : List ChainCall) : List Nat := calls.foldl addMissedLoaded []

/-- A call requests by id only what the list did not show and an earlier attempt of the same missed phase
    did not load. -/
def RequestsMissedAt (before : List ChainCall) (call : ChainCall) : Prop :=
  ∀ id ∈ requestedIds call.out.log, id ∉ listShown before ∧ id ∉ missedLoaded before

/-- Every call of a run does so. -/
def RequestsMissed (calls : List ChainCall) : Prop :=
  ∀ before call after, calls = before ++ call :: after → RequestsMissedAt before call

/-- The statements of the sync of an invoice object succeed. -/
def InvoiceItem.calm (item : InvoiceItem) : Bool :=
  item.answers.contact = .answered && item.answers.project = .answered &&
    (match item.answers.persist with
      | .ran fkError _ => !fkError
      | _ => false) &&
    (item.answers.positions.all fun a => a.select.keepsConnection && a.write.keepsConnection) &&
    item.answers.extra ≠ .errorSQLReconnect && (invoiceObject item).contactId ≠ some 0

/-- The GET of an id is answered 404, or 200 with the object of that id, which is stored. -/
def MissedReply.settles (id : Nat) (missed : MissedReply) : Bool :=
  match missed.reply with
  | none => false
  | some reply =>
    reply.httpCode = 404 ||
      (reply.httpCode = 200 &&
        match reply.decoded with
        | none => false
        | some invoice =>
          let item : InvoiceItem := { invoice, answers := missed.answers }
          invoice.id.getD 0 = id && (invoiceObject item).id.getD 0 = id && item.calm)

/-- Every id of a list is answered, in order. -/
def answersAll : List Nat → List MissedReply → Bool
  | [], _ => true
  | _ :: _, [] => false
  | id :: ids, missed :: rest => missed.settles id && answersAll ids rest

/-- The row of the missed phase is saved after a list walk from the first page, and every id that is stale
    when the missed phase starts is answered. -/
def MissedCondition (call : ChainCall) : Prop :=
  call.input.sync.connected = true →
    (call.pre.cursors.memory = ⟨.invoiceList, 0⟩ → call.input.sync.save.ok) ∧
    (call.pre.cursors.memory.phase = .invoiceMissed →
      answersAll (cacheIterAll call.pre.invoices 1) call.input.sync.missed)

instance (call : ChainCall) : Decidable (MissedCondition call) := inferInstanceAs (Decidable (_ → _ ∧ _))

/-! ### An answered missed phase succeeds -/

theorem persistOnePosition_keepsConnection (db : Database) (invoiceId : Nat) (position : BXPosition) (a : PositionAnswers)
    (hs : a.select.keepsConnection) (hw : a.write.keepsConnection) :
    (persistOnePosition db invoiceId position a).1 ≠ .errorSQLReconnect := by
  unfold persistOnePosition
  split
  · rename_i hq
    exact bxDatabaseQueryError_keepsConnection hq hs
  · dsimp only
    split
    · exact nofun
    · split
      · rename_i needReconnect hrun
        have := a.write.run_keepsConnection hw db.invoicePosition
        cases needReconnect
        · exact nofun
        · exact absurd hrun (this _)
      · exact nofun

theorem storePositions_keepsConnection (invoiceId : Nat) (positions : List BXPosition) (answers : List PositionAnswers)
    (db : Database) (h : answers.all fun a => a.select.keepsConnection && a.write.keepsConnection) :
    (storePositions invoiceId positions answers db).1 ≠ .errorSQLReconnect := by
  revert h
  fun_induction storePositions invoiceId positions answers db
  case case1 => exact fun _ => nofun
  case case2 => exact fun _ => nofun
  case case3 a answers db persisted he =>
    intro h
    rw [List.all_cons, Bool.and_eq_true, Bool.and_eq_true] at h
    exact persistOnePosition_keepsConnection _ _ _ a h.1.1 h.1.2
  case case4 ih =>
    intro h
    rw [List.all_cons, Bool.and_eq_true] at h
    exact ih h.2

theorem invoiceParentsPresent_answered (db : Database) (invoice : BXObjectInvoice) {a : InvoiceAnswers}
    (hc : a.contact = .answered) (hp : a.project = .answered) : (invoiceParentsPresent db invoice a).1 = .noError := by
  unfold invoiceParentsPresent bxContactIsInDatabase bxProjectIsInDatabase
  rw [hc, hp]
  dsimp only
  split_ifs <;> simp_all

/-- The parents of an invoice that may be stored are in their tables. -/
theorem invoiceParentsPresent_true {db : Database} {invoice : BXObjectInvoice} {a : InvoiceAnswers}
    (hc : a.contact = .answered) (hp : a.project = .answered) (h : (invoiceParentsPresent db invoice a).2 = true) :
    (invoice.contactId.getD 0 ≠ 0 → (db.contact.lookup (invoice.contactId.getD 0)).isSome) ∧
      (invoice.projectId.getD 0 ≠ 0 → (db.project.lookup (invoice.projectId.getD 0)).isSome) := by
  unfold invoiceParentsPresent bxContactIsInDatabase bxProjectIsInDatabase at h
  rw [hc, hp] at h
  dsimp only at h
  split_ifs at h <;> simp_all [Option.isSome_iff_ne_none]

theorem persistInvoice_done (state : CacheState) {db : Database} {invoice : BXObjectInvoice} {a : InvoiceAnswers}
    {converted : Bool} (ha : a.persist = .ran false converted) (hc : a.contact = .answered) (hp : a.project = .answered)
    (hparents : (invoiceParentsPresent db invoice a).2 = true) (hzero : invoice.contactId ≠ some 0) :
    ∃ warned, (persistInvoice state db invoice a).1 = .done warned := by
  obtain ⟨hcontact, hproject⟩ := invoiceParentsPresent_true hc hp hparents
  have horphan : ((invoice.contactId.any fun id => (db.contact.lookup id).isNone) ||
      ((invoice.projectId.filter (· ≠ 0)).any fun id => (db.project.lookup id).isNone)) = false := by
    rw [Bool.or_eq_false_iff]
    constructor
    · cases hid : invoice.contactId with
      | none => rfl
      | some id =>
        rw [hid] at hcontact hzero
        simpa [Option.isNone_iff_eq_none, Option.isSome_iff_ne_none] using hcontact (by simpa using hzero)
    · cases hid : invoice.projectId with
      | none => rfl
      | some id =>
        rw [hid] at hproject
        by_cases hz : id = 0
        · simp [hz, Option.filter]
        · simpa [Option.filter, hz, Option.isNone_iff_eq_none, Option.isSome_iff_ne_none] using hproject hz
  unfold persistInvoice
  dsimp only
  rw [horphan, ha]
  by_cases hstate : state = .cacheNotSet
  · obtain ⟨warned, hw⟩ := Table.insertIgnore_done db.invoice (invoice.id.getD 0)
      ⟨invoice.checksum, invoice.contactId, invoice.projectId.filter (· ≠ 0)⟩ false (converted || invoice.id.isNone)
    exact ⟨warned, Exec.run_ran (by rw [if_pos hstate]; exact hw)⟩
  · obtain ⟨warned, hw⟩ := Table.update_done db.invoice invoice.id
      ⟨invoice.checksum, invoice.contactId, invoice.projectId.filter (· ≠ 0)⟩ converted
    exact ⟨warned, Exec.run_ran (by rw [if_neg hstate]; exact hw)⟩

theorem bxInvoiceSyncItem_calm (db : Database) (c : Cache) (item : InvoiceItem) (h : item.calm) :
    (bxInvoiceSyncItem db c item).1 = .noError := by
  simp only [InvoiceItem.calm, Bool.and_eq_true, decide_eq_true_eq] at h
  obtain ⟨⟨⟨⟨⟨hcontact, hproject⟩, hpersist⟩, hpositions⟩, hextra⟩, hzero⟩ := h
  obtain ⟨converted, ha⟩ : ∃ converted, item.answers.persist = .ran false converted := by
    split at hpersist
    · rename_i fkError converted heq
      cases fkError
      · exact ⟨converted, heq⟩
      · exact nomatch hpersist
    · exact nomatch hpersist
  unfold bxInvoiceSyncItem
  dsimp only
  split
  · rfl
  split
  · rename_i he
    exact absurd (invoiceParentsPresent_answered db _ hcontact hproject) he
  split
  · rfl
  rename_i hparents
  obtain ⟨warned, hdone⟩ := persistInvoice_done (cacheCheckItem c (item.invoice.id.getD 0)
    item.invoice.checksum).1 ha hcontact hproject (by simpa using hparents) hzero
  split
  · rename_i hstmt
    rw [hstmt] at hdone
    exact nomatch hdone
  rename_i stored _
  split
  · rfl
  have hkeeps : (bxInvoicePositionsStore stored ((invoiceObject item).id.getD 0) (invoiceObject item).positions
      item.answers.positions).1 ≠ .errorSQLReconnect := by
    unfold bxInvoicePositionsStore
    split
    · exact nofun
    · exact nofun
    · exact storePositions_keepsConnection _ _ _ stored hpositions
  unfold storeInvoiceParts
  dsimp only
  rw [if_neg hextra, if_neg hkeeps]
  split <;> rfl

theorem cacheIterCollect_cons {c : Cache} {iter next : CacheIter} {drift id fuel : Nat}
    (h : cacheIterNextPrunableId c iter drift = (some id, next)) (hfuel : c.items.length < fuel + iter.current) :
    ∃ fuel' j, cacheIterCollect c drift fuel iter = id :: cacheIterCollect c drift fuel' next ∧
      c.items.length < fuel' + next.current ∧ c.findItem id = some j ∧ next.current = j + 1 := by
  obtain ⟨-, -, j, item, hj, rfl, -, hge, hcur, -⟩ := cacheIterNextPrunableId_some h
  have hlt : j < c.items.length := (List.getElem?_eq_some_iff.mp hj).1
  cases fuel with
  | zero => omega
  | succ fuel =>
    refine ⟨fuel, j, ?_, by omega, Cache.findItem_of_getElem? hj, hcur⟩
    rw [cacheIterCollect, h]

/-- A missed phase whose requests are all answered, with 404 or with an object that is stored, returns
    NoError. What it stores leaves the items after the iterator where they are. -/
theorem fetchMissed_answersAll (replies : List MissedReply) (iter : CacheIter) (db : Database) (c : Cache) (fuel : Nat)
    (hfuel : c.items.length < fuel + iter.current) (h : answersAll (cacheIterCollect c 1 fuel iter) replies) :
    (fetchMissed replies iter db c).1 = .noError := by
  revert fuel
  fun_induction fetchMissed replies iter db c
  case case1 => exact fun _ _ _ => rfl
  case case2 hnext =>
    intro fuel hfuel h
    obtain ⟨fuel', j, hcollect, -⟩ := cacheIterCollect_cons hnext hfuel
    rw [hcollect] at h
    cases h
  case case3 missed _ hnext hreply =>
    intro fuel hfuel h
    obtain ⟨fuel', j, hcollect, -⟩ := cacheIterCollect_cons hnext hfuel
    simp [hcollect, answersAll, MissedReply.settles, hreply] at h
  case case4 missed _ hnext reply hreply _ _ _ ih =>
    intro fuel hfuel h
    obtain ⟨fuel', j, hcollect, hfuel', -, -⟩ := cacheIterCollect_cons hnext hfuel
    rw [hcollect, answersAll, Bool.and_eq_true] at h
    exact ih fuel' hfuel' h.2
  case case5 missed _ hnext reply hreply _ h404 hdecoded =>
    intro fuel hfuel h
    obtain ⟨fuel', j, hcollect, -⟩ := cacheIterCollect_cons hnext hfuel
    simp [hcollect, answersAll, MissedReply.settles, hreply, h404, hdecoded] at h
  case case6 missed _ hnext reply hreply _ h404 invoice hdecoded h200 =>
    intro fuel hfuel h
    obtain ⟨fuel', j, hcollect, -⟩ := cacheIterCollect_cons hnext hfuel
    simp [hcollect, answersAll, MissedReply.settles, hreply, h404, h200] at h
  case case7 db c _ _ missed _ hnext reply hreply _ h404 invoice hdecoded h200 synced he =>
    intro fuel hfuel h
    obtain ⟨fuel', j, hcollect, -⟩ := cacheIterCollect_cons hnext hfuel
    simp only [hcollect, answersAll, MissedReply.settles, hreply, hdecoded, Bool.and_eq_true, Bool.or_eq_true,
      decide_eq_true_eq, h404, false_or] at h
    exact absurd (bxInvoiceSyncItem_calm db c ⟨invoice, missed.answers⟩ h.1.2.2) he
  case case8 db c id _ missed _ hnext reply hreply _ h404 invoice hdecoded h200 synced _ others ih =>
    intro fuel hfuel h
    obtain ⟨fuel', j, hcollect, hfuel', hfind, hcur⟩ := cacheIterCollect_cons hnext hfuel
    simp only [hcollect, answersAll, MissedReply.settles, hreply, hdecoded, Bool.and_eq_true, Bool.or_eq_true,
      decide_eq_true_eq, h404, false_or] at h
    obtain ⟨⟨-, ⟨hid, hobject⟩, hcalm⟩, hrest⟩ := h
    have htouched : Cache.Touched c id id synced.2.2 := by
      have := invoicePageItem_touched (db, c) ⟨invoice, missed.answers⟩
      rwa [hobject, show (InvoiceItem.mk invoice missed.answers).invoice.id.getD 0 = id from hid] at this
    have hsame := htouched.sameAfter hfind
    refine ih fuel' (by rw [hsame.length]; exact hfuel') ?_
    rw [cacheIterCollect_congr]
    · exact hrest
    · rw [hcur]
      exact hsame.drop

theorem bxInvoiceFetchMissed_answersAll (replies : List MissedReply) (db : Database) (c : Cache)
    (h : answersAll (cacheIterAll c 1) replies) : (bxInvoiceFetchMissed replies db c).1 = .noError :=
  fetchMissed_answersAll replies (cacheIterInit c) db c _ (by simp [cacheIterInit]) h

/-! ### Runs -/

theorem listShown_append (calls : List ChainCall) (call : ChainCall) :
    listShown (calls ++ [call]) = addListShown (listShown calls) call := by
  simp [listShown]

theorem missedLoaded_append (calls : List ChainCall) (call : ChainCall) :
    missedLoaded (calls ++ [call]) = addMissedLoaded (missedLoaded calls) call := by
  simp [missedLoaded]

/-- In the missed phase nothing the list showed is stale, and the phase has not loaded anything yet. -/
structure MissedInv (calls : List ChainCall) (s : ChainState) : Prop where
  fresh : s.cursors.memory.phase = .invoiceMissed → ∀ id ∈ listShown calls, ¬s.invoices.Stale id
  loaded : s.cursors.memory.phase = .invoiceMissed → missedLoaded calls = []

/-- A list that leads to the missed phase started at its first page and left nothing it showed stale. -/
theorem syncInvoiceList_fresh {s : ChainState} {i : ChainInput} (hphase : s.cursors.memory.phase = .invoiceList)
    (h : (syncInvoiceList s i).state.cursors.memory.phase = .invoiceMissed) :
    s.cursors.memory.offset = 0 ∧
      (∀ id ∈ shownIds (syncInvoiceList s i).log, ¬(syncInvoiceList s i).state.invoices.Stale id) ∧
      (i.save.ok → (syncInvoiceList s i).result.bumpInvoice = false) := by
  have hwalk := phase_walkInvoices { s with invoiceFromZero := false } i hphase
  have hfresh := fresh_walkInvoices { s with invoiceFromZero := false } i
  unfold syncInvoiceList at h ⊢
  dsimp only at h ⊢
  split at h
  · rw [hwalk] at h
    exact nomatch h
  · rename_i hw
    rw [if_neg hw]
    split at h
    · exact nomatch h
    · rename_i hz
      rw [if_neg hz]
      refine ⟨not_not.mp hz, ?_, fun hsave => ?_⟩
      · intro id hid
        exact hfresh (not_not.mp hw) id (by simpa [finishResource] using hid)
      · simp [finishResource, failResource, advancePhase, hsave]

section

variable {calls : List ChainCall} {s : ChainState} {i : ChainStepInput}

/-- After a call that is not in the missed phase any more there is nothing to show. -/
theorem missedInv_elsewhere (h : (bxChainSync s i.sync).state.cursors.memory.phase ≠ .invoiceMissed) :
    MissedInv (calls ++ [(chainStep s i).1]) (chainStep s i).2 := by
  have hne : (chainStep s i).2.cursors.memory.phase ≠ .invoiceMissed := by rwa [chainStep_cursors]
  exact ⟨fun heq => absurd heq hne, fun heq => absurd heq hne⟩

theorem missedInv_list (hsync : bxChainSync s i.sync = syncInvoiceList s i.sync)
    (hphase : s.cursors.memory.phase = .invoiceList) (hsave : s.cursors.memory.offset = 0 → i.sync.save.ok)
    (h : (bxChainSync s i.sync).state.cursors.memory.phase = .invoiceMissed) :
    MissedInv (calls ++ [(chainStep s i).1]) (chainStep s i).2 := by
  have hph : (chainStep s i).1.pre.cursors.memory.phase = .invoiceList := hphase
  have hlog : (chainStep s i).1.out.log = (syncInvoiceList s i.sync).log := congrArg ChainOut.log hsync
  rw [hsync] at h
  obtain ⟨hoffset, hfresh, hbump⟩ := syncInvoiceList_fresh hphase h
  have hoff : (chainStep s i).1.pre.cursors.memory.offset = 0 := hoffset
  constructor
  · intro _ id hid
    rw [chainStep_invoices s i (by rw [hsync, syncInvoiceList_prune]) (by rw [hsync, hbump (hsave hoffset)]), hsync]
    rw [listShown_append] at hid
    exact hfresh id (by simpa [addListShown, hph, hoff, hlog] using hid)
  · intro _
    rw [missedLoaded_append]
    simp [addMissedLoaded, hph]

theorem missedInv_disconnected (hconn : i.sync.connected = false) (hinv : MissedInv calls s) :
    MissedInv (calls ++ [(chainStep s i).1]) (chainStep s i).2 := by
  have hsync := bxChainSync_disconnected (s := s) hconn
  have hcache : (chainStep s i).2.invoices = s.invoices :=
    (chainStep_frame s i .invoice fun h => absurd h (by rw [hconn]; decide)).1
  have hcursors : (chainStep s i).2.cursors = s.cursors := by rw [chainStep_cursors, hsync]
  have hlog : (chainStep s i).1.out.log = [] := congrArg ChainOut.log hsync
  have hph : ∀ h : s.cursors.memory.phase = .invoiceMissed, (chainStep s i).1.pre.cursors.memory.phase = .invoiceMissed := id
  constructor
  · intro h id hid
    rw [hcursors] at h
    rw [hcache]
    rw [listShown_append] at hid
    exact hinv.fresh h id (by simpa [addListShown, hph h] using hid)
  · intro h
    rw [hcursors] at h
    rw [missedLoaded_append]
    simp [addMissedLoaded, hph h, hlog, hinv.loaded h, loadedIds]

theorem requestsMissedAt_missed (hsync : bxChainSync s i.sync = syncInvoiceMissed s i.sync)
    (hphase : s.cursors.memory.phase = .invoiceMissed) (hinv : MissedInv calls s) :
    RequestsMissedAt calls (chainStep s i).1 := by
  intro id hid
  have hout : (chainStep s i).1.out = syncInvoiceMissed s i.sync := hsync
  have hrequested : id ∈ requestedIds (bxInvoiceFetchMissed i.sync.missed s.db s.invoices).2.2.2 := by
    rw [hout] at hid
    unfold syncInvoiceMissed at hid
    dsimp only at hid
    split at hid
    · exact hid
    · have hsaved := requestedIds_ofWalk (ofWalk_saved (advancePhase s.cursors .contactActive i.sync.save).2.2)
      simpa [finishResource, hsaved] using hid
  refine ⟨fun hshown => ?_, by simp [hinv.loaded hphase]⟩
  exact hinv.fresh hphase id hshown (requested_stale _ _ _ _ rfl id hrequested)

end

theorem missedInv_step (calls : List ChainCall) (s : ChainState) (i : ChainStepInput) (hinv : MissedInv calls s)
    (hC : MissedCondition (chainStep s i).1) :
    RequestsMissedAt calls (chainStep s i).1 ∧ MissedInv (calls ++ [(chainStep s i).1]) (chainStep s i).2 := by
  cases hconn : i.sync.connected with
  | false =>
    refine ⟨fun id hid => ?_, missedInv_disconnected hconn hinv⟩
    rw [show (chainStep s i).1.out = _ from bxChainSync_disconnected hconn] at hid
    exact nomatch hid
  | true =>
    obtain ⟨hlist, hmissed⟩ := hC hconn
    by_cases hphase : s.cursors.memory.phase = .invoiceMissed
    · have hsync := bxChainSync_invoiceMissed hconn hphase
      refine ⟨requestsMissedAt_missed hsync hphase hinv, missedInv_elsewhere ?_⟩
      -- Every request is answered, so the phase ends with its first attempt.
      have hanswers : answersAll (cacheIterAll s.invoices 1) i.sync.missed := hmissed hphase
      rw [hsync]
      unfold syncInvoiceMissed
      dsimp only
      rw [if_neg (not_not.mpr (bxInvoiceFetchMissed_answersAll i.sync.missed s.db s.invoices hanswers))]
      exact nofun
    · refine ⟨fun id hid => ?_, ?_⟩
      · have hnone : requestedIds (chainStep s i).1.out.log = [] :=
          requestedIds_ofWalk (ofWalk_bxChainSync s i.sync hphase)
        rw [hnone] at hid
        exact nomatch hid
      · by_cases hpost : (bxChainSync s i.sync).state.cursors.memory.phase = .invoiceMissed
        · have hl := (phase_invoiceMissed s i.sync hpost).resolve_left hphase
          refine missedInv_list (bxChainSync_invoiceList hconn hl) hl (fun hoffset => hlist ?_) hpost
          show s.cursors.memory = _
          rw [← hl, ← hoffset]
        · exact missedInv_elsewhere hpost

/-- In a run whose calls all meet the condition, the missed phase requests only what the list did not show
    and what it did not load before. -/
theorem requestsMissed_of_condition (db : Database) (contacts projects invoices : Cache) (row : BXChainCursor)
    (inputs : List ChainStepInput)
    (hC : ∀ call ∈ outputs chainStep (bxChainInit db contacts projects invoices row) inputs, MissedCondition call) :
    RequestsMissed (outputs chainStep (bxChainInit db contacts projects invoices row) inputs) := by
  intro before call after heq
  have h0 : MissedInv [] (bxChainInit db contacts projects invoices row) := ⟨fun _ => by simp [listShown], fun _ => rfl⟩
  exact run_safe chainStep h0 missedInv_step hC heq

/-! ### Two runs

    Invoices 1 and 2 are cached from an earlier version, and the list shows invoice 1. -/

def invoiceOf (id : Nat) : BXObjectInvoice where
  id := some id
  checksum := 7
  contactId := none
  projectId := none
  positions := .array []

def missedStart : ChainState :=
  bxChainInit .empty cacheCreate cacheCreate (cacheNextVersion (cacheSetItem (cacheSetItem cacheCreate 1 7) 2 7))
    ⟨.invoiceList, 0⟩

def listOfOne : ChainStepInput :=
  .of { ChainInput.silent with
    invoices := [savedPage [{ invoice := invoiceOf 1, answers := .quiet }], savedPage []] }

/-- The request by id is answered with invoice 2. -/
def missedTwo : ChainStepInput :=
  .of { ChainInput.silent with
    missed := [{ reply := some { httpCode := 200, decoded := some (invoiceOf 2) }, answers := .quiet }] }

def afterListOfOne : ChainState := (chainStep missedStart listOfOne).2

/-- The first request by id has no answer. -/
def afterMissedFailed : ChainState := (chainStep afterListOfOne (.of .silent)).2

/-- The missed phase asks for invoice 2 and loads it. -/
theorem requestsMissed_loadedAtOnce :
    requestedIds (chainStep afterListOfOne missedTwo).1.out.log = [2] ∧
      loadedIds (chainStep afterListOfOne missedTwo).1.out.log = [2] ∧
      RequestsMissed (outputs chainStep missedStart [listOfOne, missedTwo]) :=
  ⟨by decide, by decide, requestsMissed_of_condition _ _ _ _ _ _ (by decide)⟩

/-- The request fails, the version is bumped, and the retry asks for invoice 1, which the list showed. -/
theorem requestsMissed_retried :
    ¬RequestsMissed (outputs chainStep missedStart [listOfOne, .of .silent, missedTwo]) := by
  intro h
  have hretry := h [(chainStep missedStart listOfOne).1, (chainStep afterListOfOne (.of .silent)).1]
    (chainStep afterMissedFailed missedTwo).1 [] rfl 1 (by decide)
  exact absurd hretry.1 (by decide)

end BxSync
