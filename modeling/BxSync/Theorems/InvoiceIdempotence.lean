import BxSync.InvoiceDecode
import BxSync.Theorems.CacheTable
import BxSync.Theorems.Checksum
import BxSync.Theorems.Hydration

/-! Whether an invoice that is stored is left alone when the list shows it again. The cache is asked about the
    list object, and set for the detail object. -/

namespace BxSync

open Machine

/-! ### The property -/

/-- No GET by id and nothing written. -/
def SendsNothing (sent : List InvoiceSent) : Prop :=
  (∀ id, .getById id ∉ sent) ∧ .writeRow ∉ sent ∧ .writeParts ∉ sent

/-- What happens between two syncs of a list object leaves the invoice as it was stored: no other object of it is
    synced, no prune deletes it, and a restart finds its row. -/
def LeavesInvoice (listed stored : BXObjectInvoice) (call : MirrorCall) : Prop :=
  match call.input with
  | .invoice item => item.invoice = listed ∨ item.invoice = stored ∨
      (item.invoice.id.getD 0 ≠ stored.id.getD 0 ∧ (invoiceObject item).id.getD 0 ≠ stored.id.getD 0)
  | .prune .invoice prepared drift deletes =>
      .deleted (stored.id.getD 0) ∉
        (bxPruneItems Resource.invoice.delete prepared drift deletes call.pre.db (call.pre.cache .invoice)).2.2.2
  | .restart => (call.pre.db.invoice.lookup (stored.id.getD 0)).map InvoiceRow.checksum = some stored.checksum
  | _ => True

/-- After its sync, and whatever happens to others then, the list object is processed again without a GET by id
    and without a write. -/
def Idempotent (m : Mirror) (item : InvoiceItem) : Prop :=
  ∀ later, (∀ call ∈ outputs mirrorStep (m.next (.invoice item)) later, LeavesInvoice item.invoice (invoiceObject item) call) →
    ∀ answers,
      let again := final mirrorStep (m.next (.invoice item)) later
      SendsNothing (invoiceSent again.db (again.cache .invoice) { invoice := item.invoice, answers })

/-- The list object has positions, so that it is the one that is stored, or the detail is hashed alike. -/
def IdempotenceCondition (lib : TextLib) (xxh3 : List UInt8 → UInt64) (listed detail : InvoiceJson) : Prop :=
  listed.object.get "positions" ≠ none ∨ xxh3 (invoiceBytes lib listed.object) = xxh3 (invoiceBytes lib detail.object)

/-! ### What the cache has of an id -/

namespace Cache

/-- The id is live and has the checksum. -/
structure Carries (c : Cache) (id checksum : Nat) : Prop where
  live : c.Live id
  checksum : (c.entry id).map CacheItem.checksum = some checksum

theorem cacheCheckItem_ok (c : Cache) (id checksum : Nat) :
    (cacheCheckItem c id checksum).1 = .cacheOk ↔ c.Carries id checksum := by
  rw [cacheCheckItem_state]
  constructor
  · intro hok
    cases hentry : c.entry id with
    | none => simp [hentry] at hok
    | some item =>
      simp only [hentry] at hok
      split_ifs at hok with hz hne
      exact ⟨⟨item, hentry, Nat.pos_of_ne_zero hz⟩, by rw [hentry, ← not_not.mp hne]; rfl⟩
  · rintro ⟨⟨item, hentry, hpos⟩, hchecksum⟩
    rw [hentry] at hchecksum ⊢
    simp [Nat.pos_iff_ne_zero.mp hpos, Option.some.inj hchecksum]

variable {c : Cache} {k checksum : Nat}

theorem carries_cacheSetItem (c : Cache) (id checksum : Nat) : (cacheSetItem c id checksum).Carries id checksum :=
  ⟨live_cacheSetItem c id checksum, by rw [entry_cacheSetItem, if_pos rfl]; rfl⟩

theorem Carries.check (h : c.Carries k checksum) (id checksum' : Nat) :
    (cacheCheckItem c id checksum').2.Carries k checksum := by
  refine ⟨h.live.check id checksum', ?_⟩
  rw [← h.checksum, entry_cacheCheckItem]
  split
  · subst_vars
    rw [Option.map_map]
    congr 1
    funext item
    simp only [Function.comp]
    split <;> rfl
  · rfl

theorem Carries.set (h : c.Carries k checksum) {id : Nat} (hne : k ≠ id) (checksum' : Nat) :
    (cacheSetItem c id checksum').Carries k checksum :=
  ⟨h.live.set id checksum', by rw [entry_cacheSetItem, if_neg hne, h.checksum]⟩

theorem Carries.next (h : c.Carries k checksum) : (cacheNextVersion c).Carries k checksum := by
  refine ⟨h.live.next, ?_⟩
  rw [← h.checksum]
  by_cases hwrap : c.version + 1 = uint64Max
  · rw [cacheNextVersion_wrap c hwrap, entry_cacheResetVersion, Option.map_map]
    rfl
  · rw [entry_cacheNextVersion c hwrap]

theorem Carries.tombstone (h : c.Carries k checksum) {id : Nat} (hne : k ≠ id) : (cacheTombstone c id).Carries k checksum :=
  ⟨h.live.tombstone hne, by rw [entry_cacheTombstone, if_neg hne, h.checksum]⟩

theorem Carries.prune (h : c.Carries k checksum) : (cachePrune c).Carries k checksum := by
  obtain ⟨item, hentry, hpos⟩ := h.live
  refine ⟨h.live.prune, ?_⟩
  rw [← h.checksum, entry_cachePrune, hentry]
  simp [Nat.pos_iff_ne_zero.mp hpos]

theorem Carries.pruneLoop (delete : Delete) (drift : Nat) (execs : List Exec) (iter : CacheIter) (db : Database)
    (h : c.Carries k checksum) (hkept : .deleted k ∉ (pruneLoop delete drift execs iter db c).2.2.2) :
    (pruneLoop delete drift execs iter db c).2.2.1.Carries k checksum := by
  revert h hkept
  fun_induction BxSync.pruneLoop delete drift execs iter db c
  case case1 => exact fun h _ => h.prune
  case case2 | case3 => exact fun h _ => h
  case case4 id _ _ _ _ _ _ _ others ih =>
    intro h hkept
    have hne : k ≠ id := fun heq => hkept (heq ▸ List.mem_cons_self)
    exact ih (h.tombstone hne) fun hmem => hkept (List.mem_cons_of_mem _ hmem)

theorem carries_bxCacheHydrate {rows : List (Nat × Nat)} (hrows : (rows.map Prod.fst).Nodup)
    (hrow : rows.lookup k = some checksum) : (bxCacheHydrate rows cacheCreate).Carries k checksum := by
  have hentry : (bxCacheHydrate rows cacheCreate).entry k = some ⟨k, checksum, cacheCreate.version⟩ := by
    rw [entry_bxCacheHydrate hrows, hrow]
    rfl
  exact ⟨⟨_, hentry, cacheCreate.version_pos⟩, by rw [hentry]; rfl⟩

end Cache

/-! ### One step -/

section

variable {listed stored : BXObjectInvoice}

/-- The sync of an object the cache carries only stamps it. -/
theorem carries_sync {db : Database} {c : Cache} {item : InvoiceItem}
    (h : c.Carries (item.invoice.id.getD 0) item.invoice.checksum) :
    (bxInvoiceSyncItem db c item).2.2.Carries (item.invoice.id.getD 0) item.invoice.checksum := by
  unfold bxInvoiceSyncItem
  dsimp only
  rw [if_pos ((c.cacheCheckItem_ok _ _).mpr h)]
  exact h.check _ _

theorem carries_sync_other {db : Database} {c : Cache} {item : InvoiceItem} {id checksum : Nat} (h : c.Carries id checksum)
    (hne : (invoiceObject item).id.getD 0 ≠ id) : (bxInvoiceSyncItem db c item).2.2.Carries id checksum := by
  have htouched := invoicePageItem_touched (db, c) item
  unfold invoicePageItem at htouched
  dsimp only at htouched
  generalize (bxInvoiceSyncItem db c item).2.2 = c' at htouched ⊢
  cases htouched with
  | checked checksum' => exact h.check _ _
  | stored checksum' checksum'' => exact (h.check _ _).set hne.symm _

/-- A list object that is hashed like the stored one is skipped from then on. -/
theorem carries_next {m : Mirror} (input : MirrorInput) (hid : listed.id.getD 0 = stored.id.getD 0)
    (hchecksum : listed.checksum = stored.checksum) (h : (m.cache .invoice).Carries (stored.id.getD 0) stored.checksum)
    (hleaves : LeavesInvoice listed stored ⟨m, input⟩) :
    ((m.next input).cache .invoice).Carries (stored.id.getD 0) stored.checksum := by
  refine m.next_invoice (P := fun c => c.Carries (stored.id.getD 0) stored.checksum) input h ?_ ?_ h.next ?_
  · rintro item rfl
    rcases hleaves with hlisted | hstored | ⟨-, hobject⟩
    · rw [← hid, ← hchecksum, ← hlisted] at h ⊢
      exact carries_sync h
    · rw [← hstored] at h ⊢
      exact carries_sync h
    · exact carries_sync_other h hobject
  · rintro prepared drift deletes rfl
    unfold LeavesInvoice bxPruneItems at hleaves
    unfold bxPruneItems
    dsimp only at hleaves
    split
    · rename_i hprepared
      rw [if_pos hprepared] at hleaves
      exact h.pruneLoop _ _ _ _ _ hleaves
    · exact h
  · rintro rfl
    refine Cache.carries_bxCacheHydrate (nodup_map_entries m.db.invoice InvoiceRow.checksum) ?_
    exact (lookup_map_entries m.db.invoice InvoiceRow.checksum _).trans hleaves

end

/-! ### What is sent -/

theorem sendsNothing_of_carries {db : Database} {c : Cache} {item : InvoiceItem}
    (h : c.Carries (item.invoice.id.getD 0) item.invoice.checksum) : SendsNothing (invoiceSent db c item) := by
  unfold invoiceSent
  dsimp only
  rw [if_pos ((c.cacheCheckItem_ok _ _).mpr h)]
  simp [SendsNothing]

theorem getById_of_not_carries {db : Database} {c : Cache} {item : InvoiceItem} (hpositions : item.invoice.positions = .absent)
    (h : ¬c.Carries (item.invoice.id.getD 0) item.invoice.checksum) :
    .getById (item.invoice.id.getD 0) ∈ invoiceSent db c item := by
  unfold invoiceSent
  dsimp only
  rw [if_neg ((c.cacheCheckItem_ok _ _).not.mpr h), if_pos hpositions]
  simp

/-! ### The fields -/

section

variable {lib : TextLib} {object object' : Json}

/-- Objects whose fields have one shape put the same bytes into the hash only if every field reads the same. -/
theorem invoiceBytes_eq_iff (h : List.Forall₂ BXSlot.SameShape (invoiceSlots lib object) (invoiceSlots lib object')) :
    invoiceBytes lib object = invoiceBytes lib object' ↔ invoiceSlots lib object = invoiceSlots lib object' := by
  constructor
  · exact Encoding.eq_of_flatMap_eq BXSlot.mixed (fun _ _ => BXSlot.SameShape.length_mixed)
      (fun _ _ => BXSlot.SameShape.eq_of_mixed) h
  · exact fun heq => congrArg (List.flatMap BXSlot.mixed) heq

theorem idempotenceCondition_of_slots {listed detail : InvoiceJson}
    (h : invoiceSlots lib listed.object = invoiceSlots lib detail.object) (xxh3 : List UInt8 → UInt64) :
    IdempotenceCondition lib xxh3 listed detail :=
  Or.inr (congrArg (fun slots => xxh3 (slots.flatMap BXSlot.mixed)) h)

end

/-! ### Runs -/

section

variable (lib : TextLib) (xxh3 : List UInt8 → UInt64) (listed detail : InvoiceJson)

/-- The object that is stored, when the GET by id is answered with the detail. -/
theorem invoiceObject_decoded (a : InvoiceAnswers) (httpCode : Nat)
    (hdetail : a.detail = some { httpCode, decoded := some (bxObjectInvoiceDecode lib xxh3 detail) }) :
    invoiceObject { invoice := bxObjectInvoiceDecode lib xxh3 listed, answers := a } =
      if listed.object.get "positions" = none then bxObjectInvoiceDecode lib xxh3 detail
      else bxObjectInvoiceDecode lib xxh3 listed := by
  unfold invoiceObject
  have hpositions : (bxObjectInvoiceDecode lib xxh3 listed).positions = listed.positions := rfl
  dsimp only
  rw [hpositions, hdetail]
  unfold InvoiceJson.positions
  cases listed.object.get "positions" with
  | none => rfl
  | some value =>
    rw [if_neg (Option.some_ne_none value)]
    cases value <;> rfl

/-- A list object and a detail object of one invoice, whose sync stored them: from then on the list object is
    processed without a GET by id and without a write if and only if the condition holds. -/
theorem invoice_idempotent_iff (m : Mirror) (a : InvoiceAnswers) (httpCode : Nat)
    (hdetail : a.detail = some { httpCode, decoded := some (bxObjectInvoiceDecode lib xxh3 detail) })
    (hid : bxObjectGetJsonUint listed.object "id" = bxObjectGetJsonUint detail.object "id")
    (hstored : storesInvoice m.db (m.cache .invoice) { invoice := bxObjectInvoiceDecode lib xxh3 listed, answers := a } = true) :
    Idempotent m { invoice := bxObjectInvoiceDecode lib xxh3 listed, answers := a } ↔
      IdempotenceCondition lib xxh3 listed detail := by
  have hobject := invoiceObject_decoded lib xxh3 listed detail a httpCode hdetail
  set item : InvoiceItem := { invoice := bxObjectInvoiceDecode lib xxh3 listed, answers := a }
  have hcarries : ((m.next (.invoice item)).cache .invoice).Carries ((invoiceObject item).id.getD 0) (invoiceObject item).checksum := by
    unfold Mirror.next
    rw [Mirror.put_cache, cache_of_storesInvoice hstored]
    exact Cache.carries_cacheSetItem _ _ _
  have hsame : item.invoice.id.getD 0 = (invoiceObject item).id.getD 0 := by
    rw [hobject]
    split
    · exact congrArg (fun id => (id.map UInt64.toNat).getD 0) hid
    · rfl
  constructor
  · intro h
    by_contra hno
    obtain ⟨habsent, hhash⟩ := not_or.mp hno
    rw [not_not] at habsent
    -- No later step is needed: the next sync already sends the GET again.
    have hsent := (h [] (by simp [outputs]) a).1 (item.invoice.id.getD 0)
    refine hsent (getById_of_not_carries ?_ fun hagain => hhash ?_)
    · show listed.positions = .absent
      unfold InvoiceJson.positions
      rw [habsent]
    · change ((m.next (.invoice item)).cache .invoice).Carries _ _ at hagain
      rw [hsame] at hagain
      have hchecksum := Option.some.inj (hagain.checksum.symm.trans hcarries.checksum)
      rw [hobject, if_pos habsent] at hchecksum
      exact UInt64.toNat_inj.mp hchecksum
  · intro hC later hlater answers
    have hchecksum : item.invoice.checksum = (invoiceObject item).checksum := by
      rw [hobject]
      split
      · rename_i habsent
        exact congrArg UInt64.toNat (hC.resolve_left (not_not.mpr habsent))
      · rfl
    have hend := final_inv mirrorStep
      (I := fun m => (m.cache .invoice).Carries ((invoiceObject item).id.getD 0) (invoiceObject item).checksum)
      (fun m input h hcall => carries_next input hsame hchecksum h hcall) later _ hcarries hlater
    rw [← hsame, ← hchecksum] at hend
    exact sendsNothing_of_carries hend

end

/-! ### Two details

    The list shows invoice 5 with its id and total. The detail has its positions too, and gives the total as the
    list does or as an integer. -/

def listedJson : InvoiceJson := { object := .object [("id", .integer 5), ("total", .real 0x4059000000000000)], elements := [] }

def detailJson (total : Json) : InvoiceJson :=
  { object := .object [("id", .integer 5), ("total", total), ("positions", .array)], elements := [] }

/-- The list object, its detail, and statements that succeed. -/
def detailedItem (total : Json) : InvoiceItem where
  invoice := bxObjectInvoiceDecode plainText smallHash listedJson
  answers :=
    { InvoiceAnswers.quiet with
      detail := some { httpCode := 200, decoded := some (bxObjectInvoiceDecode plainText smallHash (detailJson total)) } }

/-- A detail that reads like the list object. -/
theorem invoice_idempotent_sameTotal : Idempotent (hydrateCaches .empty) (detailedItem (.real 0x4059000000000000)) :=
  (invoice_idempotent_iff plainText smallHash listedJson (detailJson (.real 0x4059000000000000)) (hydrateCaches .empty) _ 200 rfl
    rfl (by decide)).mpr (idempotenceCondition_of_slots rfl smallHash)

/-- The total of 100 as an integer reads as 0. The invoice is stored, and asked for again the next time. -/
theorem invoice_rewritten :
    storesInvoice Database.empty cacheCreate (detailedItem (.integer 100)) = true ∧
      ¬Idempotent (hydrateCaches .empty) (detailedItem (.integer 100)) := by
  refine ⟨by decide, fun h => ?_⟩
  exact (h [] (by simp [outputs]) (detailedItem (.integer 100)).answers).1 5 (by decide)

end BxSync
