import BxSync.Invoice
import BxSync.Json

/-! An invoice as it comes in (`bx_object_invoice_decode`), and what `_bx_invoice_sync_item` sends out for it.

    The hash is a parameter. `Json` keeps no elements of an array, so an invoice carries its positions as they
    are decoded. -/

namespace BxSync

/-- The JSON object of an invoice, and the elements of the array under `positions`, if it has one. -/
structure InvoiceJson where
  object : Json
  elements : List BXPosition

/-! ### Decoding -/

/-- The keys of an invoice, by the reader they go through and in the order they are read. -/
def invoiceIntegers : List String :=
  ["id", "user_id", "contact_id", "contact_sub_id", "project_id", "bank_account_id", "currency_id", "payment_type_id",
    "kb_item_status_id", "esr_id", "qr_invoice_id", "language_id", "mwst_type", "show_position_taxes", "mwst_is_net"]

def invoiceDoubles : List String :=
  ["total_gross", "total_net", "total_taxes", "total_received_payments", "total_credit_vouchers",
    "total_remaining_payments", "total", "total_rounding_difference"]

def invoiceStrings : List String :=
  ["document_nr", "is_valid_from", "is_valid_to", "contact_address", "template_slug", "updated_at", "reference",
    "api_reference", "viewed_by_client_at", "header", "footer", "title", "network_link"]

section

variable (lib : TextLib)

/-- What is read of the object. -/
def invoiceSlots (object : Json) : List BXSlot :=
  (invoiceIntegers.map fun key => readSlot lib object key .uint) ++
    (invoiceDoubles.map fun key => readSlot lib object key .float) ++
    (invoiceStrings.map fun key => readSlot lib object key .str)

/-- The bytes the hash is fed with. -/
def invoiceBytes (object : Json) : List UInt8 := (invoiceSlots lib object).flatMap BXSlot.mixed

/-- `json_object_get` of `positions`. A null is a value. -/
def InvoiceJson.positions (invoice : InvoiceJson) : Positions :=
  match invoice.object.get "positions" with
  | none => .absent
  | some .array => .array invoice.elements
  | some _ => .notArray

variable (xxh3 : List UInt8 → UInt64)

/-- `bx_object_invoice_decode`, and the positions of the object. -/
def bxObjectInvoiceDecode (invoice : InvoiceJson) : BXObjectInvoice where
  id := (bxObjectGetJsonUint invoice.object "id").map UInt64.toNat
  checksum := (xxh3 (invoiceBytes lib invoice.object)).toNat
  contactId := (bxObjectGetJsonUint invoice.object "contact_id").map UInt64.toNat
  projectId := (bxObjectGetJsonUint invoice.object "project_id").map UInt64.toNat
  positions := invoice.positions

end

/-! ### What a sync sends out -/

inductive InvoiceSent
  | getById (id : Nat)
  | selectContact
  | selectProject
  /-- The INSERT or the UPDATE of the row. -/
  | writeRow
  /-- The positions and the extras, which follow the row. -/
  | writeParts
deriving DecidableEq, Repr

/-- The SELECTs of `invoiceParentsPresent`. -/
def parentSelects (db : Database) (invoice : BXObjectInvoice) (a : InvoiceAnswers) : List InvoiceSent :=
  let contactId := invoice.contactId.getD 0
  let contact := if contactId = 0 then (.noError, true) else bxContactIsInDatabase db contactId a.contact
  (if contactId = 0 then [] else [.selectContact]) ++
    (if contact = (.noError, true) ∧ invoice.projectId.getD 0 ≠ 0 then [.selectProject] else [])

/-- What `_bx_invoice_sync_item` sends out, in its order. -/
def invoiceSent (db : Database) (c : Cache) (item : InvoiceItem) : List InvoiceSent :=
  let checked := (cacheCheckItem c (item.invoice.id.getD 0) item.invoice.checksum).1
  if checked = .cacheOk then []
  else
    let got := if item.invoice.positions = .absent then [.getById (item.invoice.id.getD 0)] else []
    let invoice := invoiceObject item
    let written :=
      if invoiceParentsPresent db invoice item.answers ≠ (.noError, true) then []
      else if bxDatabasePersistOk (persistInvoice checked db invoice item.answers).1 then [.writeRow, .writeParts]
      else [.writeRow]
    got ++ parentSelects db invoice item.answers ++ written

/-- The sync sets the cache: the row is written without a warning and the positions are stored. -/
def storesInvoice (db : Database) (c : Cache) (item : InvoiceItem) : Bool :=
  let checked := (cacheCheckItem c (item.invoice.id.getD 0) item.invoice.checksum).1
  let invoice := invoiceObject item
  let persisted := persistInvoice checked db invoice item.answers
  checked ≠ .cacheOk && invoiceParentsPresent db invoice item.answers = (.noError, true) && bxDatabasePersistOk persisted.1 &&
    (bxInvoicePositionsStore persisted.2 (invoice.id.getD 0) invoice.positions item.answers.positions).1 = .noError

section

variable {db : Database} {c : Cache} {item : InvoiceItem}

/-- Without a statement for the row the tables stay as they are. -/
theorem bxInvoiceSyncItem_unwritten (h : .writeRow ∉ invoiceSent db c item) : (bxInvoiceSyncItem db c item).2.1 = db := by
  unfold bxInvoiceSyncItem
  dsimp only
  split
  · rfl
  split
  · rfl
  split
  · rfl
  rename_i hstate herror hpresent
  have hparents : invoiceParentsPresent db (invoiceObject item) item.answers = (.noError, true) :=
    Prod.ext (not_not.mp herror) (by simpa using hpresent)
  refine absurd ?_ h
  unfold invoiceSent
  dsimp only
  rw [if_neg hstate, if_neg (not_not.mpr hparents)]
  refine List.mem_append_right _ ?_
  split <;> simp

/-- The answer to a GET that is not sent makes no difference. -/
theorem bxInvoiceSyncItem_ungot (h : ∀ id, .getById id ∉ invoiceSent db c item) (detail : Option InvoiceReply) :
    bxInvoiceSyncItem db c { item with answers := { item.answers with detail } } = bxInvoiceSyncItem db c item := by
  by_cases hok : (cacheCheckItem c (item.invoice.id.getD 0) item.invoice.checksum).1 = .cacheOk
  · unfold bxInvoiceSyncItem
    dsimp only
    rw [if_pos hok, if_pos hok]
  · have hpositions : item.invoice.positions ≠ .absent := by
      intro habsent
      refine h (item.invoice.id.getD 0) ?_
      unfold invoiceSent
      dsimp only
      rw [if_neg hok, if_pos habsent]
      simp
    have hobject : ∀ a, invoiceObject { item with answers := a } = item.invoice := by
      intro a
      unfold invoiceObject
      cases hp : item.invoice.positions with
      | absent => exact absurd hp hpositions
      | notArray => rfl
      | array positions => rfl
    have hself : invoiceObject item = item.invoice := hobject item.answers
    unfold bxInvoiceSyncItem
    rw [hobject, hself]
    rfl

/-- A sync that stores its invoice sets the cache for the object it has stored. -/
theorem cache_of_storesInvoice (h : storesInvoice db c item = true) :
    (bxInvoiceSyncItem db c item).2.2 =
      cacheSetItem (cacheCheckItem c (item.invoice.id.getD 0) item.invoice.checksum).2 ((invoiceObject item).id.getD 0)
        (invoiceObject item).checksum := by
  unfold storesInvoice at h
  simp only [Bool.and_eq_true, decide_eq_true_eq] at h
  obtain ⟨⟨⟨hstate, hparents⟩, hpersist⟩, hpositions⟩ := h
  unfold bxInvoiceSyncItem
  dsimp only
  rw [if_neg hstate, hparents]
  cases hstmt : persistInvoice (cacheCheckItem c (item.invoice.id.getD 0) item.invoice.checksum).1 db (invoiceObject item)
      item.answers with
  | mk stmt db' =>
    rw [hstmt] at hpersist hpositions
    cases stmt with
    | failed needReconnect => exact nomatch hpersist
    | done warned =>
      cases warned with
      | true => exact nomatch hpersist
      | false =>
        unfold storeInvoiceParts
        simp [hpositions, bxDatabasePersistOk]

end

end BxSync
