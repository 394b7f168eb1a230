import BxSync.Comment
import BxSync.Records

/-! What belongs to a document, a contact or a project (`sync_more.c`, `position.c`): quotes, orders and deliveries with
    their positions and their comments, and the lists that are fetched for one contact, one invoice or one project.

    A comment is found by its id and the id of its document, so a table has one row for the two. -/

namespace BxSync

open Encoding

/-! ### Positions -/

/-- What `persist_one_position` reads, in its order, with the columns. -/
def positionTable (table : String) : UpsertTable where
  table := table
  fields :=
    [⟨"id", none, .uint⟩, ⟨"amount", none, .float⟩, ⟨"account_id", none, .uint⟩, ⟨"unit_id", none, .uint⟩,
      ⟨"tax_id", none, .uint⟩, ⟨"tax_value", none, .float⟩, ⟨"text", some "description", .str⟩, ⟨"unit_price", none, .float⟩,
      ⟨"discount_in_percent", some "discount", .float⟩, ⟨"pos", some "position", .uint⟩,
      ⟨"internal_pos", some "internal_position", .uint⟩, ⟨"type", none, .str⟩, ⟨"parent_id", none, .uint⟩]
  parentSql := none

/-- `unset_if_zero`. -/
def unsetIfZero : BXSlot → BXSlot
  | .uint (some 0) => .uint none
  | slot => slot

/-- The columns whose zeros are unset before they are bound. -/
def zeroUnset (key : String) : Bool := ["unit_id", "account_id", "tax_id", "parent_id"].contains key

/-- The value under `positions` of an object, with what the statements of each position meet. -/
inductive PositionArray
  | absent
  | notArray
  | array (positions : List (Json × UpsertAnswers))

section

variable {κ : Type} [DecidableEq κ] (lib : TextLib) (serverKey : BXSlot → κ) (xxh3 : List UInt8 → UInt64)

/-- The checksum is of the values that were read, zeros included, and not of the document. -/
def positionRow (table : String) (obj : Json) : UpsertRow where
  values := ((positionTable table).fields.map fun f =>
    if zeroUnset f.key then unsetIfZero (readSlot lib obj f.key f.kind) else readSlot lib obj f.key f.kind).tail
  checksum := xxh3 ((readSlots lib (positionTable table).fields obj).flatMap BXSlot.mixed)

def positionKey (docId : UInt64) (obj : Json) : Option (κ × UInt64) :=
  (bxObjectGetJsonUint obj "id").map fun id => (serverKey (.uint (some id)), docId)

/-- `persist_one_position`. -/
def persistPosition (table : String) (docId : UInt64) (s : Records κ) (position : Json × UpsertAnswers) :
    BXillError × Records κ :=
  s.store table .plain (positionKey serverKey docId position.1) none (positionRow lib xxh3 table position.1) position.2

/-- The loop of `bx_kb_positions_store`, up to the first error. -/
def storePositionRows (table : String) (docId : UInt64) :
    List (Json × UpsertAnswers) → Records κ → BXillError × Records κ
  | [], s => (.noError, s)
  | position :: rest, s =>
    let stored := persistPosition lib serverKey xxh3 table docId s position
    if stored.1 ≠ .noError then stored else storePositionRows table docId rest stored.2

/-- `bx_kb_positions_store`, for a table that `pos_table_ok` takes. -/
def bxKbPositionsStore (table : String) (docId : UInt64) (positions : PositionArray) (s : Records κ) :
    BXillError × Records κ :=
  match positions with
  | .absent => (.noError, s)
  | .notArray => (.noError, s)
  | .array positions => storePositionRows lib serverKey xxh3 table docId positions s

end

/-! ### Documents -/

/-- `kb_doc_object`. -/
def kbDocObject (root : Json) : Option Json :=
  match root with
  | .object fields =>
    match fields.lookup "data" with
    | some (.object data) => some (.object data)
    | _ => some root
  | _ => none

/-- `kb_doc_has_id`. -/
def kbDocHasId (obj : Json) : Bool :=
  match obj.get "id" with
  | some (.integer _) => true
  | some (.string _) => true
  | _ => false

/-- A document as it is received, and what is under `positions` of the object that `kb_doc_object` makes of it. -/
structure KbDocument where
  root : Json
  positions : PositionArray

/-- A document of a list, and what its sync meets: the status and the body of the GET by id, and the array of the GET of
    its comments, if they are answered. -/
structure KbItem where
  document : KbDocument
  answers : UpsertAnswers
  full : Option (Nat × KbDocument)
  comments : Option (List (Json × UpsertAnswers))

/-- The document that is stored: the full one when the list has no positions and the GET by id answers with a document. -/
def KbItem.source (item : KbItem) (src : Json) : Json × PositionArray :=
  match item.document.positions with
  | .absent =>
    match item.full with
    | some (httpCode, full) =>
      match kbDocObject full.root with
      | some decoded => if httpCode = 200 ∧ kbDocHasId decoded then (decoded, full.positions) else (src, .absent)
      | none => (src, .absent)
    | none => (src, .absent)
  | positions => (src, positions)

section

variable {κ : Type} [DecidableEq κ] (lib : TextLib) (serverKey : BXSlot → κ) (xxh3 : List UInt8 → UInt64)

/-- The loop over the comments. The error is the one of the last comment, or the one before the loop. -/
def storeComments (documentType : DocumentType) (documentId : UInt64) :
    List (Json × UpsertAnswers) → BXillError → Records κ → BXillError × Records κ
  | [], e, s => (e, s)
  | (row, answers) :: rest, _, s =>
    let stored := s.jsonUpsert lib serverKey xxh3 commentTable (row.set "_document_type" (.string documentType.text)) documentId
      answers
    if stored.1 = .errorSQLReconnect then stored else storeComments documentType documentId rest stored.1 stored.2

/-- `kb_doc_one`. A document without an id is skipped. The positions and the comments are stored under an id that is an
    integer, and under 0 otherwise. -/
def kbDocOne (t : UpsertTable) (positionTable : Option String) (documentType : DocumentType) (s : Records κ) (item : KbItem) :
    BXillError × Records κ :=
  match kbDocObject item.document.root with
  | none => (.noError, s)
  | some src =>
    if !kbDocHasId src then (.noError, s)
    else
      let source := item.source src
      let id := jsonIntegerValue (source.1.get "id")
      let head := s.jsonUpsert lib serverKey xxh3 t source.1 0 item.answers
      if head.1 ≠ .noError then head
      else
        let positioned :=
          match positionTable with
          | none => head
          | some table => bxKbPositionsStore lib serverKey xxh3 table id source.2 head.2
        if positioned.1 ≠ .noError then positioned
        else storeComments lib serverKey xxh3 documentType id (item.comments.getD []) .noError positioned.2

end

/-- `kb_quote_fields`. -/
def kbQuoteTable : UpsertTable where
  table := "kb_quote"
  fields :=
    [⟨"id", none, .uint⟩, ⟨"document_nr", none, .str⟩, ⟨"title", none, .str⟩, ⟨"contact_id", none, .uint⟩,
      ⟨"contact_sub_id", none, .uint⟩, ⟨"user_id", none, .uint⟩, ⟨"project_id", none, .uint⟩, ⟨"language_id", none, .uint⟩,
      ⟨"bank_account_id", none, .uint⟩, ⟨"currency_id", none, .uint⟩, ⟨"payment_type_id", none, .uint⟩,
      ⟨"header", none, .str⟩, ⟨"footer", none, .str⟩, ⟨"total_gross", none, .float⟩, ⟨"total_net", none, .float⟩,
      ⟨"total_taxes", none, .float⟩, ⟨"total", none, .float⟩, ⟨"total_rounding_difference", none, .float⟩,
      ⟨"mwst_type", none, .int⟩, ⟨"mwst_is_net", none, .uint⟩, ⟨"show_position_taxes", none, .uint⟩,
      ⟨"is_valid_from", none, .str⟩, ⟨"is_valid_until", none, .str⟩, ⟨"contact_address", none, .str⟩,
      ⟨"kb_item_status_id", none, .int⟩, ⟨"updated_at", none, .str⟩, ⟨"template_slug", none, .str⟩]
  parentSql := none

/-- `kb_order_fields`. -/
def kbOrderTable : UpsertTable where
  table := "kb_order"
  fields :=
    [⟨"id", none, .uint⟩, ⟨"document_nr", none, .str⟩, ⟨"title", none, .str⟩, ⟨"contact_id", none, .uint⟩,
      ⟨"contact_sub_id", none, .uint⟩, ⟨"user_id", none, .uint⟩, ⟨"project_id", none, .uint⟩, ⟨"language_id", none, .uint⟩,
      ⟨"bank_account_id", none, .uint⟩, ⟨"currency_id", none, .uint⟩, ⟨"payment_type_id", none, .uint⟩,
      ⟨"header", none, .str⟩, ⟨"footer", none, .str⟩, ⟨"total_gross", none, .float⟩, ⟨"total_net", none, .float⟩,
      ⟨"total_taxes", none, .float⟩, ⟨"total", none, .float⟩, ⟨"total_rounding_difference", none, .float⟩,
      ⟨"mwst_type", none, .int⟩, ⟨"mwst_is_net", none, .uint⟩, ⟨"is_valid_from", none, .str⟩, ⟨"contact_address", none, .str⟩,
      ⟨"kb_item_status_id", none, .int⟩, ⟨"updated_at", none, .str⟩]
  parentSql := none

/-- `kb_delivery_fields`. -/
def kbDeliveryTable : UpsertTable where
  table := "kb_delivery"
  fields :=
    [⟨"id", none, .uint⟩, ⟨"document_nr", none, .str⟩, ⟨"title", none, .str⟩, ⟨"contact_id", none, .uint⟩,
      ⟨"user_id", none, .uint⟩, ⟨"project_id", none, .uint⟩, ⟨"language_id", none, .uint⟩, ⟨"kb_item_status_id", none, .int⟩,
      ⟨"is_valid_from", none, .str⟩, ⟨"contact_address", none, .str⟩, ⟨"updated_at", none, .str⟩]
  parentSql := none

section

variable {κ : Type} [DecidableEq κ] (lib : TextLib) (serverKey : BXSlot → κ) (xxh3 : List UInt8 → UInt64)

/-- `quote_one`. -/
def quoteOne : Records κ → KbItem → BXillError × Records κ :=
  kbDocOne lib serverKey xxh3 kbQuoteTable (some "quote_position") .kbOffer

/-- `order_one`. -/
def orderOne : Records κ → KbItem → BXillError × Records κ :=
  kbDocOne lib serverKey xxh3 kbOrderTable (some "order_position") .kbOrder

/-- `delivery_one`. -/
def deliveryOne : Records κ → KbItem → BXillError × Records κ := kbDocOne lib serverKey xxh3 kbDeliveryTable none .kbDelivery

/-- The lists of `bx_kb_sales_walk_items`. -/
def kbSalesLists : List (RecordList κ KbItem) :=
  [{ path := "2.0/kb_offer?limit=$&offset=$", sync := quoteOne lib serverKey xxh3 },
    { path := "2.0/kb_order?limit=$&offset=$", sync := orderOne lib serverKey xxh3 },
    { path := "2.0/kb_delivery?limit=$&offset=$", sync := deliveryOne lib serverKey xxh3 }]

/-- `bx_kb_sales_walk_items`. -/
def bxKbSalesWalkItems (connected : Bool) (replies : List (List (Option (PageReply KbItem)))) (s : Records κ) :
    BXillError × Records κ :=
  walkLists connected (kbSalesLists lib serverKey xxh3) replies s

end

/-! ### The extras of a contact, an invoice and a project -/

/-- The fields of `bx_contact_extra_sync`. -/
def additionalAddressTable : UpsertTable where
  table := "additional_address"
  fields :=
    [⟨"id", none, .uint⟩, ⟨"name", none, .str⟩, ⟨"name_addition", none, .str⟩, ⟨"address", none, .str⟩,
      ⟨"street_name", none, .str⟩, ⟨"house_number", none, .str⟩, ⟨"address_addition", none, .str⟩, ⟨"postcode", none, .str⟩,
      ⟨"city", none, .str⟩, ⟨"country_id", none, .uint⟩, ⟨"subject", none, .str⟩, ⟨"description", none, .str⟩]
  parentSql := some "_contact_id"

/-- The payments of `bx_invoice_extra_sync`. -/
def invoicePaymentTable : UpsertTable where
  table := "invoice_payment"
  fields :=
    [⟨"id", none, .uint⟩, ⟨"date", none, .str⟩, ⟨"value", none, .float⟩, ⟨"bank_account_id", none, .uint⟩,
      ⟨"title", none, .str⟩, ⟨"is_cash_discount", none, .bool⟩, ⟨"kb_invoice_id", none, .uint⟩]
  parentSql := some "_invoice_id"

/-- Its reminders. -/
def invoiceReminderTable : UpsertTable where
  table := "invoice_reminder"
  fields :=
    [⟨"id", none, .uint⟩, ⟨"kb_invoice_id", none, .uint⟩, ⟨"title", none, .str⟩, ⟨"is_valid_from", none, .str⟩,
      ⟨"is_valid_to", none, .str⟩, ⟨"reminder_level", none, .int⟩, ⟨"is_sent", none, .bool⟩,
      ⟨"remaining_price", none, .float⟩]
  parentSql := some "_invoice_id"

/-- The milestones of `bx_project_extra_sync`. -/
def projectMilestoneTable : UpsertTable where
  table := "project_milestone"
  fields :=
    [⟨"id", none, .uint⟩, ⟨"name", none, .str⟩, ⟨"end_date", none, .str⟩, ⟨"comment", none, .str⟩,
      ⟨"pr_parent_milestone_id", none, .uint⟩]
  parentSql := some "_project_id"

/-- Its packages. -/
def projectPackageTable : UpsertTable where
  table := "project_package"
  fields :=
    [⟨"id", none, .uint⟩, ⟨"name", none, .str⟩, ⟨"spent_time_in_hours", none, .float⟩,
      ⟨"estimated_time_in_hours", none, .float⟩, ⟨"comment", none, .str⟩, ⟨"pr_milestone_id", none, .uint⟩]
  parentSql := some "_project_id"

section

variable {κ : Type} [DecidableEq κ] (lib : TextLib) (serverKey : BXSlot → κ) (xxh3 : List UInt8 → UInt64)

/-- `bx_contact_extra_sync`, with the array of the answer, if there is an answer and it has one. -/
def bxContactExtraSync (contactId : UInt64) (reply : Option (Option (List (Json × UpsertAnswers)))) (s : Records κ) :
    BXillError × Records κ :=
  match reply with
  | none => (.errorNet, s)
  | some none => (.noError, s)
  | some (some addresses) => upsertAll lib serverKey xxh3 additionalAddressTable contactId (· ≠ .noError) addresses s

/-- Only a lost connection ends the extras of an invoice or a project. -/
def upsertExtras (t : UpsertTable) (parentId : UInt64) (objects : Option (List (Json × UpsertAnswers))) (s : Records κ) :
    BXillError × Records κ :=
  upsertAll lib serverKey xxh3 t parentId (· = .errorSQLReconnect) (objects.getD []) s

/-- `bx_invoice_extra_sync`, with the arrays of its three answers. -/
def bxInvoiceExtraSync (invoiceId : UInt64) (payments reminders comments : Option (List (Json × UpsertAnswers)))
    (s : Records κ) : BXillError × Records κ :=
  let paid := upsertExtras lib serverKey xxh3 invoicePaymentTable invoiceId payments s
  if paid.1 ≠ .noError then paid
  else
    let reminded := upsertExtras lib serverKey xxh3 invoiceReminderTable invoiceId reminders paid.2
    if reminded.1 ≠ .noError then reminded
    else
      upsertExtras lib serverKey xxh3 commentTable invoiceId
        (comments.map fun rows => rows.map fun row => (row.1.set "_document_type" (.string DocumentType.kbInvoice.text), row.2))
        reminded.2

/-- `bx_project_extra_sync`, with the arrays of its two answers. -/
def bxProjectExtraSync (projectId : UInt64) (milestones packages : Option (List (Json × UpsertAnswers))) (s : Records κ) :
    BXillError × Records κ :=
  let first := upsertExtras lib serverKey xxh3 projectMilestoneTable projectId milestones s
  if first.1 ≠ .noError then first else upsertExtras lib serverKey xxh3 projectPackageTable projectId packages first.2

end

end BxSync
