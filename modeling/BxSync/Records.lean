import BxSync.Loops
import BxSync.Paging
import BxSync.Upsert

/-! The lists whose rows are stored without a cache (`sync_more.c`, `bx_named_list.c`): each object of a page is hashed,
    and its row is written unless the table has one of its id with the checksum.

    The hash is a parameter, and so is how the server compares ids. Allocations succeed, and a row holds the values it
    was sent. -/

namespace BxSync

open Encoding

/-! ### One row -/

/-- How the statements of a table write a row. -/
structure RowStatements where
  /-- A row that cannot be stored is dropped with a warning. -/
  insertIgnore : Bool
  /-- A warning is an error. -/
  persistOk : Bool
deriving DecidableEq, Repr

namespace RowStatements

/-- INSERT, and no look at the warnings. -/
def plain : RowStatements := { insertIgnore := false, persistOk := false }

/-- INSERT IGNORE, and no look at the warnings. -/
def ignoring : RowStatements := { insertIgnore := true, persistOk := false }

/-- INSERT IGNORE with a look at them. -/
def checked : RowStatements := { insertIgnore := true, persistOk := true }

end RowStatements

section

variable {κ : Type} [DecidableEq κ]

/-- The SELECT of the checksum of a row, and the INSERT or the UPDATE when it is another one. The SELECT finds nothing for
    an id that is NULL, and the INSERT has its own key for it, if it takes it at all. -/
def storeRow (statements : RowStatements) (rows : UpsertRows κ) (key nullKey : Option (κ × UInt64)) (row : UpsertRow)
    (a : UpsertAnswers) : BXillError × UpsertRows κ × UpsertEnd :=
  if !a.selectPrepared then (.errorGeneric, rows, .unread)
  else
    match a.select with
    | .failed needReconnect => (bxDatabaseQueryError needReconnect, rows, .unread)
    | .answered =>
      let found := key.bind rows.lookup
      if found.map UpsertRow.checksum = some row.checksum then (.noError, rows, .skipped)
      else if !a.writePrepared then (.errorGeneric, rows, .sent)
      else
        let stmt := a.write.run rows fun fk cv =>
          match key.or nullKey with
          | none => (none, rows)
          | some k =>
            if found.isSome then Table.update rows (some k) row fk cv
            else if statements.insertIgnore then Table.insertIgnore rows k row fk cv
            else Table.insertRow rows k row fk cv
        match stmt.1 with
        | .failed needReconnect => (bxDatabaseQueryError needReconnect, stmt.2, .sent)
        | .done warned => (if statements.persistOk && warned then .errorGeneric else .noError, stmt.2, .sent)

end

/-! ### The tables -/

/-- A row that was to be stored, and what came of it. An id that is NULL has no key. -/
structure RecordCall (κ : Type) where
  table : String
  statements : RowStatements
  key : Option (κ × UInt64)
  row : UpsertRow
  error : BXillError
  ended : UpsertEnd

/-- The tables by their names, and the rows that were to be stored so far. -/
structure Records (κ : Type) where
  tables : String → UpsertRows κ
  calls : List (RecordCall κ)

section

variable {κ : Type} [DecidableEq κ]

/-- A table after a call, and the call. -/
def Records.add (s : Records κ) (call : RecordCall κ) (rows : UpsertRows κ) : Records κ where
  tables := Function.update s.tables call.table rows
  calls := s.calls ++ [call]

/-- `storeRow` on a table. -/
def Records.store (s : Records κ) (table : String) (statements : RowStatements) (key nullKey : Option (κ × UInt64))
    (row : UpsertRow) (a : UpsertAnswers) : BXillError × Records κ :=
  let r := storeRow statements (s.tables table) key nullKey row a
  (r.1, s.add { table, statements, key := key.or nullKey, row, error := r.1, ended := r.2.2 } r.2.1)

variable (lib : TextLib) (serverKey : BXSlot → κ) (xxh3 : List UInt8 → UInt64)

/-- The row of an object. -/
def upsertRow (t : UpsertTable) (parentId : UInt64) (obj : Json) : UpsertRow where
  values := (readSlots lib t.fields obj).tail
  checksum := xxh3 (checksumStream t.parentSql parentId (readSlots lib t.fields obj))

/-- Its key, if it has one. -/
def objectKey (t : UpsertTable) (parentId : UInt64) (obj : Json) : Option (κ × UInt64) :=
  if pkOk (readSlots lib t.fields obj) then some (upsertKey serverKey t parentId (readSlots lib t.fields obj)) else none

/-- `bx_json_upsert` on its table. -/
def Records.jsonUpsert (s : Records κ) (t : UpsertTable) (obj : Json) (parentId : UInt64) (a : UpsertAnswers) :
    BXillError × Records κ :=
  let r := bxJsonUpsert lib serverKey xxh3 t (s.tables t.table) obj parentId a
  (r.1, s.add
    { table := t.table, statements := .plain, key := objectKey lib serverKey t parentId obj,
      row := upsertRow lib xxh3 t parentId obj, error := r.1, ended := r.2.2 } r.2.1)

end

/-! ### The walk of a list -/

/-- A row of a page, what its statements meet, and the elements of the array under `entries`, if it has one. -/
structure RecordItem where
  object : Json
  answers : UpsertAnswers
  entries : Option (List (Json × UpsertAnswers)) := none

/-- How a path pages, by the placeholders in it. -/
def pagingOf (path : String) : Paging :=
  if path.toList.tails.any ("page=$".toList.isPrefixOf ·) then .page else if '$' ∈ path.toList then .offset else .single

example : [pagingOf "4.0/expenses?limit=$&page=$", pagingOf "2.0/note?limit=$&offset=$", pagingOf "2.0/company_profile"] =
    [.page, .offset, .single] := by
  decide +kernel

/-- A list: its path and what is done with a row. -/
structure RecordList (κ ρ : Type) where
  path : String
  sync : Records κ → ρ → BXillError × Records κ

section

variable {κ ρ : Type}

/-- There is no page callback, and the walk reads neither the name of the list nor the ids. -/
def RecordList.walker (l : RecordList κ ρ) : Walker (Records κ) Unit ρ where
  list := .contactActive
  rowId _ := none
  sync := l.sync
  onPage k _ _ := (.noError, k, none)

/-- `bx_walk_pages`. -/
def RecordList.walk (l : RecordList κ ρ) (connected : Bool) (replies : List (Option (PageReply ρ))) (s : Records κ) :
    BXillError × Records κ :=
  if connected then
    let walk := l.walker.walkStepsFrom (pagingOf l.path) replies 0 s ()
    (walk.error, walk.store)
  else (.errorGeneric, s)

/-- Walks one after the other, each with its replies. Only a lost connection ends them. -/
def walkLists (connected : Bool) :
    List (RecordList κ ρ) → List (List (Option (PageReply ρ))) → Records κ → BXillError × Records κ
  | [], _, s => (.noError, s)
  | l :: lists, replies, s =>
    let walked := l.walk connected (replies.headD []) s
    if keepGoing walked.1 ≠ .noError then (keepGoing walked.1, walked.2)
    else walkLists connected lists replies.tail walked.2

end

/-! ### Named lists -/

/-- The decoding of `named_list_item`. -/
def namedTable (table : String) : UpsertTable where
  table := table
  fields := [⟨"id", none, .uint⟩, ⟨"name", none, .str⟩]
  parentSql := none

/-- `table_ok`. -/
def tableOk (table : String) : Bool :=
  ["unit", "salutation", "title", "payment_type", "contact_group", "communication_kind", "pr_project_state", "pr_project_type",
    "timesheet_status", "todo_status", "todo_priority", "stock", "stock_place"].contains table

section

variable {κ : Type} [DecidableEq κ] (lib : TextLib) (serverKey : BXSlot → κ) (xxh3 : List UInt8 → UInt64)

/-- `named_list_item` and `upsert_named`. No look at the id is taken before the statements. -/
def namedListItem (table : String) (s : Records κ) (item : RecordItem) : BXillError × Records κ :=
  s.store table .plain (objectKey lib serverKey (namedTable table) 0 item.object) none
    (upsertRow lib xxh3 (namedTable table) 0 item.object) item.answers

/-- `bx_named_list_walk`, of a table that `table_ok` takes. -/
def namedList (path table : String) : RecordList κ RecordItem := { path, sync := namedListItem lib serverKey xxh3 table }

/-- `bx_unit_walk_items`. -/
def bxUnitWalkItems : RecordList κ RecordItem := namedList lib serverKey xxh3 "2.0/unit?limit=$&offset=$" "unit"

/-- `bx_salutation_walk_items`. -/
def bxSalutationWalkItems : RecordList κ RecordItem :=
  namedList lib serverKey xxh3 "2.0/salutation?limit=$&offset=$" "salutation"

/-- `bx_title_walk_items`. -/
def bxTitleWalkItems : RecordList κ RecordItem := namedList lib serverKey xxh3 "2.0/title?limit=$&offset=$" "title"

/-- `bx_payment_type_walk_items`. -/
def bxPaymentTypeWalkItems : RecordList κ RecordItem :=
  namedList lib serverKey xxh3 "2.0/payment_type?limit=$&offset=$" "payment_type"

/-- `bx_contact_group_walk_items`. -/
def bxContactGroupWalkItems : RecordList κ RecordItem :=
  namedList lib serverKey xxh3 "2.0/contact_group?limit=$&offset=$" "contact_group"

/-- `bx_communication_kind_walk_items`. -/
def bxCommunicationKindWalkItems : RecordList κ RecordItem :=
  namedList lib serverKey xxh3 "2.0/communication_kind?limit=$&offset=$" "communication_kind"

/-- `bx_project_state_walk_items`. -/
def bxProjectStateWalkItems : RecordList κ RecordItem :=
  namedList lib serverKey xxh3 "2.0/pr_project_state?limit=$&offset=$" "pr_project_state"

/-- `bx_project_type_walk_items`. -/
def bxProjectTypeWalkItems : RecordList κ RecordItem :=
  namedList lib serverKey xxh3 "2.0/pr_project_type?limit=$&offset=$" "pr_project_type"

/-- `bx_timesheet_status_walk_items`. -/
def bxTimesheetStatusWalkItems : RecordList κ RecordItem :=
  namedList lib serverKey xxh3 "2.0/timesheet_status?limit=$&offset=$" "timesheet_status"

/-- `bx_todo_status_walk_items`. -/
def bxTodoStatusWalkItems : RecordList κ RecordItem :=
  namedList lib serverKey xxh3 "2.0/todo_status?limit=$&offset=$" "todo_status"

/-- `bx_todo_priority_walk_items`. -/
def bxTodoPriorityWalkItems : RecordList κ RecordItem :=
  namedList lib serverKey xxh3 "2.0/todo_priority?limit=$&offset=$" "todo_priority"

/-- `bx_stock_walk_items`. -/
def bxStockWalkItems : RecordList κ RecordItem := namedList lib serverKey xxh3 "2.0/stock?limit=$&offset=$" "stock"

/-- `bx_stock_place_walk_items`. -/
def bxStockPlaceWalkItems : RecordList κ RecordItem :=
  namedList lib serverKey xxh3 "2.0/stock_place?limit=$&offset=$" "stock_place"

end

/-! ### The lists of `sync_more.c` -/

/-- `account_group_one`. -/
def accountGroupTable : UpsertTable where
  table := "account_group"
  fields :=
    [⟨"id", none, .uint⟩, ⟨"uuid", none, .uuid⟩, ⟨"account_no", none, .str⟩, ⟨"name", none, .str⟩,
     ⟨"parent_fibu_account_group_id", none, .uint⟩, ⟨"is_active", none, .bool⟩, ⟨"is_locked", none, .bool⟩]
  parentSql := none

/-- `client_service_one`. -/
def clientServiceTable : UpsertTable where
  table := "client_service"
  fields :=
    [⟨"id", none, .uint⟩, ⟨"name", none, .str⟩, ⟨"default_is_billable", none, .bool⟩,
     ⟨"default_price_per_hour", none, .float⟩, ⟨"account_id", none, .uint⟩]
  parentSql := none

/-- `bank_account_one`. -/
def bankAccountTable : UpsertTable where
  table := "bank_account"
  fields :=
    [⟨"id", none, .uint⟩, ⟨"name", none, .str⟩, ⟨"owner", none, .str⟩, ⟨"owner_address", none, .str⟩,
     ⟨"owner_zip", none, .str⟩, ⟨"owner_city", none, .str⟩, ⟨"owner_country_code", none, .str⟩, ⟨"bc_nr", none, .str⟩,
     ⟨"bank_name", none, .str⟩, ⟨"bank_nr", none, .str⟩, ⟨"bank_account_nr", none, .str⟩, ⟨"iban_nr", none, .str⟩,
     ⟨"currency_id", none, .uint⟩, ⟨"account_id", none, .uint⟩, ⟨"remarks", none, .str⟩, ⟨"invoice_mode", none, .str⟩,
     ⟨"qr_invoice_iban", none, .str⟩, ⟨"type", none, .str⟩]
  parentSql := none

/-- `company_one`. -/
def companyTable : UpsertTable where
  table := "company_profile"
  fields :=
    [⟨"id", none, .uint⟩, ⟨"name", none, .str⟩, ⟨"address", none, .str⟩, ⟨"address_nr", none, .str⟩,
     ⟨"postcode", none, .str⟩, ⟨"city", none, .str⟩, ⟨"country_id", none, .uint⟩, ⟨"legal_form", none, .str⟩,
     ⟨"country_name", none, .str⟩, ⟨"mail", none, .str⟩, ⟨"phone_fixed", none, .str⟩, ⟨"phone_mobile", none, .str⟩,
     ⟨"fax", none, .str⟩, ⟨"url", none, .str⟩, ⟨"ust_id_nr", none, .str⟩, ⟨"mwst_nr", none, .str⟩,
     ⟨"trade_register_nr", none, .str⟩]
  parentSql := none

/-- `calendar_one`. -/
def calendarTable : UpsertTable where
  table := "calendar_year"
  fields :=
    [⟨"id", none, .uint⟩, ⟨"start", none, .str⟩, ⟨"end", none, .str⟩, ⟨"is_vat_subject", none, .bool⟩,
     ⟨"is_annual_reporting", none, .bool⟩, ⟨"created_at", none, .str⟩, ⟨"updated_at", none, .str⟩,
     ⟨"vat_accounting_method", none, .str⟩, ⟨"vat_accounting_type", none, .str⟩]
  parentSql := none

/-- `business_year_one`. -/
def businessYearTable : UpsertTable where
  table := "business_year"
  fields :=
    [⟨"id", none, .uint⟩, ⟨"start", none, .str⟩, ⟨"end", none, .str⟩, ⟨"status", none, .str⟩,
     ⟨"closed_at", none, .str⟩]
  parentSql := none

/-- `vat_period_one`. -/
def vatPeriodTable : UpsertTable where
  table := "vat_period"
  fields :=
    [⟨"id", none, .uint⟩, ⟨"start", none, .str⟩, ⟨"end", none, .str⟩, ⟨"type", none, .str⟩, ⟨"status", none, .str⟩,
     ⟨"closed_at", none, .str⟩]
  parentSql := none

/-- `relation_one`. -/
def relationTable : UpsertTable where
  table := "contact_relation"
  fields :=
    [⟨"id", none, .uint⟩, ⟨"contact_id", none, .uint⟩, ⟨"contact_sub_id", none, .uint⟩, ⟨"description", none, .str⟩,
     ⟨"updated_at", none, .str⟩]
  parentSql := none

/-- `article_one`. -/
def articleTable : UpsertTable where
  table := "article"
  fields :=
    [⟨"id", none, .uint⟩, ⟨"user_id", none, .uint⟩, ⟨"article_type_id", none, .uint⟩, ⟨"contact_id", none, .uint⟩,
     ⟨"intern_code", none, .str⟩, ⟨"intern_name", none, .str⟩, ⟨"intern_description", none, .str⟩,
     ⟨"purchase_price", none, .float⟩, ⟨"sale_price", none, .float⟩, ⟨"currency_id", none, .uint⟩,
     ⟨"tax_id", none, .uint⟩, ⟨"unit_id", none, .uint⟩, ⟨"is_stock", none, .bool⟩, ⟨"stock_id", none, .uint⟩,
     ⟨"stock_place_id", none, .uint⟩, ⟨"stock_nr", none, .float⟩, ⟨"remarks", none, .str⟩,
     ⟨"article_group_id", none, .uint⟩, ⟨"account_id", none, .uint⟩]
  parentSql := none

/-- `note_one`. -/
def noteTable : UpsertTable where
  table := "note"
  fields :=
    [⟨"id", none, .uint⟩, ⟨"user_id", none, .uint⟩, ⟨"event_start", none, .str⟩, ⟨"subject", none, .str⟩,
     ⟨"info", none, .str⟩, ⟨"contact_id", none, .uint⟩, ⟨"project_id", none, .uint⟩, ⟨"entry_id", none, .uint⟩,
     ⟨"module_id", none, .uint⟩]
  parentSql := none

/-- `task_one`. -/
def taskTable : UpsertTable where
  table := "task"
  fields :=
    [⟨"id", none, .uint⟩, ⟨"user_id", none, .uint⟩, ⟨"finish_date", none, .str⟩, ⟨"subject", none, .str⟩,
     ⟨"info", none, .str⟩, ⟨"contact_id", none, .uint⟩, ⟨"sub_contact_id", none, .uint⟩, ⟨"project_id", none, .uint⟩,
     ⟨"todo_status_id", none, .uint⟩, ⟨"todo_priority_id", none, .uint⟩, ⟨"has_reminder", none, .bool⟩,
     ⟨"communication_kind_id", none, .uint⟩]
  parentSql := none

/-- `timesheet_one`. -/
def timesheetTable : UpsertTable where
  table := "timesheet"
  fields :=
    [⟨"id", none, .uint⟩, ⟨"user_id", none, .uint⟩, ⟨"status_id", none, .uint⟩, ⟨"client_service_id", none, .uint⟩,
     ⟨"text", none, .str⟩, ⟨"allowable_bill", none, .bool⟩, ⟨"contact_id", none, .uint⟩,
     ⟨"sub_contact_id", none, .uint⟩, ⟨"pr_project_id", none, .uint⟩, ⟨"pr_package_id", none, .uint⟩,
     ⟨"pr_milestone_id", none, .uint⟩, ⟨"estimated_time", none, .str⟩, ⟨"date", none, .str⟩, ⟨"duration", none, .str⟩,
     ⟨"running", none, .bool⟩]
  parentSql := none

/-- `purchase_order_one`. -/
def purchaseOrderTable : UpsertTable where
  table := "purchase_order"
  fields :=
    [⟨"id", none, .uint⟩, ⟨"document_nr", none, .str⟩, ⟨"title", none, .str⟩, ⟨"contact_id", none, .uint⟩,
     ⟨"contact_sub_id", none, .uint⟩, ⟨"user_id", none, .uint⟩, ⟨"project_id", none, .uint⟩,
     ⟨"language_id", none, .uint⟩, ⟨"bank_account_id", none, .uint⟩, ⟨"currency_id", none, .uint⟩,
     ⟨"payment_type_id", none, .uint⟩, ⟨"header", none, .str⟩, ⟨"footer", none, .str⟩, ⟨"template_slug", none, .str⟩]
  parentSql := none

/-- `bill_one`. -/
def billTable : UpsertTable where
  table := "purchase_bill"
  fields :=
    [⟨"id", none, .str⟩, ⟨"created_at", none, .str⟩, ⟨"document_no", none, .str⟩, ⟨"status", none, .str⟩,
     ⟨"vendor_ref", none, .str⟩, ⟨"vendor", none, .str⟩, ⟨"title", none, .str⟩, ⟨"currency_code", none, .str⟩,
     ⟨"pending_amount", none, .float⟩, ⟨"net", none, .float⟩, ⟨"gross", none, .float⟩, ⟨"bill_date", none, .str⟩,
     ⟨"due_date", none, .str⟩, ⟨"overdue", none, .bool⟩]
  parentSql := none

/-- `expense_one`. -/
def expenseTable : UpsertTable where
  table := "expense"
  fields :=
    [⟨"id", none, .str⟩, ⟨"created_at", none, .str⟩, ⟨"document_no", none, .str⟩, ⟨"status", none, .str⟩,
     ⟨"vendor", none, .str⟩, ⟨"title", none, .str⟩, ⟨"currency_code", none, .str⟩, ⟨"paid_on", none, .str⟩,
     ⟨"booking_account_id", none, .uint⟩, ⟨"net", none, .float⟩, ⟨"gross", none, .float⟩,
     ⟨"chargeable_contact_id", none, .uint⟩]
  parentSql := none

/-- The head of `manual_one`. -/
def manualEntryTable : UpsertTable where
  table := "manual_entry"
  fields :=
    [⟨"id", none, .uint⟩, ⟨"type", none, .str⟩, ⟨"date", none, .str⟩, ⟨"reference_nr", none, .str⟩,
     ⟨"created_by_user_id", none, .uint⟩, ⟨"edited_by_user_id", none, .uint⟩, ⟨"is_locked", none, .bool⟩,
     ⟨"locked_info", none, .str⟩]
  parentSql := none

/-- `json_integer_value`: 0 for what is no integer. -/
def jsonIntegerValue : Option Json → UInt64
  | some (.integer n) => n.toUInt64
  | _ => 0

section

variable {κ : Type} [DecidableEq κ] (lib : TextLib) (serverKey : BXSlot → κ) (xxh3 : List UInt8 → UInt64)

/-- `up`. -/
def up (t : UpsertTable) (s : Records κ) (item : RecordItem) : BXillError × Records κ :=
  s.jsonUpsert lib serverKey xxh3 t item.object 0 item.answers

/-- Objects that are stored under a parent, up to the first error that counts. -/
def upsertAll (t : UpsertTable) (parentId : UInt64) (counts : BXillError → Bool) :
    List (Json × UpsertAnswers) → Records κ → BXillError × Records κ
  | [], s => (.noError, s)
  | (obj, answers) :: rest, s =>
    let stored := s.jsonUpsert lib serverKey xxh3 t obj parentId answers
    if counts stored.1 then stored else upsertAll t parentId counts rest stored.2

/-- `manual_one`. The lines are stored under the id of a head that is an integer, and under 0 otherwise. -/
def manualOne (s : Records κ) (item : RecordItem) : BXillError × Records κ :=
  let head := up lib serverKey xxh3 manualEntryTable s item
  if head.1 ≠ .noError then head
  else
    match item.entries with
    | none => (.noError, head.2)
    | some lines =>
      upsertAll lib serverKey xxh3 manualEntryLineTable (jsonIntegerValue (item.object.get "id")) (· ≠ .noError) lines head.2

/-- `pages` with a function that is `up` for a table. -/
def upList (path : String) (t : UpsertTable) : RecordList κ RecordItem := { path, sync := up lib serverKey xxh3 t }

/-- The lists of `bx_lookups_walk_more`. -/
def lookupLists : List (RecordList κ RecordItem) :=
  [upList lib serverKey xxh3 "2.0/country?limit=$&offset=$" countryTable,
    upList lib serverKey xxh3 "2.0/account_groups?limit=$&offset=$" accountGroupTable,
    bxCommunicationKindWalkItems lib serverKey xxh3, bxProjectStateWalkItems lib serverKey xxh3,
    bxProjectTypeWalkItems lib serverKey xxh3, bxTimesheetStatusWalkItems lib serverKey xxh3,
    bxTodoStatusWalkItems lib serverKey xxh3, bxTodoPriorityWalkItems lib serverKey xxh3,
    bxStockWalkItems lib serverKey xxh3, bxStockPlaceWalkItems lib serverKey xxh3,
    upList lib serverKey xxh3 "2.0/client_service?limit=$&offset=$" clientServiceTable,
    upList lib serverKey xxh3 "3.0/banking/accounts?limit=$&offset=$" bankAccountTable,
    upList lib serverKey xxh3 "2.0/company_profile" companyTable,
    upList lib serverKey xxh3 "3.0/accounting/calendar_years?limit=$&offset=$" calendarTable,
    upList lib serverKey xxh3 "3.0/accounting/business_years" businessYearTable,
    upList lib serverKey xxh3 "3.0/accounting/vat_periods" vatPeriodTable]

/-- The lists of `bx_records_walk_more`. -/
def recordLists : List (RecordList κ RecordItem) :=
  [upList lib serverKey xxh3 "2.0/contact_relation?limit=$&offset=$" relationTable,
    upList lib serverKey xxh3 "2.0/article?limit=$&offset=$" articleTable,
    upList lib serverKey xxh3 "2.0/note?limit=$&offset=$" noteTable,
    upList lib serverKey xxh3 "2.0/task?limit=$&offset=$" taskTable,
    upList lib serverKey xxh3 "2.0/timesheet?limit=$&offset=$" timesheetTable,
    upList lib serverKey xxh3 "3.0/purchase_orders?limit=$&offset=$" purchaseOrderTable,
    upList lib serverKey xxh3 "4.0/purchase/bills?limit=$&page=$" billTable,
    upList lib serverKey xxh3 "4.0/expenses?limit=$&page=$" expenseTable,
    { path := "3.0/accounting/manual_entries?limit=$&offset=$", sync := manualOne lib serverKey xxh3 }]

/-- `bx_lookups_walk_more`, with the replies to each of its lists. -/
def bxLookupsWalkMore (connected : Bool) (replies : List (List (Option (PageReply RecordItem)))) (s : Records κ) :
    BXillError × Records κ :=
  walkLists connected (lookupLists lib serverKey xxh3) replies s

/-- `bx_records_walk_more`. -/
def bxRecordsWalkMore (connected : Bool) (replies : List (List (Option (PageReply RecordItem)))) (s : Records κ) :
    BXillError × Records κ :=
  walkLists connected (recordLists lib serverKey xxh3) replies s

end

end BxSync
