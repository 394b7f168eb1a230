import BxSync.ContactGroups
import BxSync.Documents
import BxSync.File
import BxSync.InvoiceDecode
import BxSync.Lib.Relations
import BxSync.UpsertSql

/-! Contacts, projects, invoices, positions and files as rows with all their columns: the statements that store and delete
    them, with their texts and what is bound to each name (`bxobjects`, `main.c`), and the keys and the references of their
    tables (`database.sql`).

    A query that is not made, or whose text is no statement, has no outcome. A row holds the values it was sent. The texts
    that are printed fit their buffers. -/

namespace BxSync

open Sql (Name bytes)

/-! ### The tables -/

/-- Keys and references are integers. NULL equals nothing. -/
def sameInteger (a b : SqlValue) : Bool := a ≠ .null && a = b

/-- A project must have a contact. -/
def projectContact : Sql.Reference SqlValue where
  table := bytes "pr_project"
  column := bytes "contact_id"
  parent := bytes "contact"
  target := bytes "id"
  cascades := false
  nullAs := some (.integer 0)

def invoiceContact : Sql.Reference SqlValue where
  table := bytes "invoice"
  column := bytes "contact_id"
  parent := bytes "contact"
  target := bytes "id"
  cascades := false
  nullAs := none

def invoiceProject : Sql.Reference SqlValue where
  table := bytes "invoice"
  column := bytes "project_id"
  parent := bytes "pr_project"
  target := bytes "id"
  cascades := true
  nullAs := none

def positionInvoice : Sql.Reference SqlValue where
  table := bytes "invoice_position"
  column := bytes "_invoice_id"
  parent := bytes "invoice"
  target := bytes "id"
  cascades := true
  nullAs := none

/-- `database.sql`, as far as the references of these tables to one another. -/
def syncSchema : Sql.Schema SqlValue where
  key table :=
    if table = bytes "invoice_position" then [bytes "id", bytes "_invoice_id"]
    else if table = bytes "cg2c" then [bytes "contact_group", bytes "contact"]
    else [bytes "id"]
  references := [projectContact, invoiceContact, invoiceProject, positionInvoice]
  keyless := .integer 0

/-! ### Queries -/

/-- A text of several literals. -/
def sqlText (literals : List String) : List UInt8 := literals.flatMap asciiBytes

/-- The calls that bind a value by its name. A name without a parameter is passed over. -/
def bindNamed (q : BXDatabaseQuery) (bindings : List (Name × BoundValue)) : BXDatabaseQuery :=
  bindings.foldl (fun q b => addParam q (58 :: b.1) b.2) q

/-- `bind_params`: the first name without a parameter ends it. -/
def bindParams : List (Name × BoundValue) → BXDatabaseQuery → Option BXDatabaseQuery
  | [], q => some q
  | b :: bindings, q => if (findParam q (58 :: b.1)).isNone then none else bindParams bindings (addParam q (58 :: b.1) b.2)

/-- What the server makes of the text and the values, when every parameter has one. -/
def BXDatabaseQuery.write (q : BXDatabaseQuery) : Option (Sql.Write SqlValue) :=
  if q.parameters.all fun p => p.value.isSome then
    (Sql.readWrite (cString q.query)).bind fun places => places.fill (q.parameters.filterMap fun p => p.value.map BoundValue.sent)
  else none

/-- Prepares, binds and executes. -/
def sendNamed (tables : SqlTables) (text : List UInt8) (bindings : List (Name × BoundValue)) (exec : Exec) :
    Option (Stmt × SqlTables) := do
  let q ← (← bxDatabaseNewQuery text)
  let w ← (bindNamed q bindings).write
  return exec.run tables fun fk cv => syncSchema.run sameInteger .null tables fk cv w

/-- The same, where a name without a parameter is an error. -/
def sendParams (tables : SqlTables) (text : List UInt8) (bindings : List (Name × BoundValue)) (exec : Exec) :
    Option (Stmt × SqlTables) := do
  let q ← (← bxDatabaseNewQuery text)
  match bindParams bindings q with
  | none => return (.failed false, tables)
  | some q =>
    let w ← q.write
    return exec.run tables fun fk cv => syncSchema.run sameInteger .null tables fk cv w

/-- A SELECT of one column. -/
def selectColumn (tables : SqlTables) (text : List UInt8) (bindings : List (Name × BoundValue)) : Option (List SqlValue) := do
  let q ← (← bxDatabaseNewQuery text)
  let s ← (bindNamed q bindings).statement
  let r ← s.run sameInteger .null tables
  return r.1

section

variable (lib : TextLib) (xxh3 : List UInt8 → UInt64)

/-- The calls that bind the fields of an object, some of them unset when they are 0. -/
def boundFields (zeros : List String) (fields : List BXJsonField) (obj : Json) : List (Name × BoundValue) :=
  fields.map fun f =>
    (fname f, (if f.key ∈ zeros then unsetIfZero (readSlot lib obj f.key f.kind) else readSlot lib obj f.key f.kind).bound)

def boundUint64 (name : String) (value : UInt64) : Name × BoundValue := (asciiBytes name, .longlong value true)

/-- The hash of the fields of an object, in the order they are read. -/
def fieldsChecksum (fields : List BXJsonField) (obj : Json) : UInt64 := xxh3 ((readSlots lib fields obj).flatMap BXSlot.mixed)

/-! ### Countries -/

/-- `s_Country`, with the two bytes of its code. -/
structure Country where
  bxId : Int32
  code : List UInt8

/-- `bx_country_code_load`, of the elements of the array. -/
def bxCountryCodeLoad (countries : List Json) : List Country :=
  countries.map fun country => {
    bxId := ((bxObjectGetJsonInt country "id").getD 0).toInt32
    code := ((bxObjectGetJsonString lib country "iso_3166_alpha2").getD (asciiBytes "??") ++ [0]).take 2 }

/-- `bx_country_list_get_code`: an id of -1 ends the list. -/
def bxCountryListGetCode (countries : List Country) (id : Int32) : Option (List UInt8) :=
  ((countries.takeWhile fun c => c.bxId ≠ -1).find? fun c => c.bxId = id).map Country.code

/-! ### Contacts -/

def contactQueryUpdate : List UInt8 := sqlText
  ["UPDATE contact SET contact_type_id    = :contact_type_id, salutation_id      = :salutation_id, ",
    "country            = :country, user_id            = :user_id, owner_id           = :owner_id, ",
    "title_id           = :title_id,salutation_form    = :salutation_form, postcode           = :postcode, ",
    "nr                 = :nr,name_1             = :name_1, name_2             = :name_2, ",
    "birthday           = :birthday, address            = :address, city               = :city, ",
    "mail               = :mail, mail_second        = :mail_second,phone_fixed        = :phone_fixed, ",
    "phone_fixed_second = :phone_fixed_second,phone_mobile       = :phone_mobile, fax                = :fax, ",
    "url                = :url, skype_name         = :skype_name, remarks            = :remarks, ",
    "updated_at         = :updated_at, profile_image      = :profile_image, language_id        = :language_id, ",
    "_checksum          = :_checksum, _last_updated      = :_last_updated, _archived          = :_archived ",
    "WHERE id = :id;"]

def contactQueryInsert : List UInt8 := sqlText
  ["INSERT IGNORE INTO contact (id, contact_type_id, salutation_id, country,user_id, owner_id, title_id, ",
    "salutation_form, postcode, nr, name_1, name_2, birthday, address, city, mail, mail_second, phone_fixed, ",
    "phone_fixed_second,phone_mobile, fax, url, skype_name, remarks, updated_at, profile_image, language_id, ",
    "_checksum, _last_updated, _archived) VALUES (:id, :contact_type_id, :salutation_id, :country, :user_id, ",
    ":owner_id,:title_id, :salutation_form, :postcode, :nr, :name_1, :name_2, :birthday, :address,:city, :mail, ",
    ":mail_second, :phone_fixed, :phone_fixed_second, :phone_mobile,:fax, :url, :skype_name, :remarks, :updated_at, ",
    ":profile_image, :language_id, :_checksum, :_last_updated, :_archived );"]

/-- What `bx_object_contact_decode` reads, in its order. -/
def contactFields : List BXJsonField :=
  ["id", "user_id", "contact_type_id", "salutation_id", "country_id", "owner_id", "title_id", "salutation_form",
    "language_id"].map (⟨·, none, .uint⟩) ++
    ["postcode", "nr", "name_1", "name_2", "address", "birthday", "updated_at", "city", "mail", "mail_second",
      "phone_fixed", "phone_fixed_second", "phone_mobile", "fax", "url", "skype_name", "remarks", "contact_group_ids",
      "contact_branch_ids", "profile_image"].map (⟨·, none, .str⟩)

/-- What is bound of it, in the order of the calls. -/
def contactBound : List BXJsonField :=
  ["id", "contact_type_id", "salutation_id", "user_id", "owner_id", "title_id", "salutation_form", "language_id"].map
      (⟨·, none, .uint⟩) ++
    ["postcode", "nr", "name_1", "name_2", "birthday", "address", "city", "mail", "mail_second", "phone_fixed_second",
      "phone_fixed", "phone_mobile", "fax", "url", "skype_name", "remarks", "updated_at", "profile_image"].map
      (⟨·, none, .str⟩)

/-- `bx_object_contact_decode`, as far as the sync reads it. -/
def bxObjectContactDecode (behind : List UInt8) (obj : Json) : BXObjectContact where
  id := (bxObjectGetJsonUint obj "id").map UInt64.toNat
  checksum := (fieldsChecksum lib xxh3 contactFields obj).toNat
  userId := (bxObjectGetJsonUint obj "user_id").map UInt64.toNat
  ownerId := (bxObjectGetJsonUint obj "owner_id").map UInt64.toNat
  contactGroupIds :=
    (bxIntStringArrayToIntArray behind (bxObjectGetJsonString lib obj "contact_group_ids")).map fun n => n.toUInt64.toNat

def contactBindings (archived : Bool) (countries : List Country) (obj : Json) (now : UInt64) : List (Name × BoundValue) :=
  boundFields lib [] contactBound obj ++
    [(asciiBytes "_archived", .tiny archived), boundUint64 "_checksum" (fieldsChecksum lib xxh3 contactFields obj),
      boundUint64 "_last_updated" now,
      (asciiBytes "country",
        (bxCountryListGetCode countries ((bxObjectGetJsonUint obj "country_id").getD 0).toUInt32.toInt32).elim .null .string)]

/-- The INSERT IGNORE or the UPDATE of `_bx_contact_sync_item`. -/
def persistContactSql (archived : Bool) (state : CacheState) (countries : List Country) (tables : SqlTables) (obj : Json)
    (now : UInt64) (exec : Exec) : Option (Stmt × SqlTables) :=
  sendNamed tables (if state = .cacheNotSet then contactQueryInsert else contactQueryUpdate)
    (contactBindings lib xxh3 archived countries obj now) exec

/-! ### The groups of a contact -/

def cg2cDelete : List UInt8 := sqlText ["DELETE FROM cg2c WHERE contact = :cid"]

def cg2cInsert : List UInt8 := sqlText ["INSERT IGNORE INTO cg2c (contact_group, contact) ", "VALUES (:gid, :cid)"]

/-- The loop of `bx_contact_group_link` over the group ids. -/
def linkGroupsSql (contactId : UInt64) : List UInt64 → List Exec → SqlTables → Option (BXillError × SqlTables)
  | [], _, tables => some (.noError, tables)
  | gid :: gids, execs, tables =>
    if gid = 0 then linkGroupsSql contactId gids execs tables
    else
      match execs with
      | [] => some (.errorGeneric, tables)
      | exec :: execs =>
        match sendNamed tables cg2cInsert [boundUint64 "gid" gid, boundUint64 "cid" contactId] exec with
        | none => none
        | some (.failed needReconnect, tables) => some (bxDatabaseQueryError needReconnect, tables)
        | some (.done _, tables) => linkGroupsSql contactId gids execs tables

/-- `bx_contact_group_link`. -/
def bxContactGroupLinkSql (contactId : UInt64) (gids : List UInt64) (a : ContactAnswers) (tables : SqlTables) :
    Option (BXillError × SqlTables) :=
  match sendNamed tables cg2cDelete [boundUint64 "cid" contactId] a.unlinkGroups with
  | none => none
  | some (.failed needReconnect, tables) => some (bxDatabaseQueryError needReconnect, tables)
  | some (.done _, tables) => linkGroupsSql contactId gids a.linkGroups tables

/-! ### Projects -/

def projectQueryUpdate : List UInt8 := sqlText
  ["UPDATE pr_project SET uuid = :uuid, nr = :nr, name = :name,",
    "start_date = :start_date, end_date = :end_date, comment = :comment,",
    "pr_state_id = :pr_state_id, pr_project_type_id = :pr_project_type_id,",
    "contact_id = :contact_id, contact_sub_id = :contact_sub_id,",
    "pr_invoice_type_id = :pr_invoice_type_id, pr_invoice_type_amount = :pr_invoice_type_amount, ",
    "pr_budget_type_id = :pr_budget_type_id, pr_budget_type_amount = :pr_budget_type_amount, ",
    "_checksum = :_checksum, _last_updated = :_last_updated WHERE id = :id;"]

def projectQueryInsert : List UInt8 := sqlText
  ["INSERT IGNORE INTO pr_project (id, uuid, nr, name, start_date,",
    "end_date, comment, pr_state_id, pr_project_type_id, contact_id,",
    "contact_sub_id, pr_invoice_type_id, pr_invoice_type_amount, pr_budget_type_id,",
    "pr_budget_type_amount, _checksum, _last_updated) VALUES (:id, :uuid, :nr, :name, :start_date,",
    ":end_date, :comment, :pr_state_id, :pr_project_type_id, :contact_id,",
    ":contact_sub_id, :pr_invoice_type_id, :pr_invoice_type_amount, :pr_budget_type_id,",
    ":pr_budget_type_amount, :_checksum, :_last_updated);"]

/-- What `decode_object` of a project reads, in its order. -/
def projectFields : List BXJsonField :=
  ["id", "pr_state_id", "pr_project_type_id", "contact_id", "contact_sub_id", "pr_invoice_type_id", "pr_budget_type_id"].map
      (⟨·, none, .uint⟩) ++
    [⟨"uuid", none, .uuid⟩] ++ ["nr", "name", "start_date", "end_date", "comment"].map (⟨·, none, .str⟩) ++
    ["pr_invoice_type_amount", "pr_budget_type_amount"].map (⟨·, none, .float⟩)

/-- What `bind_params` binds of it. -/
def projectBound : List BXJsonField :=
  [⟨"id", none, .uint⟩, ⟨"uuid", none, .uuid⟩, ⟨"nr", none, .str⟩, ⟨"name", none, .str⟩, ⟨"start_date", none, .str⟩,
    ⟨"end_date", none, .str⟩, ⟨"comment", none, .str⟩, ⟨"pr_state_id", none, .uint⟩, ⟨"pr_project_type_id", none, .uint⟩,
    ⟨"contact_id", none, .uint⟩, ⟨"contact_sub_id", none, .uint⟩, ⟨"pr_invoice_type_id", none, .uint⟩,
    ⟨"pr_invoice_type_amount", none, .float⟩, ⟨"pr_budget_type_id", none, .uint⟩, ⟨"pr_budget_type_amount", none, .float⟩]

/-- `decode_object` of a project, as far as the sync reads it. -/
def decodeProject (obj : Json) : BXObjectProject where
  id := (bxObjectGetJsonUint obj "id").map UInt64.toNat
  checksum := (fieldsChecksum lib xxh3 projectFields obj).toNat
  contactId := (bxObjectGetJsonUint obj "contact_id").map UInt64.toNat

def projectBindings (obj : Json) (now : UInt64) : List (Name × BoundValue) :=
  boundFields lib [] projectBound obj ++
    [boundUint64 "_checksum" (fieldsChecksum lib xxh3 projectFields obj), boundUint64 "_last_updated" now]

/-- `execute_request` with the INSERT IGNORE or the UPDATE of a project. -/
def executeRequestSql (state : CacheState) (tables : SqlTables) (obj : Json) (now : UInt64) (exec : Exec) :
    Option (BXillError × SqlTables) :=
  match sendParams tables (if state = .cacheNotSet then projectQueryInsert else projectQueryUpdate)
      (projectBindings lib xxh3 obj now) exec with
  | none => none
  | some (.failed needReconnect, tables) => some (bxDatabaseQueryError needReconnect, tables)
  | some (.done warned, tables) => some (if !bxDatabasePersistOk (.done warned) then .errorSQLInsert else .noError, tables)

/-! ### Invoices -/

def invoiceQueryInsert : List UInt8 := sqlText
  ["INSERT IGNORE INTO invoice (id, document_nr, title, contact_id, contact_sub_id, ",
    "user_id, project_id, language_id, bank_account_id, currency_id, ",
    "payment_type_id, header, footer, mwst_type, mwst_is_net, ",
    "show_position_taxes, is_valid_from, is_valid_to, contact_address, ",
    "kb_item_status_id, reference, api_reference, viewed_by_client_at, ",
    "updated_at, esr_id, qr_invoice_id, template_slug, network_link, ",
    "_checksum, _last_updated, total_gross, total_net, total_taxes, ",
    "total_received_payments, total_credit_vouchers, total_remaining_payments, total, total_rounding_difference) ",
    "VALUES (:id, :document_nr, :title, :contact_id, :contact_sub_id, :user_id, :project_id, :language_id, ",
    ":bank_account_id, :currency_id, :payment_type_id, :header, :footer, ",
    ":mwst_type, :mwst_is_net, :show_position_taxes, :is_valid_from, ",
    ":is_valid_to, :contact_address, :kb_item_status_id, :reference, ",
    ":api_reference, :viewed_by_client_at, :updated_at, :esr_id, ",
    ":qr_invoice_id, :template_slug, :network_link, :_checksum, ",
    ":_last_updated, :total_gross, :total_net, :total_taxes, :total_received_payments, :total_credit_vouchers, ",
    ":total_remaining_payments, :total, :total_rounding_difference );"]

def invoiceQueryUpdate : List UInt8 := sqlText
  ["UPDATE invoice SET document_nr = :document_nr, title = :title, ",
    "contact_id = :contact_id, contact_sub_id = :contact_sub_id, ",
    "user_id = :user_id, project_id = :project_id, language_id = :language_id, ",
    "bank_account_id = :bank_account_id, currency_id = :currency_id, ",
    "payment_type_id = :payment_type_id, header = :header, footer = :footer, ",
    "mwst_type = :mwst_type, mwst_is_net = :mwst_is_net, show_position_taxes = :show_position_taxes, is_valid_from = ",
    ":is_valid_from,is_valid_to = :is_valid_to, contact_address = :contact_address, ",
    "kb_item_status_id = :kb_item_status_id, reference = :reference, ",
    "api_reference = :api_reference, viewed_by_client_at = :viewed_by_client_at,",
    "updated_at = :updated_at, esr_id = :esr_id, qr_invoice_id = :qr_invoice_id,",
    "template_slug = :template_slug, network_link = :network_link, ",
    "_checksum = :_checksum, _last_updated = :_last_updated, total_gross = ",
    ":total_gross, total_net = :total_net, total_taxes = :total_taxes, ",
    "total_received_payments = :total_received_payments, total_credit_vouchers ",
    "= :total_credit_vouchers, total_remaining_payments = ",
    ":total_remaining_payments, total = :total, total_rounding_difference = :total_rounding_difference ",
    "WHERE id = :id;"]

/-- What is bound of an invoice, in the order of the calls. -/
def invoiceBound : List BXJsonField :=
  [⟨"id", none, .uint⟩, ⟨"document_nr", none, .str⟩, ⟨"title", none, .str⟩, ⟨"contact_id", none, .uint⟩,
    ⟨"contact_sub_id", none, .uint⟩, ⟨"user_id", none, .uint⟩, ⟨"project_id", none, .uint⟩, ⟨"language_id", none, .uint⟩,
    ⟨"bank_account_id", none, .uint⟩, ⟨"currency_id", none, .uint⟩, ⟨"payment_type_id", none, .uint⟩, ⟨"header", none, .str⟩,
    ⟨"footer", none, .str⟩, ⟨"mwst_type", none, .uint⟩, ⟨"mwst_is_net", none, .uint⟩, ⟨"show_position_taxes", none, .uint⟩,
    ⟨"is_valid_from", none, .str⟩, ⟨"is_valid_to", none, .str⟩, ⟨"contact_address", none, .str⟩,
    ⟨"kb_item_status_id", none, .uint⟩, ⟨"reference", none, .str⟩, ⟨"api_reference", none, .str⟩,
    ⟨"viewed_by_client_at", none, .str⟩, ⟨"updated_at", none, .str⟩, ⟨"esr_id", none, .uint⟩, ⟨"qr_invoice_id", none, .uint⟩,
    ⟨"template_slug", none, .str⟩, ⟨"network_link", none, .str⟩] ++
    ["total_gross", "total_net", "total_taxes", "total_received_payments", "total_credit_vouchers", "total_remaining_payments",
      "total", "total_rounding_difference"].map (⟨·, none, .float⟩)

/-- A project of 0 is unset. -/
def invoiceBindings (obj : Json) (now : UInt64) : List (Name × BoundValue) :=
  boundFields lib ["project_id"] invoiceBound obj ++
    [boundUint64 "_checksum" (xxh3 (invoiceBytes lib obj)), boundUint64 "_last_updated" now]

/-- The INSERT IGNORE or the UPDATE of `_bx_invoice_sync_item`. -/
def persistInvoiceSql (state : CacheState) (tables : SqlTables) (obj : Json) (now : UInt64) (exec : Exec) :
    Option (Stmt × SqlTables) :=
  sendNamed tables (if state = .cacheNotSet then invoiceQueryInsert else invoiceQueryUpdate) (invoiceBindings lib xxh3 obj now) exec

/-! ### Positions -/

section

variable (table parentCol : String)

/-- `select_sql` of `persist_one_position`. -/
def positionSelectSql : List UInt8 := sqlText ["SELECT _checksum FROM ", table, " WHERE id = :id AND ", parentCol, " = :_parent"]

/-- `sql` of `persist_one_position`. -/
def positionWriteSql (needInsert : Bool) : List UInt8 :=
  if needInsert then sqlText
    ["INSERT INTO ", table, " (id, amount, account_id, unit_id, tax_id, tax_value, description, unit_price, discount, position, ",
      "internal_position, type, parent_id, ", parentCol, ", _checksum, _last_updated) VALUES (:id, :amount, :account_id, ",
      ":unit_id, :tax_id, :tax_value, :description, :unit_price, :discount, :position, :internal_position, :type, ",
      ":parent_id, :_parent, :_checksum, :_last_updated)"]
  else sqlText
    ["UPDATE ", table, " SET amount = :amount, account_id = :account_id, unit_id = :unit_id, tax_id = :tax_id, ",
      "tax_value = :tax_value, description = :description, unit_price = :unit_price, discount = :discount, ",
      "position = :position, internal_position = :internal_position, type = :type, parent_id = :parent_id, ",
      "_checksum = :_checksum, _last_updated = :_last_updated WHERE id = :id AND ", parentCol, " = :_parent"]

def positionChecksum (obj : Json) : UInt64 := fieldsChecksum lib xxh3 (positionTable table).fields obj

def positionBindings (docId : UInt64) (obj : Json) (now : UInt64) : List (Name × BoundValue) :=
  boundFields lib ["unit_id", "account_id", "tax_id", "parent_id"] (positionTable table).fields obj ++
    [boundUint64 "_parent" docId, boundUint64 "_checksum" (positionChecksum lib xxh3 table obj), boundUint64 "_last_updated" now]

/-- `persist_one_position`. -/
def persistOnePositionSql (docId : UInt64) (tables : SqlTables) (obj : Json) (now : UInt64) (a : PositionAnswers) :
    Option (BXillError × SqlTables) :=
  match a.select with
  | .failed needReconnect => some (bxDatabaseQueryError needReconnect, tables)
  | .answered =>
    match selectColumn tables (positionSelectSql table parentCol)
        [(asciiBytes "id", (readSlot lib obj "id" .uint).bound), boundUint64 "_parent" docId] with
    | none => none
    | some found =>
      if (found.head?.map SqlValue.iValue) = some (positionChecksum lib xxh3 table obj) then some (.noError, tables)
      else
        match sendNamed tables (positionWriteSql table parentCol found.isEmpty) (positionBindings lib xxh3 table docId obj now)
            a.write with
        | none => none
        | some (.failed needReconnect, tables) => some (bxDatabaseQueryError needReconnect, tables)
        | some (.done _, tables) => some (.noError, tables)

end

/-! ### Files -/

def fileQueryInsert : List UInt8 := sqlText
  ["INSERT INTO bx_file (id, uuid, name, size_in_bytes, extension, mime_type, ",
    "uploader_email, user_id, is_archived, source_id, source_type, ",
    "is_referenced, created_at, _checksum, _last_updated, _deleted) VALUES ",
    "(:id, :uuid, :name, :size_in_bytes, :extension, :mime_type, ",
    ":uploader_email, :user_id, :is_archived, :source_id, :source_type, ",
    ":is_referenced, :created_at, :_checksum, :_last_updated, :_deleted)"]

def fileQueryUpdate : List UInt8 := sqlText
  ["UPDATE bx_file SET uuid = :uuid, name = :name, size_in_bytes = :size_in_bytes, extension = :extension, ",
    "mime_type = :mime_type, uploader_email = :uploader_email, ",
    "user_id = :user_id, is_archived = :is_archived, source_id = :source_id, ",
    "source_type = :source_type, is_referenced = :is_referenced, created_at = :created_at, _checksum = :_checksum, ",
    "_last_updated = :_last_updated, _deleted = :_deleted WHERE id = :id"]

/-- What `file_page_item` reads and `persist_file` binds, in one order. -/
def fileFields : List BXJsonField :=
  [⟨"id", none, .uint⟩, ⟨"uuid", none, .str⟩, ⟨"name", none, .str⟩, ⟨"size_in_bytes", none, .uint⟩, ⟨"extension", none, .str⟩,
    ⟨"mime_type", none, .str⟩, ⟨"uploader_email", none, .str⟩, ⟨"user_id", none, .uint⟩, ⟨"is_archived", none, .bool⟩,
    ⟨"source_id", none, .uint⟩, ⟨"source_type", none, .str⟩, ⟨"is_referenced", none, .bool⟩, ⟨"created_at", none, .str⟩]

/-- The metadata of `file_page_item`, as far as the sync reads it. -/
def decodeFile (obj : Json) : BXFileMeta where
  id := (bxObjectGetJsonUint obj "id").map UInt64.toNat
  checksum := (fieldsChecksum lib xxh3 fileFields obj).toNat

def fileBindings (obj : Json) (now : UInt64) : List (Name × BoundValue) :=
  boundFields lib [] fileFields obj ++
    [boundUint64 "_checksum" (fieldsChecksum lib xxh3 fileFields obj), boundUint64 "_last_updated" now, boundUint64 "_deleted" 0]

def fileSelectSql : List UInt8 := sqlText ["SELECT _checksum FROM bx_file WHERE id = :id"]

/-- `persist_file`. -/
def persistFileSql (tables : SqlTables) (obj : Json) (now : UInt64) (a : FileAnswers) : Option (BXillError × SqlTables) :=
  match a.select with
  | .failed needReconnect => some (bxDatabaseQueryError needReconnect, tables)
  | .answered =>
    match selectColumn tables fileSelectSql [(asciiBytes "id", (readSlot lib obj "id" .uint).bound)] with
    | none => none
    | some found =>
      if (found.head?.map SqlValue.iValue) = some (fieldsChecksum lib xxh3 fileFields obj) then some (.noError, tables)
      else
        match sendParams tables (if found.isEmpty then fileQueryInsert else fileQueryUpdate) (fileBindings lib xxh3 obj now)
            a.write with
        | none => none
        | some (.failed needReconnect, tables) => some (bxDatabaseQueryError needReconnect, tables)
        | some (.done _, tables) => some (.noError, tables)

end

/-! ### Deletes -/

/-- The DELETE of `chain_thread` and `file_thread` for a table, with the id that `bx_prune_items` binds. -/
def pruneSql (table : String) (tables : SqlTables) (id : UInt64) (exec : Exec) : Option (Stmt × SqlTables) :=
  sendParams tables (sqlText ["DELETE FROM ", table, " WHERE id = :id"]) [boundUint64 "id" id] exec

/-! ### Calls -/

/-- A resource that is pruned. -/
inductive Pruned
  | contact
  | project
  | invoice
  | file
deriving DecidableEq, Repr

def Pruned.table : Pruned → String
  | contact => "contact"
  | project => "pr_project"
  | invoice => "invoice"
  | file => "bx_file"

/-- A call that stores or deletes rows, with the object and the time it stores, and its answers. The countries are the
    elements that were loaded before. -/
inductive RowCall
  | contact (archived : Bool) (state : CacheState) (countries : List Json) (behind : List UInt8) (obj : Json) (now : UInt64)
      (a : ContactAnswers)
  | groups (contactId : UInt64) (gids : List UInt64) (a : ContactAnswers)
  | project (state : CacheState) (obj : Json) (now : UInt64) (a : ProjectAnswers)
  | invoice (state : CacheState) (json : InvoiceJson) (now : UInt64) (a : InvoiceAnswers)
  | position (invoiceId : UInt64) (obj : Json) (now : UInt64) (a : PositionAnswers)
  | file (obj : Json) (now : UInt64) (a : FileAnswers)
  | pruned (resource : Pruned) (id : UInt64) (exec : Exec)

inductive RowAnswer
  | stmt (s : Stmt)
  | error (e : BXillError)
deriving DecidableEq

section

variable (lib : TextLib) (xxh3 : List UInt8 → UInt64)

def decodePosition (obj : Json) : BXPosition where
  id := (bxObjectGetJsonUint obj "id").map UInt64.toNat
  checksum := (positionChecksum lib xxh3 "invoice_position" obj).toNat

/-- A call on the rows. A file without an id is passed over. -/
def RowCall.run (tables : SqlTables) : RowCall → Option (RowAnswer × SqlTables)
  | contact archived state countries _ obj now a =>
    (persistContactSql lib xxh3 archived state (bxCountryCodeLoad lib countries) tables obj now a.persist).map fun r => (.stmt r.1, r.2)
  | groups contactId gids a => (bxContactGroupLinkSql contactId gids a tables).map fun r => (.error r.1, r.2)
  | project state obj now a => (executeRequestSql lib xxh3 state tables obj now a.persist).map fun r => (.error r.1, r.2)
  | invoice state json now a =>
    (persistInvoiceSql lib xxh3 state tables json.object now a.persist).map fun r => (.stmt r.1, r.2)
  | position invoiceId obj now a =>
    (persistOnePositionSql lib xxh3 "invoice_position" "_invoice_id" invoiceId tables obj now a).map fun r => (.error r.1, r.2)
  | file obj now a =>
    if (bxObjectGetJsonUint obj "id").isNone then some (.error .noError, tables)
    else (persistFileSql lib xxh3 tables obj now a).map fun r => (.error r.1, r.2)
  | pruned resource id exec => (pruneSql resource.table tables id exec).map fun r => (.stmt r.1, r.2)

/-- A contact is named by a project or an invoice, which do not go with it. A project without one names the contact 0. -/
def Database.keepsContact (db : Database) (id : Nat) : Bool :=
  db.project.entries.any (fun e => e.2.contactId.getD 0 = id) || db.invoice.entries.any fun e => e.2.contactId = some id

def Pruned.delete (db : Database) (id : Nat) (fkError converted : Bool) : Pruned → Option Bool × Database
  | contact => db.deleteContact id (fkError || ((db.contact.lookup id).isSome && db.keepsContact id)) converted
  | project => db.deleteProject id fkError converted
  | invoice => db.deleteInvoice id fkError converted
  | file => db.deleteFile id fkError converted

/-- The same call on the tables of what is read of the rows. -/
def RowCall.model (db : Database) : RowCall → RowAnswer × Database
  | contact archived state _ behind obj _ a =>
    let r := persistContact archived state db { contact := bxObjectContactDecode lib xxh3 behind obj, answers := a }
    (.stmt r.1, r.2)
  | groups contactId gids a =>
    let r := bxContactGroupLink contactId.toNat (gids.map UInt64.toNat) a db
    (.error r.1, r.2)
  | project state obj _ a =>
    let r := executeRequest state db { project := decodeProject lib xxh3 obj, answers := a }
    (.error r.1, r.2)
  | invoice state json _ a =>
    let r := persistInvoice state db (bxObjectInvoiceDecode lib xxh3 json) a
    (.stmt r.1, r.2)
  | position invoiceId obj _ a =>
    let r := persistOnePosition db invoiceId.toNat (decodePosition lib xxh3 obj) a
    (.error r.1, r.2)
  | file obj _ a =>
    match (decodeFile lib xxh3 obj).id with
    | none => (.error .noError, db)
    | some id =>
      let r := persistFile db id { file := decodeFile lib xxh3 obj, answers := a }
      (.error r.1, r.2)
  | pruned resource id exec =>
    let r := exec.run db fun fk cv => resource.delete db id.toNat fk cv
    (.stmt r.1, r.2)

/-- A run of calls on the rows. -/
def runRows : List RowCall → SqlTables → Option (List RowAnswer × SqlTables)
  | [], tables => some ([], tables)
  | call :: calls, tables =>
    match call.run lib xxh3 tables with
    | none => none
    | some (answer, tables) => (runRows calls tables).map fun r => (answer :: r.1, r.2)

def runModel : List RowCall → Database → List RowAnswer × Database
  | [], db => ([], db)
  | call :: calls, db =>
    let r := call.model lib xxh3 db
    let rest := runModel calls r.2
    (r.1 :: rest.1, rest.2)

end

end BxSync
