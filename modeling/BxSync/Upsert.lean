import BxSync.Database
import BxSync.Json

/-! One JSON object as one row (`bx_upsert.c`): the fields of a list are read into slots and hashed, and the
    row is written unless it carries the checksum.

    The hash is a parameter, and so is how the server compares ids. A row holds the values it was sent. The SQL
    texts fit their buffers. -/

namespace BxSync

open Encoding

structure BXJsonField where
  key : String
  /-- The column, when its name is not the key. -/
  sql : Option String := none
  kind : BXFieldKind
deriving DecidableEq, Repr

/-- `BX_UPSERT_MAX_FIELDS`. -/
def bxUpsertMaxFields : Nat := 48

def tableAllowed (table : String) : Bool :=
  ["country", "account_group", "client_service", "communication_kind", "pr_project_state", "pr_project_type",
    "timesheet_status", "todo_status", "todo_priority", "stock", "stock_place", "bank_account", "company_profile",
    "calendar_year", "business_year", "vat_period", "contact_relation", "additional_address", "article", "note", "task",
    "timesheet", "kb_quote", "kb_order", "kb_delivery", "invoice_payment", "invoice_reminder", "kb_comment",
    "project_milestone", "project_package", "purchase_order", "purchase_bill", "expense", "manual_entry",
    "manual_entry_line"].contains table

/-- What the callers of `bx_json_upsert` fix for a table: its field list, and whether its rows have a parent. -/
structure UpsertTable where
  table : String
  fields : List BXJsonField
  parentSql : Option String
deriving DecidableEq, Repr

/-- The columns after the id. -/
structure UpsertRow where
  values : List BXSlot
  checksum : UInt64
deriving DecidableEq, Repr

/-- The rows by their id, as the server compares it, and their parent. A table without parents has 0 there. -/
abbrev UpsertRows (κ : Type) := Table (κ × UInt64) UpsertRow

structure UpsertAnswers where
  selectPrepared : Bool
  select : Query
  writePrepared : Bool
  write : Exec
deriving DecidableEq, Repr

/-- Every statement is prepared and runs. -/
def allAnswered : UpsertAnswers :=
  { selectPrepared := true, select := .answered, writePrepared := true, write := .ran false false }

/-- How far a call gets. -/
inductive UpsertEnd
  /-- No checksum was read. -/
  | unread
  /-- The row carries the checksum, and nothing is written. -/
  | skipped
  /-- A statement was prepared, or not. -/
  | sent
deriving DecidableEq, Repr

section

variable (lib : TextLib)

def readSlots (fields : List BXJsonField) (obj : Json) : List BXSlot :=
  fields.map fun field => readSlot lib obj field.key field.kind

/-- The bytes the hash is fed with. -/
def checksumStream (parentSql : Option String) (parentId : UInt64) (slots : List BXSlot) : List UInt8 :=
  parentSql.elim [] (fun _ => leBytes 8 parentId.toNat) ++ slots.flatMap BXSlot.mixed

/-- The first slot can be a primary key. -/
def pkOk : List BXSlot → Bool
  | .uint value :: _ => value.isSome
  | .int value :: _ => value.isSome
  | .str value :: _ => value.isSome
  | .uuid value :: _ => value.isSome
  | _ => false

variable {κ : Type} [DecidableEq κ] (serverKey : BXSlot → κ)

/-- The key of the row of an object. -/
def upsertKey (t : UpsertTable) (parentId : UInt64) (slots : List BXSlot) : κ × UInt64 :=
  (serverKey (slots.headD (.uint none)), t.parentSql.elim 0 fun _ => parentId)

variable (xxh3 : List UInt8 → UInt64)

/-- `bx_json_upsert`. -/
def bxJsonUpsert (t : UpsertTable) (rows : UpsertRows κ) (obj : Json) (parentId : UInt64) (a : UpsertAnswers) :
    BXillError × UpsertRows κ × UpsertEnd :=
  if t.fields = [] ∨ bxUpsertMaxFields < t.fields.length ∨ !tableAllowed t.table then (.errorGeneric, rows, .unread)
  else
    let slots := readSlots lib t.fields obj
    let checksum := xxh3 (checksumStream t.parentSql parentId slots)
    let key := upsertKey serverKey t parentId slots
    if !pkOk slots then (.errorGeneric, rows, .unread)
    else if !a.selectPrepared then (.errorGeneric, rows, .unread)
    else
      match a.select with
      | .failed needReconnect => (bxDatabaseQueryError needReconnect, rows, .unread)
      | .answered =>
        if (rows.lookup key).map UpsertRow.checksum = some checksum then (.noError, rows, .skipped)
        else if !a.writePrepared then (.errorGeneric, rows, .sent)
        else
          let row := { values := slots.tail, checksum }
          let stmt := a.write.run rows fun fk cv =>
            if (rows.lookup key).isNone then Table.insertRow rows key row fk cv else Table.update rows (some key) row fk cv
          match stmt.1 with
          | .failed needReconnect => (bxDatabaseQueryError needReconnect, stmt.2, .sent)
          | .done _ => (.noError, stmt.2, .sent)

end

/-! ### Runs on one table -/

/-- What changes the rows of a table: an object, or a DELETE of a parent that takes its rows along. -/
inductive UpsertInput
  | object (obj : Json) (parentId : UInt64) (answers : UpsertAnswers)
  | parentDeleted (parentId : UInt64)

section

variable (lib : TextLib) {κ : Type} [DecidableEq κ] (serverKey : BXSlot → κ) (xxh3 : List UInt8 → UInt64) (t : UpsertTable)

end

/-! ### Two tables -/

/-- `country_one`. -/
def countryTable : UpsertTable where
  table := "country"
  fields := [⟨"id", none, .uint⟩, ⟨"name", none, .str⟩, ⟨"name_short", none, .str⟩, ⟨"iso3166_alpha2", none, .str⟩]
  parentSql := none

/-- The lines of `manual_one`. -/
def manualEntryLineTable : UpsertTable where
  table := "manual_entry_line"
  fields :=
    [⟨"id", none, .uint⟩, ⟨"date", none, .str⟩, ⟨"debit_account_id", none, .uint⟩, ⟨"credit_account_id", none, .uint⟩,
      ⟨"tax_id", none, .uint⟩, ⟨"description", none, .str⟩, ⟨"amount", none, .float⟩, ⟨"currency_id", none, .uint⟩]
  parentSql := some "_entry_id"

/-! ### Stand-ins for closed runs -/

/-- No real is read there, and no text has an entity. -/
def plainText : TextLib where
  strtod _ := 0
  printE _ := []
  htmlEntitiesReplaces := id

def smallHash (s : List UInt8) : UInt64 := s.foldl (fun h b => h * 31 + b.toUInt64) 7

end BxSync
