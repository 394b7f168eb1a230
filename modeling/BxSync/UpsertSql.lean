import BxSync.Lib.Sql
import BxSync.NamedParameters
import BxSync.Upsert

/-! The statements of `bx_json_upsert` as they are sent: their texts are printed into buffers (`bx_upsert.c`), their
    parameters are bound by name (`bx_database.c`), and the server runs what it reads.

    A call that writes outside a buffer, leaves a parameter unbound or sends what is no statement has no outcome. A row
    holds the values it was sent. -/

namespace BxSync

open Encoding

/-! ### Parameters -/

/-- What the server gets for a parameter. -/
inductive SqlValue
  | null
  | integer (n : Int)
  | real (bits : UInt64)
  | bytes (b : List UInt8)
deriving DecidableEq, Repr

def BoundValue.sent : BoundValue → SqlValue
  | .null => .null
  | .tiny value => .integer (if value then 1 else 0)
  | .longlong bits isUnsigned => .integer (if isUnsigned then bits.toNat else bits.toInt64.toInt)
  | .double bits => .real bits
  | .string bytes => .bytes bytes
  | .blob bytes => .bytes bytes

/-- `_find_param`: the first parameter whose name `strncmp` finds equal. -/
def findParam (query : BXDatabaseQuery) (name : List UInt8) : Option Nat :=
  (query.parameters.take query.paramCount).findIdx? fun p =>
    (cString name).take maxNameLength = (cString p.name).take maxNameLength

/-- Sets the value of a parameter, if there is one of the name. -/
def addParam (query : BXDatabaseQuery) (name : List UInt8) (value : BoundValue) : BXDatabaseQuery :=
  match findParam query name with
  | none => query
  | some i => { query with parameters := query.parameters.modify i fun p => { p with value := some value } }

/-- `bx_database_add_param_uint64`. -/
def bxDatabaseAddParamUint64 (query : BXDatabaseQuery) (name : List UInt8) (value : UInt64) : BXDatabaseQuery :=
  addParam query name (.longlong value true)

/-- What `bx_database_add_bxtype` binds. Every integer is signed. -/
def BXSlot.bound : BXSlot → BoundValue
  | .uint value => value.elim .null fun n => .longlong n false
  | .int value => value.elim .null fun n => .longlong n.toUInt64 false
  | .str value => value.elim .null .string
  | .float value => value.elim .null .double
  | .bool value => value.elim .null .tiny
  | .uuid value => value.elim .null fun w => .blob (leBytes 8 w.1.toNat ++ leBytes 8 w.2.toNat)

def bxDatabaseAddBxtype (query : BXDatabaseQuery) (name : List UInt8) (slot : BXSlot) : BXDatabaseQuery :=
  addParam query name slot.bound

/-- What the server makes of the text and the values, when every parameter has one. -/
def BXDatabaseQuery.statement (query : BXDatabaseQuery) : Option (Sql.Statement SqlValue) :=
  if query.parameters.all fun p => p.value.isSome then
    match Sql.parse (cString query.query) with
    | none => none
    | some places => places.fill (query.parameters.filterMap fun p => p.value.map BoundValue.sent)
  else none

/-! ### Buffers -/

/-- The text in a buffer, and the length that was printed, which counts what did not fit. -/
structure Printed where
  text : List UInt8
  length : Nat
deriving DecidableEq, Repr

/-- `length += snprintf(text + length, size - length, ..)`. Behind the end of the buffer the size wraps. -/
def Printed.append (size : Nat) (p : Printed) (piece : List UInt8) : Option Printed :=
  if size < p.length then none
  else some { text := p.text ++ piece.take (size - p.length - 1), length := p.length + piece.length }

def fname (f : BXJsonField) : List UInt8 := asciiBytes (f.sql.getD f.key)

/-- `cols`, `vals` and `sets`. -/
structure UpsertBuffers where
  cols : Printed
  vals : Printed
  sets : Printed
deriving DecidableEq, Repr

/-- The size of each of them. -/
def upsertBufferSize : Nat := 1024

def UpsertBuffers.append (b : UpsertBuffers) (col val set : List UInt8) : Option UpsertBuffers :=
  match b.cols.append upsertBufferSize col, b.vals.append upsertBufferSize val, b.sets.append upsertBufferSize set with
  | some cols, some vals, some sets => some { cols, vals, sets }
  | _, _, _ => none

/-- The separator in front of what is printed next. -/
def Printed.separator (p : Printed) : List UInt8 := if p.length = 0 then [] else asciiBytes ", "

/-- The loop over the fields. The first one is not set. -/
def UpsertBuffers.putFields : Nat → List (List UInt8) → UpsertBuffers → Option UpsertBuffers
  | _, [], b => some b
  | i, n :: names, b =>
    let separator := if i = 0 then [] else asciiBytes ", "
    let set := if i = 0 then [] else b.sets.separator ++ (n ++ (asciiBytes " = :" ++ n))
    match b.append (separator ++ n) (separator ++ (asciiBytes ":" ++ n)) set with
    | none => none
    | some b => putFields (i + 1) names b

def UpsertBuffers.putParent (b : UpsertBuffers) (parent : List UInt8) : Option UpsertBuffers :=
  b.append (asciiBytes ", " ++ parent) (asciiBytes ", :_parent") []

/-- The columns of the sync. -/
def UpsertBuffers.putOwn (b : UpsertBuffers) : Option UpsertBuffers :=
  b.append (asciiBytes ", _checksum, _last_updated, _deleted") (asciiBytes ", :_checksum, :_last_updated, :_deleted")
    (b.sets.separator ++
      asciiBytes "_checksum = :_checksum, _last_updated = :_last_updated, _deleted = :_deleted")

section

variable (t : UpsertTable)

def UpsertTable.names : List (List UInt8) := t.fields.map fname

def UpsertTable.parent : Option (List UInt8) := t.parentSql.map asciiBytes

def upsertBuffers : Option UpsertBuffers :=
  match UpsertBuffers.putFields 0 t.names { cols := ⟨[], 0⟩, vals := ⟨[], 0⟩, sets := ⟨[], 0⟩ } with
  | none => none
  | some b =>
    match t.parent with
    | none => b.putOwn
    | some parent =>
      match b.putParent parent with
      | none => none
      | some b => b.putOwn

/-- The condition of the SELECT and of the UPDATE. -/
def upsertWhere : List UInt8 :=
  t.names.headD [] ++ (asciiBytes " = :id" ++
    t.parent.elim [] fun parent => asciiBytes " AND " ++ (parent ++ asciiBytes " = :_parent"))

/-- `select_sql`. -/
def upsertSelectSql : List UInt8 :=
  (asciiBytes "SELECT _checksum FROM " ++ (asciiBytes t.table ++ (asciiBytes " WHERE " ++ upsertWhere t))).take 255

/-- `sql`. -/
def upsertWriteSql (b : UpsertBuffers) (needInsert : Bool) : List UInt8 :=
  (if needInsert then
    asciiBytes "INSERT INTO " ++ (asciiBytes t.table ++ (asciiBytes " (" ++ (b.cols.text ++ (asciiBytes ") VALUES (" ++
      (b.vals.text ++ asciiBytes ")")))))
  else
    asciiBytes "UPDATE " ++ (asciiBytes t.table ++ (asciiBytes " SET " ++ (b.sets.text ++ (asciiBytes " WHERE " ++
      upsertWhere t))))).take 2799

/-! ### The call -/

variable (slots : List BXSlot) (parentId : UInt64)

/-- The query of the SELECT with its parameters, or none when the text is empty. -/
def upsertSelect : Option (Option BXDatabaseQuery) :=
  (bxDatabaseNewQuery (upsertSelectSql t)).map fun query => query.map fun q =>
    let q := bxDatabaseAddBxtype q (asciiBytes ":id") (slots.headD (.uint none))
    if t.parent.isSome then bxDatabaseAddParamUint64 q (asciiBytes ":_parent") parentId else q

/-- `pname`, which has 64 bytes. -/
def parameterName (n : List UInt8) : List UInt8 := (asciiBytes ":" ++ n).take 63

def upsertBind (checksum now : UInt64) (q : BXDatabaseQuery) : BXDatabaseQuery :=
  let q := (t.names.zip slots).foldl (fun q f => bxDatabaseAddBxtype q (parameterName f.1) f.2) q
  let q := if t.parent.isSome then bxDatabaseAddParamUint64 q (asciiBytes ":_parent") parentId else q
  let q := bxDatabaseAddParamUint64 q (asciiBytes ":_checksum") checksum
  let q := bxDatabaseAddParamUint64 q (asciiBytes ":_last_updated") now
  bxDatabaseAddParamUint64 q (asciiBytes ":_deleted") 0

/-- The query of the INSERT or the UPDATE. -/
def upsertWrite (checksum now : UInt64) (needInsert : Bool) : Option (Option BXDatabaseQuery) :=
  match upsertBuffers t with
  | none => none
  | some b =>
    (bxDatabaseNewQuery (upsertWriteSql t b needInsert)).map fun query => query.map (upsertBind t slots parentId checksum now)

end

/-- `i_value` of a column, which starts as 0. -/
def SqlValue.iValue : SqlValue → UInt64
  | .integer n => UInt64.ofInt n
  | _ => 0

section

variable {κ : Type} [DecidableEq κ] (serverKey : SqlValue → κ)

/-- How the server compares. NULL equals nothing. -/
def sameValue (a b : SqlValue) : Bool := a ≠ .null && b ≠ .null && serverKey a = serverKey b

abbrev SqlTables := Sql.Tables SqlValue

/-- Runs a write. -/
def runStatement (stmt : Sql.Statement SqlValue) (tables : SqlTables) (fkError converted : Bool) : Option Bool × SqlTables :=
  if fkError then (none, tables)
  else
    match stmt.run (sameValue serverKey) .null tables with
    | none => (none, tables)
    | some (_, tables) => (some converted, tables)

variable (lib : TextLib) (xxh3 : List UInt8 → UInt64)

/-- The second half of `bx_json_upsert`. -/
def upsertSend (t : UpsertTable) (tables : SqlTables) (slots : List BXSlot) (parentId checksum now : UInt64) (needInsert : Bool)
    (a : UpsertAnswers) : Option (BXillError × SqlTables × UpsertEnd) :=
  match upsertWrite t slots parentId checksum now needInsert with
  | none => none
  | some none => some (.errorGeneric, tables, .sent)
  | some (some query) =>
    if !a.writePrepared then some (.errorGeneric, tables, .sent)
    else
      match query.statement with
      | none => none
      | some stmt =>
        match a.write.run tables (runStatement serverKey stmt tables) with
        | (.failed needReconnect, tables) => some (bxDatabaseQueryError needReconnect, tables, .sent)
        | (.done _, tables) => some (.noError, tables, .sent)

/-- `bx_json_upsert` with its statements. -/
def bxJsonUpsertSql (t : UpsertTable) (tables : SqlTables) (obj : Json) (parentId now : UInt64) (a : UpsertAnswers) :
    Option (BXillError × SqlTables × UpsertEnd) :=
  if t.fields = [] ∨ bxUpsertMaxFields < t.fields.length ∨ !tableAllowed t.table then some (.errorGeneric, tables, .unread)
  else
    let slots := readSlots lib t.fields obj
    let checksum := xxh3 (checksumStream t.parentSql parentId slots)
    if !pkOk slots then some (.errorGeneric, tables, .unread)
    else
      match upsertSelect t slots parentId with
      | none => none
      | some none => some (.errorGeneric, tables, .unread)
      | some (some query) =>
        if !a.selectPrepared then some (.errorGeneric, tables, .unread)
        else
          match a.select with
          | .failed needReconnect => some (bxDatabaseQueryError needReconnect, tables, .unread)
          | .answered =>
            match query.statement with
            | none => none
            | some stmt =>
              match stmt.run (sameValue serverKey) .null tables with
              | none => none
              | some ([], _) => upsertSend serverKey t tables slots parentId checksum now true a
              | some (value :: _, _) =>
                if value.iValue = checksum then some (.noError, tables, .skipped)
                else upsertSend serverKey t tables slots parentId checksum now false a

end

end BxSync
