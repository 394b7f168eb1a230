import Mathlib.Data.List.Nodup
import BxSync.CursorText

/-! The configuration in memory (`bx_conf.c`): what `bx_conf_loadfile` makes of the JSON file, what
    `bx_conf_load_database` lays over it from the rows of `_configuration`, and how `bx_conf_put_database_conn` writes
    such a row. The hash of a name and `strtod` are parameters. An assertion that fails is none. -/

namespace BxSync

/-- `e_BXConfValueType`. -/
inductive BXConfValueType
  | string
  | byte
  | integer
  | float
  | bool
  | blob
deriving DecidableEq, Repr

/-- `BXConfValue`. A double is its 64 bits. -/
structure BXConfValue where
  key : UInt64
  type : BXConfValueType
  sValue : Option CText
  iValue : Int32
  fValue : UInt64
  bValue : Option (List UInt8)
deriving DecidableEq

/-- A type and what the pointer that comes with it points at. -/
inductive BXConfData
  | string (s : CText)
  | byte (b : UInt8)
  | integer (n : Int32)
  | float (bits : UInt64)
  | bool (b : Bool)
  | blob (data : Option (List UInt8))
deriving DecidableEq

def BXConfData.type : BXConfData → BXConfValueType
  | .string _ => .string
  | .byte _ => .byte
  | .integer _ => .integer
  | .float _ => .float
  | .bool _ => .bool
  | .blob _ => .blob

/-- The list from `head` on. -/
abbrev BXConf := List BXConfValue

def clearValue (v : BXConfValue) : BXConfValue :=
  { v with sValue := none, bValue := none, iValue := 0, fValue := 0 }

def fillValue (v : BXConfValue) (value : BXConfData) : BXConfValue :=
  let v := { clearValue v with type := value.type }
  match value with
  | .bool b => { v with iValue := if b then 1 else 0 }
  | .integer n => { v with iValue := n }
  | .string s => { v with sValue := some s }
  | .float bits => { v with fValue := bits }
  | .byte b => { v with iValue := Int32.ofNat b.toNat }
  | .blob data => { v with bValue := data.filter (· ≠ []) }

/-- `bx_conf_set` by the key: the value there is filled, or a new one at the end. -/
def setKey (key : UInt64) (value : BXConfData) : BXConf → BXConf
  | [] => [fillValue { key, type := value.type, sValue := none, iValue := 0, fValue := 0, bValue := none } value]
  | v :: rest => if v.key = key then fillValue v value :: rest else v :: setKey key value rest

def isMysqlName (name : CText) : Bool := (asciiBytes "mysql-").isPrefixOf name.bytes

section

variable (hash : CText → UInt64) (strtod : List UInt8 → Option UInt64)

/-- `_bx_conf_get`. -/
def bxConfGet (conf : BXConf) (key : CText) : Option (Option BXConfValue) :=
  if key.bytes = [] then none else some (conf.find? fun v => v.key = hash key)

def bxConfSet (conf : BXConf) (key : CText) (value : BXConfData) : Option BXConf :=
  if key.bytes = [] then none else some (setKey (hash key) value conf)

def bxConfGetString (conf : BXConf) (key : CText) : Option (Option CText) :=
  (bxConfGet hash conf key).map fun v => v.bind fun v => if v.type ≠ .string then none else v.sValue

def bxConfGetInt (conf : BXConf) (key : CText) : Option Int32 :=
  (bxConfGet hash conf key).map fun v =>
    v.elim 0 fun v => if v.type ≠ .integer ∧ v.type ≠ .bool then 0 else v.iValue

/-! ### The file -/

/-- What the file holds: no JSON text that can be read, a value that is no object, or the fields of an object. -/
inductive ConfFile
  | unreadable
  | noObject
  | object (fields : List (CText × Json))

/-- The columns of a row as texts. -/
structure ConfRow where
  name : Option (List UInt8)
  type : Option (List UInt8)
  ival : Option (List UInt8)
  cval : Option (List UInt8)
  bval : Option (List UInt8)
  fval : Option (List UInt8)
deriving DecidableEq

def typeIs (type : Option (List UInt8)) (a : String) (b : Option String) : Bool :=
  match type with
  | none => false
  | some type => sameWord a type || b.any fun b => sameWord b type

/-- The value of a row, unless its type is none that is known or its column has no value of the type. -/
def rowData (row : ConfRow) : Option BXConfData :=
  if typeIs row.type "string" "text" || typeIs row.type "char" "varchar" then
    row.cval.map fun cval => .string (.read cval)
  else if typeIs row.type "integer" "int" then
    row.ival.bind fun ival => (strtol (cString ival)).map fun parsed => .integer (Int32.ofInt parsed.1)
  else if typeIs row.type "bool" "boolean" then
    row.ival.map fun ival => .bool (((strtol (cString ival)).elim 0 Prod.fst : Int) ≠ 0)
  else if typeIs row.type "float" "double" || typeIs row.type "real" none then
    row.fval.bind fun fval => (strtod (cString fval)).map .float
  else if typeIs row.type "blob" "byte" || typeIs row.type "bytes" "binary" then
    some (.blob row.bval)
  else none

def applyDatabaseRow (conf : BXConf) (row : ConfRow) : Option (Bool × BXConf) :=
  match row.name.map CText.read with
  | none => some (true, conf)
  | some name =>
    if name.bytes = [] ∨ isMysqlName name then some (true, conf)
    else
      match rowData strtod row with
      | some value => (bxConfSet hash conf name value).map fun conf => (true, conf)
      | none => some (false, conf)

/-- `conf_connect`, by whether the server can be reached. -/
def confConnect (conf : BXConf) (connects : Bool) : Option Bool := do
  let host ← bxConfGetString hash conf (.ofString "mysql-host")
  let user ← bxConfGetString hash conf (.ofString "mysql-user")
  let _ ← bxConfGetString hash conf (.ofString "mysql-password")
  let database ← bxConfGetString hash conf (.ofString "mysql-database")
  some (host.isSome && user.isSome && database.isSome && connects)

/-- `bx_conf_load_database` with the rows the server hands over, if it does. -/
def BXConf.bxConfLoadDatabase (conf : BXConf) (reply : Option (List ConfRow)) : Option (Bool × BXConf) := do
  let connected ← confConnect hash conf reply.isSome
  if connected then
    let conf ← (reply.getD []).foldlM (fun conf row => (applyDatabaseRow hash strtod conf row).map Prod.snd) conf
    some (true, conf)
  else some (false, conf)

end
/-! ### The table -/

/-- A row of `_configuration`. -/
structure ConfigurationRow where
  name : CText
  type : List UInt8
  ival : Option Int32
  cval : Option (List UInt8)
  bval : Option (List UInt8)
  fval : Option (List UInt8)
deriving DecidableEq

/-- The row as the SELECT hands it over. -/
def ConfigurationRow.select (row : ConfigurationRow) : ConfRow where
  name := some row.name.bytes
  type := some row.type
  ival := row.ival.map fun ival => Decimal.signedDigits ival.toInt
  cval := row.cval
  bval := row.bval
  fval := row.fval

section

variable {κ : Type} [DecidableEq κ] (collate : CText → κ)

/-- INSERT, and ON DUPLICATE KEY UPDATE of all but the name. -/
def insertOrUpdate (row : ConfigurationRow) : List ConfigurationRow → List ConfigurationRow
  | [] => [row]
  | old :: rows =>
    if collate old.name = collate row.name then { row with name := old.name } :: rows
    else old :: insertOrUpdate row rows

theorem names_insertOrUpdate (row : ConfigurationRow) (rows : List ConfigurationRow) :
    (insertOrUpdate collate row rows).map (fun row => collate row.name) =
      if collate row.name ∈ rows.map fun row => collate row.name then rows.map fun row => collate row.name
      else (rows.map fun row => collate row.name) ++ [collate row.name] := by
  induction rows with
  | nil => rfl
  | cons old rows ih =>
    unfold insertOrUpdate
    by_cases hsame : collate old.name = collate row.name
    · rw [if_pos hsame, List.map_cons, List.map_cons, hsame, if_pos List.mem_cons_self]
    · rw [if_neg hsame, List.map_cons, ih, List.map_cons]
      by_cases hmem : collate row.name ∈ rows.map fun row => collate row.name
      · rw [if_pos hmem, if_pos (List.mem_cons_of_mem _ hmem)]
      · rw [if_neg hmem, if_neg fun hcons => hmem ((List.mem_cons.mp hcons).resolve_left (Ne.symm hsame))]
        rfl

/-- `_configuration` in the order of its ids, with its unique key. The collation of the column decides which names are
    the same. -/
structure ConfigurationTable where
  rows : List ConfigurationRow
  unique : (rows.map fun row => collate row.name).Nodup

def ConfigurationTable.put (table : ConfigurationTable collate) (row : ConfigurationRow) : ConfigurationTable collate where
  rows := insertOrUpdate collate row table.rows
  unique := by
    rw [names_insertOrUpdate]
    by_cases hmem : collate row.name ∈ table.rows.map fun row => collate row.name
    · rw [if_pos hmem]
      exact table.unique
    · rw [if_neg hmem, ← List.concat_eq_append]
      exact table.unique.concat hmem

/-- The rows of the SELECT. -/
def ConfigurationTable.select (table : ConfigurationTable collate) : List ConfRow :=
  table.rows.map ConfigurationRow.select

end

end BxSync
