import BxSync.Lib.Sql

/-! Statements that change tables with primary keys and references: what is read in their texts, and what they do to the
    rows, as far as the keys and the references decide. -/

namespace Sql

/-- An INSERT may ignore a row that cannot be stored. -/
inductive Write (V : Type)
  | insert (ignore : Bool) (table : Name) (columns : List Name) (values : List V)
  | update (table : Name) (sets keys : List (Name × V))
  | delete (table : Name) (keys : List (Name × V))
deriving DecidableEq, Repr

namespace Write

variable {V : Type}

/-- Puts values in the places of a statement, if there are as many. -/
def fill : Write Unit → List V → Option (Write V)
  | insert ignore table columns places, vs => if vs.length = places.length then some (insert ignore table columns vs) else none
  | update table sets keys, vs =>
    if vs.length = sets.length + keys.length then
      some (update table ((sets.map Prod.fst).zip (vs.take sets.length)) ((keys.map Prod.fst).zip (vs.drop sets.length)))
    else none
  | delete table keys, vs => if vs.length = keys.length then some (delete table ((keys.map Prod.fst).zip vs)) else none

end Write

/-! ### Reading a text -/

/-- A name may stand between quotes. -/
def unquoted : List Token → List Token
  | .sign 96 :: .word w :: .sign 96 :: ts => .word w :: unquoted ts
  | t :: ts => t :: unquoted ts
  | [] => []

/-- A semicolon may stand at the end. -/
def unended (ts : List Token) : List Token := if ts.getLast? = some (.sign 59) then ts.dropLast else ts

def readDelete : List Token → Option (Write Unit)
  | from' :: .word table :: where' :: rest =>
    if from' = keyword "FROM" ∧ where' = keyword "WHERE" then
      match items readPair (keyword "AND") rest with
      | some (keys, []) => some (.delete table keys)
      | _ => none
    else none
  | _ => none

def Statement.write {V : Type} (ignore : Bool) : Statement V → Option (Write V)
  | select _ _ _ => none
  | insert table columns values => some (.insert ignore table columns values)
  | update table sets keys => some (.update table sets keys)

/-- The statement of a text whose values are left out. -/
def readWrite (s : List UInt8) : Option (Write Unit) :=
  match unended (unquoted (tokens s)) with
  | verb :: rest =>
    if verb = keyword "DELETE" then readDelete rest
    else if verb = keyword "UPDATE" then (readUpdate rest).bind (Statement.write false)
    else if verb = keyword "INSERT" then
      if rest.head? = some (keyword "IGNORE") then (readInsert rest.tail).bind (Statement.write true)
      else (readInsert rest).bind (Statement.write false)
    else none
  | [] => none

/-! ### Keys and references -/

/-- A column that names a row of another table. -/
structure Reference (V : Type) where
  table : Name
  column : Name
  parent : Name
  /-- The column of the parent that it names. -/
  target : Name
  /-- A row goes with the row that it names. Else it keeps that row. -/
  cascades : Bool
  /-- What a NULL is taken for, where the column must have a value. -/
  nullAs : Option V
deriving DecidableEq

/-- What a value of the column names. -/
def Reference.named {V : Type} [DecidableEq V] (r : Reference V) (null v : V) : Option V := if v = null then r.nullAs else some v

structure Schema (V : Type) where
  key : Name → List Name
  /-- A table stands behind those whose rows it names. -/
  references : List (Reference V)
  /-- What a NULL in a key is stored as. -/
  keyless : V

section

variable {V : Type} [DecidableEq V] (schema : Schema V) (same : V → V → Bool) (null : V)

/-- A value of the column names no row. -/
def Reference.unnamed (r : Reference V) (tables : Tables V) (v : V) : Bool :=
  (r.named null v).any fun v => !(tables r.parent).any fun row => same (row r.target) v

/-- A row names a row of the parent. -/
def Reference.names (r : Reference V) (row p : Row V) : Bool := (r.named null (row r.column)).any fun v => same (p r.target) v

/-- A value is set that names no row. -/
def Schema.orphan (tables : Tables V) (table : Name) (sets : List (Name × V)) : Bool :=
  schema.references.any fun r => r.table = table && sets.any fun s => s.1 = r.column && r.unnamed same null tables s.2

/-- Two rows have one primary key. -/
def Schema.sameKey (table : Name) (row row' : Row V) : Bool := (schema.key table).all fun c => same (row c) (row' c)

/-- A row that is sent has a NULL in its key. -/
def Schema.lacksKey (table : Name) (row : Row V) : Bool := (schema.key table).any fun c => row c = null

/-- Its key is completed. -/
def Schema.complete (table : Name) (row : Row V) : Row V :=
  fun c => if c ∈ schema.key table ∧ row c = null then schema.keyless else row c

/-- The rows that go with those of a condition. -/
def Schema.gone (tables : Tables V) (table : Name) (keys : List (Name × V)) : Name → Row V → Bool :=
  schema.references.foldl
    (fun gone r t row => gone t row ||
      r.cascades && t = r.table && (tables r.parent).any fun p => gone r.parent p && r.names same null row p)
    fun t row => t = table && meets same keys row

/-- A row that goes is kept by one that names it. -/
def Schema.kept (tables : Tables V) (gone : Name → Row V → Bool) : Bool :=
  schema.references.any fun r => !r.cascades && (tables r.parent).any fun p => gone r.parent p &&
    (tables r.table).any fun row => r.names same null row p

/-- What a statement does, unless it is refused for another reason: whether a warning is raised, none when it is an
    error, and the tables. -/
def Schema.run (tables : Tables V) (refused converted : Bool) : Write V → Option Bool × Tables V
  | .insert ignore table columns values =>
    let sent := assign (fun _ => null) (columns.zip values)
    let lacksKey := schema.lacksKey null table sent
    let row := schema.complete null table sent
    if ¬(columns.Nodup ∧ columns.length = values.length) ∨ (!ignore && lacksKey) then (none, tables)
    else if (tables table).any (schema.sameKey same table row) ||
        (refused || schema.orphan same null tables table (columns.zip values)) then
      (if ignore then some true else none, tables)
    else (some (converted || lacksKey), Function.update tables table (tables table ++ [row]))
  | .update table sets keys =>
    if !(tables table).any (meets same keys) then (some false, tables)
    else if refused || schema.orphan same null tables table sets then (none, tables)
    else
      (some converted, Function.update tables table
        ((tables table).map fun row => if meets same keys row then assign row sets else row))
  | .delete table keys =>
    let gone := schema.gone same null tables table keys
    if refused || schema.kept same null tables gone then (none, tables)
    else (some false, fun t => (tables t).filter fun row => !gone t row)

end

end Sql
