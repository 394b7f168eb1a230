import BxSync.Upsert

/-! The contact sectors (`contact_sector.c`): each sector of the response is inserted, updated or left for its checksum,
    and the rows that were live and are not in the response are marked deleted.

    The hash is a parameter. Allocations succeed, and a row holds the values it was sent. -/

namespace BxSync

structure BXObjectContactSector where
  remoteId : Option UInt64
  remoteName : Option (List UInt8)
  checksum : UInt64
deriving DecidableEq, Repr

/-- The value of an id that is not set is 0. -/
def BXObjectContactSector.id (sector : BXObjectContactSector) : UInt64 := sector.remoteId.getD 0

/-- A row is live when `deleted` is 0. -/
structure ContactSectorRow where
  name : List UInt8
  checksum : UInt64
  lastUpdated : UInt64
  deleted : UInt64
deriving DecidableEq, Repr

abbrev ContactSectors := Table UInt64 ContactSectorRow

/-- `s_ItemMustBeDeleted`. The item is an int64_t, here with its bits. -/
structure ItemMustBeDeleted where
  item : UInt64
  deleted : Bool
deriving DecidableEq, Repr

/-- A sector of the response, when it is stored, and how its statements meet the server. -/
structure SectorElement where
  object : Json
  now : UInt64
  answers : UpsertAnswers

/-- What the outside does in a walk. A response that is no array has no elements. -/
structure SectorWalk where
  httpCode : Option Nat
  elements : List SectorElement
  idsPrepared : Bool
  ids : Query
  sweepPrepared : Bool
  sweptAt : UInt64
  sweep : UInt64 → Exec

section

variable (lib : TextLib) (xxh3 : List UInt8 → UInt64)

/-- `decode_object`. -/
def SectorElement.decode (e : SectorElement) : BXObjectContactSector :=
  let remoteId := bxObjectGetJsonUint e.object "id"
  let remoteName := bxObjectGetJsonString lib e.object "name"
  { remoteId, remoteName, checksum := xxh3 ((BXSlot.uint remoteId).mixed ++ (BXSlot.str remoteName).mixed) }

/-- What a statement with `_deleted` = 0 writes. -/
def BXObjectContactSector.row (sector : BXObjectContactSector) (now : UInt64) : ContactSectorRow where
  name := sector.remoteName.getD []
  checksum := sector.checksum
  lastUpdated := now
  deleted := 0

/-- The id of the rows that an id finds where it is sent as a signed number: a negative one finds none. -/
def signedId (id : UInt64) : Option UInt64 := if id.toNat < 2 ^ 63 then some id else none

/-- The item with the id is not to be deleted. -/
def markFound (id : UInt64) : List ItemMustBeDeleted → List ItemMustBeDeleted
  | [] => []
  | i :: rest => if i.item = id then { i with deleted := false } :: rest else i :: markFound id rest

/-- The code of a statement of the walk that failed. -/
def sectorError (needReconnect : Bool) (error : BXillError) : BXillError :=
  if needReconnect then .errorSQLReconnect else error

/-- One sector. The SELECT sends its id signed, 0 when it has none. The INSERT sends it unsigned, and the UPDATE signed, or
    NULL when it has none. The name is not NULL in the table. -/
def bxContactSectorStore (t : ContactSectors) (sector : BXObjectContactSector) (now : UInt64) (a : UpsertAnswers) :
    BXillError × ContactSectors :=
  if !a.selectPrepared then (.errorSQLSelect, t)
  else
    match a.select with
    | .failed needReconnect => (sectorError needReconnect .errorSQLSelect, t)
    | .answered =>
      match (signedId sector.id).bind t.lookup with
      | none =>
        if !a.writePrepared then (.errorGeneric, t)
        else
          let stmt := a.write.run t fun fk cv =>
            Table.insertRow t sector.id (sector.row now) (fk || sector.remoteName.isNone) cv
          match stmt.1 with
          | .failed needReconnect => (sectorError needReconnect .errorSQLSelect, stmt.2)
          | .done _ => (.noError, stmt.2)
      | some row =>
        if row.checksum = sector.checksum then (.noError, t)
        else if !a.writePrepared then (.errorGeneric, t)
        else
          let stmt := a.write.run t fun fk cv =>
            Table.update t (sector.remoteId.bind signedId) (sector.row now) (fk || sector.remoteName.isNone) cv
          match stmt.1 with
          | .failed needReconnect => (sectorError needReconnect .errorSQLUpdate, stmt.2)
          | .done _ => (.noError, stmt.2)

/-- The loop over the response. -/
def bxContactSectorStoreAll (t : ContactSectors) (items : List ItemMustBeDeleted) :
    List SectorElement → BXillError × ContactSectors × List ItemMustBeDeleted
  | [] => (.noError, t, items)
  | e :: rest =>
    let sector := e.decode lib xxh3
    let stored := bxContactSectorStore t sector e.now e.answers
    if stored.1 = .noError then bxContactSectorStoreAll stored.2 (markFound sector.id items) rest
    else (stored.1, stored.2, markFound sector.id items)

/-- UPDATE of `_deleted` alone. -/
def setDeleted (t : ContactSectors) (id : Option UInt64) (now : UInt64) (fkError converted : Bool) :
    Option Bool × ContactSectors :=
  match id.bind t.lookup with
  | none => (some false, t)
  | some row => Table.update t id { row with deleted := now } fkError converted

/-- The loop over the items. -/
def bxContactSectorSweep (now : UInt64) (sweep : UInt64 → Exec) (t : ContactSectors) :
    List ItemMustBeDeleted → BXillError × ContactSectors
  | [] => (.noError, t)
  | i :: rest =>
    if i.deleted then
      let stmt := (sweep i.item).run t fun fk cv => setDeleted t (signedId i.item) now fk cv
      match stmt.1 with
      | .failed needReconnect => (sectorError needReconnect .errorSQLUpdate, stmt.2)
      | .done _ => bxContactSectorSweep now sweep stmt.2 rest
    else bxContactSectorSweep now sweep t rest

/-- The rows that are live, to be deleted. -/
def liveItems (t : ContactSectors) : List ItemMustBeDeleted :=
  (t.entries.filter fun e => e.2.deleted = 0).map fun e => { item := e.1, deleted := true }

/-- `bx_contact_sector_walk_items` on its table. -/
def bxContactSectorWalkTable (t : ContactSectors) (w : SectorWalk) : BXillError × ContactSectors :=
  if w.httpCode ≠ some 200 then (.errorGeneric, t)
  else if !w.idsPrepared then (.errorGeneric, t)
  else
    match w.ids with
    | .failed needReconnect => (bxDatabaseQueryError needReconnect, t)
    | .answered =>
      let stored := bxContactSectorStoreAll lib xxh3 t (liveItems t) w.elements
      if stored.1 ≠ .noError then (stored.1, stored.2.1)
      else if stored.2.2 = [] then (.noError, stored.2.1)
      else if !w.sweepPrepared then (.errorGeneric, stored.2.1)
      else bxContactSectorSweep w.sweptAt w.sweep stored.2.1 stored.2.2

end

end BxSync
