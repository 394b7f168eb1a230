import BxSync.Database
import BxSync.IdsCache
import BxSync.Walk

/-! Files (`bxobjects/file.c`): one row of the file list, and the walk over it. -/

namespace BxSync

/-- What the sync reads of the metadata of a file. -/
structure BXFileMeta where
  id : Option Nat
  checksum : Nat
deriving DecidableEq, Repr

structure FileAnswers where
  select : Query
  write : Exec
  download : BXillError
deriving DecidableEq, Repr

structure FileItem where
  file : BXFileMeta
  answers : FileAnswers
deriving DecidableEq, Repr

def persistFile (db : Database) (id : Nat) (item : FileItem) : BXillError × Database :=
  match item.answers.select with
  | .failed needReconnect => (bxDatabaseQueryError needReconnect, db)
  | .answered =>
    let known := db.file.lookup id
    if known = some item.file.checksum then (.noError, db)
    else
      let stmt := item.answers.write.run db.file fun fk cv =>
        if known.isNone then Table.insertRow db.file id item.file.checksum fk cv
        else Table.update db.file (some id) item.file.checksum fk cv
      let db := { db with file := stmt.2 }
      match stmt.1 with
      | .failed needReconnect => (bxDatabaseQueryError needReconnect, db)
      | .done _ => (.noError, db)

/-- The row and the cache item of a file whose checksum differs. -/
def syncFile (state : CacheState) (db : Database) (c : Cache) (id : Nat) (item : FileItem) :
    BXillError × Database × Cache :=
  if state = .cacheOk then (.noError, db, c)
  else
    let persisted := persistFile db id item
    (persisted.1, persisted.2, if persisted.1 = .noError then cacheSetItem c id item.file.checksum else c)

/-- `file_page_item`. A file without an id is no error, and neither is one that could not be stored or
    loaded, unless the connection is lost. -/
def filePageItem (s : Database × Cache) (item : FileItem) : BXillError × Database × Cache :=
  match item.file.id with
  | none => (.noError, s)
  | some id =>
    let checked := cacheCheckItem s.2 id item.file.checksum
    let synced := syncFile checked.1 s.1 checked.2 id item
    let e := if synced.1 = .noError then item.answers.download else synced.1
    (if e = .errorSQLReconnect then .errorSQLReconnect else .noError, synced.2)

/-- The walk over the files has no page callback. -/
def fileWalker : Walker (Database × Cache) Unit FileItem where
  list := .file
  rowId item := item.file.id
  sync := filePageItem
  onPage := fun _ _ _ => (.noError, (), none)

theorem filePageItem_touched (s : Database × Cache) (item : FileItem) (id : Nat) (hid : item.file.id = some id) :
    Cache.Touched s.2 id id (filePageItem s item).2.2 := by
  unfold filePageItem
  rw [hid]
  dsimp only
  unfold syncFile
  split
  · exact .checked _
  · dsimp only
    split
    · exact .stored _ _
    · exact .checked _

theorem filePageItem_unset (s : Database × Cache) (item : FileItem) (hid : item.file.id = none) :
    filePageItem s item = (.noError, s) := by
  unfold filePageItem
  rw [hid]

end BxSync
