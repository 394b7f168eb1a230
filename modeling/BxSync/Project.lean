import BxSync.Contact

/-! Projects (`bxobjects/project.c`): one row of the project list, and the walk over it. -/

namespace BxSync

/-- What the sync reads of a decoded project. -/
structure BXObjectProject where
  id : Option Nat
  checksum : Nat
  contactId : Option Nat
deriving DecidableEq, Repr

structure ProjectAnswers where
  contact : Query
  persist : Exec
  extra : BXillError
deriving DecidableEq, Repr

/-- A row of the project list and the answers its sync meets. -/
structure ProjectItem where
  project : BXObjectProject
  answers : ProjectAnswers
deriving DecidableEq, Repr

/-- The parent of a project: an error, or whether the project can be stored. -/
def projectContactPresent (db : Database) (item : ProjectItem) : BXillError × Bool :=
  if item.project.contactId.getD 0 = 0 then (.noError, true)
  else bxContactIsInDatabase db (item.project.contactId.getD 0) item.answers.contact

/-- `execute_request` with the INSERT IGNORE or the UPDATE of a project. -/
def executeRequest (state : CacheState) (db : Database) (item : ProjectItem) : BXillError × Database :=
  let project := item.project
  let row := { checksum := project.checksum, contactId := project.contactId }
  -- The contact is NOT NULL, and NULL is converted to 0.
  let orphan := (db.contact.lookup (project.contactId.getD 0)).isNone
  let stmt := item.answers.persist.run db.project fun fk cv =>
    if state = .cacheNotSet then insertIgnoreId db.project project.id row (fk || orphan) cv
    else Table.update db.project project.id row (fk || orphan) cv
  let db := { db with project := stmt.2 }
  match stmt.1 with
  | .failed needReconnect => (bxDatabaseQueryError needReconnect, db)
  | .done warned => (if !bxDatabasePersistOk (.done warned) then .errorSQLInsert else .noError, db)

/-- `_bx_project_sync_item`. -/
def bxProjectSyncItem (db : Database) (c : Cache) (item : ProjectItem) : BXillError × Database × Cache :=
  let project := item.project
  let checked := cacheCheckItem c (project.id.getD 0) project.checksum
  if checked.1 = .cacheOk then (.noError, db, checked.2)
  else
    let parent := projectContactPresent db item
    if parent.1 ≠ .noError then (parent.1, db, checked.2)
    else if !parent.2 then (.noError, db, checked.2)
    else
      let persisted := executeRequest checked.1 db item
      if persisted.1 = .errorSQLReconnect then (.errorSQLReconnect, persisted.2, checked.2)
      else if persisted.1 ≠ .noError then (.noError, persisted.2, checked.2)
      else
        (if item.answers.extra = .errorSQLReconnect then .errorSQLReconnect else .noError, persisted.2,
          cacheSetItem checked.2 (project.id.getD 0) project.checksum)

/-- `project_page_item`. -/
def projectPageItem (s : Database × Cache) (item : ProjectItem) : BXillError × Database × Cache :=
  bxProjectSyncItem s.1 s.2 item

def projectWalker {κ : Type} (onPage : κ → Nat → Save → BXillError × κ × Option BXChainCursor) :
    Walker (Database × Cache) κ ProjectItem where
  list := .project
  rowId item := item.project.id
  sync := projectPageItem
  onPage

/-- `bx_project_is_in_database`. -/
def bxProjectIsInDatabase (db : Database) (id : Nat) (query : Query) : BXillError × Bool :=
  match query with
  | .failed needReconnect => (bxDatabaseQueryError needReconnect, false)
  | .answered => (.noError, (db.project.lookup id).isSome)

theorem projectPageItem_touched (s : Database × Cache) (item : ProjectItem) :
    Cache.Touched s.2 (item.project.id.getD 0) (item.project.id.getD 0) (projectPageItem s item).2.2 := by
  unfold projectPageItem bxProjectSyncItem
  dsimp only
  split
  · exact .checked _
  split
  · exact .checked _
  split
  · exact .checked _
  split
  · exact .checked _
  split
  · exact .checked _
  · exact .stored _ _

end BxSync
