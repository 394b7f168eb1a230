import BxSync.Project

/-! Invoices (`bxobjects/invoice.c`, `bxobjects/position.c`): one row of the invoice list with its detail and
    its positions, the walk over the list, and the requests by id of what the list missed. -/

namespace BxSync

/-- A decoded position: its id and the checksum of its fields. -/
structure BXPosition where
  id : Option Nat
  checksum : Nat
deriving DecidableEq, Repr

/-- The value under the key `positions` of an object. -/
inductive Positions
  | absent
  | notArray
  | array (positions : List BXPosition)
deriving DecidableEq, Repr

/-- What the sync reads of a decoded invoice. Its checksum does not cover the positions. -/
structure BXObjectInvoice where
  id : Option Nat
  checksum : Nat
  contactId : Option Nat
  projectId : Option Nat
  positions : Positions
deriving DecidableEq, Repr

/-- The answer to a GET by id. Any JSON body decodes, one without the fields of an invoice to unset ones. -/
structure InvoiceReply where
  httpCode : Nat
  decoded : Option BXObjectInvoice
deriving DecidableEq, Repr

/-- The answers to `persist_one_position`. -/
structure PositionAnswers where
  select : Query
  write : Exec
deriving DecidableEq, Repr

structure InvoiceAnswers where
  detail : Option InvoiceReply
  contact : Query
  project : Query
  persist : Exec
  positions : List PositionAnswers
  extra : BXillError
deriving DecidableEq, Repr

/-- An invoice object and the answers its sync meets. -/
structure InvoiceItem where
  invoice : BXObjectInvoice
  answers : InvoiceAnswers
deriving DecidableEq, Repr

/-! ### Positions -/

/-- `persist_one_position` for `invoice_position`. -/
def persistOnePosition (db : Database) (invoiceId : Nat) (position : BXPosition) (a : PositionAnswers) :
    BXillError × Database :=
  match a.select with
  | .failed needReconnect => (bxDatabaseQueryError needReconnect, db)
  | .answered =>
    let known := position.id.bind fun id => db.invoicePosition.lookup (id, invoiceId)
    if known = some position.checksum then (.noError, db)
    else
      let orphan := (db.invoice.lookup invoiceId).isNone
      let stmt := a.write.run db.invoicePosition fun fk cv =>
        match position.id with
        | none => (none, db.invoicePosition)
        | some id =>
          if known.isNone then Table.insertRow db.invoicePosition (id, invoiceId) position.checksum (fk || orphan) cv
          else Table.update db.invoicePosition (some (id, invoiceId)) position.checksum fk cv
      let db := { db with invoicePosition := stmt.2 }
      match stmt.1 with
      | .failed needReconnect => (bxDatabaseQueryError needReconnect, db)
      | .done _ => (.noError, db)

/-- The loop of `bx_kb_positions_store`, up to the first error. -/
def storePositions (invoiceId : Nat) : List BXPosition → List PositionAnswers → Database → BXillError × Database
  | [], _, db => (.noError, db)
  | _ :: _, [], db => (.errorGeneric, db)
  | position :: positions, a :: answers, db =>
    let persisted := persistOnePosition db invoiceId position a
    if persisted.1 ≠ .noError then persisted else storePositions invoiceId positions answers persisted.2

/-- `bx_invoice_positions_store`. What is no array holds nothing to store. -/
def bxInvoicePositionsStore (db : Database) (invoiceId : Nat) (positions : Positions) (answers : List PositionAnswers) :
    BXillError × Database :=
  match positions with
  | .absent => (.noError, db)
  | .notArray => (.noError, db)
  | .array positions => storePositions invoiceId positions answers db

/-! ### One invoice -/

/-- The object that is stored: the detail when the list object has no positions and the GET by id
    answered with a body of any status. -/
def invoiceObject (item : InvoiceItem) : BXObjectInvoice :=
  match item.invoice.positions with
  | .absent => (item.answers.detail.bind InvoiceReply.decoded).getD item.invoice
  | _ => item.invoice

/-- The parents of an invoice: an error, or whether it can be stored. -/
def invoiceParentsPresent (db : Database) (invoice : BXObjectInvoice) (a : InvoiceAnswers) : BXillError × Bool :=
  let contact :=
    if invoice.contactId.getD 0 = 0 then (.noError, true)
    else bxContactIsInDatabase db (invoice.contactId.getD 0) a.contact
  if contact.1 ≠ .noError then contact
  else if !contact.2 then (.noError, false)
  else if invoice.projectId.getD 0 = 0 then (.noError, true)
  else bxProjectIsInDatabase db (invoice.projectId.getD 0) a.project

/-- The INSERT IGNORE or the UPDATE of an invoice. A project of 0 is stored as NULL. -/
def persistInvoice (state : CacheState) (db : Database) (invoice : BXObjectInvoice) (a : InvoiceAnswers) :
    Stmt × Database :=
  let projectId := invoice.projectId.filter (· ≠ 0)
  let row := { checksum := invoice.checksum, contactId := invoice.contactId, projectId }
  let orphan := (invoice.contactId.any fun id => (db.contact.lookup id).isNone) ||
    (projectId.any fun id => (db.project.lookup id).isNone)
  let stmt := a.persist.run db.invoice fun fk cv =>
    if state = .cacheNotSet then insertIgnoreId db.invoice invoice.id row (fk || orphan) cv
    else Table.update db.invoice invoice.id row (fk || orphan) cv
  (stmt.1, { db with invoice := stmt.2 })

/-- The positions and the extras of an invoice whose row is written. The cache is set between the two. -/
def storeInvoiceParts (db : Database) (c : Cache) (invoice : BXObjectInvoice) (a : InvoiceAnswers) :
    BXillError × Database × Cache :=
  let stored := bxInvoicePositionsStore db (invoice.id.getD 0) invoice.positions a.positions
  if stored.1 = .noError then
    (if a.extra = .errorSQLReconnect then .errorSQLReconnect else .noError, stored.2,
      cacheSetItem c (invoice.id.getD 0) invoice.checksum)
  else (if stored.1 = .errorSQLReconnect then .errorSQLReconnect else .noError, stored.2, c)

/-- `_bx_invoice_sync_item`. The cache is asked about the list object, and set for the object that was
    stored. -/
def bxInvoiceSyncItem (db : Database) (c : Cache) (item : InvoiceItem) : BXillError × Database × Cache :=
  let checked := cacheCheckItem c (item.invoice.id.getD 0) item.invoice.checksum
  if checked.1 = .cacheOk then (.noError, db, checked.2)
  else
    let invoice := invoiceObject item
    let parents := invoiceParentsPresent db invoice item.answers
    if parents.1 ≠ .noError then (parents.1, db, checked.2)
    else if !parents.2 then (.noError, db, checked.2)
    else
      match persistInvoice checked.1 db invoice item.answers with
      | (.failed needReconnect, db) => (bxDatabaseQueryError needReconnect, db, checked.2)
      | (.done warned, db) =>
        if !bxDatabasePersistOk (.done warned) then (.noError, db, checked.2)
        else storeInvoiceParts db checked.2 invoice item.answers

/-- `invoice_page_item`. -/
def invoicePageItem (s : Database × Cache) (item : InvoiceItem) : BXillError × Database × Cache :=
  bxInvoiceSyncItem s.1 s.2 item

def invoiceWalker {κ : Type} (onPage : κ → Nat → Save → BXillError × κ × Option BXChainCursor) :
    Walker (Database × Cache) κ InvoiceItem where
  list := .invoice
  rowId item := item.invoice.id
  sync := invoicePageItem
  onPage

/-! ### What the list missed -/

/-- The answer to the GET of one missed id, and the answers the sync of its object meets. -/
structure MissedReply where
  reply : Option InvoiceReply
  answers : InvoiceAnswers
deriving DecidableEq, Repr

/-- The loop of `invoice_fetch_missed`. When no answer is left the request returns NULL. -/
def fetchMissed : List MissedReply → CacheIter → Database → Cache → BXillError × Database × Cache × List Event
  | replies, iter, db, c =>
    match cacheIterNextPrunableId c iter 1, replies with
    | (none, _), _ => (.noError, db, c, [.fetchedMissed])
    | (some id, _), [] => (.errorNet, db, c, [.got id none none])
    | (some id, iter), missed :: rest =>
      match missed.reply with
      | none => (.errorNet, db, c, [.got id none none])
      | some reply =>
        let got := Event.got id (some reply.httpCode) (reply.decoded.map fun invoice => invoice.id.getD 0)
        if reply.httpCode = 404 then
          let others := fetchMissed rest iter db c
          (others.1, others.2.1, others.2.2.1, got :: others.2.2.2)
        else
          match reply.decoded with
          | none => (.errorNet, db, c, [got])
          | some invoice =>
            if reply.httpCode ≠ 200 then (.errorNet, db, c, [got])
            else
              let synced := bxInvoiceSyncItem db c { invoice, answers := missed.answers }
              if synced.1 ≠ .noError then (synced.1, synced.2.1, synced.2.2, [got])
              else
                let others := fetchMissed rest iter synced.2.1 synced.2.2
                (others.1, others.2.1, others.2.2.1, got :: .loaded id :: others.2.2.2)

/-- `bx_invoice_fetch_missed`. -/
def bxInvoiceFetchMissed (replies : List MissedReply) (db : Database) (c : Cache) :
    BXillError × Database × Cache × List Event :=
  fetchMissed replies (cacheIterInit c) db c

/-! ### The cache after one invoice -/

theorem invoicePageItem_touched (s : Database × Cache) (item : InvoiceItem) :
    Cache.Touched s.2 (item.invoice.id.getD 0) ((invoiceObject item).id.getD 0) (invoicePageItem s item).2.2 := by
  unfold invoicePageItem bxInvoiceSyncItem
  dsimp only
  split
  · exact .checked _
  split
  · exact .checked _
  split
  · exact .checked _
  split
  · exact .checked _
  split
  · exact .checked _
  · unfold storeInvoiceParts
    dsimp only
    split
    · exact .stored _ _
    · exact .checked _

end BxSync
