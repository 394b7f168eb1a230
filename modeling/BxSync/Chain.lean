import BxSync.Invoice
import BxSync.Prune

/-! The sync chain (`bx_chain.c`): contacts, then projects, then invoices, one phase for each call. The
    cursor is kept in memory and in a row of the database, and the chain resumes from the row. -/

namespace BxSync

/-- The cursor in memory and the saved row. -/
structure Cursors where
  memory : BXChainCursor
  row : BXChainCursor
deriving DecidableEq, Repr

structure ChainState where
  db : Database
  contacts : Cache
  projects : Cache
  invoices : Cache
  cursors : Cursors
  /-- Active contacts in this process started at offset 0 and finished. -/
  contactFromZero : Bool
  /-- Invoice list in this process started at offset 0 and finished. Cleared when that list starts and when
      the chain returns to contacts. -/
  invoiceFromZero : Bool

structure BXChainResult where
  error : BXillError
  pruneContact : Bool
  pruneProject : Bool
  pruneInvoice : Bool
  bumpContact : Bool
  bumpProject : Bool
  bumpInvoice : Bool
  pause : Bool
deriving DecidableEq, Repr

/-- The answers one call of `bx_chain_sync` meets. Only those of the current phase are used. -/
structure ChainInput where
  connected : Bool
  contacts : List (Option (PageReply ContactItem))
  projects : List (Option (PageReply ProjectItem))
  invoices : List (Option (PageReply InvoiceItem))
  missed : List MissedReply
  /-- The save of the next phase. -/
  save : Save

structure ChainOut where
  result : BXChainResult
  state : ChainState
  log : List Event

/-- `bx_chain_init`: the process starts from the row, without a finished list. -/
def bxChainInit (db : Database) (contacts projects invoices : Cache) (row : BXChainCursor) : ChainState where
  db := db
  contacts := contacts
  projects := projects
  invoices := invoices
  cursors := { memory := normalize row, row := row }
  contactFromZero := false
  invoiceFromZero := false

/-! ### Saving the cursor -/

/-- The row a save writes, as the page callback reports it. -/
def Save.wrote (s : Save) (next : BXChainCursor) : Option BXChainCursor :=
  match s with
  | .failed => none
  | _ => some next

/-- `checkpoint`: the row first, then the memory. -/
def checkpoint (phase : BXChainPhase) (k : Cursors) (offset : Nat) (save : Save) :
    BXillError × Cursors × Option BXChainCursor :=
  let next := normalize { phase, offset }
  let row := save.row k.row next
  if save.ok then (.noError, { memory := next, row }, save.wrote next)
  else (.errorGeneric, { k with row }, save.wrote next)

/-- `on_validated_page`. -/
def onValidatedPage (phase : BXChainPhase) (k : Cursors) (nextOffset : Nat) (save : Save) :
    BXillError × Cursors × Option BXChainCursor :=
  if intMax < nextOffset then (.errorGeneric, k, none) else checkpoint phase k nextOffset save

/-- `advance_phase`: the memory first, so that a retry does not list the same pages again. -/
def advancePhase (k : Cursors) (phase : BXChainPhase) (save : Save) : BXillError × Cursors × Option BXChainCursor :=
  let next := normalize { phase, offset := 0 }
  (if save.ok then .noError else .errorGeneric, { memory := next, row := save.row k.row next }, save.wrote next)

def failResource (error : BXillError) (contact project invoice : Bool) : BXChainResult where
  error := error
  pruneContact := false
  pruneProject := false
  pruneInvoice := false
  bumpContact := contact
  bumpProject := project
  bumpInvoice := invoice
  pause := false

/-- `finish_resource`. The log is the one of the phase so far. -/
def finishResource (s : ChainState) (log : List Event) (next : BXChainPhase) (save : Save)
    (contact project invoice : Bool) : ChainOut :=
  let advanced := advancePhase s.cursors next save
  { result :=
      { failResource advanced.1 contact project invoice with pause := advanced.1 = .noError }
    state := { s with cursors := advanced.2.1 }
    log := log ++ advanced.2.2.toList.map Event.saved }

/-! ### The phases -/

/-- The walk of a contact phase, and the state it leaves. -/
def walkContacts (s : ChainState) (i : ChainInput) (archived : Bool) (phase : BXChainPhase) :
    WalkResult (Database × Cache) Cursors :=
  (contactWalker archived (onValidatedPage phase)).walkPagesFrom true i.contacts s.cursors.memory.offset
    (s.db, s.contacts) s.cursors

def ChainState.afterContacts (s : ChainState) (walk : WalkResult (Database × Cache) Cursors) : ChainState :=
  { s with db := walk.store.1, contacts := walk.store.2, cursors := walk.cursor }

def syncContactActive (s : ChainState) (i : ChainInput) : ChainOut :=
  let s := { s with contactFromZero := false }
  let fromZero := s.cursors.memory.offset = 0
  let walk := walkContacts s i false .contactActive
  let s := s.afterContacts walk
  if walk.error ≠ .noError then { result := failResource walk.error true false false, state := s, log := walk.log }
  else
    let s := { s with contactFromZero := fromZero }
    let out := finishResource s walk.log .contactArchived i.save false false false
    -- Archived is the rest of this resource. Bump only if the row failed.
    { out with result := { out.result with bumpContact := out.result.error ≠ .noError, pause := false } }

def syncContactArchived (s : ChainState) (i : ChainInput) : ChainOut :=
  let walk := walkContacts s i true .contactArchived
  let s := s.afterContacts walk
  if walk.error ≠ .noError then { result := failResource walk.error true false false, state := s, log := walk.log }
  else
    let out := finishResource { s with contactFromZero := false } walk.log .project i.save true false false
    { out with result := { out.result with pruneContact := out.result.error = .noError ∧ s.contactFromZero } }

/-- The walk of the project phase. -/
def walkProjects (s : ChainState) (i : ChainInput) : WalkResult (Database × Cache) Cursors :=
  (projectWalker (onValidatedPage .project)).walkPagesFrom true i.projects s.cursors.memory.offset
    (s.db, s.projects) s.cursors

def syncProject (s : ChainState) (i : ChainInput) : ChainOut :=
  let fromZero := s.cursors.memory.offset = 0
  let walk := walkProjects s i
  let s := { s with db := walk.store.1, projects := walk.store.2, cursors := walk.cursor }
  if walk.error ≠ .noError then { result := failResource walk.error false true false, state := s, log := walk.log }
  else
    let out := finishResource s walk.log .invoiceList i.save false true false
    { out with result := { out.result with pruneProject := out.result.error = .noError ∧ fromZero } }

/-- The walk of the invoice list. -/
def walkInvoices (s : ChainState) (i : ChainInput) : WalkResult (Database × Cache) Cursors :=
  (invoiceWalker (onValidatedPage .invoiceList)).walkPagesFrom true i.invoices s.cursors.memory.offset
    (s.db, s.invoices) s.cursors

def syncInvoiceList (s : ChainState) (i : ChainInput) : ChainOut :=
  let s := { s with invoiceFromZero := false }
  let fromZero := s.cursors.memory.offset = 0
  let walk := walkInvoices s i
  let s := { s with db := walk.store.1, invoices := walk.store.2, cursors := walk.cursor }
  if walk.error ≠ .noError then { result := failResource walk.error false false true, state := s, log := walk.log }
  else if ¬fromZero then
    -- Pages before this offset were not seen. Missed-ids would GET them.
    finishResource s walk.log .contactActive i.save false false true
  else
    let out := finishResource { s with invoiceFromZero := true } walk.log .invoiceMissed i.save false false false
    { out with result := { out.result with bumpInvoice := out.result.error ≠ .noError, pause := false } }

def syncInvoiceMissed (s : ChainState) (i : ChainInput) : ChainOut :=
  let fetched := bxInvoiceFetchMissed i.missed s.db s.invoices
  let s := { s with db := fetched.2.1, invoices := fetched.2.2.1 }
  if fetched.1 ≠ .noError then
    { result := failResource fetched.1 false false true, state := s, log := fetched.2.2.2 }
  else
    let out := finishResource { s with invoiceFromZero := false } fetched.2.2.2 .contactActive i.save false false true
    { out with result := { out.result with pruneInvoice := out.result.error = .noError ∧ s.invoiceFromZero } }

/-- `bx_chain_sync`. -/
def bxChainSync (s : ChainState) (i : ChainInput) : ChainOut :=
  if i.connected then
    match s.cursors.memory.phase with
    | .contactActive => syncContactActive s i
    | .contactArchived => syncContactArchived s i
    | .project => syncProject s i
    | .invoiceList => syncInvoiceList s i
    | .invoiceMissed => syncInvoiceMissed s i
  else { result := failResource .errorGeneric false false false, state := s, log := [] }

section

variable {s : ChainState} {i : ChainInput}

theorem bxChainSync_disconnected (hc : i.connected = false) :
    bxChainSync s i = { result := failResource .errorGeneric false false false, state := s, log := [] } := by
  simp [bxChainSync, hc]

variable (hc : i.connected = true)

include hc

theorem bxChainSync_contactActive (hp : s.cursors.memory.phase = .contactActive) :
    bxChainSync s i = syncContactActive s i := by
  simp [bxChainSync, hc, hp]

theorem bxChainSync_contactArchived (hp : s.cursors.memory.phase = .contactArchived) :
    bxChainSync s i = syncContactArchived s i := by
  simp [bxChainSync, hc, hp]

theorem bxChainSync_project (hp : s.cursors.memory.phase = .project) : bxChainSync s i = syncProject s i := by
  simp [bxChainSync, hc, hp]

theorem bxChainSync_invoiceList (hp : s.cursors.memory.phase = .invoiceList) :
    bxChainSync s i = syncInvoiceList s i := by
  simp [bxChainSync, hc, hp]

theorem bxChainSync_invoiceMissed (hp : s.cursors.memory.phase = .invoiceMissed) :
    bxChainSync s i = syncInvoiceMissed s i := by
  simp [bxChainSync, hc, hp]

end

end BxSync
