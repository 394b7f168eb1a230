import BxSync.Connection

/-! The loops of the four data threads over their connection (`main.c`), with the walks of `random_item_thread`
    (`bxobjects/taxes.c`, `bxobjects/sync_more.c`) and of `contact_sector_thread` (`bxobjects/contact_sector.c`).

    Of the walks that set no flag and fill no cache only the error is kept. -/

namespace BxSync

inductive DataThread
  | chain
  | randomItem
  | contactSector
  | file
deriving DecidableEq, Repr

/-! ### random_item_thread -/

/-- The errors its walks come to over an open connection. -/
structure RandomItemAnswers where
  activeTaxes : BXillError
  inactiveTaxes : BXillError
  records : List BXillError
  kbSales : List BXillError

/-- `bx_walk_pages`, as far as its error goes. -/
def walkError (connected : Bool) (error : BXillError) : BXillError := if connected then error else .errorGeneric

/-- `bx_taxes_walk_item`. -/
def bxTaxesWalkItem (connected : Bool) (a : RandomItemAnswers) : BXillError :=
  if walkError connected a.activeTaxes ≠ .noError then walkError connected a.activeTaxes
  else walkError connected a.inactiveTaxes

/-- `keep_going`. -/
def keepGoing (error : BXillError) : BXillError := if error = .errorSQLReconnect then error else .noError

/-- `bx_records_walk_more` and `bx_kb_sales_walk_items`: the walks one after the other. -/
def walkMore (connected : Bool) : List BXillError → BXillError
  | [] => .noError
  | error :: rest =>
    if keepGoing (walkError connected error) ≠ .noError then keepGoing (walkError connected error) else walkMore connected rest

/-- The walks of an iteration of `random_item_thread`. -/
def randomItemWalks (connected : Bool) (a : RandomItemAnswers) : BXillError :=
  let more (error : BXillError) (walks : List BXillError) : BXillError :=
    if error ≠ .errorSQLReconnect ∧ walkMore connected walks ≠ .noError then walkMore connected walks else error
  more (more (bxTaxesWalkItem connected a) a.records) a.kbSales

/-! ### contact_sector_thread -/

structure ContactSectorAnswers where
  /-- The request is answered with status 200. -/
  answered : Bool
  /-- What the statements come to. -/
  statements : BXillError

/-- `bx_contact_sector_walk_items`. It prepares a statement without a look at the connection, and what the client
    library does with NULL there is not defined. -/
def bxContactSectorWalkItems (connected : Bool) (a : ContactSectorAnswers) : Option BXillError :=
  if !a.answered then some .errorGeneric
  else if connected then some a.statements
  else none

/-! ### The loops -/

namespace DataThread

/-- The prune queries of a thread. -/
abbrev Query : DataThread → Type
  | chain => Resource
  | randomItem => Empty
  | contactSector => Empty
  | file => Unit

/-- What a thread keeps between its iterations, apart from the connection. -/
abbrev State : DataThread → Type
  | chain => ChainState
  | randomItem => Unit
  | contactSector => Unit
  | file => FileState

/-- What an iteration meets, apart from the connection. -/
abbrev Input : DataThread → Type
  | chain => ChainStepInput
  | randomItem => RandomItemAnswers
  | contactSector => ContactSectorAnswers
  | file => FileInput

instance : (thread : DataThread) → DecidableEq thread.Query
  | chain => inferInstanceAs (DecidableEq Resource)
  | randomItem => inferInstanceAs (DecidableEq Empty)
  | contactSector => inferInstanceAs (DecidableEq Empty)
  | file => inferInstanceAs (DecidableEq Unit)

def queries : (thread : DataThread) → List thread.Query
  | chain => [.contact, .project, .invoice]
  | randomItem => []
  | contactSector => []
  | file => [()]

/-- The walks and the prunes of an iteration: their error, if they come to one, and what they leave. -/
def work : (thread : DataThread) → thread.State → Link thread.Query → thread.Input → Option BXillError × thread.State
  | chain, s, l, i =>
    let step := chainStep s (ChainThread.stepInput ⟨s, l⟩ ⟨i, ⟨false, none, fun _ => false⟩⟩)
    (some step.1.prunes.error, step.2)
  | randomItem, _, l, i => (some (randomItemWalks l.conn.isSome i), ())
  | contactSector, _, l, i => (bxContactSectorWalkItems l.conn.isSome i, ())
  | file, s, l, i =>
    let step := fileStep s (FileThread.stepInput ⟨s, l⟩ ⟨i, ⟨false, none, fun _ => false⟩⟩)
    (some step.1.error, step.2)

end DataThread

/-- What one turn of a loop was: the link before it, the error of its walks and prunes, and what its error handling
    met. -/
structure Iteration (R : Type) where
  pre : Link R
  error : Option BXillError
  answers : LinkAnswers R

/-- One turn of the loop of a thread, while it runs. -/
def threadStep (thread : DataThread) (t : thread.State × Link thread.Query) (i : thread.Input × LinkAnswers thread.Query) :
    Iteration thread.Query × (thread.State × Link thread.Query) :=
  let worked := thread.work t.1 t.2 i.1
  ({ pre := t.2, error := worked.1, answers := i.2 },
    if t.2.running then
      (worked.2,
        match worked.1 with
        | some error => afterIteration thread.queries error t.2 i.2
        | none => { t.2 with running := false })
    else t)

/-- The loop of `chain_thread`. -/
theorem threadStep_chain (t : ChainThread) (i : ChainThreadInput) :
    (threadStep .chain (t.chain, t.link) (i.step, i.link)).2 = ((chainThreadStep t i).2.chain, (chainThreadStep t i).2.link) := by
  unfold threadStep chainThreadStep
  dsimp only
  split <;> rfl

/-- The loop of `file_thread`. -/
theorem threadStep_file (t : FileThread) (i : FileThreadInput) :
    (threadStep .file (t.files, t.link) (i.step, i.link)).2 = ((fileThreadStep t i).2.files, (fileThreadStep t i).2.link) := by
  unfold threadStep fileThreadStep
  dsimp only
  split <;> rfl

end BxSync
