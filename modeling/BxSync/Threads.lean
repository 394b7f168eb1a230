import BxSync.Chain
import BxSync.File

/-! The two threads that prune (`main.c`): one iteration of the loop of `chain_thread` and of `file_thread`,
    first the work on the caches and then the connection and the statements prepared on it. -/

namespace BxSync

/-- Whether a prune query is there, and the outcomes of its DELETEs. -/
structure PruneAnswers where
  prepared : Bool
  deletes : List Exec
deriving DecidableEq, Repr

/-! ### chain_thread -/

inductive Resource
  | contact
  | project
  | invoice
deriving DecidableEq, Repr

structure ChainStepInput where
  sync : ChainInput
  /-- The configured prune drift. -/
  drift : Int
  contactPrune : PruneAnswers
  projectPrune : PruneAnswers
  invoicePrune : PruneAnswers

/-- The state between the prunes of an iteration. -/
structure PruneState where
  error : BXillError
  state : ChainState
  /-- The resources `bx_prune_items` was called for. -/
  called : List Resource
  contactLog : List Event
  projectLog : List Event
  invoiceLog : List Event

def pruneContacts (i : ChainStepInput) (flag : Bool) (p : PruneState) : PruneState :=
  if p.error = .noError ∧ flag then
    let r := bxPruneItems Database.deleteContact i.contactPrune.prepared i.drift i.contactPrune.deletes
      p.state.db p.state.contacts
    { p with
      error := r.1
      state := { p.state with db := r.2.1, contacts := r.2.2.1 }
      called := p.called ++ [.contact]
      contactLog := r.2.2.2 }
  else p

def pruneProjects (i : ChainStepInput) (flag : Bool) (p : PruneState) : PruneState :=
  if p.error = .noError ∧ flag then
    let r := bxPruneItems Database.deleteProject i.projectPrune.prepared i.drift i.projectPrune.deletes
      p.state.db p.state.projects
    { p with
      error := r.1
      state := { p.state with db := r.2.1, projects := r.2.2.1 }
      called := p.called ++ [.project]
      projectLog := r.2.2.2 }
  else p

def pruneInvoices (i : ChainStepInput) (flag : Bool) (p : PruneState) : PruneState :=
  if p.error = .noError ∧ flag then
    let r := bxPruneItems Database.deleteInvoice i.invoicePrune.prepared i.drift i.invoicePrune.deletes
      p.state.db p.state.invoices
    { p with
      error := r.1
      state := { p.state with db := r.2.1, invoices := r.2.2.1 }
      called := p.called ++ [.invoice]
      invoiceLog := r.2.2.2 }
  else p

/-- The prunes after a sync, each only while there is no error. -/
def pruneStep (i : ChainStepInput) (out : ChainOut) : PruneState :=
  pruneInvoices i out.result.pruneInvoice (pruneProjects i out.result.pruneProject
    (pruneContacts i out.result.pruneContact
      { error := out.result.error
        state := out.state
        called := []
        contactLog := []
        projectLog := []
        invoiceLog := [] }))

/-- The version bumps at the end of an iteration. -/
def bumpStep (r : BXChainResult) (s : ChainState) : ChainState :=
  { s with
    contacts := if r.bumpContact then cacheNextVersion s.contacts else s.contacts
    projects := if r.bumpProject then cacheNextVersion s.projects else s.projects
    invoices := if r.bumpInvoice then cacheNextVersion s.invoices else s.invoices }

/-- What one iteration of `chain_thread` did. -/
structure ChainCall where
  pre : ChainState
  input : ChainStepInput
  out : ChainOut
  prunes : PruneState
  post : ChainState

/-- The sync, the prunes and the bumps of one iteration of `chain_thread`. -/
def chainStep (s : ChainState) (i : ChainStepInput) : ChainCall × ChainState :=
  let out := bxChainSync s i.sync
  let prunes := pruneStep i out
  let post := bumpStep out.result prunes.state
  ({ pre := s, input := i, out, prunes, post }, post)

/-! What the prunes and the bumps leave alone. -/

theorem pruneContacts_frame (i : ChainStepInput) (flag : Bool) (p : PruneState) :
    (pruneContacts i flag p).state =
      { p.state with
        db := (pruneContacts i flag p).state.db
        contacts := (pruneContacts i flag p).state.contacts } := by
  unfold pruneContacts
  split <;> rfl

theorem pruneProjects_frame (i : ChainStepInput) (flag : Bool) (p : PruneState) :
    (pruneProjects i flag p).state =
      { p.state with
        db := (pruneProjects i flag p).state.db
        projects := (pruneProjects i flag p).state.projects } := by
  unfold pruneProjects
  split <;> rfl

theorem pruneInvoices_frame (i : ChainStepInput) (flag : Bool) (p : PruneState) :
    (pruneInvoices i flag p).state =
      { p.state with
        db := (pruneInvoices i flag p).state.db
        invoices := (pruneInvoices i flag p).state.invoices } := by
  unfold pruneInvoices
  split <;> rfl

/-- The prunes change the tables and the caches only. -/
theorem pruneStep_frame (i : ChainStepInput) (out : ChainOut) :
    (pruneStep i out).state =
      { out.state with
        db := (pruneStep i out).state.db
        contacts := (pruneStep i out).state.contacts
        projects := (pruneStep i out).state.projects
        invoices := (pruneStep i out).state.invoices } := by
  unfold pruneStep
  rw [pruneInvoices_frame, pruneProjects_frame, pruneContacts_frame]

theorem pruneStep_contacts (i : ChainStepInput) (out : ChainOut) (h : out.result.pruneContact = false) :
    (pruneStep i out).state.contacts = out.state.contacts := by
  unfold pruneStep
  rw [pruneInvoices_frame, pruneProjects_frame]
  simp [pruneContacts, h]

theorem pruneStep_projects (i : ChainStepInput) (out : ChainOut) (h : out.result.pruneProject = false) :
    (pruneStep i out).state.projects = out.state.projects := by
  unfold pruneStep
  rw [pruneInvoices_frame]
  simp only [pruneProjects, h, Bool.false_eq_true, and_false, if_false]
  rw [pruneContacts_frame]

theorem pruneStep_invoices (i : ChainStepInput) (out : ChainOut) (h : out.result.pruneInvoice = false) :
    (pruneStep i out).state.invoices = out.state.invoices := by
  unfold pruneStep
  simp only [pruneInvoices, h, Bool.false_eq_true, and_false, if_false]
  rw [pruneProjects_frame, pruneContacts_frame]

theorem chainStep_cursors (s : ChainState) (i : ChainStepInput) :
    (chainStep s i).2.cursors = (bxChainSync s i.sync).state.cursors := by
  unfold chainStep bumpStep
  dsimp only
  rw [pruneStep_frame]

theorem chainStep_contactFromZero (s : ChainState) (i : ChainStepInput) :
    (chainStep s i).2.contactFromZero = (bxChainSync s i.sync).state.contactFromZero := by
  unfold chainStep bumpStep
  dsimp only
  rw [pruneStep_frame]

theorem chainStep_invoiceFromZero (s : ChainState) (i : ChainStepInput) :
    (chainStep s i).2.invoiceFromZero = (bxChainSync s i.sync).state.invoiceFromZero := by
  unfold chainStep bumpStep
  dsimp only
  rw [pruneStep_frame]

theorem chainStep_contacts (s : ChainState) (i : ChainStepInput) (hp : (bxChainSync s i.sync).result.pruneContact = false)
    (hb : (bxChainSync s i.sync).result.bumpContact = false) :
    (chainStep s i).2.contacts = (bxChainSync s i.sync).state.contacts := by
  unfold chainStep bumpStep
  dsimp only
  rw [hb, pruneStep_contacts i _ hp]
  rfl

theorem chainStep_projects (s : ChainState) (i : ChainStepInput) (hp : (bxChainSync s i.sync).result.pruneProject = false)
    (hb : (bxChainSync s i.sync).result.bumpProject = false) :
    (chainStep s i).2.projects = (bxChainSync s i.sync).state.projects := by
  unfold chainStep bumpStep
  dsimp only
  rw [hb, pruneStep_projects i _ hp]
  rfl

theorem chainStep_invoices (s : ChainState) (i : ChainStepInput) (hp : (bxChainSync s i.sync).result.pruneInvoice = false)
    (hb : (bxChainSync s i.sync).result.bumpInvoice = false) :
    (chainStep s i).2.invoices = (bxChainSync s i.sync).state.invoices := by
  unfold chainStep bumpStep
  dsimp only
  rw [hb, pruneStep_invoices i _ hp]
  rfl

/-! ### file_thread -/

structure FileState where
  db : Database
  files : Cache

structure FileInput where
  connected : Bool
  pages : List (Option (PageReply FileItem))
  drift : Int
  prune : PruneAnswers

/-- What one iteration of `file_thread` did. -/
structure FileCall where
  pre : FileState
  input : FileInput
  walk : WalkResult (Database × Cache) Unit
  error : BXillError
  /-- `bx_prune_items` was called. -/
  pruned : Bool
  log : List Event
  post : FileState

/-- The walk, the prune and the bump of one iteration of `file_thread`. -/
def fileStep (s : FileState) (i : FileInput) : FileCall × FileState :=
  let walk := fileWalker.walkPagesFrom i.connected i.pages 0 (s.db, s.files) ()
  let call : FileCall :=
    if walk.error = .noError then
      let r := bxPruneItems Database.deleteFile i.prune.prepared i.drift i.prune.deletes walk.store.1 walk.store.2
      { pre := s, input := i, walk, error := r.1, pruned := true, log := r.2.2.2
        post := { db := r.2.1, files := cacheNextVersion r.2.2.1 } }
    else
      { pre := s, input := i, walk, error := walk.error, pruned := false, log := []
        post := { db := walk.store.1, files := cacheNextVersion walk.store.2 } }
  (call, call.post)

/-! ### Answers without a failure

    For runs on given inputs: what a database that works answers, and an iteration that meets nothing. -/

def ContactAnswers.quiet : ContactAnswers where
  user := ⟨.answered, true, .noError, .answered, true⟩
  owner := ⟨.answered, true, .noError, .answered, true⟩
  persist := .ran false false
  unlinkGroups := .ran false false
  linkGroups := []
  extra := .noError

def ProjectAnswers.quiet : ProjectAnswers where
  contact := .answered
  persist := .ran false false
  extra := .noError

def InvoiceAnswers.quiet : InvoiceAnswers where
  detail := none
  contact := .answered
  project := .answered
  persist := .ran false false
  positions := []
  extra := .noError

def FileAnswers.quiet : FileAnswers where
  select := .answered
  write := .ran false false
  download := .noError

/-- A page whose checkpoint is saved. -/
def savedPage {ρ : Type} (rows : List ρ) : Option (PageReply ρ) :=
  some { httpCode := 200, rows := some rows, save := .written }

/-- A sync without an answer to a request. -/
def ChainInput.silent : ChainInput where
  connected := true
  contacts := []
  projects := []
  invoices := []
  missed := []
  save := .written

def ChainStepInput.of (sync : ChainInput) : ChainStepInput where
  sync := sync
  drift := 1
  contactPrune := ⟨true, []⟩
  projectPrune := ⟨true, []⟩
  invoicePrune := ⟨true, []⟩

end BxSync
