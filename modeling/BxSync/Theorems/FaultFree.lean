import BxSync.Lib.Machine
import BxSync.Threads

/-! A cycle of the chain without a fault, against the plain composition of the four walks and the call for the
    missed invoices. -/

namespace BxSync

open Machine

/-! ### Requests -/

inductive ChainRequest
  | page (list : Listing) (offset : Nat)
  | missed
deriving DecidableEq, Repr

/-- The list requests of a log, and the calls for the missed invoices. -/
def chainRequests (log : List Event) : List ChainRequest :=
  log.filterMap fun
    | .showed list offset _ => some (.page list offset)
    | .fetchedMissed => some .missed
    | _ => none

@[simp] theorem chainRequests_append (log log' : List Event) :
    chainRequests (log ++ log') = chainRequests log ++ chainRequests log' := List.filterMap_append

section

variable (list : Listing) (offset id : Nat) (ids : List Nat) (code objectId : Option Nat) (log : List Event)

@[simp] theorem chainRequests_nil : chainRequests [] = [] := rfl
@[simp] theorem chainRequests_showed :
    chainRequests (.showed list offset ids :: log) = .page list offset :: chainRequests log := rfl
@[simp] theorem chainRequests_accepted : chainRequests (.accepted list offset :: log) = chainRequests log := rfl
@[simp] theorem chainRequests_saved (c : BXChainCursor) : chainRequests (.saved c :: log) = chainRequests log := rfl
@[simp] theorem chainRequests_walked : chainRequests (.walked list :: log) = chainRequests log := rfl
@[simp] theorem chainRequests_got : chainRequests (.got id code objectId :: log) = chainRequests log := rfl
@[simp] theorem chainRequests_loaded : chainRequests (.loaded id :: log) = chainRequests log := rfl
@[simp] theorem chainRequests_fetchedMissed : chainRequests (.fetchedMissed :: log) = .missed :: chainRequests log := rfl

end

@[simp] theorem chainRequests_map_saved (o : Option BXChainCursor) : chainRequests (o.toList.map Event.saved) = [] := by
  cases o <;> rfl

theorem chainRequests_handed {log : List Event} {list : Listing} (h : ∀ e ∈ log, ∃ id, e = .handed list id) :
    chainRequests log = [] := by
  refine List.filterMap_eq_nil_iff.mpr fun e he => ?_
  obtain ⟨id, rfl⟩ := h e he
  rfl

/-- The requests of a walk over a number of pages that are not empty. -/
def pageRequests (list : Listing) (pages : Nat) : List ChainRequest :=
  (List.range' 0 (pages + 1) bxillListLimit).map (.page list)

/-! ### A walk -/

/-- What a server with these pages answers, when no save fails. -/
def pageAnswers {ρ : Type} (pages : List (List ρ)) : List (Option (PageReply ρ)) :=
  pages.map savedPage ++ [savedPage []]

namespace Walker

variable {σ κ ρ : Type} (w : Walker σ κ ρ)

/-- Every row of the pages is synced without an error. -/
def syncsAll : List (List ρ) → σ → Prop
  | [], _ => True
  | rows :: pages, s => (w.syncRows rows s).1 = .noError ∧ syncsAll pages (w.syncRows rows s).2.1

theorem syncsAll_congr {κ' : Type} {w : Walker σ κ ρ} {w' : Walker σ κ' ρ} (hlist : w.list = w'.list)
    (hrow : w.rowId = w'.rowId) (hsync : w.sync = w'.sync) {pages : List (List ρ)} {s : σ} (h : w.syncsAll pages s) :
    w'.syncsAll pages s := by
  have hrows : ∀ (rows : List ρ) (s : σ), w.syncRows rows s = w'.syncRows rows s := by
    intro rows
    induction rows with
    | nil => exact fun _ => rfl
    | cons row rows ih =>
      intro s
      simp only [syncRows, hlist, hrow, hsync, ih]
  induction pages generalizing s with
  | nil => trivial
  | cons rows pages ih =>
    unfold syncsAll at h ⊢
    rw [hrows] at h
    exact h.imp_right ih

/-- Over pages that all sync and a page callback that accepts their offsets, a walk requests each page once
    and one empty page. -/
theorem walkPages_pageAnswers {bound : Nat} (hpage : ∀ k next, next ≤ bound → (w.onPage k next .written).1 = .noError)
    (pages : List (List ρ)) (offset : Nat) (s : σ) (k : κ) (hrows : ∀ rows ∈ pages, rows ≠ [])
    (hsync : w.syncsAll pages s) (hbound : offset + bxillListLimit * pages.length ≤ bound) :
    (w.walkPages (pageAnswers pages) offset s k).error = .noError ∧
      chainRequests (w.walkPages (pageAnswers pages) offset s k).log =
        (List.range' offset (pages.length + 1) bxillListLimit).map (.page w.list) := by
  induction pages generalizing offset s k with
  | nil => exact ⟨rfl, rfl⟩
  | cons rows pages ih =>
    obtain ⟨hok, hrest⟩ := hsync
    have hne : rows.isEmpty = false := List.isEmpty_eq_false_iff.mpr (hrows rows List.mem_cons_self)
    rw [List.length_cons, Nat.mul_succ] at hbound
    have haccept := hpage k (offset + bxillListLimit) (by omega)
    obtain ⟨herror, hrequests⟩ := ih (offset + bxillListLimit) (w.syncRows rows s).2.1
      (w.onPage k (offset + bxillListLimit) .written).2.1 (fun r hr => hrows r (List.mem_cons_of_mem _ hr)) hrest (by omega)
    have hhanded := chainRequests_handed (w.mem_syncRows rows s)
    have hwalk : w.walkPages (pageAnswers (rows :: pages)) offset s k =
        let page := w.onPage k (offset + bxillListLimit) .written
        let walk := w.walkPages (pageAnswers pages) (offset + bxillListLimit) (w.syncRows rows s).2.1 page.2.1
        { walk with
          log := (.showed w.list offset (rows.filterMap w.rowId) :: (w.syncRows rows s).2.2 ++
            .accepted w.list offset :: page.2.2.toList.map Event.saved) ++ walk.log } := by
      simp [pageAnswers, savedPage, walkPages, hok, hne, haccept]
    rw [hwalk]
    refine ⟨herror, ?_⟩
    dsimp only
    rw [chainRequests_append, hrequests, List.length_cons, List.range'_succ (n := pages.length + 1)]
    simp [hhanded]

end Walker

/-! ### The cycles -/

/-- The tables and the caches a call of `bx_chain_sync` is handed. -/
structure Tables where
  db : Database
  contacts : Cache
  projects : Cache
  invoices : Cache

/-- What one call meets. The caller may have changed the tables and the caches since the last one. -/
structure Turn where
  tables : Tables
  sync : ChainInput

def turnStep (s : ChainState) (t : Turn) : ChainOut × ChainState :=
  let out := bxChainSync
    { s with
      db := t.tables.db
      contacts := t.tables.contacts
      projects := t.tables.projects
      invoices := t.tables.invoices } t.sync
  (out, out.state)

@[simp] theorem turnStep_state (s : ChainState) (t : Turn) : (turnStep s t).2 = (turnStep s t).1.state := rfl

/-- The content of the server during one cycle, and what its calls are handed. -/
structure Cycle where
  active : List (List ContactItem)
  archived : List (List ContactItem)
  projects : List (List ProjectItem)
  invoices : List (List InvoiceItem)
  missed : List MissedReply
  activeTables : Tables
  archivedTables : Tables
  projectTables : Tables
  invoiceTables : Tables
  missedTables : Tables

namespace Cycle

variable (c : Cycle)

def activeTurn : Turn := ⟨c.activeTables, { ChainInput.silent with contacts := pageAnswers c.active }⟩

def archivedTurn : Turn := ⟨c.archivedTables, { ChainInput.silent with contacts := pageAnswers c.archived }⟩

def projectTurn : Turn := ⟨c.projectTables, { ChainInput.silent with projects := pageAnswers c.projects }⟩

def invoiceTurn : Turn := ⟨c.invoiceTables, { ChainInput.silent with invoices := pageAnswers c.invoices }⟩

def missedTurn : Turn := ⟨c.missedTables, { ChainInput.silent with missed := c.missed }⟩

/-- The calls of a cycle, one for each phase. -/
def turns : List Turn := [c.activeTurn, c.archivedTurn, c.projectTurn, c.invoiceTurn, c.missedTurn]

/-- The walker of a resource without a page callback. -/
def contactList (archived : Bool) : Walker (Database × Cache) Unit ContactItem :=
  contactWalker archived fun k _ _ => (.noError, k, none)

def projectList : Walker (Database × Cache) Unit ProjectItem := projectWalker fun k _ _ => (.noError, k, none)

def invoiceList : Walker (Database × Cache) Unit InvoiceItem := invoiceWalker fun k _ _ => (.noError, k, none)

/-- A list of pages is walked to its end: no page is empty, the offsets fit an `int`, and every row is synced. -/
structure Fine {ρ : Type} (w : Walker (Database × Cache) Unit ρ) (pages : List (List ρ)) (db : Database) (cache : Cache) : Prop where
  rows : ∀ rows ∈ pages, rows ≠ []
  offsets : bxillListLimit * pages.length ≤ intMax
  syncs : w.syncsAll pages (db, cache)

/-- No error comes from the network, a sync or a save. -/
structure FaultFree : Prop where
  active : Fine (contactList false) c.active c.activeTables.db c.activeTables.contacts
  archived : Fine (contactList true) c.archived c.archivedTables.db c.archivedTables.contacts
  projects : Fine projectList c.projects c.projectTables.db c.projectTables.projects
  invoices : Fine invoiceList c.invoices c.invoiceTables.db c.invoiceTables.invoices
  missed : (bxInvoiceFetchMissed c.missed c.missedTables.db c.missedTables.invoices).1 = .noError

/-- The requests of `bx_walk_pages` over the four lists, and one call for the missed invoices. -/
def requests : List ChainRequest :=
  chainRequests ((contactList false).walkPages (pageAnswers c.active) 0 (c.activeTables.db, c.activeTables.contacts) ()).log ++
  chainRequests ((contactList true).walkPages (pageAnswers c.archived) 0 (c.archivedTables.db, c.archivedTables.contacts) ()).log ++
  chainRequests (projectList.walkPages (pageAnswers c.projects) 0 (c.projectTables.db, c.projectTables.projects) ()).log ++
  chainRequests (invoiceList.walkPages (pageAnswers c.invoices) 0 (c.invoiceTables.db, c.invoiceTables.invoices) ()).log ++
  [.missed]

/-! ### The calls of a cycle -/

variable {c}

theorem Fine.walk {ρ : Type} {w : Walker (Database × Cache) Unit ρ} {v : Walker (Database × Cache) Cursors ρ}
    {phase : BXChainPhase} (hlist : w.list = v.list) (hrow : w.rowId = v.rowId) (hsync : w.sync = v.sync)
    (hplain : ∀ k next save, (w.onPage k next save).1 = .noError) (hpage : v.onPage = onValidatedPage phase)
    {pages : List (List ρ)} {db : Database} {cache : Cache} (h : Fine w pages db cache) (k : Cursors) :
    (v.walkPages (pageAnswers pages) 0 (db, cache) k).error = .noError ∧
      chainRequests (v.walkPages (pageAnswers pages) 0 (db, cache) k).log =
        chainRequests (w.walkPages (pageAnswers pages) 0 (db, cache) ()).log := by
  have haccepted : ∀ k next, next ≤ intMax → (v.onPage k next .written).1 = .noError := by
    intro k next hnext
    rw [hpage]
    simp [onValidatedPage, checkpoint, Save.ok, Nat.not_lt.mpr hnext]
  have hbound : 0 + bxillListLimit * pages.length ≤ intMax := by
    rw [Nat.zero_add]
    exact h.offsets
  obtain ⟨herror, hrequests⟩ := v.walkPages_pageAnswers haccepted pages 0 (db, cache) k h.rows
    (Walker.syncsAll_congr hlist hrow hsync h.syncs) hbound
  have hunwatched : ∀ k next, next ≤ intMax → (w.onPage k next .written).1 = .noError := fun k next _ => hplain k next .written
  obtain ⟨-, hplain'⟩ := w.walkPages_pageAnswers hunwatched pages 0 (db, cache) () h.rows h.syncs hbound
  exact ⟨herror, by rw [hrequests, hplain', hlist]⟩

/-- The cursor stands at the start of a phase, in memory and in the row. -/
def At (phase : BXChainPhase) (s : ChainState) : Prop := s.cursors = { memory := ⟨phase, 0⟩, row := ⟨phase, 0⟩ }

section

variable (h : c.FaultFree) (s : ChainState)

include h

theorem turn_contactActive (hs : s.cursors.memory = ⟨.contactActive, 0⟩) :
    let out := (turnStep s c.activeTurn).1
    out.result = failResource .noError false false false ∧ At .contactArchived out.state ∧
      out.state.contactFromZero = true ∧ chainRequests out.log =
        chainRequests ((contactList false).walkPages (pageAnswers c.active) 0
          (c.activeTables.db, c.activeTables.contacts) ()).log := by
  obtain ⟨herror, hrequests⟩ := h.active.walk (v := contactWalker false (onValidatedPage .contactActive)) rfl rfl rfl
    (fun _ _ _ => rfl) rfl s.cursors
  simp [turnStep, activeTurn, bxChainSync, ChainInput.silent, hs, syncContactActive, walkContacts, Walker.walkPagesFrom, herror,
    finishResource, advancePhase, failResource, normalize, Save.ok, Save.row, Save.wrote, ChainState.afterContacts, At, hrequests]

theorem turn_contactArchived (hs : s.cursors.memory = ⟨.contactArchived, 0⟩) (hzero : s.contactFromZero = true) :
    let out := (turnStep s c.archivedTurn).1
    out.result = { failResource .noError true false false with pruneContact := true, pause := true } ∧
      At .project out.state ∧ chainRequests out.log =
        chainRequests ((contactList true).walkPages (pageAnswers c.archived) 0
          (c.archivedTables.db, c.archivedTables.contacts) ()).log := by
  obtain ⟨herror, hrequests⟩ := h.archived.walk (v := contactWalker true (onValidatedPage .contactArchived)) rfl rfl rfl
    (fun _ _ _ => rfl) rfl s.cursors
  simp [turnStep, archivedTurn, bxChainSync, ChainInput.silent, hs, hzero, syncContactArchived, walkContacts, Walker.walkPagesFrom, herror,
    finishResource, advancePhase, failResource, normalize, Save.ok, Save.row, Save.wrote, ChainState.afterContacts, At, hrequests]

theorem turn_project (hs : s.cursors.memory = ⟨.project, 0⟩) :
    let out := (turnStep s c.projectTurn).1
    out.result = { failResource .noError false true false with pruneProject := true, pause := true } ∧
      At .invoiceList out.state ∧ chainRequests out.log =
        chainRequests (projectList.walkPages (pageAnswers c.projects) 0
          (c.projectTables.db, c.projectTables.projects) ()).log := by
  obtain ⟨herror, hrequests⟩ := h.projects.walk (v := projectWalker (onValidatedPage .project)) rfl rfl rfl
    (fun _ _ _ => rfl) rfl s.cursors
  simp [turnStep, projectTurn, bxChainSync, ChainInput.silent, hs, syncProject, walkProjects, Walker.walkPagesFrom, herror,
    finishResource, advancePhase, failResource, normalize, Save.ok, Save.row, Save.wrote, At, hrequests]

theorem turn_invoiceList (hs : s.cursors.memory = ⟨.invoiceList, 0⟩) :
    let out := (turnStep s c.invoiceTurn).1
    out.result = failResource .noError false false false ∧ At .invoiceMissed out.state ∧
      out.state.invoiceFromZero = true ∧ chainRequests out.log =
        chainRequests (invoiceList.walkPages (pageAnswers c.invoices) 0
          (c.invoiceTables.db, c.invoiceTables.invoices) ()).log := by
  obtain ⟨herror, hrequests⟩ := h.invoices.walk (v := invoiceWalker (onValidatedPage .invoiceList)) rfl rfl rfl
    (fun _ _ _ => rfl) rfl s.cursors
  simp [turnStep, invoiceTurn, bxChainSync, ChainInput.silent, hs, syncInvoiceList, walkInvoices, Walker.walkPagesFrom, herror,
    finishResource, advancePhase, failResource, normalize, Save.ok, Save.row, Save.wrote, At, hrequests]

omit h in
theorem requests_fetchMissed (replies : List MissedReply) (iter : CacheIter) (db : Database) (cache : Cache)
    (hok : (fetchMissed replies iter db cache).1 = .noError) :
    chainRequests (fetchMissed replies iter db cache).2.2.2 = [.missed] := by
  revert hok
  fun_induction fetchMissed replies iter db cache
  case case1 => exact fun _ => rfl
  case case2 | case3 | case5 | case6 => exact nofun
  case case4 ih =>
    intro hok
    rw [chainRequests_got]
    exact ih hok
  case case7 he => exact fun hok => absurd hok he
  case case8 ih =>
    intro hok
    rw [chainRequests_got, chainRequests_loaded]
    exact ih hok

theorem turn_invoiceMissed (hs : s.cursors.memory = ⟨.invoiceMissed, 0⟩) (hzero : s.invoiceFromZero = true) :
    let out := (turnStep s c.missedTurn).1
    out.result = { failResource .noError false false true with pruneInvoice := true, pause := true } ∧
      At .contactActive out.state ∧ chainRequests out.log = [.missed] := by
  have hmissed := h.missed
  have hrequests := requests_fetchMissed _ _ _ _ hmissed
  unfold bxInvoiceFetchMissed at hmissed
  simp [turnStep, missedTurn, bxChainSync, ChainInput.silent, hs, hzero, syncInvoiceMissed, bxInvoiceFetchMissed, hmissed,
    finishResource, advancePhase, failResource, normalize, Save.ok, Save.row, Save.wrote, At, hrequests]

/-- The flags of the calls of a cycle, in order. -/
def results : List BXChainResult :=
  [failResource .noError false false false,
    { failResource .noError true false false with pruneContact := true, pause := true },
    { failResource .noError false true false with pruneProject := true, pause := true },
    failResource .noError false false false,
    { failResource .noError false false true with pruneInvoice := true, pause := true }]

omit h in
theorem memory_of_at {phase : BXChainPhase} {s : ChainState} (hs : At phase s) : s.cursors.memory = ⟨phase, 0⟩ := by
  rw [hs]

theorem cycle (hs : s.cursors.memory = ⟨.contactActive, 0⟩) :
    (outputs turnStep s c.turns).map ChainOut.result = results ∧
      chainRequests ((outputs turnStep s c.turns).flatMap ChainOut.log) = c.requests ∧
      At .contactActive (final turnStep s c.turns) := by
  obtain ⟨hresult₁, hat₁, hzero₁, hlog₁⟩ := turn_contactActive h s hs
  obtain ⟨hresult₂, hat₂, hlog₂⟩ := turn_contactArchived h _ (memory_of_at hat₁) hzero₁
  obtain ⟨hresult₃, hat₃, hlog₃⟩ := turn_project h _ (memory_of_at hat₂)
  obtain ⟨hresult₄, hat₄, hzero₄, hlog₄⟩ := turn_invoiceList h _ (memory_of_at hat₃)
  obtain ⟨hresult₅, hat₅, hlog₅⟩ := turn_invoiceMissed h _ (memory_of_at hat₄) hzero₄
  refine ⟨?_, ?_, hat₅⟩
  · simp only [turns, outputs, List.map_cons, List.map_nil, turnStep_state, hresult₁, hresult₂, hresult₃, hresult₄, hresult₅]
    rfl
  · simp only [turns, outputs, List.flatMap_cons, List.flatMap_nil, turnStep_state, chainRequests_append, chainRequests_nil,
      hlog₁, hlog₂, hlog₃, hlog₄, hlog₅]
    simp [requests]

/-- Each page that is not empty is requested once, and one empty page after them. -/
theorem requests_eq :
    c.requests = pageRequests .contactActive c.active.length ++ pageRequests .contactArchived c.archived.length ++
      pageRequests .project c.projects.length ++ pageRequests .invoice c.invoices.length ++ [.missed] := by
  have hlist : ∀ {ρ : Type} (w : Walker (Database × Cache) Unit ρ) (pages : List (List ρ)) (db : Database) (cache : Cache),
      (∀ k next save, (w.onPage k next save).1 = .noError) → Fine w pages db cache →
        chainRequests (w.walkPages (pageAnswers pages) 0 (db, cache) ()).log = pageRequests w.list pages.length := by
    intro ρ w pages db cache hplain hfine
    have hunwatched : ∀ k next, next ≤ intMax → (w.onPage k next .written).1 = .noError := fun k next _ => hplain k next .written
    exact (w.walkPages_pageAnswers hunwatched pages 0 (db, cache) () hfine.rows hfine.syncs
      (by rw [Nat.zero_add]; exact hfine.offsets)).2
  unfold requests
  rw [hlist _ _ _ _ (fun _ _ _ => rfl) h.active, hlist _ _ _ _ (fun _ _ _ => rfl) h.archived,
    hlist _ _ _ _ (fun _ _ _ => rfl) h.projects, hlist _ _ _ _ (fun _ _ _ => rfl) h.invoices]
  rfl

end

/-- Every cycle of a run without a fault starts and ends at the first active contact. -/
theorem run (cycles : List Cycle) (s : ChainState) (hfree : ∀ c ∈ cycles, c.FaultFree)
    (hs : s.cursors.memory = ⟨.contactActive, 0⟩) :
    (final turnStep s (cycles.flatMap turns)).cursors.memory = ⟨.contactActive, 0⟩ ∧
      chainRequests ((outputs turnStep s (cycles.flatMap turns)).flatMap ChainOut.log) = cycles.flatMap requests := by
  induction cycles generalizing s with
  | nil => exact ⟨hs, rfl⟩
  | cons c cycles ih =>
    obtain ⟨-, hrequests, hat⟩ := cycle (hfree c List.mem_cons_self) s hs
    obtain ⟨hend, hrest⟩ := ih _ (fun c' hc' => hfree c' (List.mem_cons_of_mem _ hc')) (memory_of_at hat)
    rw [List.flatMap_cons, final_append, outputs_append, List.flatMap_append, chainRequests_append, hrequests, hrest]
    exact ⟨hend, rfl⟩

end Cycle

/-- Over any number of cycles the requests are those of the plain walks and one call for the missed invoices
    for each cycle. Each cycle sets its prune and bump flags once and the pause flag three times, and ends at
    the first active contact, in memory and in the row. -/
theorem faultFree_cycles (cycles : List Cycle) (s : ChainState) (hfree : ∀ c ∈ cycles, c.FaultFree)
    (hs : s.cursors.memory = ⟨.contactActive, 0⟩) :
    chainRequests ((outputs turnStep s (cycles.flatMap Cycle.turns)).flatMap ChainOut.log) = cycles.flatMap Cycle.requests ∧
    ∀ before c after, cycles = before ++ c :: after →
      let start := final turnStep s (before.flatMap Cycle.turns)
      let results := (outputs turnStep start c.turns).map ChainOut.result
      chainRequests ((outputs turnStep start c.turns).flatMap ChainOut.log) = c.requests ∧
      c.requests = pageRequests .contactActive c.active.length ++ pageRequests .contactArchived c.archived.length ++
        pageRequests .project c.projects.length ++ pageRequests .invoice c.invoices.length ++ [.missed] ∧
      (∀ r ∈ results, r.error = .noError) ∧
      results.countP (·.pruneContact) = 1 ∧ results.countP (·.pruneProject) = 1 ∧ results.countP (·.pruneInvoice) = 1 ∧
      results.countP (·.bumpContact) = 1 ∧ results.countP (·.bumpProject) = 1 ∧ results.countP (·.bumpInvoice) = 1 ∧
      results.countP (·.pause) = 3 ∧
      (final turnStep start c.turns).cursors = { memory := ⟨.contactActive, 0⟩, row := ⟨.contactActive, 0⟩ } := by
  refine ⟨(Cycle.run cycles s hfree hs).2, ?_⟩
  rintro before c after rfl
  have hc : c.FaultFree := hfree c (by simp)
  obtain ⟨hstart, -⟩ := Cycle.run before s (fun c' hc' => hfree c' (List.mem_append_left _ hc')) hs
  obtain ⟨hresults, hrequests, hat⟩ := Cycle.cycle hc _ hstart
  dsimp only
  rw [hresults]
  exact ⟨hrequests, Cycle.requests_eq hc, by decide, by decide, by decide, by decide, by decide, by decide, by decide,
    by decide, hat⟩

/-- An empty database and fresh caches. -/
def Tables.fresh : Tables := ⟨.empty, cacheCreate, cacheCreate, cacheCreate⟩

/-- Two pages of active contacts and one of invoices, of objects that are nowhere yet. -/
def smallCycle : Cycle where
  active := [[⟨⟨some 1, 7, none, none, []⟩, .quiet⟩], [⟨⟨some 2, 7, none, none, []⟩, .quiet⟩]]
  archived := []
  projects := []
  invoices := [[⟨⟨some 9, 7, none, none, .absent⟩, .quiet⟩]]
  missed := []
  activeTables := .fresh
  archivedTables := .fresh
  projectTables := .fresh
  invoiceTables := .fresh
  missedTables := .fresh

theorem faultFree_cycles_small :
    let s := bxChainInit .empty cacheCreate cacheCreate cacheCreate ⟨.contactActive, 0⟩
    let outs := outputs turnStep s ([smallCycle, smallCycle].flatMap Cycle.turns)
    chainRequests (outs.flatMap ChainOut.log) = smallCycle.requests ++ smallCycle.requests ∧
      smallCycle.requests = [.page .contactActive 0, .page .contactActive 500, .page .contactActive 1000,
        .page .contactArchived 0, .page .project 0, .page .invoice 0, .page .invoice 500, .missed] := by
  have hfree : smallCycle.FaultFree := by
    refine ⟨⟨by decide, by decide, by decide, by decide, trivial⟩, ⟨by decide, by decide, trivial⟩,
      ⟨by decide, by decide, trivial⟩, ⟨by decide, by decide, by decide, trivial⟩, by decide⟩
  obtain ⟨hrequests, -⟩ := faultFree_cycles [smallCycle, smallCycle]
    (bxChainInit .empty cacheCreate cacheCreate cacheCreate ⟨.contactActive, 0⟩) (by simp [hfree]) rfl
  refine ⟨?_, by decide⟩
  simpa using hrequests

end BxSync
