import BxSync.Lib.Machine
import BxSync.Theorems.CacheWalk
import BxSync.Theorems.Frame
import BxSync.Theorems.Missed

/-! What a project prune and an invoice prune rest on. A project prune follows a list walk of one call, so
    its pages are the evidence. An invoice prune follows the missed phase, whose requests by id are the
    evidence, and the list walk from the first page that made them few. -/

namespace BxSync

open Machine

/-! ### The property -/

/-- A project prune follows a walk from the first page, and yields nothing that walk showed. -/
def ProjectPruneSafeAt (call : ChainCall) : Prop :=
  call.out.result.pruneProject = true →
    call.pre.cursors.memory = ⟨.project, 0⟩ ∧ .walked .project ∈ call.out.log ∧
      ∀ drift, 1 ≤ drift → ∀ id ∈ cacheIterAll call.out.state.projects drift, id ∉ shownIds call.out.log

/-- The invoice list was walked from the first page without an error in this process, and the chain has
    been in the missed phase since. -/
def ListWalked (calls : List ChainCall) : Prop :=
  ∃ before list since, calls = before ++ list :: since ∧ list.pre.cursors.memory = ⟨.invoiceList, 0⟩ ∧
    .walked .invoice ∈ list.out.log ∧ ∀ call ∈ since, call.pre.cursors.memory.phase = .invoiceMissed

/-- An invoice prune follows such a walk and a missed phase that returned NoError, and yields only ids that
    this phase saw answered 404. -/
def InvoicePruneSafeAt (before : List ChainCall) (call : ChainCall) : Prop :=
  call.out.result.pruneInvoice = true →
    ListWalked before ∧ call.pre.cursors.memory.phase = .invoiceMissed ∧ .fetchedMissed ∈ call.out.log ∧
      ∀ drift, 1 ≤ drift → ∀ id ∈ cacheIterAll call.out.state.invoices drift, Answered404 call.out.log id

/-! ### Project walks -/

theorem projectPruneSafeAt_project {s : ChainState} {i : ChainStepInput}
    (hsync : bxChainSync s i.sync = syncProject s i.sync) (hphase : s.cursors.memory.phase = .project) :
    ProjectPruneSafeAt (chainStep s i).1 := by
  intro hprune
  have hfresh := fresh_walkProjects s i.sync
  have hout : (chainStep s i).1.out = syncProject s i.sync := hsync
  rw [hout] at hprune ⊢
  unfold syncProject at hprune ⊢
  dsimp only at hprune ⊢
  split at hprune
  · exact nomatch hprune
  · rename_i hw
    rw [if_neg hw]
    obtain ⟨-, hoffset⟩ := of_decide_eq_true hprune
    refine ⟨?_, ?_, ?_⟩
    · show s.cursors.memory = _
      rw [← hphase, ← hoffset]
    · refine List.mem_append_left _ ?_
      have := Walker.walked_mem (projectWalker (onValidatedPage .project)) _ _ _ _ (not_not.mp hw)
      exact this
    · intro drift hd id hid hshown
      refine hfresh (not_not.mp hw) id ?_ (Cache.stale_of_mem_cacheIterAll hd hid)
      simpa [finishResource] using hshown

/-! ### Invoice walks -/

/-- A call that sets the flag of the invoice list walked it from the first page. -/
theorem syncInvoiceList_flag {s : ChainState} {i : ChainInput} (h : (syncInvoiceList s i).state.invoiceFromZero = true) :
    s.cursors.memory.offset = 0 ∧ .walked .invoice ∈ (syncInvoiceList s i).log ∧
      (syncInvoiceList s i).state.cursors.memory.phase = .invoiceMissed := by
  unfold syncInvoiceList at h ⊢
  dsimp only at h ⊢
  split at h
  · exact nomatch h
  · rename_i hw
    rw [if_neg hw]
    split at h
    · exact nomatch h
    · rename_i hz
      rw [if_neg hz]
      refine ⟨not_not.mp hz, List.mem_append_left _ ?_, phase_normalize _⟩
      exact Walker.walked_mem (invoiceWalker (onValidatedPage .invoiceList)) _ _ _ _ (not_not.mp hw)

theorem fetchedMissed_mem (replies : List MissedReply) (iter : CacheIter) (db : Database) (c : Cache)
    (h : (fetchMissed replies iter db c).1 = .noError) : .fetchedMissed ∈ (fetchMissed replies iter db c).2.2.2 := by
  revert h
  fun_induction fetchMissed replies iter db c
  case case1 => simp
  case case2 | case3 | case5 | case6 =>
    intro h
    cases h
  case case7 he => exact fun h => absurd h he
  case case4 ih => exact fun h => List.mem_cons_of_mem _ (ih h)
  case case8 ih => exact fun h => List.mem_cons_of_mem _ (List.mem_cons_of_mem _ (ih h))

/-- A missed phase that fails stays where it is, and one that ends clears the flag. -/
theorem syncInvoiceMissed_flag {s : ChainState} {i : ChainInput} (h : (syncInvoiceMissed s i).state.invoiceFromZero = true) :
    s.invoiceFromZero = true ∧ (syncInvoiceMissed s i).state.cursors = s.cursors := by
  unfold syncInvoiceMissed at h ⊢
  dsimp only at h ⊢
  split at h
  · rename_i he
    rw [if_pos he]
    exact ⟨h, rfl⟩
  · exact nomatch h

/-- A missed phase that prunes had the flag and saw every id it yields answered 404. -/
theorem syncInvoiceMissed_prune {s : ChainState} {i : ChainInput} (h : (syncInvoiceMissed s i).result.pruneInvoice = true)
    (hhonest : HonestGets (syncInvoiceMissed s i).log) :
    s.invoiceFromZero = true ∧ .fetchedMissed ∈ (syncInvoiceMissed s i).log ∧
      ∀ drift, 1 ≤ drift → ∀ id ∈ cacheIterAll (syncInvoiceMissed s i).state.invoices drift,
        Answered404 (syncInvoiceMissed s i).log id := by
  unfold syncInvoiceMissed at h hhonest ⊢
  dsimp only at h hhonest ⊢
  split at h
  · exact nomatch h
  · rename_i he
    rw [if_neg he] at hhonest ⊢
    obtain ⟨-, hflag⟩ := of_decide_eq_true h
    refine ⟨hflag, List.mem_append_left _ (fetchedMissed_mem _ _ _ _ (not_not.mp he)), ?_⟩
    intro drift hd id hid
    have hstale := Cache.stale_of_mem_cacheIterAll hd hid
    obtain ⟨objectId, hmem⟩ := bxInvoiceFetchMissed_answered i.missed s.db s.invoices (not_not.mp he)
      (fun e hmem => hhonest e (List.mem_append_left _ hmem)) id hstale
    exact ⟨objectId, List.mem_append_left _ hmem⟩

/-! ### Runs -/

/-- While the flag of the invoice list is set, the list was walked and the chain is in the missed phase. -/
structure InvoiceInv (calls : List ChainCall) (s : ChainState) : Prop where
  missed : s.invoiceFromZero = true → s.cursors.memory.phase = .invoiceMissed
  walked : s.invoiceFromZero = true → ListWalked calls

theorem ListWalked.append {calls : List ChainCall} (h : ListWalked calls) {call : ChainCall}
    (hcall : call.pre.cursors.memory.phase = .invoiceMissed) : ListWalked (calls ++ [call]) := by
  obtain ⟨before, list, since, rfl, hcursor, hwalked, hsince⟩ := h
  refine ⟨before, list, since ++ [call], by simp, hcursor, hwalked, fun c hc => ?_⟩
  rcases List.mem_append.mp hc with hc | hc
  · exact hsince c hc
  · rw [List.mem_singleton.mp hc]
    exact hcall

section

variable {calls : List ChainCall} {s : ChainState} {i : ChainStepInput}

theorem invoiceInv_list (hsync : bxChainSync s i.sync = syncInvoiceList s i.sync)
    (hphase : s.cursors.memory.phase = .invoiceList) : InvoiceInv (calls ++ [(chainStep s i).1]) (chainStep s i).2 where
  missed h := by
    rw [chainStep_invoiceFromZero, hsync] at h
    rw [chainStep_cursors, hsync]
    exact (syncInvoiceList_flag h).2.2
  walked h := by
    rw [chainStep_invoiceFromZero, hsync] at h
    obtain ⟨hoffset, hwalked, -⟩ := syncInvoiceList_flag h
    have hmemory : (chainStep s i).1.pre.cursors.memory = ⟨.invoiceList, 0⟩ := by
      show s.cursors.memory = _
      rw [← hphase, ← hoffset]
    have hlog : .walked .invoice ∈ (chainStep s i).1.out.log := by
      rw [show (chainStep s i).1.out = syncInvoiceList s i.sync from hsync]
      exact hwalked
    exact ⟨calls, _, [], rfl, hmemory, hlog, by simp⟩

/-- A call that does not set the flag, and leaves the cursor where it is while the flag is set, keeps the
    invariant. -/
theorem InvoiceInv.keep (hinv : InvoiceInv calls s)
    (h : (bxChainSync s i.sync).state.invoiceFromZero = true →
      s.invoiceFromZero = true ∧ (bxChainSync s i.sync).state.cursors = s.cursors) :
    InvoiceInv (calls ++ [(chainStep s i).1]) (chainStep s i).2 where
  missed hset := by
    rw [chainStep_invoiceFromZero] at hset
    rw [chainStep_cursors, (h hset).2]
    exact hinv.missed (h hset).1
  walked hset := by
    rw [chainStep_invoiceFromZero] at hset
    exact (hinv.walked (h hset).1).append (hinv.missed (h hset).1)

end

theorem invoiceInv_step (calls : List ChainCall) (s : ChainState) (i : ChainStepInput) (hinv : InvoiceInv calls s)
    (hC : HonestGets (chainStep s i).1.out.log) :
    (ProjectPruneSafeAt (chainStep s i).1 ∧ InvoicePruneSafeAt calls (chainStep s i).1) ∧
      InvoiceInv (calls ++ [(chainStep s i).1]) (chainStep s i).2 := by
  have hout : (chainStep s i).1.out = bxChainSync s i.sync := rfl
  have noProject : (bxChainSync s i.sync).result.pruneProject = false → ProjectPruneSafeAt (chainStep s i).1 :=
    fun h hp => absurd hp (by rw [hout, h]; decide)
  have noInvoice : (bxChainSync s i.sync).result.pruneInvoice = false → InvoicePruneSafeAt calls (chainStep s i).1 :=
    fun h hp => absurd hp (by rw [hout, h]; decide)
  -- In the phases of contacts and projects there is no flag of the invoice list.
  have other : s.cursors.memory.phase.resource ≠ .invoice → InvoicePruneSafeAt calls (chainStep s i).1 ∧
      InvoiceInv (calls ++ [(chainStep s i).1]) (chainStep s i).2 := by
    intro hne
    have hf := frame_bxChainSync s i.sync .invoice fun _ => hne
    have hno : s.invoiceFromZero = false := Bool.eq_false_iff.mpr fun h => hne (by rw [hinv.missed h]; rfl)
    exact ⟨noInvoice hf.prune, hinv.keep fun h => absurd h (Bool.eq_false_iff.mp (hf.fromZero.trans hno))⟩
  cases hconn : i.sync.connected with
  | false =>
    have hsync := bxChainSync_disconnected (s := s) hconn
    exact ⟨⟨noProject (by rw [hsync]; rfl), noInvoice (by rw [hsync]; rfl)⟩,
      hinv.keep fun h => by rw [hsync] at h ⊢; exact ⟨h, rfl⟩⟩
  | true =>
    have noProject' : s.cursors.memory.phase.resource ≠ .project → ProjectPruneSafeAt (chainStep s i).1 := fun hne =>
      noProject (frame_bxChainSync s i.sync .project fun _ => hne).prune
    cases hphase : s.cursors.memory.phase with
    | contactActive | contactArchived =>
      obtain ⟨hsafe, hnext⟩ := other (by rw [hphase]; decide)
      exact ⟨⟨noProject' (by rw [hphase]; decide), hsafe⟩, hnext⟩
    | project =>
      obtain ⟨hsafe, hnext⟩ := other (by rw [hphase]; decide)
      exact ⟨⟨projectPruneSafeAt_project (bxChainSync_project hconn hphase) hphase, hsafe⟩, hnext⟩
    | invoiceList =>
      have hsync := bxChainSync_invoiceList hconn hphase
      exact ⟨⟨noProject' (by rw [hphase]; decide), noInvoice (by rw [hsync, syncInvoiceList_prune])⟩,
        invoiceInv_list hsync hphase⟩
    | invoiceMissed =>
      have hsync := bxChainSync_invoiceMissed hconn hphase
      refine ⟨⟨noProject' (by rw [hphase]; decide), fun hprune => ?_⟩,
        hinv.keep fun h => by rw [hsync] at h ⊢; exact syncInvoiceMissed_flag h⟩
      rw [hout, hsync] at hprune hC ⊢
      obtain ⟨hflag, hfetched, hanswered⟩ := syncInvoiceMissed_prune hprune hC
      exact ⟨hinv.walked hflag, hphase, hfetched, hanswered⟩

/-- In every run of one process, from any row, project and invoice prunes are safe, as long as a GET by id
    that is answered 200 returns the object with that id. -/
theorem projectInvoicePrune_safe (db : Database) (contacts projects invoices : Cache) (row : BXChainCursor)
    (inputs : List ChainStepInput)
    (hhonest : ∀ call ∈ outputs chainStep (bxChainInit db contacts projects invoices row) inputs, HonestGets call.out.log)
    (before : List ChainCall) (call : ChainCall) (after : List ChainCall)
    (heq : outputs chainStep (bxChainInit db contacts projects invoices row) inputs = before ++ call :: after) :
    ProjectPruneSafeAt call ∧ InvoicePruneSafeAt before call := by
  have h0 : InvoiceInv [] (bxChainInit db contacts projects invoices row) := ⟨nofun, nofun⟩
  exact run_safe chainStep (P := fun before call => ProjectPruneSafeAt call ∧ InvoicePruneSafeAt before call) h0
    invoiceInv_step hhonest heq

/-! ### A run

    Project 1 is on the list. Invoice 2 is cached from an earlier version, and the list does not show it. -/

def projectStart : ChainState :=
  bxChainInit .empty cacheCreate (cacheSetItem cacheCreate 1 7) (cacheNextVersion (cacheSetItem cacheCreate 2 7))
    ⟨.project, 0⟩

def projectPages : ChainStepInput :=
  .of { ChainInput.silent with
    projects := [savedPage [{ project := { id := some 1, checksum := 7, contactId := none }, answers := .quiet }],
      savedPage []] }

def emptyInvoiceList : ChainStepInput := .of { ChainInput.silent with invoices := [savedPage []] }

/-- The request by id is answered 404. -/
def missedGone : ChainStepInput :=
  .of { ChainInput.silent with missed := [{ reply := some { httpCode := 404, decoded := none }, answers := .quiet }] }

def afterProjectPages : ChainState := (chainStep projectStart projectPages).2

def afterInvoiceList : ChainState := (chainStep afterProjectPages emptyInvoiceList).2

/-- The missed phase asks for invoice 2, is answered 404, and invoice 2 is what the prune yields. -/
theorem projectInvoicePrune_cycle :
    cacheIterAll (chainStep afterInvoiceList missedGone).1.out.state.invoices 1 = [2] ∧
      InvoicePruneSafeAt [(chainStep projectStart projectPages).1, (chainStep afterProjectPages emptyInvoiceList).1]
        (chainStep afterInvoiceList missedGone).1 := by
  have honest : ∀ call ∈ outputs chainStep projectStart [projectPages, emptyInvoiceList, missedGone],
      ∀ e ∈ call.out.log, e.honest := by decide
  exact ⟨by decide, (projectInvoicePrune_safe .empty cacheCreate _ _ ⟨.project, 0⟩
    [projectPages, emptyInvoiceList, missedGone] honest _ _ [] rfl).2⟩

end BxSync
