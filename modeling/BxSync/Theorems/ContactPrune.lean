import BxSync.Lib.Machine
import BxSync.Theorems.CacheWalk
import BxSync.Theorems.Frame

/-! When a contact prune is safe. The flag of the active walk outlives a failed archived walk, whose bump
    makes everything the active walk showed stale. While no such failure happens, whatever the flag vouches
    for was seen at the current version. -/

namespace BxSync

open Machine

/-! ### The property -/

/-- Adds what a call showed in a contact phase. The active list asked for at its first page starts over. -/
def addContactShown (shown : List Nat) (call : ChainCall) : List Nat :=
  match call.pre.cursors.memory.phase with
  | .contactActive =>
    if call.pre.cursors.memory.offset = 0 then shownIds call.out.log else shown ++ shownIds call.out.log
  | .contactArchived => shown ++ shownIds call.out.log
  | _ => shown

/-- The contact ids shown since the active list was last requested at its first page. -/
def contactShown (calls : List ChainCall) : List Nat := calls.foldl addContactShown []

/-- When the call after these sets the prune flag, no id shown in the contact cycle is yielded to the prune. -/
def ContactPruneSafeAt (before : List ChainCall) (call : ChainCall) : Prop :=
  call.out.result.pruneContact = true →
    ∀ id ∈ contactShown (before ++ [call]), ∀ drift, 1 ≤ drift → id ∉ cacheIterAll call.out.state.contacts drift

def ContactPruneSafe (calls : List ChainCall) : Prop :=
  ∀ before call after, calls = before ++ call :: after → ContactPruneSafeAt before call

/-- The row of the archived phase is saved after an active walk from the first page, and no archived walk
    fails while the flag of the active walk is set. -/
def ContactCondition (call : ChainCall) : Prop :=
  call.input.sync.connected = true →
    (call.pre.cursors.memory = ⟨.contactActive, 0⟩ → call.input.sync.save.ok) ∧
    (call.pre.cursors.memory.phase = .contactArchived → call.pre.contactFromZero = true →
      Walker.undisturbed ContactItem.keepsConnection call.input.sync.contacts call.pre.cursors.memory.offset)

instance (call : ChainCall) : Decidable (ContactCondition call) := inferInstanceAs (Decidable (_ → _ ∧ _))

/-! ### Contact walks -/

section

variable (s : ChainState) (i : ChainInput) (archived : Bool) (phase : BXChainPhase)

theorem walkContacts_undisturbed
    (h : Walker.undisturbed ContactItem.keepsConnection i.contacts s.cursors.memory.offset) :
    (walkContacts s i archived phase).error = .noError := by
  unfold walkContacts Walker.walkPagesFrom
  rw [if_pos rfl]
  refine Walker.walkPages_undisturbed _ (p := ContactItem.keepsConnection) ?_ ?_ _ _ _ _ h
  · exact fun s item => contactPageItem_keepsConnection archived s item
  · intro k next save hsave hnext
    have hle : ¬intMax < next := by omega
    simp [contactWalker, onValidatedPage, hle, checkpoint, hsave]

end

/-! ### What a call does to the contacts -/

/-- After an active walk the flag says that it started at the first page and left nothing it showed stale. -/
theorem syncContactActive_flag {s : ChainState} {i : ChainInput}
    (h : (syncContactActive s i).state.contactFromZero = true) :
    s.cursors.memory.offset = 0 ∧ (syncContactActive s i).state.cursors.memory.phase = .contactArchived ∧
      (∀ id ∈ shownIds (syncContactActive s i).log, ¬(syncContactActive s i).state.contacts.Stale id) ∧
      (i.save.ok → (syncContactActive s i).result.bumpContact = false) := by
  have hfresh := fresh_walkContacts { s with contactFromZero := false } i false .contactActive
  unfold syncContactActive at h ⊢
  dsimp only at h ⊢
  split at h
  · exact nomatch h
  · rename_i hw
    rw [if_neg hw]
    refine ⟨of_decide_eq_true h, phase_normalize _, ?_, ?_⟩
    · simpa [finishResource, ChainState.afterContacts] using hfresh (not_not.mp hw)
    · intro hsave
      simp [finishResource, failResource, advancePhase, hsave]

theorem syncContactActive_prune (s : ChainState) (i : ChainInput) : (syncContactActive s i).result.pruneContact = false := by
  unfold syncContactActive
  dsimp only
  split <;> rfl

/-- An undisturbed archived walk keeps what was fresh, and adds what it showed. -/
theorem syncContactArchived_undisturbed {s : ChainState} {i : ChainInput}
    (h : Walker.undisturbed ContactItem.keepsConnection i.contacts s.cursors.memory.offset) :
    (syncContactArchived s i).state.contactFromZero = false ∧
      Cache.Kept s.contacts (syncContactArchived s i).state.contacts ∧
      ∀ id ∈ shownIds (syncContactArchived s i).log, ¬(syncContactArchived s i).state.contacts.Stale id := by
  have hw := walkContacts_undisturbed s i true .contactArchived h
  have hfresh := fresh_walkContacts s i true .contactArchived hw
  unfold syncContactArchived
  dsimp only
  rw [if_neg (not_not.mpr hw)]
  refine ⟨rfl, kept_walkContacts s i true .contactArchived, ?_⟩
  simpa [finishResource, ChainState.afterContacts] using hfresh

theorem syncContactArchived_unflagged {s : ChainState} {i : ChainInput} (h : s.contactFromZero = false) :
    (syncContactArchived s i).result.pruneContact = false ∧ (syncContactArchived s i).state.contactFromZero = false := by
  unfold syncContactArchived
  dsimp only
  split
  · exact ⟨rfl, h⟩
  · exact ⟨by simp [ChainState.afterContacts, h], rfl⟩

/-! ### Runs -/

theorem contactShown_append (calls : List ChainCall) (call : ChainCall) :
    contactShown (calls ++ [call]) = addContactShown (contactShown calls) call := by
  simp [contactShown]

/-- While the flag is set the chain is in the archived phase, and nothing shown in the cycle is stale. -/
structure ContactInv (calls : List ChainCall) (s : ChainState) : Prop where
  archived : s.contactFromZero = true → s.cursors.memory.phase = .contactArchived
  fresh : s.contactFromZero = true → ∀ id ∈ contactShown calls, ¬s.contacts.Stale id

section

variable {calls : List ChainCall} {s : ChainState} {i : ChainStepInput}

theorem contactInv_active (hsync : bxChainSync s i.sync = syncContactActive s i.sync)
    (hphase : s.cursors.memory.phase = .contactActive) (hsave : s.cursors.memory.offset = 0 → i.sync.save.ok) :
    ContactInv (calls ++ [(chainStep s i).1]) (chainStep s i).2 where
  archived h := by
    rw [chainStep_contactFromZero, hsync] at h
    rw [chainStep_cursors, hsync]
    exact (syncContactActive_flag h).2.1
  fresh h id hid := by
    -- The walk started at the first page, so it is all there is to the cycle, and no bump follows.
    rw [chainStep_contactFromZero, hsync] at h
    obtain ⟨hoffset, -, hfresh, hbump⟩ := syncContactActive_flag h
    have hprune := syncContactActive_prune s i.sync
    rw [chainStep_contacts s i (by rw [hsync, hprune]) (by rw [hsync, hbump (hsave hoffset)]), hsync]
    refine hfresh id ?_
    have hph : (chainStep s i).1.pre.cursors.memory.phase = .contactActive := hphase
    have hoff : (chainStep s i).1.pre.cursors.memory.offset = 0 := hoffset
    have hlog : (chainStep s i).1.out.log = (syncContactActive s i.sync).log := congrArg ChainOut.log hsync
    rw [contactShown_append] at hid
    simpa [addContactShown, hph, hoff, hlog] using hid

theorem contactInv_disconnected (hconn : i.sync.connected = false) (hinv : ContactInv calls s) :
    ContactInv (calls ++ [(chainStep s i).1]) (chainStep s i).2 := by
  have hsync := bxChainSync_disconnected (s := s) hconn
  obtain ⟨hcache, hflag⟩ := chainStep_frame s i .contact fun h => absurd h (by rw [hconn]; decide)
  have hcursors : (chainStep s i).2.cursors = s.cursors := by rw [chainStep_cursors, hsync]
  refine ⟨fun h => ?_, fun h id hid => ?_⟩
  · rw [hcursors]
    exact hinv.archived (hflag.symm.trans h)
  · have hset : s.contactFromZero = true := hflag.symm.trans h
    have hph : (chainStep s i).1.pre.cursors.memory.phase = .contactArchived := hinv.archived hset
    have hlog : (chainStep s i).1.out.log = [] := congrArg ChainOut.log hsync
    rw [show (chainStep s i).2.contacts = s.contacts from hcache]
    rw [contactShown_append] at hid
    exact hinv.fresh hset id (by simpa [addContactShown, hph, hlog] using hid)

theorem contactInv_unflagged (h : (bxChainSync s i.sync).state.contactFromZero = false) :
    ContactInv (calls ++ [(chainStep s i).1]) (chainStep s i).2 := by
  have hno : (chainStep s i).2.contactFromZero ≠ true := by
    rw [chainStep_contactFromZero, h]
    decide
  exact ⟨fun hflag => absurd hflag hno, fun hflag => absurd hflag hno⟩

theorem contactPruneSafeAt_archived (hsync : bxChainSync s i.sync = syncContactArchived s i.sync)
    (hphase : s.cursors.memory.phase = .contactArchived) (hinv : ContactInv calls s) (hflag : s.contactFromZero = true)
    (hwalk : Walker.undisturbed ContactItem.keepsConnection i.sync.contacts s.cursors.memory.offset) :
    ContactPruneSafeAt calls (chainStep s i).1 := by
  intro _ id hid drift hd hmem
  obtain ⟨-, hkept, hfresh⟩ := syncContactArchived_undisturbed hwalk
  have hout : (chainStep s i).1.out = syncContactArchived s i.sync := hsync
  have hph : (chainStep s i).1.pre.cursors.memory.phase = .contactArchived := hphase
  rw [hout] at hmem
  have hstale := Cache.stale_of_mem_cacheIterAll hd hmem
  rw [contactShown_append] at hid
  simp only [addContactShown, hph, hout, List.mem_append] at hid
  rcases hid with hid | hid
  · exact hinv.fresh hflag id hid (hkept.stale hstale)
  · exact hfresh id hid hstale

end

theorem contactInv_step (calls : List ChainCall) (s : ChainState) (i : ChainStepInput) (hinv : ContactInv calls s)
    (hC : ContactCondition (chainStep s i).1) :
    ContactPruneSafeAt calls (chainStep s i).1 ∧ ContactInv (calls ++ [(chainStep s i).1]) (chainStep s i).2 := by
  have safe : (bxChainSync s i.sync).result.pruneContact = false → ContactPruneSafeAt calls (chainStep s i).1 :=
    fun h hp => absurd hp (by rw [show (chainStep s i).1.out = bxChainSync s i.sync from rfl, h]; decide)
  -- In the other phases there is no flag, so a call that leaves the flag alone is harmless.
  have other : s.cursors.memory.phase.resource ≠ .contact →
      ContactPruneSafeAt calls (chainStep s i).1 ∧ ContactInv (calls ++ [(chainStep s i).1]) (chainStep s i).2 := by
    intro hne
    have hf := frame_bxChainSync s i.sync .contact fun _ => hne
    have hno : s.contactFromZero = false := Bool.eq_false_iff.mpr fun h => hne (by rw [hinv.archived h]; rfl)
    exact ⟨safe hf.prune, contactInv_unflagged (hf.fromZero.trans hno)⟩
  cases hconn : i.sync.connected with
  | false => exact ⟨safe (by rw [bxChainSync_disconnected hconn]; rfl), contactInv_disconnected hconn hinv⟩
  | true =>
    obtain ⟨hactive, harchived⟩ := hC hconn
    cases hphase : s.cursors.memory.phase with
    | contactActive =>
      have hsync := bxChainSync_contactActive hconn hphase
      refine ⟨safe (by rw [hsync, syncContactActive_prune]), contactInv_active hsync hphase fun hoffset => hactive ?_⟩
      show s.cursors.memory = _
      rw [← hphase, ← hoffset]
    | contactArchived =>
      have hsync := bxChainSync_contactArchived hconn hphase
      cases hflag : s.contactFromZero with
      | false =>
        obtain ⟨hprune, hnext⟩ := syncContactArchived_unflagged (i := i.sync) hflag
        exact ⟨safe (by rw [hsync, hprune]), contactInv_unflagged (by rw [hsync, hnext])⟩
      | true =>
        have hwalk := harchived hphase hflag
        have hnext := (syncContactArchived_undisturbed hwalk).1
        exact ⟨contactPruneSafeAt_archived hsync hphase hinv hflag hwalk, contactInv_unflagged (hsync ▸ hnext)⟩
    | project => exact other (by rw [hphase]; decide)
    | invoiceList => exact other (by rw [hphase]; decide)
    | invoiceMissed => exact other (by rw [hphase]; decide)

/-- In a run whose calls all meet the condition, every contact prune is safe. -/
theorem contactPruneSafe_of_condition (db : Database) (contacts projects invoices : Cache) (row : BXChainCursor)
    (inputs : List ChainStepInput)
    (hC : ∀ call ∈ outputs chainStep (bxChainInit db contacts projects invoices row) inputs, ContactCondition call) :
    ContactPruneSafe (outputs chainStep (bxChainInit db contacts projects invoices row) inputs) := by
  intro before call after heq
  have h0 : ContactInv [] (bxChainInit db contacts projects invoices row) := ⟨nofun, nofun⟩
  exact run_safe chainStep h0 contactInv_step hC heq

/-! ### Two runs

    Contact 1 is cached and shown by the active list. -/

def contactOne : ContactItem where
  contact := { id := some 1, checksum := 7, userId := none, ownerId := none, contactGroupIds := [] }
  answers := .quiet

def contactStart : ChainState :=
  bxChainInit .empty (cacheSetItem cacheCreate 1 7) cacheCreate cacheCreate ⟨.contactActive, 0⟩

def activePages : ChainStepInput := .of { ChainInput.silent with contacts := [savedPage [contactOne], savedPage []] }

def emptyPage : ChainStepInput := .of { ChainInput.silent with contacts := [savedPage []] }

def afterActivePages : ChainState := (chainStep contactStart activePages).2

/-- The first request of the archived walk has no answer. -/
def afterNoAnswer : ChainState := (chainStep afterActivePages (.of .silent)).2

/-- The archived walk succeeds at once: the flag is set and the prune yields nothing. -/
theorem contactPrune_archivedAtOnce :
    (chainStep afterActivePages emptyPage).1.out.result.pruneContact = true ∧
      ContactPruneSafe (outputs chainStep contactStart [activePages, emptyPage]) :=
  ⟨by decide, contactPruneSafe_of_condition _ _ _ _ _ _ (by decide)⟩

/-- The archived walk fails once and is retried: the flag is set and the prune yields contact 1. -/
theorem contactPrune_archivedRetried :
    ¬ContactPruneSafe (outputs chainStep contactStart [activePages, .of .silent, emptyPage]) := by
  intro h
  have hyield := h [(chainStep contactStart activePages).1, (chainStep afterActivePages (.of .silent)).1]
    (chainStep afterNoAnswer emptyPage).1 [] rfl (by decide) 1 (by decide) 1 le_rfl
  exact absurd hyield (by decide)

end BxSync
