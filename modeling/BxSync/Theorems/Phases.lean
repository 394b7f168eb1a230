import BxSync.Theorems.Frame
import BxSync.Theorems.Missed

/-! Where the cursor in memory goes. A walk stays in its phase, a phase that ends moves on, and an invoice
    list that was resumed leaves the missed phase out. -/

namespace BxSync

/-- The order of the chain. -/
def BXChainPhase.next : BXChainPhase → BXChainPhase
  | .contactActive => .contactArchived
  | .contactArchived => .project
  | .project => .invoiceList
  | .invoiceList => .invoiceMissed
  | .invoiceMissed => .contactActive

theorem phase_onValidatedPage (phase : BXChainPhase) (k : Cursors) (next : Nat) (save : Save)
    (h : k.memory.phase = phase) : (onValidatedPage phase k next save).2.1.memory.phase = phase := by
  unfold onValidatedPage checkpoint
  dsimp only
  split_ifs
  · exact h
  · exact phase_normalize _
  · exact h

section

variable (s : ChainState) (i : ChainInput)

theorem phase_walkContacts (archived : Bool) {phase : BXChainPhase} (h : s.cursors.memory.phase = phase) :
    (walkContacts s i archived phase).cursor.memory.phase = phase :=
  Walker.walkPages_cursor _ (Q := fun k : Cursors => k.memory.phase = phase) (phase_onValidatedPage phase) _ _ _ _ h

theorem phase_walkProjects (h : s.cursors.memory.phase = .project) : (walkProjects s i).cursor.memory.phase = .project :=
  Walker.walkPages_cursor _ (Q := fun k : Cursors => k.memory.phase = .project) (phase_onValidatedPage .project) _ _ _ _ h

theorem phase_walkInvoices (h : s.cursors.memory.phase = .invoiceList) :
    (walkInvoices s i).cursor.memory.phase = .invoiceList :=
  Walker.walkPages_cursor _ (Q := fun k : Cursors => k.memory.phase = .invoiceList) (phase_onValidatedPage .invoiceList) _ _ _ _ h

@[simp] theorem phase_finishResource (log : List Event) (next : BXChainPhase) (save : Save) (contact project invoice : Bool) :
    (finishResource s log next save contact project invoice).state.cursors.memory.phase = next :=
  phase_normalize _

/-- A call stays in its phase, or goes to the next, or skips the missed phase after a resumed list. -/
theorem phase_bxChainSync :
    (bxChainSync s i).state.cursors.memory.phase = s.cursors.memory.phase ∨
      (bxChainSync s i).state.cursors.memory.phase = s.cursors.memory.phase.next ∨
      (s.cursors.memory.phase = .invoiceList ∧ (bxChainSync s i).state.cursors.memory.phase = .contactActive) := by
  cases hc : i.connected with
  | false =>
    rw [bxChainSync_disconnected hc]
    exact Or.inl rfl
  | true =>
    cases hp : s.cursors.memory.phase with
    | contactActive =>
      rw [bxChainSync_contactActive hc hp]
      unfold syncContactActive
      dsimp only
      split
      · exact Or.inl (phase_walkContacts _ i false hp)
      · exact Or.inr (Or.inl (phase_normalize _))
    | contactArchived =>
      rw [bxChainSync_contactArchived hc hp]
      unfold syncContactArchived
      dsimp only
      split
      · exact Or.inl (phase_walkContacts _ i true hp)
      · exact Or.inr (Or.inl (phase_normalize _))
    | project =>
      rw [bxChainSync_project hc hp]
      unfold syncProject
      dsimp only
      split
      · exact Or.inl (phase_walkProjects s i hp)
      · exact Or.inr (Or.inl (phase_normalize _))
    | invoiceList =>
      rw [bxChainSync_invoiceList hc hp]
      unfold syncInvoiceList
      dsimp only
      split_ifs
      · exact Or.inl (phase_walkInvoices _ i hp)
      · exact Or.inr (Or.inl (phase_normalize _))
      · exact Or.inr (Or.inr ⟨rfl, phase_normalize _⟩)
    | invoiceMissed =>
      rw [bxChainSync_invoiceMissed hc hp]
      unfold syncInvoiceMissed
      dsimp only
      split
      · exact Or.inl hp
      · exact Or.inr (Or.inl (phase_normalize _))

theorem phase_invoiceMissed (h : (bxChainSync s i).state.cursors.memory.phase = .invoiceMissed) :
    s.cursors.memory.phase = .invoiceMissed ∨ s.cursors.memory.phase = .invoiceList := by
  rcases phase_bxChainSync s i with hstay | hnext | ⟨hlist, -⟩
  · exact Or.inl (hstay ▸ h)
  · rw [h] at hnext
    cases hp : s.cursors.memory.phase with
    | contactActive | contactArchived | project | invoiceMissed =>
      rw [hp] at hnext
      exact nomatch hnext
    | invoiceList => exact Or.inr rfl
  · exact Or.inr hlist

end

/-! ### What a call logs -/

theorem requestedIds_ofWalk {log : List Event} (h : ∀ e ∈ log, e.ofWalk) : requestedIds log = [] := by
  refine List.flatMap_eq_nil_iff.mpr fun e he => ?_
  have := h e he
  cases e with
  | showed | handed | accepted | walked | saved | loaded | fetchedMissed | deleted => rfl
  | got => exact nomatch this

theorem ofWalk_saved (o : Option BXChainCursor) : ∀ e ∈ o.toList.map Event.saved, e.ofWalk := by
  cases o <;> simp [Event.ofWalk]

/-- Every phase but the missed one only walks a list. -/
theorem ofWalk_bxChainSync (s : ChainState) (i : ChainInput) (h : s.cursors.memory.phase ≠ .invoiceMissed) :
    ∀ e ∈ (bxChainSync s i).log, e.ofWalk := by
  cases hc : i.connected with
  | false =>
    rw [bxChainSync_disconnected hc]
    simp
  | true =>
    cases hp : s.cursors.memory.phase with
    | contactActive =>
      rw [bxChainSync_contactActive hc hp]
      unfold syncContactActive
      dsimp only
      split
      · exact Walker.ofWalk_walkPages _ _ _ _ _
      · exact List.forall_mem_append.mpr ⟨Walker.ofWalk_walkPages _ _ _ _ _, ofWalk_saved _⟩
    | contactArchived =>
      rw [bxChainSync_contactArchived hc hp]
      unfold syncContactArchived
      dsimp only
      split
      · exact Walker.ofWalk_walkPages _ _ _ _ _
      · exact List.forall_mem_append.mpr ⟨Walker.ofWalk_walkPages _ _ _ _ _, ofWalk_saved _⟩
    | project =>
      rw [bxChainSync_project hc hp]
      unfold syncProject
      dsimp only
      split
      · exact Walker.ofWalk_walkPages _ _ _ _ _
      · exact List.forall_mem_append.mpr ⟨Walker.ofWalk_walkPages _ _ _ _ _, ofWalk_saved _⟩
    | invoiceList =>
      rw [bxChainSync_invoiceList hc hp]
      unfold syncInvoiceList
      dsimp only
      split_ifs
      · exact Walker.ofWalk_walkPages _ _ _ _ _
      · exact List.forall_mem_append.mpr ⟨Walker.ofWalk_walkPages _ _ _ _ _, ofWalk_saved _⟩
      · exact List.forall_mem_append.mpr ⟨Walker.ofWalk_walkPages _ _ _ _ _, ofWalk_saved _⟩
    | invoiceMissed => exact absurd hp h

end BxSync
