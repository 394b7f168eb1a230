import BxSync.Threads

/-! What a phase leaves alone. Each phase works for one resource. The caches and flags of the other two are
    as before, and nothing of theirs is pruned or bumped. -/

namespace BxSync

def BXChainPhase.resource : BXChainPhase → Resource
  | .contactActive => .contact
  | .contactArchived => .contact
  | .project => .project
  | .invoiceList => .invoice
  | .invoiceMissed => .invoice

def ChainState.cache (s : ChainState) : Resource → Cache
  | .contact => s.contacts
  | .project => s.projects
  | .invoice => s.invoices

/-- The flag of a finished walk from offset 0. Projects need none. -/
def ChainState.fromZero (s : ChainState) : Resource → Bool
  | .contact => s.contactFromZero
  | .project => false
  | .invoice => s.invoiceFromZero

def BXChainResult.prune (r : BXChainResult) : Resource → Bool
  | .contact => r.pruneContact
  | .project => r.pruneProject
  | .invoice => r.pruneInvoice

def BXChainResult.bump (r : BXChainResult) : Resource → Bool
  | .contact => r.bumpContact
  | .project => r.bumpProject
  | .invoice => r.bumpInvoice

/-- A call leaves a resource alone. -/
structure Frame (resource : Resource) (s : ChainState) (out : ChainOut) : Prop where
  cache : out.state.cache resource = s.cache resource
  fromZero : out.state.fromZero resource = s.fromZero resource
  prune : out.result.prune resource = false
  bump : out.result.bump resource = false

section

variable {resource : Resource} (s : ChainState) (i : ChainInput)

theorem frame_syncContactActive (h : resource ≠ .contact) : Frame resource s (syncContactActive s i) := by
  unfold syncContactActive
  dsimp only
  cases resource with
  | contact => exact absurd rfl h
  | project => split <;> exact ⟨rfl, rfl, rfl, rfl⟩
  | invoice => split <;> exact ⟨rfl, rfl, rfl, rfl⟩

theorem frame_syncContactArchived (h : resource ≠ .contact) : Frame resource s (syncContactArchived s i) := by
  unfold syncContactArchived
  dsimp only
  cases resource with
  | contact => exact absurd rfl h
  | project => split <;> exact ⟨rfl, rfl, rfl, rfl⟩
  | invoice => split <;> exact ⟨rfl, rfl, rfl, rfl⟩

theorem frame_syncProject (h : resource ≠ .project) : Frame resource s (syncProject s i) := by
  unfold syncProject
  dsimp only
  cases resource with
  | contact => split <;> exact ⟨rfl, rfl, rfl, rfl⟩
  | project => exact absurd rfl h
  | invoice => split <;> exact ⟨rfl, rfl, rfl, rfl⟩

theorem frame_syncInvoiceList (h : resource ≠ .invoice) : Frame resource s (syncInvoiceList s i) := by
  unfold syncInvoiceList
  dsimp only
  cases resource with
  | contact => split_ifs <;> exact ⟨rfl, rfl, rfl, rfl⟩
  | project => split_ifs <;> exact ⟨rfl, rfl, rfl, rfl⟩
  | invoice => exact absurd rfl h

theorem frame_syncInvoiceMissed (h : resource ≠ .invoice) : Frame resource s (syncInvoiceMissed s i) := by
  unfold syncInvoiceMissed
  dsimp only
  cases resource with
  | contact => split <;> exact ⟨rfl, rfl, rfl, rfl⟩
  | project => split <;> exact ⟨rfl, rfl, rfl, rfl⟩
  | invoice => exact absurd rfl h

/-- A call without a connection leaves every resource alone, and so does a phase the other resources. -/
theorem frame_bxChainSync (resource : Resource) (h : i.connected = true → s.cursors.memory.phase.resource ≠ resource) :
    Frame resource s (bxChainSync s i) := by
  cases hc : i.connected with
  | false =>
    rw [bxChainSync_disconnected hc]
    cases resource <;> exact ⟨rfl, rfl, rfl, rfl⟩
  | true =>
    have hne := h hc
    cases hp : s.cursors.memory.phase with
    | contactActive =>
      rw [bxChainSync_contactActive hc hp]
      exact frame_syncContactActive s i fun heq => hne (by rw [hp, heq]; rfl)
    | contactArchived =>
      rw [bxChainSync_contactArchived hc hp]
      exact frame_syncContactArchived s i fun heq => hne (by rw [hp, heq]; rfl)
    | project =>
      rw [bxChainSync_project hc hp]
      exact frame_syncProject s i fun heq => hne (by rw [hp, heq]; rfl)
    | invoiceList =>
      rw [bxChainSync_invoiceList hc hp]
      exact frame_syncInvoiceList s i fun heq => hne (by rw [hp, heq]; rfl)
    | invoiceMissed =>
      rw [bxChainSync_invoiceMissed hc hp]
      exact frame_syncInvoiceMissed s i fun heq => hne (by rw [hp, heq]; rfl)

end

/-- The invoice list is only the first phase of its resource. -/
theorem syncInvoiceList_prune (s : ChainState) (i : ChainInput) : (syncInvoiceList s i).result.pruneInvoice = false := by
  unfold syncInvoiceList
  dsimp only
  split_ifs <;> rfl

/-! ### A whole step -/

theorem chainStep_cache (s : ChainState) (i : ChainStepInput) (resource : Resource)
    (hp : (bxChainSync s i.sync).result.prune resource = false)
    (hb : (bxChainSync s i.sync).result.bump resource = false) :
    (chainStep s i).2.cache resource = (bxChainSync s i.sync).state.cache resource := by
  cases resource with
  | contact => exact chainStep_contacts s i hp hb
  | project => exact chainStep_projects s i hp hb
  | invoice => exact chainStep_invoices s i hp hb

theorem chainStep_fromZero (s : ChainState) (i : ChainStepInput) (resource : Resource) :
    (chainStep s i).2.fromZero resource = (bxChainSync s i.sync).state.fromZero resource := by
  cases resource with
  | contact => exact chainStep_contactFromZero s i
  | project => rfl
  | invoice => exact chainStep_invoiceFromZero s i

/-- A step in a phase of another resource, or without a connection, keeps a cache and a flag. -/
theorem chainStep_frame (s : ChainState) (i : ChainStepInput) (resource : Resource)
    (h : i.sync.connected = true → s.cursors.memory.phase.resource ≠ resource) :
    (chainStep s i).2.cache resource = s.cache resource ∧ (chainStep s i).2.fromZero resource = s.fromZero resource := by
  have hf := frame_bxChainSync s i.sync resource h
  exact ⟨(chainStep_cache s i resource hf.prune hf.bump).trans hf.cache, (chainStep_fromZero s i resource).trans hf.fromZero⟩

end BxSync
