import BxSync.Chain
import BxSync.File

/-! Walks whose rows check the cache and store into it. Whatever was handed over is fresh afterwards. -/

namespace BxSync

/-- The row callback keeps the cache and leaves the id of its row fresh. -/
structure Walker.TouchesCache {κ ρ : Type} (w : Walker (Database × Cache) κ ρ) : Prop where
  kept : ∀ s row, Cache.Kept s.2 (w.sync s row).2.2
  fresh : ∀ s row id, w.rowId row = some id → ¬(w.sync s row).2.2.Stale id

namespace Walker.TouchesCache

variable {κ ρ : Type} {w : Walker (Database × Cache) κ ρ} (h : w.TouchesCache) (connected : Bool)
  (replies : List (Option (PageReply ρ))) (start : Nat) (s : Database × Cache) (k : κ)

include h

theorem kept_walk : Cache.Kept s.2 (w.walkPagesFrom connected replies start s k).store.2 := by
  unfold walkPagesFrom
  split
  · exact w.walkPages_store (R := fun a b => Cache.Kept a.2 b.2) (fun a => .refl a.2) .trans h.kept replies start s k
  · exact .refl _

theorem fresh_handed : ∀ id ∈ handedIds (w.walkPagesFrom connected replies start s k).log,
    ¬(w.walkPagesFrom connected replies start s k).store.2.Stale id := by
  unfold walkPagesFrom
  split
  · refine w.walkPages_handed (Q := fun id store => ¬store.2.Stale id) h.fresh ?_ replies start s k
    intro s row id hfresh hs
    exact hfresh ((h.kept s row).stale hs)
  · exact fun id hid => nomatch hid

/-- A walk without an error leaves nothing it showed stale. -/
theorem fresh_shown (hw : (w.walkPagesFrom connected replies start s k).error = .noError) :
    ∀ id ∈ shownIds (w.walkPagesFrom connected replies start s k).log,
      ¬(w.walkPagesFrom connected replies start s k).store.2.Stale id := by
  have hhanded := h.fresh_handed connected replies start s k
  unfold walkPagesFrom at hw hhanded ⊢
  split at hw
  · rename_i hc
    rw [if_pos hc] at hhanded ⊢
    rwa [w.shownIds_walkPages replies start s k hw]
  · exact nomatch hw

end Walker.TouchesCache

/-! ### The four lists -/

section

variable {κ : Type} (onPage : κ → Nat → Save → BXillError × κ × Option BXChainCursor)

theorem touchesCache_contactWalker (archived : Bool) : (contactWalker archived onPage).TouchesCache where
  kept s item := (contactPageItem_touched archived s item).kept
  fresh s item id hid := by
    have hrow : item.contact.id = some id := hid
    have := (contactPageItem_touched archived s item).not_stale
    rwa [hrow] at this

theorem touchesCache_projectWalker : (projectWalker onPage).TouchesCache where
  kept s item := (projectPageItem_touched s item).kept
  fresh s item id hid := by
    have hrow : item.project.id = some id := hid
    have := (projectPageItem_touched s item).not_stale
    rwa [hrow] at this

theorem touchesCache_invoiceWalker : (invoiceWalker onPage).TouchesCache where
  kept s item := (invoicePageItem_touched s item).kept
  fresh s item id hid := by
    have hrow : item.invoice.id = some id := hid
    have := (invoicePageItem_touched s item).not_stale
    rwa [hrow] at this

theorem touchesCache_fileWalker : fileWalker.TouchesCache where
  kept s item := by
    cases hid : item.file.id with
    | none =>
      show Cache.Kept s.2 (filePageItem s item).2.2
      rw [filePageItem_unset s item hid]
      exact .refl _
    | some id => exact (filePageItem_touched s item id hid).kept
  fresh s item id hid := (filePageItem_touched s item id hid).not_stale

end

/-! ### The walks of the chain -/

section

variable (s : ChainState) (i : ChainInput)

theorem kept_walkContacts (archived : Bool) (phase : BXChainPhase) :
    Cache.Kept s.contacts (walkContacts s i archived phase).store.2 :=
  (touchesCache_contactWalker _ archived).kept_walk _ _ _ (s.db, s.contacts) _

theorem fresh_walkContacts (archived : Bool) (phase : BXChainPhase) (h : (walkContacts s i archived phase).error = .noError) :
    ∀ id ∈ shownIds (walkContacts s i archived phase).log, ¬(walkContacts s i archived phase).store.2.Stale id :=
  (touchesCache_contactWalker _ archived).fresh_shown _ _ _ _ _ h

theorem kept_walkProjects : Cache.Kept s.projects (walkProjects s i).store.2 :=
  (touchesCache_projectWalker _).kept_walk _ _ _ (s.db, s.projects) _

theorem fresh_walkProjects (h : (walkProjects s i).error = .noError) :
    ∀ id ∈ shownIds (walkProjects s i).log, ¬(walkProjects s i).store.2.Stale id :=
  (touchesCache_projectWalker _).fresh_shown _ _ _ _ _ h

theorem fresh_walkInvoices (h : (walkInvoices s i).error = .noError) :
    ∀ id ∈ shownIds (walkInvoices s i).log, ¬(walkInvoices s i).store.2.Stale id :=
  (touchesCache_invoiceWalker _).fresh_shown _ _ _ _ _ h

end

end BxSync
