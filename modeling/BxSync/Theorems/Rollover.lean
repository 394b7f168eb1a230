import BxSync.Theorems.CacheTable

/-! A step of the version of a cache. The stamp of an item says both when its id was seen and, by a zero, that its row is
    deleted. The step that reaches the end of the range writes a one to every stamp, so deleted ids come back. -/

namespace BxSync

namespace Cache

/-- The step keeps what the cache says of each id: one that is not set stays so, and a live one keeps its checksum and a
    stamp between 1 and the version. Where the versions start again, nothing can be pruned. -/
structure KeepsIds (c : Cache) : Prop where
  notSet : ∀ id checksum checksum', (cacheCheckItem c id checksum).1 = .cacheNotSet →
    (cacheCheckItem (cacheNextVersion c) id checksum').1 = .cacheNotSet
  live : ∀ id item, c.entry id = some item → 0 < item.lastSeen → ∃ item', (cacheNextVersion c).entry id = some item' ∧
    item'.checksum = item.checksum ∧ 1 ≤ item'.lastSeen ∧ item'.lastSeen ≤ (cacheNextVersion c).version
  unprunable : c.version + 1 = uint64Max → ∀ iter drift, iter.version = (cacheNextVersion c).version → 1 ≤ drift →
    (cacheIterNextPrunableId (cacheNextVersion c) iter drift).1 = none

theorem checkItem_eq_notSet (c : Cache) (id checksum : Nat) :
    (cacheCheckItem c id checksum).1 = .cacheNotSet ↔ ¬c.Live id := by
  rw [← cacheCheckItem_notSet c id checksum, not_not]

/-- Below the end of the range the items stay as they are. -/
theorem keepsIds_of_lt {c : Cache} (hlt : c.version + 1 ≠ uint64Max) : c.KeepsIds := by
  have hentry := entry_cacheNextVersion c hlt
  refine ⟨fun id checksum checksum' hnotSet => ?_, fun id item hitem hpos => ?_, fun hwrap => absurd hwrap hlt⟩
  · rw [checkItem_eq_notSet] at hnotSet ⊢
    rintro ⟨item, hitem, hpos⟩
    exact hnotSet ⟨item, (hentry id).symm.trans hitem, hpos⟩
  · refine ⟨item, (hentry id).trans hitem, rfl, hpos, ?_⟩
    rw [version_cacheNextVersion c hlt]
    exact (c.seen item (c.entry_eq_some.mp hitem).1).trans (Nat.le_succ _)

/-- At the end of the range every item gets the stamp of a live one. -/
theorem live_reset (c : Cache) (id : Nat) : (cacheResetVersion c).Live id ↔ ∃ item, c.entry id = some item := by
  unfold Live
  rw [entry_cacheResetVersion]
  constructor
  · rintro ⟨item, hitem, -⟩
    obtain ⟨old, hold, -⟩ := Option.map_eq_some_iff.mp hitem
    exact ⟨old, hold⟩
  · rintro ⟨item, hitem⟩
    exact ⟨_, by rw [hitem, Option.map_some], Nat.one_pos⟩

/-- A step keeps what the cache says of its ids exactly when it does not reset the stamps, or nothing in the cache is
    deleted. -/
theorem keepsIds_iff (c : Cache) :
    c.KeepsIds ↔ (c.version + 1 = uint64Max → ∀ item ∈ c.items, 0 < item.lastSeen) := by
  constructor
  · intro h hwrap item hitem
    have hentry : c.entry item.id = some item := c.entry_eq_some.mpr ⟨hitem, rfl⟩
    by_contra hdeleted
    have hnotSet : (cacheCheckItem c item.id 0).1 = .cacheNotSet := by
      rw [checkItem_eq_notSet]
      rintro ⟨live, hlive, hpos⟩
      obtain rfl := Option.some.inj (hentry.symm.trans hlive)
      exact hdeleted hpos
    have hkept := h.notSet item.id 0 0 hnotSet
    rw [checkItem_eq_notSet, cacheNextVersion_wrap c hwrap, live_reset] at hkept
    exact hkept ⟨item, hentry⟩
  · intro hall
    by_cases hwrap : c.version + 1 = uint64Max
    · refine ⟨fun id checksum checksum' hnotSet => ?_, fun id item hitem hpos => ?_, fun _ iter drift hiter hdrift => ?_⟩
      · rw [checkItem_eq_notSet] at hnotSet ⊢
        rw [cacheNextVersion_wrap c hwrap, live_reset]
        rintro ⟨item, hitem⟩
        exact hnotSet ⟨item, hitem, hall hwrap item (c.entry_eq_some.mp hitem).1⟩
      · rw [cacheNextVersion_wrap c hwrap, entry_cacheResetVersion, hitem]
        exact ⟨_, rfl, rfl, le_refl 1, le_refl 1⟩
      · rw [cacheNextVersion_wrap c hwrap] at hiter ⊢
        have hone : iter.version = 1 := hiter
        unfold cacheIterNextPrunableId
        rw [if_pos (by omega)]
    · exact keepsIds_of_lt hwrap

/-- A cache before its last version, whose only id is deleted. -/
def lastVersion : Cache where
  version := uint64Max - 1
  items := [⟨5, 7, 0⟩]
  sorted := List.pairwise_singleton _ _
  seen item hitem := by
    obtain rfl := List.mem_singleton.mp hitem
    exact Nat.zero_le _
  version_pos := by decide
  version_lt := by decide

/-- The id is not set, and after the step it is. -/
theorem keepsIds_lastVersion : (cacheCheckItem lastVersion 5 7).1 = .cacheNotSet ∧
    (cacheCheckItem (cacheNextVersion lastVersion) 5 7).1 = .cacheOk ∧ ¬lastVersion.KeepsIds := by
  have hbefore : (cacheCheckItem lastVersion 5 7).1 = .cacheNotSet := by
    rw [checkItem_eq_notSet]
    rintro ⟨item, hitem, hpos⟩
    obtain rfl := List.mem_singleton.mp (lastVersion.entry_eq_some.mp hitem).1
    exact absurd hpos (lt_irrefl 0)
  have hafter : (cacheCheckItem (cacheNextVersion lastVersion) 5 7).1 = .cacheOk := by
    have hentry : lastVersion.entry 5 = some ⟨5, 7, 0⟩ := lastVersion.entry_eq_some.mpr ⟨List.mem_cons_self, rfl⟩
    rw [cacheCheckItem_state, cacheNextVersion_wrap _ (by decide), entry_cacheResetVersion, hentry]
    rfl
  refine ⟨hbefore, hafter, fun h => ?_⟩
  have hkept := h.notSet 5 7 7 hbefore
  rw [hafter] at hkept
  cases hkept

end Cache

end BxSync
