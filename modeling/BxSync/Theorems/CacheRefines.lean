import BxSync.CacheArray
import BxSync.CacheMap
import BxSync.Lib.Machine

/-! The array of the ids cache stands for a finite map: over any sequence of operations the answers are those
    of the map, and so are the lookups and the iterations at the end.

    The array represents the list of its items in use, and the list refines the map. -/

namespace BxSync

/-- The operations on the array. -/
def CacheArray.step (a : CacheArray) : CacheOp → Option CacheState × CacheArray
  | .set id checksum => (none, a.cacheSetItem id checksum)
  | .check id checksum => (some (a.cacheCheckItem id checksum).1, (a.cacheCheckItem id checksum).2)
  | .tombstone id => (none, a.cacheTombstone id)
  | .prune => (none, a.cachePrune)
  | .nextVersion => (none, a.cacheNextVersion)

/-- Fewer than 2^32 - 1000 ids, and a version below the wrap. -/
def CacheMap.InBounds (m : CacheMap) : Prop :=
  m.ids.keys.length + cacheChunkSize < uint32Size ∧ m.version < uint64Max

/-- What the binary search finds of an id. -/
def CacheArray.lookup (a : CacheArray) (id : Nat) : Option Seen :=
  (a.findItem id).bind fun i => a.items[i]?.map fun item => { checksum := item.checksum, lastSeen := item.lastSeen }

/-- What a search through all items in use finds of an id. -/
def CacheArray.scan (a : CacheArray) (id : Nat) : Option Seen :=
  ((a.items.take a.count).find? fun item => decide (item.id = id)).map fun item =>
    { checksum := item.checksum, lastSeen := item.lastSeen }

structure CacheArray.WellFormed (a : CacheArray) : Prop where
  increasing : ((a.items.take a.count).map CacheItem.id).Pairwise (· < ·)
  count_le : a.count ≤ a.size
  length : a.items.length = a.size
  seen : ∀ item ∈ a.items.take a.count, item.lastSeen ≤ a.version

/-- The array stands for the map. -/
def CacheArray.Refines (a : CacheArray) (m : CacheMap) : Prop := ∃ c : Cache, a.Represents c ∧ c.Refines m

namespace CacheArray.Refines

variable {a : CacheArray} {m : CacheMap}

theorem create : cacheCreate.Refines .empty := ⟨BxSync.cacheCreate, Represents.create, Cache.Refines.create⟩

theorem step (h : a.Refines m) (op : CacheOp) (hpre : m.InBounds) (hpost : (m.step op).2.InBounds) :
    (a.step op).1 = (m.step op).1 ∧ (a.step op).2.Refines (m.step op).2 := by
  obtain ⟨c, hc, hm⟩ := h
  cases op with
  | set id checksum =>
    have hroom : a.count + cacheChunkSize < uint32Size := by
      rw [← hc.count, hm.length]
      exact hpre.1
    exact ⟨rfl, _, hc.cacheSetItem hroom id checksum, hm.cacheSetItem id checksum⟩
  | check id checksum =>
    obtain ⟨hanswer, harray⟩ := hc.cacheCheckItem id checksum
    obtain ⟨hstate, hmap⟩ := hm.cacheCheckItem id checksum
    exact ⟨(congrArg some hanswer).trans hstate, _, harray, hmap⟩
  | tombstone id => exact ⟨rfl, _, hc.cacheTombstone id, hm.cacheTombstone id⟩
  | prune => exact ⟨rfl, _, hc.cachePrune, hm.cachePrune⟩
  | nextVersion => exact ⟨rfl, _, hc.cacheNextVersion, hm.cacheNextVersion hpost.2⟩

theorem wellFormed (h : a.Refines m) : a.WellFormed := by
  obtain ⟨c, hc, -⟩ := h
  refine ⟨?_, hc.count_le, hc.length, ?_⟩
  · rw [hc.items]
    exact c.sorted
  · rw [hc.items, hc.version]
    exact c.seen

theorem count (h : a.Refines m) : a.count = m.ids.keys.length := by
  obtain ⟨c, hc, hm⟩ := h
  rw [← hc.count, hm.length]

theorem scan (h : a.Refines m) (id : Nat) : a.scan id = m.ids.lookup id := by
  obtain ⟨c, hc, hm⟩ := h
  have hentry : (a.items.take a.count).find? (fun item => decide (item.id = id)) = c.entry id := by
    rw [hc.items]
    rfl
  unfold CacheArray.scan
  rw [hentry, hm.entry, Option.map_map]
  exact Option.map_id'

theorem lookup (h : a.Refines m) (id : Nat) : a.lookup id = m.ids.lookup id := by
  rw [← h.scan]
  obtain ⟨c, hc, -⟩ := h
  have hentry : (a.items.take a.count).find? (fun item => decide (item.id = id)) = c.entry id := by
    rw [hc.items]
    rfl
  unfold CacheArray.lookup CacheArray.scan
  rw [hentry, hc.findItem]
  cases hfind : c.findItem id with
  | none =>
    rw [c.findItem_eq_none.mp hfind]
    rfl
  | some i =>
    obtain ⟨item, hitem, hsome⟩ := c.findItem_eq_some hfind
    have hi : i < a.count := by
      rw [← hc.count]
      exact (List.getElem?_eq_some_iff.mp hitem).1
    rw [hsome, Option.bind_some, hc.getElem? hi, hitem]

theorem iterAll (h : a.Refines m) (drift id : Nat) :
    id ∈ a.cacheIterAll drift ↔
      ∃ seen, m.ids.lookup id = some seen ∧ 0 < seen.lastSeen ∧ seen.lastSeen + drift ≤ m.version := by
  obtain ⟨c, hc, hm⟩ := h
  rw [hc.cacheIterAll, mem_cacheIterAll_iff, hm.entry, hm.version]
  constructor
  · rintro ⟨item, hitem, hold⟩
    obtain ⟨seen, hseen, rfl⟩ := Option.map_eq_some_iff.mp hitem
    exact ⟨seen, hseen, hold⟩
  · rintro ⟨seen, hseen, hold⟩
    exact ⟨_, Option.map_eq_some_iff.mpr ⟨seen, hseen, rfl⟩, hold⟩

theorem iterAll_sorted (h : a.Refines m) (drift : Nat) : (a.cacheIterAll drift).Pairwise (· < ·) := by
  obtain ⟨c, hc, -⟩ := h
  rw [hc.cacheIterAll]
  exact cacheIterAll_sorted c drift

end CacheArray.Refines

open Machine in
/-- Over any sequence of operations that stays in bounds the array answers as the map does, and in every state
    it reaches it is well formed and agrees with the map in every lookup and every iteration. -/
theorem idsCache_refinesMap (ops : List CacheOp)
    (hbounds : ∀ before, before <+: ops → (final CacheMap.step .empty before).InBounds) :
    let a := final CacheArray.step .cacheCreate ops
    let m := final CacheMap.step .empty ops
    outputs CacheArray.step .cacheCreate ops = outputs CacheMap.step .empty ops ∧
      a.WellFormed ∧ a.count = m.ids.keys.length ∧
      (∀ id, a.lookup id = m.ids.lookup id ∧ a.scan id = m.ids.lookup id) ∧
      ∀ drift, (a.cacheIterAll drift).Pairwise (· < ·) ∧
        ∀ id, id ∈ a.cacheIterAll drift ↔
          ∃ seen, m.ids.lookup id = some seen ∧ 0 < seen.lastSeen ∧ seen.lastSeen + drift ≤ m.version := by
  obtain ⟨houtputs, hfinal⟩ := outputs_eq_of_sim CacheArray.step (R := CacheArray.Refines) (B := CacheMap.InBounds)
    (fun _ _ op h hpre hpost => h.step op hpre hpost) ops .cacheCreate .empty CacheArray.Refines.create hbounds
  exact ⟨houtputs, hfinal.wellFormed, hfinal.count, fun id => ⟨hfinal.lookup id, hfinal.scan id⟩,
    fun drift => ⟨hfinal.iterAll_sorted drift, hfinal.iterAll drift⟩⟩

/-- A run with each operation: an id is set, seen, changed and deleted. -/
def shortRun : List CacheOp :=
  [.set 7 1, .set 3 1, .nextVersion, .check 7 2, .tombstone 3, .check 3 1, .prune, .set 5 4]

open Machine in
theorem idsCache_refinesMap_shortRun :
    (∀ before, before <+: shortRun → (final CacheMap.step .empty before).InBounds) ∧
      outputs CacheArray.step .cacheCreate shortRun = outputs CacheMap.step .empty shortRun ∧
      (final CacheArray.step .cacheCreate shortRun).count = (final CacheMap.step .empty shortRun).ids.keys.length := by
  have hbounds : ∀ before, before <+: shortRun → (final CacheMap.step .empty before).InBounds := by
    have htake : ∀ k < 9, (final CacheMap.step .empty (shortRun.take k)).InBounds := by
      unfold CacheMap.InBounds
      decide
    intro before hbefore
    rw [List.prefix_iff_eq_take.mp hbefore]
    exact htake _ (Nat.lt_succ_of_le hbefore.length_le)
  obtain ⟨houtputs, -, hcount, -⟩ := idsCache_refinesMap shortRun hbounds
  exact ⟨hbounds, houtputs, hcount⟩

end BxSync
