import BxSync.IdsCache
import BxSync.Lib.Block

/-! The array that holds the ids cache (`bx_ids_cache.c`): a block of `size` items, of which the first
    `count` are in use. `IdsCache` has the same operations over the list of the items in use. -/

namespace BxSync

/-- `CACHE_CHUNK_SIZE`. -/
def cacheChunkSize : Nat := 1000

/-- The sizes and counts of the source are 32-bit. -/
def uint32Size : Nat := 2 ^ 32

structure CacheArray where
  size : Nat
  count : Nat
  version : Nat
  items : List CacheItem

namespace CacheArray

def cacheCreate : CacheArray := { size := 0, count := 0, version := 1, items := [] }

/-- The item a fresh block is filled with. -/
def zeroItem : CacheItem := { id := 0, checksum := 0, lastSeen := 0 }

variable (a : CacheArray)

/-- `_grow_cache`. -/
def growCache : CacheArray :=
  { a with
    size := (a.size + cacheChunkSize) % uint32Size
    items := a.items ++ List.replicate cacheChunkSize zeroItem }

/-- `_lower_bound`. -/
def lowerBound (id : Nat) : Nat :=
  SortedSearch.search (fun i => (a.items[i]?.map fun item => decide (item.id < id)).getD false) a.count 0 a.count

/-- `i < c->count && c->items[i].id == id`. -/
def holds (i id : Nat) : Bool := decide (i < a.count) && decide (a.items[i]?.map CacheItem.id = some id)

/-- `_find_item`, as the index of the item. -/
def findItem (id : Nat) : Option Nat :=
  if a.count = 0 then none
  else
    let i := a.lowerBound id
    if a.holds i id then some i else none

/-- `_cache_get`. -/
def cacheGet (idx : Nat) : Option CacheItem := if idx < a.count then a.items[idx]? else none

/-- `_cache_reset_version`. -/
def cacheResetVersion : CacheArray :=
  { a with
    version := 1
    items := (a.items.take a.count).map (fun item => { item with lastSeen := 1 }) ++ a.items.drop a.count }

/-- `cache_set_item`. -/
def cacheSetItem (id checksum : Nat) : CacheArray :=
  let i := a.lowerBound id
  let item : CacheItem := { id, checksum, lastSeen := a.version }
  if a.holds i id then { a with items := a.items.set i item }
  else
    let grown := if a.size ≤ a.count then a.growCache else a
    let moved := if i < a.count then Block.move grown.items (i + 1) i (a.count - i) else grown.items
    { grown with count := (a.count + 1) % uint32Size, items := moved.set i item }

/-- `cache_check_item`. -/
def cacheCheckItem (id checksum : Nat) : CacheState × CacheArray :=
  match a.findItem id with
  | none => (.cacheNotSet, a)
  | some i =>
    match a.items[i]? with
    | none => (.cacheNotSet, a)
    | some current =>
      if current.lastSeen = 0 then (.cacheNotSet, a)
      else
        (if current.checksum ≠ checksum then .cacheNotSync else .cacheOk,
          { a with items := a.items.modify i fun item => { item with lastSeen := a.version } })

/-- `cache_tombstone`. -/
def cacheTombstone (id : Nat) : CacheArray :=
  match a.findItem id with
  | none => a
  | some i => { a with items := a.items.modify i fun item => { item with lastSeen := 0 } }

/-- `cache_prune`: the items to keep move down, and the slots after them are cleared. -/
def cachePrune : CacheArray :=
  let kept := Block.compact (fun item : CacheItem => decide (item.lastSeen ≠ 0)) a.count 0 0 a.items
  { a with
    count := kept.2
    items := if kept.2 < a.count then Block.fill kept.1 kept.2 (a.count - kept.2) zeroItem else kept.1 }

/-- `cache_next_version`. -/
def cacheNextVersion : CacheArray :=
  let next := { a with version := a.version + 1 }
  if next.version = uint64Max then next.cacheResetVersion else next

/-- The loop of `cache_iter_next_prunable_id`. The count bounds its turns. -/
def nextPrunable (bound : Nat) : Nat → Nat → Option Nat × Nat
  | 0, current => (none, current)
  | turns + 1, current =>
    match a.cacheGet current with
    | none => (none, current)
    | some item =>
      if 0 < item.lastSeen ∧ item.lastSeen ≤ bound then (some item.id, current + 1)
      else nextPrunable bound turns (current + 1)

def cacheIterInit : CacheIter := { current := 0, version := a.version }

/-- `cache_iter_next_prunable_id`. -/
def cacheIterNextPrunableId (iter : CacheIter) (drift : Nat) : Option Nat × CacheIter :=
  if iter.version ≤ drift then (none, iter)
  else
    let next := a.nextPrunable (iter.version - drift) a.count iter.current
    (next.1, { iter with current := next.2 })

/-- The ids that at most `fuel` calls from an iterator yield. -/
def cacheIterCollect (drift : Nat) : Nat → CacheIter → List Nat
  | 0, _ => []
  | fuel + 1, iter =>
    match a.cacheIterNextPrunableId iter drift with
    | (none, _) => []
    | (some id, next) => id :: cacheIterCollect drift fuel next

/-- The ids a fresh iterator yields. -/
def cacheIterAll (drift : Nat) : List Nat := a.cacheIterCollect drift (a.count + 1) a.cacheIterInit

end CacheArray

/-! ### The array and the list -/

/-- The items in use are those of the cache, and the block has the size it says. -/
structure CacheArray.Represents (a : CacheArray) (c : Cache) : Prop where
  version : a.version = c.version
  items : a.items.take a.count = c.items
  count_le : a.count ≤ a.size
  length : a.items.length = a.size

namespace CacheArray.Represents

variable {a : CacheArray} {c : Cache}

theorem create : cacheCreate.Represents BxSync.cacheCreate where
  version := rfl
  items := rfl
  count_le := le_rfl
  length := rfl

theorem count (h : a.Represents c) : c.items.length = a.count := by
  rw [← h.items, List.length_take, h.length, Nat.min_eq_left h.count_le]

theorem getElem? (h : a.Represents c) {i : Nat} (hi : i < a.count) : a.items[i]? = c.items[i]? := by
  rw [← h.items, List.getElem?_take, if_pos hi]

theorem lowerBound (h : a.Represents c) (id : Nat) : a.lowerBound id = c.lowerBound id := by
  obtain ⟨hle, hbefore, hafter⟩ := SortedSearch.splits_rank c.sorted id
  rw [h.count] at hle hafter
  rw [c.lowerBound_eq]
  refine SortedSearch.search_of_splits (n := a.count) ⟨hle, ?_, ?_⟩ (Nat.zero_le _) hle le_rfl (by omega)
  · intro i hi
    rw [h.getElem? (by omega)]
    exact hbefore i hi
  · intro i hi hn
    rw [h.getElem? hn]
    exact hafter i hi hn

theorem holds (h : a.Represents c) (i id : Nat) : a.holds i id ↔ ∃ item, c.items[i]? = some item ∧ item.id = id := by
  unfold CacheArray.holds
  rw [Bool.and_eq_true, decide_eq_true_eq, decide_eq_true_eq]
  constructor
  · rintro ⟨hi, hid⟩
    rw [h.getElem? hi] at hid
    exact Option.map_eq_some_iff.mp hid
  · rintro ⟨item, hitem, hid⟩
    have hi : i < a.count := by
      rw [← h.count]
      exact (List.getElem?_eq_some_iff.mp hitem).1
    rw [h.getElem? hi, hitem]
    exact ⟨hi, congrArg some hid⟩

/-- The test after the binary search decides what the lookup of the cache finds. -/
theorem found (h : a.Represents c) (id : Nat) :
    c.findItem id = if a.holds (a.lowerBound id) id then some (a.lowerBound id) else none := by
  have hiff := h.holds (a.lowerBound id) id
  unfold Cache.findItem
  rw [← h.lowerBound]
  dsimp only
  cases hitem : c.items[a.lowerBound id]? with
  | none =>
    rw [if_neg]
    rw [hiff, hitem]
    rintro ⟨item, ⟨⟩, -⟩
  | some item =>
    have hid : a.holds (a.lowerBound id) id ↔ item.id = id := by
      rw [hiff, hitem]
      simp
    by_cases hh : item.id = id
    · rw [if_pos (hid.mpr hh)]
      exact if_pos hh
    · rw [if_neg (hid.not.mpr hh)]
      exact if_neg hh

theorem findItem (h : a.Represents c) (id : Nat) : a.findItem id = c.findItem id := by
  unfold CacheArray.findItem
  rw [h.found]
  split
  · rename_i hz
    simp [CacheArray.holds, hz]
  · rfl

/-! What a change of the items in use leaves of the block. -/

theorem modify (h : a.Represents c) {i : Nat} (f : CacheItem → CacheItem) (hid) (hseen) :
    { a with items := a.items.modify i f }.Represents (c.modify i f hid hseen) where
  version := h.version
  items := by
    rw [List.take_modify, h.items]
    rfl
  count_le := h.count_le
  length := by rw [List.length_modify, h.length]

theorem cacheTombstone (h : a.Represents c) (id : Nat) :
    (a.cacheTombstone id).Represents (BxSync.cacheTombstone c id) := by
  unfold CacheArray.cacheTombstone BxSync.cacheTombstone
  rw [h.findItem]
  cases c.findItem id with
  | none => exact h
  | some i => exact h.modify _ _ _

theorem cacheCheckItem (h : a.Represents c) (id checksum : Nat) :
    (a.cacheCheckItem id checksum).1 = (BxSync.cacheCheckItem c id checksum).1 ∧
      (a.cacheCheckItem id checksum).2.Represents (BxSync.cacheCheckItem c id checksum).2 := by
  unfold CacheArray.cacheCheckItem BxSync.cacheCheckItem
  rw [h.findItem]
  cases hfind : c.findItem id with
  | none => exact ⟨rfl, h⟩
  | some i =>
    obtain ⟨item, hitem, -⟩ := c.findItem_eq_some hfind
    have hi : i < a.count := by
      rw [← h.count]
      exact (List.getElem?_eq_some_iff.mp hitem).1
    have hseen := h.modify (i := i) (fun item => { item with lastSeen := c.version }) (fun _ => rfl) (fun _ _ => le_rfl)
    dsimp only
    rw [h.getElem? hi, hitem]
    dsimp only
    split
    · exact ⟨rfl, h⟩
    · exact ⟨rfl, by simpa only [h.version] using hseen⟩

theorem cachePrune (h : a.Represents c) : a.cachePrune.Represents (BxSync.cachePrune c) := by
  have hn : 0 + a.count ≤ a.items.length := by
    rw [h.length, Nat.zero_add]
    exact h.count_le
  obtain ⟨hend, hkept⟩ := Block.compact_spec (fun item : CacheItem => decide (item.lastSeen ≠ 0)) a.count 0 0 a.items le_rfl hn
  have hlen := Block.length_compact (fun item : CacheItem => decide (item.lastSeen ≠ 0)) a.count 0 0 a.items
  rw [List.drop_zero, h.items, Nat.zero_add] at hend
  rw [List.drop_zero, h.items, List.take_zero, List.nil_append] at hkept
  have hle : (c.items.filter fun item => decide (item.lastSeen ≠ 0)).length ≤ a.count := by
    rw [← h.count]
    exact List.length_filter_le _ _
  have hcount := h.count_le
  refine ⟨h.version, ?_, ?_, ?_⟩
  · dsimp only [CacheArray.cachePrune]
    split
    · rw [Block.take_fill (by rw [hlen, h.length]; omega)]
      exact hkept
    · exact hkept
  · dsimp only [CacheArray.cachePrune]
    omega
  · dsimp only [CacheArray.cachePrune]
    split
    · rw [Block.length_fill (by rw [hlen, h.length]; omega), hlen, h.length]
    · rw [hlen, h.length]

theorem cacheNextVersion (h : a.Represents c) : a.cacheNextVersion.Represents (BxSync.cacheNextVersion c) := by
  have hcount := h.count_le
  have hlen := h.length
  unfold CacheArray.cacheNextVersion BxSync.cacheNextVersion
  dsimp only
  rw [h.version]
  split
  · refine ⟨rfl, ?_, h.count_le, ?_⟩
    · dsimp only [CacheArray.cacheResetVersion, BxSync.cacheResetVersion]
      rw [h.items, List.take_left' (by rw [List.length_map, h.count])]
    · dsimp only [CacheArray.cacheResetVersion]
      rw [List.length_append, List.length_map, List.length_take, List.length_drop]
      omega
  · exact ⟨rfl, h.items, h.count_le, h.length⟩

theorem grown (h : a.Represents c) (hroom : a.count + cacheChunkSize < uint32Size) :
    (if a.size ≤ a.count then a.growCache else a).Represents c ∧
      a.count < (if a.size ≤ a.count then a.growCache else a).size := by
  have hcount := h.count_le
  split
  · rename_i hfull
    have hchunk : cacheChunkSize = 1000 := rfl
    have hsize : (a.size + cacheChunkSize) % uint32Size = a.size + cacheChunkSize := Nat.mod_eq_of_lt (by omega)
    refine ⟨⟨?_, ?_, ?_, ?_⟩, ?_⟩
    · dsimp only [CacheArray.growCache]
      exact h.version
    · dsimp only [CacheArray.growCache]
      rw [List.take_append_of_le_length (by rw [h.length]; exact hcount)]
      exact h.items
    · dsimp only [CacheArray.growCache]
      omega
    · dsimp only [CacheArray.growCache]
      rw [List.length_append, List.length_replicate, h.length, hsize]
    · dsimp only [CacheArray.growCache]
      omega
  · exact ⟨h, by omega⟩

/-- A known id is overwritten in place. A new one takes the slot at its lower bound, and the items from there
    on move up by one. -/
theorem cacheSetItem (h : a.Represents c) (hroom : a.count + cacheChunkSize < uint32Size) (id checksum : Nat) :
    (a.cacheSetItem id checksum).Represents (BxSync.cacheSetItem c id checksum) := by
  have hfound := h.found id
  unfold CacheArray.cacheSetItem
  dsimp only
  by_cases hholds : a.holds (a.lowerBound id) id
  · rw [if_pos hholds] at hfound ⊢
    obtain ⟨item, hitem, hid⟩ := (h.holds _ id).mp hholds
    refine ⟨h.version.trans (Cache.version_cacheSetItem c id checksum).symm, ?_, h.count_le, ?_⟩
    · rw [List.take_set, h.items, Cache.items_cacheSetItem_known hfound, h.version]
      apply List.ext_getElem?
      intro m
      rw [List.getElem?_set, List.getElem?_modify]
      by_cases hm : a.lowerBound id = m
      · have hlt : a.lowerBound id < c.items.length := (List.getElem?_eq_some_iff.mp hitem).1
        rw [← hm, hitem, if_pos rfl, if_pos hlt]
        simp [hid]
      · simp [hm]
    · rw [List.length_set, h.length]
  · rw [if_neg hholds] at hfound ⊢
    obtain ⟨hgrown, hroom'⟩ := h.grown hroom
    have hsize : (a.count + 1) % uint32Size = a.count + 1 := by
      have hchunk : cacheChunkSize = 1000 := rfl
      exact Nat.mod_eq_of_lt (by omega)
    generalize (if a.size ≤ a.count then a.growCache else a) = g at hgrown hroom'
    have hg : g.count = a.count := by rw [← hgrown.count, h.count]
    have hi : a.lowerBound id ≤ a.count := by
      rw [h.lowerBound, c.lowerBound_eq, ← h.count]
      exact SortedSearch.rank_le_length
    -- Without an item to move the block stays as it is, as after a move of no items.
    have hmoved : (if a.lowerBound id < a.count then Block.move g.items (a.lowerBound id + 1) (a.lowerBound id)
        (a.count - a.lowerBound id) else g.items) =
        Block.move g.items (a.lowerBound id + 1) (a.lowerBound id) (a.count - a.lowerBound id) := by
      split
      · rfl
      · rw [Nat.sub_eq_zero_of_le (by omega)]
        simp [Block.move]
    rw [hmoved]
    refine ⟨hgrown.version.trans (Cache.version_cacheSetItem c id checksum).symm, ?_, ?_, ?_⟩
    · dsimp only
      rw [hsize, Block.take_insert hi (by rw [hgrown.length]; exact hroom'), ← hg, hgrown.items,
        Cache.items_cacheSetItem_new hfound, h.lowerBound, h.version]
    · dsimp only
      omega
    · dsimp only
      rw [List.length_set, Block.length_move (by rw [hgrown.length]; omega) (by rw [hgrown.length]; omega), hgrown.length]

/-! ### Iteration -/

theorem cacheGet (h : a.Represents c) (idx : Nat) : a.cacheGet idx = c.items[idx]? := by
  unfold CacheArray.cacheGet
  split
  · rename_i hi
    exact h.getElem? hi
  · rename_i hi
    rw [List.getElem?_eq_none (by rw [h.count]; omega)]

theorem nextPrunable (h : a.Represents c) (bound turns current : Nat) (hturns : a.count ≤ turns + current) :
    a.nextPrunable bound turns current = BxSync.nextPrunable bound (c.items.drop current) current := by
  revert hturns
  fun_induction CacheArray.nextPrunable a bound turns current
  case case1 current =>
    intro hturns
    rw [List.drop_eq_nil_of_le (by rw [h.count]; omega)]
    rfl
  case case2 current turns hnone =>
    intro _
    rw [h.cacheGet, List.getElem?_eq_none_iff] at hnone
    rw [List.drop_eq_nil_of_le hnone]
    rfl
  case case3 current turns item hitem hold =>
    intro _
    rw [h.cacheGet] at hitem
    obtain ⟨hlt, rfl⟩ := List.getElem?_eq_some_iff.mp hitem
    rw [List.drop_eq_getElem_cons hlt]
    exact (if_pos hold).symm
  case case4 current turns item hitem hold ih =>
    intro hturns
    rw [h.cacheGet] at hitem
    obtain ⟨hlt, rfl⟩ := List.getElem?_eq_some_iff.mp hitem
    rw [ih (by omega), List.drop_eq_getElem_cons hlt]
    exact (if_neg hold).symm

theorem cacheIterNextPrunableId (h : a.Represents c) (iter : CacheIter) (drift : Nat) :
    a.cacheIterNextPrunableId iter drift = BxSync.cacheIterNextPrunableId c iter drift := by
  unfold CacheArray.cacheIterNextPrunableId BxSync.cacheIterNextPrunableId
  rw [h.nextPrunable _ _ _ (Nat.le_add_right _ _)]

theorem cacheIterCollect (h : a.Represents c) (drift : Nat) (fuel : Nat) (iter : CacheIter) :
    a.cacheIterCollect drift fuel iter = BxSync.cacheIterCollect c drift fuel iter := by
  induction fuel generalizing iter with
  | zero => rfl
  | succ fuel ih =>
    unfold CacheArray.cacheIterCollect BxSync.cacheIterCollect
    rw [h.cacheIterNextPrunableId]
    rcases BxSync.cacheIterNextPrunableId c iter drift with ⟨_ | id, next⟩
    · rfl
    · exact congrArg (id :: ·) (ih next)

theorem cacheIterAll (h : a.Represents c) (drift : Nat) : a.cacheIterAll drift = BxSync.cacheIterAll c drift := by
  unfold CacheArray.cacheIterAll BxSync.cacheIterAll
  rw [h.count, h.cacheIterCollect]
  unfold CacheArray.cacheIterInit BxSync.cacheIterInit
  rw [h.version]

end CacheArray.Represents

end BxSync
