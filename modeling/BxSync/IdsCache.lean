import Mathlib.Algebra.Ring.Nat
import BxSync.Lib.SortedSearch

/-! The ids cache of one resource: the ids in the database, the checksum each was stored with and the
    version it was last seen at (`bx_ids_cache.c`).

    The source keeps the items in an array sorted by id. Here they are a sorted list, and the cache
    carries the bounds on its version and its stamps. Allocations succeed. -/

namespace BxSync

open SortedSearch

/-- Ids, checksums and versions are 64-bit in the source. -/
def uint64Max : Nat := 2 ^ 64 - 1

/-- A stamp of 0 marks a tombstone: the row is deleted, the item not yet removed. -/
structure CacheItem where
  id : Nat
  checksum : Nat
  lastSeen : Nat
deriving DecidableEq, Repr

inductive CacheState
  | cacheNotSet
  | cacheNotSync
  | cacheOk
deriving DecidableEq, Repr

structure Cache where
  version : Nat
  items : List CacheItem
  sorted : Sorted CacheItem.id items
  seen : ∀ item ∈ items, item.lastSeen ≤ version
  version_pos : 0 < version
  version_lt : version < uint64Max

def cacheCreate : Cache where
  version := 1
  items := []
  sorted := List.Pairwise.nil
  seen := by simp
  version_pos := by decide
  version_lt := by decide

namespace Cache

variable (c : Cache)

/-- First index with id ≥ key, or the count if all ids are smaller. -/
def lowerBound (id : Nat) : Nat :=
  search (fun i => (c.items[i]?.map fun item => decide (item.id < id)).getD false)
    c.items.length 0 c.items.length

/-- The index of the item of an id. -/
def findItem (id : Nat) : Option Nat :=
  let i := c.lowerBound id
  match c.items[i]? with
  | some item => if item.id = id then some i else none
  | none => none

/-- The item of an id, as a lookup in the list. -/
def entry (id : Nat) : Option CacheItem := lookup CacheItem.id c.items id

theorem lowerBound_eq (id : Nat) : c.lowerBound id = rank CacheItem.id c.items id := search_eq c.sorted id

theorem entry_eq_some {id : Nat} {item : CacheItem} : c.entry id = some item ↔ item ∈ c.items ∧ item.id = id :=
  lookup_eq_some c.sorted

theorem entry_eq_none {id : Nat} : c.entry id = none ↔ ∀ item ∈ c.items, item.id ≠ id := lookup_eq_none

/-- The binary search of the array and the lookup of the list find the same item. -/
theorem findItem_eq_some {id i : Nat} (h : c.findItem id = some i) :
    ∃ item, c.items[i]? = some item ∧ c.entry id = some item := by
  unfold findItem at h
  dsimp only at h
  split at h
  · rename_i item hi
    split at h
    · rename_i hid
      obtain rfl := Option.some.inj h
      exact ⟨item, hi, c.entry_eq_some.mpr ⟨List.mem_of_getElem? hi, hid⟩⟩
    · exact nomatch h
  · exact nomatch h

theorem findItem_eq_none {id : Nat} : c.findItem id = none ↔ c.entry id = none := by
  unfold findItem entry
  rw [lookup_eq_getElem?_rank c.sorted, ← lowerBound_eq]
  dsimp only
  cases c.items[c.lowerBound id]? with
  | none => simp
  | some item => by_cases h : item.id = id <;> simp [h, Option.filter]

/-- Changes the item at an index, but not its id. -/
def modify (i : Nat) (f : CacheItem → CacheItem) (hid : ∀ item, (f item).id = item.id)
    (hseen : ∀ item, item.lastSeen ≤ c.version → (f item).lastSeen ≤ c.version) : Cache where
  version := c.version
  items := c.items.modify i f
  sorted := sorted_modify c.sorted hid i
  seen item hitem := by
    obtain ⟨j, hj⟩ := List.mem_iff_getElem?.mp hitem
    rw [List.getElem?_modify] at hj
    obtain ⟨old, hold, rfl⟩ := Option.map_eq_some_iff.mp hj
    have := c.seen old (List.mem_of_getElem? hold)
    split
    · exact hseen old this
    · exact this
  version_pos := c.version_pos
  version_lt := c.version_lt

/-- Opens a place for a new id at its lower bound. -/
def insert (item : CacheItem) (hnew : ∀ b ∈ c.items, b.id ≠ item.id) (hseen : item.lastSeen ≤ c.version) : Cache where
  version := c.version
  items := c.items.insertIdx (c.lowerBound item.id) item
  sorted := by
    rw [lowerBound_eq]
    exact sorted_insertIdx c.sorted hnew
  seen b hb := by
    rcases List.eq_or_mem_of_mem_insertIdx hb with rfl | hb
    · exact hseen
    · exact c.seen b hb
  version_pos := c.version_pos
  version_lt := c.version_lt

end Cache

/-- `cache_set_item`: stores the checksum of an id, new or known, as seen at the current version. -/
def cacheSetItem (c : Cache) (id checksum : Nat) : Cache :=
  match h : c.findItem id with
  | some i =>
    c.modify i (fun item => { item with checksum, lastSeen := c.version }) (fun _ => rfl) (fun _ _ => le_rfl)
  | none =>
    c.insert { id, checksum, lastSeen := c.version } (c.entry_eq_none.mp (c.findItem_eq_none.mp h)) le_rfl

/-- `cache_check_item`: stamps a live id as seen, even if the checksum is dirty, and compares. -/
def cacheCheckItem (c : Cache) (id checksum : Nat) : CacheState × Cache :=
  match c.findItem id with
  | none => (.cacheNotSet, c)
  | some i =>
    match c.items[i]? with
    | none => (.cacheNotSet, c)
    | some current =>
      if current.lastSeen = 0 then (.cacheNotSet, c)
      else
        (if current.checksum ≠ checksum then .cacheNotSync else .cacheOk,
          c.modify i (fun item => { item with lastSeen := c.version }) (fun _ => rfl) (fun _ _ => le_rfl))

def cacheTombstone (c : Cache) (id : Nat) : Cache :=
  match c.findItem id with
  | none => c
  | some i => c.modify i (fun item => { item with lastSeen := 0 }) (fun _ => rfl) (fun _ _ => Nat.zero_le _)

/-- `cache_prune`: removes the tombstones. -/
def cachePrune (c : Cache) : Cache where
  version := c.version
  items := c.items.filter fun item => item.lastSeen ≠ 0
  sorted := c.sorted.sublist List.filter_sublist
  seen item h := c.seen item (List.mem_filter.mp h).1
  version_pos := c.version_pos
  version_lt := c.version_lt

/-- `_cache_reset_version`: the version starts again at 1 and every item counts as seen. -/
def cacheResetVersion (c : Cache) : Cache where
  version := 1
  items := c.items.map fun item => { item with lastSeen := 1 }
  sorted := sorted_map c.sorted fun _ => rfl
  seen item h := by
    obtain ⟨b, -, rfl⟩ := List.mem_map.mp h
    exact le_rfl
  version_pos := by decide
  version_lt := by decide

def cacheNextVersion (c : Cache) : Cache :=
  if h : c.version + 1 = uint64Max then cacheResetVersion c
  else
    { c with
      version := c.version + 1
      seen := fun item hi => (c.seen item hi).trans (Nat.le_succ _)
      version_pos := Nat.succ_pos _
      version_lt := by
        have := c.version_lt
        omega }

/-! ### Iteration -/

/-- The version is the one at `cache_iter_init`. The iterated cache is an argument of each call, as the
    pointer in the source sees every change to it. -/
structure CacheIter where
  current : Nat
  version : Nat
deriving DecidableEq, Repr

def cacheIterInit (c : Cache) : CacheIter := { current := 0, version := c.version }

/-- The loop of `cache_iter_next_prunable_id` over the items from the iterator on. -/
def nextPrunable (bound : Nat) : List CacheItem → Nat → Option Nat × Nat
  | [], current => (none, current)
  | item :: rest, current =>
    if 0 < item.lastSeen ∧ item.lastSeen ≤ bound then (some item.id, current + 1)
    else nextPrunable bound rest (current + 1)

def cacheIterNextPrunableId (c : Cache) (iter : CacheIter) (drift : Nat) : Option Nat × CacheIter :=
  if iter.version ≤ drift then (none, iter)
  else
    let next := nextPrunable (iter.version - drift) (c.items.drop iter.current) iter.current
    (next.1, { iter with current := next.2 })

/-- The ids that at most `fuel` calls from an iterator yield, while nothing else changes the cache. -/
def cacheIterCollect (c : Cache) (drift : Nat) : Nat → CacheIter → List Nat
  | 0, _ => []
  | fuel + 1, iter =>
    match cacheIterNextPrunableId c iter drift with
    | (none, _) => []
    | (some id, next) => id :: cacheIterCollect c drift fuel next

/-- The ids a fresh iterator yields. One call for each item is enough. -/
def cacheIterAll (c : Cache) (drift : Nat) : List Nat :=
  cacheIterCollect c drift (c.items.length + 1) (cacheIterInit c)

/-! ### What each operation leaves of an item -/

namespace Cache

@[simp] theorem version_cacheSetItem (c : Cache) (id checksum : Nat) : (cacheSetItem c id checksum).version = c.version := by
  unfold cacheSetItem
  split <;> rfl

@[simp] theorem version_cacheCheckItem (c : Cache) (id checksum : Nat) :
    (cacheCheckItem c id checksum).2.version = c.version := by
  unfold cacheCheckItem
  split
  · rfl
  · split
    · rfl
    · split <;> rfl

@[simp] theorem version_cacheTombstone (c : Cache) (id : Nat) : (cacheTombstone c id).version = c.version := by
  unfold cacheTombstone
  split <;> rfl

@[simp] theorem version_cachePrune (c : Cache) : (cachePrune c).version = c.version := rfl

theorem items_cacheSetItem_known {c : Cache} {id i : Nat} (h : c.findItem id = some i) (checksum : Nat) :
    (cacheSetItem c id checksum).items = c.items.modify i fun item => { item with checksum, lastSeen := c.version } := by
  unfold cacheSetItem
  split
  · rename_i j hj
    obtain rfl : i = j := Option.some.inj (h.symm.trans hj)
    rfl
  · rename_i hnone
    exact absurd (h.symm.trans hnone) nofun

theorem items_cacheSetItem_new {c : Cache} {id : Nat} (h : c.findItem id = none) (checksum : Nat) :
    (cacheSetItem c id checksum).items = c.items.insertIdx (c.lowerBound id) { id, checksum, lastSeen := c.version } := by
  unfold cacheSetItem
  split
  · rename_i hsome
    exact absurd (h.symm.trans hsome) nofun
  · rfl

theorem entry_modify (c : Cache) {id i : Nat} (h : c.findItem id = some i) (f : CacheItem → CacheItem) (hid) (hseen) (k : Nat) :
    (c.modify i f hid hseen).entry k = if k = id then (c.entry id).map f else c.entry k := by
  obtain ⟨item, hi, hentry⟩ := c.findItem_eq_some h
  have hitem : item.id = id := (c.entry_eq_some.mp hentry).2
  refine (lookup_modify c.sorted hid hi k).trans ?_
  rw [hitem, hentry]
  rfl

@[simp] theorem entry_cacheSetItem (c : Cache) (id checksum k : Nat) :
    (cacheSetItem c id checksum).entry k = if k = id then some ⟨id, checksum, c.version⟩ else c.entry k := by
  unfold cacheSetItem
  split
  · rename_i i h
    obtain ⟨item, -, hentry⟩ := c.findItem_eq_some h
    rw [entry_modify c h, hentry, ← (c.entry_eq_some.mp hentry).2]
    rfl
  · rename_i h
    have hnew := c.entry_eq_none.mp (c.findItem_eq_none.mp h)
    have := lookup_insertIdx c.sorted (a := ⟨id, checksum, c.version⟩) hnew k
    rw [← lowerBound_eq] at this
    exact this

theorem cacheCheckItem_state (c : Cache) (id checksum : Nat) :
    (cacheCheckItem c id checksum).1 =
      match c.entry id with
      | none => .cacheNotSet
      | some item =>
        if item.lastSeen = 0 then .cacheNotSet
        else if item.checksum ≠ checksum then .cacheNotSync else .cacheOk := by
  unfold cacheCheckItem
  split
  · rename_i h
    rw [c.findItem_eq_none.mp h]
  · rename_i i h
    obtain ⟨item, hi, hentry⟩ := c.findItem_eq_some h
    rw [hi, hentry]
    dsimp only
    split <;> rfl

@[simp] theorem entry_cacheCheckItem (c : Cache) (id checksum k : Nat) :
    (cacheCheckItem c id checksum).2.entry k =
      if k = id then (c.entry id).map fun item => if item.lastSeen = 0 then item else { item with lastSeen := c.version }
      else c.entry k := by
  unfold cacheCheckItem
  split
  · rename_i h
    rw [c.findItem_eq_none.mp h]
    split
    · subst_vars
      exact c.findItem_eq_none.mp h
    · rfl
  · rename_i i h
    obtain ⟨item, hi, hentry⟩ := c.findItem_eq_some h
    rw [hi]
    dsimp only
    split
    · rename_i hz
      split
      · subst_vars
        rw [hentry]
        simp [hz]
      · rfl
    · rename_i hz
      rw [entry_modify c h, hentry]
      simp [hz]

@[simp] theorem entry_cacheTombstone (c : Cache) (id k : Nat) :
    (cacheTombstone c id).entry k =
      if k = id then (c.entry id).map fun item => { item with lastSeen := 0 } else c.entry k := by
  unfold cacheTombstone
  split
  · rename_i h
    rw [c.findItem_eq_none.mp h]
    split
    · subst_vars
      exact c.findItem_eq_none.mp h
    · rfl
  · rename_i i h
    rw [entry_modify c h]

@[simp] theorem entry_cachePrune (c : Cache) (k : Nat) :
    (cachePrune c).entry k = (c.entry k).filter fun item => item.lastSeen ≠ 0 :=
  lookup_filter c.sorted _ k

theorem cacheNextVersion_wrap (c : Cache) (h : c.version + 1 = uint64Max) :
    cacheNextVersion c = cacheResetVersion c := by
  unfold cacheNextVersion
  rw [dif_pos h]

theorem entry_cacheResetVersion (c : Cache) (k : Nat) :
    (cacheResetVersion c).entry k = (c.entry k).map fun item => { item with lastSeen := 1 } :=
  lookup_map (f := fun item : CacheItem => { item with lastSeen := 1 }) (fun _ => rfl) k

theorem entry_cacheNextVersion (c : Cache) (h : c.version + 1 ≠ uint64Max) (k : Nat) :
    (cacheNextVersion c).entry k = c.entry k := by
  unfold cacheNextVersion
  rw [dif_neg h]
  rfl

theorem version_cacheNextVersion (c : Cache) (h : c.version + 1 ≠ uint64Max) :
    (cacheNextVersion c).version = c.version + 1 := by
  unfold cacheNextVersion
  rw [dif_neg h]

end Cache

/-! ### What the iterator yields -/

/-- The loop stops at the first item in the range, or yields nothing when there is none. -/
theorem nextPrunable_spec (bound : Nat) : ∀ (items : List CacheItem) (current : Nat),
    (nextPrunable bound items current = (none, current + items.length) ∧
      ∀ item ∈ items, ¬(0 < item.lastSeen ∧ item.lastSeen ≤ bound)) ∨
    ∃ before item rest, items = before ++ item :: rest ∧ (0 < item.lastSeen ∧ item.lastSeen ≤ bound) ∧
      (∀ b ∈ before, ¬(0 < b.lastSeen ∧ b.lastSeen ≤ bound)) ∧
      nextPrunable bound items current = (some item.id, current + before.length + 1)
  | [], current => Or.inl ⟨rfl, by simp⟩
  | item :: rest, current => by
    unfold nextPrunable
    by_cases h : 0 < item.lastSeen ∧ item.lastSeen ≤ bound
    · rw [if_pos h]
      exact Or.inr ⟨[], item, rest, rfl, h, by simp, rfl⟩
    · rw [if_neg h]
      rcases nextPrunable_spec bound rest (current + 1) with ⟨heq, hall⟩ | ⟨before, found, rest', rfl, hfound, hb, heq⟩
      · refine Or.inl ⟨by rw [heq, List.length_cons]; congr 1; omega, ?_⟩
        simpa using ⟨by simpa using h, by simpa using hall⟩
      · refine Or.inr ⟨item :: before, found, rest', rfl, hfound, ?_, ?_⟩
        · intro b hb'
          rcases List.mem_cons.mp hb' with rfl | hb'
          · exact h
          · exact hb b hb'
        · rw [heq, List.length_cons]
          congr 1
          omega

/-- The live ids from an iterator on that were last seen at least `drift` versions before it was made. -/
def prunableFrom (c : Cache) (drift : Nat) (iter : CacheIter) : List Nat :=
  ((c.items.drop iter.current).filter fun item => decide (0 < item.lastSeen ∧ item.lastSeen + drift ≤ iter.version)).map
    CacheItem.id

/-- One call yields the first of the ids from the iterator on, and leaves the iterator behind its item. -/
theorem cacheIterNextPrunableId_spec (c : Cache) (iter : CacheIter) (drift : Nat) :
    ((cacheIterNextPrunableId c iter drift).1 = none ∧ prunableFrom c drift iter = []) ∨
    ∃ id next, cacheIterNextPrunableId c iter drift = (some id, next) ∧ next.version = iter.version ∧
      prunableFrom c drift iter = id :: prunableFrom c drift next ∧
      ∃ j item, c.items[j]? = some item ∧ item.id = id ∧ iter.current ≤ j ∧ next.current = j + 1 := by
  have hrange : ∀ item : CacheItem, decide (0 < item.lastSeen ∧ item.lastSeen + drift ≤ iter.version) = true ↔
      0 < item.lastSeen ∧ item.lastSeen + drift ≤ iter.version := fun item => decide_eq_true_iff
  unfold cacheIterNextPrunableId prunableFrom
  by_cases hv : iter.version ≤ drift
  · rw [if_pos hv]
    refine Or.inl ⟨rfl, ?_⟩
    rw [List.filter_eq_nil_iff.mpr fun item _ => (hrange item).not.mpr (by omega)]
    rfl
  · rw [if_neg hv]
    dsimp only
    rcases nextPrunable_spec (iter.version - drift) (c.items.drop iter.current) iter.current with
      ⟨heq, hall⟩ | ⟨before, found, rest, hdrop, hfound, hbefore, heq⟩
    · rw [heq]
      refine Or.inl ⟨rfl, ?_⟩
      rw [List.filter_eq_nil_iff.mpr fun item hitem => (hrange item).not.mpr fun h => hall item hitem ⟨h.1, by omega⟩]
      rfl
    · have hget : c.items[iter.current + before.length]? = some found := by
        rw [← List.getElem?_drop, hdrop, List.getElem?_append_right le_rfl]
        simp
      have hnext : c.items.drop (iter.current + before.length + 1) = rest := by
        have := congrArg (List.drop (before.length + 1)) hdrop
        rw [List.drop_drop, ← Nat.add_assoc] at this
        rw [this]
        simp
      have hnot : before.filter (fun item => decide (0 < item.lastSeen ∧ item.lastSeen + drift ≤ iter.version)) = [] :=
        List.filter_eq_nil_iff.mpr fun item hitem => (hrange item).not.mpr fun h => hbefore item hitem ⟨h.1, by omega⟩
      rw [heq]
      refine Or.inr ⟨found.id, _, rfl, rfl, ?_, _, found, hget, rfl, Nat.le_add_right _ _, rfl⟩
      dsimp only
      rw [hnext, hdrop, List.filter_append, hnot, List.nil_append, List.filter_cons,
        if_pos ((hrange found).mpr ⟨hfound.1, by omega⟩)]
      rfl

/-- What the calls from an iterator yield. -/
theorem cacheIterCollect_eq (c : Cache) (drift fuel : Nat) (iter : CacheIter)
    (hfuel : c.items.length < fuel + iter.current) : cacheIterCollect c drift fuel iter = prunableFrom c drift iter := by
  induction fuel generalizing iter with
  | zero =>
    unfold prunableFrom
    rw [List.drop_eq_nil_of_le (by omega)]
    rfl
  | succ fuel ih =>
    unfold cacheIterCollect
    rcases cacheIterNextPrunableId_spec c iter drift with ⟨hnone, hnil⟩ | ⟨id, next, hnext, -, hcons, j, item, hj, -, hle, hcur⟩
    · rw [hnil]
      rcases hcall : cacheIterNextPrunableId c iter drift with ⟨_ | id, next⟩
      · rfl
      · rw [hcall] at hnone
        exact nomatch hnone
    · rw [hnext, hcons]
      exact congrArg (id :: ·) (ih next (by omega))

/-- A fresh iterator yields, in the order of the items, the live ids in the range of the drift. -/
theorem cacheIterAll_eq (c : Cache) (drift : Nat) :
    cacheIterAll c drift =
      (c.items.filter fun item => decide (0 < item.lastSeen ∧ item.lastSeen + drift ≤ c.version)).map CacheItem.id := by
  unfold cacheIterAll
  rw [cacheIterCollect_eq c drift _ _ (by simp [cacheIterInit])]
  rfl

theorem cacheIterAll_sorted (c : Cache) (drift : Nat) : (cacheIterAll c drift).Pairwise (· < ·) := by
  rw [cacheIterAll_eq]
  exact c.sorted.sublist List.filter_sublist

/-- A fresh iterator yields the live ids that were last seen at least `drift` versions ago. -/
theorem mem_cacheIterAll_iff (c : Cache) (drift id : Nat) :
    id ∈ cacheIterAll c drift ↔
      ∃ item, c.entry id = some item ∧ 0 < item.lastSeen ∧ item.lastSeen + drift ≤ c.version := by
  rw [cacheIterAll_eq, List.mem_map]
  simp only [List.mem_filter, decide_eq_true_eq]
  constructor
  · rintro ⟨item, ⟨hitem, hold⟩, hid⟩
    exact ⟨item, c.entry_eq_some.mpr ⟨hitem, hid⟩, hold⟩
  · rintro ⟨item, hentry, hold⟩
    obtain ⟨hitem, hid⟩ := c.entry_eq_some.mp hentry
    exact ⟨item, ⟨hitem, hold⟩, hid⟩

theorem mem_cacheIterAll (c : Cache) (drift id : Nat) :
    id ∈ cacheIterAll c drift ↔
      drift < c.version ∧ ∃ item, c.entry id = some item ∧ 0 < item.lastSeen ∧ item.lastSeen ≤ c.version - drift := by
  rw [mem_cacheIterAll_iff]
  constructor
  · rintro ⟨item, hentry, hpos, hle⟩
    exact ⟨by omega, item, hentry, hpos, by omega⟩
  · rintro ⟨hlt, item, hentry, hpos, hle⟩
    exact ⟨item, hentry, hpos, by omega⟩

/-- One call of the iterator, by the index it stops at. -/
theorem cacheIterNextPrunableId_some {c : Cache} {iter next : CacheIter} {drift id : Nat}
    (h : cacheIterNextPrunableId c iter drift = (some id, next)) :
    drift < iter.version ∧ next.version = iter.version ∧ ∃ j item, c.items[j]? = some item ∧ item.id = id ∧
      (0 < item.lastSeen ∧ item.lastSeen ≤ iter.version - drift) ∧ iter.current ≤ j ∧ next.current = j + 1 ∧
      ∀ m b, iter.current ≤ m → m < j → c.items[m]? = some b → ¬(0 < b.lastSeen ∧ b.lastSeen ≤ iter.version - drift) := by
  unfold cacheIterNextPrunableId at h
  split at h
  · exact nomatch h
  · rename_i hv
    dsimp only at h
    rcases nextPrunable_spec (iter.version - drift) (c.items.drop iter.current) iter.current with
      ⟨heq, -⟩ | ⟨before, item, rest, hdrop, hitem, hbefore, heq⟩
    · rw [heq] at h
      exact nomatch h
    · rw [heq] at h
      obtain ⟨hid, rfl⟩ := Prod.mk.inj h
      have hget : ∀ m, c.items[iter.current + m]? = (before ++ item :: rest)[m]? := fun m => by
        rw [← hdrop, List.getElem?_drop]
      refine ⟨by omega, rfl, iter.current + before.length, item, ?_, Option.some.inj hid, hitem, by omega, rfl, ?_⟩
      · rw [hget, List.getElem?_append_right le_rfl]
        simp
      · intro m b hge hlt hb
        obtain ⟨n, rfl⟩ := Nat.exists_eq_add_of_le hge
        rw [hget, List.getElem?_append_left (by omega)] at hb
        exact hbefore b (List.mem_of_getElem? hb)

theorem cacheIterNextPrunableId_none {c : Cache} {iter next : CacheIter} {drift : Nat}
    (h : cacheIterNextPrunableId c iter drift = (none, next)) (hv : drift < iter.version) :
    ∀ m b, iter.current ≤ m → c.items[m]? = some b → ¬(0 < b.lastSeen ∧ b.lastSeen ≤ iter.version - drift) := by
  unfold cacheIterNextPrunableId at h
  rw [if_neg (by omega)] at h
  dsimp only at h
  rcases nextPrunable_spec (iter.version - drift) (c.items.drop iter.current) iter.current with
    ⟨-, hall⟩ | ⟨before, item, rest, -, -, -, heq⟩
  · intro m b hge hb
    refine hall b (List.mem_of_getElem? (i := m - iter.current) ?_)
    rw [List.getElem?_drop, Nat.add_sub_cancel' hge]
    exact hb
  · rw [heq] at h
    exact nomatch h

/-! ### Staleness -/

namespace Cache

/-- The id is live and was not seen at the current version. -/
def Stale (c : Cache) (id : Nat) : Prop :=
  ∃ item, c.entry id = some item ∧ 0 < item.lastSeen ∧ item.lastSeen < c.version

/-- What an iteration yields is stale, at every drift from 1 on. -/
theorem stale_of_mem_cacheIterAll {c : Cache} {drift id : Nat} (hd : 1 ≤ drift) (h : id ∈ cacheIterAll c drift) :
    c.Stale id := by
  obtain ⟨hlt, item, hentry, hpos, hle⟩ := (mem_cacheIterAll c drift id).mp h
  exact ⟨item, hentry, hpos, by omega⟩

theorem stale_iff {c : Cache} {j : Nat} {item : CacheItem} (h : c.items[j]? = some item) :
    c.Stale item.id ↔ 0 < item.lastSeen ∧ item.lastSeen < c.version := by
  have hentry := c.entry_eq_some.mpr ⟨List.mem_of_getElem? h, rfl⟩
  unfold Stale
  rw [hentry]
  simp

/-- Over the cache it was made for, one call at drift 1 yields the first stale id from the iterator on. -/
theorem next_some {c : Cache} {iter next : CacheIter} {id : Nat} (hv : iter.version = c.version)
    (h : cacheIterNextPrunableId c iter 1 = (some id, next)) :
    c.Stale id ∧ next.version = c.version ∧ next.current = rank CacheItem.id c.items id + 1 ∧
      iter.current ≤ rank CacheItem.id c.items id ∧
      ∀ k, c.Stale k → rank CacheItem.id c.items k < next.current → k = id ∨ rank CacheItem.id c.items k < iter.current := by
  obtain ⟨hlt, hnext, j, item, hj, rfl, hitem, hge, hcur, hbefore⟩ := cacheIterNextPrunableId_some h
  rw [hv] at hlt hitem hbefore
  refine ⟨(stale_iff hj).mpr ⟨hitem.1, by omega⟩, hnext.trans hv, by rw [rank_of_getElem? c.sorted hj, hcur], by rwa [rank_of_getElem? c.sorted hj], ?_⟩
  intro k hk hlt'
  obtain ⟨b, hb, hpos, hbv⟩ := hk
  obtain ⟨hmem, rfl⟩ := c.entry_eq_some.mp hb
  obtain ⟨m, hm⟩ := List.mem_iff_getElem?.mp hmem
  rw [rank_of_getElem? c.sorted hm] at hlt' ⊢
  by_cases hmc : m < iter.current
  · exact Or.inr hmc
  · rcases Nat.lt_or_ge m j with hmj | hmj
    · exact absurd ⟨hpos, by omega⟩ (hbefore m b (by omega) hmj hm)
    · obtain rfl : m = j := by omega
      rw [hj] at hm
      obtain rfl := Option.some.inj hm
      exact Or.inl rfl

theorem next_none {c : Cache} {iter next : CacheIter} (hv : iter.version = c.version)
    (h : cacheIterNextPrunableId c iter 1 = (none, next)) (k : Nat) (hk : c.Stale k) :
    rank CacheItem.id c.items k < iter.current := by
  obtain ⟨b, hb, hpos, hbv⟩ := hk
  obtain ⟨hmem, rfl⟩ := c.entry_eq_some.mp hb
  obtain ⟨m, hm⟩ := List.mem_iff_getElem?.mp hmem
  rw [rank_of_getElem? c.sorted hm]
  by_contra hge
  exact cacheIterNextPrunableId_none h (by omega) m b (by omega) hm ⟨hpos, by omega⟩

/-- A cache between two versions: checks and stores only stamp items and add new ones. -/
structure Kept (c c' : Cache) : Prop where
  version : c'.version = c.version
  ids : (c.items.map CacheItem.id).Sublist (c'.items.map CacheItem.id)
  seen : ∀ k item', c'.entry k = some item' →
    item'.lastSeen = c.version ∨ ∃ item, c.entry k = some item ∧ item.lastSeen = item'.lastSeen

namespace Kept

variable {c c' c'' : Cache}

theorem refl (c : Cache) : Kept c c where
  version := rfl
  ids := List.Sublist.refl _
  seen _ item h := Or.inr ⟨item, h, rfl⟩

theorem trans (h : Kept c c') (h' : Kept c' c'') : Kept c c'' where
  version := h'.version.trans h.version
  ids := h.ids.trans h'.ids
  seen k item'' hk := by
    rcases h'.seen k item'' hk with hv | ⟨item', hk', hs⟩
    · exact Or.inl (hv.trans h.version)
    · rw [← hs]
      exact h.seen k item' hk'

theorem stale (h : Kept c c') {k : Nat} (hs : c'.Stale k) : c.Stale k := by
  obtain ⟨item', hk, hpos, hlt⟩ := hs
  rw [h.version] at hlt
  rcases h.seen k item' hk with hv | ⟨item, hk', hs⟩
  · omega
  · exact ⟨item, hk', by omega, by omega⟩

end Kept

theorem ids_modify (c : Cache) (i : Nat) (f : CacheItem → CacheItem) (hid) (hseen) :
    (c.modify i f hid hseen).items.map CacheItem.id = c.items.map CacheItem.id :=
  map_modify hid i

theorem kept_cacheCheckItem (c : Cache) (id checksum : Nat) : Kept c (cacheCheckItem c id checksum).2 where
  version := version_cacheCheckItem c id checksum
  ids := by
    unfold cacheCheckItem
    split
    · exact List.Sublist.refl _
    · split
      · exact List.Sublist.refl _
      · split
        · exact List.Sublist.refl _
        · simp only [ids_modify, List.Sublist.refl]
  seen k item' hk := by
    rw [entry_cacheCheckItem] at hk
    split at hk
    · rename_i hkid
      obtain ⟨item, hentry, rfl⟩ := Option.map_eq_some_iff.mp hk
      split
      · exact Or.inr ⟨item, hkid ▸ hentry, rfl⟩
      · exact Or.inl rfl
    · exact Or.inr ⟨item', hk, rfl⟩

theorem kept_cacheSetItem (c : Cache) (id checksum : Nat) : Kept c (cacheSetItem c id checksum) where
  version := version_cacheSetItem c id checksum
  ids := by
    unfold cacheSetItem
    split
    · simp only [ids_modify, List.Sublist.refl]
    · unfold insert
      dsimp only
      rw [List.map_insertIdx]
      exact List.sublist_insertIdx _ _ _
  seen k item' hk := by
    rw [entry_cacheSetItem] at hk
    split at hk
    · obtain rfl := Option.some.inj hk
      exact Or.inl rfl
    · exact Or.inr ⟨item', hk, rfl⟩

theorem not_stale_cacheCheckItem (c : Cache) (id checksum : Nat) : ¬(cacheCheckItem c id checksum).2.Stale id := by
  rintro ⟨item, hentry, hpos, hlt⟩
  rw [entry_cacheCheckItem, if_pos rfl] at hentry
  obtain ⟨old, -, rfl⟩ := Option.map_eq_some_iff.mp hentry
  rw [version_cacheCheckItem] at hlt
  split at hpos
  · omega
  · rename_i hz
    rw [if_neg hz] at hlt
    exact lt_irrefl _ hlt

/-- What the sync of one object leaves of the cache: the id of its row is checked, and then at most the
    checksum of the object is stored, under the id of the object. -/
inductive Touched (c : Cache) (id objectId : Nat) : Cache → Prop
  | checked (checksum : Nat) : Touched c id objectId (cacheCheckItem c id checksum).2
  | stored (checksum checksum' : Nat) :
      Touched c id objectId (cacheSetItem (cacheCheckItem c id checksum).2 objectId checksum')

namespace Touched

variable {c c' : Cache} {id objectId : Nat}

theorem kept (h : Touched c id objectId c') : Kept c c' := by
  cases h with
  | checked checksum => exact kept_cacheCheckItem c id checksum
  | stored checksum checksum' => exact (kept_cacheCheckItem c id checksum).trans (kept_cacheSetItem _ _ _)

theorem not_stale (h : Touched c id objectId c') : ¬c'.Stale id := by
  cases h with
  | checked checksum => exact not_stale_cacheCheckItem c id checksum
  | stored checksum checksum' =>
    exact fun hs => not_stale_cacheCheckItem c id checksum ((kept_cacheSetItem _ _ _).stale hs)

end Touched

/-! ### What stays in place -/

theorem findItem_of_getElem? {c : Cache} {j : Nat} {item : CacheItem} (h : c.items[j]? = some item) :
    c.findItem item.id = some j := by
  have hrank : c.lowerBound item.id = j := by rw [lowerBound_eq, rank_of_getElem? c.sorted h]
  simp [findItem, hrank, h]

/-- The items after the one that changed are where they were. -/
structure SameAfter (c c' : Cache) (j : Nat) : Prop where
  length : c'.items.length = c.items.length
  drop : c'.items.drop (j + 1) = c.items.drop (j + 1)

theorem sameAfter_of_modify {c c' : Cache} {j : Nat} {f : CacheItem → CacheItem} (h : c'.items = c.items.modify j f) :
    SameAfter c c' j where
  length := by rw [h, List.length_modify]
  drop := by rw [h, List.drop_modify_of_lt _ _ _ _ (Nat.lt_succ_self j)]

theorem SameAfter.trans {c c' c'' : Cache} {j : Nat} (h : SameAfter c c' j) (h' : SameAfter c' c'' j) :
    SameAfter c c'' j where
  length := h'.length.trans h.length
  drop := h'.drop.trans h.drop

theorem sameAfter_cacheCheckItem {c : Cache} {id j : Nat} (h : c.findItem id = some j) (checksum : Nat) :
    SameAfter c (cacheCheckItem c id checksum).2 j := by
  unfold cacheCheckItem
  rw [h]
  dsimp only
  split
  · exact ⟨rfl, rfl⟩
  · split
    · exact ⟨rfl, rfl⟩
    · exact sameAfter_of_modify rfl

theorem sameAfter_cacheSetItem {c : Cache} {id j : Nat} (h : c.findItem id = some j) (checksum : Nat) :
    SameAfter c (cacheSetItem c id checksum) j := by
  unfold cacheSetItem
  split
  · rename_i i hi
    obtain rfl : j = i := Option.some.inj (h.symm.trans hi)
    exact sameAfter_of_modify rfl
  · rename_i hnone
    rw [h] at hnone
    exact nomatch hnone

theorem findItem_cacheCheckItem {c : Cache} {id j : Nat} (h : c.findItem id = some j) (checksum : Nat) :
    (cacheCheckItem c id checksum).2.findItem id = some j := by
  obtain ⟨item, hj, hentry⟩ := c.findItem_eq_some h
  have hid : item.id = id := (c.entry_eq_some.mp hentry).2
  have hids : (cacheCheckItem c id checksum).2.items.map CacheItem.id = c.items.map CacheItem.id := by
    unfold cacheCheckItem
    rw [h]
    dsimp only
    split
    · rfl
    · split
      · rfl
      · rw [ids_modify]
  have hget := congrArg (·[j]?) hids
  simp only [List.getElem?_map, hj, Option.map_some] at hget
  obtain ⟨item', hj', hid'⟩ := Option.map_eq_some_iff.mp hget
  have hfind := findItem_of_getElem? hj'
  rwa [hid', hid] at hfind

theorem Touched.sameAfter {c c' : Cache} {id j : Nat} (h : Touched c id id c') (hj : c.findItem id = some j) :
    SameAfter c c' j := by
  cases h with
  | checked checksum => exact sameAfter_cacheCheckItem hj checksum
  | stored checksum checksum' =>
    exact (sameAfter_cacheCheckItem hj checksum).trans (sameAfter_cacheSetItem (findItem_cacheCheckItem hj checksum) _)

end Cache

/-- What an iterator yields depends on the items from it on. -/
theorem cacheIterCollect_congr {c c' : Cache} (drift : Nat) : ∀ (fuel : Nat) (iter : CacheIter),
    c'.items.drop iter.current = c.items.drop iter.current →
      cacheIterCollect c' drift fuel iter = cacheIterCollect c drift fuel iter
  | 0, _, _ => rfl
  | fuel + 1, iter, h => by
    unfold cacheIterCollect cacheIterNextPrunableId
    rw [h]
    split_ifs
    · rfl
    · dsimp only
      rcases nextPrunable_spec (iter.version - drift) (c.items.drop iter.current) iter.current with
        ⟨heq, -⟩ | ⟨before, item, rest, -, -, -, heq⟩
      · rw [heq]
      · rw [heq]
        dsimp only
        rw [cacheIterCollect_congr drift fuel { iter with current := iter.current + before.length + 1 }]
        have := congrArg (List.drop (before.length + 1)) h
        simpa only [List.drop_drop, ← Nat.add_assoc] using this

end BxSync
