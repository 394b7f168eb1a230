import BxSync.Database
import BxSync.IdsCache

/-! What the ids cache stands for: a finite map from the ids to the checksum and the version each was last
    seen with, and the version now. -/

namespace BxSync

/-- A `lastSeen` of 0 marks a tombstone. -/
structure Seen where
  checksum : Nat
  lastSeen : Nat
deriving DecidableEq, Repr

structure CacheMap where
  version : Nat
  ids : Table Nat Seen

inductive CacheOp
  | set (id checksum : Nat)
  | check (id checksum : Nat)
  | tombstone (id : Nat)
  | prune
  | nextVersion
deriving DecidableEq, Repr

namespace CacheMap

def empty : CacheMap := { version := 1, ids := ∅ }

variable (m : CacheMap)

/-- How an object with a checksum stands to the map. -/
def state (id checksum : Nat) : CacheState :=
  match m.ids.lookup id with
  | none => .cacheNotSet
  | some seen =>
    if seen.lastSeen = 0 then .cacheNotSet else if seen.checksum ≠ checksum then .cacheNotSync else .cacheOk

/-- Changes what is known of an id, if it is known. -/
def adjust (id : Nat) (f : Seen → Seen) : CacheMap :=
  match m.ids.lookup id with
  | none => m
  | some seen => { m with ids := m.ids.insert id (f seen) }

def stamp (seen : Seen) : Seen := if seen.lastSeen = 0 then seen else { seen with lastSeen := m.version }

/-- A check is answered, and the other operations are not. The version has no bound. -/
def step : CacheOp → Option CacheState × CacheMap
  | .set id checksum => (none, { m with ids := m.ids.insert id { checksum, lastSeen := m.version } })
  | .check id checksum => (some (m.state id checksum), m.adjust id m.stamp)
  | .tombstone id => (none, m.adjust id fun seen => { seen with lastSeen := 0 })
  | .prune => (none, { m with ids := m.ids.eraseWhere fun _ seen => seen.lastSeen = 0 })
  | .nextVersion => (none, { m with version := m.version + 1 })

@[simp] theorem version_adjust (id : Nat) (f : Seen → Seen) : (m.adjust id f).version = m.version := by
  unfold adjust
  split <;> rfl

theorem lookup_adjust (id : Nat) (f : Seen → Seen) (k : Nat) :
    (m.adjust id f).ids.lookup k = if k = id then (m.ids.lookup id).map f else m.ids.lookup k := by
  unfold adjust
  split
  · rename_i hnone
    split
    · subst_vars
      rw [hnone]
      rfl
    · rfl
  · rename_i seen hseen
    rw [Table.lookup_insert_eq, hseen]
    rfl

end CacheMap

/-! ### The cache and the map -/

/-- The entries of the cache are those of the map. -/
structure Cache.Refines (c : Cache) (m : CacheMap) : Prop where
  version : c.version = m.version
  entry : ∀ id, c.entry id = (m.ids.lookup id).map fun seen => { id, checksum := seen.checksum, lastSeen := seen.lastSeen }

namespace Cache.Refines

variable {c : Cache} {m : CacheMap}

theorem create : cacheCreate.Refines .empty where
  version := rfl
  entry _ := rfl

/-- The cache holds as many items as the map has ids. -/
theorem length (h : c.Refines m) : c.items.length = m.ids.keys.length := by
  have hids : (c.items.map CacheItem.id).Nodup := List.Pairwise.imp (fun hlt => Nat.ne_of_lt hlt) c.sorted
  have hperm : (c.items.map CacheItem.id).Perm m.ids.keys := by
    rw [List.perm_ext_iff_of_nodup hids m.ids.keys_nodup]
    intro id
    rw [← AList.mem_keys, ← AList.lookup_isSome, List.mem_map]
    have hentry := h.entry id
    constructor
    · rintro ⟨item, hitem, hid⟩
      rw [c.entry_eq_some.mpr ⟨hitem, hid⟩] at hentry
      obtain ⟨seen, hseen, -⟩ := Option.map_eq_some_iff.mp hentry.symm
      rw [hseen]
      rfl
    · intro hsome
      obtain ⟨seen, hseen⟩ := Option.isSome_iff_exists.mp hsome
      rw [hseen] at hentry
      exact ⟨_, c.entry_eq_some.mp hentry⟩
  rw [← hperm.length_eq, List.length_map]

theorem cacheSetItem (h : c.Refines m) (id checksum : Nat) :
    (cacheSetItem c id checksum).Refines (m.step (.set id checksum)).2 where
  version := (version_cacheSetItem c id checksum).trans h.version
  entry k := by
    dsimp only [CacheMap.step]
    rw [entry_cacheSetItem, Table.lookup_insert_eq, h.version]
    split
    · subst_vars
      rfl
    · exact h.entry k

theorem adjust (h : c.Refines m) {c' : Cache} {id : Nat} {f : Seen → Seen} {g : CacheItem → CacheItem}
    (hversion : c'.version = c.version)
    (hentry : ∀ k, c'.entry k = if k = id then (c.entry id).map g else c.entry k)
    (hg : ∀ seen : Seen, g { id, checksum := seen.checksum, lastSeen := seen.lastSeen } =
      { id, checksum := (f seen).checksum, lastSeen := (f seen).lastSeen }) : c'.Refines (m.adjust id f) where
  version := by rw [hversion, h.version, CacheMap.version_adjust]
  entry k := by
    rw [hentry, CacheMap.lookup_adjust]
    split
    · subst_vars
      rw [h.entry, Option.map_map, Option.map_map]
      exact congrArg (Option.map · _) (funext hg)
    · exact h.entry k

theorem cacheTombstone (h : c.Refines m) (id : Nat) : (cacheTombstone c id).Refines (m.step (.tombstone id)).2 :=
  h.adjust (version_cacheTombstone c id) (entry_cacheTombstone c id) fun _ => rfl

theorem cacheCheckItem (h : c.Refines m) (id checksum : Nat) :
    some (cacheCheckItem c id checksum).1 = (m.step (.check id checksum)).1 ∧
      (cacheCheckItem c id checksum).2.Refines (m.step (.check id checksum)).2 := by
  constructor
  · dsimp only [CacheMap.step, CacheMap.state]
    rw [cacheCheckItem_state, h.entry]
    cases m.ids.lookup id <;> rfl
  · refine h.adjust (version_cacheCheckItem c id checksum) (entry_cacheCheckItem c id checksum) fun seen => ?_
    dsimp only [CacheMap.stamp]
    rw [h.version]
    split <;> rfl

theorem cachePrune (h : c.Refines m) : (cachePrune c).Refines (m.step .prune).2 where
  version := h.version
  entry k := by
    dsimp only [CacheMap.step]
    rw [entry_cachePrune, Table.lookup_eraseWhere, h.entry]
    cases hk : m.ids.lookup k with
    | none => rfl
    | some seen => by_cases hz : seen.lastSeen = 0 <;> simp [hz, Option.filter]

theorem cacheNextVersion (h : c.Refines m) (hbound : m.version + 1 < uint64Max) :
    (cacheNextVersion c).Refines (m.step .nextVersion).2 := by
  have hwrap : c.version + 1 ≠ uint64Max := by
    rw [h.version]
    omega
  refine ⟨?_, fun k => ?_⟩
  · rw [version_cacheNextVersion c hwrap, h.version]
    rfl
  · rw [entry_cacheNextVersion c hwrap]
    exact h.entry k

end Cache.Refines

end BxSync
