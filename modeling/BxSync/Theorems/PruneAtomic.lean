import BxSync.Theorems.CacheTable
import Mathlib.Data.List.Sort

/-! A prune deletes the ids in the range of the drift one after the other, up to the first DELETE that fails.
    Wherever it stops, the live ids of the cache are those of the table if they were before. -/

namespace BxSync

/-- What `bx_prune_items` is called for. -/
inductive PruneTarget
  | resource (r : Resource)
  | file
deriving DecidableEq, Repr

def PruneTarget.delete : PruneTarget → Delete
  | .resource r => r.delete
  | .file => Database.deleteFile

/-- The table has a row of the id. -/
def PruneTarget.has (db : Database) : PruneTarget → Nat → Bool
  | .resource r, id => db.has r id
  | .file, id => (db.file.lookup id).isSome

/-- The DELETEs of a list of ids, up to the first that fails: how many are done, and the tables after them. -/
def deleteIds (delete : Delete) : List Nat → List Exec → Database → Nat × Database
  | [], _, db => (0, db)
  | _ :: _, [], db => (0, db)
  | id :: ids, exec :: execs, db =>
    match exec.run db (delete db id) with
    | (.failed _, db) => (0, db)
    | (.done _, db) =>
      let others := deleteIds delete ids execs db
      (others.1 + 1, others.2)

def tombstoneAll (c : Cache) (ids : List Nat) : Cache := ids.foldl cacheTombstone c

namespace Cache

theorem items_cacheTombstone {c : Cache} {id j : Nat} (h : c.findItem id = some j) :
    (cacheTombstone c id).items = c.items.modify j fun item => { item with lastSeen := 0 } := by
  unfold cacheTombstone
  rw [h]
  rfl

theorem prunableFrom_cacheTombstone {c : Cache} {id j : Nat} (h : c.findItem id = some j) (drift : Nat) {iter : CacheIter}
    (hiter : iter.current = j + 1) : prunableFrom (cacheTombstone c id) drift iter = prunableFrom c drift iter := by
  unfold prunableFrom
  rw [hiter, (sameAfter_of_modify (items_cacheTombstone h)).drop]

theorem version_tombstoneAll (c : Cache) (ids : List Nat) : (tombstoneAll c ids).version = c.version := by
  induction ids generalizing c with
  | nil => rfl
  | cons id ids ih => exact (ih (cacheTombstone c id)).trans (version_cacheTombstone c id)

theorem entry_tombstoneAll (c : Cache) (ids : List Nat) (k : Nat) :
    (tombstoneAll c ids).entry k =
      if k ∈ ids then (c.entry k).map fun item => { item with lastSeen := 0 } else c.entry k := by
  induction ids generalizing c with
  | nil => rfl
  | cons id ids ih =>
    have hcons : tombstoneAll c (id :: ids) = tombstoneAll (cacheTombstone c id) ids := rfl
    rw [hcons, ih, entry_cacheTombstone]
    by_cases hk : k = id
    · subst hk
      cases hentry : c.entry k <;> simp
    · simp [hk]

end Cache

/-- The loop of a prune is the DELETEs of the ids from its iterator on. -/
theorem pruneLoop_eq (delete : Delete) (drift : Nat) (execs : List Exec) (iter : CacheIter) (db : Database) (c : Cache) :
    let ids := prunableFrom c drift iter
    let done := deleteIds delete ids execs db
    let r := pruneLoop delete drift execs iter db c
    done.1 ≤ ids.length ∧ (r.1 = .noError ↔ done.1 = ids.length) ∧ r.2.1 = done.2 ∧
      r.2.2.1 = (if done.1 = ids.length then cachePrune (tombstoneAll c ids) else tombstoneAll c (ids.take done.1)) ∧
      r.2.2.2 = (ids.take (done.1 + 1)).map Event.deleted := by
  fun_induction pruneLoop delete drift execs iter db c
  case case1 iter db c _ hnext =>
    rcases cacheIterNextPrunableId_spec c iter drift with ⟨-, hnil⟩ | ⟨id, next, hsome, -⟩
    · rw [hnil]
      exact ⟨le_rfl, by simp [deleteIds], rfl, rfl, rfl⟩
    · rw [hsome] at hnext
      cases hnext
  case case2 iter db c id _ hnext =>
    rcases cacheIterNextPrunableId_spec c iter drift with ⟨hnone, -⟩ | ⟨id', next, hsome, -, hcons, -⟩
    · rw [hnext] at hnone
      cases hnone
    · obtain ⟨⟨⟩, rfl⟩ := Prod.mk.inj (hnext.symm.trans hsome)
      rw [hcons]
      exact ⟨Nat.zero_le _, by simp [deleteIds], rfl, by simp [deleteIds, tombstoneAll], rfl⟩
  case case3 iter db c id _ exec rest hnext needReconnect db' hrun =>
    rcases cacheIterNextPrunableId_spec c iter drift with ⟨hnone, -⟩ | ⟨id', next, hsome, -, hcons, -⟩
    · rw [hnext] at hnone
      cases hnone
    · obtain ⟨⟨⟩, rfl⟩ := Prod.mk.inj (hnext.symm.trans hsome)
      rw [hcons]
      simp [deleteIds, hrun, tombstoneAll]
  case case4 iter db c id next' exec rest hnext warned db' hrun others ih =>
    rcases cacheIterNextPrunableId_spec c iter drift with
      ⟨hnone, -⟩ | ⟨id', next, hsome, -, hcons, j, item, hj, hid, -, hcur⟩
    · rw [hnext] at hnone
      cases hnone
    · obtain ⟨⟨⟩, rfl⟩ := Prod.mk.inj (hnext.symm.trans hsome)
      have hfind : c.findItem id = some j := hid ▸ Cache.findItem_of_getElem? hj
      rw [Cache.prunableFrom_cacheTombstone hfind drift hcur] at ih
      rw [hcons]
      obtain ⟨hle, herror, hdb, hcache, hlog⟩ := ih
      have hdone : deleteIds delete (id :: prunableFrom c drift next') (exec :: rest) db =
          ((deleteIds delete (prunableFrom c drift next') rest db').1 + 1,
            (deleteIds delete (prunableFrom c drift next') rest db').2) := by
        simp [deleteIds, hrun]
      dsimp only
      rw [hdone]
      refine ⟨Nat.succ_le_succ hle, ?_, hdb, ?_, ?_⟩
      · rw [List.length_cons, Nat.add_right_cancel_iff]
        exact herror
      · simp only [List.length_cons, Nat.add_right_cancel_iff, List.take_succ_cons]
        exact hcache
      · rw [List.take_succ_cons, List.map_cons]
        exact congrArg (.deleted id :: ·) hlog

/-! ### The tables -/

theorem PruneTarget.delete_refused (t : PruneTarget) (db : Database) (id : Nat) (cv : Bool) :
    t.delete db id true cv = (none, db) := by
  rcases t with ⟨_ | _ | _⟩ | _ <;> rfl

theorem has_of_done (t : PruneTarget) {exec : Exec} {db db' : Database} {id : Nat} {warned : Bool}
    (h : exec.run db (t.delete db id) = (.done warned, db')) (k : Nat) : t.has db' k ↔ t.has db k ∧ k ≠ id := by
  obtain ⟨fk, cv, heffect⟩ := Exec.run_done (congrArg Prod.fst h)
  rw [h] at heffect
  cases fk with
  | true =>
    rw [t.delete_refused] at heffect
    nomatch heffect
  | false =>
    rcases t with ⟨_ | _ | _⟩ | _
    all_goals
      obtain ⟨-, rfl⟩ := Prod.mk.inj heffect
      exact Table.isSome_lookup_erase _ _ _

/-- A failed DELETE removes nothing. -/
def FailsClean (t : PruneTarget) (exec : Exec) : Prop :=
  ∀ db id needReconnect, (exec.run db (t.delete db id)).1 = .failed needReconnect → (exec.run db (t.delete db id)).2 = db

/-- So it is with a DELETE that never ran or whose reply arrived. -/
theorem failsClean_of_reported (t : PruneTarget) {exec : Exec}
    (h : ∀ fkError converted needReconnect, exec ≠ .unreported fkError converted needReconnect) : FailsClean t exec := by
  intro db id needReconnect hfailed
  cases exec with
  | unsent => rfl
  | unreported fk cv again => exact absurd rfl (h fk cv again)
  | ran fk cv =>
    cases fk with
    | true =>
      simp [Exec.run, t.delete_refused]
    | false =>
      have hdone : (t.delete db id false cv).1 = some false := by
        rcases t with ⟨_ | _ | _⟩ | _ <;> rfl
      rw [Exec.run_ran hdone] at hfailed
      cases hfailed

theorem has_deleteIds (t : PruneTarget) (ids : List Nat) (execs : List Exec) (db : Database)
    (hclean : ∀ exec ∈ execs, FailsClean t exec) (k : Nat) :
    t.has (deleteIds t.delete ids execs db).2 k ↔ t.has db k ∧ k ∉ ids.take (deleteIds t.delete ids execs db).1 := by
  revert hclean
  fun_induction deleteIds t.delete ids execs db
  case case1 | case2 => simp
  case case3 id ids exec rest db needReconnect db' hrun =>
    intro hclean
    have hkept := hclean exec List.mem_cons_self db id needReconnect
    rw [hrun] at hkept
    rw [hkept rfl]
    simp
  case case4 id ids exec rest db warned db' hrun others ih =>
    intro hclean
    rw [ih fun e he => hclean e (List.mem_cons_of_mem _ he), has_of_done t hrun, List.take_succ_cons, List.mem_cons]
    tauto

/-! ### The cache -/

theorem live_tombstoneAll (c : Cache) (ids : List Nat) (k : Nat) :
    (tombstoneAll c ids).Live k ↔ c.Live k ∧ k ∉ ids := by
  unfold Cache.Live
  rw [Cache.entry_tombstoneAll]
  by_cases hk : k ∈ ids
  · rw [if_pos hk]
    constructor
    · rintro ⟨item, hitem, hpos⟩
      obtain ⟨_, -, rfl⟩ := Option.map_eq_some_iff.mp hitem
      exact absurd hpos (lt_irrefl _)
    · exact fun h => absurd hk h.2
  · rw [if_neg hk]
    exact ⟨fun h => ⟨h, hk⟩, fun h => h.1⟩

theorem live_cachePrune (c : Cache) (k : Nat) : (cachePrune c).Live k ↔ c.Live k := by
  refine ⟨?_, Cache.Live.prune⟩
  rintro ⟨item, hitem, hpos⟩
  rw [Cache.entry_cachePrune, Option.filter_eq_some_iff] at hitem
  exact ⟨item, hitem.1, hpos⟩

/-- Of the ids of an iteration those without a tombstone are left to the next one. -/
theorem cacheIterAll_tombstoneAll (c : Cache) (drift n : Nat) :
    cacheIterAll (tombstoneAll c ((cacheIterAll c drift).take n)) drift = (cacheIterAll c drift).drop n := by
  have hsorted := cacheIterAll_sorted c drift
  have hnodup : (cacheIterAll c drift).Nodup := hsorted.imp fun hlt => Nat.ne_of_lt hlt
  refine (cacheIterAll_sorted _ drift).eq_of_mem_iff (hsorted.sublist (List.drop_sublist n _)) fun id => ?_
  have hdrop : id ∈ (cacheIterAll c drift).drop n ↔ id ∈ cacheIterAll c drift ∧ id ∉ (cacheIterAll c drift).take n := by
    have hdisjoint := List.disjoint_take_drop hnodup (le_refl n)
    constructor
    · exact fun h => ⟨List.mem_of_mem_drop h, fun h' => hdisjoint h' h⟩
    · rintro ⟨hmem, hnot⟩
      rw [← List.take_append_drop n (cacheIterAll c drift), List.mem_append] at hmem
      exact hmem.resolve_left hnot
  rw [hdrop, mem_cacheIterAll_iff, mem_cacheIterAll_iff, Cache.version_tombstoneAll, Cache.entry_tombstoneAll]
  by_cases hid : id ∈ (cacheIterAll c drift).take n
  · rw [if_pos hid]
    constructor
    · rintro ⟨item, hitem, hpos, -⟩
      obtain ⟨_, -, rfl⟩ := Option.map_eq_some_iff.mp hitem
      exact absurd hpos (lt_irrefl _)
    · exact fun h => absurd hid h.2
  · rw [if_neg hid]
    exact ⟨fun h => ⟨h, hid⟩, fun h => h.1⟩

/-! ### The prune -/

theorem pruneDrift_pos {conf : Int} (hpos : 0 < conf) (hint : conf ≤ intMax) : pruneDrift conf = conf.toNat := by
  have hmod : conf % 2 ^ 64 = conf := by
    have hmax : (intMax : Int) = 2 ^ 31 - 1 := rfl
    omega
  unfold pruneDrift
  rw [if_neg (by omega), hmod]

/-- For every cache, every positive drift and every pattern of DELETE outcomes. -/
theorem pruneAtomic (t : PruneTarget) (db : Database) (c : Cache) (conf : Int) (hpos : 0 < conf) (hint : conf ≤ intMax)
    (deletes : List Exec) (hclean : ∀ exec ∈ deletes, FailsClean t exec) :
    let drift := conf.toNat
    let ids := cacheIterAll c drift
    let done := deleteIds t.delete ids deletes db
    let r := bxPruneItems t.delete true conf deletes db c
    -- The DELETEs are of the ids in the range of the drift, in order, up to the first that fails.
    ((∀ id, id ∈ ids ↔ ∃ item, c.entry id = some item ∧ 0 < item.lastSeen ∧ item.lastSeen + drift ≤ c.version) ∧
      ids.Pairwise (· < ·) ∧ done.1 ≤ ids.length ∧ (r.1 = .noError ↔ done.1 = ids.length) ∧ r.2.1 = done.2 ∧
      r.2.2.2 = (ids.take (done.1 + 1)).map Event.deleted) ∧
    -- When all are done the other live ids are left as they were.
    (done.1 = ids.length → ∀ id, r.2.2.1.entry id =
      if id ∈ ids then none else (c.entry id).filter fun item => item.lastSeen ≠ 0) ∧
    -- When one fails the ones before it are no longer live, and a retry starts with it.
    (done.1 < ids.length → r.2.2.1.version = c.version ∧
      (∀ id, id ∈ ids.take done.1 → ¬r.2.2.1.Live id) ∧
      (∀ id, id ∉ ids.take done.1 → r.2.2.1.entry id = c.entry id) ∧
      ∀ db' deletes', (bxPruneItems t.delete true conf deletes' db' r.2.2.1).2.2.2.head? =
        ids[done.1]?.map Event.deleted) ∧
    -- The live ids are still those of the table.
    ((∀ id, t.has db id ↔ c.Live id) → ∀ id, t.has r.2.1 id ↔ r.2.2.1.Live id) := by
  have hloop : ∀ deletes db c, bxPruneItems t.delete true conf deletes db c =
      pruneLoop t.delete conf.toNat deletes (cacheIterInit c) db c := by
    intro deletes db c
    rw [bxPruneItems, if_pos rfl, pruneDrift_pos hpos hint]
  have hids : ∀ c, prunableFrom c conf.toNat (cacheIterInit c) = cacheIterAll c conf.toNat := fun c =>
    (cacheIterCollect_eq c _ _ _ (Nat.lt_succ_self _)).symm
  have hrows := has_deleteIds t (cacheIterAll c conf.toNat) deletes db hclean
  obtain ⟨hle, herror, hdb, hcache, hlog⟩ := pruneLoop_eq t.delete conf.toNat deletes (cacheIterInit c) db c
  dsimp only
  rw [hids] at hle herror hdb hcache hlog
  rw [hloop, hdb, hcache, hlog, herror]
  generalize (deleteIds t.delete (cacheIterAll c conf.toNat) deletes db).1 = k at *
  refine ⟨⟨mem_cacheIterAll_iff c _, cacheIterAll_sorted c _, hle, Iff.rfl, rfl, rfl⟩, ?_, ?_, ?_⟩
  · intro hall id
    rw [if_pos hall, Cache.entry_cachePrune, Cache.entry_tombstoneAll]
    split
    · cases c.entry id with
      | none => rfl
      | some item => simp [Option.filter]
    · rfl
  · intro hlt
    rw [if_neg (by omega)]
    refine ⟨Cache.version_tombstoneAll _ _, fun id hid hlive => ?_, fun id hid => ?_, fun db' deletes' => ?_⟩
    · exact ((live_tombstoneAll _ _ _).mp hlive).2 hid
    · rw [Cache.entry_tombstoneAll, if_neg hid]
    · obtain ⟨-, -, -, -, hretry⟩ := pruneLoop_eq t.delete conf.toNat deletes' (cacheIterInit _) db'
        (tombstoneAll c ((cacheIterAll c conf.toNat).take k))
      rw [hids, cacheIterAll_tombstoneAll] at hretry
      rw [hloop, hretry, List.head?_map, List.head?_take, if_neg (Nat.succ_ne_zero _), List.head?_drop]
  · intro hagree id
    rw [hrows, hagree]
    split
    · rename_i hall
      rw [live_cachePrune, live_tombstoneAll, hall, List.take_length]
    · rw [live_tombstoneAll]

/-- Contacts 1, 2 and 3 from the table. Two versions later only contact 3 was seen. -/
def twoUnseen : Cache :=
  (cacheCheckItem (cacheNextVersion (cacheNextVersion (bxCacheHydrate [(1, 10), (2, 10), (3, 10)] cacheCreate))) 3 10).2

/-- The DELETE of contact 1 is done. The one of contact 2 is refused, and a retry starts with it. -/
theorem pruneAtomic_refused :
    let r := bxPruneItems Database.deleteContact true 1 [.ran false false, .ran true false] .empty twoUnseen
    r.2.2.2 = [.deleted 1, .deleted 2] ∧ r.1 ≠ .noError ∧ ¬r.2.2.1.Live 1 ∧ r.2.2.1.entry 2 = twoUnseen.entry 2 ∧
      (bxPruneItems Database.deleteContact true 1 [] .empty r.2.2.1).2.2.2.head? = some (.deleted 2) := by
  have hclean : ∀ exec ∈ [Exec.ran false false, .ran true false], FailsClean (.resource .contact) exec := by
    intro exec hexec
    simp only [List.mem_cons, List.not_mem_nil, or_false] at hexec
    rcases hexec with rfl | rfl
    all_goals exact failsClean_of_reported _ (by simp)
  have hids : cacheIterAll twoUnseen (1 : Int).toNat = [1, 2] := by decide
  have hdone : (deleteIds (PruneTarget.resource .contact).delete [1, 2] [.ran false false, .ran true false] .empty).1 = 1 := by
    decide
  obtain ⟨⟨-, -, -, herror, -, hlog⟩, -, hfailed, -⟩ :=
    pruneAtomic (.resource .contact) .empty twoUnseen 1 (by decide) (by decide) _ hclean
  rw [hids, hdone] at herror hlog hfailed
  obtain ⟨-, hgone, hkept, hretry⟩ := hfailed (by decide)
  exact ⟨hlog, herror.not.mpr (by decide), hgone 1 (by decide), hkept 2 (by decide), hretry .empty []⟩

end BxSync
