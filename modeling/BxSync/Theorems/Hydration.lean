import BxSync.Startup

/-! Whether a cache that a thread goes on with holds its table. A SELECT that fails leaves the cache empty, and a
    thread only stops when it has no connection. -/

namespace BxSync

/-! ### The property -/

/-- The live ids of the cache and their checksums are those of the table. -/
def HoldsTable (c : Cache) (t : Table Nat Nat) : Prop :=
  ∀ id checksum, (∃ item, c.entry id = some item ∧ 0 < item.lastSeen ∧ item.checksum = checksum) ↔ t.lookup id = some checksum

/-- What `hydrate_cache` reports as done, and what `file_thread` goes on with, is complete. -/
def CompleteOrReported (t : Table Nat Nat) (a : HydrateAnswers) : Prop :=
  ((hydrateCache (checksumRows t) cacheCreate a).1 = 0 → HoldsTable (hydrateCache (checksumRows t) cacheCreate a).2 t) ∧
    ∀ c, fileThreadCache t a = some c → HoldsTable c t

/-! ### What a hydration leaves in the cache -/

namespace Cache

@[simp] theorem version_bxCacheHydrate (rows : List (Nat × Nat)) (c : Cache) : (bxCacheHydrate rows c).version = c.version := by
  unfold bxCacheHydrate
  induction rows generalizing c with
  | nil => rfl
  | cons row rows ih => exact (ih _).trans (version_cacheSetItem c row.1 row.2)

theorem entry_bxCacheHydrate {rows : List (Nat × Nat)} (hrows : (rows.map Prod.fst).Nodup) (c : Cache) (id : Nat) :
    (bxCacheHydrate rows c).entry id =
      ((rows.lookup id).map fun checksum => ⟨id, checksum, c.version⟩).or (c.entry id) := by
  induction rows generalizing c with
  | nil => rfl
  | cons row rows ih =>
    obtain ⟨first, checksum⟩ := row
    obtain ⟨hfirst, hrest⟩ := List.nodup_cons.mp hrows
    have hnext : bxCacheHydrate ((first, checksum) :: rows) c = bxCacheHydrate rows (cacheSetItem c first checksum) := rfl
    rw [hnext, ih hrest, version_cacheSetItem, entry_cacheSetItem, List.lookup_cons]
    by_cases hid : id = first
    · subst hid
      have hnone : rows.lookup id = none := List.lookup_eq_none_iff.mpr fun row hrow =>
        bne_iff_ne.mpr fun heq => hfirst (List.mem_map.mpr ⟨row, hrow, heq.symm⟩)
      simp [hnone]
    · have hne : (id == first) = false := beq_eq_false_iff_ne.mpr hid
      rw [if_neg hid, hne]

end Cache

/-- A SELECT of the ids and a value of the rows. -/
theorem lookup_map_entries {α β : Type} (t : Table Nat α) (f : α → β) (id : Nat) :
    (t.entries.map fun e => (e.1, f e.2)).lookup id = (t.lookup id).map f := by
  obtain ⟨entries, hkeys⟩ := t
  unfold AList.lookup
  dsimp only
  clear hkeys
  induction entries with
  | nil => rfl
  | cons e entries ih =>
    obtain ⟨first, row⟩ := e
    rw [List.map_cons, List.lookup_cons]
    by_cases hid : id = first
    · subst hid
      simp
    · have hne : (id == first) = false := beq_eq_false_iff_ne.mpr hid
      rw [List.dlookup_cons_ne _ _ hid, hne]
      exact ih

theorem nodup_map_entries {α β : Type} (t : Table Nat α) (f : α → β) :
    ((t.entries.map fun e => (e.1, f e.2)).map Prod.fst).Nodup := by
  rw [List.map_map]
  exact t.nodupKeys

theorem lookup_checksumRows (t : Table Nat Nat) (id : Nat) : (checksumRows t).lookup id = t.lookup id :=
  (lookup_map_entries t (fun checksum => checksum) id).trans Option.map_id'

theorem nodup_checksumRows (t : Table Nat Nat) : ((checksumRows t).map Prod.fst).Nodup :=
  nodup_map_entries t fun checksum => checksum

theorem holdsTable_hydrated (t : Table Nat Nat) : HoldsTable (bxCacheHydrate (checksumRows t) cacheCreate) t := by
  intro id checksum
  have hempty : cacheCreate.entry id = none := rfl
  rw [Cache.entry_bxCacheHydrate (nodup_checksumRows t), lookup_checksumRows, hempty, Option.or_none]
  cases t.lookup id with
  | none => simp
  | some checksum' =>
    constructor
    · rintro ⟨_, ⟨⟩, -, rfl⟩
      rfl
    · rintro ⟨⟩
      exact ⟨_, rfl, cacheCreate.version_pos, rfl⟩

/-- The cache that was not filled holds the empty table only. -/
theorem holdsTable_cacheCreate (t : Table Nat Nat) : HoldsTable cacheCreate t ↔ t = ∅ := by
  have hempty : ∀ id, cacheCreate.entry id = none := fun _ => rfl
  constructor
  · intro h
    have hkeys : t.keys = [] := by
      rw [List.eq_nil_iff_forall_not_mem]
      intro id hid
      obtain ⟨checksum, hrow⟩ := Option.isSome_iff_exists.mp (AList.lookup_isSome.mpr hid)
      obtain ⟨item, hitem, -⟩ := (h id checksum).mpr hrow
      exact nomatch (hempty id).symm.trans hitem
    exact AList.ext (List.map_eq_nil_iff.mp hkeys)
  · rintro rfl id checksum
    rw [hempty id, AList.lookup_empty]
    simp

/-! ### When it is complete -/

/-- The query ran, there is nothing to hydrate, or the thread is left without a connection and stops. -/
def HydrationCondition (t : Table Nat Nat) (a : HydrateAnswers) : Prop :=
  (a.prepared = true ∧ a.select = .answered) ∨ t = ∅ ∨ (a.prepared = true ∧ a.select = .failed true ∧ a.reconnect = false)

theorem hydrateCache_holds_iff (t : Table Nat Nat) (a : HydrateAnswers) :
    ((hydrateCache (checksumRows t) cacheCreate a).1 = 0 → HoldsTable (hydrateCache (checksumRows t) cacheCreate a).2 t) ↔
      HydrationCondition t a := by
  obtain ⟨prepared, select, reconnect⟩ := a
  unfold HydrationCondition
  cases prepared with
  | false => simp [hydrateCache, bxCacheHydrateQuery, holdsTable_cacheCreate]
  | true =>
    cases select with
    | answered => simp [hydrateCache, bxCacheHydrateQuery, holdsTable_hydrated]
    | failed needReconnect =>
      cases needReconnect <;> cases reconnect <;>
        simp [hydrateCache, bxCacheHydrateQuery, bxDatabaseQueryError, holdsTable_cacheCreate]

theorem fileThreadCache_holds_iff (t : Table Nat Nat) (a : HydrateAnswers) :
    (∀ c, fileThreadCache t a = some c → HoldsTable c t) ↔ HydrationCondition t a := by
  obtain ⟨prepared, select, reconnect⟩ := a
  unfold HydrationCondition
  cases prepared with
  | false => simp [fileThreadCache, bxCacheHydrateQuery, holdsTable_cacheCreate]
  | true =>
    cases select with
    | answered => simp [fileThreadCache, bxCacheHydrateQuery, holdsTable_hydrated]
    | failed needReconnect =>
      cases needReconnect <;> cases reconnect <;>
        simp [fileThreadCache, bxCacheHydrateQuery, bxDatabaseQueryError, holdsTable_cacheCreate]

/-- For every table and every outcome. -/
theorem hydration_complete_iff (t : Table Nat Nat) (a : HydrateAnswers) : CompleteOrReported t a ↔ HydrationCondition t a := by
  unfold CompleteOrReported
  rw [hydrateCache_holds_iff, fileThreadCache_holds_iff, and_self]

/-- The SELECT of a table with one row loses the connection, and the reconnect succeeds. -/
theorem hydration_lost : ¬CompleteOrReported ((∅ : Table Nat Nat).insert 1 7) ⟨true, .failed true, true⟩ := by
  intro h
  have hholds : HoldsTable cacheCreate ((∅ : Table Nat Nat).insert 1 7) := h.1 rfl
  obtain ⟨item, hitem, -⟩ := (hholds 1 7).mpr (by decide)
  exact nomatch hitem

end BxSync
