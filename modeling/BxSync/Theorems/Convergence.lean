import BxSync.Theorems.Hydration
import BxSync.Theorems.InvoiceIdempotence
import BxSync.Theorems.Strays

/-! Against a server whose lists stay as they are, the tables become those lists. Requests, statements and checkpoints
    may fail in any way for any number of calls: the first complete call after as many as the drift settles the table. -/

namespace BxSync

open Machine Aging

/-! ### The pages of a fixed list -/

/-- Every answered page is the part of the list at its offset. -/
def ListPages {ρ α : Type} (object : ρ → α) (list : List α) (replies : List (Option (PageReply ρ))) (start : Nat) : Prop :=
  ∀ (n : Nat) (reply : PageReply ρ) (rows : List ρ), replies[n]? = some (some reply) → reply.rows = some rows →
    rows.map object = (list.drop (start + n * bxillListLimit)).take bxillListLimit

namespace ListPages

variable {ρ α : Type} {object : ρ → α} {list : List α} {replies : List (Option (PageReply ρ))} {start : Nat}

theorem shown (h : ListPages object list replies start) : ∀ row ∈ shownRows replies, object row ∈ list := by
  intro row hrow
  obtain ⟨reply, hreply, hrow⟩ := List.mem_flatMap.mp hrow
  obtain ⟨n, hn⟩ := List.mem_iff_getElem?.mp hreply
  cases reply with
  | none => cases hrow
  | some reply =>
    cases hrows : reply.rows with
    | none => simp [hrows] at hrow
    | some rows =>
      have hrow : row ∈ rows := by simpa [hrows] using hrow
      have hmem := List.mem_map_of_mem (f := object) hrow
      rw [h n reply rows hn hrows] at hmem
      exact List.mem_of_mem_drop (List.mem_of_mem_take hmem)

theorem tail {first : Option (PageReply ρ)} (h : ListPages object list (first :: replies) start) :
    ListPages object list replies (start + bxillListLimit) := by
  intro n reply rows hreply hrows
  have := h (n + 1) reply rows hreply hrows
  rwa [Nat.succ_mul, Nat.add_comm (n * bxillListLimit), ← Nat.add_assoc] at this

/-- A walk without an error has read the list to its end. -/
theorem pageRows_eq {σ κ : Type} (w : Walker σ κ ρ) (s : σ) (k : κ) (h : ListPages object list replies start)
    (hw : (w.walkPages replies start s k).error = .noError) : (pageRows replies).map object = list.drop start := by
  revert h hw
  fun_induction w.walkPages replies start s k
  case case1 | case2 | case3 => exact fun _ hw => by cases hw
  case case4 he => exact fun _ hw => absurd hw he
  case case5 reply _ start _ _ rows hreply _ _ _ hempty =>
    intro h _
    have hpage := h 0 reply rows rfl hreply
    rw [List.isEmpty_iff.mp hempty, Nat.zero_mul, Nat.add_zero, List.map_nil, eq_comm, List.take_eq_nil_iff] at hpage
    rw [pageRows, hreply]
    simpa [hempty, bxillListLimit] using hpage
  case case6 hp => exact fun _ hw => absurd hw hp
  case case7 reply rest start _ _ rows hreply _ _ _ hne _ _ _ _ _ ih =>
    intro h hw
    have hpage := h 0 reply rows rfl hreply
    rw [Nat.zero_mul, Nat.add_zero] at hpage
    rw [pageRows, hreply]
    dsimp only
    rw [if_neg hne, List.map_append, hpage, ih h.tail hw, ← List.drop_drop, List.take_append_drop]

end ListPages

/-- The rows that a complete walk handed over have the same ids as the rows of its pages. -/
theorem Walker.handed_pageRows {σ κ ρ : Type} (w : Walker σ κ ρ) (replies : List (Option (PageReply ρ))) (start : Nat) (s : σ)
    (k : κ) (hw : (w.walkPages replies start s k).error = .noError) :
    handedIds (w.walkPages replies start s k).log = (pageRows replies).filterMap w.rowId := by
  revert hw
  fun_induction w.walkPages replies start s k
  case case1 | case2 | case3 => exact fun hw => by cases hw
  case case4 he => exact fun hw => absurd hw he
  case case5 rows hreply synced shown he hempty =>
    intro _
    obtain rfl := List.isEmpty_iff.mp hempty
    simp [pageRows, hreply, shown, synced, Walker.syncRows]
  case case6 hp => exact fun hw => absurd hw hp
  case case7 rows hreply synced shown he hne next page log _ walk ih =>
    intro hw
    simp [pageRows, hreply, hne, log, shown, synced, walk, w.handedIds_syncRows rows _ (not_not.mp he), ih hw]

/-! ### What an id of the list looks like on the way -/

/-- A row and a cache item of an id that the server lists with a checksum: a live item has a row, of the listed
    checksum if the item has it, and a row without a live item is of the listed checksum. -/
structure Sound (row : Option Nat) (entry : Option CacheItem) (checksum : Nat) : Prop where
  live : ∀ item, entry = some item → 0 < item.lastSeen → ∃ r, row = some r ∧ (item.checksum = checksum → r = checksum)
  other : (∀ item, entry = some item → item.lastSeen = 0) → ∀ r, row = some r → r = checksum

namespace Sound

variable {row : Option Nat} {c : Cache} {entry : Option CacheItem} {id k checksum checksum' : Nat}

/-- A row of the listed checksum is sound whatever the cache has. -/
theorem of_row : Sound (some checksum) entry checksum :=
  ⟨fun _ _ _ => ⟨checksum, rfl, fun _ => rfl⟩, fun _ _ h => (Option.some.inj h).symm⟩

theorem check (h : Sound row (c.entry id) checksum) : Sound row ((cacheCheckItem c k checksum').2.entry id) checksum := by
  rw [Cache.entry_cacheCheckItem]
  split
  · subst_vars
    refine ⟨fun item hitem hpos => ?_, fun hdead => h.other fun item hitem => ?_⟩
    · obtain ⟨old, hold, rfl⟩ := Option.map_eq_some_iff.mp hitem
      split at hpos
      · rename_i hz
        omega
      · rename_i hz
        rw [if_neg hz]
        exact h.live old hold (Nat.pos_of_ne_zero hz)
    · have := hdead _ (by rw [hitem, Option.map_some])
      split at this
      · exact ‹_›
      · exact absurd this (Nat.pos_iff_ne_zero.mp c.version_pos)
  · exact h

theorem ok (h : Sound row (c.entry id) checksum) (hok : (cacheCheckItem c id checksum).1 = .cacheOk) : row = some checksum := by
  obtain ⟨⟨item, hitem, hpos⟩, hchecksum⟩ := (c.cacheCheckItem_ok id checksum).mp hok
  obtain ⟨r, hr, hsame⟩ := h.live item hitem hpos
  rw [hitem] at hchecksum
  rw [hr, hsame (Option.some.inj hchecksum)]

/-- A changed id has its row. -/
theorem notSync (h : Sound row (c.entry id) checksum) (hstate : (cacheCheckItem c id checksum).1 = .cacheNotSync) :
    row.isSome := by
  obtain ⟨item, hitem, hpos⟩ := (c.cacheCheckItem_notSet id checksum).mp (by rw [hstate]; decide)
  obtain ⟨r, hr, -⟩ := h.live item hitem hpos
  rw [hr]
  rfl

/-- An id that is not set has the row of the list or none. -/
theorem notSet (h : Sound row (c.entry id) checksum) (hstate : (cacheCheckItem c id checksum).1 = .cacheNotSet) :
    row = none ∨ row = some checksum := by
  have hdead : ∀ item, c.entry id = some item → item.lastSeen = 0 := by
    intro item hitem
    by_contra hz
    exact (c.cacheCheckItem_notSet id checksum).mpr ⟨item, hitem, Nat.pos_of_ne_zero hz⟩ hstate
  cases row with
  | none => exact Or.inl rfl
  | some r => exact Or.inr (by rw [h.other hdead r rfl])

theorem prune (h : Sound row entry checksum) : Sound row (entry.filter fun item => item.lastSeen ≠ 0) checksum := by
  cases entry with
  | none => exact h
  | some item =>
    by_cases hz : item.lastSeen = 0
    · rw [Option.filter_some, decide_eq_false (not_not.mpr hz)]
      exact ⟨fun _ hitem _ => (by cases hitem), fun _ => h.other fun item' hitem => by rwa [← Option.some.inj hitem]⟩
    · rwa [Option.filter_some, decide_eq_true hz]

end Sound

/-! ### One object -/

/-- What the sync of an object leaves: of its id the row of its checksum, or what was there, and nothing new of the
    others. -/
structure RowSync (row : Database → Nat → Option Nat) (id checksum : Nat) (s s' : Database × Cache) : Prop where
  same : Sound (row s.1 id) (s.2.entry id) checksum →
    row s'.1 id = some checksum ∨ (row s'.1 id = row s.1 id ∧ s'.2 = (cacheCheckItem s.2 id checksum).2)
  rows : ∀ k, k ≠ id → row s'.1 k = row s.1 k
  entries : ∀ k, k ≠ id → s'.2.entry k = s.2.entry k

/-- Every id that the server lists is sound. -/
def SoundOn (row : Database → Nat → Option Nat) (served : List (Nat × Nat)) (s : Database × Cache) : Prop :=
  ∀ id checksum, (id, checksum) ∈ served → Sound (row s.1 id) (s.2.entry id) checksum

/-- The ids of a served list are distinct. -/
def Distinct (served : List (Nat × Nat)) : Prop := (served.map Prod.fst).Nodup

theorem Distinct.checksum {served : List (Nat × Nat)} (h : Distinct served) {id checksum checksum' : Nat}
    (hmem : (id, checksum) ∈ served) (hmem' : (id, checksum') ∈ served) : checksum = checksum' :=
  congrArg Prod.snd (List.inj_on_of_nodup_map h hmem hmem' rfl)

theorem Distinct.lookup {served : List (Nat × Nat)} (h : Distinct served) {id checksum : Nat} (hmem : (id, checksum) ∈ served) :
    served.lookup id = some checksum := by
  induction served with
  | nil => cases hmem
  | cons first served ih =>
    obtain ⟨hfirst, hrest⟩ := List.nodup_cons.mp h
    rw [List.lookup_cons]
    rcases List.mem_cons.mp hmem with rfl | hmem
    · simp
    · have hne : id ≠ first.1 := fun heq => hfirst (heq ▸ List.mem_map_of_mem hmem)
      rw [beq_false_of_ne hne]
      exact ih hrest hmem

namespace RowSync

variable {row : Database → Nat → Option Nat} {served : List (Nat × Nat)} {id checksum : Nat} {s s' : Database × Cache}

theorem soundOn (h : RowSync row id checksum s s') (hdistinct : Distinct served) (hmem : (id, checksum) ∈ served)
    (hs : SoundOn row served s) : SoundOn row served s' := by
  intro k checksum' hk
  by_cases heq : k = id
  · subst heq
    obtain rfl := hdistinct.checksum hk hmem
    have hsound := hs k checksum' hk
    rcases h.same hsound with hrow | ⟨hrow, hcache⟩
    · rw [hrow]
      exact .of_row
    · rw [hrow, hcache]
      exact hsound.check
  · rw [h.rows k heq, h.entries k heq]
    exact hs k checksum' hk

/-- A row of the list is not lost. -/
theorem keeps (h : RowSync row id checksum s s') (hdistinct : Distinct served) (hmem : (id, checksum) ∈ served)
    (hs : SoundOn row served s) {k checksum' : Nat} (hk : (k, checksum') ∈ served) (hrow : row s.1 k = some checksum') :
    row s'.1 k = some checksum' := by
  by_cases heq : k = id
  · subst heq
    obtain rfl := hdistinct.checksum hk hmem
    rcases h.same (hs k checksum' hk) with hrow' | ⟨hrow', -⟩
    · exact hrow'
    · rw [hrow', hrow]
  · rw [h.rows k heq, hrow]

end RowSync

/-- What a sync establishes for its row under an invariant, and keeps for the others, holds of all rows after them. -/
theorem foldl_established {σ ρ : Type} {f : σ → ρ → σ} {I : σ → Prop} {Q : ρ → σ → Prop} {p : ρ → Prop}
    (hI : ∀ s row, p row → I s → I (f s row)) (hnew : ∀ s row, p row → I s → Q row (f s row))
    (hkeep : ∀ s row row', p row → p row' → I s → Q row s → Q row (f s row')) (rows : List ρ) (s : σ) (h : I s)
    (hp : ∀ row ∈ rows, p row) : I (rows.foldl f s) ∧ ∀ row ∈ rows, Q row (rows.foldl f s) := by
  induction rows generalizing s with
  | nil => exact ⟨h, by simp⟩
  | cons first rows ih =>
    obtain ⟨hfirst, hrest⟩ := List.forall_mem_cons.mp hp
    obtain ⟨hend, hrows⟩ := ih (f s first) (hI s first hfirst h) hrest
    refine ⟨hend, List.forall_mem_cons.mpr ⟨?_, hrows⟩⟩
    have hkept : I (rows.foldl f (f s first)) ∧ Q first (rows.foldl f (f s first)) :=
      List.foldlRecOn (motive := fun s => I s ∧ Q first s) rows f ⟨hI s first hfirst h, hnew s first hfirst h⟩
        fun s hs row hrow => ⟨hI s row (hrest row hrow) hs.1, hkeep s first row hfirst (hrest row hrow) hs.1 hs.2⟩
    exact hkept.2

/-! ### Walks over a fixed list -/

/-- The ids and the checksums of the objects that have an id. -/
def servedRows {α : Type} (id : α → Option Nat) (checksum : α → Nat) (list : List α) : List (Nat × Nat) :=
  list.filterMap fun object => (id object).map fun n => (n, checksum object)

section

variable {α : Type} {id : α → Option Nat} {checksum : α → Nat} {list : List α}

theorem mem_servedRows {object : α} {n : Nat} (hobject : object ∈ list) (hid : id object = some n) :
    (n, checksum object) ∈ servedRows id checksum list :=
  List.mem_filterMap.mpr ⟨object, hobject, by rw [hid]; rfl⟩

theorem of_mem_servedRows {row : Nat × Nat} (hrow : row ∈ servedRows id checksum list) :
    ∃ object ∈ list, id object = some row.1 ∧ checksum object = row.2 := by
  obtain ⟨object, hobject, hmap⟩ := List.mem_filterMap.mp hrow
  obtain ⟨n, hid, rfl⟩ := Option.map_eq_some_iff.mp hmap
  exact ⟨object, hobject, hid, rfl⟩

end

/-- The row callback syncs the rows of a table for the objects of a list. -/
structure Walker.SyncsRows {κ ρ α : Type} (w : Walker (Database × Cache) κ ρ) (t : PruneTarget) (object : ρ → α)
    (id : α → Option Nat) (checksum : α → Nat) (list : List α) : Prop where
  touches : w.TouchesCache
  rowId : ∀ item, w.rowId item = id (object item)
  sync : ∀ s item n, id (object item) = some n → RowSync t.row n (checksum (object item)) s (w.sync s item).2
  unset : ∀ s item, object item ∈ list → id (object item) = none → (w.sync s item).2 = s

namespace Walker.SyncsRows

variable {κ ρ α : Type} {w : Walker (Database × Cache) κ ρ} {t : PruneTarget} {object : ρ → α} {id : α → Option Nat}
  {checksum : α → Nat} {list : List α} {connected : Bool} {replies : List (Option (PageReply ρ))} {start : Nat}
  {s : Database × Cache} {k : κ} (h : w.SyncsRows t object id checksum list)

include h

theorem soundOn_sync (hdistinct : Distinct (servedRows id checksum list)) (s : Database × Cache) (item : ρ)
    (hitem : object item ∈ list) (hs : SoundOn t.row (servedRows id checksum list) s) :
    SoundOn t.row (servedRows id checksum list) (w.sync s item).2 := by
  cases hid : id (object item) with
  | none => rwa [h.unset s item hitem hid]
  | some n => exact (h.sync s item n hid).soundOn hdistinct (mem_servedRows hitem hid) hs

theorem soundOn_walk (hdistinct : Distinct (servedRows id checksum list)) (hlists : ListPages object list replies start)
    (hs : SoundOn t.row (servedRows id checksum list) s) :
    SoundOn t.row (servedRows id checksum list) (w.walkPagesFrom connected replies start s k).store :=
  w.walkPagesFrom_rel
    (R := fun a b => SoundOn t.row (servedRows id checksum list) a → SoundOn t.row (servedRows id checksum list) b)
    (fun _ => fun hs => hs) (fun hab hbc => hbc ∘ hab) (fun s item hitem => h.soundOn_sync hdistinct s item hitem) _ _ _ _ _
    hlists.shown hs

omit h in
/-- A walk without an error has read the list from its start on. -/
theorem pageRows_of_walk (hlists : ListPages object list replies start)
    (hw : (w.walkPagesFrom connected replies start s k).error = .noError) : (pageRows replies).map object = list.drop start := by
  unfold walkPagesFrom at hw
  split at hw
  · exact hlists.pageRows_eq w _ _ hw
  · cases hw

/-- A walk of the whole list without an error leaves nothing of it stale. -/
theorem fresh_walk (hlists : ListPages object list replies 0) (hw : (w.walkPagesFrom connected replies 0 s k).error = .noError) :
    ∀ row ∈ servedRows id checksum list, ¬(w.walkPagesFrom connected replies 0 s k).store.2.Stale row.1 := by
  have hrows := pageRows_of_walk hlists hw
  intro row hrow
  refine h.touches.fresh_handed connected replies 0 s k row.1 ?_
  obtain ⟨o, ho, hid, -⟩ := of_mem_servedRows hrow
  rw [← List.drop_zero (l := list), ← hrows] at ho
  obtain ⟨item, hitem, rfl⟩ := List.mem_map.mp ho
  unfold walkPagesFrom at hw ⊢
  split at hw
  · rename_i hc
    rw [if_pos hc, w.handed_pageRows _ _ _ _ hw]
    exact List.mem_filterMap.mpr ⟨item, hitem, by rw [h.rowId, hid]⟩
  · cases hw

/-- A walk of the whole list without an error stores each object whose sync does so wherever it stands in the walk. -/
theorem walk_stores {J : Database × Cache → Prop} {p : ρ → Prop} (hdistinct : Distinct (servedRows id checksum list))
    (hlists : ListPages object list replies 0) (hw : (w.walkPagesFrom connected replies 0 s k).error = .noError)
    (hs : SoundOn t.row (servedRows id checksum list) s) (hJ : J s) (hkeeps : ∀ s item, J s → J (w.sync s item).2)
    (hnew : ∀ s item n, p item → J s → id (object item) = some n → Sound (t.row s.1 n) (s.2.entry n) (checksum (object item)) →
      t.row (w.sync s item).2.1 n = some (checksum (object item)))
    {item : ρ} (hitem : item ∈ pageRows replies) (hp : p item) {n : Nat} (hid : id (object item) = some n) :
    t.row (w.walkPagesFrom connected replies 0 s k).store.1 n = some (checksum (object item)) := by
  have hrows := pageRows_of_walk hlists hw
  have hfold : (w.walkPagesFrom connected replies 0 s k).store = (pageRows replies).foldl (fun s item => (w.sync s item).2) s := by
    unfold walkPagesFrom at hw ⊢
    split at hw
    · rename_i hc
      rw [if_pos hc]
      exact w.walkPages_foldl _ _ _ _ hw
    · cases hw
  have hend := foldl_established (f := fun s item => (w.sync s item).2)
    (I := fun s => SoundOn t.row (servedRows id checksum list) s ∧ J s)
    (Q := fun item s => p item → ∀ n, id (object item) = some n → t.row s.1 n = some (checksum (object item)))
    (p := fun item => object item ∈ list) (fun s item hitem hI => ⟨h.soundOn_sync hdistinct s item hitem hI.1, hkeeps s item hI.2⟩)
    ?_ ?_ (pageRows replies) s ⟨hs, hJ⟩ ?_
  · rw [hfold]
    exact hend.2 item hitem hp n hid
  · intro s item hitem hI hp n hid
    exact hnew s item n hp hI.2 hid (hI.1 _ _ (mem_servedRows hitem hid))
  · intro s item item' hitem hitem' hI hstored hp n hid
    cases hid' : id (object item') with
    | none =>
      rw [h.unset s item' hitem' hid']
      exact hstored hp n hid
    | some n' =>
      exact (h.sync s item' n' hid').keeps hdistinct (mem_servedRows hitem' hid') hI.1 (mem_servedRows hitem hid) (hstored hp n hid)
  · intro item hitem
    rw [← List.drop_zero (l := list), ← hrows]
    exact List.mem_map_of_mem hitem

end Walker.SyncsRows

/-! ### Prunes of what is fresh -/

/-- A DELETE keeps the other rows of its table. -/
theorem row_delete (t : PruneTarget) (db : Database) {id k : Nat} (fk cv : Bool) (hk : k ≠ id) :
    t.row (t.delete db id fk cv).2 k = t.row db k := by
  cases fk with
  | true => rw [t.delete_refused]
  | false =>
    have herase : ∀ {α : Type} (rows : Table Nat α), (rows.erase id).lookup k = rows.lookup k := fun _ => AList.lookup_erase_ne hk
    rcases t with ⟨_ | _ | _⟩ | _
    · exact congrArg (Option.map ContactRow.checksum) (herase db.contact)
    · exact congrArg (Option.map ProjectRow.checksum) (herase db.project)
    · exact congrArg (Option.map InvoiceRow.checksum) (herase db.invoice)
    · exact herase db.file

theorem row_deleteIds (t : PruneTarget) (ids : List Nat) (execs : List Exec) (db : Database) {k : Nat} (hk : k ∉ ids) :
    t.row (deleteIds t.delete ids execs db).2 k = t.row db k := by
  revert hk
  fun_induction deleteIds t.delete ids execs db
  case case1 | case2 => exact fun _ => rfl
  case case3 id ids exec rest db needReconnect db' hrun =>
    intro hk
    rw [show db' = (exec.run db (t.delete db id)).2 from (congrArg Prod.snd hrun).symm]
    exact exec.run_table (Q := fun db' => t.row db' k = t.row db k) rfl fun fk cv => row_delete t db fk cv (List.ne_of_not_mem_cons hk)
  case case4 id ids exec rest db warned db' hrun others ih =>
    intro hk
    rw [ih (List.not_mem_of_not_mem_cons hk), show db' = (exec.run db (t.delete db id)).2 from (congrArg Prod.snd hrun).symm]
    exact exec.run_table (Q := fun db' => t.row db' k = t.row db k) rfl fun fk cv => row_delete t db fk cv (List.ne_of_not_mem_cons hk)

section

variable (t : PruneTarget) {prepared : Bool} {conf : Int} {deletes : List Exec} {db : Database} {c : Cache}

variable (prepared deletes db) in
/-- An id that is not due keeps its row and its item, if that is not a tombstone. -/
theorem prune_keeps {k : Nat} (hk : k ∉ cacheIterAll c (pruneDrift conf)) :
    t.row (bxPruneItems t.delete prepared conf deletes db c).2.1 k = t.row db k ∧
      ((bxPruneItems t.delete prepared conf deletes db c).2.2.1.entry k = c.entry k ∨
        (bxPruneItems t.delete prepared conf deletes db c).2.2.1.entry k = (c.entry k).filter fun item => item.lastSeen ≠ 0) := by
  unfold bxPruneItems
  split
  · have hids : prunableFrom c (pruneDrift conf) (cacheIterInit c) = cacheIterAll c (pruneDrift conf) :=
      (cacheIterCollect_eq c _ _ _ (Nat.lt_succ_self _)).symm
    obtain ⟨-, -, hdb, hcache, -⟩ := pruneLoop_eq t.delete (pruneDrift conf) deletes (cacheIterInit c) db c
    rw [hids] at hdb hcache
    rw [hdb, hcache]
    refine ⟨row_deleteIds t _ deletes db hk, ?_⟩
    split
    · rw [Cache.entry_cachePrune, Cache.entry_tombstoneAll, if_neg hk]
      exact Or.inr rfl
    · rw [Cache.entry_tombstoneAll, if_neg fun hmem => hk (List.mem_of_mem_take hmem)]
      exact Or.inl rfl
  · exact ⟨rfl, Or.inl rfl⟩

variable {t} {served : List (Nat × Nat)}

theorem soundOn_prune (hfresh : ∀ row ∈ served, ¬c.Stale row.1) (hdrift : 0 < pruneDrift conf) (hs : SoundOn t.row served (db, c)) :
    SoundOn t.row served
      ((bxPruneItems t.delete prepared conf deletes db c).2.1, (bxPruneItems t.delete prepared conf deletes db c).2.2.1) := by
  intro id checksum hmem
  have hkept : id ∉ cacheIterAll c (pruneDrift conf) := fun hdue => hfresh _ hmem (Cache.stale_of_mem_cacheIterAll hdrift hdue)
  obtain ⟨hrow, hentry⟩ := prune_keeps t prepared deletes db hkept
  dsimp only
  rw [hrow]
  rcases hentry with hentry | hentry
  · rw [hentry]
    exact hs id checksum hmem
  · rw [hentry]
    exact (hs id checksum hmem).prune

theorem soundOn_next (hwrap : c.version + 1 ≠ uint64Max) {row : Database → Nat → Option Nat} (hs : SoundOn row served (db, c)) :
    SoundOn row served (db, cacheNextVersion c) := by
  intro id checksum hmem
  dsimp only
  rw [Cache.entry_cacheNextVersion c hwrap]
  exact hs id checksum hmem

end

/-! ### Hydration -/

theorem soundOn_hydrate {row : Database → Nat → Option Nat} {db : Database} {rows : List (Nat × Nat)}
    (hrows : (rows.map Prod.fst).Nodup) (hlookup : ∀ id, rows.lookup id = row db id) (served : List (Nat × Nat)) :
    SoundOn row served (db, bxCacheHydrate rows cacheCreate) := by
  intro id checksum _
  dsimp only
  rw [Cache.entry_bxCacheHydrate hrows, hlookup]
  cases row db id with
  | none => exact ⟨fun _ hitem _ => (by cases hitem), fun _ _ hr => (by cases hr)⟩
  | some r =>
    refine ⟨fun item hitem _ => ?_, fun hdead => absurd (hdead _ rfl) (Nat.pos_iff_ne_zero.mp cacheCreate.version_pos)⟩
    obtain rfl : item = ⟨id, r, cacheCreate.version⟩ := (Option.some.inj hitem).symm
    exact ⟨r, rfl, fun h => h⟩

end BxSync
