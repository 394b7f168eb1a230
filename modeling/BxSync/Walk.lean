import BxSync.Base

/-! The paged walk over a list of the remote API (`bx_walk.c`).

    Each page is requested at the offset the one before left, every row of it is handed to the row callback
    and then the page callback is told the next offset. The walk ends at the first empty page. -/

namespace BxSync

/-- The callbacks of a walk. `σ` is what the row callback changes, `κ` what the page callback changes. The
    page callback also returns the row it wrote, if any. -/
structure Walker (σ κ ρ : Type) where
  list : Listing
  /-- The id of a row, unset when the object has none. -/
  rowId : ρ → Option Nat
  sync : σ → ρ → BXillError × σ
  onPage : κ → Nat → Save → BXillError × κ × Option BXChainCursor

structure WalkResult (σ κ : Type) where
  error : BXillError
  store : σ
  cursor : κ
  log : List Event

namespace Walker

variable {σ κ ρ : Type} (w : Walker σ κ ρ)

/-- The rows of one page, up to the first error. -/
def syncRows : List ρ → σ → BXillError × σ × List Event
  | [], s => (.noError, s, [])
  | row :: rest, s =>
    let synced := w.sync s row
    let handed := (w.rowId row).toList.map (Event.handed w.list)
    if synced.1 ≠ .noError then (synced.1, synced.2, handed)
    else
      let others := syncRows rest synced.2
      (others.1, others.2.1, handed ++ others.2.2)

/-- The loop of `bx_walk_pages_from` over the answers to its requests, for a path with limit and offset.
    When no answer is left the request returns NULL. -/
def walkPages : List (Option (PageReply ρ)) → Nat → σ → κ → WalkResult σ κ
  | [], _, s, k => { error := .errorNet, store := s, cursor := k, log := [] }
  | none :: _, _, s, k => { error := .errorNet, store := s, cursor := k, log := [] }
  | some reply :: rest, offset, s, k =>
    match reply.rows with
    | none => { error := .errorJSON, store := s, cursor := k, log := [] }
    | some rows =>
      let synced := w.syncRows rows s
      let shown := Event.showed w.list offset (rows.filterMap w.rowId) :: synced.2.2
      if synced.1 ≠ .noError then { error := synced.1, store := synced.2.1, cursor := k, log := shown }
      else if rows.isEmpty then
        { error := .noError, store := synced.2.1, cursor := k, log := shown ++ [.walked w.list] }
      else
        let next := offset + bxillListLimit
        let page := w.onPage k next reply.save
        let log := shown ++ .accepted w.list offset :: page.2.2.toList.map Event.saved
        if page.1 ≠ .noError then { error := page.1, store := synced.2.1, cursor := page.2.1, log }
        else
          let walk := walkPages rest next synced.2.1 page.2.1
          { walk with log := log ++ walk.log }

/-- `bx_walk_pages_from`. -/
def walkPagesFrom (connected : Bool) (replies : List (Option (PageReply ρ))) (start : Nat) (s : σ) (k : κ) :
    WalkResult σ κ :=
  if connected then w.walkPages replies start s k
  else { error := .errorGeneric, store := s, cursor := k, log := [] }

end Walker

/-- The rows of the pages before the first empty one. -/
def pageRows {ρ : Type} : List (Option (PageReply ρ)) → List ρ
  | some reply :: rest =>
    match reply.rows with
    | none => []
    | some rows => if rows.isEmpty then [] else rows ++ pageRows rest
  | _ => []

/-! ### Reading a log -/

/-- The ids a page showed. -/
def Event.shown : Event → List Nat
  | .showed _ _ ids => ids
  | _ => []

/-- The ids handed to the row callback. -/
def Event.handedId : Event → List Nat
  | .handed _ id => [id]
  | _ => []

/-- The events of a walk. -/
def Event.ofWalk : Event → Bool
  | .showed .. | .handed .. | .accepted .. | .walked _ | .saved _ => true
  | .got .. | .loaded _ | .fetchedMissed | .deleted _ => false

def shownIds (log : List Event) : List Nat := log.flatMap Event.shown

def handedIds (log : List Event) : List Nat := log.flatMap Event.handedId

section

variable (list : Listing) (offset id : Nat) (ids : List Nat) (c : BXChainCursor) (log log' : List Event)

@[simp] theorem shownIds_nil : shownIds [] = [] := rfl
@[simp] theorem shownIds_append : shownIds (log ++ log') = shownIds log ++ shownIds log' := List.flatMap_append
@[simp] theorem shownIds_showed : shownIds (.showed list offset ids :: log) = ids ++ shownIds log := rfl
@[simp] theorem shownIds_handed : shownIds (.handed list id :: log) = shownIds log := rfl
@[simp] theorem shownIds_accepted : shownIds (.accepted list offset :: log) = shownIds log := rfl
@[simp] theorem shownIds_walked : shownIds (.walked list :: log) = shownIds log := rfl
@[simp] theorem shownIds_saved : shownIds (.saved c :: log) = shownIds log := rfl

@[simp] theorem handedIds_nil : handedIds [] = [] := rfl
@[simp] theorem handedIds_append : handedIds (log ++ log') = handedIds log ++ handedIds log' := List.flatMap_append
@[simp] theorem handedIds_showed : handedIds (.showed list offset ids :: log) = handedIds log := rfl
@[simp] theorem handedIds_handed : handedIds (.handed list id :: log) = id :: handedIds log := rfl
@[simp] theorem handedIds_accepted : handedIds (.accepted list offset :: log) = handedIds log := rfl
@[simp] theorem handedIds_walked : handedIds (.walked list :: log) = handedIds log := rfl
@[simp] theorem handedIds_saved : handedIds (.saved c :: log) = handedIds log := rfl

end

@[simp] theorem shownIds_map_handed (list : Listing) (o : Option Nat) :
    shownIds (o.toList.map (Event.handed list)) = [] := by
  cases o <;> rfl

@[simp] theorem handedIds_map_handed (list : Listing) (o : Option Nat) :
    handedIds (o.toList.map (Event.handed list)) = o.toList := by
  cases o <;> rfl

@[simp] theorem shownIds_map_saved (o : Option BXChainCursor) : shownIds (o.toList.map Event.saved) = [] := by
  cases o <;> rfl

@[simp] theorem handedIds_map_saved (o : Option BXChainCursor) : handedIds (o.toList.map Event.saved) = [] := by
  cases o <;> rfl

/-! ### What a walk preserves -/

namespace Walker

variable {σ κ ρ : Type} (w : Walker σ κ ρ)

/-- A page without an error handed over every row it showed. -/
theorem handedIds_syncRows (rows : List ρ) (s : σ) (h : (w.syncRows rows s).1 = .noError) :
    handedIds (w.syncRows rows s).2.2 = rows.filterMap w.rowId := by
  revert h
  fun_induction w.syncRows rows s
  case case1 => exact fun _ => rfl
  case case2 he => exact fun h => absurd h he
  case case3 row rest s synced handed _ others ih =>
    intro h
    simp only [handed, handedIds_append, handedIds_map_handed, others, ih h]
    cases hid : w.rowId row <;> simp [hid]

@[simp] theorem shownIds_syncRows (rows : List ρ) (s : σ) : shownIds (w.syncRows rows s).2.2 = [] := by
  fun_induction w.syncRows rows s
  case case1 => rfl
  case case2 handed _ => simp [handed]
  case case3 handed _ others ih => simp [handed, others, ih]

/-- A walk without an error handed over every row it showed. -/
theorem shownIds_walkPages (replies : List (Option (PageReply ρ))) (offset : Nat) (s : σ) (k : κ)
    (h : (w.walkPages replies offset s k).error = .noError) :
    shownIds (w.walkPages replies offset s k).log = handedIds (w.walkPages replies offset s k).log := by
  revert h
  fun_induction w.walkPages replies offset s k
  case case1 | case2 | case3 => exact fun _ => rfl
  case case4 he => exact fun h => absurd h he
  case case5 rows _ synced shown he _ =>
    intro _
    simp [shown, synced, w.handedIds_syncRows rows _ (not_not.mp he)]
  case case6 hp => exact fun h => absurd h hp
  case case7 rows _ synced shown he _ next page log _ walk ih =>
    intro h
    simp [log, shown, synced, walk, w.handedIds_syncRows rows _ (not_not.mp he), ih h]

theorem syncRows_store {R : σ → σ → Prop} (hrefl : ∀ s, R s s) (htrans : ∀ {a b c}, R a b → R b c → R a c)
    (hsync : ∀ s row, R s (w.sync s row).2) (rows : List ρ) (s : σ) : R s (w.syncRows rows s).2.1 := by
  fun_induction w.syncRows rows s
  case case1 => exact hrefl _
  case case2 => exact hsync _ _
  case case3 ih => exact htrans (hsync _ _) ih

theorem syncRows_foldl (rows : List ρ) (s : σ) (h : (w.syncRows rows s).1 = .noError) :
    (w.syncRows rows s).2.1 = rows.foldl (fun s row => (w.sync s row).2) s := by
  revert h
  fun_induction w.syncRows rows s
  case case1 => exact fun _ => rfl
  case case2 he => exact fun h => absurd h he
  case case3 ih => exact ih

/-- A walk without an error has handed over the rows of its pages, one after the other. -/
theorem walkPages_foldl (replies : List (Option (PageReply ρ))) (offset : Nat) (s : σ) (k : κ)
    (h : (w.walkPages replies offset s k).error = .noError) :
    (w.walkPages replies offset s k).store = (pageRows replies).foldl (fun s row => (w.sync s row).2) s := by
  revert h
  fun_induction w.walkPages replies offset s k
  case case1 | case2 | case3 => exact fun h => nomatch h
  case case4 he => exact fun h => absurd h he
  case case5 rows hreply synced _ he hempty =>
    intro _
    simp only [pageRows, hreply, if_pos hempty, List.foldl_nil]
    exact (w.syncRows_foldl rows _ (not_not.mp he)).trans (by rw [List.isEmpty_iff.mp hempty]; rfl)
  case case6 hp => exact fun h => absurd h hp
  case case7 rows hreply synced _ he hne _ _ _ _ _ ih =>
    intro h
    simp only [pageRows, hreply, if_neg hne, List.foldl_append]
    rw [← w.syncRows_foldl rows _ (not_not.mp he)]
    exact ih h

/-- What every row callback preserves, the walk preserves. -/
theorem walkPages_store {R : σ → σ → Prop} (hrefl : ∀ s, R s s) (htrans : ∀ {a b c}, R a b → R b c → R a c)
    (hsync : ∀ s row, R s (w.sync s row).2) (replies : List (Option (PageReply ρ))) (offset : Nat) (s : σ) (k : κ) :
    R s (w.walkPages replies offset s k).store := by
  have hrows := w.syncRows_store hrefl htrans hsync
  fun_induction w.walkPages replies offset s k
  case case1 | case2 | case3 => exact hrefl _
  case case4 | case5 | case6 => exact hrows _ _
  case case7 ih => exact htrans (hrows _ _) ih

/-- What the row callback establishes for the id of its row, and preserves for every other, holds after a
    page for each id handed over. -/
theorem syncRows_handed {Q : Nat → σ → Prop} (hnew : ∀ s row i, w.rowId row = some i → Q i (w.sync s row).2)
    (hkeep : ∀ s row i, Q i s → Q i (w.sync s row).2) (rows : List ρ) (s : σ) :
    ∀ i ∈ handedIds (w.syncRows rows s).2.2, Q i (w.syncRows rows s).2.1 := by
  fun_induction w.syncRows rows s
  case case1 => simp
  case case2 row _ s synced handed _ =>
    intro i hi
    exact hnew s row i (by simpa [handed] using hi)
  case case3 row rest s synced handed _ others ih =>
    intro i hi
    have hmem : w.rowId row = some i ∨ i ∈ handedIds others.2.2 := by simpa [handed] using hi
    rcases hmem with hmem | hmem
    · exact w.syncRows_store (R := fun a b => Q i a → Q i b) (fun _ => id) (fun hab hbc => hbc ∘ hab)
        (fun s row => hkeep s row i) rest synced.2 (hnew s row i hmem)
    · exact ih i hmem

/-- The same for a whole walk. -/
theorem walkPages_handed {Q : Nat → σ → Prop} (hnew : ∀ s row i, w.rowId row = some i → Q i (w.sync s row).2)
    (hkeep : ∀ s row i, Q i s → Q i (w.sync s row).2) (replies : List (Option (PageReply ρ))) (offset : Nat) (s : σ)
    (k : κ) : ∀ i ∈ handedIds (w.walkPages replies offset s k).log, Q i (w.walkPages replies offset s k).store := by
  have hrows := w.syncRows_handed hnew hkeep
  fun_induction w.walkPages replies offset s k
  case case1 | case2 | case3 => simp
  case case4 rows _ synced shown _ =>
    intro i hi
    exact hrows rows _ i (by simpa [shown] using hi)
  case case5 rows _ synced shown _ _ =>
    intro i hi
    exact hrows rows _ i (by simpa [shown] using hi)
  case case6 rows _ synced shown _ _ next page log _ =>
    intro i hi
    exact hrows rows _ i (by simpa [log, shown] using hi)
  case case7 rest _ s k rows _ synced shown _ _ next page log _ walk ih =>
    intro i hi
    have hmem : i ∈ handedIds synced.2.2 ∨ i ∈ handedIds walk.log := by simpa [log, shown] using hi
    rcases hmem with hmem | hmem
    · exact w.walkPages_store (R := fun a b => Q i a → Q i b) (fun _ => id) (fun hab hbc => hbc ∘ hab)
        (fun s row => hkeep s row i) rest next synced.2.1 page.2.1 (hrows rows s i hmem)
    · exact ih i hmem

/-- The answers lead to an empty page, and nothing on the way disturbs the walk: every request is answered
    with an array, no row stops it, and the checkpoint of every page is saved. -/
def undisturbed (calm : ρ → Bool) : List (Option (PageReply ρ)) → Nat → Bool
  | some reply :: rest, offset =>
    match reply.rows with
    | none => false
    | some rows =>
      rows.isEmpty ||
        (rows.all calm && reply.save.ok && decide (offset + bxillListLimit ≤ intMax) &&
          undisturbed calm rest (offset + bxillListLimit))
  | _, _ => false

theorem syncRows_calm {p : ρ → Bool} (hcalm : ∀ s row, p row → (w.sync s row).1 = .noError) (rows : List ρ)
    (s : σ) (h : rows.all p) : (w.syncRows rows s).1 = .noError := by
  revert h
  fun_induction w.syncRows rows s
  case case1 => exact fun _ => rfl
  case case2 row rest s _ _ he =>
    intro h
    have hrow : p row = true := by
      rw [List.all_cons, Bool.and_eq_true] at h
      exact h.1
    exact absurd (hcalm s row hrow) he
  case case3 row rest s _ _ _ others ih =>
    intro h
    rw [List.all_cons, Bool.and_eq_true] at h
    exact ih h.2

theorem walkPages_undisturbed {p : ρ → Bool} (hcalm : ∀ s row, p row → (w.sync s row).1 = .noError)
    (hpage : ∀ k next save, save.ok → next ≤ intMax → (w.onPage k next save).1 = .noError)
    (replies : List (Option (PageReply ρ))) (offset : Nat) (s : σ) (k : κ) (h : undisturbed p replies offset) :
    (w.walkPages replies offset s k).error = .noError := by
  have hrows := w.syncRows_calm hcalm
  revert h
  fun_induction w.walkPages replies offset s k
  case case1 => simp [undisturbed]
  case case2 => simp [undisturbed]
  case case3 h => simp [undisturbed, h]
  case case4 rows hreply _ _ he =>
    intro h
    simp only [undisturbed, hreply, Bool.or_eq_true, Bool.and_eq_true] at h
    rcases h with h | h
    · rw [List.isEmpty_iff] at h
      subst h
      exact absurd rfl he
    · exact absurd (hrows rows _ h.1.1.1) he
  case case5 => exact fun _ => rfl
  case case6 rows hreply _ _ _ hne _ _ _ hp =>
    intro h
    simp only [undisturbed, hreply, Bool.or_eq_true, Bool.and_eq_true, decide_eq_true_eq] at h
    rcases h with h | h
    · exact absurd h hne
    · exact absurd (hpage _ _ _ h.1.1.2 h.1.2) hp
  case case7 rows hreply _ _ _ hne _ _ _ _ _ ih =>
    intro h
    simp only [undisturbed, hreply, Bool.or_eq_true, Bool.and_eq_true] at h
    rcases h with h | h
    · exact absurd h hne
    · exact ih h.2

/-- What the page callback preserves of the cursor, the walk preserves. -/
theorem walkPages_cursor {Q : κ → Prop} (hpage : ∀ k next save, Q k → Q (w.onPage k next save).2.1)
    (replies : List (Option (PageReply ρ))) (offset : Nat) (s : σ) (k : κ) (h : Q k) :
    Q (w.walkPages replies offset s k).cursor := by
  revert h
  fun_induction w.walkPages replies offset s k
  case case1 | case2 | case3 | case4 | case5 => exact id
  case case6 => exact hpage _ _ _
  case case7 ih => exact fun h => ih (hpage _ _ _ h)

theorem mem_syncRows (rows : List ρ) (s : σ) : ∀ e ∈ (w.syncRows rows s).2.2, ∃ id, e = .handed w.list id := by
  have hrow : ∀ o : Option Nat, ∀ e ∈ o.toList.map (Event.handed w.list), ∃ id, e = .handed w.list id := by
    intro o e he
    obtain ⟨id, -, rfl⟩ := List.mem_map.mp he
    exact ⟨id, rfl⟩
  fun_induction w.syncRows rows s
  case case1 => simp
  case case2 => exact hrow _
  case case3 ih => exact List.forall_mem_append.mpr ⟨hrow _, ih⟩

/-- Nothing else is logged by a walk. -/
theorem ofWalk_walkPages (replies : List (Option (PageReply ρ))) (offset : Nat) (s : σ) (k : κ) :
    ∀ e ∈ (w.walkPages replies offset s k).log, e.ofWalk := by
  have hshown : ∀ rows s ids offset, ∀ e ∈ Event.showed w.list offset ids :: (w.syncRows rows s).2.2, e.ofWalk := by
    intro rows s ids offset
    refine List.forall_mem_cons.mpr ⟨rfl, fun e he => ?_⟩
    obtain ⟨id, rfl⟩ := w.mem_syncRows rows s e he
    rfl
  have hpage : ∀ (offset : Nat) (o : Option BXChainCursor),
      ∀ e ∈ Event.accepted w.list offset :: o.toList.map Event.saved, e.ofWalk := by
    intro offset o
    cases o <;> simp [Event.ofWalk]
  fun_induction w.walkPages replies offset s k
  case case1 | case2 | case3 => simp
  case case4 => exact hshown _ _ _ _
  case case5 => exact List.forall_mem_append.mpr ⟨hshown _ _ _ _, by simp [Event.ofWalk]⟩
  case case6 => exact List.forall_mem_append.mpr ⟨hshown _ _ _ _, hpage _ _⟩
  case case7 ih =>
    exact List.forall_mem_append.mpr ⟨List.forall_mem_append.mpr ⟨hshown _ _ _ _, hpage _ _⟩, ih⟩

theorem walked_mem (replies : List (Option (PageReply ρ))) (offset : Nat) (s : σ) (k : κ)
    (h : (w.walkPages replies offset s k).error = .noError) :
    Event.walked w.list ∈ (w.walkPages replies offset s k).log := by
  revert h
  fun_induction w.walkPages replies offset s k
  case case1 | case2 | case3 => exact fun h => nomatch h
  case case4 he => exact fun h => absurd h he
  case case5 => simp
  case case6 hp => exact fun h => absurd h hp
  case case7 ih => exact fun h => List.mem_append_right _ (ih h)

end Walker

end BxSync
