import BxSync.Threads

/-! The missed phase: which ids `invoice_fetch_missed` requests, and what its success says of the ids that
    are still stale. The loop stores into the cache it iterates over, which may move the items after the
    iterator. An item only moves up, so what the iterator has passed it has passed for good. -/

namespace BxSync

open SortedSearch

/-- The id of a GET. -/
def Event.requestedId : Event → List Nat
  | .got id _ _ => [id]
  | _ => []

/-- The id of an object that was loaded. -/
def Event.loadedId : Event → List Nat
  | .loaded id => [id]
  | _ => []

/-- The ids requested by id. -/
def requestedIds (log : List Event) : List Nat := log.flatMap Event.requestedId

/-- The ids loaded by id. -/
def loadedIds (log : List Event) : List Nat := log.flatMap Event.loadedId

section

variable (id : Nat) (httpCode objectId : Option Nat) (log : List Event)

@[simp] theorem requestedIds_nil : requestedIds [] = [] := rfl
@[simp] theorem requestedIds_append (log' : List Event) :
    requestedIds (log ++ log') = requestedIds log ++ requestedIds log' := List.flatMap_append
@[simp] theorem requestedIds_got : requestedIds (.got id httpCode objectId :: log) = id :: requestedIds log := rfl
@[simp] theorem requestedIds_loaded : requestedIds (.loaded id :: log) = requestedIds log := rfl
@[simp] theorem requestedIds_fetchedMissed : requestedIds (.fetchedMissed :: log) = requestedIds log := rfl

end

/-- The id was answered 404. -/
def Answered404 (log : List Event) (id : Nat) : Prop := ∃ objectId, .got id (some 404) objectId ∈ log

/-- The object in an answer 200 is the one that was asked for. -/
def Event.honest : Event → Bool
  | .got id (some 200) (some objectId) => objectId = id
  | _ => true

def HonestGets (log : List Event) : Prop := ∀ e ∈ log, e.honest

theorem kept_invoicePageItem (s : Database × Cache) (item : InvoiceItem) :
    Cache.Kept s.2 (invoicePageItem s item).2.2 :=
  (invoicePageItem_touched s item).kept

theorem kept_fetchMissed (replies : List MissedReply) (iter : CacheIter) (db : Database) (c : Cache) :
    Cache.Kept c (fetchMissed replies iter db c).2.2.1 := by
  fun_induction fetchMissed replies iter db c
  case case1 | case2 | case3 | case5 | case6 => exact .refl _
  case case4 ih => exact ih
  case case7 db c _ _ missed _ _ _ _ _ _ invoice _ _ synced _ =>
    exact kept_invoicePageItem (db, c) ⟨invoice, missed.answers⟩
  case case8 db c _ _ missed _ _ _ _ _ _ invoice _ _ synced _ _ ih =>
    exact (kept_invoicePageItem (db, c) ⟨invoice, missed.answers⟩).trans ih

theorem requested_stale (replies : List MissedReply) (iter : CacheIter) (db : Database) (c : Cache)
    (hv : iter.version = c.version) : ∀ id ∈ requestedIds (fetchMissed replies iter db c).2.2.2, c.Stale id := by
  revert hv
  fun_induction fetchMissed replies iter db c
  case case1 => simp
  case case2 hnext | case3 hnext _ =>
    intro hv id hid
    obtain rfl : id = _ := by simpa using hid
    exact (Cache.next_some hv hnext).1
  case case5 hnext _ _ got _ _ | case6 hnext _ _ got _ _ _ _ | case7 hnext _ _ got _ _ _ _ _ _ =>
    intro hv id hid
    obtain rfl : id = _ := by simpa [got] using hid
    exact (Cache.next_some hv hnext).1
  case case4 hnext _ _ got _ others ih =>
    intro hv id hid
    obtain ⟨hstale, hv', -⟩ := Cache.next_some hv hnext
    rcases List.mem_cons.mp (by simpa [got] using hid) with rfl | hid
    · exact hstale
    · exact ih hv' id hid
  case case8 db c _ _ missed _ hnext _ _ got _ invoice _ _ synced _ others ih =>
    intro hv id hid
    obtain ⟨hstale, hv', -⟩ := Cache.next_some hv hnext
    have hkept : Cache.Kept c synced.2.2 := kept_invoicePageItem (db, c) ⟨invoice, missed.answers⟩
    rcases List.mem_cons.mp (by simpa [got] using hid) with rfl | hid
    · exact hstale
    · exact hkept.stale (ih (hv'.trans hkept.version.symm) id hid)

/-- When the phase returns NoError, every id that is still stale was answered 404 or lies before the
    iterator it started with. -/
theorem fetchMissed_answered (replies : List MissedReply) (iter : CacheIter) (db : Database) (c : Cache)
    (hv : iter.version = c.version) (h : (fetchMissed replies iter db c).1 = .noError)
    (hhonest : HonestGets (fetchMissed replies iter db c).2.2.2) :
    ∀ k, (fetchMissed replies iter db c).2.2.1.Stale k →
      rank CacheItem.id c.items k < iter.current ∨ Answered404 (fetchMissed replies iter db c).2.2.2 k := by
  revert hv h hhonest
  fun_induction fetchMissed replies iter db c
  case case1 hnext => exact fun hv _ _ k hk => Or.inl (Cache.next_none hv hnext k hk)
  case case2 | case3 | case5 | case6 => exact fun _ h => nomatch h
  case case7 he => exact fun _ h => absurd h he
  case case4 rest hnext reply _ got h404 others ih =>
    intro hv h hhonest k hk
    obtain ⟨-, hv', -, -, hpassed⟩ := Cache.next_some hv hnext
    have hlift : Answered404 others.2.2.2 k → Answered404 (got :: others.2.2.2) k := fun ⟨objectId, hmem⟩ =>
      ⟨objectId, List.mem_cons_of_mem _ hmem⟩
    have hkc := (kept_fetchMissed _ _ _ _).stale hk
    rcases ih hv' h (fun e hmem => hhonest e (List.mem_cons_of_mem _ hmem)) k hk with hlt | hans
    · rcases hpassed k hkc hlt with rfl | hlt
      · exact Or.inr ⟨_, by rw [← h404]; exact List.mem_cons_self⟩
      · exact Or.inl hlt
    · exact Or.inr (hlift hans)
  case case8 db c id _ missed _ hnext reply _ got _ invoice hdecoded h200 synced _ others ih =>
    intro hv h hhonest k hk
    obtain ⟨-, hv', -, -, hpassed⟩ := Cache.next_some hv hnext
    have htouched := invoicePageItem_touched (db, c) ⟨invoice, missed.answers⟩
    have hkept : Cache.Kept c synced.2.2 := htouched.kept
    have hks : synced.2.2.Stale k := (kept_fetchMissed _ _ _ _).stale hk
    have hlift : Answered404 others.2.2.2 k → Answered404 (got :: .loaded id :: others.2.2.2) k := fun ⟨objectId, hmem⟩ =>
      ⟨objectId, List.mem_cons_of_mem _ (List.mem_cons_of_mem _ hmem)⟩
    -- The object is the one asked for, so what the iterator just yielded is fresh now.
    have hgot : got = .got id (some 200) (some (invoice.id.getD 0)) := by
      simp only [got, hdecoded, not_not.mp h200, Option.map_some]
    have hid : invoice.id.getD 0 = id := by
      have := hhonest got List.mem_cons_self
      rw [hgot] at this
      exact of_decide_eq_true this
    have hfresh : ¬synced.2.2.Stale id := hid ▸ htouched.not_stale
    rcases ih (hv'.trans hkept.version.symm) h
        (fun e hmem => hhonest e (List.mem_cons_of_mem _ (List.mem_cons_of_mem _ hmem))) k hk with
      hlt | hans
    · rcases hpassed k (hkept.stale hks) ((rank_mono hkept.ids k).trans_lt hlt) with rfl | hlt
      · exact absurd hks hfresh
      · exact Or.inl hlt
    · exact Or.inr (hlift hans)

/-- `bx_invoice_fetch_missed` answers for every id that is stale after it. -/
theorem bxInvoiceFetchMissed_answered (replies : List MissedReply) (db : Database) (c : Cache)
    (h : (bxInvoiceFetchMissed replies db c).1 = .noError) (hhonest : HonestGets (bxInvoiceFetchMissed replies db c).2.2.2)
    (k : Nat) (hk : (bxInvoiceFetchMissed replies db c).2.2.1.Stale k) :
    Answered404 (bxInvoiceFetchMissed replies db c).2.2.2 k := by
  rcases fetchMissed_answered replies (cacheIterInit c) db c rfl h hhonest k hk with hlt | hans
  · exact absurd hlt (Nat.not_lt_zero _)
  · exact hans

end BxSync
