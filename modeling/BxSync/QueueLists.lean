import BxSync.Queue

/-! What each call on the request queue does to the two lists, by the requests that the links run through. -/

namespace BxSync
open Linked BXNetRequestList

variable {β : Type}

/-! ### Writes to the links -/

theorem next_write (l : BXNetRequestList β) (a : Address) (r : BXNetRequest β) :
    (l.write a r).next = Function.update l.next a r.next := by
  funext x
  rcases eq_or_ne x a with rfl | hx
  · simp [BXNetRequestList.next, write]
  · simp [BXNetRequestList.next, write, hx]

theorem next_setNext (l : BXNetRequestList β) (a : Address) (link : Option Address) :
    (l.setNext a link).next = Function.update l.next a link := next_write l a _

/-- The second list has the requests of the first one, and the links outside `xs`. -/
structure Relinked (l l' : BXNetRequestList β) (xs : List Address) : Prop where
  requests : ∀ a, l'.heap a = { l.heap a with next := l'.next a }
  links : ∀ a, a ∉ xs → l'.next a = l.next a
  run : l'.run = l.run
  nextId : l'.nextId = l.nextId

namespace Relinked

variable {l l' l'' : BXNetRequestList β} {xs ys : List Address} {link stop : Option Address} {a : Address}

theorem heads (l : BXNetRequestList β) (input out : Option Address) (xs : List Address) :
    Relinked l { l with input, out } xs :=
  ⟨fun _ => rfl, fun _ _ => rfl, rfl, rfl⟩

theorem setNext (l : BXNetRequestList β) (ha : a ∈ xs) (link : Option Address) : Relinked l (l.setNext a link) xs where
  requests x := by
    rcases eq_or_ne x a with rfl | hx
    · simp [BXNetRequestList.setNext, BXNetRequestList.next, write]
    · simp [BXNetRequestList.setNext, BXNetRequestList.next, write, hx]
  links x hx := by
    rw [next_setNext]
    exact Function.update_of_ne (ne_of_mem_of_not_mem ha hx).symm _ _
  run := rfl
  nextId := rfl

theorem trans (h : Relinked l l' xs) (h' : Relinked l' l'' xs) : Relinked l l'' xs where
  requests a := by
    rw [h'.requests a, h.requests a]
  links a ha := (h'.links a ha).trans (h.links a ha)
  run := h'.run.trans h.run
  nextId := h'.nextId.trans h.nextId

theorem id (h : Relinked l l' xs) (a : Address) : l'.id a = l.id a := by
  rw [BXNetRequestList.id, h.requests a]
  rfl

/-- A list apart from the new links is as before. -/
theorem seg (h : Relinked l l' xs) (hseg : Seg l.next link ys stop) (hys : List.Disjoint ys xs) : Seg l'.next link ys stop :=
  hseg.congr fun a ha => h.links a (hys ha)

end Relinked

/-! ### The calls on the lists -/

section Calls
variable {l : BXNetRequestList β} {ins outs detached : List Address} {turns : Nat}

theorem seg_write {link stop : Option Address} {xs : List Address} {a : Address} (h : Seg l.next link xs stop) (ha : a ∉ xs)
    (r : BXNetRequest β) : Seg (l.write a r).next link xs stop := by
  rw [next_write]
  exact h.congr fun _ hx => Function.update_of_ne (ne_of_mem_of_not_mem hx ha) _ _

theorem bxNetRequestListAdd_spec {a : Address} (h : Seg l.next l.input ins none) (ha : a ∉ ins) :
    ∃ l', bxNetRequestListAdd (l.write a bxNetRequestNew) a = (l.nextId + 1, l') ∧ Seg l'.next l'.input (a :: ins) none ∧
      l'.id a = l.nextId + 1 ∧ (∀ x, x ≠ a → l'.heap x = l.heap x) ∧ l'.out = l.out ∧ l'.run = l.run ∧
      l'.nextId = l.nextId + 1 := by
  refine ⟨_, rfl, ?_, ?_, fun x hx => ?_, rfl, rfl, rfl⟩
  · have hlinks : (bxNetRequestListAdd (l.write a bxNetRequestNew) a).2.next = Function.update l.next a l.input := by
      funext x
      rcases eq_or_ne x a with rfl | hx
      · simp [bxNetRequestListAdd, BXNetRequestList.next, write]
      · simp [bxNetRequestListAdd, BXNetRequestList.next, write, hx]
    have := h.push ha
    rwa [← hlinks] at this
  · simp [BXNetRequestList.id, write]
  · simp [write, hx]

theorem takeRequest_spec {first : Address} (hlink : l.input = some first) (h : Seg l.next l.input ins none)
    (hnodup : ins.Nodup) (hturns : ins.length ≤ turns) :
    ∃ rest a, ins = rest ++ [a] ∧ (takeRequest turns l first).1 = a ∧
      Seg (takeRequest turns l first).2.next (takeRequest turns l first).2.input rest none ∧
      (takeRequest turns l first).2.next a = none ∧ (takeRequest turns l first).2.out = l.out ∧
      Relinked l (takeRequest turns l first).2 rest := by
  rcases List.eq_nil_or_concat' ins with rfl | ⟨rest, a, rfl⟩
  · rw [hlink] at h
    nomatch h
  · rw [hlink] at h
    have hrest : rest.length ≤ turns := by
      rw [List.length_append] at hturns
      exact Nat.le_of_succ_le hturns
    have hlast := h.last_eq hrest none
    obtain ⟨mid, hrest, -, hend⟩ := seg_append.mp h
    refine ⟨rest, a, rfl, ?_⟩
    unfold takeRequest
    rcases List.eq_nil_or_concat' rest with rfl | ⟨rest, b, rfl⟩
    · -- The only request: the head of the list moves.
      rw [hlast]
      exact ⟨rfl, rfl, hend, rfl, Relinked.heads l _ _ _⟩
    · rw [List.getLast?_concat] at hlast
      rw [hlast]
      obtain ⟨⟨hb, -⟩, hab⟩ : (b ∉ rest ∧ rest.Nodup) ∧ a ∉ rest ++ [b] := by
        rw [List.nodup_append_comm, List.singleton_append, List.nodup_cons, List.nodup_append_comm, List.singleton_append,
          List.nodup_cons] at hnodup
        exact ⟨hnodup.2, hnodup.1⟩
      refine ⟨rfl, ?_, ?_, rfl, Relinked.setNext l (by simp) none⟩
      · rw [show Option.or (some b) none = some b from rfl]
        dsimp only
        rw [next_setNext, show (l.setNext b none).input = some first from hlink]
        exact hrest.setLast hb none
      · rw [show Option.or (some b) none = some b from rfl]
        dsimp only
        rw [next_setNext, Function.update_of_ne (fun heq => hab (by simp [heq]))]
        exact hend

/-- A request that is found leaves the out list, and nothing else does. -/
theorem getFinished_found (h : Seg l.next l.out outs none) (hnodup : outs.Nodup) (hturns : outs.length < turns) {id : Nat}
    (hid : id ∈ outs.map l.id) :
    ∃ before c after l', outs = before ++ c :: after ∧ l.id c = id ∧
      bxNetRequestListGetFinished turns l id = (.found c, l') ∧ Seg l'.next l'.out (before ++ after) none ∧
      l'.input = l.input ∧ Relinked l l' outs := by
  obtain ⟨x, hx, hxid⟩ := List.mem_map.mp hid
  rcases h.find_cases (fun a => l.id a == id) hturns none with ⟨-, hnone⟩ | ⟨before, c, after, rfl, hc, hfind⟩
  · simpa [hxid] using hnone x hx
  · have hcid : l.id c = id := eq_of_beq hc
    obtain ⟨mid, hfront, rfl, hrest⟩ := seg_append.mp h
    obtain ⟨hcafter, hafter⟩ : c ∉ before ++ after ∧ (before ++ after).Nodup := by
      have := List.nodup_middle.mp hnodup
      exact List.nodup_cons.mp this
    have hc' : c ∉ before ∧ c ∉ after := by simpa using hcafter
    rcases List.eq_nil_or_concat' before with rfl | ⟨front, b, rfl⟩
    · -- The head of the list moves.
      refine ⟨[], c, after, { l with out := l.next c }.setNext c none, rfl, hcid, ?_, ?_, rfl, ?_⟩
      · unfold bxNetRequestListGetFinished
        rw [hfind]
        rfl
      · exact seg_write hrest hc'.2 _
      · exact (Relinked.heads l _ _ _).trans (Relinked.setNext _ (by simp) none)
    · obtain ⟨hb, hbafter⟩ : b ∉ front ∧ b ∉ after := by
        have := hafter
        rw [List.append_assoc, List.singleton_append, List.nodup_middle, List.nodup_cons] at this
        simpa using this.1
      have hbc : b ≠ c := fun heq => hc'.1 (by simp [heq])
      refine ⟨front ++ [b], c, after, (l.setNext b (l.next c)).setNext c none, rfl, hcid, ?_, ?_, rfl, ?_⟩
      · unfold bxNetRequestListGetFinished
        rw [hfind, List.getLast?_concat]
        rfl
      · have : Seg (l.setNext b (l.next c)).next l.out (front ++ [b] ++ after) none := by
          rw [next_setNext]
          exact h.unlink hb hbafter
        exact seg_write this hcafter _
      · exact (Relinked.setNext l (by simp) _).trans (Relinked.setNext _ (by simp) none)

theorem getFinished_none (h : Seg l.next l.out outs none) (hturns : outs.length < turns) {id : Nat}
    (hid : id ∉ outs.map l.id) : bxNetRequestListGetFinished turns l id = (if l.run then .wait else .null, l) := by
  rcases h.find_cases (fun a => l.id a == id) hturns none with ⟨hnone, -⟩ | ⟨before, c, after, rfl, hc, -⟩
  · unfold bxNetRequestListGetFinished
    rw [hnone]
  · have hcid : l.id c = id := eq_of_beq hc
    exact absurd (List.mem_map.mpr ⟨c, by simp, hcid⟩) hid

theorem setResponse_next (l : BXNetRequestList β) (a : Address) (response : Option β) : (setResponse l a response).next = l.next := by
  rw [setResponse, next_write]
  exact Function.update_eq_self a l.next

theorem setResponse_id (l : BXNetRequestList β) (a : Address) (response : Option β) : (setResponse l a response).id = l.id := by
  funext x
  rcases eq_or_ne x a with rfl | hx
  · simp [setResponse, BXNetRequestList.id, write]
  · simp [setResponse, BXNetRequestList.id, write, hx]

/-- The requests of the detached list are cancelled, and nothing else about requests changes. -/
theorem cancelRequests_spec (xs : List Address) (l : BXNetRequestList β) :
    (∀ a, (xs.foldl cancelRequest l).heap a = { l.heap a with cancel := decide (a ∈ xs) || (l.heap a).cancel }) ∧
      (xs.foldl cancelRequest l).run = l.run ∧ (xs.foldl cancelRequest l).nextId = l.nextId ∧
      (xs.foldl cancelRequest l).input = l.input ∧ (xs.foldl cancelRequest l).out = l.out := by
  induction xs generalizing l with
  | nil => simp
  | cons b xs ih =>
    obtain ⟨hheap, hrest⟩ := ih (cancelRequest l b)
    refine ⟨fun a => ?_, hrest⟩
    rw [List.foldl_cons, hheap a]
    rcases eq_or_ne a b with rfl | hab
    · simp [cancelRequest, write]
    · simp [cancelRequest, write, hab]

theorem putBackIntoList_spec {a : Address} (h : Seg l.next l.out outs none) (ha : a ∉ outs) (hnext : l.next a = none) :
    Seg (putBackIntoList l a).next (putBackIntoList l a).out (a :: outs) none ∧
      (putBackIntoList l a).input = l.input ∧ Relinked l (putBackIntoList l a) [a] := by
  unfold putBackIntoList
  cases hout : l.out with
  | none =>
    cases outs with
    | nil => exact ⟨⟨rfl, hnext⟩, rfl, Relinked.heads l _ _ _⟩
    | cons b outs => rw [hout] at h; nomatch h.1
  | some first =>
    refine ⟨?_, rfl, (Relinked.setNext l (List.mem_singleton_self a) _).trans (Relinked.heads _ _ _ _)⟩
    rw [hout] at h
    have := h.push ha
    rwa [← next_setNext] at this

theorem splice_spec {link : Option Address} (h : Seg l.next l.out outs none) (hnodup : outs.Nodup) (hturns : outs.length ≤ turns)
    (hdetached : Seg l.next link detached none) (hdisjoint : List.Disjoint outs detached) :
    Seg (bxNetRequestListSplice turns l link).next (bxNetRequestListSplice turns l link).out (outs ++ detached) none ∧
      (bxNetRequestListSplice turns l link).input = l.input ∧ Relinked l (bxNetRequestListSplice turns l link) outs := by
  unfold bxNetRequestListSplice
  rcases List.eq_nil_or_concat' outs with rfl | ⟨front, b, rfl⟩
  · rw [show l.out = none from h]
    exact ⟨hdetached, rfl, Relinked.heads l _ _ _⟩
  · obtain ⟨first, hfirst⟩ : ∃ first, l.out = some first := by
      cases front with
      | nil => exact ⟨_, h.1⟩
      | cons c front => exact ⟨_, h.1⟩
    have hb : b ∉ front := by
      rw [List.nodup_append_comm, List.singleton_append] at hnodup
      exact (List.nodup_cons.mp hnodup).1
    have hjoin := h.join hb hdetached fun hmem => hdisjoint (by simp) hmem
    rw [hfirst] at h ⊢
    dsimp only
    rw [h.last_eq (by rw [List.length_append] at hturns; exact Nat.le_of_succ_le hturns) none]
    refine ⟨?_, rfl, Relinked.setNext l (by simp) link⟩
    rw [next_setNext]
    exact hjoin

end Calls

end BxSync
