import BxSync.QueueLists
import Mathlib.Data.List.Perm.Subperm

/-! The request queue loses, repeats and reorders no request, whatever the clients and the worker do.

    The invariant names the requests of the in list, of the worker and of the out list. One part says how
    the links run through them (`Layout`), the other what their ids and marks tell of the history
    (`Accounts`). -/

namespace BxSync
open Linked BXNetRequestList

variable {β : Type}

/-! ### The invariant -/

def Worker.Hands (next : Address → Option Address) : Worker → List Address → Prop
  | .fetching request, hands | .puttingBack request, hands => hands = [request] ∧ next request = none
  | .joining detached, hands => Seg next detached hands none
  | _, hands => hands = []

/-- What the worker has to fetch before the in list. -/
def Worker.unfetched : Worker → List Address
  | .fetching request => [request]
  | _ => []

/-- The worker has not detached the in list. -/
def Worker.fetches : Worker → Bool
  | .joining _ | .leaving | .ended => false
  | _ => true

/-- The links run through the requests of the three places, each of which is in one of them once. -/
structure Layout (q : Queue β) (ins hands outs : List Address) : Prop where
  inputSeg : Seg q.list.next q.list.input ins none
  handSeg : q.worker.Hands q.list.next hands
  outSeg : Seg q.list.next q.list.out outs none
  nodup : (ins ++ hands ++ outs).Nodup
  allocated : ∀ a ∈ ins ++ hands ++ outs, a ∈ q.allocated

/-- A client may have the request. -/
def BXNetRequest.Finished (events : List (QueueEvent β)) (r : BXNetRequest β) : Prop :=
  r.done = true ∧ .fetched r.id r.response ∈ events ∨ r.cancel = true

/-- The ids and the marks of the requests tell what happened to them. -/
structure Accounts (events : List (QueueEvent β)) (q : Queue β) (ins hands outs : List Address) : Prop where
  added : addedIds events = List.range' 1 q.list.nextId
  kept : ((ins ++ hands ++ outs).map q.list.id ++ returnedIds events).Perm (addedIds events)
  fetched : fetchedIds events <+: addedIds events
  order : q.worker.fetches = true →
    fetchedIds events ++ (q.worker.unfetched ++ ins.reverse).map q.list.id = addedIds events
  client : ∀ c id, q.client c = .waiting id → .added c id ∈ events
  outFinished : ∀ a ∈ outs, (q.list.heap a).Finished events
  handFinished : ∀ a ∈ hands, a ∉ q.worker.unfetched → (q.list.heap a).Finished events
  returned : ∀ c id r, .returned c id r ∈ events → .added c id ∈ events ∧ r.id = id ∧ r.Finished events
  refused : q.list.run = true → ∀ c id, .refused c id ∉ events

def QueueInv (events : List (QueueEvent β)) (q : Queue β) : Prop :=
  ∃ ins hands outs, Layout q ins hands outs ∧ Accounts events q ins hands outs

section Invariant
variable {q q' : Queue β} {events : List (QueueEvent β)} {ins hands outs ins' hands' outs' : List Address}

theorem Layout.length_lt (h : Layout q ins hands outs) : (ins ++ hands ++ outs).length < q.turns :=
  Nat.lt_succ_of_le (List.subperm_of_subset h.nodup h.allocated).length_le

theorem Layout.input_lt (h : Layout q ins hands outs) : ins.length < q.turns := by
  have := h.length_lt
  simp only [List.length_append] at this
  omega

theorem Layout.hands_lt (h : Layout q ins hands outs) : hands.length < q.turns := by
  have := h.length_lt
  simp only [List.length_append] at this
  omega

theorem Layout.out_lt (h : Layout q ins hands outs) : outs.length < q.turns := by
  have := h.length_lt
  simp only [List.length_append] at this
  omega

theorem BXNetRequest.Finished.mono {r : BXNetRequest β} (h : r.Finished events) (e : QueueEvent β) :
    r.Finished (events ++ [e]) := by
  rcases h with ⟨hdone, hmem⟩ | hcancel
  · exact Or.inl ⟨hdone, List.mem_append_left _ hmem⟩
  · exact Or.inr hcancel

theorem Relinked.finished {l l' : BXNetRequestList β} {xs : List Address} (h : Relinked l l' xs) {a : Address}
    (hfin : (l.heap a).Finished events) : (l'.heap a).Finished events := by
  rw [h.requests a]
  exact hfin

/-- A step without an event moves requests between the places. -/
theorem Accounts.quiet (h : Accounts events q ins hands outs) (hid : ∀ a, q'.list.id a = q.list.id a)
    (hnext : q'.list.nextId = q.list.nextId) (hrun : q'.list.run = true → q.list.run = true) (hclient : q'.client = q.client)
    (hperm : (ins' ++ hands' ++ outs').Perm (ins ++ hands ++ outs))
    (horder : q'.worker.fetches = true →
      q.worker.fetches = true ∧ q'.worker.unfetched ++ ins'.reverse = q.worker.unfetched ++ ins.reverse)
    (hout : ∀ a ∈ outs', (q'.list.heap a).Finished events)
    (hhands : ∀ a ∈ hands', a ∉ q'.worker.unfetched → (q'.list.heap a).Finished events) :
    Accounts (events ++ [.quiet]) q' ins' hands' outs' := by
  have hids : q'.list.id = q.list.id := funext hid
  have hadded : addedIds (events ++ [.quiet]) = addedIds events := by simp [addedIds]
  have hfetched : fetchedIds (events ++ [.quiet]) = fetchedIds events := by simp [fetchedIds]
  have hreturned : returnedIds (events ++ [.quiet]) = returnedIds events := by simp [returnedIds]
  refine ⟨?_, ?_, ?_, fun hf => ?_, fun c id hc => ?_, fun a ha => (hout a ha).mono _, fun a ha hw => (hhands a ha hw).mono _,
    fun c id r hr => ?_, fun hr c id hmem => ?_⟩
  · rw [hadded, hnext, h.added]
  · rw [hadded, hreturned, hids]
    exact ((hperm.map _).append_right _).trans h.kept
  · rw [hadded, hfetched]
    exact h.fetched
  · obtain ⟨hf, heq⟩ := horder hf
    rw [hadded, hfetched, hids, heq]
    exact h.order hf
  · rw [hclient] at hc
    exact List.mem_append_left _ (h.client c id hc)
  · have hr : .returned c id r ∈ events := by simpa using hr
    obtain ⟨hadd, hrid, hfin⟩ := h.returned c id r hr
    exact ⟨List.mem_append_left _ hadd, hrid, hfin.mono _⟩
  · have hmem : .refused c id ∈ events := by simpa using hmem
    exact h.refused (hrun hr) c id hmem

/-- The same for links that change alone. -/
theorem Accounts.relinked (h : Accounts events q ins hands outs) {xs : List Address} (hlist : Relinked q.list q'.list xs)
    (hclient : q'.client = q.client) (hperm : (ins' ++ hands' ++ outs').Perm (ins ++ hands ++ outs))
    (horder : q'.worker.fetches = true →
      q.worker.fetches = true ∧ q'.worker.unfetched ++ ins'.reverse = q.worker.unfetched ++ ins.reverse)
    (hout : ∀ a ∈ outs', (q.list.heap a).Finished events)
    (hhands : ∀ a ∈ hands', a ∉ q'.worker.unfetched → (q.list.heap a).Finished events) :
    Accounts (events ++ [.quiet]) q' ins' hands' outs' :=
  h.quiet hlist.id hlist.nextId (fun hrun => hlist.run ▸ hrun) hclient hperm horder
    (fun a ha => hlist.finished (hout a ha)) fun a ha hw => hlist.finished (hhands a ha hw)

theorem QueueInv.stay (h : QueueInv events q) : QueueInv (events ++ [.quiet]) q := by
  obtain ⟨ins, hands, outs, L, A⟩ := h
  exact ⟨ins, hands, outs, L,
    A.relinked (Relinked.heads q.list _ _ []) rfl (List.Perm.refl _) (fun hf => ⟨hf, rfl⟩) A.outFinished A.handFinished⟩

/-! ### The steps -/

theorem Worker.Hands.congr {next next' : Address → Option Address} {w : Worker} (h : w.Hands next hands)
    (hnext : ∀ a ∈ hands, next' a = next a) : w.Hands next' hands := by
  cases w with
  | fetching request | puttingBack request =>
    obtain ⟨rfl, hend⟩ := h
    exact ⟨rfl, (hnext request List.mem_cons_self).trans hend⟩
  | joining detached => exact Seg.congr h hnext
  | _ => exact h

theorem Worker.Hands.unfetched {next : Address → Option Address} {w : Worker} (h : w.Hands next hands) {a : Address}
    (ha : a ∈ w.unfetched) : a ∈ hands := by
  cases w with
  | fetching request =>
    obtain ⟨rfl, -⟩ := h
    exact ha
  | _ => nomatch ha

theorem QueueInv.add (h : QueueInv events q) (client : Nat) (request : Address) :
    QueueInv (events ++ [(q.addStep client request).1]) (q.addStep client request).2 := by
  unfold Queue.addStep
  split
  · exact h.stay
  · rename_i hguard
    obtain ⟨hidle, hfresh, hlock⟩ : q.client client = .idle ∧ request ∉ q.allocated ∧ q.worker.locksInput = false := by
      simpa using hguard
    obtain ⟨ins, hands, outs, L, A⟩ := h
    have hnew : request ∉ ins ++ hands ++ outs := fun hmem => hfresh (L.allocated request hmem)
    obtain ⟨hin, hhand, hout⟩ : request ∉ ins ∧ request ∉ hands ∧ request ∉ outs := by simpa [not_or] using hnew
    obtain ⟨l', hadd, hinput, hid, hother, hout', hrun, hnext⟩ := bxNetRequestListAdd_spec L.inputSeg hin
    rw [hadd]
    have hnextOther : ∀ a ∈ ins ++ hands ++ outs, l'.next a = q.list.next a := fun a ha => by
      rw [BXNetRequestList.next, hother a (ne_of_mem_of_not_mem ha hnew)]
      rfl
    refine ⟨request :: ins, hands, outs, ⟨hinput, ?_, ?_, ?_, ?_⟩, ?_⟩
    · exact L.handSeg.congr fun a ha => hnextOther a (by simp [ha])
    · dsimp only
      rw [hout']
      exact L.outSeg.congr fun a ha => hnextOther a (by simp [ha])
    · exact List.nodup_cons.mpr ⟨hnew, L.nodup⟩
    · intro a ha
      rcases List.mem_cons.mp ha with rfl | ha
      · exact List.mem_cons_self
      · exact List.mem_cons_of_mem _ (L.allocated a ha)
    · have hids : ∀ xs : List Address, (∀ a ∈ xs, a ∈ ins ++ hands ++ outs) → xs.map l'.id = xs.map q.list.id := fun xs hxs =>
        List.map_congr_left fun a ha => by
          rw [BXNetRequestList.id, hother a (ne_of_mem_of_not_mem (hxs a ha) hnew)]
          rfl
      have hadded : addedIds (events ++ [.added client (q.list.nextId + 1)]) = addedIds events ++ [q.list.nextId + 1] := by
        simp [addedIds]
      have hfetched : fetchedIds (events ++ [.added client (q.list.nextId + 1)]) = fetchedIds events := by simp [fetchedIds]
      have hreturned : returnedIds (events ++ [.added client (q.list.nextId + 1)]) = returnedIds events := by simp [returnedIds]
      refine ⟨?_, ?_, ?_, fun hf => ?_, fun c id hc => ?_, fun a ha => ?_, fun a ha hw => ?_, fun c id r hr => ?_,
        fun hr c id hmem => ?_⟩
      · rw [hadded, A.added, hnext, List.range'_1_concat, Nat.add_comm 1]
      · rw [hadded, hreturned, List.cons_append, List.cons_append, List.map_cons, hid, hids _ fun _ ha => ha, List.cons_append]
        exact (A.kept.cons _).trans (List.perm_append_singleton _ _).symm
      · rw [hadded, hfetched]
        exact A.fetched.trans (List.prefix_append _ _)
      · have := A.order hf
        rw [hadded, hfetched, List.reverse_cons, ← List.append_assoc, List.map_append, ← List.append_assoc, List.map_singleton, hid,
          hids, this]
        intro a ha
        rcases List.mem_append.mp ha with ha | ha
        · have := L.handSeg.unfetched ha
          simp [this]
        · simp [List.mem_reverse.mp ha]
      · dsimp only at hc
        rcases eq_or_ne c client with rfl | hne
        · rw [Function.update_self] at hc
          obtain rfl := Client.waiting.inj hc
          simp
        · rw [Function.update_of_ne hne] at hc
          exact List.mem_append_left _ (A.client c id hc)
      · dsimp only
        rw [hother a (ne_of_mem_of_not_mem ha hout)]
        exact (A.outFinished a ha).mono _
      · dsimp only
        rw [hother a (ne_of_mem_of_not_mem ha hhand)]
        exact (A.handFinished a ha hw).mono _
      · have hr : .returned c id r ∈ events := by simpa using hr
        obtain ⟨hmem, hrid, hfin⟩ := A.returned c id r hr
        exact ⟨List.mem_append_left _ hmem, hrid, hfin.mono _⟩
      · have hmem : .refused c id ∈ events := by simpa using hmem
        exact A.refused (hrun ▸ hr) c id hmem

/-- A client whose request is not there gets NULL after a stop. -/
theorem QueueInv.refuse (h : QueueInv events q) (hrun : q.list.run = false) (client id : Nat) :
    QueueInv (events ++ [.refused client id]) { q with client := Function.update q.client client .idle } := by
  obtain ⟨ins, hands, outs, L, A⟩ := h
  have hadded : addedIds (events ++ [.refused client id]) = addedIds events := by simp [addedIds]
  have hfetched : fetchedIds (events ++ [.refused client id]) = fetchedIds events := by simp [fetchedIds]
  have hreturned : returnedIds (events ++ [.refused client id]) = returnedIds events := by simp [returnedIds]
  refine ⟨ins, hands, outs, ⟨L.inputSeg, L.handSeg, L.outSeg, L.nodup, L.allocated⟩, ?_, ?_, ?_, fun hf => ?_, fun c i hc => ?_,
    fun a ha => (A.outFinished a ha).mono _, fun a ha hw => (A.handFinished a ha hw).mono _, fun c i r hr => ?_, fun hr => ?_⟩
  · rw [hadded, A.added]
  · rw [hadded, hreturned]
    exact A.kept
  · rw [hadded, hfetched]
    exact A.fetched
  · rw [hadded, hfetched]
    exact A.order hf
  · dsimp only at hc
    rcases eq_or_ne c client with rfl | hne
    · rw [Function.update_self] at hc
      nomatch hc
    · rw [Function.update_of_ne hne] at hc
      exact List.mem_append_left _ (A.client c i hc)
  · have hr : .returned c i r ∈ events := by simpa using hr
    obtain ⟨hmem, hrid, hfin⟩ := A.returned c i r hr
    exact ⟨List.mem_append_left _ hmem, hrid, hfin.mono _⟩
  · exact absurd (hrun.symm.trans hr) Bool.false_ne_true

theorem QueueInv.get (h : QueueInv events q) (client : Nat) :
    QueueInv (events ++ [(q.getStep client).1]) (q.getStep client).2 := by
  unfold Queue.getStep
  cases hclient : q.client client with
  | idle => exact h.stay
  | waiting id =>
    have hinv := h
    obtain ⟨ins, hands, outs, L, A⟩ := h
    by_cases hid : id ∈ outs.map q.list.id
    · obtain ⟨before, c, after, l', rfl, hcid, hget, hout, hinput, hlist⟩ :=
        getFinished_found L.outSeg (L.nodup.sublist (List.sublist_append_right _ _)) L.out_lt hid
      dsimp only
      rw [hget]
      dsimp only
      have hmiddle : (ins ++ hands ++ (before ++ c :: after)).Perm (c :: (ins ++ hands ++ (before ++ after))) := by
        rw [← List.append_assoc, ← List.append_assoc _ before after]
        exact List.perm_middle
      obtain ⟨hc, hnodup⟩ := List.nodup_cons.mp (hmiddle.nodup L.nodup)
      have hdisjoint : List.Disjoint (ins ++ hands) (before ++ c :: after) := List.disjoint_of_nodup_append L.nodup
      have hids : l'.id = q.list.id := funext hlist.id
      have hadded : ∀ r, addedIds (events ++ [.returned client id r]) = addedIds events := fun r => by simp [addedIds]
      have hfetched : ∀ r, fetchedIds (events ++ [.returned client id r]) = fetchedIds events := fun r => by simp [fetchedIds]
      have hreturned : ∀ r, returnedIds (events ++ [.returned client id r]) = returnedIds events ++ [id] :=
        fun r => by simp [returnedIds]
      refine ⟨ins, hands, before ++ after, ⟨?_, ?_, hout, hnodup, fun a ha => ?_⟩, ?_, ?_, ?_, fun hf => ?_, fun d i hd => ?_,
        fun a ha => ?_, fun a ha hw => ?_, fun d i r hr => ?_, fun hr d i hmem => ?_⟩
      · dsimp only
        rw [hinput]
        exact hlist.seg L.inputSeg (List.disjoint_append_left.mp hdisjoint).1
      · exact L.handSeg.congr fun a ha => hlist.links a ((List.disjoint_append_left.mp hdisjoint).2 ha)
      · have hmem := L.allocated a (hmiddle.mem_iff.mpr (List.mem_cons_of_mem _ ha))
        exact (List.mem_erase_of_ne (ne_of_mem_of_not_mem ha hc)).mpr hmem
      · rw [hadded, A.added, hlist.nextId]
      · have hkept := ((hmiddle.map q.list.id).append_right (returnedIds events)).symm.trans A.kept
        rw [List.map_cons, hcid] at hkept
        rw [hadded, hreturned, hids, ← List.append_assoc]
        exact (List.perm_append_singleton _ _).trans hkept
      · rw [hadded, hfetched]
        exact A.fetched
      · rw [hadded, hfetched, hids]
        exact A.order hf
      · dsimp only at hd
        rcases eq_or_ne d client with rfl | hne
        · rw [Function.update_self] at hd
          nomatch hd
        · rw [Function.update_of_ne hne] at hd
          exact List.mem_append_left _ (A.client d i hd)
      · have hmem : a ∈ before ++ c :: after := by
          rcases List.mem_append.mp ha with ha | ha <;> simp [ha]
        exact (hlist.finished (A.outFinished a hmem)).mono _
      · exact (hlist.finished (A.handFinished a ha hw)).mono _
      · rcases List.mem_append.mp hr with hr | hr
        · obtain ⟨hmem, hrid, hfin⟩ := A.returned d i r hr
          exact ⟨List.mem_append_left _ hmem, hrid, hfin.mono _⟩
        · obtain ⟨rfl, rfl, rfl⟩ : d = client ∧ i = id ∧ r = l'.heap c := by simpa using hr
          refine ⟨List.mem_append_left _ (A.client d i hclient), (hlist.id c).trans hcid, ?_⟩
          exact (hlist.finished (A.outFinished c (by simp))).mono _
      · have hmem : .refused d i ∈ events := by simpa using hmem
        exact A.refused (hlist.run ▸ hr) d i hmem
    · dsimp only
      rw [getFinished_none L.outSeg L.out_lt hid]
      cases hrun : q.list.run with
      | true => exact hinv.stay
      | false => exact hinv.refuse hrun client id

theorem QueueInv.goto (h : QueueInv events q) {w : Worker} (hhands : ∀ hands, q.worker.Hands q.list.next hands → hands = [])
    (hw : w.Hands q.list.next []) (hfetches : w.fetches = true → q.worker.fetches = true)
    (hunfetched : w.unfetched = q.worker.unfetched) : QueueInv (events ++ [.quiet]) { q with worker := w } := by
  obtain ⟨ins, hands, outs, L, A⟩ := h
  obtain rfl := hhands hands L.handSeg
  refine ⟨ins, [], outs, ⟨L.inputSeg, hw, L.outSeg, L.nodup, L.allocated⟩, ?_⟩
  exact A.relinked (Relinked.heads q.list _ _ []) rfl (List.Perm.refl _)
    (fun hf => ⟨hfetches hf, congrArg (· ++ ins.reverse) hunfetched⟩) A.outFinished fun a ha => nomatch ha

theorem QueueInv.take (h : QueueInv events q) (hw : q.worker = .locking ∨ q.worker = .waiting) :
    QueueInv (events ++ [.quiet]) q.takeStep := by
  have hhands : ∀ hands, q.worker.Hands q.list.next hands → hands = [] := by
    rcases hw with hw | hw <;> rw [hw] <;> exact fun _ h => h
  have hfetches : q.worker.fetches = true := by
    rcases hw with hw | hw <;> rw [hw] <;> rfl
  have hunfetched : q.worker.unfetched = [] := by
    rcases hw with hw | hw <;> rw [hw] <;> rfl
  unfold Queue.takeStep
  cases hinput : q.list.input with
  | none => exact h.goto hhands rfl (fun _ => hfetches) hunfetched.symm
  | some first =>
    obtain ⟨ins, hands, outs, L, A⟩ := h
    obtain rfl := hhands hands L.handSeg
    obtain ⟨rest, a, rfl, htaken, hrest, hend, hout, hlist⟩ :=
      takeRequest_spec hinput L.inputSeg (L.nodup.sublist (by simp)) (Nat.le_of_lt L.input_lt)
    have hdisjoint : List.Disjoint (rest ++ [a]) outs := List.disjoint_of_nodup_append (by simpa using L.nodup)
    have hperm : (rest ++ [a] ++ outs).Perm (rest ++ [a] ++ [] ++ outs) := by simp
    dsimp only
    rw [htaken]
    refine ⟨rest, [a], outs, ⟨hrest, ⟨rfl, hend⟩, ?_, hperm.symm.nodup L.nodup, fun x hx => L.allocated x (hperm.mem_iff.mp hx)⟩, ?_⟩
    · dsimp only
      rw [hout]
      exact hlist.seg L.outSeg fun x hx hx' => hdisjoint (List.mem_append_left _ hx') hx
    · refine A.relinked hlist rfl hperm (fun _ => ⟨hfetches, ?_⟩) A.outFinished fun x hx hx' => absurd hx hx'
      rw [hunfetched, List.reverse_append]
      rfl

theorem QueueInv.fetch (h : QueueInv events q) {request : Address} (hw : q.worker = .fetching request) (response : Option β) :
    QueueInv (events ++ [.fetched (q.list.id request) response])
      { q with list := setResponse q.list request response, worker := .puttingBack request } := by
  obtain ⟨ins, hands, outs, L, A⟩ := h
  obtain ⟨rfl, hend⟩ : hands = [request] ∧ q.list.next request = none := by
    have := L.handSeg
    rwa [hw] at this
  have hother : ∀ a, a ≠ request → (setResponse q.list request response).heap a = q.list.heap a := fun a ha => by
    simp [setResponse, write, ha]
  have hout : request ∉ outs := fun hmem => List.disjoint_of_nodup_append L.nodup (by simp) hmem
  have horder := A.order (by rw [hw]; rfl)
  rw [hw] at horder
  have hnext := setResponse_next q.list request response
  have hid := setResponse_id q.list request response
  have hadded : addedIds (events ++ [.fetched (q.list.id request) response]) = addedIds events := by simp [addedIds]
  have hfetched : fetchedIds (events ++ [.fetched (q.list.id request) response]) = fetchedIds events ++ [q.list.id request] := by
    simp [fetchedIds]
  have hreturned : returnedIds (events ++ [.fetched (q.list.id request) response]) = returnedIds events := by simp [returnedIds]
  have hdone : fetchedIds events ++ [q.list.id request] ++ ins.reverse.map q.list.id = addedIds events := by
    rw [← horder, List.append_assoc]
    rfl
  refine ⟨ins, [request], outs, ⟨hnext ▸ L.inputSeg, ⟨rfl, hnext ▸ hend⟩, hnext ▸ L.outSeg, L.nodup, L.allocated⟩,
    ?_, ?_, ?_, fun _ => ?_, fun c i hc => ?_, fun a ha => ?_, fun a ha _ => ?_, fun c i r hr => ?_, fun hr c i hmem => ?_⟩
  · rw [hadded]
    exact A.added
  · rw [hadded, hreturned, hid]
    exact A.kept
  · rw [hadded, hfetched, ← hdone]
    exact List.prefix_append _ _
  · rw [hadded, hfetched, hid]
    exact hdone
  · exact List.mem_append_left _ (A.client c i hc)
  · dsimp only
    rw [hother a (ne_of_mem_of_not_mem ha hout)]
    exact (A.outFinished a ha).mono _
  · obtain rfl := List.mem_singleton.mp ha
    refine Or.inl ⟨by simp [setResponse, write], ?_⟩
    simp [setResponse, write, BXNetRequestList.id]
  · have hr : .returned c i r ∈ events := by simpa using hr
    obtain ⟨hmem, hrid, hfin⟩ := A.returned c i r hr
    exact ⟨List.mem_append_left _ hmem, hrid, hfin.mono _⟩
  · have hmem : .refused c i ∈ events := by simpa using hmem
    exact A.refused hr c i hmem

theorem QueueInv.putBack (h : QueueInv events q) {request : Address} (hw : q.worker = .puttingBack request) :
    QueueInv (events ++ [.quiet]) { q with list := putBackIntoList q.list request, worker := .looping } := by
  obtain ⟨ins, hands, outs, L, A⟩ := h
  obtain ⟨rfl, hend⟩ : hands = [request] ∧ q.list.next request = none := by
    have := L.handSeg
    rwa [hw] at this
  have hdisjoint : List.Disjoint (ins ++ [request]) outs := List.disjoint_of_nodup_append L.nodup
  have hin : request ∉ ins := fun hmem =>
    List.disjoint_of_nodup_append (L.nodup.sublist (List.sublist_append_left _ _)) hmem List.mem_cons_self
  obtain ⟨hout, hinput, hlist⟩ := putBackIntoList_spec L.outSeg (fun hmem => hdisjoint (by simp) hmem) hend
  have hperm : (ins ++ [] ++ (request :: outs)).Perm (ins ++ [request] ++ outs) := by simp
  refine ⟨ins, [], request :: outs, ⟨?_, rfl, hout, hperm.symm.nodup L.nodup, fun a ha => L.allocated a (hperm.mem_iff.mp ha)⟩, ?_⟩
  · dsimp only
    rw [hinput]
    exact hlist.seg L.inputSeg fun a ha ha' => hin (List.mem_singleton.mp ha' ▸ ha)
  · refine A.relinked hlist rfl hperm (fun _ => ⟨by rw [hw]; rfl, by rw [hw]; rfl⟩) (fun a ha => ?_) fun a ha => nomatch ha
    rcases List.mem_cons.mp ha with rfl | ha
    · exact A.handFinished a List.mem_cons_self (by rw [hw]; exact List.not_mem_nil)
    · exact A.outFinished a ha

theorem QueueInv.detach (h : QueueInv events q) (hw : q.worker = .cancelling) :
    QueueInv (events ++ [.quiet])
      { q with list := (bxNetRequestListDetach q.turns q.list).2, worker := .joining (bxNetRequestListDetach q.turns q.list).1 } := by
  obtain ⟨ins, hands, outs, L, A⟩ := h
  obtain rfl : hands = [] := by
    have := L.handSeg
    rwa [hw] at this
  obtain ⟨hheap, hrun, hnextId, hinput, hout⟩ := cancelRequests_spec ins { q.list with input := none }
  unfold bxNetRequestListDetach
  rw [L.inputSeg.nodes_eq L.input_lt]
  have hnext : (ins.foldl cancelRequest { q.list with input := none }).next = q.list.next := funext fun a => by
    rw [BXNetRequestList.next, hheap a]
    rfl
  have hid : ∀ a, (ins.foldl cancelRequest { q.list with input := none }).id a = q.list.id a := fun a => by
    rw [BXNetRequestList.id, hheap a]
    rfl
  have hperm : ([] ++ ins ++ outs).Perm (ins ++ [] ++ outs) := by simp
  refine ⟨[], ins, outs, ⟨hinput, ?_, ?_, hperm.symm.nodup L.nodup, fun a ha => L.allocated a (hperm.mem_iff.mp ha)⟩, ?_⟩
  · dsimp only
    rw [hnext]
    exact L.inputSeg
  · dsimp only
    rw [hnext, hout]
    exact L.outSeg
  · refine A.quiet hid hnextId (fun hr => hrun ▸ hr) rfl hperm (fun hf => by cases hf) (fun a ha => ?_) fun a ha _ => Or.inr ?_
    · dsimp only
      rw [hheap a]
      rcases A.outFinished a ha with hdone | hcancel
      · exact Or.inl hdone
      · exact Or.inr (by simp [hcancel])
    · dsimp only
      rw [hheap a]
      simp [ha]

theorem QueueInv.splice (h : QueueInv events q) {detached : Option Address} (hw : q.worker = .joining detached) :
    QueueInv (events ++ [.quiet]) { q with list := bxNetRequestListSplice q.turns q.list detached, worker := .leaving } := by
  obtain ⟨ins, hands, outs, L, A⟩ := h
  have hhands : Seg q.list.next detached hands none := by
    have := L.handSeg
    rwa [hw] at this
  have hdisjoint : List.Disjoint (ins ++ hands) outs := List.disjoint_of_nodup_append L.nodup
  obtain ⟨hin, hhand⟩ := List.disjoint_append_left.mp hdisjoint
  obtain ⟨hout, hinput, hlist⟩ := splice_spec L.outSeg (L.nodup.sublist (List.sublist_append_right _ _)) (Nat.le_of_lt L.out_lt)
    hhands fun a ha ha' => hhand ha' ha
  have hperm : (ins ++ [] ++ (outs ++ hands)).Perm (ins ++ hands ++ outs) := by
    rw [List.append_nil, List.append_assoc]
    exact List.perm_append_comm.append_left ins
  refine ⟨ins, [], outs ++ hands, ⟨?_, rfl, hout, hperm.symm.nodup L.nodup, fun a ha => L.allocated a (hperm.mem_iff.mp ha)⟩, ?_⟩
  · dsimp only
    rw [hinput]
    exact hlist.seg L.inputSeg hin
  · refine A.relinked hlist rfl hperm (fun hf => nomatch hf) (fun a ha => ?_) fun a ha => nomatch ha
    rcases List.mem_append.mp ha with ha | ha
    · exact A.outFinished a ha
    · exact A.handFinished a ha (by rw [hw]; exact List.not_mem_nil)

theorem QueueInv.work (h : QueueInv events q) (response : Option β) :
    QueueInv (events ++ [(q.workStep response).1]) (q.workStep response).2 := by
  unfold Queue.workStep
  cases hw : q.worker with
  | looping =>
    refine h.goto (by rw [hw]; exact fun _ h => h) ?_ (fun _ => by rw [hw]; rfl) ?_
    · split <;> rfl
    · rw [hw]
      split <;> rfl
  | locking => exact h.take (Or.inl hw)
  | waiting =>
    dsimp only
    split
    · exact h.take (Or.inr hw)
    · exact h.goto (by rw [hw]; exact fun _ h => h) rfl (fun _ => by rw [hw]; rfl) (by rw [hw]; rfl)
  | fetching request => exact h.fetch hw response
  | puttingBack request => exact h.putBack hw
  | cancelling => exact h.detach hw
  | joining detached => exact h.splice hw
  | leaving => exact h.goto (by rw [hw]; exact fun _ h => h) rfl (fun hf => nomatch hf) (by rw [hw]; rfl)
  | ended => exact h.stay
  | blocked => exact h.stay

theorem QueueInv.step (h : QueueInv events q) (move : QueueMove β) :
    QueueInv (events ++ [(q.step move).1]) (q.step move).2 := by
  cases move with
  | add client request => exact h.add client request
  | get client => exact h.get client
  | work response => exact h.work response
  | stop =>
    obtain ⟨ins, hands, outs, L, A⟩ := h
    exact ⟨ins, hands, outs, ⟨L.inputSeg, L.handSeg, L.outSeg, L.nodup, L.allocated⟩,
      A.quiet (fun _ => rfl) rfl (fun hr => nomatch hr) rfl (List.Perm.refl _) (fun hf => ⟨hf, rfl⟩) A.outFinished A.handFinished⟩

theorem QueueInv.init : QueueInv [] (Queue.init : Queue β) :=
  ⟨[], [], [],
    { inputSeg := rfl, handSeg := rfl, outSeg := rfl, nodup := List.nodup_nil, allocated := by simp },
    { added := rfl, kept := List.Perm.nil, fetched := List.nil_prefix, order := fun _ => rfl, client := fun _ _ h => (nomatch h),
      outFinished := by simp, handFinished := by simp, returned := by simp, refused := by simp }⟩

end Invariant

/-! ### Every run -/

/-- What a reader of the calls and of the memory sees of the queue, over every interleaving: each request
    that was added and not returned is in one of the three places, ids grow, the fetches keep the order of
    the additions, a client gets its own request once and finished, and nobody is turned away before a stop. -/
theorem queue_conserved (moves : List (QueueMove β)) :
    let events := Machine.outputs Queue.step Queue.init moves
    let q := Machine.final Queue.step (Queue.init : Queue β) moves
    let kept := (q.inputRequests ++ q.handRequests ++ q.outRequests).map q.list.id
    kept.Nodup ∧ (∀ id, id ∈ kept ↔ id ∈ addedIds events ∧ id ∉ returnedIds events) ∧
      (addedIds events).Pairwise (· < ·) ∧ fetchedIds events <+: addedIds events ∧ (returnedIds events).Nodup ∧
      (∀ client id r, .returned client id r ∈ events → .added client id ∈ events ∧ r.id = id ∧
        (r.done = true ∧ .fetched id r.response ∈ events ∨ r.cancel = true)) ∧
      (q.list.run = true → ∀ client id, .refused client id ∉ events) := by
  intro events q kept
  obtain ⟨ins, hands, outs, L, A⟩ : QueueInv events q :=
    Machine.history_inv Queue.step (I := QueueInv) (C := fun _ => True) (fun _ _ move h _ => QueueInv.step h move) moves []
      Queue.init QueueInv.init fun _ _ => trivial
  have hin : q.inputRequests = ins := L.inputSeg.nodes_eq L.input_lt
  have hout : q.outRequests = outs := L.outSeg.nodes_eq L.out_lt
  have hhand : q.handRequests = hands := by
    have hseg := L.handSeg
    unfold Queue.handRequests
    cases hw : q.worker <;> rw [hw] at hseg
    case fetching | puttingBack => exact hseg.1.symm
    case joining => exact Seg.nodes_eq hseg L.hands_lt
    all_goals exact hseg.symm
  have hkept : kept = (ins ++ hands ++ outs).map q.list.id := by rw [← hin, ← hhand, ← hout]
  have hadded : (addedIds events).Nodup := A.added ▸ List.nodup_range'
  have hnodup := A.kept.symm.nodup hadded
  rw [← hkept] at hnodup
  have hdisjoint := List.disjoint_of_nodup_append hnodup
  refine ⟨hnodup.sublist (List.sublist_append_left _ _), fun id => ⟨fun hid => ⟨?_, hdisjoint hid⟩, fun ⟨hadd, hret⟩ => ?_⟩, ?_, A.fetched,
    hnodup.sublist (List.sublist_append_right _ _), fun client id r hr => ?_, A.refused⟩
  · exact A.kept.mem_iff.mp (List.mem_append_left _ (hkept ▸ hid))
  · rcases List.mem_append.mp (A.kept.mem_iff.mpr hadd) with hid | hid
    · exact hkept ▸ hid
    · exact absurd hid hret
  · rw [A.added]
    exact List.pairwise_lt_range'
  · obtain ⟨hmem, rfl, hfin⟩ := A.returned client id r hr
    exact ⟨hmem, rfl, hfin⟩

end BxSync
