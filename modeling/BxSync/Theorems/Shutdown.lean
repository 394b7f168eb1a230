import BxSync.NetWorker
import BxSync.Theorems.QueueConserved

/-! How the worker ends. It leaves its loop without the lock of the in list, but a jump out of the wait keeps the lock,
    and `bx_net_request_list_cancel` takes it again. -/

namespace BxSync

open Bracket Machine

variable {β : Type}

/-! ### The property -/

/-- The worker comes to `bx_net_request_list_cancel` without the lock and unlocks it at the end when it has it once.
    After that a client that waits is handed its request, done or cancelled, unless it was added after the end. -/
structure CleanShutdown (s : NetWorker β) : Prop where
  cancel : s.queue.worker.AtCancel → run false s.inMutex = some false
  unlock : s.queue.worker = .leaving → run false s.inMutex = some true ∧ s.queue.list.input = none
  handed : s.queue.worker = .leaving ∨ s.queue.worker = .ended → ∀ client id, s.queue.client client = .waiting id →
    id ∈ s.queue.inputRequests.map s.queue.list.id ∨
      ∃ request, (s.queue.getStep client).1 = .returned client id request ∧ (request.done = true ∨ request.cancel = true)

/-- The worker does not wake up from its wait with `run` cleared. -/
def WaitCondition (call : NetCall β) : Prop :=
  ∀ response, call.move = .work response → call.pre.queue.worker = .waiting → call.pre.queue.list.run = true

/-! ### The clients -/

section

variable {q : Queue β} {events : List (QueueEvent β)}

/-- No two clients wait for one request, and none for a request that was returned. -/
structure Waits (events : List (QueueEvent β)) (q : Queue β) : Prop where
  distinct : ∀ c c' id, q.client c = .waiting id → q.client c' = .waiting id → c = c'
  unreturned : ∀ c id, q.client c = .waiting id → id ∉ returnedIds events

theorem QueueInv.added_le (h : QueueInv events q) {id : Nat} (hid : id ∈ addedIds events) : id ≤ q.list.nextId := by
  obtain ⟨ins, hands, outs, -, A⟩ := h
  rw [A.added, List.mem_range'_1] at hid
  omega

theorem QueueInv.waiting_le (h : QueueInv events q) {c id : Nat} (hc : q.client c = .waiting id) :
    id ∈ addedIds events ∧ id ≤ q.list.nextId := by
  have hinv := h
  obtain ⟨ins, hands, outs, -, A⟩ := h
  have hadded : id ∈ addedIds events := List.mem_filterMap.mpr ⟨_, A.client c id hc, rfl⟩
  exact ⟨hadded, hinv.added_le hadded⟩

theorem QueueInv.returned_le (h : QueueInv events q) {id : Nat} (hid : id ∈ returnedIds events) : id ≤ q.list.nextId := by
  have hinv := h
  obtain ⟨ins, hands, outs, -, A⟩ := h
  exact hinv.added_le (A.kept.mem_iff.mp (List.mem_append_right _ hid))

/-- A step that neither gives out nor returns a request. -/
theorem Waits.stay (h : Waits events q) (e : QueueEvent β) {q' : Queue β} (hclient : q'.client = q.client)
    (hreturned : returnedIds (events ++ [e]) = returnedIds events) : Waits (events ++ [e]) q' where
  distinct := by
    rw [hclient]
    exact h.distinct
  unreturned := by
    rw [hclient, hreturned]
    exact h.unreturned

theorem Waits.add (h : Waits events q) (hq : QueueInv events q) (client : Nat) (request : Address) :
    Waits (events ++ [(q.addStep client request).1]) (q.addStep client request).2 := by
  unfold Queue.addStep
  split
  · exact h.stay .quiet rfl (by simp [returnedIds])
  · have hid : (bxNetRequestListAdd (q.list.write request bxNetRequestNew) request).1 = q.list.nextId + 1 := rfl
    dsimp only
    rw [hid]
    -- The new id is greater than every id that a client waits for or has been returned.
    have hcases : ∀ {c id}, Function.update q.client client (.waiting (q.list.nextId + 1)) c = .waiting id →
        (c = client ∧ id = q.list.nextId + 1) ∨ (q.client c = .waiting id ∧ id ≤ q.list.nextId) := by
      intro c id hc
      by_cases hclient : c = client
      · rw [hclient, Function.update_self] at hc
        exact Or.inl ⟨hclient, (Client.waiting.inj hc).symm⟩
      · rw [Function.update_of_ne hclient] at hc
        exact Or.inr ⟨hc, (hq.waiting_le hc).2⟩
    refine ⟨fun c c' id hc hc' => ?_, fun c id hc hmem => ?_⟩
    · rcases hcases hc with ⟨hc, hid⟩ | ⟨hc, hid⟩ <;> rcases hcases hc' with ⟨hc', hid'⟩ | ⟨hc', hid'⟩
      · rw [hc, hc']
      · omega
      · omega
      · exact h.distinct c c' id hc hc'
    · have hmem : id ∈ returnedIds events := by simpa [returnedIds] using hmem
      rcases hcases hc with ⟨-, hid⟩ | ⟨hc, -⟩
      · have := hq.returned_le hmem
        omega
      · exact h.unreturned c id hc hmem

/-- A client that returns waits no more. -/
theorem Waits.leave (h : Waits events q) {client id : Nat} (hclient : q.client client = .waiting id) {l : BXNetRequestList β}
    {allocated : List Address} {e : QueueEvent β} (hreturned : ∀ i ∈ returnedIds (events ++ [e]), i ∈ returnedIds events ∨ i = id) :
    Waits (events ++ [e]) { q with list := l, client := Function.update q.client client .idle, allocated } := by
  have hold : ∀ {c i}, Function.update q.client client .idle c = .waiting i → c ≠ client ∧ q.client c = .waiting i := by
    intro c i hc
    rcases eq_or_ne c client with rfl | hne
    · rw [Function.update_self] at hc
      nomatch hc
    · rw [Function.update_of_ne hne] at hc
      exact ⟨hne, hc⟩
  refine ⟨fun c c' i hc hc' => h.distinct c c' i (hold hc).2 (hold hc').2, fun c i hc hmem => ?_⟩
  obtain ⟨hne, hc⟩ := hold hc
  rcases hreturned i hmem with hmem | rfl
  · exact h.unreturned c i hc hmem
  · exact hne (h.distinct c client i hc hclient)

theorem Waits.get (h : Waits events q) (client : Nat) : Waits (events ++ [(q.getStep client).1]) (q.getStep client).2 := by
  unfold Queue.getStep
  cases hclient : q.client client with
  | idle => exact h.stay .quiet rfl (by simp [returnedIds])
  | waiting id =>
    dsimp only
    split
    · exact h.stay .quiet rfl (by simp [returnedIds])
    · exact h.leave hclient fun i hi => Or.inl (by simpa [returnedIds] using hi)
    · exact h.leave hclient fun i hi => by simpa [returnedIds] using hi

theorem client_takeStep (q : Queue β) : q.takeStep.client = q.client := by
  unfold Queue.takeStep
  split <;> rfl

theorem Waits.work (h : Waits events q) (response : Option β) :
    Waits (events ++ [(q.workStep response).1]) (q.workStep response).2 := by
  have hquiet : returnedIds (events ++ [.quiet]) = returnedIds events := by simp [returnedIds]
  unfold Queue.workStep
  cases q.worker with
  | looping => exact h.stay .quiet rfl hquiet
  | locking => exact h.stay .quiet (client_takeStep q) hquiet
  | waiting =>
    dsimp only
    split
    · exact h.stay .quiet (client_takeStep q) hquiet
    · exact h.stay .quiet rfl hquiet
  | fetching request => exact h.stay (.fetched _ response) rfl (by simp [returnedIds])
  | puttingBack request => exact h.stay .quiet rfl hquiet
  | cancelling => exact h.stay .quiet rfl hquiet
  | joining detached => exact h.stay .quiet rfl hquiet
  | leaving => exact h.stay .quiet rfl hquiet
  | ended => exact h.stay .quiet rfl hquiet
  | blocked => exact h.stay .quiet rfl hquiet

theorem Waits.step (h : Waits events q) (hq : QueueInv events q) (move : QueueMove β) :
    Waits (events ++ [(q.step move).1]) (q.step move).2 := by
  cases move with
  | add client request => exact h.add hq client request
  | get client => exact h.get client
  | work response => exact h.work response
  | stop => exact h.stay .quiet rfl (by simp [returnedIds])

/-- Once the worker has left, a client that waits finds its request in the out list, or has added it since. -/
theorem Waits.handed (h : Waits events q) (hq : QueueInv events q) (hw : q.worker = .leaving ∨ q.worker = .ended)
    {client id : Nat} (hclient : q.client client = .waiting id) :
    id ∈ q.inputRequests.map q.list.id ∨
      ∃ request, (q.getStep client).1 = .returned client id request ∧ (request.done = true ∨ request.cancel = true) := by
  have hadded := (hq.waiting_le hclient).1
  have hunreturned := h.unreturned client id hclient
  obtain ⟨ins, hands, outs, L, A⟩ := hq
  obtain rfl : hands = [] := by
    have := L.handSeg
    rcases hw with hw | hw <;> rwa [hw] at this
  have hin : q.inputRequests = ins := L.inputSeg.nodes_eq L.input_lt
  rw [hin]
  have hmem : id ∈ (ins ++ [] ++ outs).map q.list.id := by
    rcases List.mem_append.mp (A.kept.mem_iff.mpr hadded) with hmem | hmem
    · exact hmem
    · exact absurd hmem hunreturned
  rw [List.append_nil, List.map_append] at hmem
  rcases List.mem_append.mp hmem with hmem | hmem
  · exact Or.inl hmem
  · obtain ⟨before, c, after, l', rfl, hcid, hget, -, -, hlist⟩ :=
      getFinished_found L.outSeg (L.nodup.sublist (List.sublist_append_right _ _)) L.out_lt hmem
    refine Or.inr ⟨l'.heap c, ?_, ?_⟩
    · unfold Queue.getStep
      rw [hclient]
      dsimp only
      rw [hget]
    · exact (hlist.finished (A.outFinished c (by simp))).imp_left And.left

end

/-! ### The worker -/

/-- What a run keeps as long as the worker does not wake up from its wait after a stop. -/
structure NetInv (calls : List (NetCall β)) (s : NetWorker β) : Prop where
  queue : QueueInv (calls.map NetCall.event) s.queue
  waits : Waits (calls.map NetCall.event) s.queue
  held : run false s.inMutex = some s.queue.worker.locksInput
  unblocked : s.queue.worker ≠ .blocked
  emptied : s.queue.worker.locksInput = true → s.queue.list.input = none

theorem worker_takeStep (q : Queue β) : q.takeStep.worker.locksInput = false ∧ q.takeStep.worker ≠ .blocked := by
  unfold Queue.takeStep
  split <;> exact ⟨rfl, nofun⟩

theorem input_getStep (q : Queue β) (client : Nat) :
    (q.getStep client).2.list.input = q.list.input ∧ (q.getStep client).2.worker = q.worker := by
  have hget : ∀ id, (bxNetRequestListGetFinished q.turns q.list id).2.input = q.list.input := by
    intro id
    unfold bxNetRequestListGetFinished
    split
    · dsimp only
      split <;> rfl
    · rfl
  unfold Queue.getStep
  split
  · exact ⟨rfl, rfl⟩
  · rename_i id hclient
    have := hget id
    split <;> rename_i l hfinished <;> rw [hfinished] at this <;> exact ⟨this, rfl⟩

/-- One step of the worker, by where it is. -/
theorem NetInv.work {calls : List (NetCall β)} {s : NetWorker β} (h : NetInv calls s) (response : Option β)
    (hC : s.queue.worker = .waiting → s.queue.list.run = true) :
    run false (s.inMutex ++ inMutexMarks s.queue) = some (s.queue.workStep response).2.worker.locksInput ∧
      (s.queue.workStep response).2.worker ≠ .blocked ∧
      ((s.queue.workStep response).2.worker.locksInput = true → (s.queue.workStep response).2.list.input = none) := by
  have hheld := h.held
  obtain ⟨htake, hblocked⟩ := worker_takeStep s.queue
  unfold inMutexMarks Queue.workStep
  cases hw : s.queue.worker with
  | looping =>
    rw [hw] at hheld
    dsimp only
    rw [List.append_nil]
    split <;> exact ⟨hheld, nofun, nofun⟩
  | locking =>
    rw [hw] at hheld
    dsimp only
    rw [htake]
    exact ⟨run_trans hheld rfl, hblocked, nofun⟩
  | waiting =>
    rw [hw] at hheld
    dsimp only
    rw [if_pos (hC hw), if_pos (hC hw), htake]
    exact ⟨run_trans hheld rfl, hblocked, nofun⟩
  | fetching request =>
    rw [hw] at hheld
    dsimp only
    rw [List.append_nil]
    exact ⟨hheld, nofun, nofun⟩
  | puttingBack request =>
    rw [hw] at hheld
    dsimp only
    rw [List.append_nil]
    exact ⟨hheld, nofun, nofun⟩
  | cancelling =>
    rw [hw] at hheld
    refine ⟨run_trans hheld rfl, nofun, fun _ => ?_⟩
    exact (cancelRequests_spec _ { s.queue.list with input := none }).2.2.2.1
  | joining detached =>
    rw [hw] at hheld
    dsimp only
    rw [List.append_nil]
    refine ⟨hheld, nofun, fun _ => ?_⟩
    have hinput : (bxNetRequestListSplice s.queue.turns s.queue.list detached).input = s.queue.list.input := by
      unfold bxNetRequestListSplice
      split <;> rfl
    exact hinput.trans (h.emptied (by rw [hw]; rfl))
  | leaving =>
    rw [hw] at hheld
    exact ⟨run_trans hheld rfl, nofun, nofun⟩
  | ended =>
    rw [hw] at hheld
    dsimp only
    rw [List.append_nil, hw]
    exact ⟨hheld, nofun, nofun⟩
  | blocked => exact absurd hw h.unblocked

theorem NetInv.step {calls : List (NetCall β)} {s : NetWorker β} (h : NetInv calls s) (move : QueueMove β)
    (hC : WaitCondition (netStep s move).1) : NetInv (calls ++ [(netStep s move).1]) (netStep s move).2 := by
  have hqueue := h.queue.step move
  have hwaits := h.waits.step h.queue move
  have hmap : (calls ++ [(netStep s move).1]).map NetCall.event = calls.map NetCall.event ++ [(s.queue.step move).1] := by
    rw [List.map_append]
    rfl
  rw [← hmap] at hqueue hwaits
  cases move with
  | add client request =>
    have hworker : (s.queue.addStep client request).2.worker = s.queue.worker := by
      unfold Queue.addStep
      split <;> rfl
    refine ⟨hqueue, hwaits, h.held.trans (congrArg (some ∘ Worker.locksInput) hworker.symm), ?_, fun hlocked => ?_⟩
    · exact fun hblocked => h.unblocked (hworker.symm.trans hblocked)
    · -- While the worker has the lock no client adds.
      have hlocked : s.queue.worker.locksInput = true := (congrArg Worker.locksInput hworker).symm.trans hlocked
      have hstay : s.queue.addStep client request = (.quiet, s.queue) := by
        unfold Queue.addStep
        rw [if_pos (Or.inr (Or.inr hlocked))]
      have : (netStep s (.add client request)).2.queue = s.queue := congrArg Prod.snd hstay
      rw [this]
      exact h.emptied hlocked
  | get client =>
    obtain ⟨hinput, hworker⟩ := input_getStep s.queue client
    refine ⟨hqueue, hwaits, h.held.trans (congrArg (some ∘ Worker.locksInput) hworker.symm), ?_, fun hlocked => ?_⟩
    · exact fun hblocked => h.unblocked (hworker.symm.trans hblocked)
    · exact hinput.trans (h.emptied ((congrArg Worker.locksInput hworker).symm.trans hlocked))
  | work response =>
    obtain ⟨hheld, hunblocked, hemptied⟩ := h.work response (hC response rfl)
    exact ⟨hqueue, hwaits, hheld, hunblocked, hemptied⟩
  | stop => exact ⟨hqueue, hwaits, h.held, h.unblocked, h.emptied⟩

theorem NetInv.clean {calls : List (NetCall β)} {s : NetWorker β} (h : NetInv calls s) : CleanShutdown s where
  cancel hat := by
    rw [h.held]
    cases hw : s.queue.worker <;> rw [hw] at hat
    case cancelling => rfl
    case blocked => exact absurd hw h.unblocked
    all_goals exact nomatch hat
  unlock hw := by
    have hlocked : s.queue.worker.locksInput = true := by rw [hw]; rfl
    exact ⟨by rw [h.held, hlocked], h.emptied hlocked⟩
  handed hw _ _ hclient := h.waits.handed h.queue hw hclient

/-! ### Runs -/

theorem netInv_init : NetInv [] (NetWorker.init : NetWorker β) where
  queue := QueueInv.init
  waits := ⟨nofun, nofun⟩
  held := rfl
  unblocked := nofun
  emptied := nofun

/-- A worker that wakes up after a stop comes to `bx_net_request_list_cancel` with the lock. -/
theorem waitCondition_of_clean {s : NetWorker β} {move : QueueMove β} (h : CleanShutdown (netStep s move).2) :
    WaitCondition (netStep s move).1 := by
  rintro response (rfl : move = .work response) (hw : s.queue.worker = .waiting)
  by_contra hstopped
  have hstopped : ¬s.queue.list.run = true := hstopped
  have hworker : (netStep s (.work response)).2.queue.worker = .blocked := by
    simp [netStep, Queue.step, Queue.workStep, hw, hstopped]
  have hmarks : (netStep s (.work response)).2.inMutex = s.inMutex ++ [.acquire] := by
    simp [netStep, inMutexMarks, hw, hstopped]
  have hheld := h.cancel (by rw [hworker]; trivial)
  rw [hmarks, run_append] at hheld
  cases hrun : run false s.inMutex with
  | none => simp [hrun] at hheld
  | some held => cases held <;> simp [hrun, run] at hheld

/-- For every schedule of the clients, of the worker and of the stop: the shutdown is clean in every state if and only
    if the worker never wakes up from its wait with `run` cleared. -/
theorem shutdown_clean_iff (moves : List (QueueMove β)) :
    (∀ call ∈ outputs netStep .init moves, CleanShutdown call.post) ↔ ∀ call ∈ outputs netStep .init moves, WaitCondition call := by
  constructor
  · intro h call hcall
    have hstep : ∀ call ∈ outputs netStep (.init : NetWorker β) moves, call = (netStep call.pre call.move).1 :=
      run_all netStep (I := fun _ => True) (C := fun _ => True) trivial (fun _ _ _ _ => ⟨rfl, trivial⟩) fun _ _ => trivial
    have hclean := h call hcall
    rw [hstep call hcall] at hclean ⊢
    exact waitCondition_of_clean hclean
  · intro hC call hcall
    obtain ⟨before, after, heq⟩ := List.append_of_mem hcall
    exact run_safe netStep (I := NetInv) (P := fun _ call => CleanShutdown call.post) netInv_init
      (fun calls s move h hwait => ⟨(h.step move hwait).clean, h.step move hwait⟩) hC heq

/-- The worker waits for a request when it is stopped. -/
def stoppedInWait : List (QueueMove Nat) := [.work none, .work none, .stop, .work none]

theorem shutdown_blocked : ¬∀ call ∈ outputs netStep .init stoppedInWait, CleanShutdown call.post := by
  intro h
  have hblocked := (h (netStep (final netStep .init (stoppedInWait.take 3)) (.work none)).1 (by simp [stoppedInWait, outputs, final])).cancel
    trivial
  cases hblocked

end BxSync
