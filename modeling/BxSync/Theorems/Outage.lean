import BxSync.Lib.Machine
import BxSync.Loops

/-! Whether the data threads get over an outage of the database. A reconnect that fails leaves a thread without a
    connection, its walks then fail with an error that asks for no reconnect, and nothing else opens one. -/

namespace BxSync

open Machine

section

variable {R : Type}

/-! ### The property -/

/-- The error handling of an iteration asks for a new connection. -/
def Iteration.reconnects (it : Iteration R) : Bool :=
  it.pre.running && it.error.any fun error =>
    error ≠ .noError && (error = .errorSQLReconnect || (it.pre.conn.isSome && it.answers.lost))

def Iteration.reconnectFailed (it : Iteration R) : Bool := it.reconnects && it.answers.reconnect.isNone

/-- `thread_handle_error` returns false. -/
def Iteration.failed (it : Iteration R) : Bool :=
  it.pre.running && it.error.any fun error => !(threadHandleError error it.pre it.answers).1

/-- The walks of an iteration start with an open connection. A reconnect that failed is tried again in the next
    iteration. -/
def RecoversAt (before : List (Iteration R)) (it : Iteration R) : Prop :=
  it.pre.running = true → it.pre.conn.isSome = true ∧
    ∀ last, before.getLast? = some last → last.reconnectFailed = true → it.reconnects = true

/-- How many iterations have failed one after the other, up to the last one. -/
def failuresInARow (its : List (Iteration R)) : Nat := its.foldl (fun n it => if it.failed then n + 1 else 0) 0

/-- Fewer than `BXILL_THREAD_EXIT_MAX_COUNT` iterations fail one after the other. -/
def ShortOutages (its : List (Iteration R)) : Prop := ∀ before, before <+: its → failuresInARow before < bxillThreadExitMaxCount

/-- A reconnect opens a connection, and the prune queries can be rebuilt on it, which takes memory only. -/
def OutageCondition (it : Iteration R) : Prop :=
  it.reconnects = true → it.answers.reconnect.isSome = true ∧ ∀ r, it.answers.prepared r = true

theorem failuresInARow_append (its : List (Iteration R)) (it : Iteration R) :
    failuresInARow (its ++ [it]) = if it.failed then failuresInARow its + 1 else 0 := by
  unfold failuresInARow
  rw [List.foldl_append]
  rfl

theorem OutageCondition.reconnectFailed_eq {it : Iteration R} (h : OutageCondition it) : it.reconnectFailed = false := by
  unfold Iteration.reconnectFailed
  cases hasks : it.reconnects with
  | false => rfl
  | true => rw [Bool.true_and, Option.isNone_eq_false_iff, (h hasks).1]

theorem ShortOutages.before {its : List (Iteration R)} {it : Iteration R} (h : ShortOutages (its ++ [it])) : ShortOutages its :=
  fun before hbefore => h before (hbefore.trans (List.prefix_append its [it]))

/-! ### What an iteration keeps -/

variable [DecidableEq R]

theorem rebuildPruneQueries_prepared {prepared : R → Bool} (h : ∀ r, prepared r = true) (serial : Nat) (queries : List R)
    (statements : R → Option Nat) : (rebuildPruneQueries serial prepared queries statements).1 = true := by
  fun_induction rebuildPruneQueries serial prepared queries statements
  case case1 => rfl
  case case2 ih => exact ih
  case case3 hno => exact absurd (h _) hno

/-- The connection stays open, and the counter and the loop go by what `thread_handle_error` returns. -/
theorem afterIteration_connected (queries : List R) {error : BXillError} {l : Link R} {a : LinkAnswers R}
    (hconn : l.conn.isSome = true) (hrun : l.running = true)
    (hopens : error ≠ .noError → (error = .errorSQLReconnect ∨ (l.conn.isSome = true ∧ a.lost = true)) →
      a.reconnect.isSome = true ∧ ∀ r, a.prepared r = true) :
    (afterIteration queries error l a).conn.isSome = true ∧
      (if (threadHandleError error l a).1 = true then
        (afterIteration queries error l a).errorCounter = 0 ∧ (afterIteration queries error l a).running = true
      else
        (afterIteration queries error l a).errorCounter = l.errorCounter + 1 ∧
          (afterIteration queries error l a).running = decide (l.errorCounter ≤ bxillThreadExitMaxCount)) := by
  obtain ⟨conn, hc⟩ := Option.isSome_iff_exists.mp hconn
  unfold afterIteration threadHandleError
  by_cases hno : error = .noError
  · simp [hno, hc, hrun]
  · by_cases hask : error = .errorSQLReconnect ∨ (l.conn.isSome = true ∧ a.lost = true)
    · obtain ⟨hsome, hprepared⟩ := hopens hno hask
      obtain ⟨address, hopen⟩ := Option.isSome_iff_exists.mp hsome
      simp only [if_neg hno, if_pos hask, hopen, if_true]
      split
      · exact ⟨rfl, rfl, hrun⟩
      · exact ⟨rfl, rfl, rebuildPruneQueries_prepared hprepared _ _ _⟩
    · rw [if_neg hno, if_neg hask]
      exact ⟨hconn, rfl, rfl⟩

end

theorem work_connected (thread : DataThread) (s : thread.State) {l : Link thread.Query} (i : thread.Input)
    (hconn : l.conn.isSome = true) : ∃ error, (thread.work s l i).1 = some error := by
  cases thread with
  | chain => exact ⟨_, rfl⟩
  | randomItem => exact ⟨_, rfl⟩
  | contactSector =>
    obtain ⟨answered, statements⟩ := i
    simp only [DataThread.work, bxContactSectorWalkItems, hconn]
    cases answered with
    | false => exact ⟨_, rfl⟩
    | true => exact ⟨_, rfl⟩
  | file => exact ⟨_, rfl⟩

/-! ### Runs -/

section

variable {thread : DataThread}

/-- A thread that runs has its connection, and has counted the failures in a row. -/
structure Connected (its : List (Iteration thread.Query)) (t : thread.State × Link thread.Query) : Prop where
  open_ : t.2.conn.isSome = true
  counted : t.2.running = true → t.2.errorCounter = failuresInARow its
  alive : ShortOutages its → t.2.running = true
  reconnected : ∀ it ∈ its, it.reconnectFailed = false

theorem Connected.step {its : List (Iteration thread.Query)} {t : thread.State × Link thread.Query} (h : Connected its t)
    (i : thread.Input × LinkAnswers thread.Query) (hC : OutageCondition (threadStep thread t i).1) :
    RecoversAt its (threadStep thread t i).1 ∧ Connected (its ++ [(threadStep thread t i).1]) (threadStep thread t i).2 := by
  have hreconnect := hC.reconnectFailed_eq
  have hall : ∀ it ∈ its ++ [(threadStep thread t i).1], it.reconnectFailed = false := by
    intro it hit
    rcases List.mem_append.mp hit with hit | hit
    · exact h.reconnected it hit
    · rw [List.mem_singleton.mp hit]
      exact hreconnect
  refine ⟨fun _ => ⟨h.open_, fun last hlast hfailed => ?_⟩, ?_⟩
  · exact nomatch (h.reconnected last (List.mem_of_getLast? hlast)).symm.trans hfailed
  · obtain ⟨error, herror⟩ := work_connected thread t.1 i.1 h.open_
    by_cases hrun : t.2.running = true
    · have hpost : (threadStep thread t i).2.2 = afterIteration thread.queries error t.2 i.2 := by
        unfold threadStep
        simp only [hrun, if_true, herror]
      have hopens : error ≠ .noError → (error = .errorSQLReconnect ∨ (t.2.conn.isSome = true ∧ i.2.lost = true)) →
          i.2.reconnect.isSome = true ∧ ∀ r, i.2.prepared r = true := by
        intro hno hask
        refine hC ?_
        unfold Iteration.reconnects threadStep
        simpa [hrun, herror, hno] using hask
      obtain ⟨hopen, hcounter⟩ := afterIteration_connected thread.queries h.open_ hrun hopens
      have hfailed : (threadStep thread t i).1.failed = !(threadHandleError error t.2 i.2).1 := by
        unfold Iteration.failed threadStep
        simp [hrun, herror]
      rw [← hpost] at hopen hcounter
      have hstreak := failuresInARow_append its (threadStep thread t i).1
      rw [hfailed] at hstreak
      cases hhandled : (threadHandleError error t.2 i.2).1 with
      | true =>
        rw [hhandled] at hcounter hstreak
        exact ⟨hopen, fun _ => hcounter.1.trans hstreak.symm, fun _ => hcounter.2, hall⟩
      | false =>
        rw [hhandled] at hcounter hstreak
        have hcounted : failuresInARow (its ++ [(threadStep thread t i).1]) = t.2.errorCounter + 1 := by
          rw [hstreak, h.counted hrun]
          rfl
        refine ⟨hopen, fun _ => hcounter.1.trans hcounted.symm, fun hshort => ?_, hall⟩
        have := hshort _ (List.prefix_refl _)
        rw [hcounted] at this
        rw [hcounter.2]
        exact decide_eq_true (by omega)
    · have hpost : (threadStep thread t i).2 = t := by
        unfold threadStep
        simp [hrun]
      rw [hpost]
      exact ⟨h.open_, fun hr => absurd hr hrun, fun hshort => h.alive hshort.before, hall⟩

theorem connected_startLink (s : thread.State) (address : Nat) (prepared : thread.Query → Bool) :
    Connected [] (s, startLink address prepared) :=
  ⟨rfl, fun _ => rfl, fun _ => rfl, by simp⟩

end

/-- Of each of the four threads: in a run whose reconnects open a connection every walk starts with one, and the
    thread survives every outage in which fewer than `BXILL_THREAD_EXIT_MAX_COUNT` iterations fail in a row. -/
theorem outage_recovery (thread : DataThread) (s : thread.State) (address : Nat) (prepared : thread.Query → Bool)
    (inputs : List (thread.Input × LinkAnswers thread.Query))
    (hC : ∀ it ∈ outputs (threadStep thread) (s, startLink address prepared) inputs, OutageCondition it) :
    (∀ before it after, outputs (threadStep thread) (s, startLink address prepared) inputs = before ++ it :: after →
      RecoversAt before it) ∧
    (ShortOutages (outputs (threadStep thread) (s, startLink address prepared) inputs) →
      (final (threadStep thread) (s, startLink address prepared) inputs).2.running = true) := by
  have h0 := connected_startLink s address prepared
  constructor
  · intro before it after heq
    exact run_safe (threadStep thread) h0 (fun its t i (h : Connected its t) => h.step i) hC heq
  · have hend := history_inv (threadStep thread) (I := Connected) (fun its t i h hcall => (h.step i hcall).2) inputs [] _ h0 hC
    exact hend.alive

/-- What the walks of `random_item_thread` come to when the connection is gone, and when it is not. -/
def goneAnswers : RandomItemAnswers := ⟨.errorSQLReconnect, .noError, [], []⟩
def quietAnswers : RandomItemAnswers := ⟨.noError, .noError, [], []⟩

/-- Two iterations of `random_item_thread`. The first loses the connection, and its reconnect meets the answer. -/
def lostConnection (reconnect : Option Nat) : List (RandomItemAnswers × LinkAnswers Empty) :=
  [(goneAnswers, ⟨true, reconnect, fun _ => true⟩), (quietAnswers, ⟨true, some 2, fun _ => true⟩)]

/-- The connection is lost and opened again. -/
theorem outage_recovery_reconnected :
    (∀ before it after, outputs (threadStep .randomItem) ((), startLink 1 fun _ => true) (lostConnection (some 2)) =
      before ++ it :: after → RecoversAt before it) ∧
    (ShortOutages (outputs (threadStep .randomItem) ((), startLink 1 fun _ => true) (lostConnection (some 2))) →
      (final (threadStep .randomItem) ((), startLink 1 fun _ => true) (lostConnection (some 2))).2.running = true) := by
  refine outage_recovery .randomItem () 1 (fun _ => true) (lostConnection (some 2)) fun it hit hasks => ?_
  simp only [lostConnection, outputs, List.mem_cons, List.not_mem_nil, or_false] at hit
  rcases hit with rfl | rfl <;> exact ⟨rfl, fun _ => rfl⟩

/-- The first reconnect fails. The walks of the next iteration are started without a connection, and its error
    handling asks for none. -/
theorem outage_recovery_lost :
    ¬∀ before it after, outputs (threadStep .randomItem) ((), startLink 1 fun _ => true) (lostConnection none) =
      before ++ it :: after → RecoversAt before it := by
  intro h
  have hwalk := h [_] _ [] rfl
  exact nomatch (hwalk rfl).1

end BxSync
