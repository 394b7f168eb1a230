import Mathlib.Data.List.Perm.Basic
import BxSync.LogQueue

/-! A round writes the stack from its bottom, in the order in which the messages were queued. The final drain writes it
    from its head, so what is queued after the last round comes out the other way round. -/

namespace BxSync

/-- The messages that calls have put on the stack. -/
def queuedTexts (actions : List LogAction) : List (List UInt8) :=
  actions.filterMap fun action =>
    match action with
    | .queue call => if call.allocates && call.locks then some (logText call) else none
    | _ => none

theorem reverseLoop_eq (current reversed : List (List UInt8)) :
    reverseLoop current reversed = current.reverse ++ reversed := by
  induction current generalizing reversed with
  | nil => rfl
  | cons message next ih => rw [reverseLoop, ih, List.reverse_cons, List.append_assoc, List.singleton_append]

/-- Until the final drain, what is written and what is on the stack are the messages in the order of their calls. -/
structure InOrder (fp : Bool) (queued : List (List UInt8)) (s : LogState) : Prop where
  file : s.fp = fp
  order : s.place ≠ .ended → fp = true → s.out ++ s.head.reverse = queued

theorem inOrder_step {fp : Bool} {queued : List (List UInt8)} {s t : LogState} (h : InOrder fp queued s) {action : LogAction}
    (hstep : logStep s action = some t) : InOrder fp (queued ++ queuedTexts [action]) t := by
  obtain ⟨hfile, horder⟩ := h
  cases action with
  | queue call =>
    obtain rfl := Option.some.inj hstep
    by_cases hqueued : (call.allocates && call.locks) = true
    · have htexts : queuedTexts [.queue call] = [logText call] := by
        rw [queuedTexts, List.filterMap_cons]
        dsimp only
        rw [if_pos hqueued]
        rfl
      rw [htexts, if_pos hqueued]
      refine ⟨hfile, fun hplace hfp => ?_⟩
      show s.out ++ (logText call :: s.head).reverse = _
      rw [List.reverse_cons, ← List.append_assoc, horder hplace hfp]
    · have htexts : queuedTexts [.queue call] = [] := by
        rw [queuedTexts, List.filterMap_cons]
        dsimp only
        rw [if_neg hqueued]
        rfl
      rw [htexts, if_neg hqueued, List.append_nil]
      exact ⟨hfile, horder⟩
  | clear =>
    obtain rfl := Option.some.inj hstep
    exact ⟨hfile, fun hplace hfp => (horder hplace hfp).trans (List.append_nil _).symm⟩
  | thread =>
    have htexts : queued ++ queuedTexts [.thread] = queued := List.append_nil _
    rw [htexts]
    unfold logStep at hstep
    cases hplace : s.place with
    | test =>
      rw [hplace] at hstep
      obtain rfl := Option.some.inj hstep
      exact ⟨hfile, fun _ hfp => horder (by rw [hplace]; decide) hfp⟩
    | round =>
      rw [hplace] at hstep
      obtain rfl := Option.some.inj hstep
      refine ⟨hfile, fun _ hfp => ?_⟩
      have hopen : s.fp = true := hfile.trans hfp
      show (if s.fp = true then s.out ++ reverseLoop s.head [] else s.out) ++ [].reverse = _
      rw [if_pos hopen, reverseLoop_eq, List.append_nil, List.reverse_nil, List.append_nil]
      exact horder (by rw [hplace]; decide) hfp
    | final =>
      rw [hplace] at hstep
      by_cases hopen : s.fp = true
      · dsimp only at hstep
        rw [if_pos hopen] at hstep
        obtain rfl := Option.some.inj hstep
        exact ⟨hfile, fun hended => absurd rfl hended⟩
      · dsimp only at hstep
        rw [if_neg hopen] at hstep
        cases hstep
    | ended =>
      rw [hplace] at hstep
      obtain rfl := Option.some.inj hstep
      exact ⟨hfile, horder⟩

theorem inOrder_run {fp : Bool} (actions : List LogAction) {queued : List (List UInt8)} {s t : LogState}
    (h : InOrder fp queued s) (hrun : runLog s actions = some t) : InOrder fp (queued ++ queuedTexts actions) t := by
  induction actions generalizing queued s with
  | nil =>
    obtain rfl := Option.some.inj hrun
    rwa [queuedTexts, List.filterMap_nil, List.append_nil]
  | cons action actions ih =>
    rw [runLog, List.foldlM_cons] at hrun
    obtain ⟨next, hnext, hrest⟩ := Option.bind_eq_some_iff.mp hrun
    have hsplit : queued ++ queuedTexts (action :: actions) = queued ++ queuedTexts [action] ++ queuedTexts actions := by
      rw [List.append_assoc, queuedTexts, queuedTexts, queuedTexts, ← List.filterMap_append, List.singleton_append]
    rw [hsplit]
    exact ih (inOrder_step h hnext) hrest

/-- The final drain of a run. -/
theorem finalDrain {fp : Bool} {actions : List LogAction} {s : LogState} (hrun : runLog (logStart fp) actions = some s)
    (hfinal : s.place = .final) (hfp : s.fp = true) :
    s.out ++ s.head.reverse = queuedTexts actions ∧
      logStep s .thread = some { s with out := s.out ++ s.head ++ [logEnd], place := .ended } := by
  have hstart : InOrder fp [] (logStart fp) := ⟨rfl, fun _ _ => rfl⟩
  obtain ⟨hfile, horder⟩ := inOrder_run actions hstart hrun
  refine ⟨horder (by rw [hfinal]; decide) (hfile.symm.trans hfp), ?_⟩
  unfold logStep
  rw [hfinal]
  dsimp only
  rw [if_pos hfp]

/-- With the file open every message is written exactly once. -/
theorem finalDrain_perm {fp : Bool} {actions : List LogAction} {s : LogState}
    (hrun : runLog (logStart fp) actions = some s) (hfinal : s.place = .final) (hfp : s.fp = true) :
    ∃ t, logStep s .thread = some t ∧ t.out.Perm (queuedTexts actions ++ [logEnd]) := by
  obtain ⟨horder, hdrain⟩ := finalDrain hrun hfinal hfp
  refine ⟨_, hdrain, ?_⟩
  rw [← horder]
  exact ((List.reverse_perm s.head).symm.append_left s.out).append_right [logEnd]

/-- The messages queued before the final drain are written once each in the order of their calls, and nothing but the end
    behind them, exactly when the file is open and what was queued since the last round reads the same from both ends. -/
theorem logOrder_iff {fp : Bool} {actions : List LogAction} {s : LogState} (hrun : runLog (logStart fp) actions = some s)
    (hfinal : s.place = .final) :
    (∃ t, logStep s .thread = some t ∧ t.out = queuedTexts actions ++ [logEnd]) ↔ s.fp = true ∧ s.head.reverse = s.head := by
  constructor
  · rintro ⟨t, hstep, hout⟩
    by_cases hfp : s.fp = true
    · obtain ⟨horder, hdrain⟩ := finalDrain hrun hfinal hfp
      obtain rfl := Option.some.inj (hdrain.symm.trans hstep)
      refine ⟨hfp, ?_⟩
      rw [← horder] at hout
      exact (List.append_cancel_left (List.append_cancel_right hout)).symm
    · unfold logStep at hstep
      rw [hfinal] at hstep
      dsimp only at hstep
      rw [if_neg hfp] at hstep
      cases hstep
  · rintro ⟨hfp, hsame⟩
    obtain ⟨horder, hdrain⟩ := finalDrain hrun hfinal hfp
    refine ⟨_, hdrain, ?_⟩
    rw [← horder, hsame]

def infoCall (msg : String) : LogCall :=
  { msg := .ofString msg, err := none, file := .ofString "", line := 0, thid := 0, time := 1, allocates := true, locks := true }

/-- A message that a round takes. -/
theorem logOrder_round : ∃ s t,
    runLog (logStart true) [.queue (infoCall "a"), .queue (infoCall "b"), .thread, .thread, .clear, .thread] = some s ∧
      logStep s .thread = some t ∧ t.out = [asciiBytes "[1] a", asciiBytes "[1] b", logEnd] := by
  obtain ⟨s, hrun⟩ : ∃ s, runLog (logStart true)
      [.queue (infoCall "a"), .queue (infoCall "b"), .thread, .thread, .clear, .thread] = some s := ⟨_, rfl⟩
  have hstate : runLog (logStart true) [.queue (infoCall "a"), .queue (infoCall "b"), .thread, .thread, .clear, .thread] =
      some { fp := true, head := [], logthread := false, place := .final,
             out := [asciiBytes "[1] a", asciiBytes "[1] b"] } := by decide +kernel
  obtain rfl := Option.some.inj (hrun.symm.trans hstate)
  obtain ⟨t, hstep, hout⟩ := (logOrder_iff hrun rfl).mpr ⟨rfl, rfl⟩
  refine ⟨_, t, hrun, hstep, ?_⟩
  rw [hout]
  decide +kernel

/-- Two messages that the final drain takes. -/
theorem logOrder_final : ((runLog (logStart true)
    [.queue (infoCall "a"), .queue (infoCall "b"), .clear, .thread, .thread]).map LogState.out) =
      some [asciiBytes "[1] b", asciiBytes "[1] a", logEnd] := by decide +kernel

end BxSync
