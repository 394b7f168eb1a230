import BxSync.Lib.Machine
import BxSync.NetWorker

/-! Whether the standby that the sync threads see follows the server. A fetch that fails sets the flag of the worker
    only, and the worker takes that flag for both. -/

namespace BxSync

open Machine

/-! ### The property -/

/-- The status of the most recent response. -/
def lastResponse (calls : List StandbyCall) : Option Nat := (calls.filterMap StandbyCall.httpCode).getLast?

/-- After the call the sync threads are in standby exactly when the most recent response called for one. -/
def Follows (before : List StandbyCall) (call : StandbyCall) : Prop :=
  call.post.listStandby = (lastResponse (before ++ [call])).any needsStandby

/-- A response that calls for a standby does not come when the worker is in one that the sync threads are not in,
    which is after a fetch that failed out of no standby. -/
def Announced (call : StandbyCall) : Prop :=
  call.pre.standby = true → call.pre.listStandby = false → call.httpCode.any needsStandby = false

/-! ### Runs -/

/-- The flag of the sync threads follows the server, and is set together with the one of the worker. -/
structure InStep (before : List StandbyCall) (s : Standby) : Prop where
  follows : s.listStandby = (lastResponse before).any needsStandby
  both : s.listStandby = true → s.standby = true

theorem lastResponse_append (before : List StandbyCall) (call : StandbyCall) :
    lastResponse (before ++ [call]) = call.httpCode.or (lastResponse before) := by
  unfold lastResponse
  rw [List.filterMap_append]
  cases h : call.httpCode with
  | none => simp [h]
  | some httpCode => simp [h]

/-- One fetch, by the flag of the worker and by what the response calls for. -/
theorem InStep.step {before : List StandbyCall} {s : Standby} (h : InStep before s) (httpCode : Option Nat)
    (hC : Announced (standbyStep s httpCode).1) :
    Follows before (standbyStep s httpCode).1 ∧ InStep (before ++ [(standbyStep s httpCode).1]) (standbyStep s httpCode).2 := by
  obtain ⟨standby, listStandby⟩ := s
  obtain ⟨hfollows, hboth⟩ := h
  suffices hnext : (standbyFetched ⟨standby, listStandby⟩ httpCode).listStandby =
        (httpCode.or (lastResponse before)).any needsStandby ∧
      ((standbyFetched ⟨standby, listStandby⟩ httpCode).listStandby = true →
        (standbyFetched ⟨standby, listStandby⟩ httpCode).standby = true) by
    have hfollows' : Follows before (standbyStep ⟨standby, listStandby⟩ httpCode).1 := by
      unfold Follows
      rw [lastResponse_append]
      exact hnext.1
    exact ⟨hfollows', hfollows', hnext.2⟩
  unfold standbyFetched
  cases httpCode with
  | none => exact ⟨hfollows, fun _ => rfl⟩
  | some httpCode =>
    rw [Option.some_or, Option.any_some]
    dsimp only
    cases hneeds : needsStandby httpCode with
    | true =>
      cases standby with
      | false => exact ⟨rfl, fun _ => rfl⟩
      | true =>
        cases listStandby with
        | true => exact ⟨rfl, fun _ => rfl⟩
        | false =>
          -- The response would not be announced.
          exact nomatch hneeds.symm.trans (hC rfl rfl)
    | false =>
      cases standby with
      | true => exact ⟨rfl, nofun⟩
      | false =>
        cases listStandby with
        | true => exact nomatch hboth rfl
        | false => exact ⟨rfl, nofun⟩

/-- A response that is not announced leaves the sync threads out of standby. -/
theorem announced_of_follows {before : List StandbyCall} {s : Standby} {httpCode : Option Nat}
    (h : Follows before (standbyStep s httpCode).1) : Announced (standbyStep s httpCode).1 := by
  obtain ⟨standby, listStandby⟩ := s
  rintro (rfl : standby = true) (rfl : listStandby = false)
  cases httpCode with
  | none => rfl
  | some httpCode =>
    rw [← Bool.not_eq_true]
    intro hneeds
    have hneeds : needsStandby httpCode = true := hneeds
    unfold Follows at h
    rw [lastResponse_append] at h
    simp [standbyStep, standbyFetched, hneeds] at h

/-- In every run: the sync threads follow the server in every state if and only if every response that calls for a
    standby is announced to them. -/
theorem standby_follows_iff (fetches : List (Option Nat)) :
    (∀ before call after, outputs standbyStep .init fetches = before ++ call :: after → Follows before call) ↔
      ∀ call ∈ outputs standbyStep .init fetches, Announced call := by
  constructor
  · intro h call hcall
    have hstep : ∀ call ∈ outputs standbyStep .init fetches, call = (standbyStep call.pre call.httpCode).1 :=
      run_all standbyStep (I := fun _ => True) (C := fun _ => True) trivial (fun _ _ _ _ => ⟨rfl, trivial⟩) fun _ _ => trivial
    obtain ⟨before, after, heq⟩ := List.append_of_mem hcall
    have hfollows := h before call after heq
    rw [hstep call hcall] at hfollows ⊢
    exact announced_of_follows hfollows
  · intro hC before call after heq
    have h0 : InStep [] .init := ⟨rfl, nofun⟩
    exact run_safe standbyStep h0 (fun before s httpCode h hcall => h.step httpCode hcall) hC heq

/-- The network fails, and then the server answers with 503. -/
theorem standby_unannounced : ¬∀ before call after, outputs standbyStep .init [none, some 503] = before ++ call :: after →
    Follows before call := by
  intro h
  exact absurd (h [_] _ [] rfl) (by unfold Follows; decide)

end BxSync
