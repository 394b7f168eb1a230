import BxSync.Lib.Machine
import BxSync.OAuth

/-! Whether a refresh token is posted once. The server exchanges a refresh token for a new one and revokes the
    grant when it sees the old one again, so a process may only post what is committed. -/

namespace BxSync

open Critical Machine

/-! ### The property -/

section

variable {ι : Type}

/-- The refresh token a call posts. -/
def OAuthCall.refreshPosted (call : OAuthCall ι) : Option String :=
  match call.pre.procs call.pid, call.move with
  | .inr (oa, .posting false), .post _ _ => oa.refreshToken
  | _, _ => none

/-- A refresh token that is posted is the committed one, and the server has not exchanged it. -/
def PostedOnce (call : OAuthCall ι) : Prop :=
  ∀ token, call.refreshPosted = some token →
    call.pre.data.rows.refresh = some token ∧ token ∉ call.pre.data.exchanged

end

/-- The reply to an exchange reaches the process with a new refresh token, and is committed before the lock is
    released: the last attempt to write it does not fail, and the process does not end in between. -/
def Committed : (BXOAuth × OAuthOutside) ⊕ (BXOAuth × OAuthInside) → OAuthData → OAuthMove → Bool
  | .inr (oa, .posting login), data, .post (.exchanged reply) _ =>
    (reply.bind TokenReply.refresh).any fun refresh =>
      refresh ∉ if login then data.exchanged else oa.refreshToken.toList ++ data.exchanged
  | .inr (oa, .writing _ attempt), data, .write commit _ =>
    attempt + 1 < bxOauthWriteAttempts || (oauthWriteOnce oa data.rows commit).1
  | .inr (_, .writing _ _), _, .start _ _ => false
  | .inr (_, .writing _ _), _, .login _ _ => false
  | _, _, _ => true

/-! ### What one process keeps -/

/-- The server has not exchanged the committed refresh token. -/
def Unused (data : OAuthData) : Prop := ∀ token, data.rows.refresh = some token → token ∉ data.exchanged

/-- Outside the lock nothing is left to commit. -/
def Clean (p : BXOAuth × OAuthOutside) : Prop := p.1.tokensDirty = false

/-- With the lock, a process posts what it read from the table. A reply that is not committed is unused. -/
def HoldsLock (p : BXOAuth × OAuthInside) (data : OAuthData) : Prop :=
  p.1.tokensDirty = false ∧
    match p.2 with
    | .locked _ => Unused data
    | .posting login => Unused data ∧ (login = false → data.rows.refresh = p.1.refreshToken)
    | .writing _ _ => ∃ token, p.1.refreshToken = some token ∧ token ∉ data.exchanged
    | .unlocking _ _ => Unused data

theorem clean_outside {p p' : BXOAuth × OAuthOutside} {data : OAuthData} {move : OAuthMove} (h : Clean p)
    (hstep : oauthOutside p data move = .inl p') : Clean p' := by
  obtain ⟨oa, pc⟩ := p
  have hcases := oauthOutside_step oa pc data move
  rw [hstep] at hcases
  cases hcases with
  | start => rfl
  | login => rfl
  | reload loaded => exact (tokensDirty_bxOauthReload oa data.rows loaded).trans h
  | ensure => exact h
  | notLocked => exact h
  | unfit => exact h

theorem holdsLock_enter {p : BXOAuth × OAuthOutside} {k : BXOAuth × OAuthInside} {data : OAuthData} {move : OAuthMove}
    (h : Clean p) (hdata : Unused data) (hstep : oauthOutside p data move = .inr k) : HoldsLock k data := by
  obtain ⟨oa, pc⟩ := p
  have hcases := oauthOutside_step oa pc data move
  rw [hstep] at hcases
  cases hcases with
  | lock use => exact ⟨h, hdata⟩

theorem refreshToken_oauthReadTokens {oa : BXOAuth} {rows : Tokens} (h : tokenPresent (oauthReadTokens oa rows).refreshToken) :
    rows.refresh = (oauthReadTokens oa rows).refreshToken := by
  unfold oauthReadTokens tokenPresent at *
  dsimp only at h ⊢
  cases hrow : rows.refresh with
  | none => rfl
  | some token =>
    by_cases hempty : token = ""
    · simp [hrow, hempty] at h
    · simp [Option.filter, hempty]

/-- Tokens that are not dirty are read again before a refresh token is posted. -/
theorem holdsLock_ensureLocked {oa : BXOAuth} {data : OAuthData} (force : Bool) (rejected : Option String) (readable : Bool)
    (now : Int) (hclean : oa.tokensDirty = false) (h : Unused data) :
    HoldsLock (ensureLocked oa force rejected data.rows readable now) data := by
  unfold ensureLocked
  rw [hclean]
  simp only [Bool.false_and, Bool.false_eq_true, if_false]
  split
  · exact ⟨hclean, h⟩
  · split
    · exact ⟨hclean, h⟩
    · exact ⟨hclean, h⟩
    · rename_i hdecide
      exact ⟨hclean, h, fun _ => refreshToken_oauthReadTokens (tokenPresent_of_decide hdecide)⟩

/-- A POST leaves the committed token unused, or brings an unused one to commit. -/
theorem holdsLock_postToken {oa : BXOAuth} {login : Bool} {data : OAuthData} {posted : Posted} {now : Int}
    (h : HoldsLock (oa, .posting login) data) (hC : Committed (.inr (oa, .posting login)) data (.post posted now)) :
    HoldsLock (postToken oa login data posted now).1 (postToken oa login data posted now).2 := by
  obtain ⟨hclean, hunused, -⟩ := h
  have hclean : oa.tokensDirty = false := hclean
  cases posted with
  | failed => exact ⟨hclean, hunused⟩
  | error invalidGrant => exact ⟨by simp [postToken, hclean], hunused⟩
  | exchanged reply =>
    cases reply with
    | none => exact nomatch hC
    | some reply =>
      obtain ⟨access, refresh, expiresIn⟩ := reply
      cases refresh with
      | none => exact nomatch hC
      | some refresh => exact ⟨hclean, refresh, rfl, of_decide_eq_true hC⟩

/-- An attempt that fails leaves the reply to the next one, and the last one does not fail. -/
theorem holdsLock_writeAttempt {oa : BXOAuth} {use : WriteUse} {attempt : Nat} {data : OAuthData} {commit : Commit}
    {now : Int} (h : HoldsLock (oa, .writing use attempt) data)
    (hC : Committed (.inr (oa, .writing use attempt)) data (.write commit now)) :
    HoldsLock (writeAttempt oa use attempt data.rows commit now).1
      { data with rows := (writeAttempt oa use attempt data.rows commit now).2 } := by
  obtain ⟨hclean, token, htoken, hunused⟩ := h
  have hclean : oa.tokensDirty = false := hclean
  have htoken : oa.refreshToken = some token := htoken
  unfold writeAttempt
  dsimp only
  split
  · rename_i hsaved
    refine ⟨rfl, fun token' htoken' => ?_⟩
    have hrow : (oauthWriteOnce oa data.rows commit).2.2.refresh = some token' := htoken'
    rw [oauthWriteOnce_saved hsaved] at hrow
    obtain rfl := Option.some.inj (htoken.symm.trans hrow)
    exact hunused
  · split
    · refine ⟨?_, token, ?_, hunused⟩
      · rw [oauthWriteOnce_memory]
        exact hclean
      · rw [oauthWriteOnce_memory]
        exact htoken
    · rename_i hfailed hlast
      rcases Bool.or_eq_true_iff.mp hC with hC | hC
      · exact absurd (of_decide_eq_true hC) hlast
      · exact absurd hC hfailed

theorem holdsLock_inside {k k' : BXOAuth × OAuthInside} {data data' : OAuthData} {move : OAuthMove}
    (hC : Committed (.inr k) data move) (h : HoldsLock k data) (hstep : oauthInside k data move = (.inr k', data')) :
    HoldsLock k' data' := by
  obtain ⟨oa, pc⟩ := k
  have hcases := oauthInside_step oa pc data move
  rw [hstep] at hcases
  cases hcases with
  | ensure force rejected readable now => exact holdsLock_ensureLocked force rejected readable now h.1 h.2
  | code => exact ⟨h.1, h.2, nofun⟩
  | post => exact holdsLock_postToken h hC
  | write => exact holdsLock_writeAttempt h hC
  | unfit => exact h

theorem unused_leave {k : BXOAuth × OAuthInside} {o : BXOAuth × OAuthOutside} {data data' : OAuthData} {move : OAuthMove}
    (hC : Committed (.inr k) data move) (h : HoldsLock k data) (hstep : oauthInside k data move = (.inl o, data')) :
    Clean o ∧ Unused data' := by
  obtain ⟨oa, pc⟩ := k
  -- A process only ends where nothing is left to commit.
  have hends : (∀ use attempt, pc ≠ .writing use attempt) → Unused data := by
    intro hpc
    cases pc with
    | locked use => exact h.2
    | posting login => exact h.2.1
    | writing use attempt => exact absurd rfl (hpc use attempt)
    | unlocking login ok => exact h.2
  have hcases := oauthInside_step oa pc data move
  rw [hstep] at hcases
  cases hcases with
  | start =>
    refine ⟨rfl, hends ?_⟩
    rintro use attempt rfl
    exact nomatch hC
  | login =>
    refine ⟨rfl, hends ?_⟩
    rintro use attempt rfl
    exact nomatch hC
  | unlock =>
    have hclean : oa.tokensDirty = false := h.1
    exact ⟨by simp [Clean, hclean], h.2⟩

theorem sound_oauthProgram : Sound oauthProgram Unused Clean HoldsLock fun p data move => Committed p data move where
  outside _ _ _ _ _ := clean_outside
  denied _ _ _ h := h
  enter _ _ _ _ _ := holdsLock_enter
  inside _ _ _ _ _ := holdsLock_inside
  leave _ _ _ _ _ := unused_leave

/-! ### Runs -/

section

variable {ι : Type} [DecidableEq ι]

/-- A process that posts a refresh token holds the lock before the POST. -/
theorem postedOnce_of_protected {s : OAuthState ι} (h : Protected Unused Clean HoldsLock s) (input : ι × OAuthMove) :
    PostedOnce (oauthStep s input).1 := by
  intro token hposted
  have hproc := h.procs input.1
  unfold OAuthCall.refreshPosted oauthStep at hposted
  dsimp only at hposted
  split at hposted
  · rename_i hpid _
    rw [hpid] at hproc
    obtain ⟨-, -, hunused, hrow⟩ := hproc
    have hrow : s.data.rows.refresh = some token := (hrow rfl).trans hposted
    exact ⟨hrow, hunused token hrow⟩
  · exact nomatch hposted

/-- For any processes and any interleaving: every refresh token that is posted is the committed one, and was not
    exchanged before. Every reply is committed before its process releases the lock. -/
theorem refreshToken_postedOnce (data : OAuthData) (conf : ι → Tokens) (inputs : List (ι × OAuthMove)) (hdata : Unused data)
    (hC : ∀ call ∈ outputs oauthStep (oauthInit data conf) inputs,
      Committed (call.pre.procs call.pid) call.pre.data call.move) :
    ∀ call ∈ outputs oauthStep (oauthInit data conf) inputs, PostedOnce call := by
  have h0 : Protected Unused Clean HoldsLock (oauthInit data conf) :=
    ⟨fun _ => hdata, fun i => tokensDirty_bxOauthStarted (conf i) data.rows true⟩
  refine run_all oauthStep h0 ?_ hC
  exact fun s input h hcall => ⟨postedOnce_of_protected h input, h.step sound_oauthProgram input.1 input.2 hcall⟩

end

/-! ### A run

    Two processes have the first tokens. One refreshes them, and the other finds its access token expired later. -/

def firstTokens : Tokens where
  access := some "access 0"
  refresh := some "refresh 0"
  expiresAt := some 900

def firstGrant : OAuthData where
  rows := firstTokens
  exchanged := []
  issued := []

/-- A refresh that finds the access token expired, and is answered. -/
def refreshes (i : Bool) (now : Int) (access refresh : String) : List (Bool × OAuthMove) :=
  [.ensure false now, .lock true, .decide true now, .post (.exchanged (some ⟨access, some refresh, 3600⟩)) now,
    .write .committed now, .unlock].map (i, ·)

def twoRefreshes : List (Bool × OAuthMove) :=
  refreshes false 1000 "access 1" "refresh 1" ++ refreshes true 9000 "access 2" "refresh 2"

/-- The second process has the first refresh token in memory, and posts the second. -/
theorem refreshToken_postedOnce_twoProcesses :
    (outputs oauthStep (oauthInit firstGrant fun _ => firstTokens) twoRefreshes).filterMap OAuthCall.refreshPosted =
        ["refresh 0", "refresh 1"] ∧
      ∀ call ∈ outputs oauthStep (oauthInit firstGrant fun _ => firstTokens) twoRefreshes, PostedOnce call :=
  ⟨by decide, refreshToken_postedOnce firstGrant _ twoRefreshes (by simp [Unused, firstGrant]) (by decide)⟩

end BxSync
