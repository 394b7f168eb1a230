import Mathlib.Logic.Relation
import BxSync.Lib.Machine
import BxSync.Theorems.EnsureResult

/-! A whole call on the tokens is a run of the process among the others: the steps it takes with the lock come to
    the same tokens, rows and result. -/

namespace BxSync

open Machine Relation OAuthContext

/-! ### Steps with the lock -/

/-- A step of the process that has the lock, which keeps the lock. -/
def InsideMove (p q : (BXOAuth × OAuthInside) × OAuthData) : Prop := ∃ move, oauthInside p.1 p.2 move = (.inr q.1, q.2)

/-- What is returned after a POST of a refresh token, or of a code. -/
def postReturned (a : OAuthAnswers) (login : Bool) (posted : PostResult × OAuthContext) : Bool :=
  posted.1 = .ok || (!login && posted.1 = .unsaved && accessUsable posted.2.oa.accessToken posted.2.oa.expiresAt a.returned)

theorem postReturned_failed (a : OAuthAnswers) (login : Bool) (c : OAuthContext) : postReturned a login (.failed, c) = false := by
  simp [postReturned]

theorem postReturned_written (a : OAuthAnswers) (login : Bool) (written : Bool × OAuthContext) :
    postReturned a login (if written.1 then .ok else .unsaved, written.2) =
      writeReturned written.2.oa (if login then .login else .refreshed) written.1 a.returned := by
  obtain ⟨saved, c⟩ := written
  cases login <;> cases saved <;> simp [postReturned, writeReturned]

@[simp] theorem writeReturned_saved (oa : BXOAuth) (use : WriteUse) (now : Int) : writeReturned oa use true now = true := by
  cases use <;> rfl

theorem oauthWriteOnce_unsaved {oa : BXOAuth} {rows : Tokens} {commit : Commit} (h : (oauthWriteOnce oa rows commit).1 = false) :
    (oauthWriteOnce oa rows commit).2.1 = oa := by
  rcases oauthWriteOnce_cases oa rows commit with ⟨-, heq⟩ | ⟨-, -, heq⟩ | ⟨-, -, heq⟩
  · rw [heq]
  · rw [heq]
  · rw [heq] at h
    exact nomatch h

section

variable {c : OAuthContext} {data : OAuthData}

/-- The attempts to write that are left. -/
theorem oauthWriteAttempts_moves (commits : Nat → Commit) (use : WriteUse) (now : Int) {left attempt : Nat}
    (hattempt : attempt + (left + 1) = bxOauthWriteAttempts) (h : c.Locked) (hrows : data.rows = c.rows)
    {written : Bool × OAuthContext} (hwritten : oauthWriteAttempts commits (left + 1) c = some written) :
    ReflTransGen InsideMove ((c.oa, .writing use attempt), data)
      ((written.2.oa, .unlocking (use = .login) (writeReturned written.2.oa use written.1 now)),
        { data with rows := written.2.rows }) := by
  induction left generalizing c attempt data with
  | zero =>
    obtain ⟨log, honce, -⟩ := oauthWriteOnce_locked h (commits (bxOauthWriteAttempts - (0 + 1)))
    refine .single ⟨.write (commits (bxOauthWriteAttempts - (0 + 1))) now, ?_⟩
    unfold oauthWriteAttempts at hwritten
    rw [honce, Option.bind_eq_bind, Option.bind_some] at hwritten
    unfold oauthInside writeAttempt
    dsimp only at hwritten ⊢
    rw [hrows]
    split at hwritten
    · rename_i hsaved
      obtain rfl := Option.some.inj hwritten
      rw [if_pos hsaved, writeReturned_saved, writeReturned_saved]
    · rename_i hsaved
      obtain rfl := Option.some.inj hwritten
      rw [if_neg hsaved, if_neg (by omega), oauthWriteOnce_unsaved (Bool.eq_false_iff.mpr hsaved)]
      rfl
  | succ left ih =>
    obtain ⟨log, honce, -⟩ := oauthWriteOnce_locked h (commits (bxOauthWriteAttempts - (left + 1 + 1)))
    unfold oauthWriteAttempts at hwritten
    rw [honce, Option.bind_eq_bind, Option.bind_some] at hwritten
    dsimp only at hwritten
    split at hwritten
    · rename_i hsaved
      obtain rfl := Option.some.inj hwritten
      refine .single ⟨.write (commits (bxOauthWriteAttempts - (left + 1 + 1))) now, ?_⟩
      unfold oauthInside writeAttempt
      dsimp only
      rw [hrows, if_pos hsaved, writeReturned_saved, writeReturned_saved]
    · rename_i hsaved
      have hkept := oauthWriteOnce_unsaved (Bool.eq_false_iff.mpr hsaved)
      rw [hkept] at hwritten
      generalize hrest : (oauthWriteOnce c.oa c.rows (commits (bxOauthWriteAttempts - (left + 1 + 1)))).2.2 = rows at hwritten
      have hlocked : Locked { c with rows, log } := h
      have hnext : attempt + 1 + (left + 1) = bxOauthWriteAttempts := by omega
      have hmoves := ih hnext hlocked (show ({ data with rows } : OAuthData).rows = rows from rfl) hwritten
      refine .head ⟨.write (commits (bxOauthWriteAttempts - (left + 1 + 1))) now, ?_⟩ hmoves
      unfold oauthInside writeAttempt
      dsimp only
      rw [hrows, if_neg hsaved, if_pos (by omega), hkept, hrest]

theorem rows_postToken (oa : BXOAuth) (login : Bool) (data : OAuthData) (posted : Posted) (now : Int) :
    (postToken oa login data posted now).2.rows = data.rows := by
  unfold postToken
  split
  · rfl
  · rfl
  · dsimp only
    split
    · rfl
    · split <;> rfl

/-- The POST and the writing of its reply. -/
theorem postTokenCall_moves (a : OAuthAnswers) (login : Bool) (h : c.Locked) (hrows : data.rows = c.rows)
    {posted : PostResult × OAuthContext} (hposted : postTokenCall a (!login) c = some posted) :
    ∃ data', ReflTransGen InsideMove ((c.oa, .posting login), data)
      ((posted.2.oa, .unlocking login (postReturned a login posted)), data') ∧ data'.rows = posted.2.rows := by
  have hmove : InsideMove ((c.oa, .posting login), data) (postToken c.oa login data a.posted a.replied) :=
    ⟨.post a.posted a.replied, rfl⟩
  have hkept := (rows_postToken c.oa login data a.posted a.replied).trans hrows
  unfold postTokenCall at hposted
  unfold postToken at hmove hkept
  cases heq : a.posted with
  | failed =>
    rw [heq] at hposted hmove hkept
    obtain rfl := Option.some.inj hposted
    rw [postReturned_failed]
    exact ⟨_, .single hmove, hkept⟩
  | error invalidGrant =>
    rw [heq] at hposted hmove hkept
    obtain rfl := Option.some.inj hposted
    rw [postReturned_failed]
    exact ⟨_, .single hmove, hkept⟩
  | exchanged reply =>
    rw [heq] at hposted hmove hkept
    dsimp only at hposted hmove hkept
    cases reply with
    | none =>
      obtain rfl := Option.some.inj hposted
      rw [postReturned_failed]
      exact ⟨_, .single hmove, hkept⟩
    | some reply =>
      dsimp only at hposted hmove hkept
      split at hposted
      · rename_i hnone
        rw [if_pos hnone] at hmove hkept
        obtain rfl := Option.some.inj hposted
        rw [postReturned_failed]
        exact ⟨_, .single hmove, hkept⟩
      · rename_i hsome
        rw [if_neg hsome] at hmove hkept
        have hlocked : Locked { c with oa := keepReply c.oa reply a.replied } := h
        obtain ⟨written, hwritten, -⟩ := oauthWriteAttempts_spec a.commits bxOauthWriteAttempts hlocked
        unfold oauthWriteTokens at hposted
        rw [hwritten] at hposted
        obtain rfl := Option.some.inj hposted
        have hwrites := oauthWriteAttempts_moves a.commits (if login then .login else .refreshed) a.returned (Nat.zero_add _) hlocked
          hkept hwritten
        rw [postReturned_written]
        cases login with
        | false => exact ⟨_, .head hmove hwrites, rfl⟩
        | true => exact ⟨_, .head hmove hwrites, rfl⟩

theorem refreshTokens_present (a : OAuthAnswers) (hrefresh : tokenPresent c.oa.refreshToken = true) :
    refreshTokens a c = postTokenCall a true c := by
  unfold refreshTokens
  cases htoken : c.oa.refreshToken with
  | none => exact nomatch htoken ▸ hrefresh
  | some token => rfl

/-- `bx_oauth_ensure` from `oauth_lock` to `oauth_unlock`. -/
theorem ensureWithLock_moves (a : OAuthAnswers) (force : Bool) (rejected : Option String) (h : c.Locked)
    (hrows : data.rows = c.rows) {r : Bool × OAuthContext} (hr : ensureWithLock a force rejected c = some r) :
    ∃ data', ReflTransGen InsideMove ((c.oa, .locked (.ensure force rejected)), data) ((r.2.oa, .unlocking false r.1), data') ∧
      data'.rows = r.2.rows := by
  have hmove : InsideMove ((c.oa, .locked (.ensure force rejected)), data)
      (ensureLocked c.oa force rejected data.rows a.readable a.locked, data) := ⟨.decide a.readable a.locked, rfl⟩
  obtain ⟨log, hwithin, hend⟩ := ensureWithLock_cases a force rejected h
  rw [hr] at hend
  rw [hrows] at hmove
  generalize ensureLocked c.oa force rejected c.rows a.readable a.locked = decided at hmove hwithin hend
  obtain ⟨oa, pc⟩ := decided
  dsimp only at hwithin hend
  generalize hresult : some r = called at hend
  cases hend with
  | kept =>
    obtain ⟨written, hwritten, -⟩ := oauthWriteAttempts_spec a.commits bxOauthWriteAttempts hwithin.locked
    unfold oauthWriteTokens at hresult
    rw [hwritten] at hresult
    obtain rfl := Option.some.inj hresult
    have hwrites := oauthWriteAttempts_moves a.commits .kept a.locked (Nat.zero_add _) hwithin.locked hrows hwritten
    rw [oauthUnlock_oa, oauthUnlock_rows]
    exact ⟨_, .head hmove hwrites, rfl⟩
  | returned ok =>
    obtain rfl := Option.some.inj hresult
    rw [oauthUnlock_oa, oauthUnlock_rows]
    exact ⟨_, .single hmove, hrows⟩
  | posts hrefresh =>
    rw [refreshTokens_present a hrefresh] at hresult
    obtain ⟨posted, hposted, hposts⟩ := Option.bind_eq_some_iff.mp hresult.symm
    obtain rfl := Option.some.inj hposts
    obtain ⟨data', hmoves, hkept⟩ := postTokenCall_moves a false hwithin.locked hrows hposted
    have hreturned : (ensurePosted a posted).1 = postReturned a false posted := by simp [ensurePosted, postReturned]
    have hoa : (ensurePosted a posted).2.oa = posted.2.oa := oauthUnlock_oa posted.2
    have hkept' : (ensurePosted a posted).2.rows = posted.2.rows := oauthUnlock_rows posted.2
    rw [hreturned, hoa, hkept']
    exact ⟨data', .head hmove hmoves, hkept⟩

/-- `exchange_code` from `oauth_lock` to `oauth_unlock`. -/
theorem exchangeCode_moves (a : OAuthAnswers) (h : c.Locked) (hrows : data.rows = c.rows) {posted : PostResult × OAuthContext}
    (hposted : postTokenCall a false c = some posted) :
    ∃ data', ReflTransGen InsideMove ((c.oa, .locked .login), data)
      ((posted.2.oa, .unlocking true (posted.1 = .ok)), data') ∧ data'.rows = posted.2.rows := by
  obtain ⟨data', hmoves, hkept⟩ := postTokenCall_moves a true h hrows hposted
  have hreturned : postReturned a true posted = decide (posted.1 = .ok) := by simp [postReturned]
  rw [hreturned] at hmoves
  exact ⟨data', .head ⟨.decide a.readable a.locked, rfl⟩ hmoves, hkept⟩

end

/-! ### Among other processes -/

section

variable {ι : Type} [DecidableEq ι] {i : ι}

/-- Steps of one process only. -/
def OwnRun (i : ι) (s s' : OAuthState ι) : Prop := ∃ moves : List OAuthMove, final oauthStep s (moves.map (i, ·)) = s'

theorem OwnRun.trans {s s' s'' : OAuthState ι} (h : OwnRun i s s') (h' : OwnRun i s' s'') : OwnRun i s s'' := by
  obtain ⟨moves, rfl⟩ := h
  obtain ⟨moves', rfl⟩ := h'
  exact ⟨moves ++ moves', by rw [List.map_append, final_append]⟩

theorem ownRun_step (s : OAuthState ι) (move : OAuthMove) : OwnRun i s (oauthProgram.step s i move) := ⟨[move], rfl⟩

/-- A state in which the process has the lock, at a place of its call. -/
def OAuthState.inside (s : OAuthState ι) (i : ι) (p : (BXOAuth × OAuthInside) × OAuthData) : OAuthState ι where
  lock := some i
  data := p.2
  procs := Function.update s.procs i (.inr p.1)

def OAuthState.outside (s : OAuthState ι) (i : ι) (p : BXOAuth × OAuthOutside) (data : OAuthData) : OAuthState ι where
  lock := none
  data := data
  procs := Function.update s.procs i (.inl p)

section

variable {s : OAuthState ι} {o o' : BXOAuth × OAuthOutside} {data : OAuthData}

@[simp] theorem inside_outside (p : (BXOAuth × OAuthInside) × OAuthData) : (s.outside i o data).inside i p = s.inside i p := by
  simp [OAuthState.outside, OAuthState.inside]

@[simp] theorem outside_outside (data' : OAuthData) : (s.outside i o data).outside i o' data' = s.outside i o' data' := by
  simp [OAuthState.outside]

theorem step_outside (move : OAuthMove) (hfree : s.lock = none) (hproc : s.procs i = .inl o) (hout : oauthOutside o s.data move = .inl o') :
    oauthProgram.step s i move = s.outside i o' s.data := by
  unfold Critical.Program.step
  simp [hproc, oauthProgram, hout, OAuthState.outside, hfree]

theorem step_enter (move : OAuthMove) {k : BXOAuth × OAuthInside} (hfree : s.lock = none) (hproc : s.procs i = .inl o)
    (hin : oauthOutside o s.data move = .inr k) : oauthProgram.step s i move = s.inside i (k, s.data) := by
  unfold Critical.Program.step
  simp [hproc, oauthProgram, hin, OAuthState.inside, hfree]

theorem step_leave (move : OAuthMove) {p : (BXOAuth × OAuthInside) × OAuthData} (hout : oauthInside p.1 p.2 move = (.inl o, data)) :
    oauthProgram.step (s.inside i p) i move = s.outside i o data := by
  unfold Critical.Program.step OAuthState.inside
  simp [oauthProgram, hout, OAuthState.outside]

end

theorem ownRun_inside (s : OAuthState ι) {p q : (BXOAuth × OAuthInside) × OAuthData} (h : ReflTransGen InsideMove p q) :
    OwnRun i (s.inside i p) (s.inside i q) := by
  induction h with
  | refl => exact ⟨[], rfl⟩
  | tail hmoves hmove ih =>
    obtain ⟨move, hmove⟩ := hmove
    refine ih.trans ⟨[move], ?_⟩
    show oauthProgram.step _ i move = _
    unfold Critical.Program.step OAuthState.inside
    simp [oauthProgram, hmove]

variable {s : OAuthState ι} {c : OAuthContext}

/-- What a whole call of `bx_oauth_ensure` comes to is what the process comes to by its own steps. -/
theorem bxOauthEnsure_ownRun (a : OAuthAnswers) (force : Bool) (hfree : s.lock = none) (hproc : s.procs i = .inl (c.oa, .idle))
    (hrows : s.data.rows = c.rows) {r : Bool × OAuthContext} (hr : bxOauthEnsure a force c = some r) :
    ∃ data', OwnRun i s (s.outside i (r.2.oa, .idle) data') ∧ data'.rows = r.2.rows := by
  have hensure : OwnRun i s (s.outside i (c.oa, ensureUnlocked c.oa force a.started) s.data) := by
    rw [← step_outside (.ensure force a.started) hfree hproc rfl]
    exact ownRun_step s _
  unfold ensureUnlocked at hensure
  unfold bxOauthEnsure at hr
  by_cases hfast : (!c.oa.tokensDirty && !force && accessUsable c.oa.accessToken c.oa.expiresAt a.started) = true
  · rw [if_pos hfast] at hr hensure
    obtain rfl := Option.some.inj hr
    exact ⟨_, hensure, hrows⟩
  rw [if_neg hfast] at hr hensure
  obtain ⟨hoa, hkept⟩ := oauthLock_frame a.lock c
  dsimp only at hr
  cases hgot : (oauthLock a.lock c).1 with
  | false =>
    rw [hgot] at hr
    obtain rfl := Option.some.inj hr
    refine ⟨s.data, hensure.trans ?_, hrows.trans hkept.symm⟩
    have hstep := ownRun_step (i := i) (s.outside i (c.oa, .locking (.ensure force (c.oa.accessToken.filter (· ≠ "")))) s.data)
      (.lock false)
    rw [step_outside (.lock false) rfl (Function.update_self ..) rfl, outside_outside] at hstep
    rw [hoa]
    exact hstep
  | true =>
    rw [hgot] at hr
    have hlocked : (oauthLock a.lock c).2.Locked := (oauthLock_spec a.lock c).2.1 hgot
    obtain ⟨data', hmoves, hleft⟩ := ensureWithLock_moves a force _ hlocked (hrows.trans hkept.symm) hr
    rw [hoa] at hmoves
    have hstep := ownRun_step (i := i) (s.outside i (c.oa, .locking (.ensure force (c.oa.accessToken.filter (· ≠ "")))) s.data)
      (.lock true)
    rw [step_enter (.lock true) rfl (Function.update_self ..) rfl, inside_outside] at hstep
    have hunlock : oauthInside (r.2.oa, .unlocking false r.1) data' .unlock = (.inl (r.2.oa, .idle), data') := by
      simp [oauthInside]
    have hleave := ownRun_step (i := i) (s.inside i ((r.2.oa, .unlocking false r.1), data')) .unlock
    rw [step_leave .unlock hunlock] at hleave
    exact ⟨data', ((hensure.trans hstep).trans (ownRun_inside s hmoves)).trans hleave, hleft⟩

/-- The same of `exchange_code`. -/
theorem exchangeCode_ownRun (a : OAuthAnswers) (hfree : s.lock = none) (hproc : s.procs i = .inl (c.oa, .locking .login))
    (hrows : s.data.rows = c.rows) {r : Bool × OAuthContext} (hr : exchangeCode a c = some r) :
    ∃ data', OwnRun i s (s.outside i (r.2.oa, .idle) data') ∧ data'.rows = r.2.rows := by
  unfold exchangeCode at hr
  obtain ⟨hoa, hkept⟩ := oauthLock_frame a.lock c
  dsimp only at hr
  cases hgot : (oauthLock a.lock c).1 with
  | false =>
    rw [hgot] at hr
    obtain rfl := Option.some.inj hr
    have hstep := ownRun_step (i := i) s (.lock false)
    rw [step_outside (.lock false) hfree hproc rfl] at hstep
    exact ⟨s.data, hoa ▸ hstep, hrows.trans hkept.symm⟩
  | true =>
    rw [hgot] at hr
    have hlocked : (oauthLock a.lock c).2.Locked := (oauthLock_spec a.lock c).2.1 hgot
    obtain ⟨posted, hposted, rfl⟩ := Option.map_eq_some_iff.mp (Option.map_eq_bind.trans hr)
    obtain ⟨data', hmoves, hleft⟩ := exchangeCode_moves a hlocked (hrows.trans hkept.symm) hposted
    rw [hoa] at hmoves
    have hstep := ownRun_step (i := i) s (.lock true)
    rw [step_enter (.lock true) hfree hproc rfl] at hstep
    have hunlock : oauthInside (posted.2.oa, .unlocking true (posted.1 = .ok)) data' .unlock =
        (.inl ({ posted.2.oa with tokensDirty := posted.2.oa.tokensDirty && decide (posted.1 = .ok) }, .idle), data') := by
      simp [oauthInside]
    have hleave := ownRun_step (i := i) (s.inside i ((posted.2.oa, .unlocking true (posted.1 = .ok)), data')) .unlock
    rw [step_leave .unlock hunlock] at hleave
    refine ⟨data', ?_, ?_⟩
    · have hrun := (hstep.trans (ownRun_inside s hmoves)).trans hleave
      by_cases hok : posted.1 = .ok
      · simpa [hok, oauthUnlock_oa] using hrun
      · simpa [hok, oauthUnlock_oa] using hrun
    · by_cases hok : posted.1 = .ok
      · simpa [hok, oauthUnlock_rows] using hleft
      · simpa [hok, oauthUnlock_rows] using hleft

end

end BxSync
