import BxSync.OAuthLock

/-! The lock of the tokens. The assertions of a read and of a write hold because both are reached from
    `oauth_lock` only, and every exit after it goes through `oauth_unlock`. -/

namespace BxSync

open Bracket

namespace OAuthContext

variable {c c' c'' : OAuthContext}

/-- The connection has the named lock. -/
def held (c : OAuthContext) : Bool := c.lockConn && c.lockHeld

def Free (c : OAuthContext) : Prop := c.lockConn = false ∧ c.lockHeld = false

def Locked (c : OAuthContext) : Prop := c.lockConn = true ∧ c.lockHeld = true

/-- What was done since has the rows read and written under the lock only. -/
def Guarded (c c' : OAuthContext) : Prop := ∃ marks, c'.log = c.log ++ marks ∧ run c.held marks = some c'.held

theorem Guarded.refl (c : OAuthContext) : Guarded c c := ⟨[], (List.append_nil _).symm, rfl⟩

theorem Guarded.trans (h : Guarded c c') (h' : Guarded c' c'') : Guarded c c'' := by
  obtain ⟨marks, hlog, hrun⟩ := h
  obtain ⟨marks', hlog', hrun'⟩ := h'
  exact ⟨marks ++ marks', by rw [hlog', hlog, List.append_assoc], run_trans hrun hrun'⟩

/-- What a step with the lock keeps. -/
structure Within (c c' : OAuthContext) : Prop where
  guarded : Guarded c c'
  locked : Locked c'

theorem Locked.held (h : Locked c) : c.held = true := by
  unfold OAuthContext.held
  rw [h.1, h.2]
  rfl

/-- A step that changes neither the lock nor the log. -/
theorem Within.of_eq (h : Locked c) (hconn : c'.lockConn = c.lockConn) (hheld : c'.lockHeld = c.lockHeld) (hlog : c'.log = c.log) :
    Within c c' where
  guarded := by
    have : c'.held = c.held := by
      unfold OAuthContext.held
      rw [hconn, hheld]
    exact ⟨[], by rw [hlog, List.append_nil], by rw [this]; rfl⟩
  locked := ⟨hconn.trans h.1, hheld.trans h.2⟩

theorem Within.of_use (h : Locked c) {what : RowUse} (hconn : c'.lockConn = c.lockConn) (hheld : c'.lockHeld = c.lockHeld)
    (hlog : c'.log = c.log ++ [.use what]) : Within c c' where
  guarded := by
    have hlocked' : Locked c' := ⟨hconn.trans h.1, hheld.trans h.2⟩
    exact ⟨[.use what], hlog, by rw [h.held, hlocked'.held]; rfl⟩
  locked := ⟨hconn.trans h.1, hheld.trans h.2⟩

theorem Within.trans (h : Within c c') (h' : Within c' c'') : Within c c'' := ⟨h.guarded.trans h'.guarded, h'.locked⟩

end OAuthContext

open OAuthContext

/-! ### One lemma for each function -/

theorem oauthUnlock_spec {c : OAuthContext} (h : c.Locked) : c.Guarded (oauthUnlock c) ∧ (oauthUnlock c).Free := by
  obtain ⟨oa, lockConn, lockHeld, rows, log⟩ := c
  obtain ⟨rfl, rfl⟩ := h
  exact ⟨⟨[.release], rfl, rfl⟩, rfl, rfl⟩

/-- `oauth_lock` has the lock, or has given its connection back. A record may enter with the lock: it gives that back
    first. -/
theorem oauthLock_spec (a : GetLock) (c : OAuthContext) :
    c.Guarded (oauthLock a c).2 ∧ ((oauthLock a c).1 = true → (oauthLock a c).2.Locked) ∧
      ((oauthLock a c).1 = false → (c.lockHeld = true → c.lockConn = true) → (oauthLock a c).2.Free) := by
  obtain ⟨oa, lockConn, lockHeld, rows, log⟩ := c
  cases a <;> cases lockConn <;> cases lockHeld <;>
    simp [oauthLock, oauthUnlock, Guarded, held, Locked, Free, run]

theorem oauthReadTokens_locked {c : OAuthContext} (h : c.Locked) (readable : Bool) :
    ∃ log, c.oauthReadTokens readable =
        some (readable, { c with oa := if readable then oauthReadTokens c.oa c.rows else c.oa, log }) ∧
      c.Within { c with oa := if readable then oauthReadTokens c.oa c.rows else c.oa, log } := by
  refine ⟨c.log ++ [.use .read], ?_, .of_use h rfl rfl rfl⟩
  unfold OAuthContext.oauthReadTokens
  rw [h.1, h.2]
  cases readable <;> rfl

theorem oauthWriteOnce_locked {c : OAuthContext} (h : c.Locked) (commit : Commit) :
    let once := oauthWriteOnce c.oa c.rows commit
    ∃ log, c.oauthWriteOnce commit = some (once.1, { c with oa := once.2.1, rows := once.2.2, log }) ∧
      c.Within { c with oa := once.2.1, rows := once.2.2, log } := by
  refine ⟨if (writtenTokens c.oa).isSome then c.log ++ [.use .write] else c.log, ?_, ?_⟩
  · unfold OAuthContext.oauthWriteOnce
    rw [h.1, h.2]
    rfl
  · by_cases hwritten : (writtenTokens c.oa).isSome
    · exact .of_use h rfl rfl (if_pos hwritten)
    · exact .of_eq h rfl rfl (if_neg hwritten)

theorem oauthWriteAttempts_spec (commits : Nat → Commit) (left : Nat) {c : OAuthContext} (h : c.Locked) :
    ∃ written, oauthWriteAttempts commits left c = some written ∧ c.Within written.2 := by
  induction left generalizing c with
  | zero => exact ⟨_, rfl, .of_eq h rfl rfl rfl⟩
  | succ left ih =>
    obtain ⟨log, honce, hwithin⟩ := oauthWriteOnce_locked h (commits (bxOauthWriteAttempts - (left + 1)))
    unfold oauthWriteAttempts
    rw [honce, Option.bind_eq_bind, Option.bind_some]
    split
    · exact ⟨_, rfl, hwithin.trans (.of_eq hwithin.locked rfl rfl rfl)⟩
    · obtain ⟨written, hwritten, hrest⟩ := ih hwithin.locked
      exact ⟨written, hwritten, hwithin.trans hrest⟩

theorem postTokenCall_spec (a : OAuthAnswers) (refreshing : Bool) {c : OAuthContext} (h : c.Locked) :
    ∃ posted, postTokenCall a refreshing c = some posted ∧ c.Within posted.2 := by
  unfold postTokenCall
  split
  · exact ⟨_, rfl, .of_eq h rfl rfl rfl⟩
  · exact ⟨_, rfl, .of_eq h rfl rfl rfl⟩
  · exact ⟨_, rfl, .of_eq h rfl rfl rfl⟩
  · dsimp only
    split
    · exact ⟨_, rfl, .of_eq h rfl rfl rfl⟩
    · rename_i reply _ _
      have hkept : c.Within { c with oa := keepReply c.oa reply a.replied } := .of_eq h rfl rfl rfl
      obtain ⟨written, hwritten, hwithin⟩ := oauthWriteAttempts_spec a.commits bxOauthWriteAttempts hkept.locked
      unfold oauthWriteTokens
      rw [hwritten]
      exact ⟨_, rfl, hkept.trans hwithin⟩

theorem refreshTokens_spec (a : OAuthAnswers) {c : OAuthContext} (h : c.Locked) :
    ∃ posted, refreshTokens a c = some posted ∧ c.Within posted.2 := by
  unfold refreshTokens
  split
  · exact ⟨_, rfl, .of_eq h rfl rfl rfl⟩
  · exact postTokenCall_spec a true h

/-- What a call past `oauth_lock` comes to: it gives the lock back. -/
theorem OAuthContext.Within.unlock {c c' : OAuthContext} (h : c.Within c') : c.Guarded (oauthUnlock c') ∧ (oauthUnlock c').Free :=
  ⟨h.guarded.trans (oauthUnlock_spec h.locked).1, (oauthUnlock_spec h.locked).2⟩

/-! ### The calls -/

/-- What `bx_oauth_ensure` can do with the lock: write the tokens it kept, return, or post the refresh token. -/
inductive EnsureEnd (a : OAuthAnswers) (c : OAuthContext) : OAuthInside → Option (Bool × OAuthContext) → Prop
  | kept : EnsureEnd a c (.writing .kept 0) ((oauthWriteTokens a.commits c).bind fun written => some (true, oauthUnlock written.2))
  | returned (ok : Bool) : EnsureEnd a c (.unlocking false ok) (some (ok, oauthUnlock c))
  | posts (hrefresh : tokenPresent c.oa.refreshToken = true) :
    EnsureEnd a c (.posting false) ((refreshTokens a c).bind fun posted => some (ensurePosted a posted))

/-- The read is the only thing it does before. -/
theorem ensureWithLock_cases (a : OAuthAnswers) (force : Bool) (rejected : Option String) {c : OAuthContext} (h : c.Locked) :
    let decided := ensureLocked c.oa force rejected c.rows a.readable a.locked
    ∃ log, c.Within { c with oa := decided.1, log } ∧
      EnsureEnd a { c with oa := decided.1, log } decided.2 (ensureWithLock a force rejected c) := by
  have hself : c.Within { c with log := c.log } := .of_eq h rfl rfl rfl
  unfold ensureWithLock ensureLocked
  dsimp only
  by_cases hkept : (c.oa.tokensDirty && !force && accessUsable c.oa.accessToken c.oa.expiresAt a.locked) = true
  · rw [if_pos hkept, if_pos hkept]
    exact ⟨c.log, hself, .kept⟩
  rw [if_neg hkept, if_neg hkept]
  by_cases hdirty : c.oa.tokensDirty = true
  · rw [if_pos hdirty, if_pos hdirty]
    cases hrefresh : tokenPresent c.oa.refreshToken with
    | false => exact ⟨c.log, hself, .returned false⟩
    | true => exact ⟨c.log, hself, .posts hrefresh⟩
  · rw [if_neg hdirty, if_neg hdirty]
    obtain ⟨log, hread, hwithin⟩ := oauthReadTokens_locked h a.readable
    rw [hread, Option.bind_eq_bind, Option.bind_some]
    cases hreadable : a.readable with
    | false =>
      rw [hreadable] at hwithin
      exact ⟨log, hwithin, .returned false⟩
    | true =>
      rw [hreadable] at hwithin
      refine ⟨log, ?_⟩
      simp only [Bool.not_true, Bool.false_eq_true, if_false, if_true] at hwithin ⊢
      cases hdecide : bxOauthDecide force rejected (oauthReadTokens c.oa c.rows).accessToken
          (oauthReadTokens c.oa c.rows).refreshToken (oauthReadTokens c.oa c.rows).expiresAt a.locked with
      | use => exact ⟨hwithin, .returned true⟩
      | needLogin => exact ⟨hwithin, .returned false⟩
      | refresh => exact ⟨hwithin, .posts (tokenPresent_of_decide hdecide)⟩

/-- With the lock every exit is `oauth_unlock` of what a step within it left. -/
theorem ensureWithLock_spec (a : OAuthAnswers) (force : Bool) (rejected : Option String) {c : OAuthContext} (h : c.Locked) :
    ∃ r, ensureWithLock a force rejected c = some r ∧ c.Guarded r.2 ∧ r.2.Free := by
  obtain ⟨log, hwithin, hend⟩ := ensureWithLock_cases a force rejected h
  generalize ensureWithLock a force rejected c = called at hend ⊢
  generalize (ensureLocked c.oa force rejected c.rows a.readable a.locked).2 = pc at hend
  cases hend with
  | kept =>
    obtain ⟨written, hwritten, hwrote⟩ := oauthWriteAttempts_spec a.commits bxOauthWriteAttempts hwithin.locked
    unfold oauthWriteTokens
    rw [hwritten]
    exact ⟨_, rfl, (hwithin.trans hwrote).unlock⟩
  | returned ok => exact ⟨_, rfl, hwithin.unlock⟩
  | posts hrefresh =>
    obtain ⟨posted, hposted, hpost⟩ := refreshTokens_spec a hwithin.locked
    rw [hposted]
    exact ⟨_, rfl, (hwithin.trans hpost).unlock⟩

/-- Every exit of `bx_oauth_ensure`: no assertion fails, and the lock is free unless the record is returned as it was. -/
theorem bxOauthEnsure_spec (a : OAuthAnswers) (force : Bool) (c : OAuthContext) :
    ∃ ok c', bxOauthEnsure a force c = some (ok, c') ∧ c.Guarded c' ∧
      ((c.lockHeld = true → c.lockConn = true) → c' = c ∨ c'.Free) := by
  obtain ⟨hguarded, hlocked, hnot⟩ := oauthLock_spec a.lock c
  unfold bxOauthEnsure
  dsimp only
  generalize oauthLock a.lock c = lock at hguarded hlocked hnot ⊢
  split_ifs with hfast hno
  · exact ⟨true, c, rfl, .refl c, fun _ => Or.inl rfl⟩
  · exact ⟨false, lock.2, rfl, hguarded, fun hwhole => Or.inr (hnot (by simpa using hno) hwhole)⟩
  · obtain ⟨⟨ok, c'⟩, hcall, hguarded', hfree⟩ :=
      ensureWithLock_spec a force (c.oa.accessToken.filter (· ≠ "")) (hlocked (by simpa using hno))
    exact ⟨ok, c', hcall, hguarded.trans hguarded', fun _ => Or.inr hfree⟩

theorem exchangeCode_spec (a : OAuthAnswers) (c : OAuthContext) :
    ∃ ok c', exchangeCode a c = some (ok, c') ∧ c.Guarded c' ∧ ((c.lockHeld = true → c.lockConn = true) → c'.Free) := by
  obtain ⟨hguarded, hlocked, hnot⟩ := oauthLock_spec a.lock c
  unfold exchangeCode
  dsimp only
  generalize oauthLock a.lock c = lock at hguarded hlocked hnot ⊢
  split_ifs with hno
  · exact ⟨false, lock.2, rfl, hguarded, hnot (by simpa using hno)⟩
  · obtain ⟨posted, hposted, hwithin⟩ := postTokenCall_spec a false (hlocked (by simpa using hno))
    rw [hposted, Option.bind_eq_bind, Option.bind_some]
    refine ⟨_, _, rfl, ?_, fun _ => ?_⟩
    · obtain ⟨marks, hlog, hrun⟩ := hguarded.trans hwithin.unlock.1
      split <;> exact ⟨marks, hlog, hrun⟩
    · obtain ⟨hconn, hheld⟩ := hwithin.unlock.2
      split <;> exact ⟨hconn, hheld⟩

/-! ### Runs -/

theorem oauthEntry_spec {c : OAuthContext} (h : c.Free) (entry : OAuthEntry) :
    ∃ c', oauthEntry c entry = some c' ∧ c.Guarded c' ∧ c'.Free := by
  have hwhole : c.lockHeld = true → c.lockConn = true := fun hheld => nomatch hheld.symm.trans h.2
  cases entry with
  | ensure force rows a =>
    obtain ⟨ok, c', hcall, hguarded, hexit⟩ := bxOauthEnsure_spec a force { c with rows }
    refine ⟨c', congrArg (Option.map Prod.snd) hcall, hguarded, ?_⟩
    rcases hexit hwhole with rfl | hfree
    · exact h
    · exact hfree
  | exchangeCode rows a =>
    obtain ⟨ok, c', hcall, hguarded, hexit⟩ := exchangeCode_spec a { c with rows }
    exact ⟨c', congrArg (Option.map Prod.snd) hcall, hguarded, hexit hwhole⟩
  | reload rows loaded => exact ⟨_, rfl, .refl c, h⟩

theorem oauthEntries_spec {c : OAuthContext} (h : c.Free) (entries : List OAuthEntry) :
    ∃ c', oauthEntries c entries = some c' ∧ c.Guarded c' ∧ c'.Free := by
  induction entries generalizing c with
  | nil => exact ⟨c, rfl, .refl c, h⟩
  | cons entry rest ih =>
    obtain ⟨c', hentry, hguarded, hfree⟩ := oauthEntry_spec h entry
    obtain ⟨c'', hrest, hguarded', hfree'⟩ := ih hfree
    exact ⟨c'', by rw [oauthEntries, hentry, Option.bind_some, hrest], hguarded.trans hguarded', hfree'⟩

/-- A read or a write of the rows comes after a GET_LOCK that was answered with 1, and the lock was not given back between
    them. -/
def UnderLock (log : List (Mark RowUse)) : Prop :=
  ∀ before what after, log = before ++ .use what :: after →
    ∃ outside inside, before = outside ++ .acquire :: inside ∧ Mark.release ∉ inside

/-- For every record and every outcome no assertion fails and the rows are touched under the lock only. A record with
    a connection that it never closed gets it closed unless the tokens in memory are good. In every sequence of calls
    after `bx_oauth_init` each call leaves the lock free. -/
theorem lock_discipline :
    (∀ a force c, ∃ ok c', bxOauthEnsure a force c = some (ok, c') ∧ c.Guarded c' ∧
      ((c.lockHeld = true → c.lockConn = true) → c' = c ∨ c'.Free)) ∧
    (∀ a c, ∃ ok c', exchangeCode a c = some (ok, c') ∧ c.Guarded c' ∧
      ((c.lockHeld = true → c.lockConn = true) → c'.Free)) ∧
    (∀ oa rows entries, ∃ c', oauthEntries (.init oa rows) entries = some c' ∧ UnderLock c'.log ∧ c'.Free) := by
  refine ⟨bxOauthEnsure_spec, exchangeCode_spec, fun oa rows entries => ?_⟩
  obtain ⟨c', hentries, ⟨marks, hlog, hrun⟩, hfree⟩ := oauthEntries_spec (c := .init oa rows) ⟨rfl, rfl⟩ entries
  refine ⟨c', hentries, fun before what after heq => ?_, hfree⟩
  have hmarks : marks = before ++ .use what :: after := hlog.symm.trans heq
  rw [hmarks] at hrun
  exact acquired_of_run hrun

end BxSync
