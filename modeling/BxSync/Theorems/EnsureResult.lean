import BxSync.Theorems.LockDiscipline

/-! What `bx_oauth_ensure` returns. After a POST whose tokens were saved it returns true whatever they are, and after
    one whose tokens were not saved it looks whether they can be used. -/

namespace BxSync

/-! ### The property -/

/-- True means an access token that is good beyond the skew, and false that the rows are as they were. -/
def EnsureReturns (a : OAuthAnswers) (now : Int) (force : Bool) (c : OAuthContext) : Prop :=
  ∃ ok c', bxOauthEnsure (a.at now) force c = some (ok, c') ∧
    (ok = true → tokenPresent c'.oa.accessToken = true ∧ now + bxOauthSkewSec < c'.oa.expiresAt) ∧
    (ok = false → c'.rows = c.rows)

/-! ### When it holds -/

/-- The record whose refresh token is posted with the lock, if the call gets there. -/
def lockedPosts (a : OAuthAnswers) (now : Int) (force : Bool) (c : OAuthContext) : Option BXOAuth :=
  if c.oa.tokensDirty then
    if !force && accessUsable c.oa.accessToken c.oa.expiresAt now then none
    else if tokenPresent c.oa.refreshToken then some c.oa
    else none
  else if !a.readable then none
  else
    let oa := oauthReadTokens c.oa c.rows
    if bxOauthDecide force (c.oa.accessToken.filter (· ≠ "")) oa.accessToken oa.refreshToken oa.expiresAt now = .refresh
    then some oa
    else none

/-- The record whose refresh token the call posts. -/
def ensurePosts (a : OAuthAnswers) (now : Int) (force : Bool) (c : OAuthContext) : Option BXOAuth :=
  if !c.oa.tokensDirty && !force && accessUsable c.oa.accessToken c.oa.expiresAt now then none
  else if a.lock = .got then lockedPosts a now force c
  else none

/-- The access token of the reply is good beyond the skew. -/
def TokenReply.Usable (reply : TokenReply) : Prop := reply.access ≠ "" ∧ (reply.expiresIn ≤ 0 ∨ bxOauthSkewSec < reply.expiresIn)

/-- The reply can be used, its tokens cannot be written, every attempt to write them is rolled back, or none is
    reported as committed and the rows have them already. -/
def ReplyCondition (a : OAuthAnswers) (now : Int) (oa : BXOAuth) (rows : Tokens) : Prop :=
  ∀ reply, a.posted = .exchanged (some reply) →
    reply.Usable ∨ writtenTokens (keepReply oa reply now) = none ∨
      (∀ k < bxOauthWriteAttempts, a.commits k = .failed) ∨
      ((∀ k < bxOauthWriteAttempts, a.commits k ≠ .committed) ∧ rows = (keepReply oa reply now).tokens)

def EnsureCondition (a : OAuthAnswers) (now : Int) (force : Bool) (c : OAuthContext) : Prop :=
  ∀ oa, ensurePosts a now force c = some oa → ReplyCondition a now oa c.rows

/-! ### What is usable -/

theorem accessUsable_iff {access : Option String} {expiresAt now : Int} :
    accessUsable access expiresAt now = true ↔ tokenPresent access = true ∧ now + bxOauthSkewSec < expiresAt := by
  unfold accessUsable
  rw [Bool.and_eq_true, decide_eq_true_iff]

theorem accessUsable_of_decide {force : Bool} {rejected access refresh : Option String} {expiresAt now : Int}
    (h : bxOauthDecide force rejected access refresh expiresAt now = .use) : accessUsable access expiresAt now = true := by
  unfold bxOauthDecide at h
  unfold accessUsable
  by_contra hno
  rw [Bool.not_eq_true] at hno
  rw [hno] at h
  cases force <;> cases hrefresh : tokenPresent refresh <;> simp [hrefresh] at h

theorem accessUsable_keepReply (oa : BXOAuth) (reply : TokenReply) (now : Int) :
    accessUsable (keepReply oa reply now).accessToken (keepReply oa reply now).expiresAt now = true ↔ reply.Usable := by
  rw [accessUsable_iff]
  unfold TokenReply.Usable keepReply
  refine and_congr (by simp [tokenPresent]) ?_
  dsimp only
  unfold bxOauthSkewSec bxOauthDefaultTtlSec
  split <;> omega

/-! ### What is written -/

/-- An attempt from the ones that are left has an outcome. -/
def AttemptOf (commits : Nat → Commit) (left : Nat) (p : Commit → Prop) : Prop :=
  ∃ k, bxOauthWriteAttempts - left ≤ k ∧ k < bxOauthWriteAttempts ∧ p (commits k)

theorem attemptOf_succ {commits : Nat → Commit} {left : Nat} {p : Commit → Prop} (hleft : left + 1 ≤ bxOauthWriteAttempts) :
    AttemptOf commits (left + 1) p ↔ p (commits (bxOauthWriteAttempts - (left + 1))) ∨ AttemptOf commits left p := by
  constructor
  · rintro ⟨k, hfrom, hto, hk⟩
    by_cases hfirst : k = bxOauthWriteAttempts - (left + 1)
    · exact Or.inl (hfirst ▸ hk)
    · exact Or.inr ⟨k, by omega, hto, hk⟩
  · rintro (hk | ⟨k, hfrom, hto, hk⟩)
    · exact ⟨_, Nat.le_refl _, by omega, hk⟩
    · exact ⟨k, by omega, hto, hk⟩

theorem attemptOf_all {commits : Nat → Commit} {p : Commit → Prop} :
    AttemptOf commits bxOauthWriteAttempts p ↔ ∃ k < bxOauthWriteAttempts, p (commits k) := by
  unfold AttemptOf
  simp

/-- What the attempts leave in memory, in the rows and in what they return. -/
structure Wrote (commits : Nat → Commit) (left : Nat) (c : OAuthContext) (written : Bool × OAuthContext) : Prop where
  access : written.2.oa.accessToken = c.oa.accessToken
  expiresAt : written.2.oa.expiresAt = c.oa.expiresAt
  saved : written.1 = true ↔ (writtenTokens c.oa).isSome = true ∧ AttemptOf commits left (· = .committed)
  kept : ¬((writtenTokens c.oa).isSome = true ∧ AttemptOf commits left (· ≠ .failed)) → written.2.rows = c.rows
  replaced : (writtenTokens c.oa).isSome = true ∧ AttemptOf commits left (· ≠ .failed) → written.2.rows = c.oa.tokens

/-- An attempt that leaves the rows, one that writes them and fails, and one that succeeds. -/
theorem oauthWriteOnce_cases (oa : BXOAuth) (rows : Tokens) (commit : Commit) :
    (((writtenTokens oa).isSome = true → commit = .failed) ∧ oauthWriteOnce oa rows commit = (false, oa, rows)) ∨
    ((writtenTokens oa).isSome = true ∧ commit = .unreported ∧ oauthWriteOnce oa rows commit = (false, oa, oa.tokens)) ∨
    ((writtenTokens oa).isSome = true ∧ commit = .committed ∧
      oauthWriteOnce oa rows commit = (true, { oa with conf := oa.tokens }, oa.tokens)) := by
  unfold oauthWriteOnce
  cases hsome : writtenTokens oa with
  | none => exact Or.inl ⟨nofun, rfl⟩
  | some tokens =>
    obtain rfl := writtenTokens_eq hsome
    cases commit with
    | failed => exact Or.inl ⟨fun _ => rfl, rfl⟩
    | unreported => exact Or.inr (Or.inl ⟨rfl, rfl, rfl⟩)
    | committed => exact Or.inr (Or.inr ⟨rfl, rfl, rfl⟩)

theorem oauthWriteAttempts_wrote (commits : Nat → Commit) {left : Nat} (hleft : left ≤ bxOauthWriteAttempts) {c : OAuthContext}
    (h : c.Locked) {written : Bool × OAuthContext} (hwritten : oauthWriteAttempts commits left c = some written) :
    Wrote commits left c written := by
  induction left generalizing c with
  | zero =>
    obtain rfl := Option.some.inj hwritten
    have hnone : ∀ p, ¬AttemptOf commits 0 p := fun p ⟨k, hfrom, hto, _⟩ => by omega
    exact ⟨rfl, rfl, ⟨fun hsaved => absurd hsaved Bool.false_ne_true, fun hsome => absurd hsome.2 (hnone _)⟩, fun _ => rfl, fun hsome => absurd hsome.2 (hnone _)⟩
  | succ left ih =>
    obtain ⟨log, honce, -⟩ := oauthWriteOnce_locked h (commits (bxOauthWriteAttempts - (left + 1)))
    unfold oauthWriteAttempts at hwritten
    rw [honce, Option.bind_eq_bind, Option.bind_some] at hwritten
    have hrest : ∀ p, AttemptOf commits (left + 1) p ↔ p (commits (bxOauthWriteAttempts - (left + 1))) ∨ AttemptOf commits left p :=
      fun p => attemptOf_succ hleft
    generalize commits (bxOauthWriteAttempts - (left + 1)) = commit at hwritten hrest
    rcases oauthWriteOnce_cases c.oa c.rows commit with ⟨hfailed, hcase⟩ | ⟨hsome, rfl, hcase⟩ | ⟨hsome, rfl, hcase⟩ <;>
      rw [hcase] at hwritten
    · have hnext := ih (c := { c with log }) (by omega) h hwritten
      have hsame : ∀ p, ¬p .failed → ((writtenTokens c.oa).isSome = true ∧ AttemptOf commits (left + 1) p ↔
          (writtenTokens c.oa).isSome = true ∧ AttemptOf commits left p) := fun p hp =>
        and_congr_right fun hsome => by simp [hrest, hfailed hsome, hp]
      refine ⟨hnext.access, hnext.expiresAt, ?_, fun hno => ?_, fun hyes => ?_⟩
      · rw [hsame _ (by simp)]
        exact hnext.saved
      · rw [hsame _ (by simp)] at hno
        exact hnext.kept hno
      · rw [hsame _ (by simp)] at hyes
        exact hnext.replaced hyes
    · have hnext := ih (c := { c with rows := c.oa.tokens, log }) (by omega) h hwritten
      refine ⟨hnext.access, hnext.expiresAt, ?_, fun hno => ?_, fun _ => ?_⟩
      · rw [hnext.saved, hrest]
        simp
      · exact absurd ⟨hsome, (hrest _).mpr (Or.inl (by simp))⟩ hno
      · by_cases hyes : AttemptOf commits left (· ≠ .failed)
        · exact hnext.replaced ⟨hsome, hyes⟩
        · exact hnext.kept fun hyes' => hyes hyes'.2
    · obtain rfl := Option.some.inj hwritten
      refine ⟨rfl, rfl, ⟨fun _ => ⟨hsome, (hrest _).mpr (Or.inl rfl)⟩, fun _ => rfl⟩, fun hno => ?_, fun _ => rfl⟩
      exact absurd ⟨hsome, (hrest _).mpr (Or.inl (by simp))⟩ hno

/-! ### After a POST -/

theorem oauthUnlock_oa (c : OAuthContext) : (oauthUnlock c).oa = c.oa := by
  unfold oauthUnlock
  dsimp only
  split <;> rfl

theorem oauthUnlock_rows (c : OAuthContext) : (oauthUnlock c).rows = c.rows := by
  unfold oauthUnlock
  dsimp only
  split <;> rfl

theorem oauthLock_frame (a : GetLock) (c : OAuthContext) : (oauthLock a c).2.oa = c.oa ∧ (oauthLock a c).2.rows = c.rows := by
  obtain ⟨oa, lockConn, lockHeld, rows, log⟩ := c
  cases a <;> cases lockConn <;> cases lockHeld <;> exact ⟨rfl, rfl⟩

/-- The tokens of a reply that cannot be used must be neither reported as saved nor written. -/
theorem Wrote.condition_iff (a : OAuthAnswers) (now : Int) {c : OAuthContext} {reply : TokenReply} {written : Bool × OAuthContext}
    (h : Wrote a.commits bxOauthWriteAttempts { c with oa := keepReply c.oa reply now } written) :
    written.1 = false ∧ written.2.rows = c.rows ↔
      (writtenTokens (keepReply c.oa reply now) = none ∨ (∀ k < bxOauthWriteAttempts, a.commits k = .failed) ∨
        ((∀ k < bxOauthWriteAttempts, a.commits k ≠ .committed) ∧ c.rows = (keepReply c.oa reply now).tokens)) := by
  obtain ⟨-, -, hsaved, hkept, hreplaced⟩ := h
  rw [attemptOf_all] at hsaved hkept hreplaced
  have hnone : writtenTokens (keepReply c.oa reply now) = none ↔ ¬(writtenTokens (keepReply c.oa reply now)).isSome = true := by simp
  have hfailed : (∀ k < bxOauthWriteAttempts, a.commits k = .failed) ↔ ¬∃ k < bxOauthWriteAttempts, a.commits k ≠ .failed := by
    simp
  have hcommitted : (∀ k < bxOauthWriteAttempts, a.commits k ≠ .committed) ↔ ¬∃ k < bxOauthWriteAttempts, a.commits k = .committed := by
    simp
  have hwrites : (∃ k < bxOauthWriteAttempts, a.commits k = .committed) → ∃ k < bxOauthWriteAttempts, a.commits k ≠ .failed :=
    fun ⟨k, hk, hcommit⟩ => ⟨k, hk, by rw [hcommit]; nofun⟩
  rw [hnone, hfailed, hcommitted, ← Bool.not_eq_true, hsaved]
  constructor
  · rintro ⟨hno, hrows⟩
    by_cases hsome : (writtenTokens (keepReply c.oa reply now)).isSome = true
    · by_cases hyes : ∃ k < bxOauthWriteAttempts, a.commits k ≠ .failed
      · exact Or.inr (Or.inr ⟨fun hcommit => hno ⟨hsome, hcommit⟩, hrows.symm.trans (hreplaced ⟨hsome, hyes⟩)⟩)
      · exact Or.inr (Or.inl hyes)
    · exact Or.inl hsome
  · rintro (hsome | hyes | ⟨hno, hrows⟩)
    · exact ⟨fun h => hsome h.1, hkept fun h => hsome h.1⟩
    · exact ⟨fun h => hyes (hwrites h.2), hkept fun h => hyes h.2⟩
    · refine ⟨fun h => hno h.2, ?_⟩
      by_cases hyes : (writtenTokens (keepReply c.oa reply now)).isSome = true ∧ ∃ k < bxOauthWriteAttempts, a.commits k ≠ .failed
      · exact (hreplaced hyes).trans hrows.symm
      · exact hkept hyes

section

variable {a : OAuthAnswers} {now : Int} {c : OAuthContext} {posted : PostResult × OAuthContext}

theorem refreshTokens_unanswered (ha : ∀ reply, a.posted ≠ .exchanged (some reply)) (hposted : refreshTokens a c = some posted) :
    posted.1 = .failed ∧ posted.2.rows = c.rows := by
  unfold refreshTokens at hposted
  split at hposted
  · obtain rfl := Option.some.inj hposted
    exact ⟨rfl, rfl⟩
  · unfold postTokenCall at hposted
    split at hposted
    · obtain rfl := Option.some.inj hposted
      exact ⟨rfl, rfl⟩
    · obtain rfl := Option.some.inj hposted
      exact ⟨rfl, rfl⟩
    · obtain rfl := Option.some.inj hposted
      exact ⟨rfl, rfl⟩
    · exact absurd ‹_› (ha _)

theorem refreshTokens_answered (h : c.Locked) (hrefresh : tokenPresent c.oa.refreshToken = true) {reply : TokenReply}
    (ha : a.posted = .exchanged (some reply)) (hposted : refreshTokens a c = some posted) :
    ∃ written, Wrote a.commits bxOauthWriteAttempts { c with oa := keepReply c.oa reply a.replied } written ∧
      posted = (if written.1 then .ok else .unsaved, written.2) := by
  cases htoken : c.oa.refreshToken with
  | none => simp [htoken, tokenPresent] at hrefresh
  | some token =>
    have hlocked : ({ c with oa := keepReply c.oa reply a.replied } : OAuthContext).Locked := h
    obtain ⟨written, hwritten, -⟩ := oauthWriteAttempts_spec a.commits bxOauthWriteAttempts hlocked
    refine ⟨written, oauthWriteAttempts_wrote a.commits (Nat.le_refl _) hlocked hwritten, ?_⟩
    have hsome : (keepReply c.oa reply a.replied).refreshToken.isNone = false := by
      unfold keepReply
      rw [htoken]
      cases reply.refresh <;> rfl
    unfold refreshTokens at hposted
    rw [htoken, Option.isNone_some, if_neg Bool.false_ne_true] at hposted
    unfold postTokenCall at hposted
    rw [ha] at hposted
    dsimp only at hposted
    rw [hsome, if_neg Bool.false_ne_true] at hposted
    unfold oauthWriteTokens at hposted
    rw [hwritten] at hposted
    exact (Option.some.inj hposted).symm

end

/-- The result of a call that posts. -/
theorem ensurePosted_iff (a : OAuthAnswers) (now : Int) {c : OAuthContext} (h : c.Locked)
    (hrefresh : tokenPresent c.oa.refreshToken = true) {posted : PostResult × OAuthContext}
    (hposted : refreshTokens (a.at now) c = some posted) :
    (((ensurePosted (a.at now) posted).1 = true →
        accessUsable (ensurePosted (a.at now) posted).2.oa.accessToken (ensurePosted (a.at now) posted).2.oa.expiresAt now = true) ∧
      ((ensurePosted (a.at now) posted).1 = false → (ensurePosted (a.at now) posted).2.rows = c.rows)) ↔
    ReplyCondition a now c.oa c.rows := by
  unfold ReplyCondition ensurePosted
  rw [oauthUnlock_oa, oauthUnlock_rows]
  have hreturned : (a.at now).returned = now := rfl
  rw [hreturned]
  by_cases ha : ∃ reply, a.posted = .exchanged (some reply)
  · obtain ⟨reply, ha⟩ := ha
    obtain ⟨written, hwrote, rfl⟩ := refreshTokens_answered (a := a.at now) h hrefresh ha hposted
    have hone : ∀ p : TokenReply → Prop, (∀ r, a.posted = .exchanged (some r) → p r) ↔ p reply := fun p =>
      ⟨fun hall => hall reply ha, fun hp r hr => by obtain ⟨⟩ := ha.symm.trans hr; exact hp⟩
    have husable : accessUsable written.2.oa.accessToken written.2.oa.expiresAt now = true ↔ reply.Usable := by
      rw [hwrote.access, hwrote.expiresAt]
      exact accessUsable_keepReply c.oa reply now
    rw [hone]
    by_cases hreply : reply.Usable
    · have hyes := husable.mpr hreply
      cases written.1 <;> simp [hyes, hreply]
    · have hno : accessUsable written.2.oa.accessToken written.2.oa.expiresAt now = false :=
        Bool.eq_false_iff.mpr (mt husable.mp hreply)
      rw [← Wrote.condition_iff a now hwrote]
      cases written.1 <;> simp [hno, hreply]
  · obtain ⟨hfailed, hrows⟩ := refreshTokens_unanswered (a := a.at now) (fun reply hreply => ha ⟨reply, hreply⟩) hposted
    rw [hfailed]
    exact ⟨fun _ reply hreply => absurd ⟨reply, hreply⟩ ha, fun _ => ⟨nofun, fun _ => hrows⟩⟩

/-! ### The call -/

/-- What is asked of a result. -/
def ReturnsWell (now : Int) (rows : Tokens) (r : Bool × OAuthContext) : Prop :=
  (r.1 = true → accessUsable r.2.oa.accessToken r.2.oa.expiresAt now = true) ∧ (r.1 = false → r.2.rows = rows)

/-- What `bx_oauth_ensure` has decided when it has the lock. -/
theorem lockedPosts_eq (a : OAuthAnswers) (now : Int) (force : Bool) (c : OAuthContext) :
    let decided := ensureLocked c.oa force (c.oa.accessToken.filter (· ≠ "")) c.rows a.readable now
    lockedPosts a now force c = if decided.2 = .posting false then some decided.1 else none := by
  unfold lockedPosts ensureLocked
  cases c.oa.tokensDirty with
  | true =>
    by_cases hkept : (!force && accessUsable c.oa.accessToken c.oa.expiresAt now) = true
    · simp [hkept]
    · cases hrefresh : tokenPresent c.oa.refreshToken <;> simp [hkept]
  | false =>
    cases a.readable with
    | false => rfl
    | true =>
      dsimp only [Bool.false_and, Bool.not_true, Bool.false_eq_true, if_false]
      cases hdecide : bxOauthDecide force (c.oa.accessToken.filter (· ≠ "")) (oauthReadTokens c.oa c.rows).accessToken
          (oauthReadTokens c.oa c.rows).refreshToken (oauthReadTokens c.oa c.rows).expiresAt now <;> simp

/-- Tokens that are kept or returned with true are good. -/
theorem accessUsable_of_ensureLocked (oa : BXOAuth) (force : Bool) (rejected : Option String) (rows : Tokens) (readable : Bool)
    (now : Int) (h : (ensureLocked oa force rejected rows readable now).2 = .writing .kept 0 ∨
      (ensureLocked oa force rejected rows readable now).2 = .unlocking false true) :
    accessUsable (ensureLocked oa force rejected rows readable now).1.accessToken
      (ensureLocked oa force rejected rows readable now).1.expiresAt now = true := by
  revert h
  unfold ensureLocked
  by_cases hkept : (oa.tokensDirty && !force && accessUsable oa.accessToken oa.expiresAt now) = true
  · rw [if_pos hkept]
    exact fun _ => (Bool.and_eq_true_iff.mp hkept).2
  rw [if_neg hkept]
  by_cases hdirty : oa.tokensDirty = true
  · rw [if_pos hdirty]
    cases tokenPresent oa.refreshToken <;> simp
  rw [if_neg hdirty]
  cases readable with
  | false => simp
  | true =>
    dsimp only [Bool.not_true, Bool.false_eq_true, if_false]
    cases hdecide : bxOauthDecide force rejected (oauthReadTokens oa rows).accessToken (oauthReadTokens oa rows).refreshToken
        (oauthReadTokens oa rows).expiresAt now with
    | use => exact fun _ => accessUsable_of_decide hdecide
    | needLogin => simp
    | refresh => simp

/-- `bx_oauth_ensure` with the lock: it posts and returns by the reply, or returns well. -/
theorem ensureWithLock_iff (a : OAuthAnswers) (now : Int) (force : Bool) {c : OAuthContext} (h : c.Locked) :
    ∃ r, ensureWithLock (a.at now) force (c.oa.accessToken.filter (· ≠ "")) c = some r ∧
      (ReturnsWell now c.rows r ↔ ∀ oa, lockedPosts a now force c = some oa → ReplyCondition a now oa c.rows) := by
  obtain ⟨log, hwithin, hend⟩ := ensureWithLock_cases (a.at now) force (c.oa.accessToken.filter (· ≠ "")) h
  have hreadable : (a.at now).readable = a.readable := rfl
  have hnow : (a.at now).locked = now := rfl
  have husable := accessUsable_of_ensureLocked c.oa force (c.oa.accessToken.filter (· ≠ "")) c.rows a.readable now
  rw [hreadable, hnow] at hwithin hend
  rw [lockedPosts_eq]
  generalize ensureLocked c.oa force (c.oa.accessToken.filter (· ≠ "")) c.rows a.readable now = decided at hwithin hend husable ⊢
  generalize ensureWithLock (a.at now) force (c.oa.accessToken.filter (· ≠ "")) c = called at hend ⊢
  obtain ⟨oa, pc⟩ := decided
  dsimp only at hwithin hend husable ⊢
  cases hend with
  | kept =>
    obtain ⟨written, hwritten, -⟩ := oauthWriteAttempts_spec (a.at now).commits bxOauthWriteAttempts hwithin.locked
    have hwrote := oauthWriteAttempts_wrote (a.at now).commits (Nat.le_refl _) hwithin.locked hwritten
    unfold oauthWriteTokens
    rw [hwritten, Option.bind_some]
    refine ⟨_, rfl, fun _ => nofun, fun _ => ⟨fun _ => ?_, nofun⟩⟩
    rw [oauthUnlock_oa, hwrote.access, hwrote.expiresAt]
    exact husable (Or.inl rfl)
  | returned ok =>
    refine ⟨_, rfl, fun _ => nofun, fun _ => ⟨?_, fun _ => oauthUnlock_rows _⟩⟩
    rintro rfl
    rw [oauthUnlock_oa]
    exact husable (Or.inr rfl)
  | posts hrefresh =>
    obtain ⟨posted, hposted, -⟩ := refreshTokens_spec (a.at now) hwithin.locked
    rw [hposted, Option.bind_some, if_pos rfl]
    refine ⟨_, rfl, ?_⟩
    unfold ReturnsWell
    rw [ensurePosted_iff a now hwithin.locked hrefresh hposted]
    exact ⟨fun hreply _ hoa => Option.some.inj hoa ▸ hreply, fun hall => hall _ rfl⟩

theorem ensureReturns_iff_result {a : OAuthAnswers} {now : Int} {force : Bool} {c : OAuthContext} {r : Bool × OAuthContext}
    (h : bxOauthEnsure (a.at now) force c = some r) : EnsureReturns a now force c ↔ ReturnsWell now c.rows r := by
  unfold EnsureReturns ReturnsWell
  rw [accessUsable_iff, h]
  constructor
  · rintro ⟨ok, c', hr, hreturns⟩
    obtain rfl := Option.some.inj hr
    exact hreturns
  · exact fun hreturns => ⟨r.1, r.2, rfl, hreturns⟩

/-- For every record, every rows, every outcome of the lock, of the table and of the token request. -/
theorem ensure_returns_iff (a : OAuthAnswers) (now : Int) (force : Bool) (c : OAuthContext) :
    EnsureReturns a now force c ↔ EnsureCondition a now force c := by
  obtain ⟨-, hlocked, -⟩ := oauthLock_spec a.lock c
  obtain ⟨hoa, hrows⟩ := oauthLock_frame a.lock c
  have hgot : (oauthLock a.lock c).1 = decide (a.lock = .got) := by cases a.lock <;> rfl
  have hstarted : (a.at now).started = now := rfl
  have hlock : (a.at now).lock = a.lock := rfl
  unfold EnsureCondition ensurePosts
  by_cases hfast : (!c.oa.tokensDirty && !force && accessUsable c.oa.accessToken c.oa.expiresAt now) = true
  · have hcall : bxOauthEnsure (a.at now) force c = some (true, c) := by
      unfold bxOauthEnsure
      rw [hstarted, if_pos hfast]
    rw [ensureReturns_iff_result hcall, if_pos hfast]
    exact ⟨fun _ => nofun, fun _ => ⟨fun _ => (Bool.and_eq_true_iff.mp hfast).2, nofun⟩⟩
  · have hcall : bxOauthEnsure (a.at now) force c =
        if !(oauthLock a.lock c).1 then some (false, (oauthLock a.lock c).2)
        else ensureWithLock (a.at now) force (c.oa.accessToken.filter (· ≠ "")) (oauthLock a.lock c).2 := by
      unfold bxOauthEnsure
      rw [hstarted, if_neg hfast, hlock]
    rw [if_neg hfast]
    by_cases hyes : a.lock = .got
    · rw [decide_eq_true hyes] at hgot
      obtain ⟨r, hr, hiff⟩ := ensureWithLock_iff a now force (hlocked hgot)
      rw [hoa] at hr
      rw [hgot, Bool.not_true, if_neg Bool.false_ne_true, hr] at hcall
      rw [ensureReturns_iff_result hcall, if_pos hyes, ← hrows, hiff]
      unfold lockedPosts
      rw [hoa, hrows]
    · rw [decide_eq_false hyes] at hgot
      rw [hgot] at hcall
      rw [ensureReturns_iff_result hcall, if_neg hyes]
      exact ⟨fun _ => nofun, fun _ => ⟨nofun, fun _ => hrows⟩⟩

/-- A process whose token is due, and a reply whose access token lasts for 30 seconds. -/
def dueContext : OAuthContext := .init ⟨⟨none, none, none⟩, some "old", some "r", 0, false⟩ ⟨some "old", some "r", some 0⟩

def shortReply : OAuthAnswers where
  lock := .got
  readable := true
  posted := .exchanged (some ⟨"new", some "s", 30⟩)
  commits _ := .committed
  started := 1000
  locked := 1000
  replied := 1000
  returned := 1000

/-- The call returns true, and the access token is good for less than the skew. -/
theorem ensure_returns_short : ¬EnsureReturns shortReply 1000 false dueContext := by
  rintro ⟨ok, c', hcall, htrue, -⟩
  obtain ⟨rfl, rfl⟩ := Prod.mk.inj (Option.some.inj hcall)
  exact absurd (htrue rfl).2 (by decide)

end BxSync
