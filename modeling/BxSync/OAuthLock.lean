import BxSync.Lib.Bracket
import BxSync.OAuth

/-! The calls of one process on the OAuth tokens as a whole (`bx_oauth.c`), with the connection of the lock, its
    assertions and each of its exits. An assertion that fails is none.

    While a call holds the lock nobody else writes the rows, and before that it does not read them. -/

namespace BxSync

/-- What a call does with the rows of the table. -/
inductive RowUse
  | read
  | write
deriving DecidableEq, Repr

/-- A process in a call: the fields of its record, the rows, and what it did with the named lock and the rows. -/
structure OAuthContext where
  oa : BXOAuth
  /-- `lock_conn` is not NULL. -/
  lockConn : Bool
  lockHeld : Bool
  rows : Tokens
  log : List (Bracket.Mark RowUse)
deriving DecidableEq, Repr

/-- What `oauth_lock` meets. -/
inductive GetLock
  | notConnected
  /-- The query fails, or has no result. -/
  | failed
  /-- The answer is not 1. -/
  | notGot
  | got
deriving DecidableEq, Repr

/-- What a call meets. -/
structure OAuthAnswers where
  lock : GetLock
  /-- The SELECT of the token rows has a result. -/
  readable : Bool
  posted : Posted
  /-- The transactions of `oauth_write_tokens`, by attempt. -/
  commits : Nat → Commit
  /-- What `time` returns at the start of the call, with the lock, with the reply, and after `post_token`. -/
  started : Int
  locked : Int
  replied : Int
  returned : Int

/-- One clock value for the whole call. -/
def OAuthAnswers.at (a : OAuthAnswers) (now : Int) : OAuthAnswers :=
  { a with started := now, locked := now, replied := now, returned := now }

def oauthUnlock (c : OAuthContext) : OAuthContext :=
  let c := if c.lockConn && c.lockHeld then { c with lockHeld := false, log := c.log ++ [.release] } else c
  { c with lockConn := false }

def oauthLock (a : GetLock) (c : OAuthContext) : Bool × OAuthContext :=
  let c := if c.lockConn then oauthUnlock c else c
  match a with
  | .notConnected => (false, c)
  | .failed => (false, oauthUnlock { c with lockConn := true })
  | .notGot => (false, oauthUnlock { c with lockConn := true })
  | .got => (true, { c with lockConn := true, lockHeld := true, log := c.log ++ [.acquire] })

namespace OAuthContext

/-- `oauth_read_tokens`. -/
def oauthReadTokens (readable : Bool) (c : OAuthContext) : Option (Bool × OAuthContext) :=
  if !c.lockConn then none
  else if !c.lockHeld then none
  else
    let c := { c with log := c.log ++ [.use .read] }
    some (if readable then (true, { c with oa := BxSync.oauthReadTokens c.oa c.rows }) else (false, c))

/-- `oauth_write_once`. -/
def oauthWriteOnce (commit : Commit) (c : OAuthContext) : Option (Bool × OAuthContext) :=
  if !c.lockConn then none
  else if !c.lockHeld then none
  else
    let once := BxSync.oauthWriteOnce c.oa c.rows commit
    let log := if (writtenTokens c.oa).isSome then c.log ++ [.use .write] else c.log
    some (once.1, { c with oa := once.2.1, rows := once.2.2, log })

end OAuthContext

/-- The loop of `oauth_write_tokens`, with the attempts that are left. -/
def oauthWriteAttempts (commits : Nat → Commit) : Nat → OAuthContext → Option (Bool × OAuthContext)
  | 0, c => some (false, { c with oa.tokensDirty := true })
  | left + 1, c => do
    let once ← c.oauthWriteOnce (commits (bxOauthWriteAttempts - (left + 1)))
    if once.1 then return (true, { once.2 with oa.tokensDirty := false })
    else oauthWriteAttempts commits left once.2

def oauthWriteTokens (commits : Nat → Commit) : OAuthContext → Option (Bool × OAuthContext) :=
  oauthWriteAttempts commits bxOauthWriteAttempts

inductive PostResult
  | ok
  | failed
  | unsaved
deriving DecidableEq, Repr

/-- `post_token`. -/
def postTokenCall (a : OAuthAnswers) (refreshing : Bool) (c : OAuthContext) : Option (PostResult × OAuthContext) :=
  match a.posted with
  | .failed => some (.failed, c)
  | .error invalidGrant => some (.failed, { c with oa.tokensDirty := c.oa.tokensDirty && !(invalidGrant && refreshing) })
  | .exchanged none => some (.failed, c)
  | .exchanged (some reply) =>
    let kept := keepReply c.oa reply a.replied
    if kept.refreshToken.isNone then some (.failed, { c with oa := { kept with expiresAt := c.oa.expiresAt } })
    else do
      let written ← oauthWriteTokens a.commits { c with oa := kept }
      return (if written.1 then .ok else .unsaved, written.2)

def refreshTokens (a : OAuthAnswers) (c : OAuthContext) : Option (PostResult × OAuthContext) :=
  if c.oa.refreshToken.isNone then some (.failed, c) else postTokenCall a true c

/-- The end of `bx_oauth_ensure` after a POST. -/
def ensurePosted (a : OAuthAnswers) (posted : PostResult × OAuthContext) : Bool × OAuthContext :=
  let oa := posted.2.oa
  (posted.1 = .ok || (posted.1 = .unsaved && accessUsable oa.accessToken oa.expiresAt a.returned), oauthUnlock posted.2)

/-- `bx_oauth_ensure` from `oauth_lock` on, with the copy of the access token. -/
def ensureWithLock (a : OAuthAnswers) (force : Bool) (rejected : Option String) (c : OAuthContext) :
    Option (Bool × OAuthContext) :=
  if c.oa.tokensDirty && !force && accessUsable c.oa.accessToken c.oa.expiresAt a.locked then do
    let written ← oauthWriteTokens a.commits c
    return (true, oauthUnlock written.2)
  else if c.oa.tokensDirty then
    if !tokenPresent c.oa.refreshToken then some (false, oauthUnlock c)
    else do
      let posted ← refreshTokens a c
      return ensurePosted a posted
  else do
    let read ← c.oauthReadTokens a.readable
    let c := read.2
    if !read.1 then return (false, oauthUnlock c)
    else
      match bxOauthDecide force rejected c.oa.accessToken c.oa.refreshToken c.oa.expiresAt a.locked with
      | .use => return (true, oauthUnlock c)
      | .needLogin => return (false, oauthUnlock c)
      | .refresh => do
        let posted ← refreshTokens a c
        return ensurePosted a posted

/-- `bx_oauth_ensure`. -/
def bxOauthEnsure (a : OAuthAnswers) (force : Bool) (c : OAuthContext) : Option (Bool × OAuthContext) :=
  if !c.oa.tokensDirty && !force && accessUsable c.oa.accessToken c.oa.expiresAt a.started then some (true, c)
  else
    let lock := oauthLock a.lock c
    if !lock.1 then some (false, lock.2)
    else ensureWithLock a force (c.oa.accessToken.filter (· ≠ "")) lock.2

/-- `exchange_code`. -/
def exchangeCode (a : OAuthAnswers) (c : OAuthContext) : Option (Bool × OAuthContext) :=
  let lock := oauthLock a.lock c
  if !lock.1 then some (false, lock.2)
  else do
    let posted ← postTokenCall a false lock.2
    let ok := posted.1 = .ok
    let c := oauthUnlock posted.2
    return (ok, if ok then c else { c with oa.tokensDirty := false })

/-! ### Any number of calls -/

/-- The calls of one process, each with the rows as the others have left them. -/
inductive OAuthEntry
  | ensure (force : Bool) (rows : Tokens) (a : OAuthAnswers)
  | exchangeCode (rows : Tokens) (a : OAuthAnswers)
  | reload (rows : Tokens) (loaded : Bool)

def oauthEntry (c : OAuthContext) : OAuthEntry → Option OAuthContext
  | .ensure force rows a => (bxOauthEnsure a force { c with rows }).map Prod.snd
  | .exchangeCode rows a => (exchangeCode a { c with rows }).map Prod.snd
  | .reload rows loaded => some { c with oa := bxOauthReload c.oa rows loaded, rows }

/-- A process after its calls. -/
def oauthEntries : OAuthContext → List OAuthEntry → Option OAuthContext
  | c, [] => some c
  | c, entry :: rest => (oauthEntry c entry).bind fun c => oauthEntries c rest

/-- A process after `bx_oauth_init`, with tokens of any kind. -/
def OAuthContext.init (oa : BXOAuth) (rows : Tokens) : OAuthContext where
  oa := oa
  lockConn := false
  lockHeld := false
  rows := rows
  log := []

end BxSync
