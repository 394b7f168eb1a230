import BxSync.Base
import BxSync.Lib.Critical

/-! The OAuth tokens of any number of processes (`bx_oauth.c`). They share three rows of `_configuration`, and
    a refresh or a login holds the named lock from GET_LOCK to RELEASE_LOCK on a connection of its own.

    A token is a string. What is no row, or NULL in one, is none. Allocations succeed, and each `time` is an
    argument of the step that reads it. -/

namespace BxSync

/-- `BX_OAUTH_SKEW_SEC`. -/
def bxOauthSkewSec : Int := 60

/-- `BX_OAUTH_WRITE_ATTEMPTS`. -/
def bxOauthWriteAttempts : Nat := 3

/-- `BX_OAUTH_DEFAULT_TTL_SEC`. -/
def bxOauthDefaultTtlSec : Int := 300

/-- The three values, as rows of the table or as values of a configuration in memory. -/
structure Tokens where
  access : Option String
  refresh : Option String
  expiresAt : Option Int
deriving DecidableEq, Repr

/-- `bx_conf_load_database`: the rows replace the values of the configuration. -/
def bxConfLoadDatabase (conf rows : Tokens) : Tokens where
  access := rows.access.or conf.access
  refresh := rows.refresh.or conf.refresh
  expiresAt := rows.expiresAt.or conf.expiresAt

structure BXOAuth where
  conf : Tokens
  accessToken : Option String
  refreshToken : Option String
  expiresAt : Int
  tokensDirty : Bool
deriving DecidableEq, Repr

/-- `bx_oauth_init`, over a configuration. -/
def bxOauthInit (conf : Tokens) : BXOAuth where
  conf := conf
  accessToken := none
  refreshToken := none
  expiresAt := 0
  tokensDirty := false

def tokenPresent (token : Option String) : Bool := token.any (· ≠ "")

def accessUsable (access : Option String) (expiresAt now : Int) : Bool :=
  tokenPresent access && now + bxOauthSkewSec < expiresAt

/-- `load_tokens`: what the configuration has replaces what is in memory. -/
def loadTokens (oa : BXOAuth) : BXOAuth where
  conf := oa.conf
  accessToken := if tokenPresent oa.conf.access then oa.conf.access else oa.accessToken
  refreshToken := if tokenPresent oa.conf.refresh then oa.conf.refresh else oa.refreshToken
  expiresAt := oa.conf.expiresAt.getD 0
  tokensDirty := oa.tokensDirty

/-- `bx_oauth_reload`. The table is not read while a grant is not committed, or if it cannot be. -/
def bxOauthReload (oa : BXOAuth) (rows : Tokens) (loaded : Bool) : BXOAuth :=
  if oa.tokensDirty then oa
  else if loaded then loadTokens { oa with conf := bxConfLoadDatabase oa.conf rows }
  else oa

/-- What `bx_oauth_startup` starts its `bx_oauth_ensure` from, in a new process whose configuration is the file
    and, if it could be read, the table. -/
def bxOauthStarted (file rows : Tokens) (loaded : Bool) : BXOAuth :=
  loadTokens (bxOauthInit (if loaded then bxConfLoadDatabase file rows else file))

/-- `oauth_read_tokens`. What the table has not stays in the configuration, but not in memory. -/
def oauthReadTokens (oa : BXOAuth) (rows : Tokens) : BXOAuth where
  conf :=
    { access := if tokenPresent rows.access then rows.access else oa.conf.access
      refresh := if tokenPresent rows.refresh then rows.refresh else oa.conf.refresh
      expiresAt := rows.expiresAt.or oa.conf.expiresAt }
  accessToken := rows.access.filter (· ≠ "")
  refreshToken := rows.refresh.filter (· ≠ "")
  expiresAt := rows.expiresAt.getD 0
  tokensDirty := oa.tokensDirty

inductive BXOauthAction
  | use
  | refresh
  | needLogin
deriving DecidableEq, Repr

def bxOauthDecide (force : Bool) (rejected access refresh : Option String) (expiresAt now : Int) : BXOauthAction :=
  let accessOk := tokenPresent access && now + bxOauthSkewSec < expiresAt
  if !force && accessOk then .use
  else if force && accessOk && (!tokenPresent rejected || rejected ≠ access) then .use
  else if !tokenPresent refresh then .needLogin
  else .refresh

/-- A refresh token is posted only when there is one. -/
theorem tokenPresent_of_decide {force : Bool} {rejected access refresh : Option String} {expiresAt now : Int}
    (h : bxOauthDecide force rejected access refresh expiresAt now = .refresh) : tokenPresent refresh := by
  unfold bxOauthDecide at h
  dsimp only at h
  split_ifs at h with _ _ hmissing
  simpa using hmissing

/-! ### Writing the tokens -/

/-- The tokens in memory. -/
def BXOAuth.tokens (oa : BXOAuth) : Tokens where
  access := oa.accessToken
  refresh := oa.refreshToken
  expiresAt := oa.expiresAt

/-- How the transaction of `oauth_write_once` ends. -/
inductive Commit
  /-- It is rolled back. -/
  | failed
  /-- It is committed, and COMMIT returns an error. -/
  | unreported
  | committed
deriving DecidableEq, Repr

/-- The rows an attempt writes, if it gets so far. -/
def writtenTokens (oa : BXOAuth) : Option Tokens :=
  match oa.accessToken, oa.refreshToken with
  | some access, some refresh =>
    if oa.expiresAt < 0 ∨ (intMax : Int) < oa.expiresAt then none
    else some { access, refresh, expiresAt := oa.expiresAt }
  | _, _ => none

/-- `oauth_write_once`: whether it succeeded, and the rows. -/
def oauthWriteOnce (oa : BXOAuth) (rows : Tokens) (commit : Commit) : Bool × BXOAuth × Tokens :=
  match writtenTokens oa, commit with
  | none, _ => (false, oa, rows)
  | some _, .failed => (false, oa, rows)
  | some tokens, .unreported => (false, oa, tokens)
  | some tokens, .committed => (true, { oa with conf := tokens }, tokens)

/-! ### The token request -/

/-- A reply that has an access token. -/
structure TokenReply where
  access : String
  refresh : Option String
  expiresIn : Int
deriving DecidableEq, Repr

/-- What becomes of a POST of a refresh token or of a code. -/
inductive Posted
  /-- It is not sent or not answered, and the server exchanged nothing. -/
  | failed
  | error (invalidGrant : Bool)
  /-- The server exchanged it. The reply is lost or has no access token, or it is read. -/
  | exchanged (reply : Option TokenReply)
deriving DecidableEq, Repr

/-- The tokens of a reply in memory. -/
def keepReply (oa : BXOAuth) (reply : TokenReply) (now : Int) : BXOAuth :=
  { oa with
    accessToken := some reply.access
    refreshToken := reply.refresh.or oa.refreshToken
    expiresAt := now + if reply.expiresIn ≤ 0 then bxOauthDefaultTtlSec else reply.expiresIn }

/-- The table and the server. The server has a list of the refresh tokens it exchanged, and one of the tokens it
    issued, the newest first. -/
structure OAuthData where
  rows : Tokens
  exchanged : List String
  issued : List Tokens
deriving DecidableEq, Repr

/-! ### One process -/

/-- What a process takes the lock for: `bx_oauth_ensure` with the copy of the access token, or `exchange_code`. -/
inductive LockUse
  | ensure (force : Bool) (rejected : Option String)
  | login
deriving DecidableEq, Repr

/-- What `oauth_write_tokens` is called for: tokens of an earlier call, or a reply to either request. -/
inductive WriteUse
  | kept
  | refreshed
  | login
deriving DecidableEq, Repr

/-- Where a process is outside the lock. -/
inductive OAuthOutside
  | idle
  /-- Before `oauth_lock`. -/
  | locking (use : LockUse)
deriving DecidableEq, Repr

/-- Where a process is that has the lock. -/
inductive OAuthInside
  | locked (use : LockUse)
  /-- Before the POST of the refresh token, or of the code. -/
  | posting (login : Bool)
  /-- Before an attempt of `oauth_write_tokens`. -/
  | writing (use : WriteUse) (attempt : Nat)
  /-- Before `oauth_unlock`, with what is returned after it. -/
  | unlocking (login ok : Bool)
deriving DecidableEq, Repr

/-- One step of a process, with what it meets. -/
inductive OAuthMove
  /-- A new process that will refresh, or one that logs in and has its code. -/
  | start (file : Tokens) (loaded : Bool)
  | login (file : Tokens) (loaded : Bool)
  | reload (loaded : Bool)
  | ensure (force : Bool) (now : Int)
  | lock (got : Bool)
  /-- What `bx_oauth_ensure` does with the lock before it posts. -/
  | decide (readable : Bool) (now : Int)
  | post (posted : Posted) (now : Int)
  | write (commit : Commit) (now : Int)
  | unlock
deriving DecidableEq, Repr

/-- `bx_oauth_ensure` up to `oauth_lock`. -/
def ensureUnlocked (oa : BXOAuth) (force : Bool) (now : Int) : OAuthOutside :=
  if !oa.tokensDirty && !force && accessUsable oa.accessToken oa.expiresAt now then .idle
  else .locking (.ensure force (oa.accessToken.filter (· ≠ "")))

/-- `bx_oauth_ensure` from `oauth_lock` to `refresh_tokens`. -/
def ensureLocked (oa : BXOAuth) (force : Bool) (rejected : Option String) (rows : Tokens) (readable : Bool) (now : Int) :
    BXOAuth × OAuthInside :=
  if oa.tokensDirty && !force && accessUsable oa.accessToken oa.expiresAt now then (oa, .writing .kept 0)
  else if oa.tokensDirty then (oa, if tokenPresent oa.refreshToken then .posting false else .unlocking false false)
  else if !readable then (oa, .unlocking false false)
  else
    let oa := oauthReadTokens oa rows
    match bxOauthDecide force rejected oa.accessToken oa.refreshToken oa.expiresAt now with
    | .use => (oa, .unlocking false true)
    | .needLogin => (oa, .unlocking false false)
    | .refresh => (oa, .posting false)

/-- `post_token`, from `refresh_tokens` or `exchange_code`. -/
def postToken (oa : BXOAuth) (login : Bool) (data : OAuthData) (posted : Posted) (now : Int) :
    (BXOAuth × OAuthInside) × OAuthData :=
  match posted with
  | .failed => ((oa, .unlocking login false), data)
  | .error invalidGrant =>
    (({ oa with tokensDirty := oa.tokensDirty && !(invalidGrant && !login) }, .unlocking login false), data)
  | .exchanged reply =>
    let exchanged := if login then data.exchanged else oa.refreshToken.toList ++ data.exchanged
    match reply with
    | none => ((oa, .unlocking login false), { data with exchanged })
    | some reply =>
      let kept := keepReply oa reply now
      let data := { data with exchanged, issued := kept.tokens :: data.issued }
      if kept.refreshToken.isNone then (({ kept with expiresAt := oa.expiresAt }, .unlocking login false), data)
      else ((kept, .writing (if login then .login else .refreshed) 0), data)

/-- What is returned after `oauth_write_tokens`. Tokens that could not be saved can still be used. -/
def writeReturned (oa : BXOAuth) (use : WriteUse) (saved : Bool) (now : Int) : Bool :=
  match use with
  | .kept => true
  | .refreshed => saved || accessUsable oa.accessToken oa.expiresAt now
  | .login => saved

/-- One attempt of `oauth_write_tokens`. -/
def writeAttempt (oa : BXOAuth) (use : WriteUse) (attempt : Nat) (rows : Tokens) (commit : Commit) (now : Int) :
    (BXOAuth × OAuthInside) × Tokens :=
  let once := oauthWriteOnce oa rows commit
  let login := use = .login
  if once.1 then
    (({ once.2.1 with tokensDirty := false }, .unlocking login (writeReturned oa use true now)), once.2.2)
  else if attempt + 1 < bxOauthWriteAttempts then ((once.2.1, .writing use (attempt + 1)), once.2.2)
  else (({ once.2.1 with tokensDirty := true }, .unlocking login (writeReturned oa use false now)), once.2.2)

/-- A step outside the lock. A move that does not fit leaves the process as it is. -/
def oauthOutside (p : BXOAuth × OAuthOutside) (data : OAuthData) (move : OAuthMove) :
    (BXOAuth × OAuthOutside) ⊕ (BXOAuth × OAuthInside) :=
  match p.2, move with
  | _, .start file loaded => .inl (bxOauthStarted file data.rows loaded, .idle)
  | _, .login file loaded =>
    .inl (bxOauthInit (if loaded then bxConfLoadDatabase file data.rows else file), .locking .login)
  | .idle, .reload loaded => .inl (bxOauthReload p.1 data.rows loaded, .idle)
  | .idle, .ensure force now => .inl (p.1, ensureUnlocked p.1 force now)
  | .locking use, .lock got => if got then .inr (p.1, .locked use) else .inl (p.1, .idle)
  | _, _ => .inl p

/-- A step of the process that has the lock. A process that ends loses its connection, and the lock with it. -/
def oauthInside (p : BXOAuth × OAuthInside) (data : OAuthData) (move : OAuthMove) :
    ((BXOAuth × OAuthOutside) ⊕ (BXOAuth × OAuthInside)) × OAuthData :=
  match p.2, move with
  | _, .start file loaded => (.inl (bxOauthStarted file data.rows loaded, .idle), data)
  | _, .login file loaded =>
    (.inl (bxOauthInit (if loaded then bxConfLoadDatabase file data.rows else file), .locking .login), data)
  | .locked (.ensure force rejected), .decide readable now =>
    (.inr (ensureLocked p.1 force rejected data.rows readable now), data)
  | .locked .login, .decide _ _ => (.inr (p.1, .posting true), data)
  | .posting login, .post posted now =>
    let r := postToken p.1 login data posted now
    (.inr r.1, r.2)
  | .writing use attempt, .write commit now =>
    let r := writeAttempt p.1 use attempt data.rows commit now
    (.inr r.1, { data with rows := r.2 })
  | .unlocking login ok, .unlock =>
    (.inl ({ p.1 with tokensDirty := p.1.tokensDirty && !(login && !ok) }, .idle), data)
  | _, _ => (.inr p, data)

/-- The lock is not acquired when another process has it. -/
def oauthProgram : Critical.Program OAuthData (BXOAuth × OAuthOutside) (BXOAuth × OAuthInside) OAuthMove where
  outside := oauthOutside
  denied p _ _ := (p.1, .idle)
  inside := oauthInside

/-! ### What a step can be -/

/-- What a step outside the lock can be. -/
inductive OAuthOutsideStep (oa : BXOAuth) (data : OAuthData) :
    OAuthOutside → OAuthMove → (BXOAuth × OAuthOutside) ⊕ (BXOAuth × OAuthInside) → Prop
  | start (pc : OAuthOutside) (file : Tokens) (loaded : Bool) :
    OAuthOutsideStep oa data pc (.start file loaded) (.inl (bxOauthStarted file data.rows loaded, .idle))
  | login (pc : OAuthOutside) (file : Tokens) (loaded : Bool) :
    OAuthOutsideStep oa data pc (.login file loaded)
      (.inl (bxOauthInit (if loaded then bxConfLoadDatabase file data.rows else file), .locking .login))
  | reload (loaded : Bool) : OAuthOutsideStep oa data .idle (.reload loaded) (.inl (bxOauthReload oa data.rows loaded, .idle))
  | ensure (force : Bool) (now : Int) :
    OAuthOutsideStep oa data .idle (.ensure force now) (.inl (oa, ensureUnlocked oa force now))
  | lock (use : LockUse) : OAuthOutsideStep oa data (.locking use) (.lock true) (.inr (oa, .locked use))
  | notLocked (use : LockUse) : OAuthOutsideStep oa data (.locking use) (.lock false) (.inl (oa, .idle))
  | unfit (pc : OAuthOutside) (move : OAuthMove) : OAuthOutsideStep oa data pc move (.inl (oa, pc))

theorem oauthOutside_step (oa : BXOAuth) (pc : OAuthOutside) (data : OAuthData) (move : OAuthMove) :
    OAuthOutsideStep oa data pc move (oauthOutside (oa, pc) data move) := by
  unfold oauthOutside
  dsimp only
  split
  · exact .start pc _ _
  · exact .login pc _ _
  · exact .reload _
  · exact .ensure _ _
  · rename_i use got
    cases got with
    | true => exact .lock use
    | false => exact .notLocked use
  · exact .unfit pc move

/-- What a step of the process that has the lock can be. -/
inductive OAuthInsideStep (oa : BXOAuth) (data : OAuthData) :
    OAuthInside → OAuthMove → ((BXOAuth × OAuthOutside) ⊕ (BXOAuth × OAuthInside)) × OAuthData → Prop
  | start (pc : OAuthInside) (file : Tokens) (loaded : Bool) :
    OAuthInsideStep oa data pc (.start file loaded) (.inl (bxOauthStarted file data.rows loaded, .idle), data)
  | login (pc : OAuthInside) (file : Tokens) (loaded : Bool) :
    OAuthInsideStep oa data pc (.login file loaded)
      (.inl (bxOauthInit (if loaded then bxConfLoadDatabase file data.rows else file), .locking .login), data)
  | ensure (force : Bool) (rejected : Option String) (readable : Bool) (now : Int) :
    OAuthInsideStep oa data (.locked (.ensure force rejected)) (.decide readable now)
      (.inr (ensureLocked oa force rejected data.rows readable now), data)
  | code (readable : Bool) (now : Int) :
    OAuthInsideStep oa data (.locked .login) (.decide readable now) (.inr (oa, .posting true), data)
  | post (login : Bool) (posted : Posted) (now : Int) :
    OAuthInsideStep oa data (.posting login) (.post posted now)
      (.inr (postToken oa login data posted now).1, (postToken oa login data posted now).2)
  | write (use : WriteUse) (attempt : Nat) (commit : Commit) (now : Int) :
    OAuthInsideStep oa data (.writing use attempt) (.write commit now)
      (.inr (writeAttempt oa use attempt data.rows commit now).1,
        { data with rows := (writeAttempt oa use attempt data.rows commit now).2 })
  | unlock (login ok : Bool) :
    OAuthInsideStep oa data (.unlocking login ok) .unlock
      (.inl ({ oa with tokensDirty := oa.tokensDirty && !(login && !ok) }, .idle), data)
  | unfit (pc : OAuthInside) (move : OAuthMove) : OAuthInsideStep oa data pc move (.inr (oa, pc), data)

theorem oauthInside_step (oa : BXOAuth) (pc : OAuthInside) (data : OAuthData) (move : OAuthMove) :
    OAuthInsideStep oa data pc move (oauthInside (oa, pc) data move) := by
  unfold oauthInside
  dsimp only
  split
  · exact .start pc _ _
  · exact .login pc _ _
  · exact .ensure _ _ _ _
  · exact .code _ _
  · exact .post _ _ _
  · exact .write _ _ _ _
  · exact .unlock _ _
  · exact .unfit pc move

/-! ### The dirty flag -/

section

variable (oa : BXOAuth) (file rows : Tokens) (loaded : Bool)

@[simp] theorem tokensDirty_loadTokens : (loadTokens oa).tokensDirty = oa.tokensDirty := rfl
@[simp] theorem tokensDirty_bxOauthInit : (bxOauthInit file).tokensDirty = false := rfl
@[simp] theorem tokensDirty_bxOauthStarted : (bxOauthStarted file rows loaded).tokensDirty = false := rfl
@[simp] theorem tokensDirty_oauthReadTokens : (oauthReadTokens oa rows).tokensDirty = oa.tokensDirty := rfl

@[simp] theorem tokensDirty_bxOauthReload : (bxOauthReload oa rows loaded).tokensDirty = oa.tokensDirty := by
  unfold bxOauthReload
  split_ifs <;> rfl

end

/-! ### What is written -/

section

variable (oa : BXOAuth) (rows : Tokens) (commit : Commit)

theorem oauthWriteOnce_memory : (oauthWriteOnce oa rows commit).2.1 = { oa with conf := (oauthWriteOnce oa rows commit).2.1.conf } := by
  unfold oauthWriteOnce
  split <;> rfl

variable {oa rows commit}

theorem writtenTokens_eq {tokens : Tokens} (h : writtenTokens oa = some tokens) : tokens = oa.tokens := by
  unfold writtenTokens at h
  unfold BXOAuth.tokens
  split at h
  · rename_i access refresh haccess hrefresh
    split at h
    · exact nomatch h
    · rw [haccess, hrefresh]
      exact (Option.some.inj h).symm
  · exact nomatch h

/-- The rows are left, or replaced by the tokens in memory as a whole. -/
theorem oauthWriteOnce_rows (oa : BXOAuth) (rows : Tokens) (commit : Commit) :
    (oauthWriteOnce oa rows commit).2.2 = rows ∨ (oauthWriteOnce oa rows commit).2.2 = oa.tokens := by
  unfold oauthWriteOnce
  split
  · exact Or.inl rfl
  · exact Or.inl rfl
  · exact Or.inr (writtenTokens_eq ‹_›)
  · exact Or.inr (writtenTokens_eq ‹_›)

theorem oauthWriteOnce_saved (h : (oauthWriteOnce oa rows commit).1 = true) : (oauthWriteOnce oa rows commit).2.2 = oa.tokens := by
  unfold oauthWriteOnce at h ⊢
  split at h
  · exact nomatch h
  · exact nomatch h
  · exact nomatch h
  · exact writtenTokens_eq ‹_›

end

/-! ### Any number of processes -/

section

variable {ι : Type}

abbrev OAuthState (ι : Type) := Critical.State ι OAuthData (BXOAuth × OAuthOutside) (BXOAuth × OAuthInside)

/-- One step of one process, with the state it meets. -/
structure OAuthCall (ι : Type) where
  pre : OAuthState ι
  pid : ι
  move : OAuthMove

variable [DecidableEq ι]

def OAuthCall.post (call : OAuthCall ι) : OAuthState ι := oauthProgram.step call.pre call.pid call.move

def oauthStep (s : OAuthState ι) (input : ι × OAuthMove) : OAuthCall ι × OAuthState ι :=
  let call := { pre := s, pid := input.1, move := input.2 }
  (call, call.post)

/-- Processes that start over a table, with the lock free. Each has the configuration it was started with. -/
def oauthInit (data : OAuthData) (conf : ι → Tokens) : OAuthState ι where
  lock := none
  data := data
  procs i := .inl (bxOauthStarted (conf i) data.rows true, .idle)

end

end BxSync
