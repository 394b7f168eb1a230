import BxSync.OAuth

/-! The access tokens `bx_fetch` sends (`bx_net.c`): its two attempts, each with a token from `bx_oauth_ensure`, among
    any number of processes.

    A process has one BXNet, and a fetch holds its mutex from the start to the end. So while it runs, its process does
    nothing else with the tokens. -/

namespace BxSync

/-- `bx_fetch` in its loop. -/
structure BXFetch where
  attempt : Nat
  /-- The access token of the header, once `bx_auth_header` has returned it. -/
  header : Option String
  /-- The requests it sent, with the status of the answer if there was one. -/
  sent : List (String × Option Nat)
deriving DecidableEq, Repr

inductive FetchMove
  | fetch (now : Int)
  /-- `curl_easy_perform`, and what `time` returns in the attempt after it. -/
  | perform (httpCode : Option Nat) (now : Int)
  /-- The request cannot be set up. -/
  | fail
  | oauth (move : OAuthMove)
deriving DecidableEq, Repr

/-- `bx_auth_header` after `bx_oauth_ensure`. A fetch without a header ends. -/
def bxAuthHeader (ok : Bool) (oa : BXOAuth) (f : BXFetch) : Option BXFetch :=
  if ok then oa.accessToken.map fun token => { f with header := some token } else none

/-- The start of an attempt, up to `oauth_lock`. -/
def bxFetchAttempt (oa : BXOAuth) (attempt : Nat) (sent : List (String × Option Nat)) (now : Int) :
    (BXOAuth × OAuthOutside) × Option BXFetch :=
  let f := { attempt, header := none, sent }
  match ensureUnlocked oa (decide (0 < attempt)) now with
  | .idle => ((oa, .idle), bxAuthHeader true oa f)
  | .locking use => ((oa, .locking use), some f)

/-- The end of an attempt, with the token it has sent. -/
def bxFetchPerformed (oa : BXOAuth) (f : BXFetch) (token : String) (httpCode : Option Nat) (now : Int) :
    (BXOAuth × OAuthOutside) × Option BXFetch :=
  if httpCode = some 401 ∧ f.attempt + 1 < 2 then bxFetchAttempt oa (f.attempt + 1) (f.sent ++ [(token, httpCode)]) now
  else ((oa, .idle), none)

/-- A process and the fetch it is in. -/
abbrev FetchOutside := (BXOAuth × OAuthOutside) × Option BXFetch
abbrev FetchInside := (BXOAuth × OAuthInside) × Option BXFetch

/-- A step outside the lock. A fetch that does not get the lock ends, and so does one whose process ends. -/
def fetchOutside (p : FetchOutside) (data : OAuthData) (move : FetchMove) : FetchOutside ⊕ FetchInside :=
  let step (move : OAuthMove) (f : Option BXFetch) := (oauthOutside p.1 data move).map (·, f) (·, f)
  match p.2, move with
  | _, .oauth (.start file loaded) => step (.start file loaded) none
  | _, .oauth (.login file loaded) => step (.login file loaded) none
  | none, .oauth move => step move none
  | none, .fetch now =>
    match p.1.2 with
    | .idle => .inl (bxFetchAttempt p.1.1 0 [] now)
    | .locking _ => .inl p
  | some f, .oauth (.lock got) => if f.header.isNone then step (.lock got) (if got then some f else none) else .inl p
  | some f, .perform httpCode now =>
    match f.header with
    | some token => .inl (bxFetchPerformed p.1.1 f token httpCode now)
    | none => .inl p
  | some f, .fail => .inl (p.1, if f.header.isSome then none else some f)
  | _, _ => .inl p

/-- What a process that unlocks returns. -/
def OAuthInside.returned : OAuthInside → Bool
  | .unlocking _ ok => ok
  | _ => false

/-- A step of the process that has the lock. -/
def fetchInside (k : FetchInside) (data : OAuthData) (move : FetchMove) : (FetchOutside ⊕ FetchInside) × OAuthData :=
  match move with
  | .oauth move =>
    match oauthInside k.1 data move with
    | (.inr k', data') => (.inr (k', k.2), data')
    | (.inl o, data') => (.inl (o, if move = .unlock then k.2.bind (bxAuthHeader k.1.2.returned o.1) else none), data')
  | _ => (.inr k, data)

def fetchProgram : Critical.Program OAuthData FetchOutside FetchInside FetchMove where
  outside := fetchOutside
  denied p _ _ := ((p.1.1, .idle), none)
  inside := fetchInside

/-! ### Any number of processes -/

section

variable {ι : Type}

abbrev FetchState (ι : Type) := Critical.State ι OAuthData FetchOutside FetchInside

/-- One step of one process, with the state it meets. -/
structure FetchCall (ι : Type) where
  pre : FetchState ι
  pid : ι
  move : FetchMove

variable [DecidableEq ι]

def fetchStep (s : FetchState ι) (input : ι × FetchMove) : FetchCall ι × FetchState ι :=
  ({ pre := s, pid := input.1, move := input.2 }, fetchProgram.step s input.1 input.2)

/-- Processes that start over a table, with the lock free and no fetch. -/
def fetchInit (data : OAuthData) (conf : ι → Tokens) : FetchState ι where
  lock := none
  data := data
  procs i := .inl ((bxOauthStarted (conf i) data.rows true, .idle), none)

end

end BxSync
