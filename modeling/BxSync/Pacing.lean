import Mathlib.Algebra.Order.Field.Rat
import BxSync.Lib.Machine
import BxSync.RateLimit
import BxSync.Transfer

/-! How long the request worker sleeps after a request (`_bx_net_loop_worker` in `bx_net.c`), from what its fetches have
    counted and what the headers of their answers have stored. The floats of the source are exact rationals here. What C
    leaves undefined is none: a division by zero, an int that overflows, a conversion out of the range of int. -/

namespace BxSync

/-- What `BXNet` has of the pace. -/
structure BXNet where
  limits : BXNetRatelimit
  requestCount : UInt64
  averageRequestTime : UInt64
deriving DecidableEq, Repr

/-- `bx_net_init`. -/
def bxNetInit : BXNet := { limits := ⟨0, 0, 0⟩, requestCount := 0, averageRequestTime := 0 }

/-! ### The fetch -/

/-- An attempt with the header lines of its answer, what lies in memory behind each of them, and how long it takes. -/
structure PacedAnswers extends AttemptAnswers where
  lines : List (HeaderLine × Memory)
  elapsed : UInt64

/-- The header callback over the lines of an answer. -/
def readHeaders (lines : List (HeaderLine × Memory)) (limits : BXNetRatelimit) : BXNetRatelimit :=
  lines.foldl (fun limits line => (line.1.handle line.2 limits).limits) limits

/-- A transfer that has come to its end is counted, and divided by the count. -/
def countRequest (elapsed : UInt64) (net : BXNet) : Option BXNet :=
  let count := net.requestCount + 1
  if count = 0 then none
  else some
    { net with
      requestCount := count
      averageRequestTime := (elapsed + net.averageRequestTime * count) / count }

/-- The loop of `bx_fetch`, with what it does to the limits and the counters. -/
def pacedFetchLoop (answers : Nat → PacedAnswers) : Nat → BXNetBuffer → BXNet → Option (Option BXNetBuffer × BXNet)
  | 0, _, net => some (none, net)
  | left + 1, b, net =>
    let attempt := 2 - (left + 1)
    let b : BXNetBuffer := if b.data.isSome then { b with data := none, dataLen := 0 } else b
    let b : BXNetBuffer := { b with httpCode := 0 }
    if !(answers attempt).prepared then some (none, net)
    else
      let net := { net with limits := readHeaders (answers attempt).lines net.limits }
      let performed := curlEasyPerform (answers attempt).transfer b
      if !performed.1 then some (none, net)
      else do
        let net ← countRequest (answers attempt).elapsed net
        let b : BXNetBuffer := { performed.2 with httpCode := (answers attempt).transfer.httpCode }
        if b.httpCode ≠ 401 ∨ attempt = 1 then some (some b, net) else pacedFetchLoop answers left b net

def pacedFetch (answers : Nat → PacedAnswers) (net : BXNet) : Option (Option BXNetBuffer × BXNet) :=
  pacedFetchLoop answers 2 { httpCode := 0, data := none, dataLen := 0 } net

/-! ### The sleep -/

/-- `MS_TO_US(BX_NET_DEFAULT_MS_SLEEP)`. -/
def usDefault : Int := 125 * 1000

/-- A value of type int. -/
def intOf (n : Int) : Option Int := if -2 ^ 31 ≤ n ∧ n < 2 ^ 31 then some n else none

/-- `SEC_TO_US` of an int. -/
def secToUs (s : Int) : Option Int := do
  let ms ← intOf (s * 1000)
  intOf (ms * 1000)

def divided (x y : ℚ) : Option ℚ := if y = 0 then none else some (x / y)

/-- The conversion to int drops the fraction. -/
def truncated (x : ℚ) : Option Int := intOf (x.num.tdiv x.den)

/-- `us_sleep_1`: the default, or the time to the reset in equal shares. -/
def sleepOf (limits : BXNetRatelimit) : Option ℚ :=
  if limits.maxRequest = 0 then some (usDefault : ℚ)
  else do
    let reset ← secToUs limits.resetTime.toInt
    divided reset (1 * limits.remainingRequest.toInt)

/-- `us_sleep` after an iteration. Its product with the count is one of 64 bits without a sign. -/
def pace (net : BXNet) (usSleep : Int) : Option Int := do
  let usSleep1 ← sleepOf net.limits
  let slept := UInt64.ofInt usSleep * (net.requestCount - 1)
  let average ← divided (usSleep1 + slept.toNat) net.requestCount.toNat
  let us ← truncated average
  some (if us ≤ 0 ∨ usDefault < us then usDefault else us)

/-! ### The worker -/

/-- An iteration: what it starts with, the answers its fetch gets, what the sleep is computed from, and the sleep. -/
structure PaceCall where
  pre : Option (BXNet × Int)
  answers : Nat → PacedAnswers
  met : Option BXNet
  us : Option Int

/-- The state is what the worker keeps between two requests, as long as everything was defined. -/
def paceStep (s : Option (BXNet × Int)) (answers : Nat → PacedAnswers) : PaceCall × Option (BXNet × Int) :=
  let met := s.bind fun s => (pacedFetch answers s.1).map Prod.snd
  let us := s.bind fun s => met.bind fun net => pace net s.2
  ({ pre := s, answers, met, us }, met.bind fun net => us.map fun us => (net, us))

end BxSync
