import BxSync.Json

/-! The log (`bx_utils.c`): callers push messages on a stack, and a thread takes it in rounds and once more when it ends.
    The mutex makes a push, a round and the final drain one action each. The messages of the stack are given from its
    head on. -/

namespace BxSync

/-- `LOG_MSG_BUFFER_MAX`. -/
def logMsgBufferMax : Nat := 500

/-- A call of `_bx_log_queue`, with the time, and whether its message can be allocated and the mutex locked. -/
structure LogCall where
  msg : CText
  err : Option CText
  file : CText
  line : Int32
  thid : UInt64
  time : Int64
  allocates : Bool
  locks : Bool
deriving DecidableEq

/-- `%lX`. -/
def printUpperHex (n : Nat) : List UInt8 := (Nat.toDigits 16 n).map fun c => UInt8.ofNat c.toUpper.toNat

/-- What `snprintf` leaves in the buffer of the message. -/
def logText (call : LogCall) : List UInt8 :=
  let stamp := 91 :: (Decimal.signedDigits call.time.toInt ++ asciiBytes "] ")
  let text :=
    match call.err with
    | none => stamp ++ call.msg.bytes
    | some err =>
      stamp ++ err.bytes ++ asciiBytes " (" ++ printUpperHex call.thid.toNat ++ asciiBytes ") [" ++ call.file.bytes ++
        58 :: (Decimal.signedDigits call.line.toInt ++ asciiBytes "] " ++ call.msg.bytes)
  text.take (logMsgBufferMax - 1)

/-- Where `bx_log_out_thread` is: before it looks at `logthread`, before a round or the final drain, or at its end. -/
inductive LogThreadAt
  | test
  | round
  | final
  | ended
deriving DecidableEq, Repr

/-- `LOG` with the flag and the position of the thread, and the lines written. `fp` says whether the file is open. -/
structure LogState where
  fp : Bool
  head : List (List UInt8)
  logthread : Bool
  place : LogThreadAt
  out : List (List UInt8)
deriving DecidableEq, Repr

def logStart (fp : Bool) : LogState := { fp, head := [], logthread := true, place := .test, out := [] }

inductive LogAction
  | queue (call : LogCall)
  | clear
  | thread
deriving DecidableEq

/-- The loop that reverses the stack of a round. -/
def reverseLoop : List (List UInt8) → List (List UInt8) → List (List UInt8)
  | [], reversed => reversed
  | current :: next, reversed => reverseLoop next (current :: reversed)

def logEnd : List UInt8 := asciiBytes "--- END OF LOG THREAD ---"

/-- An action. To write to a file that is not open is undefined. -/
def logStep (s : LogState) : LogAction → Option LogState
  | .queue call => some (if call.allocates && call.locks then { s with head := logText call :: s.head } else s)
  | .clear => some { s with logthread := false }
  | .thread =>
    match s.place with
    | .test => some { s with place := if s.logthread then .round else .final }
    | .round =>
      some { s with head := [], out := if s.fp then s.out ++ reverseLoop s.head [] else s.out, place := .test }
    | .final => if s.fp then some { s with out := s.out ++ s.head ++ [logEnd], place := .ended } else none
    | .ended => some s

/-- An interleaving. -/
def runLog (s : LogState) (actions : List LogAction) : Option LogState := actions.foldlM logStep s

end BxSync
