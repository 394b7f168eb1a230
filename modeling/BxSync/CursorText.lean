import BxSync.Chain
import BxSync.Json
import BxSync.Lib.Decimal

/-! The saved row of the chain as a text, and the three rows of the previous daemon (`bx_chain.c`, `bx_chain_db.c`).

    A text that is given ends at its first NUL. -/

namespace BxSync

def bxChainPhaseName : BXChainPhase → String
  | .contactActive => "contact-active"
  | .contactArchived => "contact-archived"
  | .project => "project"
  | .invoiceList => "invoice-list"
  | .invoiceMissed => "invoice-missed"

/-- The first `len` bytes of a text name a phase. -/
def parsePhase (name : List UInt8) (len : Nat) : Option BXChainPhase :=
  [.contactActive, .contactArchived, .project, .invoiceList, .invoiceMissed].find? fun phase =>
    let known := asciiBytes (bxChainPhaseName phase)
    known.length = len && name.take len = known

/-- `strtol` with base 10, and the text from its end pointer on. Nothing is read where no number is. -/
def strtol (s : List UInt8) : Option (Int × List UInt8) :=
  (Decimal.signed s).map fun r => (max (-2 ^ 63) (min r.1 (2 ^ 63 - 1)), r.2)

def parseStored (text : Option (List UInt8)) : Option BXChainCursor :=
  match text with
  | none => none
  | some stored =>
    let text := cString stored
    let len := (text.takeWhile (· ≠ 58)).length
    match text.drop len with
    | [] => none
    | _ :: rest =>
      if len = 0 then none
      else
        match parsePhase text len with
        | none => none
        | some phase =>
          match strtol rest with
          | none => none
          | some (offset, behind) =>
            if behind ≠ [] ∨ offset < 0 ∨ intMax < offset then none
            else some (normalize { phase, offset := offset.toNat })

/-- `strcmp` finds no difference. -/
def sameText (word : String) (s : List UInt8) : Bool := asciiBytes word = cString s

def parseLegacy (step : Option (List UInt8)) (offset pass : Int32) : Option BXChainCursor :=
  match step with
  | none => none
  | some step =>
    let offset := offset.toInt.toNat
    if sameText "contact" step then some { phase := if pass = 1 then .contactArchived else .contactActive, offset }
    else if sameText "project" step then some { phase := .project, offset }
    else if sameText "invoice" step then
      some (if pass = 1 then { phase := .invoiceMissed, offset := 0 } else { phase := .invoiceList, offset })
    else none

/-- The three rows of the previous daemon. -/
structure LegacyRows where
  step : Option (List UInt8)
  offset : Int32
  pass : Int32
deriving DecidableEq, Repr

def bxChainDecode (syncChain : Option (List UInt8)) (legacy : LegacyRows) : BXChainCursor :=
  match parseStored syncChain with
  | some cursor => cursor
  | none => normalize ((parseLegacy legacy.step legacy.offset legacy.pass).getD { phase := .contactActive, offset := 0 })

/-- The text `bx_chain_save` renders into its buffer of 64 bytes. -/
def renderCursor (cursor : BXChainCursor) : Option (List UInt8) :=
  let value := asciiBytes (bxChainPhaseName cursor.phase) ++ 58 :: Decimal.digits cursor.offset
  if 64 ≤ value.length then none else some value

end BxSync
