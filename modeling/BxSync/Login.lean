import BxSync.CallbackQuery
import BxSync.OAuthLock

/-! The login (`bx_oauth_login`): a URL for the browser with a fresh state and the challenge of a fresh verifier, the wait for
    the callback on the port of the redirect URI or on the terminal, and the exchange of the code.

    The random texts, the digest and the base64 of its bytes, the encoded URL and the decoding of its parameters are
    parameters. Allocations succeed. -/

namespace BxSync

/-- `redirect_port` from the port on. `strtol` clamps a value that is out of its range to one that is refused too. -/
def portOf (rest : List UInt8) : Option Nat :=
  match Decimal.signed rest with
  | none => none
  | some (value, left) =>
    if value < 1 ∨ 65535 < value then none
    else if left.head? ≠ some 47 ∧ left ≠ [] then none
    else some value.toNat

/-- `redirect_port`: the port, or none when it returns false. -/
def redirectPort (uri : CText) : Option Nat :=
  if (asciiBytes "http://127.0.0.1:").isPrefixOf uri.bytes then portOf (uri.bytes.drop 17)
  else if (asciiBytes "http://localhost:").isPrefixOf uri.bytes then portOf (uri.bytes.drop 17)
  else none

/-! ### The URL and the form -/

end BxSync
