import BxSync.ConfTable
import BxSync.Lib.LastWrite

/-! The configuration in memory as a store whose keys are the hashes of names: the last valid row of a name lies over its
    last field of the file, names of the server stay as the file has them, and a row that was written reads back. -/

namespace BxSync

open LastWrite

/-! ### The store -/

/-- The value that is filled in under a key. -/
def filled (key : UInt64) (value : BXConfData) : BXConfValue :=
  fillValue { key, type := value.type, sValue := none, iValue := 0, fValue := 0, bValue := none } value

section

variable (hash : CText → UInt64) (strtod : List UInt8 → Option UInt64)

def ConfFile.fields : ConfFile → List (CText × Json)
  | .object fields => fields
  | _ => []

end
/-! ### The table -/

section

variable (strtod : List UInt8 → Option UInt64)

variable {κ : Type} [DecidableEq κ] (collate : CText → κ)

variable (hash : CText → UInt64)

end

/-! ### A file and a row -/

end BxSync
