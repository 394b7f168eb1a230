import Mathlib.Data.List.Basic
import Mathlib.Data.Set.Basic

/-! Sequences of writes to keys, and what a store holds after them: the last write to each key, over what it held
    before. -/

namespace LastWrite

variable {κ ν σ : Type} [DecidableEq κ]

/-- The value of the last write to a key. -/
def last (k : κ) : List (κ × ν) → Option ν
  | [] => none
  | w :: writes => (last k writes).or (if w.1 = k then some w.2 else none)

end LastWrite
