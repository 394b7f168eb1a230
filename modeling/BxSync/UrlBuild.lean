import BxSync.Base
import BxSync.Json
import BxSync.Lib.Block

/-! The URL of a request (`_bx_build_url` in `bx_net.c`), in a block of memory that an int indexes. What C leaves
    undefined is none, and so is an access outside of the block. The allocation succeeds. -/

namespace BxSync

/-- `BXNetURLParams`, a parameter of the list. -/
structure BXNetURLParam where
  name : CText
  value : CText
deriving DecidableEq

/-- The first pass over the parameters. -/
def paramsLen : List BXNetURLParam → Nat
  | [] => 0
  | current :: rest =>
    1 + current.name.bytes.length + current.value.bytes.length + ((if rest = [] then 0 else 1) + paramsLen rest)

/-- The conversion of a size to int. -/
def toCInt (n : Int) : Int := Int.bmod n (2 ^ 32)

/-- `++` of an int. -/
def nextInt (j : Int) : Option Int := if j = intMax then none else some (j + 1)

/-- Bytes written from an index on. -/
def storeAt (url : List UInt8) (j : Int) (bytes : List UInt8) : Option (List UInt8) :=
  if j < 0 then none else Block.store url j.toNat bytes

/-- `snprintf` with `"%s/%s"`: the text and its NUL in at most `size` bytes, and whether it succeeds. A text whose length
    is no int is an error. -/
def printAddress (url : List UInt8) (size : Nat) (endpoint path : CText) : Option (Bool × List UInt8) :=
  let text := endpoint.bytes ++ 47 :: path.bytes
  if intMax < text.length then some (false, url)
  else (Block.store url 0 (text.take (size - 1) ++ [0])).map fun url => (true, url)

/-- The loop that removes slashes, from an index that is not negative, with the bytes that are left before `url_len`. -/
def removeSlashes : Nat → Nat → Nat → Bool → List UInt8 → Option (Nat × List UInt8)
  | 0, _, j, _, url => some (j, url)
  | left + 1, i, j, prevWasSlash, url =>
    match url[i]? with
    | none => none
    | some c =>
      if c = 0 then some (j, url)
      else if prevWasSlash && c = 47 then removeSlashes left (i + 1) j prevWasSlash url
      else do
        let url ← Block.store url j [c]
        removeSlashes left (i + 1) (j + 1) (c = 47) url

/-- The same from any index. Where it is negative, `i < url_len` compares sizes and fails. -/
def removeSlashesFrom (urlLen : Nat) (start : Int) (url : List UInt8) : Option (Int × List UInt8) :=
  if start < 0 then some (start, url)
  else
    (removeSlashes (urlLen - start.toNat) start.toNat start.toNat false url).map fun removed =>
      ((removed.1 : Int), removed.2)

/-- The second pass over the parameters. -/
def writeParams : List BXNetURLParam → Int → List UInt8 → Option (List UInt8)
  | [], _, url => some url
  | head :: rest, j, url => do
    let url ← storeAt url j head.name.bytes
    let j := toCInt (j + head.name.bytes.length)
    let url ← storeAt url j [61]
    let j ← nextInt j
    let url ← storeAt url j head.value.bytes
    let j := toCInt (j + head.value.bytes.length)
    match rest with
    | [] => some url
    | _ :: _ =>
      let url ← storeAt url j [38]
      let j ← nextInt j
      writeParams rest j url

/-- `_bx_build_url`. -/
def bxBuildUrl (endpoint path : CText) (head : List BXNetURLParam) : Option (Option (List UInt8)) := do
  let endpointLen := endpoint.bytes.length
  let urlLen := paramsLen head + (endpointLen + 1) + (path.bytes.length + 1)
  let url := List.replicate (urlLen + 1) 0
  let (printed, url) ← printAddress url urlLen endpoint path
  if !printed then some none
  else do
    let (j, url) ← removeSlashesFrom urlLen (toCInt ((endpointLen : Int) - 2)) url
    let url ← storeAt url j (List.replicate ((urlLen : Int) - j).toNat 0)
    match head with
    | [] => some (some url)
    | _ :: _ => do
      let url ← storeAt url j [63]
      let j ← nextInt j
      (writeParams head j url).map some

end BxSync
