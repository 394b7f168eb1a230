import BxSync.Base
import BxSync.Json

/-! The files in the cache directory (`bxobjects/file.c`): the name of a file from its uuid, and what a download does to
    the file system. -/

namespace BxSync

/-! ### Names -/

def isLowerHex (c : UInt8) : Bool := isDigit c || (97 ≤ c && c ≤ 102)

/-- The loop of `uuid_to_hex`, and the bytes in its buffer. It stops at 32 of them. -/
def uuidToHexLoop : List UInt8 → List UInt8 → Option (List UInt8)
  | [], hex => some hex
  | c :: rest, hex =>
    if 32 ≤ hex.length then some hex
    else if c = 45 then uuidToHexLoop rest hex
    else
      let c := if 65 ≤ c && c ≤ 70 then c - 65 + 97 else c
      if !isLowerHex c then none else uuidToHexLoop rest (hex ++ [c])

/-- `uuid_to_hex`. -/
def uuidToHex (uuid : List UInt8) : Option (List UInt8) :=
  match uuidToHexLoop (cString uuid) [] with
  | none => none
  | some hex => if hex.length = 32 then some hex else none

/-! ### Paths -/

def pathSize : Nat := 4096

/-- `snprintf` into a buffer of a path: what it returns, and the text in the buffer. A length that is no int is an
    error. -/
def snprintfPath (text : List UInt8) : Int × List UInt8 :=
  (if text.length ≤ intMax then text.length else -1, text.take (pathSize - 1))

/-- The text, unless it was cut off. -/
def printPath (text : List UInt8) : Option (List UInt8) :=
  let printed := snprintfPath text
  if (pathSize : Int) ≤ printed.1 then none else some printed.2

def cacheSubdirectory (cacheDir hex : List UInt8) : List UInt8 :=
  cacheDir ++ 47 :: hex.take 2 ++ 47 :: (hex.drop 2).take 2

/-- `file_dest_path`. -/
def fileDestPath (cacheDir hex : List UInt8) : Option (List UInt8) :=
  printPath (cacheSubdirectory cacheDir hex ++ 47 :: hex ++ asciiBytes ".bin")

/-! ### The file system -/

/-- What changes the file system. -/
inductive FileOp
  | mkdir (path : List UInt8)
  | write (path : List UInt8)
  | unlink (path : List UInt8)
  | rename (path newPath : List UInt8)
deriving DecidableEq, Repr

/-- The loop of `mkdir_p`: a directory at each slash behind the first byte, and one at the end. A `mkdir` of a directory
    that exists is no failure. -/
def mkdirLoop (mkdir : List UInt8 → Bool) : List UInt8 → List UInt8 → Bool × List FileOp
  | done, [] => (mkdir done, [.mkdir done])
  | done, c :: rest =>
    if c = 47 then
      if mkdir done then
        let next := mkdirLoop mkdir (done ++ [c]) rest
        (next.1, .mkdir done :: next.2)
      else (false, [.mkdir done])
    else mkdirLoop mkdir (done ++ [c]) rest

/-- `mkdir_p`. -/
def mkdirP (mkdir : List UInt8 → Bool) (dir : List UInt8) : Bool × List FileOp :=
  if dir.length = 0 ∨ pathSize ≤ dir.length then (false, [])
  else
    let tmp := if dir.getLast? = some 47 then dir.dropLast else dir
    mkdirLoop mkdir (tmp.take 1) (tmp.drop 1)

/-! ### A download -/

structure DownloadAnswers where
  /-- The size that `stat` finds at the path. -/
  localSize : Option UInt64
  mkdir : List UInt8 → Bool
  httpCode : Option Nat
  hasData : Bool
  opened : Bool
  written : Bool
  renamed : Bool

/-- `download_file`. -/
def downloadFile (cacheDir uuid : Option (List UInt8)) (size : Option UInt64) (a : DownloadAnswers) :
    BXillError × List FileOp :=
  match cacheDir, uuid with
  | some cacheDir, some uuid =>
    match uuidToHex uuid with
    | none => (.noError, [])
    | some hex =>
      match fileDestPath cacheDir hex with
      | none => (.errorGeneric, [])
      | some dest =>
        if size.isSome && a.localSize = size then (.noError, [])
        else
          match printPath (cacheSubdirectory cacheDir hex) with
          | none => (.errorGeneric, [])
          | some dir =>
            let made := mkdirP a.mkdir dir
            if !made.1 then (.errorGeneric, made.2)
            else if a.httpCode ≠ some 200 || !a.hasData then (.noError, made.2)
            else
              match printPath (dest ++ asciiBytes ".part") with
              | none => (.errorGeneric, made.2)
              | some tmp =>
                if !a.opened then (.errorGeneric, made.2)
                else if !a.written || !a.renamed then (.errorGeneric, made.2 ++ [.write tmp, .unlink tmp])
                else (.noError, made.2 ++ [.write tmp, .rename tmp dest])
  | _, _ => (.noError, [])

end BxSync
