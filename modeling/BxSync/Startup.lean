import BxSync.Mirror

/-! How the threads that prune start (`main.c`): each fills its caches from the tables before its loop. -/

namespace BxSync

/-- What a hydration meets: whether its query is there, its SELECT, and whether a reconnect opens a
    connection. -/
structure HydrateAnswers where
  prepared : Bool
  select : Query
  reconnect : Bool
deriving DecidableEq, Repr

/-- `bx_cache_hydrate` with its query. No row is looked at unless all of them were fetched. -/
def bxCacheHydrateQuery (rows : List (Nat × Nat)) (c : Cache) (a : HydrateAnswers) : BXillError × Cache :=
  if !a.prepared then (.errorGeneric, c)
  else
    match a.select with
    | .failed needReconnect => (bxDatabaseQueryError needReconnect, c)
    | .answered => (.noError, bxCacheHydrate rows c)

/-- `hydrate_cache`: what it returns, and the cache. -/
def hydrateCache (rows : List (Nat × Nat)) (c : Cache) (a : HydrateAnswers) : Int × Cache :=
  let hydrated := bxCacheHydrateQuery rows c a
  if hydrated.1 = .errorSQLReconnect then
    -- The reconnect is not followed by a second hydration.
    (if a.reconnect then 0 else -1, hydrated.2)
  else (0, hydrated.2)

/-- The rows of `SELECT id, _checksum` from a table of ids and checksums. -/
def checksumRows (t : Table Nat Nat) : List (Nat × Nat) := t.entries.map fun e => (e.1, e.2)

/-- The caches `chain_thread` goes on with, if it does. -/
def chainThreadCaches (db : Database) (answers : Resource → HydrateAnswers) : Option (Resource → Cache) :=
  let hydrated resource := hydrateCache (db.checksums resource) cacheCreate (answers resource)
  if (hydrated .contact).1 ≠ 0 ∨ (hydrated .project).1 ≠ 0 ∨ (hydrated .invoice).1 ≠ 0 then none
  else some fun resource => (hydrated resource).2

/-- The cache `file_thread` goes on with, if it does. -/
def fileThreadCache (files : Table Nat Nat) (a : HydrateAnswers) : Option Cache :=
  let hydrated := bxCacheHydrateQuery (checksumRows files) cacheCreate a
  if hydrated.1 = .errorSQLReconnect ∧ !a.reconnect then none else some hydrated.2

/-- With every query answered the thread starts from the hydrated caches. -/
theorem chainThreadCaches_answered (db : Database) :
    chainThreadCaches db (fun _ => ⟨true, .answered, true⟩) = some (hydrateCaches db).cache := rfl

end BxSync
