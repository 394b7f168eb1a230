import BxSync.Database
import BxSync.IdsCache

/-! The prune of one resource (`bx_prune.c`): the ids the walks have not seen for a number of versions are
    deleted from the database, then from the cache. -/

namespace BxSync

/-- The drift of the configuration, an `int` that is passed on as `uint64_t`. 0 is no setting. -/
def pruneDrift (conf : Int) : Nat := if conf = 0 then bxillDefaultDrift else (conf % 2 ^ 64).toNat

/-- What a DELETE of one id does to the tables. -/
abbrev Delete := Database → Nat → Bool → Bool → Option Bool × Database

/-- The loop of `bx_prune_items`. A failed DELETE ends it, with the tombstones so far still in the cache. -/
def pruneLoop (delete : Delete) (drift : Nat) : List Exec → CacheIter → Database → Cache →
    BXillError × Database × Cache × List Event
  | execs, iter, db, c =>
    match cacheIterNextPrunableId c iter drift, execs with
    | (none, _), _ => (.noError, db, cachePrune c, [])
    | (some id, _), [] => (.errorGeneric, db, c, [.deleted id])
    | (some id, iter), exec :: rest =>
      match exec.run db (delete db id) with
      | (.failed needReconnect, db) => (bxDatabaseQueryError needReconnect, db, c, [.deleted id])
      | (.done _, db) =>
        let others := pruneLoop delete drift rest iter db (cacheTombstone c id)
        (others.1, others.2.1, others.2.2.1, .deleted id :: others.2.2.2)

/-- `bx_prune_items`. The query is NULL when it could not be prepared. -/
def bxPruneItems (delete : Delete) (prepared : Bool) (conf : Int) (execs : List Exec) (db : Database) (c : Cache) :
    BXillError × Database × Cache × List Event :=
  if prepared then pruneLoop delete (pruneDrift conf) execs (cacheIterInit c) db c
  else (.errorGeneric, db, c, [])

/-- `bx_cache_hydrate`: every row of the table becomes an item of the cache. -/
def bxCacheHydrate (rows : List (Nat × Nat)) (c : Cache) : Cache :=
  rows.foldl (fun c row => cacheSetItem c row.1 row.2) c

end BxSync
