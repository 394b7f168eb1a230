import BxSync.Threads

/-! The tables and their caches under any sequence of what changes them: the sync of one object, a prune, a
    version bump, and a restart that hydrates the caches from the tables. -/

namespace BxSync

structure Mirror where
  db : Database
  cache : Resource → Cache

/-- The rows of `SELECT id, _checksum` from the table of a resource. -/
def Database.checksums (db : Database) : Resource → List (Nat × Nat)
  | .contact => db.contact.entries.map fun e => (e.1, e.2.checksum)
  | .project => db.project.entries.map fun e => (e.1, e.2.checksum)
  | .invoice => db.invoice.entries.map fun e => (e.1, e.2.checksum)

/-- `hydrate_cache` for each resource. -/
def hydrateCaches (db : Database) : Mirror where
  db := db
  cache resource := bxCacheHydrate (db.checksums resource) cacheCreate

/-- The DELETE of a resource. -/
def Resource.delete : Resource → Delete
  | .contact => Database.deleteContact
  | .project => Database.deleteProject
  | .invoice => Database.deleteInvoice

inductive MirrorInput
  | contact (archived : Bool) (item : ContactItem)
  | project (item : ProjectItem)
  | invoice (item : InvoiceItem)
  | prune (resource : Resource) (prepared : Bool) (drift : Int) (deletes : List Exec)
  | bump (resource : Resource)
  | restart

/-- The tables after a step, and the cache of the resource it was for. -/
def Mirror.put (m : Mirror) (resource : Resource) (s : Database × Cache) : Mirror where
  db := s.1
  cache := Function.update m.cache resource s.2

/-- One step: an input and the mirror it meets, and the mirror it leaves. -/
structure MirrorCall where
  pre : Mirror
  input : MirrorInput

def Mirror.next (m : Mirror) : MirrorInput → Mirror
  | .contact archived item => m.put .contact (bxContactSyncItem archived m.db (m.cache .contact) item).2
  | .project item => m.put .project (bxProjectSyncItem m.db (m.cache .project) item).2
  | .invoice item => m.put .invoice (bxInvoiceSyncItem m.db (m.cache .invoice) item).2
  | .prune resource prepared drift deletes =>
    let r := bxPruneItems resource.delete prepared drift deletes m.db (m.cache resource)
    m.put resource (r.2.1, r.2.2.1)
  | .bump resource => m.put resource (m.db, cacheNextVersion (m.cache resource))
  | .restart => hydrateCaches m.db

def mirrorStep (m : Mirror) (input : MirrorInput) : MirrorCall × Mirror := ({ pre := m, input }, m.next input)

section

variable (m : Mirror) (resource : Resource) (s : Database × Cache)

@[simp] theorem Mirror.put_db : (m.put resource s).db = s.1 := rfl
@[simp] theorem Mirror.put_cache : (m.put resource s).cache resource = s.2 := Function.update_self ..

theorem Mirror.put_cache_of_ne {resource other : Resource} (h : other ≠ resource) :
    (m.put resource s).cache other = m.cache other :=
  Function.update_of_ne h ..

end

/-- What holds of the cache of invoices after a step: only its own steps and a restart change it. -/
theorem Mirror.next_invoice {P : Cache → Prop} (m : Mirror) (input : MirrorInput) (h : P (m.cache .invoice))
    (hsync : ∀ item, input = .invoice item → P (bxInvoiceSyncItem m.db (m.cache .invoice) item).2.2)
    (hprune : ∀ prepared drift deletes, input = .prune .invoice prepared drift deletes →
      P (bxPruneItems Resource.invoice.delete prepared drift deletes m.db (m.cache .invoice)).2.2.1)
    (hbump : P (cacheNextVersion (m.cache .invoice)))
    (hrestart : input = .restart → P (bxCacheHydrate (m.db.checksums .invoice) cacheCreate)) :
    P ((m.next input).cache .invoice) := by
  have hother : ∀ {resource : Resource} {s : Database × Cache}, Resource.invoice ≠ resource → P ((m.put resource s).cache .invoice) := by
    intro resource s hne
    rw [Mirror.put_cache_of_ne _ _ hne]
    exact h
  cases input with
  | contact archived item => exact hother nofun
  | project item => exact hother nofun
  | invoice item =>
    unfold Mirror.next
    rw [Mirror.put_cache]
    exact hsync item rfl
  | prune resource prepared drift deletes =>
    by_cases hr : Resource.invoice = resource
    · subst hr
      unfold Mirror.next
      dsimp only
      rw [Mirror.put_cache]
      exact hprune prepared drift deletes rfl
    · exact hother hr
  | bump resource =>
    by_cases hr : Resource.invoice = resource
    · subst hr
      unfold Mirror.next
      rw [Mirror.put_cache]
      exact hbump
    · exact hother hr
  | restart => exact hrestart rfl

end BxSync
