import BxSync.Database
import BxSync.IdsCache
import BxSync.Walk

/-! Contacts (`bxobjects/contact.c`, `bxobjects/contact_group.c`): one row of the contact list, and the walk
    over the active or the archived contacts. -/

namespace BxSync

/-- What the sync reads of a decoded contact. An unset field is none, and its value is 0. -/
structure BXObjectContact where
  id : Option Nat
  checksum : Nat
  userId : Option Nat
  ownerId : Option Nat
  contactGroupIds : List Nat
deriving DecidableEq, Repr

/-- The answers to `ensure_user_exists`: the lookup, the sync of a user that is absent, the second lookup. -/
structure UserAnswers where
  lookup : Query
  present : Bool
  sync : BXillError
  lookupAgain : Query
  presentAgain : Bool
deriving DecidableEq, Repr

/-- The answers to the statements of one contact. -/
structure ContactAnswers where
  user : UserAnswers
  owner : UserAnswers
  persist : Exec
  unlinkGroups : Exec
  linkGroups : List Exec
  extra : BXillError
deriving DecidableEq, Repr

/-- A row of the contact list and the answers its sync meets. -/
structure ContactItem where
  contact : BXObjectContact
  answers : ContactAnswers
deriving DecidableEq, Repr

/-- `bx_contact_is_in_database`. -/
def bxContactIsInDatabase (db : Database) (id : Nat) (query : Query) : BXillError × Bool :=
  match query with
  | .failed needReconnect => (bxDatabaseQueryError needReconnect, false)
  | .answered => (.noError, (db.contact.lookup id).isSome)

def ensureUserExists (id : Option Nat) (a : UserAnswers) : BXillError :=
  if id.getD 0 = 0 then .noError
  else
    match a.lookup with
    | .failed needReconnect => bxDatabaseQueryError needReconnect
    | .answered =>
      if a.present then .noError
      else if a.sync = .errorSQLReconnect then .errorSQLReconnect
      else
        match a.lookupAgain with
        | .failed needReconnect => bxDatabaseQueryError needReconnect
        | .answered => if a.presentAgain then .noError else .errorGeneric

/-- The users of a contact: its owner is looked up when it is another user. -/
def ensureContactUsers (contact : BXObjectContact) (a : ContactAnswers) : BXillError :=
  let e := ensureUserExists contact.userId a.user
  if e ≠ .noError then e
  else if contact.ownerId.isSome ∧ contact.ownerId.getD 0 ≠ contact.userId.getD 0 then
    ensureUserExists contact.ownerId a.owner
  else .noError

/-- The loop of `bx_contact_group_link` over the group ids. -/
def linkGroups (contactId : Nat) : List Nat → List Exec → Database → BXillError × Database
  | [], _, db => (.noError, db)
  | 0 :: gids, execs, db => linkGroups contactId gids execs db
  | _ :: _, [], db => (.errorGeneric, db)
  | gid :: gids, exec :: execs, db =>
    match exec.run db.cg2c fun fk cv => Table.insertIgnore db.cg2c (gid, contactId) () fk cv with
    | (.failed needReconnect, cg2c) => (bxDatabaseQueryError needReconnect, { db with cg2c })
    | (.done _, cg2c) => linkGroups contactId gids execs { db with cg2c }

def bxContactGroupLink (contactId : Nat) (gids : List Nat) (a : ContactAnswers) (db : Database) :
    BXillError × Database :=
  match a.unlinkGroups.run db.cg2c fun _ _ =>
      (some false, Table.eraseWhere db.cg2c fun key _ => key.2 = contactId) with
  | (.failed needReconnect, cg2c) => (bxDatabaseQueryError needReconnect, { db with cg2c })
  | (.done _, cg2c) => linkGroups contactId gids a.linkGroups { db with cg2c }

/-- The INSERT IGNORE or the UPDATE of a contact. -/
def persistContact (archived : Bool) (state : CacheState) (db : Database) (item : ContactItem) : Stmt × Database :=
  let contact := item.contact
  let row := { checksum := contact.checksum, archived }
  let stmt := item.answers.persist.run db.contact fun fk cv =>
    if state = .cacheNotSet then insertIgnoreId db.contact contact.id row fk cv
    else Table.update db.contact contact.id row fk cv
  (stmt.1, { db with contact := stmt.2 })

/-- The groups and the extras of a stored contact. Only a lost connection is an error. -/
def contactExtras (db : Database) (item : ContactItem) : BXillError × Database :=
  let linked := bxContactGroupLink (item.contact.id.getD 0) item.contact.contactGroupIds item.answers db
  if linked.1 = .errorSQLReconnect ∨ item.answers.extra = .errorSQLReconnect then (.errorSQLReconnect, linked.2)
  else (.noError, linked.2)

/-- `_bx_contact_sync_item`. A contact whose user is missing, or whose row raised a warning, is left for a
    later walk. -/
def bxContactSyncItem (archived : Bool) (db : Database) (c : Cache) (item : ContactItem) :
    BXillError × Database × Cache :=
  let contact := item.contact
  let checked := cacheCheckItem c (contact.id.getD 0) contact.checksum
  if checked.1 = .cacheOk then (.noError, db, checked.2)
  else
    let users := ensureContactUsers contact item.answers
    if users = .errorSQLReconnect then (.errorSQLReconnect, db, checked.2)
    else if users ≠ .noError then (.noError, db, checked.2)
    else
      match persistContact archived checked.1 db item with
      | (.failed needReconnect, db) => (bxDatabaseQueryError needReconnect, db, checked.2)
      | (.done warned, db) =>
        if !bxDatabasePersistOk (.done warned) then (.noError, db, checked.2)
        else
          let extras := contactExtras db item
          (extras.1, extras.2, cacheSetItem checked.2 (contact.id.getD 0) contact.checksum)

/-- `contact_page_item`: only a lost connection stops the walk. -/
def contactPageItem (archived : Bool) (s : Database × Cache) (item : ContactItem) : BXillError × Database × Cache :=
  let (e, s) := bxContactSyncItem archived s.1 s.2 item
  (if e = .errorSQLReconnect then e else .noError, s)

def contactWalker {κ : Type} (archived : Bool) (onPage : κ → Nat → Save → BXillError × κ × Option BXChainCursor) :
    Walker (Database × Cache) κ ContactItem where
  list := if archived then .contactArchived else .contactActive
  rowId item := item.contact.id
  sync := contactPageItem archived
  onPage

theorem bxContactSyncItem_touched (archived : Bool) (db : Database) (c : Cache) (item : ContactItem) :
    Cache.Touched c (item.contact.id.getD 0) (item.contact.id.getD 0) (bxContactSyncItem archived db c item).2.2 := by
  unfold bxContactSyncItem
  dsimp only
  split
  · exact .checked _
  split
  · exact .checked _
  split
  · exact .checked _
  split
  · exact .checked _
  split
  · exact .checked _
  · exact .stored _ _

theorem contactPageItem_touched (archived : Bool) (s : Database × Cache) (item : ContactItem) :
    Cache.Touched s.2 (item.contact.id.getD 0) (item.contact.id.getD 0) (contactPageItem archived s item).2.2 :=
  bxContactSyncItem_touched archived s.1 s.2 item

/-! ### Losing the connection -/

def UserAnswers.keepsConnection (a : UserAnswers) : Bool :=
  a.lookup.keepsConnection && a.sync ≠ .errorSQLReconnect && a.lookupAgain.keepsConnection

/-- No statement of the sync of the row loses the connection. -/
def ContactItem.keepsConnection (item : ContactItem) : Bool :=
  item.answers.user.keepsConnection && item.answers.owner.keepsConnection && item.answers.persist.keepsConnection &&
    item.answers.unlinkGroups.keepsConnection && item.answers.linkGroups.all Exec.keepsConnection &&
    item.answers.extra ≠ .errorSQLReconnect

theorem bxDatabaseQueryError_keepsConnection {q : Query} {needReconnect : Bool} (hq : q = .failed needReconnect)
    (h : q.keepsConnection) : bxDatabaseQueryError needReconnect ≠ .errorSQLReconnect := by
  subst hq
  cases needReconnect
  · decide
  · exact absurd h (by decide)

theorem ensureUserExists_keepsConnection (id : Option Nat) {a : UserAnswers} (h : a.keepsConnection) :
    ensureUserExists id a ≠ .errorSQLReconnect := by
  simp only [UserAnswers.keepsConnection, Bool.and_eq_true, decide_eq_true_eq] at h
  obtain ⟨⟨hlookup, hsync⟩, hagain⟩ := h
  unfold ensureUserExists
  split
  · decide
  split
  · rename_i hq
    exact bxDatabaseQueryError_keepsConnection hq hlookup
  split
  · decide
  split
  · rename_i hq
    exact bxDatabaseQueryError_keepsConnection hq hagain
  split <;> decide

theorem linkGroups_keepsConnection (contactId : Nat) (gids : List Nat) (execs : List Exec) (db : Database)
    (h : execs.all Exec.keepsConnection) : (linkGroups contactId gids execs db).1 ≠ .errorSQLReconnect := by
  fun_induction linkGroups contactId gids execs db
  case case1 => exact nofun
  case case2 ih => exact ih h
  case case3 => exact nofun
  case case4 exec _ db _ needReconnect cg2c hrun =>
    rw [List.all_cons, Bool.and_eq_true] at h
    have := exec.run_keepsConnection h.1 db.cg2c
    cases needReconnect
    · exact nofun
    · exact absurd (congrArg Prod.fst hrun) (this _)
  case case5 ih =>
    rw [List.all_cons, Bool.and_eq_true] at h
    exact ih h.2

theorem bxContactGroupLink_keepsConnection (contactId : Nat) (gids : List Nat) {a : ContactAnswers} (db : Database)
    (hunlink : a.unlinkGroups.keepsConnection) (hlink : a.linkGroups.all Exec.keepsConnection) :
    (bxContactGroupLink contactId gids a db).1 ≠ .errorSQLReconnect := by
  unfold bxContactGroupLink
  split
  · rename_i needReconnect cg2c hrun
    have := a.unlinkGroups.run_keepsConnection hunlink db.cg2c
    cases needReconnect
    · exact nofun
    · exact absurd (congrArg Prod.fst hrun) (this _)
  · exact linkGroups_keepsConnection contactId gids a.linkGroups _ hlink

/-- A row that keeps the connection does not stop the walk. -/
theorem contactPageItem_keepsConnection (archived : Bool) (s : Database × Cache) (item : ContactItem)
    (h : item.keepsConnection) : (contactPageItem archived s item).1 = .noError := by
  simp only [ContactItem.keepsConnection, Bool.and_eq_true, decide_eq_true_eq] at h
  obtain ⟨⟨⟨⟨⟨huser, howner⟩, hpersist⟩, hunlink⟩, hlink⟩, hextra⟩ := h
  suffices hne : (bxContactSyncItem archived s.1 s.2 item).1 ≠ .errorSQLReconnect by
    unfold contactPageItem
    exact if_neg hne
  have husers : ensureContactUsers item.contact item.answers ≠ .errorSQLReconnect := by
    unfold ensureContactUsers
    dsimp only
    split
    · exact ensureUserExists_keepsConnection _ huser
    split
    · exact ensureUserExists_keepsConnection _ howner
    · exact nofun
  unfold bxContactSyncItem
  dsimp only
  split
  · exact nofun
  split
  · exact nofun
  split
  · rename_i needReconnect db hstmt
    have := item.answers.persist.run_keepsConnection hpersist s.1.contact
    cases needReconnect
    · exact nofun
    · exact absurd (congrArg Prod.fst hstmt) (this _)
  split
  · exact nofun
  · rename_i db _ _
    have hgroups := bxContactGroupLink_keepsConnection (item.contact.id.getD 0) item.contact.contactGroupIds db
      hunlink hlink
    unfold contactExtras
    dsimp only
    rw [if_neg (by simp [hgroups, hextra])]
    exact nofun

end BxSync
