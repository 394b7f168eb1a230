import BxSync.ContactGroups

/-! Whether the rows of `cg2c` are the groups of a contact that the cache calls in sync. The cache is set before the
    groups are linked, and only a lost connection of the links is reported. -/

namespace BxSync

open Machine

/-! ### The property -/

/-- The rows of a contact that was stored before, and that the cache knows, are the groups of the stored version. -/
def GroupsComplete (calls : List ContactCall) (s : Database × Cache) : Prop :=
  ∀ id checksum sync, lastStored calls id = some sync → (cacheCheckItem s.2 id checksum).1 = .cacheOk →
    ∀ gid, s.1.linked gid id = true ↔ gid ≠ 0 ∧ gid ∈ groupIds sync.contactGroupIds

/-- The DELETE and the INSERTs of a stored version leave its groups: each INSERT that is missing is a repeated one. A
    DELETE that never ran leaves the rows as they are, and one without its reply leaves none. -/
def LinksComplete (call : ContactCall) : Prop :=
  let gids := groupIds call.sync.contactGroupIds
  match call.sync.answers.unlinkGroups with
  | .ran _ _ => ∀ gid ∈ gids, gid ≠ 0 → gid ∈ linkedIds gids call.sync.answers.linkGroups
  | .unreported _ _ _ => ∀ gid ∈ gids, gid = 0
  | .unsent _ => ∀ gid, call.pre.1.linked gid call.sync.key = true ↔ gid ≠ 0 ∧ gid ∈ gids

def LinksCondition (call : ContactCall) : Prop :=
  call.stores = true → FitsInt64 call.sync.contactGroupIds ∧ LinksComplete call

/-! ### One sync -/

theorem linked_eraseWhere (db : Database) (id gid k : Nat) :
    Database.linked { db with cg2c := Table.eraseWhere db.cg2c fun key _ => key.2 = id } gid k =
      (db.linked gid k && k ≠ id) := by
  unfold Database.linked
  rw [Table.lookup_eraseWhere]
  cases db.cg2c.lookup (gid, k) with
  | none => rfl
  | some _ => by_cases hk : k = id <;> simp [hk]

theorem linked_bxContactGroupLink (id : Nat) (gids : List Nat) (a : ContactAnswers) (db : Database) (gid k : Nat) :
    (bxContactGroupLink id gids a db).2.linked gid k =
      match a.unlinkGroups with
      | .unsent _ => db.linked gid k
      | .ran _ _ => (db.linked gid k && k ≠ id) || (gid ∈ linkedIds gids a.linkGroups && k = id)
      | .unreported _ _ _ => db.linked gid k && k ≠ id := by
  unfold bxContactGroupLink
  cases a.unlinkGroups with
  | unsent => rfl
  | ran fk cv =>
    dsimp only [Exec.run]
    rw [linked_linkGroups, linked_eraseWhere]
  | unreported fk cv _ =>
    dsimp only [Exec.run]
    rw [linked_eraseWhere]

theorem linked_bxContactGroupLink_self (id : Nat) (gids : List Nat) (a : ContactAnswers) (db : Database) (gid : Nat) :
    (bxContactGroupLink id gids a db).2.linked gid id =
      match a.unlinkGroups with
      | .unsent _ => db.linked gid id
      | .ran _ _ => decide (gid ∈ linkedIds gids a.linkGroups)
      | .unreported _ _ _ => false := by
  rw [linked_bxContactGroupLink]
  cases a.unlinkGroups <;> simp

theorem contactExtras_db (db : Database) (item : ContactItem) :
    (contactExtras db item).2 =
      (bxContactGroupLink (item.contact.id.getD 0) item.contact.contactGroupIds item.answers db).2 := by
  unfold contactExtras
  dsimp only
  split <;> rfl

theorem linked_persistContact (archived : Bool) (state : CacheState) (db : Database) (item : ContactItem) (gid k : Nat) :
    (persistContact archived state db item).2.linked gid k = db.linked gid k := rfl

/-- A version that is not stored leaves the rows alone. -/
theorem linked_bxContactSyncItem (call : ContactCall) (gid k : Nat) :
    (bxContactSyncItem call.sync.archived call.pre.1 call.pre.2 call.sync.item).2.1.linked gid k =
      if call.stores then
        (bxContactGroupLink call.sync.key call.sync.item.contact.contactGroupIds call.sync.answers call.pre.1).2.linked gid k
      else call.pre.1.linked gid k := by
  have hkey : call.sync.item.contact.id.getD 0 = call.sync.key := rfl
  have hchecksum : call.sync.item.contact.checksum = call.sync.checksum := rfl
  unfold bxContactSyncItem ContactCall.stores
  dsimp only
  rw [hkey, hchecksum]
  generalize (cacheCheckItem call.pre.2 call.sync.key call.sync.checksum).1 = state
  have hpersist := linked_persistContact call.sync.archived state call.pre.1 call.sync.item
  split
  · rename_i hok
    simp [hok]
  split
  · rename_i husers
    simp [husers]
  split
  · rename_i husers
    simp [husers]
  rename_i hstate _ husers
  rw [not_not] at husers
  split
  · rename_i heq
    rw [heq] at hpersist
    simp [heq, bxDatabasePersistOk, hpersist]
  · rename_i warned db heq
    rw [heq] at hpersist
    split
    · rename_i hwarned
      simp only [heq, Bool.not_eq_true'] at hwarned ⊢
      simp [hwarned, hpersist]
    · rename_i hwarned
      simp only [heq, Bool.not_eq_true', Bool.not_eq_false] at hwarned ⊢
      rw [if_pos (by simp [hstate, husers, hwarned]), contactExtras_db, linked_bxContactGroupLink, linked_bxContactGroupLink]
      simp only [hpersist]
      rfl

/-- A stored version has its groups exactly when its statements left them. -/
theorem linked_stored_iff {call : ContactCall} (hstores : call.stores = true) (hfits : FitsInt64 call.sync.contactGroupIds) :
    (∀ gid, (contactStep call.pre call.sync).2.1.linked gid call.sync.key = true ↔
      gid ≠ 0 ∧ gid ∈ groupIds call.sync.contactGroupIds) ↔ LinksComplete call := by
  have hids : call.sync.item.contact.contactGroupIds = groupIds call.sync.contactGroupIds :=
    map_bxIntStringArrayToIntArray call.sync.behind hfits
  have hrow : ∀ gid, (contactStep call.pre call.sync).2.1.linked gid call.sync.key =
      (bxContactGroupLink call.sync.key (groupIds call.sync.contactGroupIds) call.sync.answers call.pre.1).2.linked gid
        call.sync.key := by
    intro gid
    rw [← hids]
    exact (linked_bxContactSyncItem call gid call.sync.key).trans (if_pos hstores)
  simp only [hrow, linked_bxContactGroupLink_self]
  unfold LinksComplete
  dsimp only
  cases call.sync.answers.unlinkGroups with
  | unsent => exact Iff.rfl
  | ran fk cv =>
    simp only [decide_eq_true_eq]
    exact ⟨fun h gid hmem hne => (h gid).mpr ⟨hne, hmem⟩, fun h gid => ⟨mem_of_mem_linkedIds, fun hmem => h gid hmem.2 hmem.1⟩⟩
  | unreported fk cv _ =>
    simp only [Bool.false_eq_true, false_iff, not_and]
    exact ⟨fun h gid hmem => by_contra fun hne => h gid hne hmem, fun h gid hne hmem => hne (h gid hmem)⟩

theorem linked_other (call : ContactCall) {k : Nat} (hk : k ≠ call.sync.key) (gid : Nat) :
    (contactStep call.pre call.sync).2.1.linked gid k = call.pre.1.linked gid k := by
  refine (linked_bxContactSyncItem call gid k).trans ?_
  split
  · rw [linked_bxContactGroupLink]
    cases call.sync.answers.unlinkGroups <;> simp [hk]
  · rfl

/-! ### Runs -/

/-- Every contact that was stored has its groups, whether the cache knows it or not. -/
def GroupsLinked (calls : List ContactCall) (s : Database × Cache) : Prop :=
  ∀ id sync, lastStored calls id = some sync → ∀ gid, s.1.linked gid id = true ↔ gid ≠ 0 ∧ gid ∈ groupIds sync.contactGroupIds

theorem GroupsLinked.nil (s : Database × Cache) : GroupsLinked [] s := by
  intro id sync hlast
  have hnone : lastStored [] id = none := rfl
  rw [hnone] at hlast
  nomatch hlast

theorem GroupsLinked.step {calls : List ContactCall} {s : Database × Cache} (h : GroupsLinked calls s) (sync : ContactSync)
    (hC : LinksCondition (contactStep s sync).1) :
    GroupsLinked (calls ++ [(contactStep s sync).1]) (contactStep s sync).2 := by
  intro id last hlast gid
  have hcall : (contactStep s sync).1 = { pre := s, sync } := rfl
  rw [hcall] at hC hlast
  rw [lastStored_append] at hlast
  split at hlast
  · rename_i hthis
    obtain ⟨hstores, hid⟩ : _ ∧ sync.key = id := by simpa using hthis
    obtain rfl := Option.some.inj hlast
    obtain ⟨hfits, hlinks⟩ := hC hstores
    subst hid
    exact (linked_stored_iff hstores hfits).mpr hlinks gid
  · rename_i hother
    have hold := h id last hlast gid
    by_cases hid : id = sync.key
    · -- The version is not stored, so no row moves.
      have hstores : ContactCall.stores { pre := s, sync } = false := by simpa [hid] using hother
      have hrow := (linked_bxContactSyncItem { pre := s, sync } gid id).trans (if_neg (by simp [hstores]))
      exact (Iff.of_eq (congrArg (· = true) hrow)).trans hold
    · have hrow := linked_other { pre := s, sync } hid gid
      exact (Iff.of_eq (congrArg (· = true) hrow)).trans hold

/-- In every state of a run whose stored versions all meet the condition the groups are complete. -/
theorem groupsComplete_of_condition (s : Database × Cache) (syncs : List ContactSync)
    (hC : ∀ call ∈ outputs contactStep s syncs, LinksCondition call) :
    GroupsComplete (outputs contactStep s syncs) (final contactStep s syncs) := by
  have hrun : GroupsLinked ([] ++ outputs contactStep s syncs) (final contactStep s syncs) :=
    history_inv contactStep (fun _ _ sync h hcall => h.step sync hcall) syncs [] s (GroupsLinked.nil s) hC
  intro id checksum sync hlast _ gid
  exact hrun id sync hlast gid

/-! ### One link fails

    Contact 1 is new, has no users, and is in the groups 3 and 5. -/

def noUser : UserAnswers :=
  { lookup := .answered, present := true, sync := .noError, lookupAgain := .answered, presentAgain := true }

def inTwoGroups (lastLink : Exec) : ContactSync where
  archived := false
  id := some 1
  checksum := 7
  userId := none
  ownerId := none
  contactGroupIds := some (asciiBytes "3,5")
  behind := []
  answers := {
    user := noUser
    owner := noUser
    persist := .ran false false
    unlinkGroups := .ran false false
    linkGroups := [.ran false false, lastLink]
    extra := .noError }

/-- The links succeed, though the reply to the last is lost. -/
theorem groupsComplete_replyLost :
    let s := final contactStep (Database.empty, cacheCreate) [inTwoGroups (.unreported false false true)]
    (cacheCheckItem s.2 1 7).1 = .cacheOk ∧
      GroupsComplete (outputs contactStep (Database.empty, cacheCreate) [inTwoGroups (.unreported false false true)]) s := by
  refine ⟨by decide, groupsComplete_of_condition (Database.empty, cacheCreate) _ fun call hcall => ?_⟩
  simp only [outputs, List.mem_singleton] at hcall
  subst hcall
  have hlinked : ∀ gid ∈ groupIds (some (asciiBytes "3,5")), gid ≠ 0 →
      gid ∈ linkedIds (groupIds (some (asciiBytes "3,5"))) [.ran false false, .unreported false false true] := by decide
  exact fun _ => ⟨by unfold FitsInt64; decide, hlinked⟩

/-- The state after one INSERT is refused, and after a later sync of the same object: the cache knows the contact, the
    sync returns at once, and the row is missing. -/
theorem notComplete_linkFailed (needReconnect : Bool) (later : List ContactSync)
    (hlater : later = [] ∨ later = [inTwoGroups (.ran false false)]) :
    ¬GroupsComplete (outputs contactStep (Database.empty, cacheCreate) (inTwoGroups (.unsent needReconnect) :: later))
      (final contactStep (Database.empty, cacheCreate) (inTwoGroups (.unsent needReconnect) :: later)) := by
  intro h
  rcases hlater with rfl | rfl <;> cases needReconnect
  all_goals exact absurd ((h 1 7 _ rfl (by decide) 5).mpr (by decide)) (by decide)

/-- One INSERT is refused, with a plain error or with the connection, and no later sync of the same object repairs it. -/
theorem groupsComplete_linkFailed :
    let calls := outputs contactStep (Database.empty, cacheCreate)
    let after := final contactStep (Database.empty, cacheCreate)
    let refused := [inTwoGroups (.unsent false)]
    let lost := [inTwoGroups (.unsent true)]
    let again := [inTwoGroups (.ran false false)]
    ¬GroupsComplete (calls refused) (after refused) ∧ ¬GroupsComplete (calls (refused ++ again)) (after (refused ++ again)) ∧
      ¬GroupsComplete (calls lost) (after lost) ∧ ¬GroupsComplete (calls (lost ++ again)) (after (lost ++ again)) :=
  ⟨notComplete_linkFailed false [] (.inl rfl), notComplete_linkFailed false _ (.inr rfl),
    notComplete_linkFailed true [] (.inl rfl), notComplete_linkFailed true _ (.inr rfl)⟩

end BxSync
