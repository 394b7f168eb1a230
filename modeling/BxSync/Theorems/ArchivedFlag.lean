import BxSync.Lib.Machine
import BxSync.Mirror
import BxSync.Theorems.CacheTable

/-! Whether the row of a contact says in which list it was last. The flag comes from the request and is no part of the
    object that is hashed, so a contact that changes its list and nothing else is skipped. -/

namespace BxSync

open Machine

/-! ### Cycles of the two walks -/

/-- The answers that the walks of a cycle meet, and the offsets they start at. -/
structure ContactCycle where
  connected : Bool
  activeStart : Nat
  active : List (Option (PageReply ContactItem))
  archivedStart : Nat
  archived : List (Option (PageReply ContactItem))

/-- What happens to the contacts: a cycle of their walks, and what a thread does between two cycles. -/
inductive PassesInput (κ : Type)
  | cycle (passes : ContactCycle)
  | prune (prepared : Bool) (drift : Int) (deletes : List Exec)
  | bump
  | restart (cursor : κ)

/-- The table and the cache of the contacts, and what the page callbacks keep. -/
abbrev PassesState (κ : Type) := (Database × Cache) × κ

structure PassesCall (κ : Type) where
  pre : PassesState κ
  input : PassesInput κ

section

variable {κ : Type} (onPage : Bool → κ → Nat → Save → BXillError × κ × Option BXChainCursor)

def bxContactWalkPass (archived connected : Bool) (replies : List (Option (PageReply ContactItem))) (start : Nat)
    (s : PassesState κ) : WalkResult (Database × Cache) κ :=
  (contactWalker archived (onPage archived)).walkPagesFrom connected replies start s.1 s.2

/-- The archived contacts follow when the walk over the active ones succeeds. -/
def contactPasses (c : ContactCycle) (s : PassesState κ) : BXillError × PassesState κ :=
  let active := bxContactWalkPass onPage false c.connected c.active c.activeStart s
  if active.error ≠ .noError then (active.error, active.store, active.cursor)
  else
    let archived := bxContactWalkPass onPage true c.connected c.archived c.archivedStart (active.store, active.cursor)
    (archived.error, archived.store, archived.cursor)

def PassesState.next (s : PassesState κ) : PassesInput κ → PassesState κ
  | .cycle passes => (contactPasses onPage passes s).2
  | .prune prepared drift deletes =>
    let r := bxPruneItems Database.deleteContact prepared drift deletes s.1.1 s.1.2
    ((r.2.1, r.2.2.1), s.2)
  | .bump => ((s.1.1, cacheNextVersion s.1.2), s.2)
  | .restart cursor => ((s.1.1, bxCacheHydrate (s.1.1.checksums .contact) cacheCreate), cursor)

def passesStep (s : PassesState κ) (input : PassesInput κ) : PassesCall κ × PassesState κ :=
  ({ pre := s, input }, s.next onPage input)

end

/-! ### The property -/

/-- A contact in one of the two lists. -/
structure Listed where
  archived : Bool
  item : ContactItem
deriving DecidableEq, Repr

def ContactCycle.listed (c : ContactCycle) : List Listed :=
  (pageRows c.active).map (Listed.mk false) ++ (pageRows c.archived).map (Listed.mk true)

/-- What is left after some contacts. -/
def syncListed (s : Database × Cache) (l : Listed) : Database × Cache := (contactPageItem l.archived s l.item).2

def syncAllListed (s : Database × Cache) (listed : List Listed) : Database × Cache := listed.foldl syncListed s

/-- The sync of the contact stops at its checksum. -/
def Listed.skipped (s : Database × Cache) (l : Listed) : Prop :=
  (cacheCheckItem s.2 (l.item.contact.id.getD 0) l.item.contact.checksum).1 = .cacheOk

/-- The contact has its row: it is skipped, or its statement reports no failure and no warning and leaves a row. -/
def Listed.stored (s : Database × Cache) (l : Listed) : Prop :=
  ∃ id, l.item.contact.id = some id ∧
    (l.skipped s ∨
      ensureContactUsers l.item.contact l.item.answers = .noError ∧
        let persisted := persistContact l.archived (cacheCheckItem s.2 id l.item.contact.checksum).1 s.1 l.item
        bxDatabasePersistOk persisted.1 = true ∧ (persisted.2.contact.lookup id).isSome)

/-- Contact `id` is listed after `before`, and not again after that. -/
structure LastListed (listed before : List Listed) (l : Listed) (id : Nat) : Prop where
  place : ∃ after, listed = before ++ l :: after ∧ ∀ later ∈ after, later.item.contact.id ≠ some id
  id : l.item.contact.id = some id

section

variable {κ : Type} (onPage : Bool → κ → Nat → Save → BXillError × κ × Option BXChainCursor)

/-- The call is a cycle whose two walks succeed, with every row stored. -/
def PassesCall.complete (call : PassesCall κ) (passes : ContactCycle) : Prop :=
  call.input = .cycle passes ∧ (contactPasses onPage passes call.pre).1 = .noError ∧
    ∀ before l after, passes.listed = before ++ l :: after → l.stored (syncAllListed call.pre.1 before)

/-- After the cycle the row of each listed contact has the flag of the list it was last in. -/
def FlagsFollow (call : PassesCall κ) (passes : ContactCycle) : Prop :=
  ∀ before l id, LastListed passes.listed before l id →
    ∃ row, (contactPasses onPage passes call.pre).2.1.1.contact.lookup id = some row ∧ row.archived = l.archived

/-- When a contact is listed for the last time, its checksum is not the one in the cache, or its row already has the
    flag of the list. -/
def FlagCondition (call : PassesCall κ) (passes : ContactCycle) : Prop :=
  ∀ before l id, LastListed passes.listed before l id →
    let s := syncAllListed call.pre.1 before
    ¬l.skipped s ∨ (s.1.contact.lookup id).map ContactRow.archived = some l.archived

end

/-! ### One contact -/

section

variable {archived : Bool} {db : Database} {c : Cache} {item : ContactItem} {id k : Nat}

/-- The rows of the contacts change with the statement of a contact or not at all. -/
theorem contact_bxContactSyncItem (archived : Bool) (db : Database) (c : Cache) (item : ContactItem) :
    (bxContactSyncItem archived db c item).2.1.contact = db.contact ∨
      (bxContactSyncItem archived db c item).2.1.contact =
        (persistContact archived (cacheCheckItem c (item.contact.id.getD 0) item.contact.checksum).1 db item).2.contact := by
  unfold bxContactSyncItem
  dsimp only
  split
  · exact Or.inl rfl
  split
  · exact Or.inl rfl
  split
  · exact Or.inl rfl
  split
  · rename_i heq
    exact Or.inr (by rw [heq])
  · rename_i heq
    split
    · exact Or.inr (by rw [heq])
    · exact Or.inr (by rw [contactExtras_frame, heq])

theorem lookup_persistContact_ne (hid : item.contact.id = some id) (hk : k ≠ id) (state : CacheState) :
    (persistContact archived state db item).2.contact.lookup k = db.contact.lookup k := by
  refine item.answers.persist.run_table (Q := fun t : Table Nat ContactRow => t.lookup k = db.contact.lookup k) rfl fun fk cv => ?_
  have hinsert : ∀ row, (db.contact.insert id row).lookup k = db.contact.lookup k := fun row => AList.lookup_insert_ne hk
  rw [hid]
  split
  · unfold insertIgnoreId Table.insertIgnore
    split
    · rfl
    · exact hinsert _
  · unfold Table.update
    dsimp only
    split_ifs
    · rfl
    · exact hinsert _
    · rfl

/-- The other contacts keep their rows. -/
theorem lookup_bxContactSyncItem_ne (hid : item.contact.id = some id) (hk : k ≠ id) :
    (bxContactSyncItem archived db c item).2.1.contact.lookup k = db.contact.lookup k := by
  rcases contact_bxContactSyncItem archived db c item with heq | heq
  · rw [heq]
  · rw [heq, lookup_persistContact_ne hid hk]

/-- An INSERT IGNORE or an UPDATE without a failure or a warning that leaves a row has written it. -/
theorem lookup_written {α : Type} {t : Table Nat α} {row : α} {state : CacheState} {exec : Exec}
    {effect : Bool → Bool → Option Bool × Table Nat α}
    (heffect : effect = fun fk cv =>
      if state = .cacheNotSet then insertIgnoreId t (some id) row fk cv else Table.update t (some id) row fk cv)
    (hok : bxDatabasePersistOk (exec.run t effect).1 = true) (hrow : ((exec.run t effect).2.lookup id).isSome) :
    (exec.run t effect).2.lookup id = some row := by
  have hinsert : (t.insert id row).lookup id = some row := AList.lookup_insert t
  cases hstmt : (exec.run t effect).1 with
  | failed =>
    rw [hstmt] at hok
    exact nomatch hok
  | done warned =>
    obtain ⟨fk, cv, hran⟩ := Exec.run_done hstmt
    rw [hstmt] at hok
    revert hran hrow
    generalize (exec.run t effect).2 = t'
    intro hrow hran
    rw [heffect] at hran
    dsimp only at hran
    split at hran
    · unfold insertIgnoreId Table.insertIgnore at hran
      split at hran
      · rw [← Option.some.inj (Prod.mk.inj hran).1] at hok
        exact nomatch hok
      · rw [← (Prod.mk.inj hran).2]
        exact hinsert
    · unfold Table.update at hran
      dsimp only at hran
      split_ifs at hran with hknown hfk
      · exact nomatch (Prod.mk.inj hran).1
      · rw [← (Prod.mk.inj hran).2]
        exact hinsert
      · -- Nothing was there to update.
        rw [← (Prod.mk.inj hran).2] at hrow
        exact absurd hrow hknown

theorem lookup_persistContact (hid : item.contact.id = some id) {state : CacheState}
    (hok : bxDatabasePersistOk (persistContact archived state db item).1 = true)
    (hrow : ((persistContact archived state db item).2.contact.lookup id).isSome) :
    (persistContact archived state db item).2.contact.lookup id = some { checksum := item.contact.checksum, archived } :=
  lookup_written (by rw [hid]) hok hrow

/-- A contact that is skipped leaves the tables as they are. -/
theorem bxContactSyncItem_skipped
    (h : (cacheCheckItem c (item.contact.id.getD 0) item.contact.checksum).1 = .cacheOk) :
    (bxContactSyncItem archived db c item).2.1 = db := by
  unfold bxContactSyncItem
  dsimp only
  rw [if_pos h]

theorem contact_bxContactSyncItem_stored
    (h : (cacheCheckItem c (item.contact.id.getD 0) item.contact.checksum).1 ≠ .cacheOk)
    (husers : ensureContactUsers item.contact item.answers = .noError)
    (hok : bxDatabasePersistOk
      (persistContact archived (cacheCheckItem c (item.contact.id.getD 0) item.contact.checksum).1 db item).1 = true) :
    (bxContactSyncItem archived db c item).2.1.contact =
      (persistContact archived (cacheCheckItem c (item.contact.id.getD 0) item.contact.checksum).1 db item).2.contact := by
  unfold bxContactSyncItem
  dsimp only
  rw [if_neg h, husers, if_neg nofun, if_neg (not_not.mpr rfl)]
  revert hok
  generalize persistContact archived (cacheCheckItem c (item.contact.id.getD 0) item.contact.checksum).1 db item = stmt
  obtain ⟨_ | _ | _, db'⟩ := stmt
  · exact nofun
  · intro _
    dsimp only
    rw [if_neg (by decide), contactExtras_frame]
  · exact nofun

end

/-! ### One cycle -/

section

variable {s : Database × Cache} {l : Listed} {id k : Nat}

theorem stored_row (h : l.stored s) (hid : l.item.contact.id = some id) :
    (l.skipped s ∧ (syncListed s l).1.contact.lookup id = s.1.contact.lookup id) ∨
      (¬l.skipped s ∧
        (syncListed s l).1.contact.lookup id = some { checksum := l.item.contact.checksum, archived := l.archived }) := by
  obtain ⟨id', hid', hstored⟩ := h
  obtain rfl : id = id' := Option.some.inj (hid.symm.trans hid')
  have hkey : l.item.contact.id.getD 0 = id := by rw [hid]; rfl
  by_cases hskip : l.skipped s
  · refine Or.inl ⟨hskip, ?_⟩
    have hdb : (syncListed s l).1 = s.1 := bxContactSyncItem_skipped hskip
    rw [hdb]
  · refine Or.inr ⟨hskip, ?_⟩
    obtain ⟨husers, hok, hrow⟩ := hstored.resolve_left hskip
    have hsynced : (syncListed s l).1.contact = _ := contact_bxContactSyncItem_stored hskip husers (by rw [hkey]; exact hok)
    rw [hkey] at hsynced
    exact (congrArg (AList.lookup id) hsynced).trans (lookup_persistContact hid hok hrow)

theorem lookup_syncAllListed (listed : List Listed) (hids : ∀ l ∈ listed, ∃ id, l.item.contact.id = some id ∧ k ≠ id) :
    (syncAllListed s listed).1.contact.lookup k = s.1.contact.lookup k := by
  induction listed generalizing s with
  | nil => rfl
  | cons l listed ih =>
    obtain ⟨id, hid, hk⟩ := hids l List.mem_cons_self
    have hfirst : (syncListed s l).1.contact.lookup k = s.1.contact.lookup k := lookup_bxContactSyncItem_ne hid hk
    exact (ih fun later hlater => hids later (List.mem_cons_of_mem _ hlater)).trans hfirst

end

section

variable {κ : Type} (onPage : Bool → κ → Nat → Save → BXillError × κ × Option BXChainCursor)

theorem bxContactWalkPass_store {archived connected : Bool} {replies : List (Option (PageReply ContactItem))} {start : Nat}
    {s : PassesState κ} (h : (bxContactWalkPass onPage archived connected replies start s).error = .noError) :
    (bxContactWalkPass onPage archived connected replies start s).store =
      syncAllListed s.1 ((pageRows replies).map (Listed.mk archived)) := by
  unfold bxContactWalkPass Walker.walkPagesFrom at h ⊢
  cases connected with
  | false => exact nomatch h
  | true =>
    rw [syncAllListed, List.foldl_map]
    exact Walker.walkPages_foldl _ replies start s.1 s.2 h

/-- Two walks without an error have synced what they listed. -/
theorem contactPasses_store {passes : ContactCycle} {s : PassesState κ} (h : (contactPasses onPage passes s).1 = .noError) :
    (contactPasses onPage passes s).2.1 = syncAllListed s.1 passes.listed := by
  unfold contactPasses at h ⊢
  dsimp only at h ⊢
  split at h
  · rename_i hactive
    exact absurd h hactive
  · rename_i hactive
    rw [if_neg hactive, bxContactWalkPass_store onPage h, bxContactWalkPass_store onPage (not_not.mp hactive)]
    exact List.foldl_append.symm

/-- The last listing of a contact decides about its flag. -/
theorem flag_iff {call : PassesCall κ} {passes : ContactCycle} (hcomplete : call.complete onPage passes)
    {before : List Listed} {l : Listed} {id : Nat} (hlast : LastListed passes.listed before l id) :
    (∃ row, (contactPasses onPage passes call.pre).2.1.1.contact.lookup id = some row ∧ row.archived = l.archived) ↔
      (¬l.skipped (syncAllListed call.pre.1 before) ∨
        ((syncAllListed call.pre.1 before).1.contact.lookup id).map ContactRow.archived = some l.archived) := by
  obtain ⟨-, hok, hstored⟩ := hcomplete
  obtain ⟨⟨after, hplace, hafter⟩, hid⟩ := hlast
  have hrest : ∀ later ∈ after, ∃ id', later.item.contact.id = some id' ∧ id ≠ id' := by
    intro later hlater
    obtain ⟨first, rest, rfl⟩ := List.append_of_mem hlater
    obtain ⟨id', hid', -⟩ := hstored (before ++ l :: first) later rest (by rw [hplace, List.append_assoc]; rfl)
    exact ⟨id', hid', fun heq => hafter later hlater (by rw [hid', heq])⟩
  have hfinal : (contactPasses onPage passes call.pre).2.1.1.contact.lookup id =
      (syncListed (syncAllListed call.pre.1 before) l).1.contact.lookup id := by
    have hsplit : syncAllListed call.pre.1 (before ++ l :: after) =
        syncAllListed (syncListed (syncAllListed call.pre.1 before) l) after := List.foldl_append
    rw [contactPasses_store onPage hok, hplace, hsplit, lookup_syncAllListed after hrest]
  rw [hfinal]
  rcases stored_row (hstored before l after hplace) hid with ⟨hskip, hrow⟩ | ⟨hskip, hrow⟩
  · rw [hrow, Option.map_eq_some_iff]
    exact ⟨Or.inr, fun h => h.resolve_left (not_not.mpr hskip)⟩
  · exact ⟨fun _ => Or.inl hskip, fun _ => ⟨_, hrow, rfl⟩⟩

/-- After each cycle of a run whose walks succeed with every row stored, the rows of the listed contacts have the flags of
    the lists they were last in if and only if no contact is then skipped whose row has the other flag. -/
theorem archivedFlags_iff (s : PassesState κ) (inputs : List (PassesInput κ)) :
    ∀ call ∈ outputs (passesStep onPage) s inputs, ∀ passes, call.complete onPage passes →
      (FlagsFollow onPage call passes ↔ FlagCondition call passes) := by
  intro call _ passes hcomplete
  constructor
  · exact fun h before l id hlast => (flag_iff onPage hcomplete hlast).mp (h before l id hlast)
  · exact fun h before l id hlast => (flag_iff onPage hcomplete hlast).mpr (h before l id hlast)

end

/-! ### Two runs

    Contact 1 is in the list of the active contacts, and then in that of the archived ones. It has changed by then, or
    not. -/

/-- The walks of `bx_contact_walk_items` have no page callback. -/
def noPage (_ : Bool) (k : Unit) (_ : Nat) (_ : Save) : BXillError × Unit × Option BXChainCursor := (.noError, k, none)

def contactNow (checksum : Nat) : ContactItem where
  contact := { id := some 1, checksum, userId := none, ownerId := none, contactGroupIds := [] }
  answers := .quiet

def contactLists (active archived : List ContactItem) : ContactCycle where
  connected := true
  activeStart := 0
  active := (if active = [] then [] else [savedPage active]) ++ [savedPage []]
  archivedStart := 0
  archived := (if archived = [] then [] else [savedPage archived]) ++ [savedPage []]

/-- The two cycles, with the checksum in the second one. -/
def archiving (checksum : Nat) : List (PassesInput Unit) :=
  [.cycle (contactLists [contactNow 7] []), .cycle (contactLists [] [contactNow checksum])]

/-- The second of the two. -/
def archivingCall (checksum : Nat) : PassesCall Unit where
  pre := ((passesStep noPage ((.empty, cacheCreate), ()) (.cycle (contactLists [contactNow 7] []))).2)
  input := .cycle (contactLists [] [contactNow checksum])

theorem mem_archiving (checksum : Nat) :
    archivingCall checksum ∈ outputs (passesStep noPage) ((.empty, cacheCreate), ()) (archiving checksum) :=
  List.mem_cons_of_mem _ List.mem_cons_self

theorem lastListed_archiving {checksum : Nat} : LastListed (contactLists [] [contactNow checksum]).listed [] ⟨true, contactNow checksum⟩ 1 :=
  ⟨⟨[], rfl, fun _ h => nomatch h⟩, rfl⟩

theorem split_archiving {checksum : Nat} {before after : List Listed} {l : Listed}
    (h : (contactLists [] [contactNow checksum]).listed = before ++ l :: after) :
    before = [] ∧ l = ⟨true, contactNow checksum⟩ := by
  have hlisted : (contactLists [] [contactNow checksum]).listed = [⟨true, contactNow checksum⟩] := rfl
  rw [hlisted, eq_comm, List.append_eq_singleton_iff] at h
  rcases h with ⟨rfl, hl⟩ | ⟨-, hl⟩
  · exact ⟨rfl, (List.cons.inj hl).1⟩
  · exact nomatch hl

/-- The second cycle is complete when its walks succeed and the contact is stored. -/
theorem complete_archiving (checksum : Nat)
    (hok : (contactPasses noPage (contactLists [] [contactNow checksum]) (archivingCall checksum).pre).1 = .noError)
    (hstored : Listed.stored (archivingCall checksum).pre.1 ⟨true, contactNow checksum⟩) :
    (archivingCall checksum).complete noPage (contactLists [] [contactNow checksum]) := by
  refine ⟨rfl, hok, fun before l after hplace => ?_⟩
  obtain ⟨rfl, rfl⟩ := split_archiving hplace
  exact hstored

/-- The contact that has changed gets its flag. -/
theorem archivedFlags_changed : FlagsFollow noPage (archivingCall 8) (contactLists [] [contactNow 8]) := by
  have hcomplete := complete_archiving 8 (by decide) ⟨1, rfl, Or.inr (by decide)⟩
  refine (archivedFlags_iff noPage _ _ _ (mem_archiving 8) _ hcomplete).mpr fun before l id hlast => Or.inl ?_
  obtain ⟨⟨after, hplace, -⟩, -⟩ := hlast
  obtain ⟨rfl, rfl⟩ := split_archiving hplace
  show ¬(_ = _)
  decide

/-- The contact that has not changed is skipped, and its row is the one of an active contact. -/
theorem archivedFlags_unchanged :
    ¬∀ call ∈ outputs (passesStep noPage) ((.empty, cacheCreate), ()) (archiving 7), ∀ passes,
      call.complete noPage passes → FlagsFollow noPage call passes := by
  intro h
  have hcomplete := complete_archiving 7 (by decide) ⟨1, rfl, Or.inl (by show _ = _; decide)⟩
  obtain ⟨row, hrow, hflag⟩ := h _ (mem_archiving 7) _ hcomplete [] _ 1 lastListed_archiving
  have hactive : (contactPasses noPage (contactLists [] [contactNow 7]) (archivingCall 7).pre).2.1.1.contact.lookup 1 =
      some { checksum := 7, archived := false } := by decide
  obtain rfl := Option.some.inj (hactive.symm.trans hrow)
  exact nomatch hflag

end BxSync
