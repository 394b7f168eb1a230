import Mathlib.Data.List.TakeWhile
import BxSync.Contact
import BxSync.Json
import BxSync.Lib.Machine

/-! The group ids of a contact, from the text of the remote (`bx_utils.c`) to the rows of `cg2c`, under any sequence
    of contact syncs. The schema gives `cg2c` no foreign keys: a row stands whether or not its group does. -/

namespace BxSync

/-! ### The text -/

/-- `_bx_utils_buffer_into_array`. A full buffer has no NUL, and `strtoll` reads on into what lies behind it. -/
def bxUtilsBufferIntoArray (behind : List UInt8) (array : List Int64) (buffer : List UInt8) : List Int64 :=
  array ++ [strtoll (if buffer.length ≤ 20 then buffer else buffer ++ behind)]

/-- The loop of `bx_int_string_array_to_int_array`. The buffer takes 21 digits. -/
def scanInts (behind : List UInt8) : List UInt8 → List UInt8 → List Int64 → List Int64
  | [], buffer, array => if buffer.length = 0 then array else bxUtilsBufferIntoArray behind array buffer
  | c :: rest, buffer, array =>
    if isDigit c then scanInts behind rest (if 20 < buffer.length then buffer else buffer ++ [c]) array
    else if buffer.length = 0 then scanInts behind rest buffer array
    else scanInts behind rest [] (bxUtilsBufferIntoArray behind array buffer)

/-- `bx_int_string_array_to_int_array`. No string and no number are the empty array. -/
def bxIntStringArrayToIntArray (behind : List UInt8) (str : Option (List UInt8)) : List Int64 :=
  str.elim [] fun s => scanInts behind (cString s) [] []

/-- The number that digits write. -/
def decimal (digits : List UInt8) : Nat := digits.foldl (fun n c => 10 * n + (c.toNat - 48)) 0

/-- The runs of digits of a text. -/
def digitRuns (s : List UInt8) : List (List UInt8) := (s.splitOnP fun c => !isDigit c).filter fun run => run ≠ []

/-- The group ids a text names. -/
def groupIds (str : Option (List UInt8)) : List Nat := str.elim [] fun s => (digitRuns (cString s)).map decimal

/-- Each number of the text fits the buffer and the type of `strtoll`. -/
def FitsInt64 (str : Option (List UInt8)) : Prop :=
  ∀ s ∈ str, ∀ run ∈ digitRuns (cString s), run.length ≤ 20 ∧ decimal run < 2 ^ 63

theorem isDigit_iff (c : UInt8) : isDigit c = true ↔ 48 ≤ c.toNat ∧ c.toNat ≤ 57 := by
  simp [isDigit, UInt8.le_iff_toNat_le]

theorem foldl_decimal (digits : List UInt8) (n : Nat) (h : ∀ c ∈ digits, isDigit c) :
    digits.foldl (fun (n : Int) c => 10 * n + (c.toNat - 48)) n =
      (digits.foldl (fun n c => 10 * n + (c.toNat - 48)) n : Nat) := by
  induction digits generalizing n with
  | nil => rfl
  | cons c digits ih =>
    have hc := (isDigit_iff c).mp (h c List.mem_cons_self)
    have hstep : 10 * (n : Int) + ((c.toNat : Int) - 48) = (10 * n + (c.toNat - 48) : Nat) := by omega
    rw [List.foldl_cons, List.foldl_cons, hstep]
    exact ih _ fun c hc => h c (List.mem_cons_of_mem _ hc)

theorem toNat_strtoll {digits : List UInt8} (h : ∀ c ∈ digits, isDigit c) (hfits : decimal digits < 2 ^ 63) :
    (strtoll digits).toUInt64.toNat = decimal digits := by
  have hbyte : ∀ c ∈ digits, c ≠ 0 ∧ isSpace c = false ∧ c ≠ 45 ∧ c ≠ 43 := by
    intro c hc
    have hc := (isDigit_iff c).mp (h c hc)
    have hspace : isSpace c = false := by
      rw [Bool.eq_false_iff]
      intro hspace
      simp only [isSpace, Bool.or_eq_true, Bool.and_eq_true, decide_eq_true_eq, UInt8.le_iff_toNat_le] at hspace
      rcases hspace with rfl | ⟨-, hle⟩
      · exact absurd hc (by decide)
      · exact absurd (hc.1.trans hle) (by decide)
    refine ⟨?_, hspace, ?_, ?_⟩
    all_goals
      rintro rfl
      exact absurd hc (by decide)
  have hc : cString digits = digits := List.takeWhile_eq_self_iff.mpr fun c hc => by simpa using (hbyte c hc).1
  have hspace : digits.dropWhile isSpace = digits := by
    cases digits with
    | nil => rfl
    | cons c digits => exact List.dropWhile_cons_of_neg (by simp [(hbyte c List.mem_cons_self).2.1])
  have hall : digits.takeWhile isDigit = digits := List.takeWhile_eq_self_iff.mpr h
  unfold strtoll
  dsimp only
  rw [hc, hspace]
  have hsign : ∀ rest, digits ≠ 45 :: rest ∧ digits ≠ 43 :: rest := by
    intro rest
    constructor
    · rintro rfl
      exact (hbyte 45 List.mem_cons_self).2.2.1 rfl
    · rintro rfl
      exact (hbyte 43 List.mem_cons_self).2.2.2 rfl
  split
  · exact absurd rfl (hsign _).1
  · exact absurd rfl (hsign _).2
  · rw [hall]
    have hnum : digits.foldl (fun (n : Int) c => 10 * n + (c.toNat - 48)) 0 = (decimal digits : Int) :=
      foldl_decimal digits 0 h
    rw [hnum, min_eq_left (by omega), max_eq_right (by omega)]
    show (UInt64.ofNat (decimal digits)).toNat = decimal digits
    rw [UInt64.toNat_ofNat_of_lt' (by simp [UInt64.size]; omega)]

section

variable {buffer rest : List UInt8}

theorem digitRuns_digits (h : ∀ c ∈ buffer, isDigit c) : digitRuns buffer = if buffer.length = 0 then [] else [buffer] := by
  unfold digitRuns
  rw [List.splitOnP_eq_singleton fun c hc => by simp [h c hc]]
  cases buffer <;> simp

theorem digitRuns_append_cons {c : UInt8} (hc : isDigit c = false) :
    digitRuns (buffer ++ c :: rest) = digitRuns buffer ++ digitRuns rest := by
  unfold digitRuns
  rw [List.splitOnP_append_cons _ _ (by simp [hc]), List.filter_append]

/-- Digits in front are part of a run. -/
theorem exists_digitRun (h : ∀ c ∈ buffer, isDigit c) (hne : buffer.length ≠ 0) :
    ∃ run ∈ digitRuns (buffer ++ rest), buffer.length ≤ run.length := by
  induction rest generalizing buffer with
  | nil =>
    rw [List.append_nil, digitRuns_digits h, if_neg hne]
    exact ⟨buffer, List.mem_singleton_self _, le_rfl⟩
  | cons c rest ih =>
    cases hc : isDigit c with
    | true =>
      have hdigits : ∀ d ∈ buffer ++ [c], isDigit d := by simpa [or_imp, forall_and] using ⟨h, hc⟩
      obtain ⟨run, hrun, hle⟩ := ih hdigits (by simp)
      rw [List.append_assoc] at hrun
      rw [List.length_append] at hle
      exact ⟨run, hrun, by omega⟩
    | false =>
      rw [digitRuns_append_cons hc, digitRuns_digits h, if_neg hne]
      exact ⟨buffer, by simp, le_rfl⟩

theorem map_bxUtilsBufferIntoArray (behind : List UInt8) (array : List Int64) (h : ∀ c ∈ buffer, isDigit c)
    (hfits : buffer.length ≤ 20 ∧ decimal buffer < 2 ^ 63) :
    (bxUtilsBufferIntoArray behind array buffer).map (fun n => n.toUInt64.toNat) =
      array.map (fun n => n.toUInt64.toNat) ++ [decimal buffer] := by
  unfold bxUtilsBufferIntoArray
  rw [if_pos hfits.1, List.map_append, List.map_singleton, toNat_strtoll h hfits.2]

theorem map_scanInts (behind : List UInt8) (array : List Int64) (h : ∀ c ∈ buffer, isDigit c)
    (hfits : ∀ run ∈ digitRuns (buffer ++ rest), run.length ≤ 20 ∧ decimal run < 2 ^ 63) :
    (scanInts behind rest buffer array).map (fun n => n.toUInt64.toNat) =
      array.map (fun n => n.toUInt64.toNat) ++ (digitRuns (buffer ++ rest)).map decimal := by
  revert h hfits
  fun_induction scanInts behind rest buffer array
  case case1 buffer array hempty =>
    intro h _
    rw [List.append_nil, digitRuns_digits h, if_pos hempty, List.map_nil, List.append_nil]
  case case2 buffer array hne =>
    intro h hfits
    rw [List.append_nil, digitRuns_digits h, if_neg hne] at hfits ⊢
    exact map_bxUtilsBufferIntoArray behind array h (hfits buffer (List.mem_singleton_self _))
  case case3 c rest buffer array hc ih =>
    intro h hfits
    have hdigits : ∀ d ∈ buffer ++ [c], isDigit d := by simpa [or_imp, forall_and] using ⟨h, hc⟩
    have hsplit : buffer ++ c :: rest = buffer ++ [c] ++ rest := by simp
    rw [hsplit] at hfits ⊢
    -- The run goes on, so the buffer is not full.
    obtain ⟨run, hrun, hle⟩ : ∃ run ∈ digitRuns (buffer ++ [c] ++ rest), (buffer ++ [c]).length ≤ run.length :=
      exists_digitRun hdigits (by simp)
    have hroom : ¬20 < buffer.length := by
      have := (hfits run hrun).1
      rw [List.length_append] at hle
      simp only [List.length_singleton] at hle
      omega
    simp only [if_neg hroom] at ih ⊢
    exact ih hdigits hfits
  case case4 c rest buffer array hc hempty ih =>
    intro h hfits
    rw [digitRuns_append_cons (by simpa using hc), digitRuns_digits h, if_pos hempty, List.nil_append] at hfits ⊢
    obtain rfl : buffer = [] := List.length_eq_zero_iff.mp hempty
    exact ih h hfits
  case case5 c rest buffer array hc hne ih =>
    intro h hfits
    rw [digitRuns_append_cons (by simpa using hc), digitRuns_digits h, if_neg hne] at hfits ⊢
    have hrest := ih (by simp) fun run hrun => hfits run (List.mem_append_right _ hrun)
    rw [hrest, map_bxUtilsBufferIntoArray behind array h (hfits buffer (by simp)), List.append_assoc, List.map_append]
    rfl

end

/-- A text whose numbers fit names the ids of its array. -/
theorem map_bxIntStringArrayToIntArray (behind : List UInt8) {str : Option (List UInt8)} (hfits : FitsInt64 str) :
    (bxIntStringArrayToIntArray behind str).map (fun n => n.toUInt64.toNat) = groupIds str := by
  cases str with
  | none => rfl
  | some s =>
    show (scanInts behind (cString s) [] []).map _ = _
    exact map_scanInts behind [] (by simp) (hfits s rfl)

/-! ### Contact syncs -/

/-- A sync of one contact: its object, with the group ids as their text, what lies behind the buffer of a number, and
    the answers to its statements. -/
structure ContactSync where
  archived : Bool
  id : Option Nat
  checksum : Nat
  userId : Option Nat
  ownerId : Option Nat
  contactGroupIds : Option (List UInt8)
  behind : List UInt8
  answers : ContactAnswers
deriving DecidableEq, Repr

/-- The id its statements and the cache use. -/
def ContactSync.key (sync : ContactSync) : Nat := sync.id.getD 0

/-- The ids handed to `bx_contact_group_link` are cast to unsigned. -/
def ContactSync.item (sync : ContactSync) : ContactItem where
  contact := {
    id := sync.id
    checksum := sync.checksum
    userId := sync.userId
    ownerId := sync.ownerId
    contactGroupIds := (bxIntStringArrayToIntArray sync.behind sync.contactGroupIds).map fun n => n.toUInt64.toNat }
  answers := sync.answers

/-- A sync and the tables and the cache it meets. -/
structure ContactCall where
  pre : Database × Cache
  sync : ContactSync

def contactStep (s : Database × Cache) (sync : ContactSync) : ContactCall × (Database × Cache) :=
  ({ pre := s, sync }, (bxContactSyncItem sync.archived s.1 s.2 sync.item).2)

/-- The sync stores its version: the cache asks for it, its users are there, and its row raised no warning. -/
def ContactCall.stores (call : ContactCall) : Bool :=
  let item := call.sync.item
  let state := (cacheCheckItem call.pre.2 call.sync.key call.sync.checksum).1
  state ≠ .cacheOk && ensureContactUsers item.contact item.answers = .noError &&
    bxDatabasePersistOk (persistContact call.sync.archived state call.pre.1 item).1

/-- The last version of a contact that was stored. -/
def lastStored (calls : List ContactCall) (id : Nat) : Option ContactSync :=
  ((calls.filter fun call => call.stores && call.sync.key = id).map ContactCall.sync).getLast?

/-- The row of a group and a contact is there. -/
def Database.linked (db : Database) (gid id : Nat) : Bool := (db.cg2c.lookup (gid, id)).isSome

theorem lastStored_append (calls : List ContactCall) (call : ContactCall) (id : Nat) :
    lastStored (calls ++ [call]) id =
      if call.stores && call.sync.key = id then some call.sync else lastStored calls id := by
  unfold lastStored
  cases h : call.stores && call.sync.key = id with
  | true => simp [List.filter_append, h]
  | false => simp [List.filter_append, h]

/-! ### Rows of `cg2c` -/

/-- The ids whose INSERT IGNORE takes effect. The loop stops at the first that is not reported. -/
def linkedIds : List Nat → List Exec → List Nat
  | [], _ => []
  | 0 :: gids, execs => linkedIds gids execs
  | _ :: gids, .ran true _ :: execs => linkedIds gids execs
  | gid :: gids, .ran false _ :: execs => gid :: linkedIds gids execs
  | gid :: _, .unreported false _ _ :: _ => [gid]
  | _ :: _, _ => []

theorem mem_of_mem_linkedIds {gids : List Nat} {execs : List Exec} {gid : Nat} (h : gid ∈ linkedIds gids execs) :
    gid ≠ 0 ∧ gid ∈ gids := by
  revert h
  fun_induction linkedIds gids execs
  case case1 | case6 => exact nofun
  case case2 ih | case3 ih => exact fun h => ⟨(ih h).1, List.mem_cons_of_mem _ (ih h).2⟩
  case case4 first gids _ execs hne ih =>
    intro h
    rcases List.mem_cons.mp h with rfl | h
    · exact ⟨hne, List.mem_cons_self⟩
    · exact ⟨(ih h).1, List.mem_cons_of_mem _ (ih h).2⟩
  case case5 first gids _ _ _ hne =>
    intro h
    obtain rfl := List.mem_singleton.mp h
    exact ⟨hne, List.mem_cons_self⟩

theorem linked_insertIgnore (db : Database) (gid id : Nat) (converted : Bool) (k j : Nat) :
    Database.linked { db with cg2c := (Table.insertIgnore db.cg2c (gid, id) () false converted).2 } k j =
      (db.linked k j || (k = gid && j = id)) := by
  unfold Database.linked Table.insertIgnore
  split
  · rename_i h
    have hthere : (db.cg2c.lookup (gid, id)).isSome := by simpa using h
    by_cases hkey : k = gid ∧ j = id
    · obtain ⟨rfl, rfl⟩ := hkey
      simp [hthere]
    · rw [not_and_or] at hkey
      rcases hkey with hk | hj
      · simp [hk]
      · simp [hj]
  · dsimp only
    rw [Table.lookup_insert_eq]
    by_cases hkey : k = gid ∧ j = id
    · obtain ⟨rfl, rfl⟩ := hkey
      simp
    · rw [if_neg (by simpa [Prod.ext_iff] using hkey)]
      rw [not_and_or] at hkey
      rcases hkey with hk | hj
      · simp [hk]
      · simp [hj]

theorem insertIgnore_refused (t : Table (Nat × Nat) Unit) (key : Nat × Nat) (converted : Bool) :
    Table.insertIgnore t key () true converted = (some true, t) := by
  unfold Table.insertIgnore
  rw [if_pos (Or.inr rfl)]

theorem run_insertIgnore (t : Table (Nat × Nat) Unit) (key : Nat × Nat) (fkError converted : Bool) :
    ∃ warned, ((Exec.ran fkError converted).run t fun fk cv => Table.insertIgnore t key () fk cv) =
      (.done warned, (Table.insertIgnore t key () fkError converted).2) := by
  obtain ⟨warned, hdone⟩ := Table.insertIgnore_done t key () fkError converted
  refine ⟨warned, ?_⟩
  rcases heffect : Table.insertIgnore t key () fkError converted with ⟨reply, t'⟩
  rw [heffect] at hdone
  obtain rfl : reply = some warned := hdone
  simp only [Exec.run, heffect]

/-- The loop adds the rows of its ids that take effect. -/
theorem linked_linkGroups (id : Nat) (gids : List Nat) (execs : List Exec) (db : Database) (k j : Nat) :
    (linkGroups id gids execs db).2.linked k j = (db.linked k j || (k ∈ linkedIds gids execs && j = id)) := by
  fun_induction linkGroups id gids execs db
  case case1 => simp [linkedIds]
  case case2 ih => rw [ih, linkedIds]
  case case3 gid gids db hne => simp [linkedIds]
  case case4 gid gids exec execs db hne needReconnect cg2c hrun =>
    obtain ⟨g, rfl⟩ := Nat.exists_eq_succ_of_ne_zero hne
    obtain rfl : (exec.run db.cg2c _).2 = cg2c := congrArg Prod.snd hrun
    cases exec with
    | unsent => simp [Exec.run, linkedIds]
    | ran fk cv =>
      obtain ⟨warned, hdone⟩ := run_insertIgnore db.cg2c (g.succ, id) fk cv
      rw [hdone] at hrun
      cases hrun
    | unreported fk cv _ =>
      cases fk with
      | true => simp [Exec.run, insertIgnore_refused, linkedIds]
      | false =>
        have := linked_insertIgnore db g.succ id cv k j
        simp only [Exec.run, linkedIds, List.mem_singleton]
        exact this
  case case5 gid gids exec execs db hne warned cg2c hrun ih =>
    obtain ⟨g, rfl⟩ := Nat.exists_eq_succ_of_ne_zero hne
    obtain rfl : (exec.run db.cg2c _).2 = cg2c := congrArg Prod.snd hrun
    rw [ih]
    cases exec with
    | unsent => cases hrun
    | unreported => cases hrun
    | ran fk cv =>
      cases fk with
      | true => simp [Exec.run, insertIgnore_refused, linkedIds]
      | false =>
        obtain ⟨_, hdone⟩ := run_insertIgnore db.cg2c (g.succ, id) false cv
        rw [hdone, linked_insertIgnore]
        simp only [linkedIds, List.mem_cons]
        by_cases hk : k = g.succ <;> by_cases hj : j = id <;> simp [hk, hj]

end BxSync
