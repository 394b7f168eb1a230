import BxSync.Lib.Footprint
import BxSync.Theorems.RowPrograms

/-! A program over some tables uses these tables only. The lists that `main` loads and those of `random_item_thread` have
    tables of their own, so that each list does what it does alone, whatever the others come to. -/

namespace BxSync

open Footprint

/-! ### Programs -/

section

variable {κ : Type}

theorem uses_add {call : Records κ → RecordCall κ} {rows : Records κ → UpsertRows κ} {β : Type} {result : Records κ → β}
    {table : String} (hcall : ∀ s, (call s).table = table)
    (hdecided : ∀ s s' : Records κ, s.tables table = s'.tables table → result s = result s' ∧ rows s = rows s') :
    Uses Records.tables {table} fun s => (result s, s.add (call s) (rows s)) where
  frame s i hi := by
    show Function.update s.tables (call s).table (rows s) i = s.tables i
    rw [hcall, Function.update_of_ne hi]
  decided s s' hagree := by
    obtain ⟨hresult, hrows⟩ := hdecided s s' (hagree table rfl)
    refine ⟨hresult, fun i hi => ?_⟩
    obtain rfl : i = table := hi
    show Function.update s.tables (call s).table (rows s) i = Function.update s'.tables (call s').table (rows s') i
    rw [hcall, hcall, hrows, Function.update_self, Function.update_self]

variable [DecidableEq κ] {lib : TextLib} {serverKey : BXSlot → κ} {xxh3 : List UInt8 → UInt64}

/-- What a program does is decided by its tables, and it leaves the others. -/
theorem RowProgram.uses {F : Set String} {β : Type} {f : Records κ → β × Records κ} (h : RowProgram lib serverKey xxh3 F f) :
    Uses Records.tables F f := by
  induction h with
  | pure b => exact uses_pure b
  | store table htable statements key nullKey row a _ =>
    refine Uses.mono ?_ (Set.singleton_subset_iff.mpr htable)
    refine uses_add (fun _ => rfl) fun s s' hrows => ?_
    rw [hrows]
    exact ⟨rfl, rfl⟩
  | upsert t htable obj parentId a =>
    refine Uses.mono ?_ (Set.singleton_subset_iff.mpr htable)
    refine uses_add (fun _ => rfl) fun s s' hrows => ?_
    rw [hrows]
    exact ⟨rfl, rfl⟩
  | bind _ _ ihf ihg => exact ihf.bind ihg

end

/-! ### Lists one after the other -/

section

variable {κ ρ : Type}

/-- Sets of tables, by their names. -/
def tableSets (names : List (List String)) : List (Set String) := names.map fun tables => {table | table ∈ tables}

/-- The walks of `walkLists`, and what is left of their errors. -/
def keptWalks (connected : Bool) :
    List (RecordList κ ρ) → List (List (Option (PageReply ρ))) → List (Records κ → BXillError × Records κ)
  | [], _ => []
  | l :: lists, replies =>
    (fun s => (keepGoing (l.walk connected (replies.headD []) s).1, (l.walk connected (replies.headD []) s).2)) ::
      keptWalks connected lists replies.tail

theorem walkLists_eq_runAll (connected : Bool) (lists : List (RecordList κ ρ)) (replies : List (List (Option (PageReply ρ))))
    (s : Records κ) :
    walkLists connected lists replies s = runAll (· ≠ .noError) .noError (keptWalks connected lists replies) s := by
  induction lists generalizing replies s with
  | nil => rfl
  | cons l lists ih =>
    rw [walkLists, keptWalks, runAll]
    simp only [ih, decide_eq_true_eq]

/-- The loads of `runLoads`, and whether there is a connection after each of them. -/
def steppedLoads (reconnected : Nat → Bool) : Nat → List (Records κ → BXillError × Records κ) → List (Records κ → Bool × Records κ)
  | _, [] => []
  | n, load :: loads =>
    (fun s => (lookupStep (load s).1 (reconnected n), (load s).2)) :: steppedLoads reconnected (n + 1) loads

theorem runLoads_eq_runAll (reconnected : Nat → Bool) (n : Nat) (loads : List (Records κ → BXillError × Records κ))
    (s : Records κ) : runLoads reconnected n loads s = runAll (! ·) true (steppedLoads reconnected n loads) s := by
  induction loads generalizing n s with
  | nil => rfl
  | cons load loads ih =>
    rw [runLoads, steppedLoads, runAll]
    cases lookupStep (load s).1 (reconnected n)
    · rfl
    · exact ih (n + 1) (load s).2

variable [DecidableEq κ] {lib : TextLib} {serverKey : BXSlot → κ} {xxh3 : List UInt8 → UInt64}

theorem uses_keptWalks {lists : List (RecordList κ ρ)} {tables : List (List String)}
    (h : ListPrograms lib serverKey xxh3 lists tables) (connected : Bool) (replies : List (List (Option (PageReply ρ)))) :
    List.Forall₂ (fun f F => Uses Records.tables F f) (keptWalks connected lists replies) (tableSets tables) := by
  induction h generalizing replies with
  | nil => exact .nil
  | cons hl _ ih => exact .cons ((rowProgram_walk hl connected _).map keepGoing).uses (ih replies.tail)

theorem pairwise_tableSets {names : List (List String)} (h : names.flatten.Nodup) :
    (tableSets names).Pairwise fun F G => ∀ table ∈ F, table ∉ G :=
  List.pairwise_map.mpr ((List.nodup_flatten.mp h).2.imp fun hapart _ htable htable' => hapart htable htable')

/-- Lists over tables of their own are walked as each of them alone. -/
theorem walkLists_alone {lists : List (RecordList κ ρ)} {tables : List (List String)}
    (h : ListPrograms lib serverKey xxh3 lists tables) (hnodup : tables.flatten.Nodup) (connected : Bool)
    (replies : List (List (Option (PageReply ρ)))) (s : Records κ) :
    EachAlone Records.tables (· ≠ .noError) .noError ((keptWalks connected lists replies).zip (tableSets tables)) s
      (walkLists connected lists replies s) := by
  rw [walkLists_eq_runAll]
  exact eachAlone_zip (uses_keptWalks h connected replies) (pairwise_tableSets hnodup) s

theorem uses_steppedLoads (reconnected : Nat → Bool) {loads : List (Records κ → BXillError × Records κ)}
    {tables : List (List String)}
    (h : List.Forall₂ (fun load names => RowProgram lib serverKey xxh3 {table | table ∈ names} load) loads tables) (n : Nat) :
    List.Forall₂ (fun f F => Uses Records.tables F f) (steppedLoads reconnected n loads) (tableSets tables) := by
  induction h generalizing n with
  | nil => exact .nil
  | cons hload _ ih => exact .cons (hload.map fun e => lookupStep e (reconnected n)).uses (ih (n + 1))

variable (lib serverKey xxh3)

/-- The loads of `main`, the lists of the lookups and those of the records: whatever the others come to, each of them
    leaves its tables as it leaves them alone, or does not reach them because the connection is lost before it. -/
theorem lists_apart (i : BootstrapInput) (connected : Bool) (replies : List (List (Option (PageReply RecordItem)))) (s : Records κ) :
    EachAlone Records.tables (! ·) true
      ((steppedLoads i.reconnected 0 (bootstrapLoads lib serverKey xxh3 i)).zip (tableSets bootstrapTables)) s
      (runLoads i.reconnected 0 (bootstrapLoads lib serverKey xxh3 i) s) ∧
    EachAlone Records.tables (· ≠ .noError) .noError
      ((keptWalks connected (lookupLists lib serverKey xxh3) replies).zip (tableSets lookupTables)) s
      (bxLookupsWalkMore lib serverKey xxh3 connected replies s) ∧
    EachAlone Records.tables (· ≠ .noError) .noError
      ((keptWalks connected (recordLists lib serverKey xxh3) replies).zip (tableSets recordTables)) s
      (bxRecordsWalkMore lib serverKey xxh3 connected replies s) := by
  refine ⟨?_, walkLists_alone listPrograms_lookupLists (by decide +kernel) connected replies s,
    walkLists_alone listPrograms_recordLists (by decide +kernel) connected replies s⟩
  rw [runLoads_eq_runAll]
  exact eachAlone_zip (uses_steppedLoads i.reconnected (rowProgram_bootstrapLoads i) 0)
    (pairwise_tableSets (by decide +kernel)) s

end

end BxSync
