import BxSync.Connection
import BxSync.Lib.Machine

/-! Whether the prune queries follow the connection. They are rebuilt when the pointer of the thread changes,
    so they follow as long as a new connection is not at the address of the closed one. -/

namespace BxSync

open Machine

section

variable {R : Type}

/-- Every statement was prepared on the connection that is open. -/
def Link.Follows (l : Link R) : Prop :=
  ∀ c, l.conn = some c → ∀ r serial, l.statements r = some serial → serial = c.serial

/-- Every query that was run had a connection, and its statement was prepared on it. -/
def StatementsFollow (call : LinkCall R) : Prop :=
  ∀ r ∈ call.called, ∃ c, call.pre.conn = some c ∧ ∀ serial, call.pre.statements r = some serial → serial = c.serial

/-- A reconnect does not open a connection at the address of the one it closed. -/
def NewAddress (l : Link R) (a : LinkAnswers R) : Prop :=
  a.reconnect.isSome → a.reconnect ≠ l.conn.map Conn.address

instance (l : Link R) (a : LinkAnswers R) : Decidable (NewAddress l a) := inferInstanceAs (Decidable (_ → _))

theorem threadHandleError_cases (error : BXillError) (l : Link R) (a : LinkAnswers R) :
    (threadHandleError error l a).2 = l ∨ threadHandleError error l a = (false, { l with conn := none }) ∨
      ∃ address, a.reconnect = some address ∧
        threadHandleError error l a =
          (true, { l with conn := some { address, serial := l.opened }, opened := l.opened + 1 }) := by
  unfold threadHandleError
  split_ifs
  · exact Or.inl rfl
  · cases hr : a.reconnect with
    | none => exact Or.inr (Or.inl rfl)
    | some address => exact Or.inr (Or.inr ⟨address, rfl, rfl⟩)
  · exact Or.inl rfl

variable [DecidableEq R]

theorem rebuildPruneQueries_other (serial : Nat) (prepared : R → Bool) (queries : List R) (statements : R → Option Nat)
    {r : R} (hr : r ∉ queries) : (rebuildPruneQueries serial prepared queries statements).2 r = statements r := by
  fun_induction rebuildPruneQueries serial prepared queries statements
  case case1 => rfl
  case case2 q rest _ _ ih =>
    rw [List.mem_cons, not_or] at hr
    rw [ih hr.2, Function.update_of_ne hr.1]
  case case3 =>
    rw [List.mem_cons, not_or] at hr
    exact Function.update_of_ne hr.1 _ _

/-- Queries that could all be rebuilt are prepared on the connection. -/
theorem rebuildPruneQueries_all (serial : Nat) (prepared : R → Bool) (queries : List R) (statements : R → Option Nat)
    (h : (rebuildPruneQueries serial prepared queries statements).1 = true) {r : R} (hr : r ∈ queries) :
    (rebuildPruneQueries serial prepared queries statements).2 r = some serial := by
  revert h
  fun_induction rebuildPruneQueries serial prepared queries statements
  case case1 => exact nomatch hr
  case case2 q rest statements _ ih =>
    intro h
    by_cases hmem : r ∈ rest
    · exact ih hmem h
    · obtain rfl : r = q := (List.mem_cons.mp hr).resolve_right hmem
      rw [rebuildPruneQueries_other _ _ _ _ hmem, Function.update_self]
  case case3 => exact nofun

/-- While the thread goes on, an iteration leaves statements that follow. -/
theorem follows_afterIteration {queries : List R} (hall : ∀ r, r ∈ queries) (error : BXillError) {l : Link R}
    {a : LinkAnswers R} (h : l.Follows) (hnew : NewAddress l a)
    (hrun : (afterIteration queries error l a).running = true) : (afterIteration queries error l a).Follows := by
  unfold afterIteration at hrun ⊢
  rcases threadHandleError_cases error l a with hkept | hlost | ⟨address, hreconnect, hopened⟩
  · -- The pointer is the one before, so nothing is rebuilt.
    dsimp only at hrun ⊢
    rw [hkept] at hrun ⊢
    split
    · cases hconn : l.conn with
      | none => exact fun c hc => h c (hconn ▸ hc)
      | some conn =>
        dsimp only
        rw [if_pos (by simp)]
        exact fun c hc => h c (hconn ▸ hc)
    · exact h
  · rw [hlost]
    exact fun c hc => nomatch hc
  · have hmoved : l.conn.map Conn.address ≠ some address := by
      intro heq
      exact hnew (by rw [hreconnect]; rfl) (hreconnect.trans heq.symm)
    rw [hopened] at hrun ⊢
    simp only [if_true, if_neg hmoved] at hrun ⊢
    intro c hc r serial hr
    have hrebuilt := rebuildPruneQueries_all l.opened a.prepared queries l.statements hrun (hall r)
    rw [← Option.some.inj hc, ← Option.some.inj (hrebuilt.symm.trans hr)]

end

/-! ### Which queries are run -/

theorem chainStep_called (s : ChainState) (i : ChainStepInput) (h : (chainStep s i).1.prunes.called ≠ []) :
    i.sync.connected = true := by
  by_contra hconn
  refine h ?_
  show (pruneStep i (bxChainSync s i.sync)).called = []
  rw [bxChainSync_disconnected (Bool.eq_false_iff.mpr hconn)]
  rfl

theorem fileStep_pruned (s : FileState) (i : FileInput) (h : (fileStep s i).1.pruned = true) : i.connected = true := by
  by_contra hconn
  unfold fileStep Walker.walkPagesFrom at h
  rw [if_neg hconn] at h
  exact nomatch h

/-! ### Runs -/

theorem chainThreadStep_follows (t : ChainThread) (i : ChainThreadInput) (hinv : t.link.running = true → t.link.Follows)
    (hnew : NewAddress t.link i.link) :
    StatementsFollow (chainThreadStep t i).1 ∧
      ((chainThreadStep t i).2.link.running = true → (chainThreadStep t i).2.link.Follows) := by
  unfold chainThreadStep
  dsimp only
  constructor
  · intro r hr
    dsimp only at hr
    split at hr
    · rename_i hrun
      have hconn := chainStep_called t.chain (t.stepInput i) (List.ne_nil_of_mem hr)
      obtain ⟨c, hc⟩ := Option.isSome_iff_exists.mp hconn
      exact ⟨c, hc, hinv hrun c hc r⟩
    · exact nomatch hr
  · split
    · rename_i hrun
      exact follows_afterIteration (fun r => by cases r <;> decide) _ (hinv hrun) hnew
    · exact hinv

theorem fileThreadStep_follows (t : FileThread) (i : FileThreadInput) (hinv : t.link.running = true → t.link.Follows)
    (hnew : NewAddress t.link i.link) :
    StatementsFollow (fileThreadStep t i).1 ∧
      ((fileThreadStep t i).2.link.running = true → (fileThreadStep t i).2.link.Follows) := by
  unfold fileThreadStep
  dsimp only
  constructor
  · intro r hr
    dsimp only at hr
    split at hr
    · rename_i h
      obtain ⟨c, hc⟩ := Option.isSome_iff_exists.mp (fileStep_pruned _ _ h.2)
      exact ⟨c, hc, hinv h.1 c hc r⟩
    · exact nomatch hr
  · split
    · rename_i hrun
      exact follows_afterIteration (fun r => by cases r; decide) _ (hinv hrun) hnew
    · exact hinv

theorem follows_startLink {R : Type} (address : Nat) (prepared : R → Bool) : (startLink address prepared).Follows := by
  intro c hc r serial hr
  obtain rfl := Option.some.inj hc
  unfold startLink at hr
  dsimp only at hr
  split at hr
  · exact (Option.some.inj hr).symm
  · exact nomatch hr

/-- In a run of either thread whose reconnects never open a connection at the address of the one just
    closed, every prune runs a statement of the open connection. -/
theorem statementsFollow_of_newAddress (chain : ChainState) (files : FileState) (address : Nat)
    (prepared : Resource → Bool) (filePrepared : Bool) (inputs : List ChainThreadInput) (fileInputs : List FileThreadInput)
    (hnew : ∀ call ∈ outputs chainThreadStep ⟨chain, startLink address prepared⟩ inputs, NewAddress call.pre call.answers)
    (hfile : ∀ call ∈ outputs fileThreadStep ⟨files, startLink address fun _ => filePrepared⟩ fileInputs,
      NewAddress call.pre call.answers) :
    (∀ call ∈ outputs chainThreadStep ⟨chain, startLink address prepared⟩ inputs, StatementsFollow call) ∧
      ∀ call ∈ outputs fileThreadStep ⟨files, startLink address fun _ => filePrepared⟩ fileInputs, StatementsFollow call := by
  constructor
  · exact run_all chainThreadStep (I := fun t => t.link.running = true → t.link.Follows)
      (C := fun call => NewAddress call.pre call.answers) (fun _ => follows_startLink _ _) chainThreadStep_follows hnew
  · exact run_all fileThreadStep (I := fun t => t.link.running = true → t.link.Follows)
      (C := fun call => NewAddress call.pre call.answers) (fun _ => follows_startLink _ _) fileThreadStep_follows hfile

/-! ### Two runs

    The list request of the first iteration has no answer, and the connection is gone. The second iteration
    walks an empty list and prunes id 1. -/

def staleOne : Cache := cacheNextVersion (bxCacheHydrate [(1, 7)] cacheCreate)

def chainThreadStart : ChainThread where
  chain := bxChainInit .empty cacheCreate staleOne cacheCreate ⟨.project, 0⟩
  link := startLink 16 fun _ => true

def chainThreadInputs (reconnect : Nat) : List ChainThreadInput :=
  [{ step := .of .silent, link := ⟨true, some reconnect, fun _ => true⟩ },
    { step := { ChainStepInput.of { ChainInput.silent with projects := [savedPage []] } with
        projectPrune := ⟨true, [.ran false false]⟩ }
      link := ⟨false, none, fun _ => true⟩ }]

def fileThreadStart : FileThread where
  files := { db := .empty, files := staleOne }
  link := startLink 16 fun _ => true

def fileThreadInputs (reconnect : Nat) : List FileThreadInput :=
  [{ step := ⟨true, [], 1, ⟨true, []⟩⟩, link := ⟨true, some reconnect, fun _ => true⟩ },
    { step := ⟨true, [savedPage []], 1, ⟨true, [.ran false false]⟩⟩, link := ⟨false, none, fun _ => true⟩ }]

/-- The new connection is at another address, and both prunes delete their id. -/
theorem statementsFollow_moved :
    ((final chainThreadStep chainThreadStart (chainThreadInputs 32)).chain.projects.items = [] ∧
      (final fileThreadStep fileThreadStart (fileThreadInputs 32)).files.files.items = []) ∧
      (∀ call ∈ outputs chainThreadStep chainThreadStart (chainThreadInputs 32), StatementsFollow call) ∧
      ∀ call ∈ outputs fileThreadStep fileThreadStart (fileThreadInputs 32), StatementsFollow call :=
  ⟨by decide, statementsFollow_of_newAddress _ _ 16 (fun _ => true) true _ _ (by decide) (by decide)⟩

/-- The new connection is where the closed one was, and the prune runs the statement of the closed one. -/
theorem statementsFollow_reused :
    ¬∀ call ∈ outputs chainThreadStep chainThreadStart (chainThreadInputs 16), StatementsFollow call := by
  intro h
  have hlast : (outputs chainThreadStep chainThreadStart (chainThreadInputs 16))[1]? = some
      (chainThreadStep (chainThreadStep chainThreadStart (chainThreadInputs 16)[0]).2 (chainThreadInputs 16)[1]).1 := rfl
  obtain ⟨c, hc, hserial⟩ := h _ (List.mem_of_getElem? hlast) .project (by decide)
  have hopen : (chainThreadStep chainThreadStart (chainThreadInputs 16)[0]).2.link.conn = some ⟨16, 1⟩ := by decide
  obtain rfl : c = ⟨16, 1⟩ := Option.some.inj (hc.symm.trans hopen)
  exact absurd (hserial 0 (by decide)) (by decide)

end BxSync
