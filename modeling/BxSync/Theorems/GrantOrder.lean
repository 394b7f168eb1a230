import BxSync.Lib.Machine
import BxSync.OAuth

/-! Whether the committed tokens only get newer. A process that could not save its tokens keeps them and writes
    them later without a look at the table. -/

namespace BxSync

open Critical Machine

/-! ### The property -/

/-- The second tokens were issued, and the first not after them. The list has the newest first. -/
def NotAfter (issued : List Tokens) (earlier later : Tokens) : Prop := earlier ∈ issued.dropWhile (· ≠ later)

instance (issued : List Tokens) (earlier later : Tokens) : Decidable (NotAfter issued earlier later) :=
  inferInstanceAs (Decidable (_ ∈ _))

/-- What a process has in memory. -/
def memory : (BXOAuth × OAuthOutside) ⊕ (BXOAuth × OAuthInside) → BXOAuth
  | .inl p => p.1
  | .inr p => p.1

section

variable {ι : Type}

/-- What a call commits. -/
def OAuthCall.committed (call : OAuthCall ι) : Option Tokens :=
  match call.pre.procs call.pid, call.move with
  | .inr (oa, .writing _ _), .write commit _ => if commit = .failed then none else writtenTokens oa
  | _, _ => none

/-- No other process holds an older grant that it could not commit, when a call commits one. -/
def NoOlderHeld (call : OAuthCall ι) : Prop :=
  ∀ tokens, tokens ∈ call.committed → ∀ i, i ≠ call.pid → (memory (call.pre.procs i)).tokensDirty = true →
    NotAfter call.pre.data.issued tokens (memory (call.pre.procs i)).tokens

variable [DecidableEq ι]

/-- After the call the table has the tokens of one grant, which are not older than those before it. -/
def KeepsOrder (call : OAuthCall ι) : Prop :=
  call.post.data.rows ∈ call.post.data.issued ∧ NotAfter call.post.data.issued call.pre.data.rows call.post.data.rows

instance (call : OAuthCall ι) : Decidable (KeepsOrder call) := inferInstanceAs (Decidable (_ ∧ _))

end

/-! ### The order of the grants -/

section

variable {issued : List Tokens} {a b t : Tokens}

theorem notAfter_self (h : a ∈ issued) : NotAfter issued a a := by
  unfold NotAfter
  induction issued with
  | nil => nomatch h
  | cons x xs ih =>
    by_cases hx : x = a
    · simp [hx]
    · rw [List.dropWhile_cons_of_pos (by simpa using hx)]
      rcases List.mem_cons.mp h with rfl | h
      · exact absurd rfl hx
      · exact ih h

theorem NotAfter.mem (h : NotAfter issued a b) : a ∈ issued := (List.dropWhile_sublist _).subset h

theorem NotAfter.mem_later (h : NotAfter issued a b) : b ∈ issued := by
  unfold NotAfter at h
  induction issued with
  | nil => nomatch h
  | cons x xs ih =>
    by_cases hx : x = b
    · simp [hx]
    · rw [List.dropWhile_cons_of_pos (by simpa using hx)] at h
      exact List.mem_cons_of_mem _ (ih h)

theorem NotAfter.cons (h : NotAfter issued a b) : NotAfter (t :: issued) a b := by
  unfold NotAfter
  by_cases ht : t = b
  · rw [List.dropWhile_cons_of_neg (by simpa using ht)]
    exact List.mem_cons_of_mem _ h.mem
  · rw [List.dropWhile_cons_of_pos (by simpa using ht)]
    exact h

theorem notAfter_newest (h : a ∈ issued) : NotAfter (t :: issued) a t := by
  unfold NotAfter
  rw [List.dropWhile_cons_of_neg (by simp)]
  exact List.mem_cons_of_mem _ h

end

/-! ### What one process keeps -/

/-- A process has tokens to commit. -/
def uncommitted : (BXOAuth × OAuthOutside) ⊕ (BXOAuth × OAuthInside) → Bool
  | .inr (_, .writing _ _) => true
  | p => (memory p).tokensDirty

/-- The tokens in memory are those of a grant, and the committed ones are not newer. -/
def Ahead (data : OAuthData) (oa : BXOAuth) : Prop :=
  oa.refreshToken.isSome = true ∧ NotAfter data.issued data.rows oa.tokens

def HeldAhead (data : OAuthData) (p : (BXOAuth × OAuthOutside) ⊕ (BXOAuth × OAuthInside)) : Prop :=
  uncommitted p = true → Ahead data (memory p)

section

variable {oa : BXOAuth} {data : OAuthData}

/-- Outside the lock nothing changes what a process could not commit. -/
theorem heldAhead_outside {p p' : BXOAuth × OAuthOutside} {move : OAuthMove} (h : HeldAhead data (.inl p))
    (hstep : oauthOutside p data move = .inl p') : HeldAhead data (.inl p') := by
  obtain ⟨oa, pc⟩ := p
  have hcases := oauthOutside_step oa pc data move
  rw [hstep] at hcases
  cases hcases with
  | start => exact fun hdirty => nomatch hdirty
  | login => exact fun hdirty => nomatch hdirty
  | reload loaded =>
    intro hdirty
    have hdirty' : oa.tokensDirty = true := (tokensDirty_bxOauthReload oa data.rows loaded).symm.trans hdirty
    have hsame : bxOauthReload oa data.rows loaded = oa := if_pos hdirty'
    dsimp only [memory]
    rw [hsame]
    exact h hdirty'
  | ensure => exact h
  | notLocked => exact h
  | unfit => exact h

theorem heldAhead_enter {p : BXOAuth × OAuthOutside} {k : BXOAuth × OAuthInside} {move : OAuthMove}
    (h : HeldAhead data (.inl p)) (hstep : oauthOutside p data move = .inr k) : HeldAhead data (.inr k) := by
  obtain ⟨oa, pc⟩ := p
  have hcases := oauthOutside_step oa pc data move
  rw [hstep] at hcases
  cases hcases with
  | lock => exact h

/-- Tokens that are dirty are not read again. -/
theorem heldAhead_ensureLocked {use : LockUse} (h : HeldAhead data (.inr (oa, .locked use))) (force : Bool)
    (rejected : Option String) (readable : Bool) (now : Int) :
    HeldAhead data (.inr (ensureLocked oa force rejected data.rows readable now)) := by
  unfold ensureLocked
  cases hdirty : oa.tokensDirty with
  | true =>
    have hahead : Ahead data oa := h hdirty
    split
    · exact fun _ => hahead
    · exact fun _ => hahead
  | false =>
    simp only [Bool.false_and, Bool.false_eq_true, if_false]
    have hread : (oauthReadTokens oa data.rows).tokensDirty = false := hdirty
    split
    · intro huncommitted
      exact nomatch hdirty.symm.trans huncommitted
    · split
      · intro huncommitted
        exact nomatch hread.symm.trans huncommitted
      · intro huncommitted
        exact nomatch hread.symm.trans huncommitted
      · intro huncommitted
        exact nomatch hread.symm.trans huncommitted

theorem heldAhead_postToken {login : Bool} {posted : Posted} {now : Int} (hrows : data.rows ∈ data.issued)
    (h : HeldAhead data (.inr (oa, .posting login))) :
    HeldAhead (postToken oa login data posted now).2 (.inr (postToken oa login data posted now).1) := by
  cases posted with
  | failed => exact h
  | error invalidGrant =>
    intro hdirty
    have hdirty : oa.tokensDirty = true := (Bool.and_eq_true_iff.mp hdirty).1
    exact h hdirty
  | exchanged reply =>
    cases reply with
    | none => exact h
    | some reply =>
      unfold postToken
      dsimp only
      split
      · -- A reply without a refresh token comes to a process that has none, and none to commit.
        rename_i hnone
        intro hdirty
        obtain ⟨hrefresh, -⟩ : Ahead data oa := h hdirty
        have : (reply.refresh.or oa.refreshToken).isNone = true := hnone
        cases hr : reply.refresh <;> simp [hr] at this
        simp [this] at hrefresh
      · rename_i hsome
        intro _
        refine ⟨?_, notAfter_newest hrows⟩
        dsimp only [memory]
        simpa [Option.isNone_iff_eq_none, Option.isSome_iff_ne_none] using hsome

/-- What is written is as new as what it replaces, also when the reply to the COMMIT is lost. -/
theorem heldAhead_writeAttempt {use : WriteUse} {attempt : Nat} {commit : Commit} {now : Int}
    (h : HeldAhead data (.inr (oa, .writing use attempt))) :
    HeldAhead { data with rows := (writeAttempt oa use attempt data.rows commit now).2 }
      (.inr (writeAttempt oa use attempt data.rows commit now).1) := by
  obtain ⟨hrefresh, horder⟩ : Ahead data oa := h rfl
  have hself : NotAfter data.issued oa.tokens oa.tokens := notAfter_self horder.mem_later
  have hafter : NotAfter data.issued (oauthWriteOnce oa data.rows commit).2.2 oa.tokens := by
    rcases oauthWriteOnce_rows oa data.rows commit with hrows | hrows
    · rw [hrows]
      exact horder
    · rw [hrows]
      exact hself
  have hmemory := oauthWriteOnce_memory oa data.rows commit
  have hahead : ∀ dirty, Ahead { data with rows := (oauthWriteOnce oa data.rows commit).2.2 }
      { (oauthWriteOnce oa data.rows commit).2.1 with tokensDirty := dirty } := fun dirty => by
    rw [hmemory]
    exact ⟨hrefresh, hafter⟩
  unfold writeAttempt
  dsimp only
  split
  · exact fun hdirty => nomatch hdirty
  · split
    · exact fun _ => hahead _
    · exact fun _ => hahead true

theorem heldAhead_inside {k : BXOAuth × OAuthInside} {move : OAuthMove} {p : (BXOAuth × OAuthOutside) ⊕ (BXOAuth × OAuthInside)}
    {data' : OAuthData} (hrows : data.rows ∈ data.issued) (h : HeldAhead data (.inr k))
    (hstep : oauthInside k data move = (p, data')) : HeldAhead data' p := by
  obtain ⟨oa, pc⟩ := k
  have hcases := oauthInside_step oa pc data move
  rw [hstep] at hcases
  cases hcases with
  | start => exact fun hdirty => nomatch hdirty
  | login => exact fun hdirty => nomatch hdirty
  | ensure force rejected readable now => exact heldAhead_ensureLocked h force rejected readable now
  | code => exact h
  | post => exact heldAhead_postToken hrows h
  | write => exact heldAhead_writeAttempt h
  | unlock =>
    intro hdirty
    have hdirty : oa.tokensDirty = true := (Bool.and_eq_true_iff.mp hdirty).1
    exact h hdirty
  | unfit => exact h

/-- A POST leaves the rows, and brings at most one grant. -/
theorem data_postToken (oa : BXOAuth) (login : Bool) (data : OAuthData) (posted : Posted) (now : Int) :
    (postToken oa login data posted now).2.rows = data.rows ∧
      ((postToken oa login data posted now).2.issued = data.issued ∨
        ∃ t, (postToken oa login data posted now).2.issued = t :: data.issued) := by
  unfold postToken
  split
  · exact ⟨rfl, Or.inl rfl⟩
  · exact ⟨rfl, Or.inl rfl⟩
  · dsimp only
    split
    · exact ⟨rfl, Or.inl rfl⟩
    · split
      · exact ⟨rfl, Or.inr ⟨_, rfl⟩⟩
      · exact ⟨rfl, Or.inr ⟨_, rfl⟩⟩

/-- An attempt leaves the rows, or has them replaced by what it writes. -/
theorem rows_writeAttempt (oa : BXOAuth) (use : WriteUse) (attempt : Nat) (rows : Tokens) (commit : Commit) (now : Int) :
    (writeAttempt oa use attempt rows commit now).2 = rows ∨
      (commit ≠ .failed ∧ writtenTokens oa = some (writeAttempt oa use attempt rows commit now).2) := by
  have hrows : (writeAttempt oa use attempt rows commit now).2 = (oauthWriteOnce oa rows commit).2.2 := by
    unfold writeAttempt
    dsimp only
    split
    · rfl
    · split <;> rfl
  rw [hrows]
  unfold oauthWriteOnce
  split
  · exact Or.inl rfl
  · exact Or.inl rfl
  · exact Or.inr ⟨nofun, ‹_›⟩
  · exact Or.inr ⟨nofun, ‹_›⟩

/-- The committed tokens after a step with the lock, and the grants. -/
theorem data_inside {k : BXOAuth × OAuthInside} {move : OAuthMove} {p : (BXOAuth × OAuthOutside) ⊕ (BXOAuth × OAuthInside)}
    {data' : OAuthData} (hstep : oauthInside k data move = (p, data')) :
    (data'.rows = data.rows ∧ (data'.issued = data.issued ∨ ∃ t, data'.issued = t :: data.issued)) ∨
    (data'.issued = data.issued ∧ ∃ use attempt commit now, k.2 = .writing use attempt ∧ move = .write commit now ∧
      commit ≠ .failed ∧ writtenTokens k.1 = some data'.rows) := by
  obtain ⟨oa, pc⟩ := k
  have hcases := oauthInside_step oa pc data move
  rw [hstep] at hcases
  cases hcases with
  | start => exact Or.inl ⟨rfl, Or.inl rfl⟩
  | login => exact Or.inl ⟨rfl, Or.inl rfl⟩
  | ensure => exact Or.inl ⟨rfl, Or.inl rfl⟩
  | code => exact Or.inl ⟨rfl, Or.inl rfl⟩
  | post login posted now => exact Or.inl (data_postToken oa login data posted now)
  | write use attempt commit now =>
    rcases rows_writeAttempt oa use attempt data.rows commit now with hrows | ⟨hcommit, hwritten⟩
    · exact Or.inl ⟨hrows, Or.inl rfl⟩
    · exact Or.inr ⟨rfl, use, attempt, commit, now, rfl, rfl, hcommit, hwritten⟩
  | unlock => exact Or.inl ⟨rfl, Or.inl rfl⟩
  | unfit => exact Or.inl ⟨rfl, Or.inl rfl⟩

end

/-! ### Runs -/

section

variable {ι : Type} {s : OAuthState ι}

structure Ordered (s : OAuthState ι) : Prop where
  exclusive : Exclusive s
  rows : s.data.rows ∈ s.data.issued
  held : ∀ i, HeldAhead s.data (s.procs i)

/-- A process that has the lock is the only one that writes. -/
theorem uncommitted_of_exclusive (h : Exclusive s) {i j : ι} {k : BXOAuth × OAuthInside} (hi : s.procs i = .inr k) (hij : j ≠ i)
    (hj : uncommitted (s.procs j) = true) : (memory (s.procs j)).tokensDirty = true := by
  cases hproc : s.procs j with
  | inl p =>
    rw [hproc] at hj
    exact hj
  | inr k' => exact absurd (Option.some.inj ((h j k' hproc).symm.trans (h i k hi))) hij

/-- The committed tokens move from one grant to a later one, and stay behind those that are not committed. -/
theorem Ordered.data_step (h : Ordered s) {i : ι} {move : OAuthMove} {k : BXOAuth × OAuthInside}
    {p : (BXOAuth × OAuthOutside) ⊕ (BXOAuth × OAuthInside)} {data' : OAuthData} (hi : s.procs i = .inr k)
    (hstep : oauthInside k s.data move = (p, data')) (hC : NoOlderHeld { pre := s, pid := i, move }) :
    data'.rows ∈ data'.issued ∧ NotAfter data'.issued s.data.rows data'.rows ∧
      ∀ j, j ≠ i → HeldAhead data' (s.procs j) := by
  have hk : HeldAhead s.data (.inr k) := hi ▸ h.held i
  rcases data_inside hstep with ⟨hrows, hissued | ⟨t, hissued⟩⟩ | ⟨hissued, use, attempt, commit, now, hpc, rfl, hcommit, htokens⟩
  · rw [hrows, hissued]
    refine ⟨h.rows, notAfter_self h.rows, fun j _ hj => ?_⟩
    unfold Ahead
    rw [hrows, hissued]
    exact h.held j hj
  · rw [hrows, hissued]
    refine ⟨List.mem_cons_of_mem _ h.rows, (notAfter_self h.rows).cons, fun j _ hj => ?_⟩
    obtain ⟨hrefresh, horder⟩ := h.held j hj
    unfold Ahead
    rw [hrows, hissued]
    exact ⟨hrefresh, horder.cons⟩
  · obtain ⟨oa, pc⟩ := k
    obtain rfl : pc = _ := hpc
    obtain ⟨-, horder⟩ : Ahead s.data oa := hk rfl
    have htokens' : data'.rows = oa.tokens := writtenTokens_eq htokens
    rw [hissued, htokens']
    refine ⟨horder.mem_later, horder, fun j hij hj => ?_⟩
    obtain ⟨hrefresh, -⟩ := h.held j hj
    have hcommitted : data'.rows ∈ OAuthCall.committed { pre := s, pid := i, move := .write commit now } := by
      unfold OAuthCall.committed
      dsimp only
      rw [hi]
      dsimp only
      rw [if_neg hcommit]
      exact htokens
    have := hC _ hcommitted j hij (uncommitted_of_exclusive h.exclusive hi hij hj)
    refine ⟨hrefresh, ?_⟩
    rw [hissued]
    exact this

variable [DecidableEq ι]

theorem Ordered.step (h : Ordered s) (input : ι × OAuthMove) (hC : NoOlderHeld (oauthStep s input).1) :
    KeepsOrder (oauthStep s input).1 ∧ Ordered (oauthStep s input).2 := by
  have hexclusive : Exclusive (oauthProgram.step s input.1 input.2) := h.exclusive.step input.1 input.2
  have hcases := oauthProgram.step_cases s input.1 input.2
  unfold KeepsOrder oauthStep OAuthCall.post
  dsimp only
  generalize oauthProgram.step s input.1 input.2 = s' at hcases hexclusive
  cases hcases with
  | outside o o' hi hout =>
    have ho : HeldAhead s.data (.inl o) := hi ▸ h.held input.1
    have ho' : HeldAhead s.data (.inl o') := by
      rcases hout with hout | rfl
      · exact heldAhead_outside ho hout
      · exact ho
    exact ⟨⟨h.rows, notAfter_self h.rows⟩, hexclusive, h.rows,
      (Function.forall_update_iff s.procs fun _ p => HeldAhead s.data p).mpr ⟨ho', fun j _ => h.held j⟩⟩
  | enter o k hi hin hfree =>
    have ho : HeldAhead s.data (.inl o) := hi ▸ h.held input.1
    exact ⟨⟨h.rows, notAfter_self h.rows⟩, hexclusive, h.rows,
      (Function.forall_update_iff s.procs fun _ p => HeldAhead s.data p).mpr ⟨heldAhead_enter ho hin, fun j _ => h.held j⟩⟩
  | inside k k' data' hi hin =>
    have hk : HeldAhead s.data (.inr k) := hi ▸ h.held input.1
    obtain ⟨hrows, horder, hothers⟩ := h.data_step hi hin hC
    exact ⟨⟨hrows, horder⟩, hexclusive, hrows,
      (Function.forall_update_iff s.procs fun _ p => HeldAhead data' p).mpr ⟨heldAhead_inside h.rows hk hin, hothers⟩⟩
  | leave k o data' hi hout =>
    have hk : HeldAhead s.data (.inr k) := hi ▸ h.held input.1
    obtain ⟨hrows, horder, hothers⟩ := h.data_step hi hout hC
    exact ⟨⟨hrows, horder⟩, hexclusive, hrows,
      (Function.forall_update_iff s.procs fun _ p => HeldAhead data' p).mpr ⟨heldAhead_inside h.rows hk hout, hothers⟩⟩

/-- The table when a run starts. Its tokens are the first grant. -/
def startData (rows : Tokens) (exchanged : List String) : OAuthData := { rows, exchanged, issued := [rows] }

/-- For any processes, any interleaving and any writes that fail: the table has the tokens of one grant, and they
    are only replaced by those of a later one, as long as no grant is committed while another process holds an
    older one that it could not commit. -/
theorem grants_keepOrder (rows : Tokens) (exchanged : List String) (conf : ι → Tokens) (inputs : List (ι × OAuthMove))
    (hC : ∀ call ∈ outputs oauthStep (oauthInit (startData rows exchanged) conf) inputs, NoOlderHeld call) :
    ∀ call ∈ outputs oauthStep (oauthInit (startData rows exchanged) conf) inputs, KeepsOrder call := by
  have h0 : Ordered (oauthInit (startData rows exchanged) conf) :=
    ⟨fun _ _ hi => (nomatch hi), List.mem_cons_self, fun _ hdirty => (nomatch hdirty)⟩
  exact run_all oauthStep h0 (fun s input h hcall => h.step input hcall) hC

end

/-! ### A daemon and a login

    The daemon refreshes and cannot save its tokens. It saves them at its next ensure, which finds the access token
    usable. Between the two somebody may log in. -/

def initialTokens : Tokens where
  access := some "access 0"
  refresh := some "refresh 0"
  expiresAt := some 900

def failedRefresh : List (Bool × OAuthMove) :=
  [.ensure false 1000, .lock true, .decide true 1000, .post (.exchanged (some ⟨"access 1", some "refresh 1", 3600⟩)) 1000,
    .write .failed 1000, .write .failed 1000, .write .failed 1000, .unlock].map (false, ·)

def savesTokens : List (Bool × OAuthMove) :=
  [.ensure false 1200, .lock true, .decide true 1200, .write .committed 1200, .unlock].map (false, ·)

def logsIn : List (Bool × OAuthMove) :=
  [.login initialTokens true, .lock true, .decide true 1100, .post (.exchanged (some ⟨"access 2", some "refresh 2", 3600⟩)) 1100,
    .write .committed 1100, .unlock].map (true, ·)

theorem grants_keepOrder_thenLogin :
    (∀ call ∈ outputs oauthStep (oauthInit (startData initialTokens []) fun _ => initialTokens) (failedRefresh ++ savesTokens ++ logsIn),
        NoOlderHeld call) ∧
      ∀ call ∈ outputs oauthStep (oauthInit (startData initialTokens []) fun _ => initialTokens) (failedRefresh ++ savesTokens ++ logsIn),
        KeepsOrder call := by
  have hC : ∀ call ∈ outputs oauthStep (oauthInit (startData initialTokens []) fun _ => initialTokens)
      (failedRefresh ++ savesTokens ++ logsIn), NoOlderHeld call := by
    unfold NoOlderHeld
    decide
  exact ⟨hC, grants_keepOrder initialTokens [] _ _ hC⟩

/-- The daemon replaces the tokens of the login by its own older ones. -/
theorem grants_loginLost :
    ¬ ∀ call ∈ outputs oauthStep (oauthInit (startData initialTokens []) fun _ => initialTokens) (failedRefresh ++ logsIn ++ savesTokens),
      KeepsOrder call := by
  decide

end BxSync
