import BxSync.FetchToken
import BxSync.Theorems.GrantOrder

/-! What `bx_fetch` sends after a 401. The token that was rejected is a known one, so a refresh brings another, and what
    is read from the table instead of a refresh is compared with it. -/

namespace BxSync

open Critical Machine

/-! ### The property -/

section

variable {ι : Type}

/-- The request a call sends, after the ones its fetch sent before. -/
def FetchCall.request (call : FetchCall ι) : Option (List (String × Option Nat) × String) :=
  match call.pre.procs call.pid, call.move with
  | .inl (_, some f), .perform _ _ => f.header.map (f.sent, ·)
  | _, _ => none

/-- It is the first request of the fetch, or the second one, after a 401 for another access token. -/
def RetriedOnce (sent : List (String × Option Nat)) (token : String) : Prop :=
  sent = [] ∨ ∃ rejected, sent = [(rejected, some 401)] ∧ token ≠ rejected

/-- The server has issued an access token. -/
def Issued (data : OAuthData) (token : String) : Prop := ∃ tokens ∈ data.issued, tokens.access = some token

instance (data : OAuthData) (token : String) : Decidable (Issued data token) := inferInstanceAs (Decidable (∃ _ ∈ _, _))

/-- An access token of the table or of a file is one that the server has issued. -/
def FromServer (data : OAuthData) (access : Option String) : Prop := ∀ token ∈ access, token = "" ∨ Issued data token

instance (data : OAuthData) (access : Option String) : Decidable (FromServer data access) :=
  inferInstanceAs (Decidable (∀ _ ∈ _, _))

/-- The server issues no access token twice: the one of a reply is new, and a file has none that is still to come. -/
def NeverTwice (p : FetchOutside ⊕ FetchInside) (data : OAuthData) : FetchMove → Bool
  | .oauth (.start file _) => FromServer data file.access
  | .oauth (.login file _) => FromServer data file.access
  | .oauth (.post (.exchanged (some reply)) _) =>
    match p with
    | .inr ((_, .posting _), _) => ¬Issued data reply.access
    | _ => true
  | _ => true

end

/-! ### What the tokens come from -/

section

variable {oa : BXOAuth} {data data' : OAuthData} {token : String}

/-- The access token in memory was issued, and so was that of the configuration. -/
structure MemoryIssued (data : OAuthData) (oa : BXOAuth) : Prop where
  memory : ∀ token ∈ oa.accessToken, Issued data token
  conf : FromServer data oa.conf.access

theorem Issued.mono (hsub : data.issued ⊆ data'.issued) (h : Issued data token) : Issued data' token := by
  obtain ⟨tokens, htokens, haccess⟩ := h
  exact ⟨tokens, hsub htokens, haccess⟩

theorem FromServer.mono {access : Option String} (hsub : data.issued ⊆ data'.issued) (h : FromServer data access) :
    FromServer data' access := fun token htoken => (h token htoken).imp_right (·.mono hsub)

theorem MemoryIssued.mono (hsub : data.issued ⊆ data'.issued) (h : MemoryIssued data oa) : MemoryIssued data' oa where
  memory token htoken := (h.memory token htoken).mono hsub
  conf := h.conf.mono hsub

theorem FromServer.or {access access' : Option String} (h : FromServer data access) (h' : FromServer data access') :
    FromServer data (access.or access') := by
  cases access with
  | none => exact h'
  | some token => exact h

theorem memoryIssued_loadTokens (h : MemoryIssued data oa) : MemoryIssued data (loadTokens oa) where
  memory token htoken := by
    unfold loadTokens at htoken
    dsimp only at htoken
    split at htoken
    · rename_i hpresent
      refine (h.conf token htoken).resolve_left fun hempty => ?_
      rw [Option.mem_def.mp htoken, hempty] at hpresent
      exact nomatch hpresent
    · exact h.memory token htoken
  conf := h.conf

theorem memoryIssued_started {file rows : Tokens} (hfile : FromServer data file.access) (hrows : FromServer data rows.access)
    (loaded : Bool) : MemoryIssued data (bxOauthStarted file rows loaded) := by
  refine memoryIssued_loadTokens ⟨nofun, ?_⟩
  cases loaded with
  | true => exact hrows.or hfile
  | false => exact hfile

theorem memoryIssued_init {file rows : Tokens} (hfile : FromServer data file.access) (hrows : FromServer data rows.access)
    (loaded : Bool) : MemoryIssued data (bxOauthInit (if loaded then bxConfLoadDatabase file rows else file)) where
  memory := nofun
  conf := by
    cases loaded with
    | true => exact hrows.or hfile
    | false => exact hfile

theorem memoryIssued_reload {rows : Tokens} (h : MemoryIssued data oa) (hrows : FromServer data rows.access) (loaded : Bool) :
    MemoryIssued data (bxOauthReload oa rows loaded) := by
  unfold bxOauthReload
  split
  · exact h
  · split
    · exact memoryIssued_loadTokens ⟨h.memory, hrows.or h.conf⟩
    · exact h

theorem memoryIssued_read {rows : Tokens} (h : MemoryIssued data oa) (hrows : FromServer data rows.access) :
    MemoryIssued data (oauthReadTokens oa rows) where
  memory token htoken := by
    obtain ⟨hrow, hpresent⟩ := Option.filter_eq_some_iff.mp (Option.mem_def.mp htoken)
    exact (hrows token hrow).resolve_left (by simpa using hpresent)
  conf := by
    unfold oauthReadTokens
    dsimp only
    split
    · exact hrows
    · exact h.conf

end

/-! ### What one process keeps -/

section

variable {oa : BXOAuth} {data : OAuthData} {rejected : String}

/-- The access token in memory is not the rejected one. -/
def Replaced (rejected : String) (oa : BXOAuth) : Prop := ∀ token ∈ oa.accessToken, token ≠ rejected

/-- A second attempt on its way through `bx_oauth_ensure`, which has the rejected token as a copy. -/
def Replaces (rejected : String) (k : BXOAuth × OAuthInside) : Prop :=
  match k.2 with
  | .locked use => use = .ensure true ((some rejected).filter (· ≠ ""))
  | .posting _ => True
  | .writing _ _ => Replaced rejected k.1
  | .unlocking _ ok => ok = true → Replaced rejected k.1

/-- The requests of a fetch that is in its first attempt, or in a second one of which something holds. -/
def InAttempt (f : BXFetch) (second : String → Prop) : Prop :=
  (f.attempt = 0 ∧ f.sent = []) ∨ (f.attempt = 1 ∧ ∃ rejected, f.sent = [(rejected, some 401)] ∧ second rejected)

/-- A fetch outside the lock has its header, or has the rejected token in memory. -/
def FetchOutsideInv (data : OAuthData) (p : FetchOutside) : Prop :=
  MemoryIssued data p.1.1 ∧ ∀ f ∈ p.2,
    match f.header with
    | some token => token ∈ p.1.1.accessToken ∧ InAttempt f (token ≠ ·)
    | none => InAttempt f fun rejected =>
      Issued data rejected ∧ p.1.2 = .locking (.ensure true ((some rejected).filter (· ≠ "")))

def FetchInsideInv (data : OAuthData) (k : FetchInside) : Prop :=
  MemoryIssued data k.1.1 ∧ ∀ f ∈ k.2, InAttempt f fun rejected => Issued data rejected ∧ Replaces rejected k.1

theorem InAttempt.imp {f : BXFetch} {second second' : String → Prop} (h : InAttempt f second)
    (himp : ∀ rejected, second rejected → second' rejected) : InAttempt f second' :=
  h.imp_right fun ⟨hattempt, rejected, hsent, hsecond⟩ => ⟨hattempt, rejected, hsent, himp rejected hsecond⟩

/-- A forced ensure uses what the table has if it is not the rejected token. -/
theorem replaced_of_use {access refresh : Option String} {expiresAt now : Int} {token : String}
    (h : bxOauthDecide true ((some rejected).filter (· ≠ "")) access refresh expiresAt now = .use) (htoken : token ∈ access) :
    token ≠ rejected := by
  rintro rfl
  rw [Option.mem_def] at htoken
  unfold bxOauthDecide at h
  dsimp only at h
  split_ifs at h with hunforced hforced hlogin
  · exact nomatch hunforced
  · -- The rejected token is present as the one in the table is, and the same.
    have hpresent : token ≠ "" := by
      rintro rfl
      simp [htoken, tokenPresent] at hforced
    simp [htoken, tokenPresent, Option.filter, hpresent] at hforced

theorem replaces_ensureLocked (rows : Tokens) (readable : Bool) (now : Int) :
    Replaces rejected (ensureLocked oa true ((some rejected).filter (· ≠ "")) rows readable now) := by
  unfold ensureLocked
  simp only [Bool.not_true, Bool.and_false, Bool.false_and, Bool.false_eq_true, if_false]
  split
  · split
    · trivial
    · exact nofun
  · split
    · exact nofun
    · split
      · rename_i hdecide
        exact fun _ token htoken => replaced_of_use hdecide htoken
      · exact nofun
      · trivial

theorem memoryIssued_ensureLocked {rows : Tokens} (h : MemoryIssued data oa) (hrows : FromServer data rows.access) (force : Bool)
    (rejected : Option String) (readable : Bool) (now : Int) :
    MemoryIssued data (ensureLocked oa force rejected rows readable now).1 := by
  unfold ensureLocked
  split
  · exact h
  · split
    · exact h
    · split
      · exact h
      · dsimp only
        split <;> exact memoryIssued_read h hrows

/-- The access token of a reply is in memory, and counted as issued. -/
theorem memoryIssued_postToken (h : MemoryIssued data oa) (login : Bool) (posted : Posted) (now : Int) :
    MemoryIssued (postToken oa login data posted now).2 (postToken oa login data posted now).1.1 := by
  cases posted with
  | failed => exact h
  | error invalidGrant => exact ⟨h.memory, h.conf⟩
  | exchanged reply =>
    cases reply with
    | none => exact ⟨h.memory, h.conf⟩
    | some reply =>
      unfold postToken
      dsimp only
      split
      · exact ⟨fun token htoken => ⟨_, List.mem_cons_self, htoken⟩, h.conf.mono (List.subset_cons_self _ _)⟩
      · exact ⟨fun token htoken => ⟨_, List.mem_cons_self, htoken⟩, h.conf.mono (List.subset_cons_self _ _)⟩

theorem replaces_postToken (hissued : Issued data rejected) {login : Bool} {posted : Posted} {now : Int}
    (hnew : ∀ reply, posted = .exchanged (some reply) → ¬Issued data reply.access) :
    Replaces rejected (postToken oa login data posted now).1 := by
  cases posted with
  | failed => exact nofun
  | error invalidGrant => exact nofun
  | exchanged reply =>
    cases reply with
    | none => exact nofun
    | some reply =>
      unfold postToken
      dsimp only
      split
      · exact nofun
      · rintro token htoken rfl
        obtain rfl := Option.some.inj htoken
        exact hnew reply rfl hissued

/-- What a step with the lock leaves in memory: writing does not change the access token. -/
theorem accessToken_writeAttempt (use : WriteUse) (attempt : Nat) (rows : Tokens) (commit : Commit) (now : Int) :
    (writeAttempt oa use attempt rows commit now).1.1.accessToken = oa.accessToken := by
  unfold writeAttempt
  dsimp only
  rw [oauthWriteOnce_memory]
  split
  · rfl
  · split <;> rfl

theorem conf_writeAttempt (use : WriteUse) (attempt : Nat) (rows : Tokens) (commit : Commit) (now : Int) :
    (writeAttempt oa use attempt rows commit now).1.1.conf.access = oa.conf.access ∨
      (writeAttempt oa use attempt rows commit now).1.1.conf.access = oa.accessToken := by
  have honce : (oauthWriteOnce oa rows commit).2.1.conf.access = oa.conf.access ∨
      (oauthWriteOnce oa rows commit).2.1.conf.access = oa.accessToken := by
    unfold oauthWriteOnce
    split
    · exact Or.inl rfl
    · exact Or.inl rfl
    · exact Or.inl rfl
    · exact Or.inr (congrArg Tokens.access (writtenTokens_eq ‹_›))
  unfold writeAttempt
  dsimp only
  split
  · exact honce
  · split <;> exact honce

theorem memoryIssued_writeAttempt (h : MemoryIssued data oa) (use : WriteUse) (attempt : Nat) (rows : Tokens) (commit : Commit)
    (now : Int) : MemoryIssued data (writeAttempt oa use attempt rows commit now).1.1 where
  memory := by
    rw [accessToken_writeAttempt]
    exact h.memory
  conf := by
    rcases conf_writeAttempt use attempt rows commit now with hconf | hconf
    · rw [hconf]
      exact h.conf
    · rw [hconf]
      exact fun token htoken => Or.inr (h.memory token htoken)

theorem replaces_writeAttempt (h : Replaced rejected oa) (use : WriteUse) (attempt : Nat) (rows : Tokens) (commit : Commit)
    (now : Int) : Replaces rejected (writeAttempt oa use attempt rows commit now).1 := by
  have hreplaced : Replaced rejected (writeAttempt oa use attempt rows commit now).1.1 := by
    unfold Replaced
    rw [accessToken_writeAttempt]
    exact h
  unfold Replaces
  split
  · rename_i hpc
    unfold writeAttempt at hpc
    dsimp only at hpc
    split at hpc
    · exact nomatch hpc
    · split at hpc <;> exact nomatch hpc
  · trivial
  · exact hreplaced
  · exact fun _ => hreplaced

/-! ### What its steps keep -/

def FetchInv (data : OAuthData) : FetchOutside ⊕ FetchInside → Prop
  | .inl p => FetchOutsideInv data p
  | .inr k => FetchInsideInv data k

theorem FetchInv.mono {data' : OAuthData} {x : FetchOutside ⊕ FetchInside} (hsub : data.issued ⊆ data'.issued) (h : FetchInv data x) :
    FetchInv data' x := by
  cases x with
  | inl p =>
    refine ⟨h.1.mono hsub, fun f hf => ?_⟩
    have := h.2 f hf
    split at this
    · exact this
    · exact this.imp fun rejected hsecond => ⟨hsecond.1.mono hsub, hsecond.2⟩
  | inr k => exact ⟨h.1.mono hsub, fun f hf => (h.2 f hf).imp fun rejected hsecond => ⟨hsecond.1.mono hsub, hsecond.2⟩⟩

theorem fetchOutsideInv_none {pc : OAuthOutside} (h : MemoryIssued data oa) : FetchOutsideInv data ((oa, pc), none) := ⟨h, nofun⟩

theorem fetchOutsideInv_header {f : BXFetch} {pc : OAuthOutside} {ok : Bool} (h : MemoryIssued data oa)
    (hattempt : ok = true → InAttempt f (Replaced · oa)) : FetchOutsideInv data ((oa, pc), bxAuthHeader ok oa f) := by
  refine ⟨h, fun f' hf' => ?_⟩
  unfold bxAuthHeader at hf'
  cases ok with
  | false => exact nomatch hf'
  | true =>
    obtain ⟨token, htoken, rfl⟩ := Option.map_eq_some_iff.mp (Option.mem_def.mp hf')
    exact ⟨htoken, (hattempt rfl).imp fun rejected hreplaced => hreplaced token htoken⟩

theorem fetchOutsideInv_first (h : MemoryIssued data oa) (now : Int) : FetchOutsideInv data (bxFetchAttempt oa 0 [] now) := by
  unfold bxFetchAttempt
  dsimp only
  split
  · exact fetchOutsideInv_header h fun _ => Or.inl ⟨rfl, rfl⟩
  · exact ⟨h, fun f hf => by obtain rfl := Option.some.inj hf; exact Or.inl ⟨rfl, rfl⟩⟩

/-- The second attempt forces a refresh, with the rejected token in memory. -/
theorem fetchOutsideInv_second (h : MemoryIssued data oa) (hrejected : rejected ∈ oa.accessToken) (now : Int) :
    FetchOutsideInv data (bxFetchAttempt oa 1 [(rejected, some 401)] now) := by
  have hlocking : ensureUnlocked oa true now = .locking (.ensure true ((some rejected).filter (· ≠ ""))) := by
    unfold ensureUnlocked
    rw [Option.mem_def.mp hrejected]
    simp
  unfold bxFetchAttempt
  dsimp only
  rw [decide_eq_true Nat.zero_lt_one, hlocking]
  refine ⟨h, fun f hf => ?_⟩
  obtain rfl := Option.some.inj hf
  exact Or.inr ⟨rfl, rejected, rfl, h.memory rejected hrejected, rfl⟩

theorem fetchOutsideInv_performed {f : BXFetch} {token : String} (h : MemoryIssued data oa) (htoken : token ∈ oa.accessToken)
    (hattempt : InAttempt f (token ≠ ·)) (httpCode : Option Nat) (now : Int) :
    FetchOutsideInv data (bxFetchPerformed oa f token httpCode now) := by
  unfold bxFetchPerformed
  split
  · rename_i hretry
    obtain ⟨rfl, hfirst⟩ := hretry
    rcases hattempt with ⟨hzero, hsent⟩ | ⟨hone, -⟩
    · rw [hzero, hsent]
      exact fetchOutsideInv_second h htoken now
    · omega
  · exact fetchOutsideInv_none h

theorem fetchInv_oauthOutside {pc : OAuthOutside} {move : OAuthMove} (h : MemoryIssued data oa) (hrows : FromServer data data.rows.access)
    (hstart : ∀ file loaded, move = .start file loaded ∨ move = .login file loaded → FromServer data file.access) :
    FetchInv data ((oauthOutside (oa, pc) data move).map (·, none) (·, none)) := by
  have hcases := oauthOutside_step oa pc data move
  generalize oauthOutside (oa, pc) data move = x at hcases ⊢
  cases hcases with
  | start _ file loaded => exact fetchOutsideInv_none (memoryIssued_started (hstart file loaded (Or.inl rfl)) hrows loaded)
  | login _ file loaded => exact fetchOutsideInv_none (memoryIssued_init (hstart file loaded (Or.inr rfl)) hrows loaded)
  | reload loaded => exact fetchOutsideInv_none (memoryIssued_reload h hrows loaded)
  | ensure force now => exact fetchOutsideInv_none h
  | lock use => exact ⟨h, nofun⟩
  | notLocked use => exact fetchOutsideInv_none h
  | unfit => exact fetchOutsideInv_none h

theorem fetchInv_outside {p : FetchOutside} {move : FetchMove} (h : FetchOutsideInv data p) (hrows : FromServer data data.rows.access)
    (hC : NeverTwice (.inl p) data move = true) : FetchInv data (fetchOutside p data move) := by
  obtain ⟨⟨oa, pc⟩, fetch⟩ := p
  obtain ⟨hmemory, hfetch⟩ := h
  have hfile : ∀ file loaded move', move = .oauth move' → move' = .start file loaded ∨ move' = .login file loaded →
      FromServer data file.access := by
    rintro file loaded _ rfl (rfl | rfl) <;> exact of_decide_eq_true hC
  have hnone : ∀ move', move = .oauth move' → FetchInv data ((oauthOutside (oa, pc) data move').map (·, none) (·, none)) :=
    fun move' hmove => fetchInv_oauthOutside hmemory hrows fun file loaded => hfile file loaded move' hmove
  unfold fetchOutside
  dsimp only
  split
  · exact hnone _ rfl
  · exact hnone _ rfl
  · exact hnone _ rfl
  · split
    · exact fetchOutsideInv_first hmemory _
    · exact fetchOutsideInv_none hmemory
  · rename_i f got
    have hinv := hfetch f rfl
    split
    · rename_i hheader
      rw [Option.isNone_iff_eq_none.mp hheader] at hinv
      cases got with
      | false => exact hnone _ rfl
      | true =>
        have hcases := oauthOutside_step oa pc data (.lock true)
        generalize oauthOutside (oa, pc) data (.lock true) = x at hcases ⊢
        cases hcases with
        | lock use =>
          refine ⟨hmemory, fun f' hf' => ?_⟩
          obtain rfl := Option.some.inj hf'
          exact hinv.imp fun rejected hsecond => ⟨hsecond.1, OAuthOutside.locking.inj hsecond.2⟩
        | unfit =>
          refine ⟨hmemory, fun f' hf' => ?_⟩
          obtain rfl := Option.some.inj hf'
          rw [Option.isNone_iff_eq_none.mp hheader]
          exact hinv
    · exact ⟨hmemory, hfetch⟩
  · rename_i f httpCode now
    have hinv := hfetch f rfl
    split
    · rename_i token hheader
      rw [hheader] at hinv
      exact fetchOutsideInv_performed hmemory hinv.1 hinv.2 httpCode now
    · exact ⟨hmemory, hfetch⟩
  · split
    · exact fetchOutsideInv_none hmemory
    · exact ⟨hmemory, hfetch⟩
  · exact ⟨hmemory, hfetch⟩

theorem issued_postToken (oa : BXOAuth) (data : OAuthData) (login : Bool) (posted : Posted) (now : Int) :
    (postToken oa login data posted now).2.rows = data.rows ∧ data.issued ⊆ (postToken oa login data posted now).2.issued := by
  obtain ⟨hrows, hissued | ⟨tokens, hissued⟩⟩ := data_postToken oa login data posted now
  · exact ⟨hrows, hissued ▸ List.Subset.refl _⟩
  · exact ⟨hrows, hissued ▸ List.subset_cons_self _ _⟩

theorem fetchInv_inside {k : FetchInside} {move : FetchMove} (h : FetchInsideInv data k) (hrows : FromServer data data.rows.access)
    (hC : NeverTwice (.inr k) data move = true) :
    FetchInv (fetchInside k data move).2 (fetchInside k data move).1 ∧
      FromServer (fetchInside k data move).2 (fetchInside k data move).2.rows.access ∧
      data.issued ⊆ (fetchInside k data move).2.issued := by
  obtain ⟨⟨oa, pc⟩, fetch⟩ := k
  obtain ⟨hmemory, hfetch⟩ := h
  have hsame : data.issued ⊆ data.issued := List.Subset.refl _
  cases move with
  | fetch now => exact ⟨⟨hmemory, hfetch⟩, hrows, hsame⟩
  | perform httpCode now => exact ⟨⟨hmemory, hfetch⟩, hrows, hsame⟩
  | fail => exact ⟨⟨hmemory, hfetch⟩, hrows, hsame⟩
  | oauth move =>
    unfold fetchInside
    dsimp only
    have hcases := oauthInside_step oa pc data move
    generalize oauthInside (oa, pc) data move = result at hcases ⊢
    cases hcases with
    | start _ file loaded =>
      have hfile : FromServer data file.access := of_decide_eq_true hC
      exact ⟨fetchOutsideInv_none (memoryIssued_started hfile hrows loaded), hrows, hsame⟩
    | login _ file loaded =>
      have hfile : FromServer data file.access := of_decide_eq_true hC
      exact ⟨fetchOutsideInv_none (memoryIssued_init hfile hrows loaded), hrows, hsame⟩
    | ensure force copy readable now =>
      refine ⟨⟨memoryIssued_ensureLocked hmemory hrows force copy readable now, fun f hf => ?_⟩, hrows, hsame⟩
      refine (hfetch f hf).imp fun rejected hsecond => ⟨hsecond.1, ?_⟩
      obtain ⟨rfl, rfl⟩ := LockUse.ensure.inj hsecond.2
      exact replaces_ensureLocked data.rows readable now
    | code readable now =>
      exact ⟨⟨hmemory, fun f hf => (hfetch f hf).imp fun rejected hsecond => ⟨hsecond.1, trivial⟩⟩, hrows, hsame⟩
    | post login posted now =>
      obtain ⟨hrows', hissued⟩ := issued_postToken oa data login posted now
      refine ⟨⟨memoryIssued_postToken hmemory login posted now, fun f hf => ?_⟩, ?_, hissued⟩
      · refine (hfetch f hf).imp fun rejected hsecond => ⟨hsecond.1.mono hissued, replaces_postToken hsecond.1 ?_⟩
        rintro reply rfl
        exact of_decide_eq_true hC
      · dsimp only
        rw [hrows']
        exact hrows.mono hissued
    | write use attempt commit now =>
      refine ⟨⟨(memoryIssued_writeAttempt hmemory use attempt data.rows commit now).mono hsame, fun f hf => ?_⟩, ?_, hsame⟩
      · exact (hfetch f hf).imp fun rejected hsecond => ⟨hsecond.1.mono hsame, replaces_writeAttempt hsecond.2 use attempt data.rows commit now⟩
      · rcases rows_writeAttempt oa use attempt data.rows commit now with hkept | ⟨-, hwritten⟩
        · dsimp only
          rw [hkept]
          exact hrows
        · dsimp only
          rw [writtenTokens_eq hwritten]
          exact fun token htoken => Or.inr (hmemory.memory token htoken)
    | unlock login ok =>
      refine ⟨?_, hrows, hsame⟩
      have hmemory' : MemoryIssued data { oa with tokensDirty := oa.tokensDirty && !(login && !ok) } := ⟨hmemory.memory, hmemory.conf⟩
      cases fetch with
      | none => exact fetchOutsideInv_none hmemory'
      | some f => exact fetchOutsideInv_header hmemory' fun hok => (hfetch f rfl).imp fun rejected hsecond => hsecond.2 hok
    | unfit => exact ⟨⟨hmemory, hfetch⟩, hrows, hsame⟩

end

/-! ### Runs -/

section

variable {ι : Type} {s : FetchState ι}

structure FetchSafe (s : FetchState ι) : Prop where
  rows : FromServer s.data s.data.rows.access
  procs : ∀ i, FetchInv s.data (s.procs i)

/-- A request is sent by a fetch that has its header. -/
theorem retriedOnce_of_safe (h : FetchSafe s) {pid : ι} {move : FetchMove} {sent : List (String × Option Nat)} {token : String}
    (hrequest : FetchCall.request { pre := s, pid, move } = some (sent, token)) : RetriedOnce sent token := by
  have hproc := h.procs pid
  unfold FetchCall.request at hrequest
  dsimp only at hrequest
  split at hrequest
  · rename_i p f _ _ hpid
    rw [hpid] at hproc
    obtain ⟨header, hheader, heq⟩ := Option.map_eq_some_iff.mp hrequest
    obtain ⟨rfl, rfl⟩ := Prod.mk.inj heq
    have hinv := hproc.2 f rfl
    rw [hheader] at hinv
    exact Or.imp And.right And.right hinv.2
  · exact nomatch hrequest

variable [DecidableEq ι]

theorem FetchSafe.step (h : FetchSafe s) (input : ι × FetchMove) (hC : NeverTwice (s.procs input.1) s.data input.2 = true) :
    FetchSafe (fetchStep s input).2 := by
  have hproc := h.procs input.1
  have hcases := fetchProgram.step_cases s input.1 input.2
  unfold fetchStep
  dsimp only
  generalize fetchProgram.step s input.1 input.2 = s' at hcases
  -- The others keep what they have while more is issued.
  have hothers : ∀ {data' : OAuthData} {x : FetchOutside ⊕ FetchInside}, s.data.issued ⊆ data'.issued → FetchInv data' x →
      ∀ i, FetchInv data' (Function.update s.procs input.1 x i) := fun hsub hx =>
    (Function.forall_update_iff s.procs fun _ p => FetchInv _ p).mpr ⟨hx, fun j _ => (h.procs j).mono hsub⟩
  cases hcases with
  | outside o o' hi hout =>
    rw [hi] at hproc hC
    refine ⟨h.rows, hothers (List.Subset.refl _) ?_⟩
    rcases hout with hout | rfl
    · have := fetchInv_outside hproc h.rows hC
      rw [show fetchOutside o s.data input.2 = .inl o' from hout] at this
      exact this
    · exact fetchOutsideInv_none hproc.1
  | enter o k hi hin hfree =>
    rw [hi] at hproc hC
    have := fetchInv_outside hproc h.rows hC
    rw [show fetchOutside o s.data input.2 = .inr k from hin] at this
    exact ⟨h.rows, hothers (List.Subset.refl _) this⟩
  | inside k k' data' hi hin =>
    rw [hi] at hproc hC
    have := fetchInv_inside hproc h.rows hC
    rw [show fetchInside k s.data input.2 = (.inr k', data') from hin] at this
    exact ⟨this.2.1, hothers this.2.2 this.1⟩
  | leave k o data' hi hout =>
    rw [hi] at hproc hC
    have := fetchInv_inside hproc h.rows hC
    rw [show fetchInside k s.data input.2 = (.inl o, data') from hout] at this
    exact ⟨this.2.1, hothers this.2.2 this.1⟩

/-- For any processes and any interleaving: a fetch sends a second request only after the first was answered with 401,
    with another access token, and no third one. The server issues no access token twice. -/
theorem fetch_retriedOnce (data : OAuthData) (conf : ι → Tokens) (inputs : List (ι × FetchMove))
    (hrows : FromServer data data.rows.access) (hconf : ∀ i, FromServer data (conf i).access)
    (hC : ∀ call ∈ outputs fetchStep (fetchInit data conf) inputs, NeverTwice (call.pre.procs call.pid) call.pre.data call.move = true) :
    ∀ call ∈ outputs fetchStep (fetchInit data conf) inputs, ∀ sent token, call.request = some (sent, token) →
      RetriedOnce sent token := by
  have h0 : FetchSafe (fetchInit data conf) :=
    ⟨hrows, fun i => fetchOutsideInv_none (memoryIssued_started (hconf i) hrows true)⟩
  refine run_all fetchStep h0 ?_ hC
  exact fun s input h hcall => ⟨fun sent token hrequest => retriedOnce_of_safe h hrequest, h.step input hcall⟩

end

/-! ### A run

    A process whose access token the server no longer takes. -/

def rejectedTokens : Tokens where
  access := some "access 0"
  refresh := some "refresh 0"
  expiresAt := some 9000

def rejectedData : OAuthData where
  rows := rejectedTokens
  exchanged := []
  issued := [rejectedTokens]

/-- The first request is answered with 401. The second attempt refreshes, and its request is answered with 200. -/
def retriedFetch : List (Unit × FetchMove) :=
  [.fetch 1000, .perform (some 401) 1000, .oauth (.lock true), .oauth (.decide true 1000),
    .oauth (.post (.exchanged (some ⟨"access 1", some "refresh 1", 3600⟩)) 1000), .oauth (.write .committed 1000),
    .oauth .unlock, .perform (some 200) 1000].map ((), ·)

theorem fetch_retriedOnce_refreshed :
    (outputs fetchStep (fetchInit rejectedData fun _ => rejectedTokens) retriedFetch).filterMap FetchCall.request =
        [([], "access 0"), ([("access 0", some 401)], "access 1")] ∧
      ∀ call ∈ outputs fetchStep (fetchInit rejectedData fun _ => rejectedTokens) retriedFetch, ∀ sent token,
        call.request = some (sent, token) → RetriedOnce sent token :=
  ⟨by decide, fetch_retriedOnce rejectedData _ retriedFetch (by decide) (fun _ => by decide) (by decide)⟩

end BxSync
