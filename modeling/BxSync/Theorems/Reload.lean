import BxSync.Configuration

/-! Whether `bx_oauth_reload` loads what `oauth_read_tokens` reads. Values of the configuration are never released, and
    memory only changes for a token that is present, so a row that is gone or empty leaves what was loaded before. -/

namespace BxSync

namespace Configuration

/-! ### The property -/

/-- A missing token is NULL or empty. -/
def present (token : Option String) : Option String := token.filter (· ≠ "")

/-- The access token, the refresh token and the expiry are the same. -/
def SameTokens (oa oa' : Record) : Prop :=
  present oa.accessToken = present oa'.accessToken ∧ present oa.refreshToken = present oa'.refreshToken ∧
    oa.expiresAt = oa'.expiresAt

/-- After a reload that returns true, without dirty tokens, memory has what `oauth_read_tokens` would load. -/
def ReloadAgrees (oa : Record) (rows : Names Row) (loaded : Bool) : Prop :=
  (bxOauthReload oa rows loaded).1 = true → (bxOauthReload oa rows loaded).2.tokensDirty = false →
    SameTokens (bxOauthReload oa rows loaded).2 (oauthReadTokens (bxOauthReload oa rows loaded).2 rows)

/-! ### When it holds -/

/-- `apply_database_row` sets the value. -/
def Row.sets (row : Row) : Bool :=
  match row.type with
  | .text => row.cval.isSome
  | .integer => row.ival.isSome
  | .bool => row.ival.isSome
  | .float => row.fval
  | .blob => true
  | .unknown => false

/-- The row is of a text type and not empty. -/
def HasText (row : Option Row) : Prop := ∃ r ∈ row, r.type = .text ∧ (present r.cval).isSome = true

/-- What stands in for a token without such a row: the value of the configuration, unless the row has taken its
    place, and else the token in memory. -/
def standIn (value : Option Value) (memory : Option String) (row : Option Row) : Option String :=
  if row.any Row.sets then present memory else (present (bxConfGetString value)).or (present memory)

/-- There is a text in the row, or what stands in for it is what the row has. -/
def TokenCondition (value : Option Value) (memory : Option String) (row : Option Row) : Prop :=
  HasText row ∨ standIn value memory row = present (row.bind Row.cval)

/-- The row is of type integer with a value, or of a type whose value reads as its column `ival`, or the value that is
    left reads as that column. -/
def ExpiryCondition (value : Option Value) (row : Option Row) : Prop :=
  (∃ r ∈ row, r.type = .integer ∧ r.ival.isSome = true) ∨
  (∃ r ∈ row, r.type = .bool ∧ (r.ival = some 0 ∨ r.ival = some 1)) ∨
  (∃ r ∈ row, r.sets = true ∧ r.type ≠ .integer ∧ r.type ≠ .bool ∧ r.ival.getD 0 = 0) ∨
  (row.any Row.sets = false ∧ bxConfGetInt value = (row.bind Row.ival).getD 0)

/-- The tokens are dirty, the table cannot be read, there is no refresh token to be had, or each of the three rows has
    its value or nothing else stands in for it. -/
def ReloadCondition (oa : Record) (rows : Names Row) (loaded : Bool) : Prop :=
  oa.tokensDirty = true ∨ loaded = false ∨
    (¬HasText rows.refresh ∧ standIn oa.conf.refresh oa.refreshToken rows.refresh = none) ∨
    (TokenCondition oa.conf.access oa.accessToken rows.access ∧
      TokenCondition oa.conf.refresh oa.refreshToken rows.refresh ∧ ExpiryCondition oa.conf.expiresAt rows.expiresAt)

/-! ### One value -/

theorem tokenPresent_iff (token : Option String) : tokenPresent token = (present token).isSome := by
  cases token with
  | none => rfl
  | some text => by_cases h : text = "" <;> simp [tokenPresent, present, h]

theorem present_empty : present (some "") = none := by simp [present, Option.filter_some]

theorem present_some {text : String} (h : text ≠ "") : present (some text) = some text := by simp [present, Option.filter_some, h]

/-- The token that is loaded. -/
def loadedToken (value : Option Value) (memory : Option String) (row : Option Row) : Option String :=
  if tokenPresent (bxConfGetString (loadValue value row)) then bxConfGetString (loadValue value row) else memory

theorem present_ite (text memory : Option String) :
    present (if tokenPresent text then text else memory) = (present text).or (present memory) := by
  rw [tokenPresent_iff]
  cases h : present text with
  | none => simp
  | some t => simp [h]

theorem present_loadedToken (value : Option Value) (memory : Option String) (row : Option Row) :
    (HasText row ∧ present (loadedToken value memory row) = present (row.bind Row.cval)) ∨
      (¬HasText row ∧ present (loadedToken value memory row) = standIn value memory row) := by
  unfold loadedToken
  rw [present_ite]
  cases row with
  | none => exact Or.inr ⟨by simp [HasText], rfl⟩
  | some row =>
    obtain ⟨type, ival, cval, fval⟩ := row
    cases type with
    | text =>
      cases cval with
      | none => exact Or.inr ⟨by simp [HasText, present], rfl⟩
      | some text =>
        by_cases h : text = ""
        · subst h
          refine Or.inr ⟨by simp [HasText, present_empty], ?_⟩
          simp [standIn, Row.sets, loadValue, applyDatabaseRow, bxConfGetString, present_empty]
        · refine Or.inl ⟨by simp [HasText, present_some h], ?_⟩
          simp [loadValue, applyDatabaseRow, bxConfGetString, present_some h]
    | integer => cases ival <;> exact Or.inr ⟨by simp [HasText], rfl⟩
    | bool => cases ival <;> exact Or.inr ⟨by simp [HasText], rfl⟩
    | float => cases fval <;> exact Or.inr ⟨by simp [HasText], rfl⟩
    | blob => exact Or.inr ⟨by simp [HasText], rfl⟩
    | unknown => exact Or.inr ⟨by simp [HasText], rfl⟩

theorem loadedToken_agrees_iff (value : Option Value) (memory : Option String) (row : Option Row) :
    present (loadedToken value memory row) = present (row.bind Row.cval) ↔ TokenCondition value memory row := by
  unfold TokenCondition
  rcases present_loadedToken value memory row with ⟨htext, heq⟩ | ⟨htext, heq⟩
  · exact ⟨fun _ => Or.inl htext, fun _ => heq⟩
  · rw [heq]
    exact ⟨Or.inr, fun h => h.resolve_left htext⟩

/-- Whether there is one at all. -/
theorem loadedToken_missing_iff (value : Option Value) (memory : Option String) (row : Option Row) :
    tokenPresent (loadedToken value memory row) = false ↔ ¬HasText row ∧ standIn value memory row = none := by
  rw [tokenPresent_iff, Option.isSome_eq_false_iff, Option.isNone_iff_eq_none]
  rcases present_loadedToken value memory row with ⟨htext, heq⟩ | ⟨htext, heq⟩
  · obtain ⟨r, hr, htype, hsome⟩ := htext
    have hbind : row.bind Row.cval = r.cval := by
      rw [Option.mem_def.mp hr]
      rfl
    rw [heq, hbind]
    constructor
    · intro hnone
      rw [hnone] at hsome
      exact nomatch hsome
    · exact fun h => absurd ⟨r, hr, htype, hsome⟩ h.1
  · rw [heq]
    exact ⟨fun h => ⟨htext, h⟩, And.right⟩

theorem loadedExpiry_agrees_iff (value : Option Value) (row : Option Row) :
    bxConfGetInt (loadValue value row) = (row.bind Row.ival).getD 0 ↔ ExpiryCondition value row := by
  unfold ExpiryCondition
  cases row with
  | none => simp [loadValue]
  | some row =>
    obtain ⟨type, ival, cval, fval⟩ := row
    cases type with
    | text =>
      cases cval with
      | none => simp [loadValue, applyDatabaseRow, Row.sets]
      | some text =>
        simp [loadValue, applyDatabaseRow, bxConfGetInt, Row.sets]
        exact eq_comm
    | integer => cases ival <;> simp [loadValue, applyDatabaseRow, bxConfGetInt, Row.sets]
    | bool =>
      cases ival with
      | none => simp [loadValue, applyDatabaseRow, Row.sets]
      | some i =>
        simp [loadValue, applyDatabaseRow, bxConfGetInt, Row.sets]
        split_ifs <;> omega
    | float =>
      cases fval with
      | false => simp [loadValue, applyDatabaseRow, Row.sets]
      | true =>
        simp [loadValue, applyDatabaseRow, bxConfGetInt, Row.sets]
        exact eq_comm
    | blob =>
      simp [loadValue, applyDatabaseRow, bxConfGetInt, Row.sets]
      exact eq_comm
    | unknown => simp [loadValue, applyDatabaseRow, Row.sets]

/-! ### The reload -/

/-- For every record, whatever came before it, and every content of the rows. -/
theorem reload_agrees_iff (oa : Record) (rows : Names Row) (loaded : Bool) : ReloadAgrees oa rows loaded ↔ ReloadCondition oa rows loaded := by
  obtain ⟨conf, access, refresh, expiresAt, dirty⟩ := oa
  unfold ReloadAgrees ReloadCondition
  cases dirty with
  | true => exact ⟨fun _ => Or.inl rfl, fun _ _ hdirty => nomatch hdirty⟩
  | false =>
    cases loaded with
    | false => exact ⟨fun _ => Or.inr (Or.inl rfl), fun _ hreturned => nomatch hreturned⟩
    | true =>
      have hreturned : (bxOauthReload ⟨conf, access, refresh, expiresAt, false⟩ rows true).1 =
          tokenPresent (loadedToken conf.refresh refresh rows.refresh) := rfl
      have hsame : SameTokens (bxOauthReload ⟨conf, access, refresh, expiresAt, false⟩ rows true).2
          (oauthReadTokens (bxOauthReload ⟨conf, access, refresh, expiresAt, false⟩ rows true).2 rows) ↔
          TokenCondition conf.access access rows.access ∧ TokenCondition conf.refresh refresh rows.refresh ∧
            ExpiryCondition conf.expiresAt rows.expiresAt := by
        have hread : ∀ token : Option String, present (token.filter (· ≠ "")) = present token := fun token => by
          simp [present, Option.filter_filter]
        unfold SameTokens oauthReadTokens
        dsimp only
        rw [hread, hread, ← loadedToken_agrees_iff, ← loadedToken_agrees_iff, ← loadedExpiry_agrees_iff]
        exact Iff.rfl
      have hmissing := loadedToken_missing_iff conf.refresh refresh rows.refresh
      rw [hreturned, hsame, ← hmissing]
      cases tokenPresent (loadedToken conf.refresh refresh rows.refresh) with
      | false => exact ⟨fun _ => Or.inr (Or.inr (Or.inl rfl)), fun _ hpresent => nomatch hpresent⟩
      | true =>
        constructor
        · exact fun h => Or.inr (Or.inr (Or.inr (h rfl rfl)))
        · rintro (hdirty | hloaded | hnone | hconditions) _ _
          · exact nomatch hdirty
          · exact nomatch hloaded
          · exact nomatch hnone
          · exact hconditions

/-- A process that was started over a table with the three rows. -/
def startedRecord : Record :=
  bxOauthStarted (bxConfLoadDatabase ⟨none, none, none⟩ ⟨some (textRow "access 0"), some (textRow "refresh 0"), some (integerRow 900)⟩)

/-- The access token is removed from the table. The process reloads and still has it. -/
theorem reload_removed : ¬ReloadAgrees startedRecord ⟨none, some (textRow "refresh 0"), some (integerRow 900)⟩ true := by
  intro h
  exact absurd (h (by decide) (by decide)).1 (by decide)

end Configuration

end BxSync
