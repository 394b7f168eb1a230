import BxSync.OAuth

/-! The token rows of `_configuration` with their types (`bx_conf.c`), and the two ways they get into the memory of a
    process (`bx_oauth.c`): `bx_oauth_reload` over the values of the configuration, and `oauth_read_tokens`.

    A name has at most one row. The column `type` is what `apply_database_row` makes of it, and of `bval` and `fval` only
    whether there is a value matters. -/

namespace BxSync

namespace Configuration

/-- The types that `apply_database_row` tells apart. -/
inductive RowType
  | text
  | integer
  | bool
  | float
  | blob
  | unknown
deriving DecidableEq, Repr

/-- A row. A column that is NULL is none. -/
structure Row where
  type : RowType
  ival : Option Int
  cval : Option String
  fval : Bool
deriving DecidableEq, Repr

/-- A value of the configuration in memory. -/
inductive Value
  | string (text : String)
  | integer (i : Int)
  | bool (b : Bool)
  | float
  | blob
deriving DecidableEq, Repr

/-- What is kept under each of the three names, in the table or in memory. -/
structure Names (α : Type) where
  access : Option α
  refresh : Option α
  expiresAt : Option α
deriving DecidableEq, Repr

/-- `bx_conf_get_string`. -/
def bxConfGetString : Option Value → Option String
  | some (.string text) => some text
  | _ => none

/-- `bx_conf_get_int`. -/
def bxConfGetInt : Option Value → Int
  | some (.integer i) => i
  | some (.bool b) => if b then 1 else 0
  | _ => 0

/-- `bx_conf_release`: it does nothing. -/
def bxConfRelease (value : Option Value) : Option Value := value

/-- `apply_database_row`. A row without the value of its type is passed over. -/
def applyDatabaseRow (value : Option Value) (row : Row) : Option Value :=
  match row.type with
  | .text => (row.cval.map .string).or value
  | .integer => (row.ival.map .integer).or value
  | .bool => (row.ival.map fun i => .bool (i ≠ 0)).or value
  | .float => if row.fval then some .float else value
  | .blob => some .blob
  | .unknown => value

/-- One name in `bx_conf_load_database`. A value without a row stays. -/
def loadValue (value : Option Value) (row : Option Row) : Option Value := row.elim value (applyDatabaseRow value)

/-- `bx_conf_load_database`. -/
def bxConfLoadDatabase (conf : Names Value) (rows : Names Row) : Names Value where
  access := loadValue conf.access rows.access
  refresh := loadValue conf.refresh rows.refresh
  expiresAt := loadValue conf.expiresAt rows.expiresAt

/-- `BXOAuth` over these values. -/
structure Record where
  conf : Names Value
  accessToken : Option String
  refreshToken : Option String
  expiresAt : Int
  tokensDirty : Bool
deriving DecidableEq, Repr

/-- `load_tokens`, and whether it returns BX_OAUTH_OK. -/
def loadTokens (oa : Record) : Bool × Record :=
  let access := bxConfGetString oa.conf.access
  let refresh := bxConfGetString oa.conf.refresh
  let loaded :=
    { oa with
      accessToken := if tokenPresent access then access else oa.accessToken
      refreshToken := if tokenPresent refresh then refresh else oa.refreshToken
      expiresAt := bxConfGetInt oa.conf.expiresAt }
  (tokenPresent loaded.refreshToken, loaded)

/-- `bx_oauth_reload`, by whether the table could be read. -/
def bxOauthReload (oa : Record) (rows : Names Row) (loaded : Bool) : Bool × Record :=
  if oa.tokensDirty then (true, oa)
  else if !loaded then (false, oa)
  else loadTokens { oa with conf := bxConfLoadDatabase oa.conf rows }

/-- `oauth_read_tokens`, which looks at the columns and not at the type. -/
def oauthReadTokens (oa : Record) (rows : Names Row) : Record :=
  let access := rows.access.bind Row.cval
  let refresh := rows.refresh.bind Row.cval
  let expiry := rows.expiresAt.bind Row.ival
  { oa with
    conf :=
      { access := if tokenPresent access then access.map .string else bxConfRelease oa.conf.access
        refresh := if tokenPresent refresh then refresh.map .string else bxConfRelease oa.conf.refresh
        expiresAt := if expiry.isSome then expiry.map .integer else bxConfRelease oa.conf.expiresAt }
    accessToken := access.filter (· ≠ "")
    refreshToken := refresh.filter (· ≠ "")
    expiresAt := expiry.getD 0 }

/-- `bx_oauth_init` over a configuration, with the `load_tokens` of `bx_oauth_startup`. -/
def bxOauthStarted (conf : Names Value) : Record :=
  (loadTokens { conf, accessToken := none, refreshToken := none, expiresAt := 0, tokensDirty := false }).2

/-! ### Rows and values of their own types

    The rows as `oauth_write_once` writes them, and a configuration that has them: the tokens of `OAuth`. -/

def textRow (text : String) : Row := ⟨.text, none, some text, false⟩
def integerRow (i : Int) : Row := ⟨.integer, some i, none, false⟩

def rowsOf (t : Tokens) : Names Row := ⟨t.access.map textRow, t.refresh.map textRow, t.expiresAt.map integerRow⟩

def confOf (t : Tokens) : Names Value := ⟨t.access.map .string, t.refresh.map .string, t.expiresAt.map .integer⟩

def recordOf (oa : BXOAuth) : Record := ⟨confOf oa.conf, oa.accessToken, oa.refreshToken, oa.expiresAt, oa.tokensDirty⟩

section

variable (oa : BXOAuth) (rows : Tokens)

theorem bxConfGetString_map (token : Option String) : bxConfGetString (token.map .string) = token := by cases token <;> rfl

theorem bxConfGetInt_map (i : Option Int) : bxConfGetInt (i.map .integer) = i.getD 0 := by cases i <;> rfl

theorem loadValue_text (token row : Option String) :
    loadValue (token.map .string) (row.map textRow) = (row.or token).map .string := by cases row <;> rfl

theorem loadValue_integer (i row : Option Int) :
    loadValue (i.map .integer) (row.map integerRow) = (row.or i).map .integer := by cases row <;> rfl

theorem bxConfLoadDatabase_confOf (conf : Tokens) :
    bxConfLoadDatabase (confOf conf) (rowsOf rows) = confOf (BxSync.bxConfLoadDatabase conf rows) := by
  unfold bxConfLoadDatabase BxSync.bxConfLoadDatabase confOf rowsOf
  rw [loadValue_text, loadValue_text, loadValue_integer]

theorem loadTokens_recordOf : (loadTokens (recordOf oa)).2 = recordOf (BxSync.loadTokens oa) := by
  unfold loadTokens BxSync.loadTokens recordOf confOf
  dsimp only
  rw [bxConfGetString_map, bxConfGetString_map, bxConfGetInt_map]

/-- The reload of `OAuth` is this one on such rows. -/
theorem bxOauthReload_recordOf (loaded : Bool) :
    (bxOauthReload (recordOf oa) (rowsOf rows) loaded).2 = recordOf (BxSync.bxOauthReload oa rows loaded) := by
  obtain ⟨conf, access, refresh, expiresAt, dirty⟩ := oa
  cases dirty with
  | true => rfl
  | false =>
    cases loaded with
    | false => rfl
    | true =>
      have := loadTokens_recordOf ⟨BxSync.bxConfLoadDatabase conf rows, access, refresh, expiresAt, false⟩
      rw [recordOf, ← bxConfLoadDatabase_confOf] at this
      exact this

theorem oauthReadTokens_recordOf : oauthReadTokens (recordOf oa) (rowsOf rows) = recordOf (BxSync.oauthReadTokens oa rows) := by
  have htext : ∀ token : Option String, (token.map textRow).bind Row.cval = token := fun token => by cases token <;> rfl
  have hinteger : ∀ i : Option Int, (i.map integerRow).bind Row.ival = i := fun i => by cases i <;> rfl
  unfold oauthReadTokens BxSync.oauthReadTokens recordOf rowsOf confOf bxConfRelease
  dsimp only
  rw [htext, htext, hinteger]
  congr 2
  · split <;> rfl
  · split <;> rfl
  · cases rows.expiresAt <;> rfl

end

end Configuration

end BxSync
