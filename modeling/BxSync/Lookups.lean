import BxSync.Records

/-! The lists that `main` loads before its threads start, one after the other over one connection (`main.c`), with those
    that have a module of their own (`account.c`, `currency.c`, `user.c`, `language.c`), and the taxes (`taxes.c`). -/

namespace BxSync

open Encoding

/-! ### Accounts, currencies and taxes -/

/-- `decode_object` of an account. -/
def accountTable : UpsertTable where
  table := "account"
  fields :=
    [⟨"id", none, .uint⟩, ⟨"uuid", none, .uuid⟩, ⟨"account_no", none, .str⟩, ⟨"name", none, .str⟩,
      ⟨"account_type", none, .int⟩, ⟨"tax_id", none, .uint⟩, ⟨"fibu_account_group_id", none, .uint⟩,
      ⟨"is_active", none, .bool⟩, ⟨"is_locked", none, .bool⟩]
  parentSql := none

/-- `decode_object` of a currency. -/
def currencyTable : UpsertTable where
  table := "currency"
  fields :=
    [⟨"id", none, .uint⟩, ⟨"name", none, .str⟩, ⟨"round_factor", none, .float⟩, ⟨"exchange_rate", none, .float⟩,
      ⟨"exchange_rate_id", none, .uint⟩, ⟨"ratio", none, .float⟩, ⟨"source", none, .str⟩, ⟨"source_reason", none, .str⟩,
      ⟨"exchange_rate_date", none, .str⟩]
  parentSql := none

/-- `bx_object_tax_decode`. -/
def taxTable : UpsertTable where
  table := "taxes"
  fields :=
    [⟨"id", none, .uint⟩, ⟨"uuid", none, .uuid⟩, ⟨"name", none, .str⟩, ⟨"digit", none, .int⟩, ⟨"type", none, .str⟩,
      ⟨"account_id", none, .uint⟩, ⟨"tax_settlement_type", none, .str⟩, ⟨"value", none, .float⟩,
      ⟨"net_tax_value", none, .str⟩, ⟨"start_year", none, .int⟩, ⟨"end_year", none, .int⟩, ⟨"start_month", none, .int⟩,
      ⟨"end_month", none, .int⟩, ⟨"display_name", none, .str⟩, ⟨"is_active", none, .bool⟩]
  parentSql := none

section

variable {κ : Type} [DecidableEq κ] (lib : TextLib) (serverKey : BXSlot → κ) (xxh3 : List UInt8 → UInt64)

/-- `account_page_item`. -/
def accountPageItem (s : Records κ) (item : RecordItem) : BXillError × Records κ :=
  s.store "account" .plain (objectKey lib serverKey accountTable 0 item.object) none
    (upsertRow lib xxh3 accountTable 0 item.object) item.answers

/-- `currency_page_item`. -/
def currencyPageItem (s : Records κ) (item : RecordItem) : BXillError × Records κ :=
  s.store "currency" .plain (objectKey lib serverKey currencyTable 0 item.object) none
    (upsertRow lib xxh3 currencyTable 0 item.object) item.answers

/-- `taxes_page_item`. INSERT IGNORE stores a tax without an id under 0. -/
def taxesPageItem (s : Records κ) (item : RecordItem) : BXillError × Records κ :=
  s.store "taxes" .ignoring (objectKey lib serverKey taxTable 0 item.object) (some (serverKey (.uint (some 0)), 0))
    (upsertRow lib xxh3 taxTable 0 item.object) item.answers

def accountList : RecordList κ RecordItem :=
  { path := "2.0/accounts?limit=$&offset=$", sync := accountPageItem lib serverKey xxh3 }

def currencyList : RecordList κ RecordItem :=
  { path := "3.0/currencies?limit=$&offset=$", sync := currencyPageItem lib serverKey xxh3 }

/-- `WALK_TAXES_PATH`, for either scope. -/
def taxList : RecordList κ RecordItem :=
  { path := "3.0/taxes?limit=$&offset=$&scope=$", sync := taxesPageItem lib serverKey xxh3 }

/-- `bx_taxes_walk_item`: the active taxes, then the others. -/
def bxTaxesWalk (connected : Bool) (active inactive : List (Option (PageReply RecordItem))) (s : Records κ) :
    BXillError × Records κ :=
  let walked := (taxList lib serverKey xxh3).walk connected active s
  if walked.1 ≠ .noError then walked else (taxList lib serverKey xxh3).walk connected inactive walked.2

end

/-! ### Users -/

/-- `decode_object` of a user. -/
def userTable : UpsertTable where
  table := "user"
  fields :=
    [⟨"id", none, .uint⟩, ⟨"firstname", none, .str⟩, ⟨"lastname", none, .str⟩, ⟨"email", none, .str⟩,
      ⟨"salutation_type", none, .str⟩, ⟨"is_accountant", none, .bool⟩, ⟨"is_superadmin", none, .bool⟩]
  parentSql := none

/-- `decode_user_json`, as far as the object to read. -/
def userObject (root : Json) : Option Json :=
  match root with
  | .object fields =>
    match fields.lookup "data" with
    | some (.object data) => some (.object data)
    | _ => some root
  | _ => none

/-- A user's texts are stored as empty ones when they are unset, and its flags as 0. -/
def userSlot : BXSlot → BXSlot
  | .str value => .str (some (value.getD []))
  | .bool value => .bool (some (value.getD false))
  | slot => slot

section

variable {κ : Type} [DecidableEq κ] (lib : TextLib) (serverKey : BXSlot → κ) (xxh3 : List UInt8 → UInt64)

def userRow (obj : Json) : UpsertRow where
  values := ((readSlots lib userTable.fields obj).map userSlot).tail
  checksum := xxh3 (checksumStream none 0 (readSlots lib userTable.fields obj))

/-- `persist_user`. -/
def persistUser (s : Records κ) (obj : Json) (a : UpsertAnswers) : BXillError × Records κ :=
  match objectKey lib serverKey userTable 0 obj with
  | none => (.errorGeneric, s)
  | some key => s.store "user" .checked (some key) none (userRow lib xxh3 obj) a

/-- `user_page_item`: only a lost connection is an error. -/
def userPageItem (s : Records κ) (item : RecordItem) : BXillError × Records κ :=
  match userObject item.object with
  | none => (.noError, s)
  | some obj =>
    let persisted := persistUser lib serverKey xxh3 s obj item.answers
    (keepGoing persisted.1, persisted.2)

/-- `walk_user_path`, for one of its two paths. -/
def userList (path : String) : RecordList κ RecordItem := { path, sync := userPageItem lib serverKey xxh3 }

/-- `bx_user_walk_items`. -/
def bxUserWalkItems (connected : Bool) (users fictional : List (Option (PageReply RecordItem))) (s : Records κ) :
    BXillError × Records κ :=
  walkLists connected
    [userList lib serverKey xxh3 "3.0/users?limit=$&offset=$", userList lib serverKey xxh3 "3.0/fictional_users?limit=$&offset=$"]
    [users, fictional] s

/-! ### Languages -/

/-- `decode_object` of a language. -/
def languageTable : UpsertTable where
  table := "language"
  fields :=
    [⟨"id", none, .uint⟩, ⟨"date_format_id", none, .uint⟩, ⟨"name", none, .str⟩, ⟨"decimal_point", none, .str⟩,
      ⟨"thousands_separator", none, .str⟩, ⟨"iso_639_1", none, .str⟩, ⟨"date_format", none, .str⟩]
  parentSql := none

/-- The id that is sent: an unset one is 0. -/
def languageKey (obj : Json) : κ × UInt64 := (serverKey (.uint (some ((bxObjectGetJsonUint obj "id").getD 0))), 0)

/-- The loop of `bx_language_load`. A write that fails is left, unless the connection is lost with it. -/
def loadLanguages : List RecordItem → Records κ → BXillError × Records κ
  | [], s => (.noError, s)
  | item :: rest, s =>
    let key := some (languageKey serverKey item.object)
    let row := upsertRow lib xxh3 languageTable 0 item.object
    let stored := s.store "language" .ignoring key none row item.answers
    let ended := (storeRow .ignoring (s.tables "language") key none row item.answers).2.2
    if stored.1 ≠ .noError ∧ (ended = .unread ∨ stored.1 = .errorSQLReconnect) then stored else loadLanguages rest stored.2

/-- `bx_language_load`, with the status and the elements of the answer, none when it is no array. -/
def bxLanguageLoad (reply : Option (Nat × List RecordItem)) (s : Records κ) : BXillError × Records κ :=
  match reply with
  | none => (.errorNet, s)
  | some (httpCode, languages) =>
    if httpCode ≠ 200 then (.errorNet, s) else loadLanguages lib serverKey xxh3 languages s

end

/-! ### The loads of `main` -/

/-- What the loads meet: the replies to each list, and whether the connection that is lost in a load is set up again. -/
structure BootstrapInput where
  connected : Bool
  unit : List (Option (PageReply RecordItem))
  account : List (Option (PageReply RecordItem))
  salutation : List (Option (PageReply RecordItem))
  title : List (Option (PageReply RecordItem))
  paymentType : List (Option (PageReply RecordItem))
  currency : List (Option (PageReply RecordItem))
  contactGroup : List (Option (PageReply RecordItem))
  language : Option (Nat × List RecordItem)
  extraLookups : List (List (Option (PageReply RecordItem)))
  users : List (Option (PageReply RecordItem))
  fictionalUsers : List (Option (PageReply RecordItem))
  reconnected : Nat → Bool

/-- `lookup_step`: whether there is a connection after a load over one. -/
def lookupStep (e : BXillError) (reconnected : Bool) : Bool := if e = .errorSQLReconnect then reconnected else true

section

variable {κ : Type} [DecidableEq κ] (lib : TextLib) (serverKey : BXSlot → κ) (xxh3 : List UInt8 → UInt64)

/-- The loads of `main`, over an open connection. -/
def bootstrapLoads (i : BootstrapInput) : List (Records κ → BXillError × Records κ) :=
  [(bxUnitWalkItems lib serverKey xxh3).walk true i.unit, (accountList lib serverKey xxh3).walk true i.account,
    (bxSalutationWalkItems lib serverKey xxh3).walk true i.salutation, (bxTitleWalkItems lib serverKey xxh3).walk true i.title,
    (bxPaymentTypeWalkItems lib serverKey xxh3).walk true i.paymentType,
    (currencyList lib serverKey xxh3).walk true i.currency,
    (bxContactGroupWalkItems lib serverKey xxh3).walk true i.contactGroup,
    bxLanguageLoad lib serverKey xxh3 i.language, bxLookupsWalkMore lib serverKey xxh3 true i.extraLookups,
    bxUserWalkItems lib serverKey xxh3 true i.users i.fictionalUsers]

/-- The loads from the one with a number on, while there is a connection: whether there is one at the end. -/
def runLoads (reconnected : Nat → Bool) : Nat → List (Records κ → BXillError × Records κ) → Records κ → Bool × Records κ
  | _, [], s => (true, s)
  | n, load :: loads, s =>
    let loaded := load s
    if lookupStep loaded.1 (reconnected n) then runLoads reconnected (n + 1) loads loaded.2 else (false, loaded.2)

/-- The loads of `main`. Without a connection they are skipped. -/
def bootstrap (i : BootstrapInput) (s : Records κ) : Bool × Records κ :=
  if i.connected then runLoads i.reconnected 0 (bootstrapLoads lib serverKey xxh3 i) s else (false, s)

end

end BxSync
