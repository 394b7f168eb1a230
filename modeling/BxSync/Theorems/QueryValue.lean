import Mathlib.Data.List.Basic
import BxSync.CallbackQuery
import BxSync.Lib.Percent

/-! `query_value` against the parameters of the query. The search takes the first place where the name and its sign stand
    and a parameter may start, which is right unless such a place comes before the parameter: behind a question mark
    inside of a value, or behind the end of the query, where the search does not stop. -/

namespace BxSync

open Percent

/-! ### The search -/

/-- The name and its sign stand behind a part of the text, and a parameter may start there. -/
structure Stands (name : List UInt8) (prev : Option UInt8) (text pre start : List UInt8) : Prop where
  split : text = pre ++ (name ++ 61 :: start)
  place : mayStart (pre.getLast?.or prev) = true

theorem stands_cons {name : List UInt8} {prev : Option UInt8} {c : UInt8} {rest pre start : List UInt8} :
    Stands name prev (c :: rest) pre start ↔
      (pre = [] ∧ mayStart prev = true ∧ c :: rest = name ++ 61 :: start) ∨
        ∃ pre', pre = c :: pre' ∧ Stands name (some c) rest pre' start := by
  constructor
  · rintro ⟨hsplit, hplace⟩
    cases pre with
    | nil => exact .inl ⟨rfl, hplace, hsplit⟩
    | cons b pre =>
      rw [List.cons_append, List.cons.injEq] at hsplit
      obtain ⟨rfl, hrest⟩ := hsplit
      refine .inr ⟨pre, rfl, hrest, ?_⟩
      rw [List.getLast?_cons] at hplace
      cases hlast : pre.getLast? with
      | none => rwa [hlast] at hplace
      | some b => rwa [hlast] at hplace
  · rintro (⟨rfl, hplace, hsplit⟩ | ⟨pre, rfl, hsplit, hplace⟩)
    · exact ⟨hsplit, hplace⟩
    · refine ⟨congrArg _ hsplit, ?_⟩
      rw [List.getLast?_cons]
      cases hlast : pre.getLast? with
      | none => rwa [hlast] at hplace
      | some b => rwa [hlast] at hplace

theorem stands_nil {name pre start : List UInt8} {prev : Option UInt8} : ¬Stands name prev [] pre start := by
  rintro ⟨hsplit, -⟩
  have hlen := congrArg List.length hsplit
  rw [List.length_append, List.length_append, List.length_cons, List.length_nil] at hlen
  omega

/-- The comparison of `query_value` at a place. -/
theorem comparesName {name text : List UInt8} :
    (text.take name.length = name && text[name.length]? = some 61) = true ↔ ∃ start, text = name ++ 61 :: start := by
  rw [Bool.and_eq_true, decide_eq_true_eq, decide_eq_true_eq]
  constructor
  · rintro ⟨htake, hsign⟩
    have hdrop : text.drop name.length = 61 :: text.drop (name.length + 1) := by
      obtain ⟨hlt, hget⟩ := List.getElem?_eq_some_iff.mp hsign
      rw [List.drop_eq_getElem_cons hlt, hget]
    refine ⟨text.drop (name.length + 1), ?_⟩
    calc text = text.take name.length ++ text.drop name.length := (List.take_append_drop _ _).symm
      _ = name ++ 61 :: text.drop (name.length + 1) := by rw [htake, hdrop]
  · rintro ⟨start, rfl⟩
    refine ⟨List.take_left, ?_⟩
    rw [List.getElem?_append_right (le_refl _), Nat.sub_self]
    rfl

/-- What the search finds is behind the first place where the name stands. -/
theorem searchParam_eq_some {name : List UInt8} {prev : Option UInt8} {text start : List UInt8}
    (h : searchParam name prev text = some start) : ∃ pre, Stands name prev text pre start ∧
      ∀ pre' start', Stands name prev text pre' start' → pre.length ≤ pre'.length := by
  induction text generalizing prev with
  | nil => cases h
  | cons c rest ih =>
    rw [searchParam] at h
    by_cases hmatch : (mayStart prev && ((c :: rest).take name.length = name && (c :: rest)[name.length]? = some 61)) = true
    · rw [if_pos hmatch] at h
      obtain ⟨hplace, hname⟩ := Bool.and_eq_true_iff.mp hmatch
      obtain ⟨found, hsplit⟩ := comparesName.mp hname
      have hstart : found = start := by
        rw [hsplit, List.drop_length_add_append] at h
        exact Option.some.inj h
      subst hstart
      exact ⟨[], stands_cons.mpr (.inl ⟨rfl, hplace, hsplit⟩), fun _ _ _ => Nat.zero_le _⟩
    · rw [if_neg hmatch] at h
      obtain ⟨pre, hstands, hfirst⟩ := ih h
      refine ⟨c :: pre, stands_cons.mpr (.inr ⟨pre, rfl, hstands⟩), fun pre' start' h' => ?_⟩
      rcases stands_cons.mp h' with ⟨-, hplace, hsplit⟩ | ⟨rest', rfl, hrest⟩
      · exact absurd (Bool.and_eq_true_iff.mpr ⟨hplace, comparesName.mpr ⟨start', hsplit⟩⟩) hmatch
      · exact Nat.succ_le_succ (hfirst rest' start' hrest)

theorem searchParam_eq_none {name : List UInt8} {prev : Option UInt8} {text : List UInt8}
    (h : searchParam name prev text = none) (pre start : List UInt8) : ¬Stands name prev text pre start := by
  induction text generalizing prev pre with
  | nil => exact stands_nil
  | cons c rest ih =>
    rw [searchParam] at h
    by_cases hmatch : (mayStart prev && ((c :: rest).take name.length = name && (c :: rest)[name.length]? = some 61)) = true
    · rw [if_pos hmatch] at h
      cases h
    · rw [if_neg hmatch] at h
      intro hstands
      rcases stands_cons.mp hstands with ⟨-, hplace, hsplit⟩ | ⟨pre, rfl, hrest⟩
      · exact hmatch (Bool.and_eq_true_iff.mpr ⟨hplace, comparesName.mpr ⟨start, hsplit⟩⟩)
      · exact ih h pre hrest

/-- Two places of one text with fronts of one length are the same. -/
theorem Stands.unique {name : List UInt8} {prev : Option UInt8} {text pre pre' start start' : List UInt8}
    (h : Stands name prev text pre start) (h' : Stands name prev text pre' start') (hlen : pre.length = pre'.length) :
    pre = pre' ∧ start = start' := by
  obtain ⟨rfl, htext⟩ := List.append_inj (h.split.symm.trans h'.split) hlen
  exact ⟨rfl, (List.cons.inj (List.append_cancel_left htext)).2⟩

/-! ### Queries -/

/-- The bytes that end a query before its text ends: blank, carriage return, line feed and number sign. -/
def endsQuery (c : UInt8) : Bool := c = 32 || c = 13 || c = 10 || c = 35

/-- A byte of a name. -/
def inName (c : UInt8) : Bool := c ≠ 61 && c ≠ 38 && c ≠ 63 && !endsQuery c

/-- A parameter, with its value as it is written and as it is meant. `plain` are the bytes that values have unescaped. -/
structure QueryParam (plain : UInt8 → Bool) where
  name : CText
  text : CText
  value : CText
  word : ∀ c ∈ name.bytes, inName c = true
  encoded : Encoded plain text.bytes
  decodes : decode text.bytes = value.bytes

variable {plain : UInt8 → Bool}

def QueryParam.written (p : QueryParam plain) : List UInt8 := p.name.bytes ++ 61 :: p.text.bytes

/-- Parameters joined by ampersands. -/
def joinedParams : List (QueryParam plain) → List UInt8
  | [] => []
  | p :: rest => p.written ++ rest.flatMap fun p => 38 :: p.written

/-- Parameters with an ampersand behind each: what comes before the next one. -/
def leadParams (front : List (QueryParam plain)) : List UInt8 := front.flatMap fun p => p.written ++ [38]

/-- A callback URL or a request line: a prefix, the question mark, the parameters, and what follows their end. -/
structure Callback (plain : UInt8 → Bool) where
  before : CText
  params : List (QueryParam plain)
  tail : CText
  question : 63 ∉ before.bytes
  ends : ∀ c ∈ tail.bytes.head?, endsQuery c = true

namespace Callback

def query (callback : Callback plain) : List UInt8 := joinedParams callback.params ++ callback.tail.bytes

def text (callback : Callback plain) : CText := .read (callback.before.bytes ++ 63 :: callback.query)

/-- The value of the first parameter with the name. -/
def value (callback : Callback plain) (name : CText) : Option CText :=
  (callback.params.find? fun p => p.name = name).map QueryParam.value

/-- A place where the search finds the name before the first parameter that has it. -/
structure Stray (callback : Callback plain) (name : CText) (pre start : List UInt8) : Prop where
  stands : Stands name.bytes none callback.query pre start
  early : ∀ front p back, callback.params = front ++ p :: back → p.name = name → (∀ q ∈ front, q.name ≠ name) →
    pre.length < (leadParams front).length

/-- There is no such place, or what stands at the first of them decodes to the value of the parameter. -/
def Undisturbed (urlDecode : CText → Option CText) (callback : Callback plain) (name : CText) : Prop :=
  ∀ pre start, callback.Stray name pre start →
    (∀ pre' start', callback.Stray name pre' start' → pre.length ≤ pre'.length) →
      urlDecode (.read (start.takeWhile inValue)) = callback.value name

end Callback

theorem joinedParams_split (front : List (QueryParam plain)) (p : QueryParam plain) (back : List (QueryParam plain)) :
    joinedParams (front ++ p :: back) = leadParams front ++ (p.written ++ back.flatMap fun p => 38 :: p.written) := by
  have hnext (front : List (QueryParam plain)) : (front ++ p :: back).flatMap (fun p => 38 :: p.written) =
      38 :: (leadParams front ++ (p.written ++ back.flatMap fun p => 38 :: p.written)) := by
    induction front with
    | nil => rfl
    | cons q front ih =>
      rw [List.cons_append, List.flatMap_cons, ih, leadParams, leadParams, List.flatMap_cons, List.append_assoc, List.append_assoc]
      rfl
  cases front with
  | nil => rfl
  | cons q front =>
    rw [List.cons_append, joinedParams, hnext, leadParams, leadParams, List.flatMap_cons, List.append_assoc, List.append_assoc]
    rfl

/-- A parameter may start behind those before it. -/
theorem mayStart_leadParams (front : List (QueryParam plain)) : mayStart ((leadParams front).getLast?.or none) = true := by
  rcases List.eq_nil_or_concat front with rfl | ⟨front, p, rfl⟩
  · rfl
  · rw [leadParams, List.concat_eq_append, List.flatMap_append, List.flatMap_singleton, ← List.append_assoc, List.getLast?_concat]
    rfl

/-! ### Texts -/

theorem not_inValue_of_ends : ∀ c : UInt8, endsQuery c = true → inValue c = false := forall_byte (by decide +kernel)

/-- What is encoded has no byte that ends a value. -/
theorem inValue_of_encoded (hplain : ∀ c, plain c = true → inValue c = true) {text : List UInt8}
    (h : Encoded plain text) : ∀ c ∈ text, inValue c = true :=
  forall_of_encoded rfl (forall_byte (by decide +kernel)) hplain h

theorem nul_notMem_written (p : QueryParam plain) : 0 ∉ p.written := by
  intro h
  rcases List.mem_append.mp h with h | h
  · exact p.name.ended h
  · rcases List.mem_cons.mp h with h | h
    · exact absurd h (by decide)
    · exact p.text.ended h

theorem nul_notMem_joinedParams (params : List (QueryParam plain)) : 0 ∉ joinedParams params := by
  cases params with
  | nil => exact List.not_mem_nil
  | cons p rest =>
    intro h
    rcases List.mem_append.mp h with h | h
    · exact nul_notMem_written p h
    · obtain ⟨q, -, hq⟩ := List.mem_flatMap.mp h
      rcases List.mem_cons.mp hq with hq | hq
      · exact absurd hq (by decide)
      · exact nul_notMem_written q hq

namespace Callback

variable (callback : Callback plain)

theorem bytes_text : callback.text.bytes = callback.before.bytes ++ 63 :: callback.query := by
  have hended : 0 ∉ callback.before.bytes ++ 63 :: callback.query := by
    intro h
    rcases List.mem_append.mp h with h | h
    · exact callback.before.ended h
    · rcases List.mem_cons.mp h with h | h
      · exact absurd h (by decide)
      · rcases List.mem_append.mp h with h | h
        · exact nul_notMem_joinedParams _ h
        · exact callback.tail.ended h
  exact congrArg CText.bytes (CText.read_bytes ⟨_, hended⟩)

theorem afterQuestion_append {before query : List UInt8} (h : 63 ∉ before) : afterQuestion (before ++ 63 :: query) = query := by
  have hpos : ∀ c ∈ before, decide (c ≠ 63) = true := fun c hc => decide_eq_true fun heq => h (heq ▸ hc)
  rw [afterQuestion, List.dropWhile_append_of_pos hpos, List.dropWhile_cons_of_neg (by decide)]

theorem afterQuestion_text : afterQuestion callback.text.bytes = callback.query := by
  rw [bytes_text, afterQuestion_append callback.question]

/-- The text of a parameter ends at the ampersand or at the end of the query. -/
theorem takeWhile_text (hplain : ∀ c, plain c = true → inValue c = true) (p : QueryParam plain)
    (back : List (QueryParam plain)) :
    (p.text.bytes ++ (back.flatMap (fun p => 38 :: p.written) ++ callback.tail.bytes)).takeWhile inValue = p.text.bytes := by
  have hrest : (back.flatMap (fun p => 38 :: p.written) ++ callback.tail.bytes).takeWhile inValue = [] := by
    cases back with
    | cons q back => rfl
    | nil =>
      have hends := callback.ends
      cases htail : callback.tail.bytes with
      | nil => rfl
      | cons c rest =>
        rw [htail] at hends
        have hc := not_inValue_of_ends c (hends c rfl)
        exact List.takeWhile_cons_of_neg (by rw [hc]; decide)
  rw [List.takeWhile_append_of_pos (inValue_of_encoded hplain p.encoded), hrest, List.append_nil]

/-- The first parameter with the name is a place where the search finds it. -/
theorem stands_param {front : List (QueryParam plain)} {p : QueryParam plain} {back : List (QueryParam plain)}
    (hparams : callback.params = front ++ p :: back) :
    Stands p.name.bytes none callback.query (leadParams front)
      (p.text.bytes ++ (back.flatMap (fun p => 38 :: p.written) ++ callback.tail.bytes)) := by
  refine ⟨?_, mayStart_leadParams front⟩
  rw [query, hparams, joinedParams_split, QueryParam.written]
  simp only [List.append_assoc, List.cons_append]

theorem value_first {front : List (QueryParam plain)} {p : QueryParam plain} {back : List (QueryParam plain)}
    (hparams : callback.params = front ++ p :: back) (hfront : ∀ q ∈ front, q.name ≠ p.name) :
    callback.value p.name = some p.value := by
  have hfind : callback.params.find? (fun q => decide (q.name = p.name)) = some p :=
    List.find?_eq_some_iff_append.mpr ⟨decide_eq_true rfl, front, back, hparams, fun q hq => by
      rw [decide_eq_false (hfront q hq)]
      rfl⟩
  rw [value, hfind]
  rfl

theorem first_of_value {name : CText} (h : callback.value name ≠ none) :
    ∃ front p back, callback.params = front ++ p :: back ∧ p.name = name ∧ ∀ q ∈ front, q.name ≠ name := by
  obtain ⟨value, hvalue⟩ := Option.ne_none_iff_exists'.mp h
  obtain ⟨p, hfind, -⟩ := Option.map_eq_some_iff.mp hvalue
  obtain ⟨hname, front, back, hparams, hfront⟩ := List.find?_eq_some_iff_append.mp hfind
  refine ⟨front, p, back, hparams, of_decide_eq_true hname, fun q hq heq => ?_⟩
  have hneg := hfront q hq
  rw [heq, decide_eq_true rfl] at hneg
  cases hneg

/-! ### The answer -/

variable {urlDecode : CText → Option CText}

theorem queryValue_iff (hplain : ∀ c, plain c = true → inValue c = true)
    (hdecode : ∀ text value : CText, Encoded plain text.bytes → decode text.bytes = value.bytes → urlDecode text = some value)
    (name : CText) : queryValue urlDecode callback.text name = callback.value name ↔ callback.Undisturbed urlDecode name := by
  unfold queryValue
  rw [afterQuestion_text]
  cases hfind : searchParam name.bytes none callback.query with
  | none =>
    have hnone := searchParam_eq_none hfind
    constructor
    · exact fun _ pre start hstray => absurd hstray.stands (hnone pre start)
    · intro _
      by_contra hvalue
      obtain ⟨front, p, back, hparams, rfl, -⟩ := callback.first_of_value (Ne.symm hvalue)
      exact hnone _ _ (callback.stands_param hparams)
  | some start =>
    obtain ⟨pre, hstands, hfirst⟩ := searchParam_eq_some hfind
    show urlDecode (.read (start.takeWhile inValue)) = callback.value name ↔ _
    by_cases hstray : callback.Stray name pre start
    · constructor
      · intro heq pre' start' hstray' hmin
        have hlen : pre.length = pre'.length := Nat.le_antisymm (hfirst _ _ hstray'.stands) (hmin _ _ hstray)
        obtain ⟨-, rfl⟩ := hstands.unique hstray'.stands hlen
        exact heq
      · exact fun h => h pre start hstray fun pre' start' hstray' => hfirst pre' start' hstray'.stands
    · -- The place is the parameter itself: no place comes before it, and it does not come later.
      obtain ⟨front, p, back, hparams, rfl, hfront, hlate⟩ : ∃ front p back, callback.params = front ++ p :: back ∧
          p.name = name ∧ (∀ q ∈ front, q.name ≠ name) ∧ (leadParams front).length ≤ pre.length := by
        by_contra hno
        refine hstray ⟨hstands, fun front p back hparams hname hfront => ?_⟩
        by_contra hle
        exact hno ⟨front, p, back, hparams, hname, hfront, not_lt.mp hle⟩
      have hparam := callback.stands_param hparams
      obtain ⟨-, rfl⟩ := hstands.unique hparam (Nat.le_antisymm (hfirst _ _ hparam) hlate)
      constructor
      · intro _ pre' start' hstray' _
        have hbefore := hstray'.early front p back hparams rfl hfront
        have hafter := hfirst _ _ hstray'.stands
        omega
      · intro _
        rw [callback.takeWhile_text hplain, CText.read_bytes, hdecode p.text p.value p.encoded p.decodes,
          callback.value_first hparams hfront]

/-- The blanks that `code_from_line` skips are before the question mark. -/
theorem queryValue_line (name : CText) : queryValue urlDecode (.read (callback.text.bytes.dropWhile isSpace)) name =
    queryValue urlDecode callback.text name := by
  have hdrop : callback.text.bytes.dropWhile isSpace = callback.before.bytes.dropWhile isSpace ++ 63 :: callback.query := by
    rw [bytes_text]
    induction callback.before.bytes with
    | nil => rfl
    | cons c before ih =>
      by_cases hc : isSpace c = true
      · rw [List.cons_append, List.dropWhile_cons_of_pos hc, List.dropWhile_cons_of_pos hc, ih]
      · rw [List.cons_append, List.dropWhile_cons_of_neg hc, List.dropWhile_cons_of_neg hc]
        rfl
  have hended : 0 ∉ callback.text.bytes.dropWhile isSpace :=
    fun h => callback.text.ended ((List.dropWhile_suffix _).subset h)
  have hquestion : 63 ∉ callback.before.bytes.dropWhile isSpace :=
    fun h => callback.question ((List.dropWhile_suffix _).subset h)
  have hread : (CText.read (callback.text.bytes.dropWhile isSpace)).bytes = callback.text.bytes.dropWhile isSpace :=
    congrArg CText.bytes (CText.read_bytes ⟨_, hended⟩)
  unfold queryValue
  rw [afterQuestion_text, hread, hdrop, afterQuestion_append hquestion]

end Callback

/-- A connection whose code is taken has the state. -/
theorem acceptCode_state {received : List UInt8} {expect code : CText}
    (h : acceptCode urlDecode (some received) expect = some code) :
    queryValue urlDecode (requestText received) (.ofString "state") = some expect := by
  rw [acceptCode, Option.bind_eq_bind, Option.bind_some] at h
  obtain ⟨gotCode, -, h⟩ := Option.bind_eq_some_iff.mp h
  obtain ⟨gotState, hstate, h⟩ := Option.bind_eq_some_iff.mp h
  by_cases heq : gotState = expect
  · rw [hstate, heq]
  · rw [if_neg heq] at h
    cases h

/-- A line whose code is taken has it, too. -/
theorem codeFromLine_state {line expect code : CText} (h : (codeFromLine urlDecode line expect).code = some code) :
    queryValue urlDecode (.read (line.bytes.dropWhile isSpace)) (.ofString "state") = some expect := by
  unfold codeFromLine at h
  dsimp only at h
  split at h
  · rename_i hboth
    exact of_decide_eq_true (Bool.and_eq_true_iff.mp hboth).2
  · split at h
    · cases h
    · split at h
      · cases h
      · cases h

/-- The value of the first parameter with the name is found. For the state, a code is taken only when the parameter of the
    same query equals the expected one. -/
structure AnswersQuery (urlDecode : CText → Option CText) (callback : Callback plain) (name : CText) : Prop where
  value : queryValue urlDecode callback.text name = callback.value name
  request : name = .ofString "state" → ∀ received expect code, requestText received = callback.text →
    acceptCode urlDecode (some received) expect = some code → callback.value name = some expect
  line : name = .ofString "state" → ∀ expect code, (codeFromLine urlDecode callback.text expect).code = some code →
    callback.value name = some expect

theorem answersQuery_of_value {callback : Callback plain} {name : CText}
    (hfound : queryValue urlDecode callback.text name = callback.value name) : AnswersQuery urlDecode callback name := by
  refine ⟨hfound, ?_, ?_⟩
  · rintro rfl received expect code hrequest haccept
    rw [← hfound, ← hrequest]
    exact acceptCode_state haccept
  · rintro rfl expect code htaken
    rw [← hfound, ← callback.queryValue_line]
    exact codeFromLine_state htaken

/-- A name is answered exactly if it stands nowhere before its parameter, or decodes to the same where it does. -/
theorem answersQuery_iff (hplain : ∀ c, plain c = true → inValue c = true)
    (hdecode : ∀ text value : CText, Encoded plain text.bytes → decode text.bytes = value.bytes → urlDecode text = some value)
    (callback : Callback plain) (name : CText) :
    AnswersQuery urlDecode callback name ↔ callback.Undisturbed urlDecode name := by
  have hvalue := callback.queryValue_iff hplain hdecode name
  exact ⟨fun h => hvalue.mp h.value, fun h => answersQuery_of_value (hvalue.mpr h)⟩

/-- The bytes that may stand unescaped: those that do not end a value, except for the sign of an escape. -/
def plainByte (c : UInt8) : Bool := inValue c && c ≠ 37

def decodeText (text : CText) : Option CText := some (.read (decode text.bytes))

theorem inValue_of_plainByte (c : UInt8) (h : plainByte c = true) : inValue c = true := (Bool.and_eq_true_iff.mp h).1

theorem decodeText_inverts (text value : CText) (_ : Encoded plainByte text.bytes) (hdecodes : decode text.bytes = value.bytes) :
    decodeText text = some value := by
  rw [decodeText, hdecodes, CText.read_bytes]

/-- A parameter with nothing to escape. -/
def plainParam (name value : CText) (h : (∀ c ∈ name.bytes, inName c = true) ∧ ∀ c ∈ value.bytes, plainByte c = true) :
    QueryParam plainByte where
  name := name
  text := value
  value := value
  word := h.1
  encoded := encoded_of_plain h.2
  decodes := decode_of_plain fun c hc => of_decide_eq_true (Bool.and_eq_true_iff.mp (h.2 c hc)).2

def loginCallback (params : List (QueryParam plainByte)) (tail : CText)
    (ends : ∀ c ∈ tail.bytes.head?, endsQuery c = true) : Callback plainByte where
  before := .ofString "http://localhost/callback"
  params := params
  tail := tail
  question := by decide +kernel
  ends := ends

/-- A callback with the state and the code. -/
def orderly : Callback plainByte :=
  loginCallback [plainParam (.ofString "state") (.ofString "S") (by decide +kernel),
    plainParam (.ofString "code") (.ofString "abc") (by decide +kernel)] (.ofString " HTTP/1.1") (by decide +kernel)

theorem answersQuery_orderly : AnswersQuery decodeText orderly (.ofString "state") ∧
    orderly.value (.ofString "state") = some (.ofString "S") := by
  have hvalue : queryValue decodeText orderly.text (.ofString "state") = orderly.value (.ofString "state") := by
    decide +kernel
  have hundisturbed := (orderly.queryValue_iff inValue_of_plainByte decodeText_inverts _).mp hvalue
  exact ⟨(answersQuery_iff inValue_of_plainByte decodeText_inverts orderly _).mpr hundisturbed, by decide +kernel⟩

/-- A callback without a state whose fragment has one. -/
def stateInFragment : Callback plainByte :=
  loginCallback [plainParam (.ofString "code") (.ofString "abc") (by decide +kernel)]
    (.ofString "#x&state=S") (by decide +kernel)

/-- A callback without a state where the value of another parameter has one behind a question mark. -/
def stateInValue : Callback plainByte :=
  loginCallback [plainParam (.ofString "x") (.ofString "a?state=S") (by decide +kernel),
    plainParam (.ofString "code") (.ofString "abc") (by decide +kernel)] (.ofString "") (by decide +kernel)

/-- Neither callback has the parameter, and the codes of both are taken. -/
theorem answersQuery_strayState : (stateInFragment.value (.ofString "state") = none ∧
      (codeFromLine decodeText stateInFragment.text (.ofString "S")).code = some (.ofString "abc") ∧
      ¬AnswersQuery decodeText stateInFragment (.ofString "state")) ∧
    stateInValue.value (.ofString "state") = none ∧
      (codeFromLine decodeText stateInValue.text (.ofString "S")).code = some (.ofString "abc") ∧
      ¬AnswersQuery decodeText stateInValue (.ofString "state") := by
  have hfragment : stateInFragment.value (.ofString "state") = none ∧
      (codeFromLine decodeText stateInFragment.text (.ofString "S")).code = some (.ofString "abc") := by decide +kernel
  have hvalue : stateInValue.value (.ofString "state") = none ∧
      (codeFromLine decodeText stateInValue.text (.ofString "S")).code = some (.ofString "abc") := by decide +kernel
  refine ⟨⟨hfragment.1, hfragment.2, fun h => ?_⟩, hvalue.1, hvalue.2, fun h => ?_⟩
  · exact absurd (hfragment.1.symm.trans (h.line rfl _ _ hfragment.2)) (by decide +kernel)
  · exact absurd (hvalue.1.symm.trans (h.line rfl _ _ hvalue.2)) (by decide +kernel)

/-! ### The places before the parameter -/

theorem inValue_of_inName : ∀ c : UInt8, inName c = true → inValue c = true ∧ c ≠ 61 ∧ c ≠ 38 ∧ c ≠ 63 :=
  forall_byte (by decide +kernel)

theorem sign_notMem {name : List UInt8} (hword : ∀ c ∈ name, inName c = true) : 61 ∉ name :=
  fun h => (inValue_of_inName 61 (hword 61 h)).2.1 rfl

theorem append_sign_injective {a b s t : List UInt8} (ha : 61 ∉ a) (hb : 61 ∉ b) (h : a ++ 61 :: s = b ++ 61 :: t) :
    a = b := by
  rcases List.append_eq_append_iff.mp h with ⟨w, hw, hrest⟩ | ⟨w, hw, hrest⟩
  · cases w with
    | nil => rw [hw, List.append_nil]
    | cons c w => exact absurd (hw ▸ List.mem_append_right _ ((List.cons.inj hrest).1 ▸ List.mem_cons_self)) hb
  · cases w with
    | nil => rw [hw, List.append_nil]
    | cons c w => exact absurd (hw ▸ List.mem_append_right _ ((List.cons.inj hrest).1 ▸ List.mem_cons_self)) ha

/-- A name and its sign that start inside of a value end inside of it. -/
theorem name_inside {name start text more : List UInt8} (hword : ∀ c ∈ name, inName c = true)
    (hmore : ∀ c ∈ more.head?, inValue c = false) (h : name ++ 61 :: start = text ++ more) :
    ∃ rest, text = name ++ 61 :: rest := by
  have hsign : name ++ 61 :: start = (name ++ [61]) ++ start := by rw [List.append_assoc]; rfl
  rw [hsign] at h
  rcases List.append_eq_append_iff.mp h with ⟨rest, htext, -⟩ | ⟨out, hname, hout⟩
  · exact ⟨rest, by rw [htext, List.append_assoc]; rfl⟩
  · cases out with
    | nil => exact ⟨[], by rw [List.append_nil] at hname; exact hname.symm⟩
    | cons c out =>
      have hc : inValue c = true := by
        have hmem : c ∈ name ++ [61] := hname ▸ List.mem_append_right _ List.mem_cons_self
        rcases List.mem_append.mp hmem with hmem | hmem
        · exact (inValue_of_inName c (hword c hmem)).1
        · rw [List.mem_singleton.mp hmem]
          decide
      rw [hout] at hmore
      exact absurd (hc.symm.trans (hmore c rfl)) (by decide)

/-- A mark with the name behind it is in the value of a parameter or behind the parameter. -/
theorem mark_written (hplain : ∀ c, plain c = true → inValue c = true) (q : QueryParam plain) {name start more a : List UInt8}
    {c : UInt8} (hword : ∀ c ∈ name, inName c = true) (hmore : ∀ c ∈ more.head?, inValue c = false) (hc : c = 38 ∨ c = 63)
    (h : a ++ c :: (name ++ 61 :: start) = q.written ++ more) :
    (∃ b rest, q.text.bytes = b ++ 63 :: (name ++ 61 :: rest)) ∨
      ∃ w, a = q.written ++ w ∧ more = w ++ c :: (name ++ 61 :: start) := by
  have hsign : c ≠ 61 := by rcases hc with rfl | rfl <;> decide
  rw [QueryParam.written, List.append_assoc] at h
  rcases List.append_eq_append_iff.mp h with ⟨w, hname, hrest⟩ | ⟨w, ha, hrest⟩
  · exfalso
    cases w with
    | nil => exact hsign (List.cons.inj hrest).1
    | cons b w =>
      obtain ⟨rfl, -⟩ := List.cons.inj hrest
      have hmem : c ∈ q.name.bytes := hname ▸ List.mem_append_right _ List.mem_cons_self
      obtain ⟨-, -, hamp, hquestion⟩ := inValue_of_inName c (q.word c hmem)
      exact hc.elim hamp hquestion
  · cases w with
    | nil => exact absurd (List.cons.inj hrest).1.symm hsign
    | cons b w =>
      obtain ⟨rfl, htexts⟩ := List.cons.inj hrest
      rcases List.append_eq_append_iff.mp htexts.symm with ⟨v, htext, hbehind⟩ | ⟨v, hw, hmore⟩
      · cases v with
        | nil =>
          rw [List.append_nil] at htext
          exact .inr ⟨[], by rw [ha, ← htext, List.append_nil, QueryParam.written], hbehind.symm⟩
        | cons b v =>
          obtain ⟨rfl, hname⟩ := List.cons.inj hbehind
          obtain ⟨rest, rfl⟩ := name_inside hword hmore hname
          have hvalue : inValue c = true :=
            inValue_of_encoded hplain q.encoded c (htext ▸ List.mem_append_right _ List.mem_cons_self)
          rcases hc with rfl | rfl
          · exact absurd hvalue (by decide)
          · exact .inl ⟨w, rest, htext⟩
      · exact .inr ⟨v, by rw [ha, hw, QueryParam.written, List.append_assoc]; rfl, hmore⟩

theorem joinedParams_cons_cons (q r : QueryParam plain) (rest : List (QueryParam plain)) :
    joinedParams (q :: r :: rest) = q.written ++ 38 :: joinedParams (r :: rest) := rfl

/-- A mark with the name behind it is in the value of a parameter, right before a parameter of that name, or behind the
    parameters. -/
theorem mark_query (hplain : ∀ c, plain c = true → inValue c = true) {name start tail : List UInt8} {c : UInt8}
    (hword : ∀ c ∈ name, inName c = true) (htail : ∀ c ∈ tail.head?, inValue c = false) (hc : c = 38 ∨ c = 63)
    (params : List (QueryParam plain)) {a : List UInt8} (h : a ++ c :: (name ++ 61 :: start) = joinedParams params ++ tail) :
    (∃ front q back, params = front ++ q :: back ∧ (leadParams front).length ≤ a.length ∧
        ∃ b rest, q.text.bytes = b ++ 63 :: (name ++ 61 :: rest)) ∨
      (∃ front q back, params = front ++ q :: back ∧ q.name.bytes = name ∧ leadParams front = a ++ [c]) ∨
      ∃ w, a = joinedParams params ++ w ∧ tail = w ++ c :: (name ++ 61 :: start) := by
  induction params generalizing a with
  | nil => exact .inr (.inr ⟨a, rfl, h.symm⟩)
  | cons q rest ih =>
    cases rest with
    | nil =>
      rw [joinedParams, List.flatMap_nil, List.append_nil] at h ⊢
      rcases mark_written hplain q hword htail hc h with hinside | hbehind
      · exact .inl ⟨[], q, [], rfl, Nat.zero_le _, hinside⟩
      · exact .inr (.inr hbehind)
    | cons r rest =>
      have hlead (front : List (QueryParam plain)) : leadParams (q :: front) = q.written ++ 38 :: leadParams front := by
        rw [leadParams, leadParams, List.flatMap_cons, List.append_assoc]
        rfl
      rw [joinedParams_cons_cons, List.append_assoc] at h
      rcases mark_written hplain q hword (fun c hc => by cases hc; rfl) hc h with hinside | ⟨w, ha, hbehind⟩
      · exact .inl ⟨[], q, r :: rest, rfl, Nat.zero_le _, hinside⟩
      · cases w with
        | nil =>
          obtain ⟨rfl, hnext⟩ := List.cons.inj hbehind
          have hname : r.name.bytes = name := by
            have htexts : r.name.bytes ++ 61 :: (r.text.bytes ++ (rest.flatMap (fun p => 38 :: p.written) ++ tail)) =
                name ++ 61 :: start := by
              rw [← hnext]
              simp only [joinedParams, QueryParam.written, List.append_assoc, List.cons_append, List.append_eq]
            exact append_sign_injective (sign_notMem r.word) (sign_notMem hword) htexts
          refine .inr (.inl ⟨[q], r, rest, rfl, hname, ?_⟩)
          rw [ha, hlead, List.append_nil]
          rfl
        | cons b w =>
          obtain ⟨rfl, hnext⟩ := List.cons.inj hbehind
          rcases ih hnext.symm with ⟨front, p, back, hsplit, hlen, hinside⟩ | ⟨front, p, back, hsplit, hname, hfront⟩ |
            ⟨v, hw, hbehind⟩
          · refine .inl ⟨q :: front, p, back, congrArg _ hsplit, ?_, hinside⟩
            rw [hlead, ha, List.length_append, List.length_append, List.length_cons, List.length_cons]
            omega
          · refine .inr (.inl ⟨q :: front, p, back, congrArg _ hsplit, hname, ?_⟩)
            rw [hlead, ha, hfront, List.append_assoc]
            rfl
          · refine .inr (.inr ⟨v, ?_, hbehind⟩)
            rw [joinedParams_cons_cons, ha, hw, List.append_assoc]
            rfl

/-- Up to a parameter with the name there is a first one. -/
theorem first_upTo {front : List (QueryParam plain)} {q r : QueryParam plain} {name : CText} (hr : r ∈ front ++ [q])
    (hname : r.name = name) : ∃ front' p back', front ++ [q] = front' ++ p :: back' ∧ p.name = name ∧
      (∀ q ∈ front', q.name ≠ name) ∧ (leadParams front').length ≤ (leadParams front).length := by
  have hsome : (front ++ [q]).find? (fun r => decide (r.name = name)) ≠ none :=
    fun hnone => List.find?_eq_none.mp hnone r hr (decide_eq_true hname)
  obtain ⟨p, hfind⟩ := Option.ne_none_iff_exists'.mp hsome
  obtain ⟨hp, front', back', hsplit, hfront⟩ := List.find?_eq_some_iff_append.mp hfind
  refine ⟨front', p, back', hsplit, of_decide_eq_true hp, fun q hq heq => ?_, ?_⟩
  · have hneg := hfront q hq
    rw [heq, decide_eq_true rfl] at hneg
    cases hneg
  · rcases List.eq_nil_or_concat back' with rfl | ⟨back', last, rfl⟩
    · rw [(List.append_inj' hsplit rfl).1]
    · rw [List.concat_eq_append, ← List.cons_append, ← List.append_assoc] at hsplit
      rw [(List.append_inj' hsplit rfl).1, leadParams, leadParams, List.flatMap_append, List.length_append]
      exact Nat.le_add_right _ _

namespace Callback

/-- No stray place of a name is behind a parameter of that name. -/
theorem Stray.lt_leadParams {callback : Callback plain} {name : CText} {pre start : List UInt8} (h : callback.Stray name pre start)
    {front : List (QueryParam plain)} {q : QueryParam plain} {back : List (QueryParam plain)}
    (hparams : callback.params = front ++ q :: back) {r : QueryParam plain} (hr : r ∈ front ++ [q]) (hname : r.name = name) :
    pre.length < (leadParams front).length := by
  obtain ⟨front', p, back', hsplit, hp, hfirst, hlen⟩ := first_upTo hr hname
  have hwhole : callback.params = front' ++ p :: (back' ++ back) := by
    rw [hparams, ← List.cons_append, ← List.append_assoc, ← hsplit, List.append_assoc]
    rfl
  exact Nat.lt_of_lt_of_le (h.early front' p (back' ++ back) hwhole hp hfirst) hlen

/-- A name without marks that stands before its parameter follows a question mark inside of a value up to there, or a mark
    behind the end of the query. -/
theorem Stray.follows (hplain : ∀ c, plain c = true → inValue c = true) {callback : Callback plain} {name : CText}
    (hword : ∀ c ∈ name.bytes, inName c = true) {pre start : List UInt8} (hstray : callback.Stray name pre start) :
    (∃ front q back, callback.params = front ++ q :: back ∧ (∀ r ∈ front ++ [q], r.name ≠ name) ∧
        ∃ b rest, q.text.bytes = b ++ 63 :: (name.bytes ++ 61 :: rest)) ∨
      ((∀ q ∈ callback.params, q.name ≠ name) ∧
        ∃ b c rest, (c = 38 ∨ c = 63) ∧ callback.tail.bytes = b ++ c :: (name.bytes ++ 61 :: rest)) := by
  have htail : ∀ c ∈ callback.tail.bytes.head?, inValue c = false :=
    fun c hc => not_inValue_of_ends c (callback.ends c hc)
  obtain ⟨hsplit, hplace⟩ := hstray.stands
  rcases List.eq_nil_or_concat pre with rfl | ⟨a, c, rfl⟩
  · -- At the start of the query stands the name of the first parameter, or nothing.
    exfalso
    rw [List.nil_append] at hsplit
    cases hparams : callback.params with
    | nil =>
      have hnothing : name.bytes ++ 61 :: start = [] ++ callback.tail.bytes := by
        rw [← hsplit, query, hparams]
        rfl
      obtain ⟨rest, hrest⟩ := name_inside hword htail hnothing
      exact absurd (congrArg List.length hrest) (by rw [List.length_append, List.length_cons, List.length_nil]; omega)
    | cons q rest =>
      have hname : q.name = name := by
        rw [query, hparams, joinedParams, QueryParam.written, List.append_assoc, List.append_assoc] at hsplit
        exact CText.bytes_injective (append_sign_injective (sign_notMem q.word) (sign_notMem hword) hsplit)
      have hstart : callback.params = [] ++ q :: rest := hparams
      have hlt := hstray.lt_leadParams hstart (List.mem_singleton_self q) hname
      exact Nat.not_lt_zero _ hlt
  · rw [List.concat_eq_append] at hsplit hplace hstray
    have hc : c = 38 ∨ c = 63 := by
      rw [List.getLast?_concat] at hplace
      rcases Bool.or_eq_true_iff.mp hplace with hplace | hplace
      · exact .inl (Option.some.inj (of_decide_eq_true hplace))
      · exact .inr (Option.some.inj (of_decide_eq_true hplace))
    have hlen : (a ++ [c]).length = a.length + 1 := List.length_append
    rw [List.append_assoc] at hsplit
    rcases mark_query hplain hword htail hc callback.params hsplit.symm with
      ⟨front, q, back, hparams, hbehind, hinside⟩ | ⟨front, q, back, hparams, hname, hfront⟩ | ⟨w, ha, hbehind⟩
    · refine .inl ⟨front, q, back, hparams, fun r hr hname => ?_, hinside⟩
      have hlt := hstray.lt_leadParams hparams hr hname
      omega
    · have hlt := hstray.lt_leadParams hparams (List.mem_append_right _ (List.mem_singleton_self q))
        (CText.bytes_injective hname)
      rw [hfront] at hlt
      exact absurd hlt (lt_irrefl _)
    · refine .inr ⟨fun r hr hname => ?_, w, c, start, hc, hbehind⟩
      obtain ⟨front, back, hparams⟩ := List.append_of_mem hr
      have hlt := hstray.lt_leadParams hparams (List.mem_append_right _ (List.mem_singleton_self r)) hname
      rw [hparams, joinedParams_split] at ha
      rw [hlen, ha, List.length_append, List.length_append] at hlt
      omega

/-- A question mark inside of a value before the parameter makes what follows it a place of the search. -/
theorem stray_inside {callback : Callback plain} {name : CText} {front : List (QueryParam plain)} {q : QueryParam plain}
    {back : List (QueryParam plain)} (hparams : callback.params = front ++ q :: back)
    (hnone : ∀ r ∈ front ++ [q], r.name ≠ name) {b rest : List UInt8}
    (htext : q.text.bytes = b ++ 63 :: (name.bytes ++ 61 :: rest)) : ∃ pre start, callback.Stray name pre start := by
  refine ⟨leadParams front ++ (q.name.bytes ++ 61 :: b) ++ [63], rest ++ (back.flatMap (fun p => 38 :: p.written) ++
    callback.tail.bytes), ⟨?_, by rw [List.getLast?_concat]; rfl⟩, ?_⟩
  · rw [query, hparams, joinedParams_split, QueryParam.written, htext]
    simp only [List.append_assoc, List.cons_append, List.nil_append]
  · intro front' p back' hparams' hname _
    rw [hparams] at hparams'
    rcases List.append_eq_append_iff.mp hparams' with ⟨w, hw, hrest⟩ | ⟨w, hw, hrest⟩
    · cases w with
      | nil =>
        obtain ⟨rfl, -⟩ := List.cons.inj hrest
        exact absurd hname (hnone q (List.mem_append_right _ (List.mem_singleton_self q)))
      | cons r w =>
        obtain ⟨rfl, -⟩ := List.cons.inj hrest
        have hlen : q.written.length = q.name.bytes.length + (b.length + (name.bytes.length + (rest.length + 1) + 1) + 1) := by
          rw [QueryParam.written, htext]
          simp only [List.length_append, List.length_cons]
        rw [hw, leadParams, leadParams, List.flatMap_append, List.flatMap_cons]
        simp only [List.length_append, List.length_cons, List.length_nil, hlen]
        omega
    · cases w with
      | nil =>
        obtain ⟨rfl, -⟩ := List.cons.inj hrest
        exact absurd hname (hnone p (List.mem_append_right _ (List.mem_singleton_self p)))
      | cons r w =>
        obtain ⟨rfl, -⟩ := List.cons.inj hrest
        exact absurd hname (hnone p (List.mem_append_left _ (hw ▸ List.mem_append_right _ List.mem_cons_self)))

/-- So does a mark behind the end of the query, if no parameter has the name. -/
theorem stray_behind {callback : Callback plain} {name : CText} (hnone : ∀ q ∈ callback.params, q.name ≠ name)
    {b rest : List UInt8} {c : UInt8} (hc : c = 38 ∨ c = 63)
    (hbehind : callback.tail.bytes = b ++ c :: (name.bytes ++ 61 :: rest)) : ∃ pre start, callback.Stray name pre start := by
  refine ⟨joinedParams callback.params ++ b ++ [c], rest, ⟨?_, ?_⟩, ?_⟩
  · rw [query, hbehind]
    simp only [List.append_assoc, List.cons_append, List.nil_append]
  · rw [List.getLast?_concat]
    rcases hc with rfl | rfl <;> rfl
  · intro front p back hparams hname _
    exact absurd hname (hnone p (hparams ▸ List.mem_append_right _ List.mem_cons_self))

/-- A name without marks stands before its parameter exactly where it follows a question mark inside of a value up to
    there, or, if no parameter has it, where it follows a mark behind the end of the query. -/
theorem exists_stray_iff (hplain : ∀ c, plain c = true → inValue c = true) (callback : Callback plain) (name : CText)
    (hword : ∀ c ∈ name.bytes, inName c = true) : (∃ pre start, callback.Stray name pre start) ↔
      (∃ front q back, callback.params = front ++ q :: back ∧ (∀ r ∈ front ++ [q], r.name ≠ name) ∧
        ∃ b rest, q.text.bytes = b ++ 63 :: (name.bytes ++ 61 :: rest)) ∨
      ((∀ q ∈ callback.params, q.name ≠ name) ∧
        ∃ b c rest, (c = 38 ∨ c = 63) ∧ callback.tail.bytes = b ++ c :: (name.bytes ++ 61 :: rest)) := by
  constructor
  · rintro ⟨pre, start, hstray⟩
    exact hstray.follows hplain hword
  · rintro (⟨front, q, back, hparams, hnone, b, rest, htext⟩ | ⟨hnone, b, c, rest, hc, hbehind⟩)
    · exact stray_inside hparams hnone htext
    · exact stray_behind hnone hc hbehind

end Callback

/-- Where values escape the sign behind a name, and no mark follows the query, every name is answered. -/
theorem answersQuery_of_escaped (hplain : ∀ c, plain c = true → inValue c = true) (hsign : plain 61 = false)
    (hdecode : ∀ text value : CText, Encoded plain text.bytes → decode text.bytes = value.bytes → urlDecode text = some value)
    (callback : Callback plain) (htail : 38 ∉ callback.tail.bytes ∧ 63 ∉ callback.tail.bytes) (name : CText)
    (hword : ∀ c ∈ name.bytes, inName c = true) : AnswersQuery urlDecode callback name := by
  refine answersQuery_of_value ((callback.queryValue_iff hplain hdecode name).mpr fun pre start hstray _ => ?_)
  rcases (Callback.exists_stray_iff hplain callback name hword).mp ⟨pre, start, hstray⟩ with
    ⟨-, q, -, -, -, b, rest, htext⟩ | ⟨-, b, c, rest, hc, hbehind⟩
  · have hbyte : ∀ c, plain c = true → (c != 61) = true := fun c hc => bne_iff_ne.mpr fun heq => by
      rw [heq, hsign] at hc
      cases hc
    have hmem : 61 ∈ q.text.bytes := by
      rw [htext]
      exact List.mem_append_right _ (List.mem_cons_of_mem _ (List.mem_append_right _ List.mem_cons_self))
    have hno := forall_of_encoded (p := fun c => c != 61) rfl (forall_byte (by decide +kernel)) hbyte q.encoded 61 hmem
    cases hno
  · have hmem : c ∈ callback.tail.bytes := hbehind ▸ List.mem_append_right _ List.mem_cons_self
    rcases hc with rfl | rfl
    · exact absurd hmem htail.1
    · exact absurd hmem htail.2

end BxSync
