import BxSync.UrlBuild

/-! The URL that `_bx_build_url` writes. The block is what is written so far and zeros, and the index behind it is the
    length of what is written, an int as long as the whole URL fits in one. -/

namespace BxSync

/-! ### The text of a URL -/

/-- Each run of slashes as one slash. -/
def collapsed : List UInt8 → List UInt8
  | [] => []
  | [c] => [c]
  | c :: d :: rest => if c = 47 ∧ d = 47 then collapsed (d :: rest) else c :: collapsed (d :: rest)

def paramText (param : BXNetURLParam) : List UInt8 := param.name.bytes ++ 61 :: param.value.bytes

/-- The pairs in order, and the sign between two of them. -/
def paramsText (params : List BXNetURLParam) : List UInt8 := [38].intercalate (params.map paramText)

/-- The endpoint, a slash and the path, where runs of slashes collapse from the last but one byte of the endpoint on, and
    the parameters. -/
def urlText (endpoint path : CText) (params : List BXNetURLParam) : List UInt8 :=
  let start := endpoint.bytes.length - 2
  let text := endpoint.bytes ++ 47 :: path.bytes
  text.take start ++ collapsed (text.drop start) ++ if params = [] then [] else 63 :: paramsText params

/-- What the loop keeps of the bytes behind one that is a slash or not. -/
def squeezed : Bool → List UInt8 → List UInt8
  | _, [] => []
  | prev, c :: rest => if prev && c = 47 then squeezed prev rest else c :: squeezed (c = 47) rest

theorem squeezed_eq_collapsed (c : UInt8) (rest : List UInt8) : c :: squeezed (c = 47) rest = collapsed (c :: rest) := by
  induction rest generalizing c with
  | nil => rfl
  | cons d rest ih =>
    unfold squeezed collapsed
    have hcond : (decide (c = 47) && decide (d = 47)) = true ↔ c = 47 ∧ d = 47 := by simp
    by_cases hboth : c = 47 ∧ d = 47
    · rw [if_pos (hcond.mpr hboth), if_pos hboth, ← ih d, hboth.1, hboth.2]
    · rw [if_neg (hcond.not.mpr hboth), if_neg hboth, ← ih d]

theorem squeezed_false (text : List UInt8) : squeezed false text = collapsed text := by
  cases text with
  | nil => rfl
  | cons c rest => exact squeezed_eq_collapsed c rest

theorem length_squeezed_le (prev : Bool) (text : List UInt8) : (squeezed prev text).length ≤ text.length := by
  induction text generalizing prev with
  | nil => exact le_refl 0
  | cons c rest ih =>
    unfold squeezed
    by_cases hskip : (prev && decide (c = 47)) = true
    · rw [if_pos hskip]
      exact (ih prev).trans (Nat.le_succ _)
    · rw [if_neg hskip]
      exact Nat.succ_le_succ (ih _)

theorem mem_of_mem_squeezed {c : UInt8} {prev : Bool} {text : List UInt8} (h : c ∈ squeezed prev text) : c ∈ text := by
  induction text generalizing prev with
  | nil => exact h
  | cons d rest ih =>
    unfold squeezed at h
    by_cases hskip : (prev && decide (d = 47)) = true
    · rw [if_pos hskip] at h
      exact List.mem_cons_of_mem _ (ih h)
    · rw [if_neg hskip] at h
      rcases List.mem_cons.mp h with rfl | h
      · exact List.mem_cons_self
      · exact List.mem_cons_of_mem _ (ih h)

/-! ### The slashes -/

/-- The loop squeezes what is left up to the NUL, and leaves what lies behind it. -/
theorem removeSlashes_spec {rest zs : List UInt8} (hnul : 0 ∉ rest) {left i : Nat} (prev : Bool) {url done : List UInt8}
    (hleft : rest.length < left) (hdone : url.take done.length = done) (hi : done.length ≤ i)
    (hrest : url.drop i = rest ++ 0 :: zs) : ∃ url', removeSlashes left i done.length prev url =
        some ((done ++ squeezed prev rest).length, url') ∧
      url'.take (done ++ squeezed prev rest).length = done ++ squeezed prev rest ∧ url'.length = url.length ∧
      url'.drop (i + rest.length) = 0 :: zs := by
  induction rest generalizing left i prev url done with
  | nil =>
    obtain ⟨left, rfl⟩ := Nat.exists_eq_succ_of_ne_zero (Nat.ne_of_gt hleft)
    have hat : url[i]? = some 0 := by
      have := congrArg (·[0]?) hrest
      simpa using this
    unfold removeSlashes squeezed
    rw [hat, List.append_nil]
    exact ⟨url, rfl, hdone, rfl, hrest⟩
  | cons c rest ih =>
    obtain ⟨left, rfl⟩ := Nat.exists_eq_succ_of_ne_zero (Nat.ne_of_gt (Nat.zero_lt_of_lt hleft))
    obtain ⟨hc, hnul⟩ := not_or.mp (List.mem_cons.not.mp hnul)
    have hat : url[i]? = some c := by
      have := congrArg (·[0]?) hrest
      simpa using this
    have hnext : url.drop (i + 1) = rest ++ 0 :: zs := by
      rw [← List.drop_drop, hrest]
      rfl
    have hlen : i < url.length := (List.getElem?_eq_some_iff.mp hat).1
    have hend : i + (c :: rest).length = i + 1 + rest.length := by
      rw [List.length_cons]
      omega
    unfold removeSlashes squeezed
    rw [hat, hend]
    dsimp only
    rw [if_neg (Ne.symm hc)]
    by_cases hskip : (prev && decide (c = 47)) = true
    · rw [if_pos hskip, if_pos hskip]
      exact ih hnul prev (Nat.lt_of_succ_lt_succ hleft) hdone (by omega) hnext
    · have hfits : done.length + [c].length ≤ url.length := Nat.lt_of_le_of_lt hi hlen
      have hstored : Block.store url done.length [c] = some (Block.write url done.length [c]) := if_pos hfits
      have hgrown : done.length + 1 = (done ++ [c]).length := by rw [List.length_append, List.length_singleton]
      have htake : (Block.write url done.length [c]).take (done ++ [c]).length = done ++ [c] := by
        rw [← hgrown]
        exact (Block.take_write hfits).trans (by rw [hdone])
      have hdrop : (Block.write url done.length [c]).drop (i + 1) = rest ++ 0 :: zs := by
        rw [Block.drop_write hfits (Nat.succ_le_succ hi), hnext]
      obtain ⟨url', hloop, hwritten, hlength, hbehind⟩ :=
        ih hnul (decide (c = 47)) (Nat.lt_of_succ_lt_succ hleft) htake (by rw [← hgrown]; omega) hdrop
      rw [if_neg hskip, if_neg hskip, hstored, Option.bind_eq_bind, Option.bind_some, hgrown, hloop]
      rw [List.append_assoc] at hwritten
      exact ⟨url', by rw [List.append_assoc]; rfl, hwritten, hlength.trans (Block.length_write hfits), hbehind⟩
/-! ### The parameters -/

theorem toCInt_natCast {n : Nat} (h : n ≤ intMax) : toCInt (n : Int) = n := by
  have hmax : intMax = 2147483647 := rfl
  unfold toCInt
  rw [Int.bmod_eq_of_le (by omega) (by omega)]

theorem nextInt_natCast {n : Nat} (h : n < intMax) : nextInt (n : Int) = some ((n + 1 : Nat) : Int) := by
  unfold nextInt
  rw [if_neg (by omega)]
  rfl

/-- What is written so far, and zeros. -/
def zeroed (done : List UInt8) (m : Nat) : List UInt8 := done ++ List.replicate m 0

theorem storeAt_zeroed (done bytes : List UInt8) {m : Nat} (h : bytes.length ≤ m) :
    storeAt (zeroed done m) (done.length : Int) bytes = some (zeroed (done ++ bytes) (m - bytes.length)) := by
  unfold storeAt
  rw [if_neg (by omega), Int.toNat_natCast]
  exact Block.store_replicate done bytes 0 h

/-- The index behind a text. -/
theorem toCInt_length (done bytes : List UInt8) (h : done.length + bytes.length ≤ intMax) :
    toCInt ((done.length : Int) + bytes.length) = ((done ++ bytes).length : Int) := by
  have hcast := toCInt_natCast h
  rw [Int.natCast_add] at hcast
  rw [hcast, List.length_append, Int.natCast_add]

/-- The index behind a sign. -/
theorem nextInt_length (done : List UInt8) (c : UInt8) (h : done.length < intMax) :
    nextInt (done.length : Int) = some ((done ++ [c]).length : Int) := by
  rw [nextInt_natCast h, List.length_append, List.length_singleton]

theorem paramsText_cons (head next : BXNetURLParam) (rest : List BXNetURLParam) :
    paramsText (head :: next :: rest) = paramText head ++ 38 :: paramsText (next :: rest) := by
  unfold paramsText
  rw [List.map_cons, List.map_cons, List.intercalate_cons_cons, ← List.map_cons]
  simp

theorem length_pairsText {params : List BXNetURLParam} (hne : params ≠ []) : (paramsText params).length = paramsLen params := by
  induction params with
  | nil => exact absurd rfl hne
  | cons head rest ih =>
    cases rest with
    | nil =>
      simp [paramsText, List.intercalate, paramText, paramsLen]
      omega
    | cons next rest =>
      have hlen : paramsLen (head :: next :: rest) =
        1 + head.name.bytes.length + head.value.bytes.length + (1 + paramsLen (next :: rest)) := rfl
      rw [paramsText_cons, List.length_append, List.length_cons, ih (List.cons_ne_nil _ _), hlen, paramText,
        List.length_append, List.length_cons]
      omega

/-- The pairs are written behind what is there, and every index in between fits in an int. -/
theorem writeParams_spec {params : List BXNetURLParam} (hne : params ≠ []) (done : List UInt8) {m : Nat}
    (hfits : paramsLen params ≤ m) (hint : done.length + paramsLen params ≤ intMax) :
    writeParams params (done.length : Int) (zeroed done m) =
      some (zeroed (done ++ paramsText params) (m - paramsLen params)) := by
  induction params generalizing done m with
  | nil => exact absurd rfl hne
  | cons head rest ih =>
    have hlen : paramsLen (head :: rest) =
      1 + head.name.bytes.length + head.value.bytes.length + ((if rest = [] then 0 else 1) + paramsLen rest) := rfl
    have hpair : done ++ head.name.bytes ++ [61] ++ head.value.bytes = done ++ paramText head := by
      simp [paramText]
    have hpairLen : (done ++ paramText head).length = done.length + head.name.bytes.length + 1 + head.value.bytes.length := by
      rw [← hpair]
      simp
      omega
    have hsigned : (done ++ head.name.bytes ++ [61]).length = done.length + head.name.bytes.length + 1 := by
      simp
      omega
    have hnamed : (done ++ head.name.bytes).length = done.length + head.name.bytes.length := List.length_append
    unfold writeParams
    simp only [Option.bind_eq_bind]
    rw [storeAt_zeroed done _ (by omega), Option.bind_some, toCInt_length done _ (by omega),
      storeAt_zeroed _ [61] (by rw [List.length_singleton]; omega), Option.bind_some, nextInt_length _ 61 (by omega),
      Option.bind_some, storeAt_zeroed _ head.value.bytes (by rw [List.length_singleton]; omega), Option.bind_some,
      toCInt_length _ _ (by omega), hpair]
    cases rest with
    | nil =>
      have hrest : paramsText [head] = paramText head := by simp [paramsText, List.intercalate]
      have hlast : paramsLen [head] = 1 + head.name.bytes.length + head.value.bytes.length := rfl
      dsimp only
      rw [hrest, hlast, List.length_singleton]
      congr 2
      omega
    | cons next rest =>
      rw [if_neg (List.cons_ne_nil _ _)] at hlen
      have hand : done ++ paramText head ++ [38] ++ paramsText (next :: rest) = done ++ paramsText (head :: next :: rest) := by
        rw [paramsText_cons]
        simp
      have handLen : (done ++ paramText head ++ [38]).length = (done ++ paramText head).length + 1 := by
        rw [List.length_append, List.length_singleton]
      dsimp only
      rw [storeAt_zeroed _ [38] (by simp only [List.length_singleton]; omega), Option.bind_some,
        nextInt_length _ 38 (by omega), Option.bind_some, ih (List.cons_ne_nil _ _) (done ++ paramText head ++ [38])
          (by simp only [List.length_singleton]; omega) (by omega), hand, hlen]
      congr 2
      simp only [List.length_singleton]
      omega
/-! ### The URL -/

section

variable (endpoint path : CText) (params : List BXNetURLParam)

/-- The length that the first pass finds. -/
def urlLen : Nat := paramsLen params + (endpoint.bytes.length + 1) + (path.bytes.length + 1)

/-- The endpoint, a slash and the path. -/
def slashed : List UInt8 := endpoint.bytes ++ 47 :: path.bytes

theorem length_slashed : (slashed endpoint path).length = endpoint.bytes.length + (path.bytes.length + 1) := by
  rw [slashed, List.length_append, List.length_cons]

theorem nul_notMem_slashed : 0 ∉ slashed endpoint path := by
  intro h
  rcases List.mem_append.mp h with h | h
  · exact endpoint.ended h
  · rcases List.mem_cons.mp h with h | h
    · cases h
    · exact path.ended h

/-- What is left of it without the slashes. -/
def keptText : List UInt8 :=
  (slashed endpoint path).take (endpoint.bytes.length - 2) ++
    squeezed false ((slashed endpoint path).drop (endpoint.bytes.length - 2))

theorem length_keptText_le : (keptText endpoint path).length ≤ endpoint.bytes.length + (path.bytes.length + 1) := by
  have hrest := length_squeezed_le false ((slashed endpoint path).drop (endpoint.bytes.length - 2))
  rw [List.length_drop, length_slashed] at hrest
  rw [keptText, List.length_append, List.length_take, length_slashed]
  omega

theorem zeroed_nul (done : List UInt8) (m : Nat) : zeroed (done ++ [0]) m = zeroed done (m + 1) := by
  rw [zeroed, zeroed, List.replicate_succ, List.append_assoc, List.singleton_append]

theorem printAddress_zeroed (hfits : urlLen endpoint path params ≤ intMax) :
    printAddress (List.replicate (urlLen endpoint path params + 1) 0) (urlLen endpoint path params) endpoint path =
      some (true, zeroed (slashed endpoint path) (urlLen endpoint path params + 1 - (slashed endpoint path).length)) := by
  have hlen := length_slashed endpoint path
  have hurl : urlLen endpoint path params = paramsLen params + (endpoint.bytes.length + 1) + (path.bytes.length + 1) := rfl
  have hprinted : (slashed endpoint path ++ [0]).length = (slashed endpoint path).length + 1 := by
    rw [List.length_append, List.length_singleton]
  have hstore := Block.store_replicate [] (slashed endpoint path ++ [0]) (0 : UInt8)
    (show (slashed endpoint path ++ [0]).length ≤ urlLen endpoint path params + 1 by omega)
  have hrest : urlLen endpoint path params + 1 - (slashed endpoint path).length =
      urlLen endpoint path params + 1 - ((slashed endpoint path).length + 1) + 1 := by omega
  rw [List.nil_append, List.nil_append, List.length_nil, hprinted] at hstore
  unfold printAddress
  dsimp only
  rw [← slashed, if_neg (by omega), List.take_of_length_le (by omega), hstore, hrest, ← zeroed_nul]
  rfl

/-- The slashes go, and what lies behind the text stays zero. -/
theorem removeSlashes_zeroed (hfits : urlLen endpoint path params ≤ intMax) (hendpoint : 2 ≤ endpoint.bytes.length) :
    ∃ url, removeSlashesFrom (urlLen endpoint path params) (toCInt ((endpoint.bytes.length : Int) - 2))
        (zeroed (slashed endpoint path) (urlLen endpoint path params + 1 - (slashed endpoint path).length)) =
          some (((keptText endpoint path).length : Int), url) ∧
      storeAt url (keptText endpoint path).length
        (List.replicate ((urlLen endpoint path params : Int) - (keptText endpoint path).length).toNat 0) =
          some (zeroed (keptText endpoint path) (urlLen endpoint path params + 1 - (keptText endpoint path).length)) := by
  have hlen := length_slashed endpoint path
  have hkept := length_keptText_le endpoint path
  have hurl : urlLen endpoint path params = paramsLen params + (endpoint.bytes.length + 1) + (path.bytes.length + 1) := rfl
  have hstart : toCInt ((endpoint.bytes.length : Int) - 2) = (endpoint.bytes.length - 2 : Nat) := by
    have hcast : (endpoint.bytes.length : Int) - 2 = (endpoint.bytes.length - 2 : Nat) := by omega
    rw [hcast, toCInt_natCast (by omega)]
  have htake : (zeroed (slashed endpoint path) (urlLen endpoint path params + 1 - (slashed endpoint path).length)).take
      ((slashed endpoint path).take (endpoint.bytes.length - 2)).length =
        (slashed endpoint path).take (endpoint.bytes.length - 2) := by
    rw [zeroed, List.length_take, List.take_append_of_le_length (by omega), List.take_eq_take_iff]
    omega
  have hrest : (zeroed (slashed endpoint path) (urlLen endpoint path params + 1 - (slashed endpoint path).length)).drop
      (endpoint.bytes.length - 2) = (slashed endpoint path).drop (endpoint.bytes.length - 2) ++
        0 :: List.replicate (urlLen endpoint path params - (slashed endpoint path).length) 0 := by
    rw [zeroed, List.drop_append_of_le_length (by omega), ← List.replicate_succ]
    congr 2
    omega
  have hnul : 0 ∉ (slashed endpoint path).drop (endpoint.bytes.length - 2) := fun h =>
    nul_notMem_slashed endpoint path (List.mem_of_mem_drop h)
  have hfront : ((slashed endpoint path).take (endpoint.bytes.length - 2)).length = endpoint.bytes.length - 2 := by
    rw [List.length_take]
    omega
  obtain ⟨url, hloop, hwritten, hsize, hbehind⟩ := removeSlashes_spec hnul false
    (show ((slashed endpoint path).drop (endpoint.bytes.length - 2)).length <
      urlLen endpoint path params - (endpoint.bytes.length - 2) by rw [List.length_drop]; omega) htake (by omega) hrest
  refine ⟨url, ?_, ?_⟩
  · unfold removeSlashesFrom
    rw [hstart, if_neg (by omega), Int.toNat_natCast]
    rw [hfront] at hloop
    rw [hloop]
    rfl
  · have hcount : ((urlLen endpoint path params : Int) - (keptText endpoint path).length).toNat =
        urlLen endpoint path params - (keptText endpoint path).length := by omega
    have hwhole : url.length = urlLen endpoint path params + 1 := by
      rw [hsize, zeroed, List.length_append, List.length_replicate]
      omega
    have hend : endpoint.bytes.length - 2 + ((slashed endpoint path).drop (endpoint.bytes.length - 2)).length =
        (slashed endpoint path).length := by
      rw [List.length_drop]
      omega
    have hlast : url.drop (urlLen endpoint path params) = List.replicate 1 0 := by
      have hsplit : urlLen endpoint path params =
          (slashed endpoint path).length + (urlLen endpoint path params - (slashed endpoint path).length) := by omega
      rw [hend, ← List.replicate_succ] at hbehind
      rw [hsplit, ← List.drop_drop, hbehind, List.drop_replicate]
      congr 1
      omega
    have hfit : (keptText endpoint path).length + (List.replicate (urlLen endpoint path params -
        (keptText endpoint path).length) (0 : UInt8)).length ≤ url.length := by
      rw [List.length_replicate]
      omega
    have hmore : (keptText endpoint path).length + (urlLen endpoint path params - (keptText endpoint path).length) =
        urlLen endpoint path params := by omega
    rw [hcount]
    unfold storeAt Block.store Block.write
    rw [if_neg (by omega), Int.toNat_natCast, if_pos hfit, List.length_replicate, hmore, hlast, List.replicate_append_replicate]
    have hkeptTake : url.take (keptText endpoint path).length = keptText endpoint path := hwritten
    rw [hkeptTake, zeroed]
    congr 3
    omega

theorem urlText_eq : urlText endpoint path params =
    keptText endpoint path ++ if params = [] then [] else 63 :: paramsText params := by
  rw [urlText, keptText, squeezed_false]
  rfl

/-- A URL whose length fits in an int: its text, and zeros up to the end of the block. -/
theorem bxBuildUrl_eq (hfits : urlLen endpoint path params ≤ intMax) (hendpoint : 2 ≤ endpoint.bytes.length) :
    (urlText endpoint path params).length ≤ urlLen endpoint path params ∧
      bxBuildUrl endpoint path params = some (some (zeroed (urlText endpoint path params)
        (urlLen endpoint path params + 1 - (urlText endpoint path params).length))) := by
  have hkept := length_keptText_le endpoint path
  have hurl : urlLen endpoint path params = paramsLen params + (endpoint.bytes.length + 1) + (path.bytes.length + 1) := rfl
  obtain ⟨url, hremoved, hcleared⟩ := removeSlashes_zeroed endpoint path params hfits hendpoint
  obtain ⟨finish, hbuild, hnone, hsome⟩ : ∃ finish : List UInt8 → Option (Option (List UInt8)),
      bxBuildUrl endpoint path params = (storeAt url (keptText endpoint path).length
        (List.replicate ((urlLen endpoint path params : Int) - (keptText endpoint path).length).toNat 0)).bind finish ∧
      (params = [] → finish = fun url => some (some url)) ∧
      (params ≠ [] → finish = fun url => (storeAt url (keptText endpoint path).length [63]).bind fun url =>
        (nextInt (keptText endpoint path).length).bind fun j => (writeParams params j url).map some) := by
    have hprinted := printAddress_zeroed endpoint path params hfits
    apply Exists.intro
    constructor
    · unfold bxBuildUrl
      dsimp only
      unfold urlLen at hprinted hremoved
      rw [hprinted, Option.bind_eq_bind, Option.bind_some]
      dsimp only
      rw [if_neg (show ¬(!true) = true from Bool.false_ne_true), hremoved]
      rfl
    · constructor
      · rintro rfl
        rfl
      · intro hparams
        obtain ⟨head, rest, rfl⟩ := List.exists_cons_of_ne_nil hparams
        rfl
  rw [hbuild, hcleared, Option.bind_some]
  cases params with
  | nil =>
    rw [hnone rfl, urlText_eq, if_pos rfl, List.append_nil]
    exact ⟨by omega, rfl⟩
  | cons head rest =>
    have hpairs := length_pairsText (List.cons_ne_nil head rest)
    have htext : urlText endpoint path (head :: rest) = keptText endpoint path ++ [63] ++ paramsText (head :: rest) := by
      rw [urlText_eq, if_neg (List.cons_ne_nil _ _), List.append_assoc]
      rfl
    have hsign : (keptText endpoint path ++ [63]).length = (keptText endpoint path).length + 1 := by
      rw [List.length_append, List.length_singleton]
    have hlen : (urlText endpoint path (head :: rest)).length = (keptText endpoint path).length + 1 + paramsLen (head :: rest) := by
      rw [htext, List.length_append, hsign, hpairs]
    refine ⟨by omega, ?_⟩
    rw [hsome (List.cons_ne_nil _ _)]
    dsimp only
    rw [storeAt_zeroed _ [63] (by rw [List.length_singleton]; omega), Option.bind_some, nextInt_length _ 63 (by omega),
      Option.bind_some, writeParams_spec (List.cons_ne_nil _ _) _ (by rw [List.length_singleton]; omega) (by omega),
      ← htext, hlen, List.length_singleton]
    rw [Option.map_some]
    congr 3
    omega

theorem nul_notMem_pairsText : 0 ∉ paramsText params := by
  have hpair (param : BXNetURLParam) : 0 ∉ paramText param := by
    intro h
    rcases List.mem_append.mp h with h | h
    · exact param.name.ended h
    · rcases List.mem_cons.mp h with h | h
      · cases h
      · exact param.value.ended h
  induction params with
  | nil => exact List.not_mem_nil
  | cons head rest ih =>
    cases rest with
    | nil =>
      have hlast : paramsText [head] = paramText head := by simp [paramsText, List.intercalate]
      exact hlast ▸ hpair head
    | cons next rest =>
      rw [paramsText_cons]
      intro h
      rcases List.mem_append.mp h with h | h
      · exact hpair head h
      · rcases List.mem_cons.mp h with h | h
        · cases h
        · exact ih h

theorem nul_notMem_urlText : 0 ∉ urlText endpoint path params := by
  rw [urlText_eq]
  intro h
  rcases List.mem_append.mp h with h | h
  · refine nul_notMem_slashed endpoint path ?_
    rcases List.mem_append.mp h with h | h
    · exact List.mem_of_mem_take h
    · exact List.mem_of_mem_drop (mem_of_mem_squeezed h)
  · by_cases hnil : params = []
    · rw [if_pos hnil] at h
      cases h
    · rw [if_neg hnil] at h
      rcases List.mem_cons.mp h with h | h
      · cases h
      · exact nul_notMem_pairsText params h

/-- A scheme, two slashes and a host, and what comes behind it. -/
structure AbsoluteUrl (scheme host url : List UInt8) : Prop where
  scheme_ne : scheme ≠ []
  host_ne : host ≠ []
  host_head : host.head? ≠ some 47
  eq : url = scheme ++ 58 :: 47 :: 47 :: host

/-- The slashes of the scheme lie before the bytes that collapse, or the first of them is kept. -/
theorem scheme_prefix {scheme host : List UInt8} (h : AbsoluteUrl scheme host endpoint.bytes) :
    scheme ++ [58, 47, 47] <+: urlText endpoint path params := by
  obtain ⟨-, hne, hhead, heq⟩ := h
  obtain ⟨c, rest, rfl⟩ := List.exists_cons_of_ne_nil hne
  have hc : c ≠ 47 := fun hc => hhead (congrArg some hc)
  have hlen : endpoint.bytes.length = scheme.length + (rest.length + 4) := by
    rw [heq, List.length_append]
    rfl
  unfold urlText
  cases rest with
  | nil =>
    have htext : endpoint.bytes ++ 47 :: path.bytes = scheme ++ [58, 47] ++ 47 :: c :: 47 :: path.bytes := by
      rw [heq]
      simp
    have hstart : endpoint.bytes.length - 2 = (scheme ++ [58, 47]).length := by
      rw [hlen, List.length_append]
      rfl
    dsimp only
    rw [htext, hstart, List.take_left, List.drop_left, collapsed, if_neg fun h => hc h.2]
    exact ⟨collapsed (c :: 47 :: path.bytes) ++ if params = [] then [] else 63 :: paramsText params, by simp⟩
  | cons d rest =>
    have htext : endpoint.bytes ++ 47 :: path.bytes = scheme ++ [58, 47, 47] ++ (c :: d :: rest ++ 47 :: path.bytes) := by
      rw [heq]
      simp
    have hfront : (scheme ++ [58, 47, 47]).length ≤ endpoint.bytes.length - 2 := by
      rw [hlen, List.length_append]
      simp
      omega
    dsimp only
    rw [htext, List.take_append, List.take_of_length_le hfront, List.append_assoc, List.append_assoc]
    exact List.prefix_append _ _

/-- The URL of an absolute endpoint, as long as its length is an int: the text of the endpoint, the path and the
    parameters, and a NUL in the block. -/
theorem buildUrl {scheme host : List UInt8} (habsolute : AbsoluteUrl scheme host endpoint.bytes)
    (hfits : urlLen endpoint path params ≤ intMax) :
    (∃ m, bxBuildUrl endpoint path params =
      some (some (urlText endpoint path params ++ 0 :: List.replicate m 0))) ∧
      0 ∉ urlText endpoint path params ∧ scheme ++ [58, 47, 47] <+: urlText endpoint path params := by
  have hendpoint : 2 ≤ endpoint.bytes.length := by
    rw [habsolute.eq, List.length_append]
    simp
    omega
  obtain ⟨hlen, hbuild⟩ := bxBuildUrl_eq endpoint path params hfits hendpoint
  refine ⟨⟨urlLen endpoint path params - (urlText endpoint path params).length, ?_⟩,
    nul_notMem_urlText endpoint path params, scheme_prefix endpoint path params habsolute⟩
  rw [hbuild, zeroed, ← List.replicate_succ, Nat.succ_sub hlen]

end

/-- A host of one byte, slashes at both sides of the joint, and two parameters. -/
theorem buildUrl_list :
    (∃ m, bxBuildUrl (.ofString "a://h//") (.ofString "//2.0//contact") [⟨.ofString "limit", .ofString "5"⟩,
      ⟨.ofString "offset", .ofString "0"⟩] =
        some (some (asciiBytes "a://h/2.0/contact?limit=5&offset=0" ++ 0 :: List.replicate m 0))) := by
  have habsolute : AbsoluteUrl (asciiBytes "a") (asciiBytes "h//") (CText.ofString "a://h//").bytes :=
    ⟨by decide, by decide, by decide, by decide⟩
  have htext : urlText (.ofString "a://h//") (.ofString "//2.0//contact") [⟨.ofString "limit", .ofString "5"⟩,
      ⟨.ofString "offset", .ofString "0"⟩] = asciiBytes "a://h/2.0/contact?limit=5&offset=0" := by decide +kernel
  obtain ⟨⟨m, hbuild⟩, -, -⟩ := buildUrl (.ofString "a://h//") (.ofString "//2.0//contact")
    [⟨.ofString "limit", .ofString "5"⟩, ⟨.ofString "offset", .ofString "0"⟩] habsolute (by decide)
  exact ⟨m, by rw [hbuild, htext]⟩

/-- A text that is longer than an int can say is an error of `snprintf`. -/
theorem bxBuildUrl_long (endpoint path : CText) (params : List BXNetURLParam)
    (h : intMax < endpoint.bytes.length + (path.bytes.length + 1)) : bxBuildUrl endpoint path params = some none := by
  have hlen : intMax < (endpoint.bytes ++ 47 :: path.bytes).length := by rwa [List.length_append, List.length_cons]
  unfold bxBuildUrl printAddress
  dsimp only
  rw [if_pos hlen]
  rfl

def longPath (n : Nat) : CText := ⟨List.replicate n 97, fun h => absurd (List.eq_of_mem_replicate h) (by decide)⟩

/-- The path of two gigabytes has no URL. -/
theorem bxBuildUrl_longPath : bxBuildUrl (.ofString "a://h") (longPath (2 ^ 31)) [] = some none := by
  refine bxBuildUrl_long _ _ _ ?_
  have hlen : (longPath (2 ^ 31)).bytes.length = 2 ^ 31 := List.length_replicate
  have hmax : intMax = 2 ^ 31 - 1 := rfl
  rw [hlen, hmax]
  omega

end BxSync
