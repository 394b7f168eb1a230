import BxSync.Transfer

/-! Whether a response can abort the daemon. The buffer of a response exists only once a byte came, and `bx_decode_net`
    asserts that there is one. -/

namespace BxSync

/-! ### The property -/

/-- A request as it may come back from the queue: not at all, cancelled, or with the result of its fetch. -/
def ComesBack (answers : Nat → AttemptAnswers) (finished : Option (BXNetRequest BXNetBuffer)) : Prop :=
  (∀ request ∈ finished, request.cancel = true) ∨ ∃ id, finished = some (putBack id (bxFetch answers))

/-- `bx_do_request` returns a request with its JSON, or NULL. -/
def NeverAborts {J : Type} (jsonLoadb : List UInt8 → Option J) (answers : Nat → AttemptAnswers) : Prop :=
  ∀ finished, ComesBack answers finished → doRequest jsonLoadb finished ≠ .aborted

/-! ### When it holds -/

/-- The write callback takes the chunk whole. -/
def Chunk.Taken (c : Chunk) : Prop := c.bytes = [] ∨ c.grows = true

def Transfer.Succeeds (t : Transfer) : Prop := t.complete = true ∧ ∀ c ∈ t.chunks, c.Taken

def Transfer.body (t : Transfer) : List UInt8 := t.chunks.flatMap Chunk.bytes

def AttemptAnswers.Answered (a : AttemptAnswers) : Prop := a.prepared = true ∧ a.transfer.Succeeds

/-- The response that ends the fetch: the first one unless its status is 401, and else the second one. -/
def EndsFetch (answers : Nat → AttemptAnswers) (t : Transfer) : Prop :=
  (answers 0).Answered ∧
    (((answers 0).transfer.httpCode ≠ 401 ∧ t = (answers 0).transfer) ∨
      ((answers 0).transfer.httpCode = 401 ∧ (answers 1).Answered ∧ t = (answers 1).transfer))

/-- It has a body. -/
def BodyCondition (answers : Nat → AttemptAnswers) : Prop := ∀ t, EndsFetch answers t → t.body ≠ []

/-! ### The transfer -/

/-- The length is that of the bytes. -/
def BXNetBuffer.Consistent (b : BXNetBuffer) : Prop := b.dataLen = (b.data.getD []).length

theorem bxWriteCb_spec {b : BXNetBuffer} (h : b.Consistent) (c : Chunk) :
    ((bxWriteCb c b).1 = c.size * c.nmemb ↔ c.Taken) ∧
      (c.Taken → (bxWriteCb c b).2.Consistent ∧ (bxWriteCb c b).2.dataLen = b.dataLen + c.bytes.length) := by
  obtain ⟨size, nmemb, bytes, grows, hlength⟩ := c
  have hempty : bytes = [] ↔ size * nmemb = 0 := by rw [← hlength, List.length_eq_zero_iff]
  unfold bxWriteCb Chunk.Taken BXNetBuffer.Consistent at *
  dsimp only
  rw [hempty, hlength]
  by_cases hsize : size = 0
  · subst hsize
    simp [h]
  · cases grows with
    | true => simp [hsize, h, hlength]
    | false =>
      rw [if_neg hsize, Bool.not_false, if_pos rfl]
      simp only [Bool.false_eq_true, or_false]
      exact ⟨eq_comm, fun hzero => ⟨h, by rw [hzero, Nat.add_zero]⟩⟩

theorem writeChunks_spec (chunks : List Chunk) {b : BXNetBuffer} (h : b.Consistent) :
    ((writeChunks chunks b).1 = true ↔ ∀ c ∈ chunks, c.Taken) ∧
      ((∀ c ∈ chunks, c.Taken) → (writeChunks chunks b).2.Consistent ∧
        (writeChunks chunks b).2.dataLen = b.dataLen + (chunks.flatMap Chunk.bytes).length) := by
  induction chunks generalizing b with
  | nil => exact ⟨by simp [writeChunks], fun _ => ⟨h, rfl⟩⟩
  | cons c chunks ih =>
    obtain ⟨htaken, hwritten⟩ := bxWriteCb_spec h c
    unfold writeChunks
    dsimp only
    rw [List.forall_mem_cons]
    by_cases hc : c.Taken
    · obtain ⟨hconsistent, hlen⟩ := hwritten hc
      obtain ⟨hrest, hdone⟩ := ih hconsistent
      rw [if_pos (htaken.mpr hc), List.flatMap_cons, List.length_append]
      refine ⟨by rw [hrest]; exact ⟨fun hall => ⟨hc, hall⟩, And.right⟩, fun hall => ?_⟩
      obtain ⟨hconsistent', hlen'⟩ := hdone hall.2
      exact ⟨hconsistent', by rw [hlen', hlen, Nat.add_assoc]⟩
    · rw [if_neg (mt htaken.mp hc)]
      exact ⟨⟨nofun, fun hall => absurd hall.1 hc⟩, fun hall => absurd hall.1 hc⟩

/-! ### The fetch -/

theorem cleared_of_consistent {b : BXNetBuffer} (h : b.Consistent) :
    ({ (if b.data.isSome then { b with data := none, dataLen := 0 } else b) with httpCode := 0 } : BXNetBuffer) = ⟨0, none, 0⟩ := by
  obtain ⟨httpCode, data, dataLen⟩ := b
  cases data with
  | none =>
    have hlen : dataLen = 0 := h
    rw [hlen]
    rfl
  | some data => rfl

/-- One attempt: without an answer the fetch ends, and with one the buffer has its body. -/
theorem bxFetchLoop_attempt (answers : Nat → AttemptAnswers) (left : Nat) {b : BXNetBuffer} (h : b.Consistent) :
    (¬(answers (2 - (left + 1))).Answered → bxFetchLoop answers (left + 1) b = none) ∧
      ((answers (2 - (left + 1))).Answered → ∃ b' : BXNetBuffer, b'.Consistent ∧
        b'.dataLen = (answers (2 - (left + 1))).transfer.body.length ∧
        bxFetchLoop answers (left + 1) b =
          if (answers (2 - (left + 1))).transfer.httpCode ≠ 401 ∨ 2 - (left + 1) = 1 then some b'
          else bxFetchLoop answers left b') := by
  rw [bxFetchLoop]
  dsimp only
  rw [cleared_of_consistent h]
  generalize answers (2 - (left + 1)) = a
  obtain ⟨htaken, hwritten⟩ := writeChunks_spec a.transfer.chunks (b := ⟨0, none, 0⟩) rfl
  have hperformed : (curlEasyPerform a.transfer ⟨0, none, 0⟩).1 = true ↔ a.transfer.Succeeds := by
    unfold curlEasyPerform Transfer.Succeeds
    rw [Bool.and_eq_true, htaken, and_comm]
  unfold AttemptAnswers.Answered
  rw [← hperformed]
  constructor
  · intro hno
    cases hprepared : a.prepared with
    | false => rfl
    | true =>
      have hfailed : (curlEasyPerform a.transfer ⟨0, none, 0⟩).1 = false := by
        rw [← Bool.not_eq_true]
        exact fun hyes => hno ⟨hprepared, hyes⟩
      rw [hfailed]
      rfl
  · rintro ⟨hprepared, hyes⟩
    obtain ⟨hconsistent, hlen⟩ := hwritten (hperformed.mp hyes).2
    refine ⟨{ (curlEasyPerform a.transfer ⟨0, none, 0⟩).2 with httpCode := a.transfer.httpCode }, hconsistent, ?_, ?_⟩
    · exact hlen.trans (Nat.zero_add _)
    · rw [hprepared, hyes]
      rfl

/-- The result of a fetch has the length of the body that ends it. -/
theorem bxFetch_spec (answers : Nat → AttemptAnswers) :
    ((¬∃ t, EndsFetch answers t) ∧ bxFetch answers = none) ∨
      ∃ t b, EndsFetch answers t ∧ bxFetch answers = some b ∧ b.Consistent ∧ b.dataLen = t.body.length := by
  unfold bxFetch EndsFetch
  obtain ⟨hfailed, hanswered⟩ := bxFetchLoop_attempt answers 1 (b := ⟨0, none, 0⟩) rfl
  by_cases hfirst : (answers 0).Answered
  · obtain ⟨b, hconsistent, hlen, hloop⟩ := hanswered hfirst
    rw [hloop]
    by_cases hcode : (answers 0).transfer.httpCode = 401
    · rw [if_neg (by simp [hcode])]
      obtain ⟨hfailed', hanswered'⟩ := bxFetchLoop_attempt answers 0 hconsistent
      by_cases hsecond : (answers 1).Answered
      · obtain ⟨b', hconsistent', hlen', hloop'⟩ := hanswered' hsecond
        rw [hloop', if_pos (Or.inr rfl)]
        exact Or.inr ⟨_, b', ⟨hfirst, Or.inr ⟨hcode, hsecond, rfl⟩⟩, rfl, hconsistent', hlen'⟩
      · refine Or.inl ⟨?_, hfailed' hsecond⟩
        rintro ⟨t, -, ⟨hno, -⟩ | ⟨-, hyes, -⟩⟩
        · exact hno hcode
        · exact hsecond hyes
    · rw [if_pos (Or.inl hcode)]
      exact Or.inr ⟨_, b, ⟨hfirst, Or.inl ⟨hcode, rfl⟩⟩, rfl, hconsistent, hlen⟩
  · exact Or.inl ⟨fun ⟨_, hyes, _⟩ => hfirst hyes, hfailed hfirst⟩

theorem EndsFetch.unique {answers : Nat → AttemptAnswers} {t t' : Transfer} (h : EndsFetch answers t) (h' : EndsFetch answers t') :
    t = t' := by
  obtain ⟨-, ⟨hcode, rfl⟩ | ⟨hcode, -, rfl⟩⟩ := h <;> obtain ⟨-, ⟨hcode', rfl⟩ | ⟨hcode', -, rfl⟩⟩ := h'
  · rfl
  · exact absurd hcode' hcode
  · exact absurd hcode hcode'
  · rfl

/-! ### The request -/

section

variable {J : Type}

theorem doRequest_cancelled (jsonLoadb : List UInt8 → Option J) {finished : Option (BXNetRequest BXNetBuffer)}
    (h : ∀ request ∈ finished, request.cancel = true) : doRequest jsonLoadb finished = .null := by
  cases finished with
  | none => rfl
  | some request =>
    have hcancel := h request rfl
    unfold doRequest
    dsimp only
    rw [hcancel]

/-- A response aborts when it has no byte. -/
theorem doRequest_aborted_iff (jsonLoadb : List UInt8 → Option J) (id : Nat) {b : BXNetBuffer} (h : b.Consistent) :
    doRequest jsonLoadb (some (putBack id (some b))) = .aborted ↔ b.dataLen = 0 := by
  obtain ⟨httpCode, data, dataLen⟩ := b
  unfold doRequest bxDecodeNet putBack
  dsimp only
  rw [Option.isNone_some]
  dsimp only
  by_cases hlen : 0 < dataLen
  · rw [if_neg (not_not.mpr hlen)]
    cases data with
    | none => exact absurd h (Nat.pos_iff_ne_zero.mp hlen)
    | some data =>
      dsimp only
      refine ⟨fun haborted => ?_, fun hzero => absurd hzero (Nat.pos_iff_ne_zero.mp hlen)⟩
      cases hjson : jsonLoadb (data.take dataLen) with
      | none => simp [hjson] at haborted
      | some json => simp [hjson] at haborted
  · rw [if_pos hlen]
    exact ⟨fun _ => Nat.eq_zero_of_not_pos hlen, fun _ => rfl⟩

/-- For every status, every body in any number of chunks, every pair of attempts and every way back from the queue. -/
theorem never_aborts_iff (jsonLoadb : List UInt8 → Option J) (answers : Nat → AttemptAnswers) :
    NeverAborts jsonLoadb answers ↔ BodyCondition answers := by
  rcases bxFetch_spec answers with ⟨hnone, hfetch⟩ | ⟨t, b, hends, hfetch, hconsistent, hlen⟩
  · refine ⟨fun _ t ht => absurd ⟨t, ht⟩ hnone, fun _ finished hback => ?_⟩
    have hcancel : ∀ request ∈ finished, request.cancel = true := by
      rcases hback with hcancel | ⟨id, rfl⟩
      · exact hcancel
      · intro request hrequest
        obtain rfl := Option.some.inj hrequest
        rw [hfetch]
        rfl
    rw [doRequest_cancelled jsonLoadb hcancel]
    exact nofun
  · have hbody : BodyCondition answers ↔ b.dataLen ≠ 0 := by
      rw [hlen, Ne, List.length_eq_zero_iff]
      exact ⟨fun h => h t hends, fun h t' ht' => ht'.unique hends ▸ h⟩
    rw [hbody]
    constructor
    · intro h hzero
      refine h _ (Or.inr ⟨0, rfl⟩) ?_
      rw [hfetch]
      exact (doRequest_aborted_iff jsonLoadb 0 hconsistent).mpr hzero
    · rintro hno finished (hcancel | ⟨id, rfl⟩)
      · rw [doRequest_cancelled jsonLoadb hcancel]
        exact nofun
      · rw [hfetch]
        exact mt (doRequest_aborted_iff jsonLoadb id hconsistent).mp hno

end

/-- The server answers with 204 and no body. -/
def emptyAnswer : AttemptAnswers := ⟨true, ⟨[], 204, true⟩⟩

theorem never_aborts_empty : ¬NeverAborts (fun _ : List UInt8 => some ()) fun _ => emptyAnswer := fun h =>
  h _ (Or.inr ⟨1, rfl⟩) (by decide)

end BxSync
