import VjBlockchain.Crypt.SimpleStreamCipher
/-!
# The key of the code

The class documentation keys the code of a message with the cipher's own
key. Both native methods key it with the session key, which travels in front
of the message, wrapped under the cipher's own key. The two are the same key
only in a message that wraps the cipher's key under itself.

A session key that becomes known therefore makes messages: put behind the
octets that wrapped it, any plaintext can be masked and coded with it, and
the cipher takes the result.
-/

namespace VjBlockchain

open Common Common.Bytes Common.Throwing

namespace SimpleStreamCipher

variable {S : CryptoSuite}

/-- **Codes tell keys apart.** -/
def CodesTellKeys (S : CryptoSuite) : Prop :=
  ∀ {k k' d : Bytes}, k.length = 32 → k'.length = 32 → S.mac.mac k d = S.mac.mac k' d → k = k'

/-- The octets in front of a message wrap `sessionKey` under `key`. -/
def Wraps (V : Vccrypt) (key sessionKey front : Bytes) : Prop :=
  ∃ iv k₁ k₂, iv.length = 16 ∧ k₁.length = 16 ∧ k₂.length = 16 ∧ sessionKey = k₁ ++ k₂ ∧
    front = wrapKey V key iv k₁ k₂

/-- The last octets of a message are the code, under `key`, of all octets
before them. -/
def CodedUnder (S : CryptoSuite) (key m : Bytes) : Prop :=
  m.drop (m.length - MAC_SIZE) = S.mac.mac key (m.take (m.length - MAC_SIZE))

/-- **A message made without the cipher's key**: from a wrapped session key,
and that key. -/
def forge (S : CryptoSuite) (front sessionKey streamIv p : Bytes) : Bytes :=
  let body := front ++ (streamIv ++ xorAt (S.stream.keystream sessionKey streamIv) 0 p)
  body ++ S.mac.mac sessionKey body

/-! ## Wrapped keys -/

/-- A wrapping determines what it wraps. -/
theorem wrapKey_inj {V : Vccrypt} (hV : V.Lawful) {key iv iv' k₁ k₁' k₂ k₂' : Bytes}
    (hiv : iv.length = 16) (hiv' : iv'.length = 16) (h₁ : k₁.length = 16) (h₁' : k₁'.length = 16)
    (h₂ : k₂.length = 16) (h₂' : k₂'.length = 16)
    (h : wrapKey V key iv k₁ k₂ = wrapKey V key iv' k₁' k₂') : k₁ = k₁' ∧ k₂ = k₂' := by
  obtain ⟨rfl, hblocks⟩ := List.append_inj h (hiv.trans hiv'.symm)
  obtain ⟨hfirst, hsecond⟩ := List.append_inj hblocks
    ((length_enc_block hV key iv h₁).trans (length_enc_block hV key iv h₁').symm)
  have hblock : ∀ {c b b' : Bytes}, b.length = 16 → b'.length = 16 →
      V.block.enc key c b = V.block.enc key c b' → b = b' := by
    intro c b b' hb hb' henc
    rw [← hV.block.dec_enc key (c := c) (hb.trans hV.blockSize.symm), henc,
      hV.block.dec_enc key (hb'.trans hV.blockSize.symm)]
  have hhead := hblock h₁ h₁' hfirst
  subst hhead
  exact ⟨rfl, hblock h₂ h₂' hsecond⟩

section Accepted

variable (hS : S.Lawful) (cipher : SimpleStreamCipher S)
include hS

/-- **The regions of an accepted message.** -/
theorem regions_of_decrypt {m p : Bytes} (hm : m.length < 2 ^ 31) (h : cipher.decrypt m = .ok p) :
    ∃ iv k₁ k₂ streamIv masked, iv.length = 16 ∧ k₁.length = 16 ∧ k₂.length = 16 ∧
      streamIv.length = 8 ∧ m = covered S cipher.key.rawBytes iv k₁ k₂ streamIv masked ++
        S.mac.mac (k₁ ++ k₂) (covered S cipher.key.rawBytes iv k₁ k₂ streamIv masked) := by
  have hlong : 120 ≤ m.length := by
    by_contra hshort
    cases h.symm.trans (decrypt_short cipher (by omega))
  obtain ⟨iv, k₁, k₂, streamIv, masked, code, hiv, h₁, h₂, hstream, hcode, hmasked, rfl⟩ :=
    exists_regions hS cipher.key.rawBytes hlong
  rw [decrypt_eq hS cipher hiv h₁ h₂ hstream masked hcode (by omega)] at h
  by_cases hmac : S.mac.mac (k₁ ++ k₂)
      (covered S cipher.key.rawBytes iv k₁ k₂ streamIv masked) = code
  · exact ⟨iv, k₁, k₂, streamIv, masked, hiv, h₁, h₂, hstream, by rw [hmac]⟩
  · rw [if_neg hmac] at h
    cases h

/-- The code at the end, and what is in front of it. -/
theorem codedUnder_iff {key sessionKey body : Bytes} :
    CodedUnder S key (body ++ S.mac.mac sessionKey body) ↔
      S.mac.mac sessionKey body = S.mac.mac key body := by
  have hcode : (S.mac.mac sessionKey body).length = 64 :=
    (hS.mac.length_mac ..).trans hS.macSize
  have hfront : (body ++ S.mac.mac sessionKey body).length - MAC_SIZE = body.length := by
    rw [List.length_append, hcode]
    rfl
  rw [CodedUnder, hfront, List.drop_left, List.take_left]

/-- **A forged message is accepted**, in front of it the octets that wrap the
session key. -/
theorem decrypt_forge {front sessionKey streamIv q : Bytes}
    (hwraps : Wraps S.toVccrypt cipher.key.rawBytes sessionKey front)
    (hstream : streamIv.length = 8) (hq : q.length + 120 < 2 ^ 31) :
    cipher.decrypt (forge S front sessionKey streamIv q) = .ok q := by
  obtain ⟨iv, k₁, k₂, hiv, h₁, h₂, rfl, rfl⟩ := hwraps
  have hcode := (hS.mac.length_mac (k₁ ++ k₂) (covered S cipher.key.rawBytes iv k₁ k₂ streamIv
    (xorAt (S.stream.keystream (k₁ ++ k₂) streamIv) 0 q))).trans hS.macSize
  have hdecrypt := decrypt_eq hS cipher hiv h₁ h₂ hstream
    (xorAt (S.stream.keystream (k₁ ++ k₂) streamIv) 0 q) hcode (by rwa [length_xorAt])
  rw [if_pos rfl, xorAt_xorAt] at hdecrypt
  exact hdecrypt

end Accepted

/-- In the open, codes tell keys apart. -/
theorem codesTellKeys_open : CodesTellKeys XorSuite.cryptoSuite := by
  intro k k' d hk hk' h
  have hlt : ∀ {k : Bytes}, k.length = 32 → ofBE k < 256 ^ 64 := by
    intro k hk
    have := ofBE_lt k
    rw [hk] at this
    exact this.trans (by decide)
  have hsum : (ofBE k + 31 * ofBE d + d.length) % 256 ^ 64 =
      (ofBE k' + 31 * ofBE d + d.length) % 256 ^ 64 := by
    rw [← ofBE_toBE_mod, ← ofBE_toBE_mod]
    exact congrArg ofBE h
  have hmod := Nat.ModEq.add_right_cancel' _ (Nat.ModEq.add_right_cancel' _ hsum)
  exact ofBE_injective (hk.trans hk'.symm) (hmod.eq_of_lt_of_lt (hlt hk) (hlt hk'))

/-- **When a message is coded under the cipher's own key**: if and only if
what it wraps is that key. Whatever it wraps is the key of its code, and
makes further messages that the cipher accepts. -/
theorem coded_under_own_key_iff (hS : S.Lawful) (hkeys : CodesTellKeys S)
    (cipher : SimpleStreamCipher S) {m p : Bytes} (hm : m.length < 2 ^ 31)
    (h : cipher.decrypt m = .ok p) :
    (CodedUnder S cipher.key.rawBytes m ↔
      Wraps S.toVccrypt cipher.key.rawBytes cipher.key.rawBytes (m.take 48)) ∧
    ∃ sessionKey, Wraps S.toVccrypt cipher.key.rawBytes sessionKey (m.take 48) ∧
      CodedUnder S sessionKey m ∧
      ∀ streamIv q : Bytes, streamIv.length = 8 → q.length + 120 < 2 ^ 31 →
        cipher.decrypt (forge S (m.take 48) sessionKey streamIv q) = .ok q := by
  obtain ⟨iv, k₁, k₂, streamIv, masked, hiv, h₁, h₂, hstream, rfl⟩ :=
    regions_of_decrypt hS cipher hm h
  have hwrap := length_wrapKey hS.vccrypt hiv h₁ h₂ cipher.key.rawBytes
  have hfront : (covered S cipher.key.rawBytes iv k₁ k₂ streamIv masked ++
      S.mac.mac (k₁ ++ k₂) (covered S cipher.key.rawBytes iv k₁ k₂ streamIv masked)).take 48 =
      wrapKey S.toVccrypt cipher.key.rawBytes iv k₁ k₂ := by
    rw [covered_append, List.take_left' hwrap]
  have hwraps : Wraps S.toVccrypt cipher.key.rawBytes (k₁ ++ k₂)
      (wrapKey S.toVccrypt cipher.key.rawBytes iv k₁ k₂) :=
    ⟨iv, k₁, k₂, hiv, h₁, h₂, rfl, rfl⟩
  have hkey : (k₁ ++ k₂).length = 32 := by rw [List.length_append, h₁, h₂]
  rw [hfront]
  refine ⟨?_, k₁ ++ k₂, hwraps, (codedUnder_iff hS).mpr rfl, ?_⟩
  · rw [codedUnder_iff hS]
    constructor
    · intro hmac
      rw [← hkeys hkey (cipher.key.length_rawBytes.trans hS.vccrypt.streamKey) hmac] at hwraps ⊢
      exact hwraps
    · rintro ⟨iv', k₁', k₂', hiv', h₁', h₂', hown, hsame⟩
      obtain ⟨rfl, rfl⟩ := wrapKey_inj hS.vccrypt hiv hiv' h₁ h₁' h₂ h₂' hsame
      rw [hown]
  · exact fun streamIv q hstream hq => decrypt_forge hS cipher hwraps hstream hq

/-- A message in the open, to a cipher of 32 zeros, that wraps `k₁` and `k₂`
and says `[1, 2, 3]`. -/
def openMessage (k₁ k₂ : Bytes) : Bytes :=
  forge XorSuite.cryptoSuite (wrapKey XorSuite.suite (zeros 32) (zeros 16) k₁ k₂) (k₁ ++ k₂)
    (zeros 8) [1, 2, 3]

/-- A message that wraps the cipher's key is coded under it. -/
theorem coded_under_own_key_open :
    CodedUnder XorSuite.cryptoSuite (zeros 32) (openMessage (zeros 16) (zeros 16)) := by
  have hdecrypt : decrypt (S := XorSuite.cryptoSuite) ⟨zeros 32, rfl⟩
      (openMessage (zeros 16) (zeros 16)) = .ok [1, 2, 3] := by decide +kernel
  obtain ⟨hiff, -⟩ := coded_under_own_key_iff XorSuite.cryptoSuite_lawful codesTellKeys_open
    ⟨zeros 32, rfl⟩ (by decide +kernel) hdecrypt
  exact hiff.mpr ⟨zeros 16, zeros 16, zeros 16, rfl, rfl, rfl, rfl, by decide +kernel⟩

/-- **A message is not coded under the cipher's key** if it wraps another one;
and who knows that other key makes messages. -/
theorem not_coded_under_own_key :
    CodesTellKeys XorSuite.cryptoSuite ∧
    decrypt (S := XorSuite.cryptoSuite) ⟨zeros 32, rfl⟩
      (openMessage (zeros 16) (1 :: zeros 15)) = .ok [1, 2, 3] ∧
    ¬CodedUnder XorSuite.cryptoSuite (zeros 32) (openMessage (zeros 16) (1 :: zeros 15)) ∧
    decrypt (S := XorSuite.cryptoSuite) ⟨zeros 32, rfl⟩ (forge XorSuite.cryptoSuite
      ((openMessage (zeros 16) (1 :: zeros 15)).take 48) (zeros 16 ++ 1 :: zeros 15) (zeros 8)
      [9]) = .ok [9] := by
  refine ⟨codesTellKeys_open, by decide +kernel, ?_, by decide +kernel⟩
  unfold CodedUnder
  decide +kernel

end SimpleStreamCipher

end VjBlockchain
