import VjBlockchain.Crypt.KeyWrap
import VjBlockchain.Crypt.XorSuite
/-!
# The simple stream cipher — a sealed message

A message has five regions: the vector of the session key, the session key
wrapped under the cipher's own key, the vector of the stream, the masked
plaintext, and the code of all that. `encrypt` digests the first two regions
and the next two in separate calls; `decrypt` digests everything in front of
the code in one.

Both directions meet at `covered`, the octets in front of the code. Every
array long enough splits into these five regions, since the block cipher is
a bijection; `decrypt` returns on those whose code is right, and `encrypt`
with the draws that can be read off them produces the same octets again.
-/

namespace VjBlockchain

open Common Common.Bytes Common.Throwing

variable (S : CryptoSuite)

/-- A `Key`, of the size its constructor has verified. -/
structure Key where
  rawBytes : Bytes
  length_rawBytes : rawBytes.length = S.stream.keySize

/-- A cipher is its key. -/
structure SimpleStreamCipher where
  key : Key S

namespace SimpleStreamCipher

def KEY_IV_SIZE : ℕ := 16
def KEY_SIZE : ℕ := 32
def IV_SIZE : ℕ := 8
def MAC_SIZE : ℕ := 64

/-- What `encryptNative` draws from the generator. -/
structure Draws where
  sessionKey : Bytes
  sessionIv : Bytes
  streamIv : Bytes
  length_sessionKey : sessionKey.length = 32
  length_sessionIv : sessionIv.length = 16
  length_streamIv : streamIv.length = 8

variable {S}

/-- `encryptNative`. -/
def encrypt (cipher : SimpleStreamCipher S) (draws : Draws) (input : Bytes) :
    Except Fault Bytes := do
  let out ← newByteArray (KEY_IV_SIZE + KEY_SIZE + IV_SIZE + input.length + MAC_SIZE)
    "bad outputArray alloc."
  let mac ← orThrow (S.mac.init draws.sessionKey) (.illegalState "mac init failure.")
  let block ← orThrow (S.block.init cipher.key.rawBytes true)
    (.illegalState "block cipher init failure.")
  let out ← orThrow (Buffer.write out 0 draws.sessionIv) .outOfBounds
  let out ← blockEncryptChained S.toVccrypt block draws.sessionIv draws.sessionKey out 0 16
    "block cipher encrypt failure."
  let out ← blockEncrypt S.toVccrypt block draws.sessionKey out 16 16 32
    "block cipher encrypt failure."
  let front ← orThrow (Buffer.read out 0 48) .outOfBounds
  let mac ← orThrow (S.mac.digest mac front) (.illegalState "message digest failure.")
  let stream ← orThrow (S.stream.init draws.sessionKey)
    (.illegalState "stream cipher init failure.")
  let (header, stream) ← orThrow (S.stream.startEncryption stream draws.streamIv)
    (.illegalState "stream cipher start encryption failure.")
  let out ← orThrow (Buffer.write out 48 header) .outOfBounds
  let (_, out, offset) ← streamEncrypt S.toVccrypt stream input out 48 header.length
    "stream cipher encryption failure."
  let body ← orThrow (Buffer.read out 48 offset) .outOfBounds
  let mac ← orThrow (S.mac.digest mac body) (.illegalState "message digest failure.")
  let code ← orThrow (S.mac.finalize mac) (.illegalState "mac finalize failure.")
  orThrow (Buffer.write out (48 + offset) code) .outOfBounds

/-- `decryptNative`. -/
def decrypt (cipher : SimpleStreamCipher S) (input : Bytes) : Except Fault Bytes := do
  let envelopeSize := KEY_IV_SIZE + KEY_SIZE + IV_SIZE + MAC_SIZE
  check (¬input.length < envelopeSize) (.java .messageAuthenticationException "bad message size.")
  let plaintextSize := input.length - envelopeSize
  let out ← newByteArray plaintextSize "bad outputArray alloc."
  let block ← orThrow (S.block.init cipher.key.rawBytes false)
    (.illegalState "block cipher init failure.")
  let sessionKey ← blockDecrypt S.toVccrypt block input (zeros KEY_SIZE) 0 16 0
    "block cipher decrypt failure."
  let sessionKey ← blockDecrypt S.toVccrypt block input sessionKey 16 32 16
    "block cipher decrypt failure."
  let mac ← orThrow (S.mac.init sessionKey) (.illegalState "mac init failure.")
  let front ← orThrow (Buffer.read input 0 (input.length - MAC_SIZE)) .outOfBounds
  let mac ← orThrow (S.mac.digest mac front) (.illegalState "message digest failure.")
  let code ← orThrow (S.mac.finalize mac) (.illegalState "mac finalize failure.")
  let expected ← orThrow (Buffer.read code 0 MAC_SIZE) .outOfBounds
  let received ← orThrow (Buffer.read input (input.length - MAC_SIZE) MAC_SIZE) .outOfBounds
  check (expected = received) (.java .messageAuthenticationException "bad message.")
  let stream ← orThrow (S.stream.init sessionKey) (.illegalState "stream cipher init failure.")
  let stream ← orThrow (S.stream.startDecryption stream (input.drop (KEY_IV_SIZE + KEY_SIZE)))
    (.illegalState "stream cipher start decryption failure.")
  let masked ← orThrow (Buffer.read input (KEY_IV_SIZE + KEY_SIZE + 8) plaintextSize) .outOfBounds
  let (_, out, _) ← streamDecrypt S.toVccrypt stream masked out 0 0
    "stream cipher decryption failure."
  .ok out

/-! ## Messages -/

/-- **The octets a code covers**: vector and wrapped session key, vector and
masked plaintext. -/
def covered (S : CryptoSuite) (key iv k₁ k₂ streamIv masked : Bytes) : Bytes :=
  wrapKey S.toVccrypt key iv k₁ k₂ ++ (streamIv ++ masked)

theorem covered_append (S : CryptoSuite) (key iv k₁ k₂ streamIv masked code : Bytes) :
    covered S key iv k₁ k₂ streamIv masked ++ code =
      wrapKey S.toVccrypt key iv k₁ k₂ ++ (streamIv ++ (masked ++ code)) := by
  rw [covered, List.append_assoc, List.append_assoc]

section Calls

variable (hS : S.Lawful) (cipher : SimpleStreamCipher S) {iv k₁ k₂ streamIv : Bytes}
  (hiv : iv.length = 16) (h₁ : k₁.length = 16) (h₂ : k₂.length = 16)
  (hstream : streamIv.length = 8)
include hS hiv h₁ h₂ hstream

theorem length_covered (key masked : Bytes) :
    (covered S key iv k₁ k₂ streamIv masked).length = 56 + masked.length := by
  have hwrap := length_wrapKey hS.vccrypt hiv h₁ h₂ key
  rw [covered, List.length_append, List.length_append, hwrap, hstream]
  omega

/-- **What `encrypt` produces**: the octets covered, and their code. -/
theorem encrypt_eq (hkey : (k₁ ++ k₂).length = 32) {input : Bytes}
    (hinput : input.length + 120 < 2 ^ 31) :
    cipher.encrypt ⟨k₁ ++ k₂, iv, streamIv, hkey, hiv, hstream⟩ input =
      .ok (covered S cipher.key.rawBytes iv k₁ k₂ streamIv
          (xorAt (S.stream.keystream (k₁ ++ k₂) streamIv) 0 input) ++
        S.mac.mac (k₁ ++ k₂) (covered S cipher.key.rawBytes iv k₁ k₂ streamIv
          (xorAt (S.stream.keystream (k₁ ++ k₂) streamIv) 0 input))) := by
  have hV := hS.vccrypt
  obtain ⟨mac, hmac⟩ := hS.mac.init_total (hkey.trans hS.macKey.symm)
  obtain ⟨block, hblock⟩ := hV.block.init_total true
    ((cipher.key.length_rawBytes.trans hV.streamKey).trans hV.blockKey.symm)
  obtain ⟨hblockKey, hdir⟩ := hV.block.init_key hblock
  -- the first two regions
  have hout : Buffer.write (zeros (input.length + 120)) 0 iv =
      some (iv ++ zeros (32 + (input.length + 72))) := by
    rw [Buffer.write_fresh (by omega), hiv]
    congr 3
    omega
  obtain ⟨out, hstep₁, hstep₂⟩ := blockEncrypt_pair hV hiv h₁ h₂ hdir (input.length + 72)
    "block cipher encrypt failure." "block cipher encrypt failure."
  rw [blockEncrypt_read (Buffer.read_left hiv)] at hstep₁
  rw [hblockKey] at hstep₂
  have hwrap := length_wrapKey hV hiv h₁ h₂ cipher.key.rawBytes
  set wrap := wrapKey S.toVccrypt cipher.key.rawBytes iv k₁ k₂
  have hfront : Buffer.read (wrap ++ zeros (input.length + 72)) 0 48 = some wrap :=
    Buffer.read_left hwrap
  -- the next two, right behind
  obtain ⟨stream, stream₁, stream₂, hinit, hstart, hheader, hencrypt⟩ :=
    startEncryption_streamEncrypt hV hkey hstream input wrap 48 64
      "stream cipher encryption failure." hwrap
  have hroom : 8 + (input.length + 64) = input.length + 72 := by omega
  rw [hroom] at hheader
  set masked := xorAt (S.stream.keystream (k₁ ++ k₂) streamIv) 0 input
  have hlen : masked.length = input.length := length_xorAt ..
  have hbody : Buffer.read (wrap ++ streamIv ++ masked ++ zeros 64) 48 (8 + input.length) =
      some (streamIv ++ masked) := by
    rw [List.append_assoc, List.append_assoc, ← List.append_assoc streamIv]
    exact Buffer.read_mid hwrap (by rw [List.length_append, hlen, hstream])
  -- the code of both pieces
  obtain ⟨mac₁, mac₂, hdigest₁, hdigest₂, hfinalize⟩ :=
    hS.mac.digest_two hmac wrap (streamIv ++ masked)
  set code := S.mac.mac (k₁ ++ k₂) (wrap ++ (streamIv ++ masked))
  have hcode : Buffer.write (wrap ++ streamIv ++ masked ++ zeros 64) (48 + (8 + input.length))
      code = some (wrap ++ streamIv ++ masked ++ code) :=
    Buffer.write_last
      (by rw [List.length_append, List.length_append, hwrap, hstream, hlen, Nat.add_assoc])
      ((hS.mac.length_mac ..).trans hS.macSize)
  have hsize : KEY_IV_SIZE + KEY_SIZE + IV_SIZE + input.length + MAC_SIZE =
      input.length + 120 := by
    unfold KEY_IV_SIZE KEY_SIZE IV_SIZE MAC_SIZE
    omega
  rw [encrypt, hsize, newByteArray_eq hinput, ok_bind]
  dsimp only
  rw [orThrow_bind hmac, orThrow_bind hblock, orThrow_bind hout, bind_ok hstep₁, bind_ok hstep₂,
    orThrow_bind hfront, orThrow_bind hdigest₁, orThrow_bind hinit, orThrow_bind hstart]
  dsimp only
  rw [orThrow_bind hheader, hstream, bind_ok hencrypt]
  dsimp only
  rw [orThrow_bind hbody, orThrow_bind hdigest₂, orThrow_bind hfinalize, hcode, orThrow_some,
    covered, List.append_assoc wrap]

/-- **What `decrypt` does with a message** of five regions: it unmasks the
fourth, provided the fifth is the code of the others. -/
theorem decrypt_eq (masked : Bytes) {code : Bytes} (hcode : code.length = 64)
    (hm : masked.length + 120 < 2 ^ 31) :
    cipher.decrypt (covered S cipher.key.rawBytes iv k₁ k₂ streamIv masked ++ code) =
      if S.mac.mac (k₁ ++ k₂) (covered S cipher.key.rawBytes iv k₁ k₂ streamIv masked) = code then
        .ok (xorAt (S.stream.keystream (k₁ ++ k₂) streamIv) 0 masked)
      else .error (.java .messageAuthenticationException "bad message.") := by
  have hV := hS.vccrypt
  have hkey : (k₁ ++ k₂).length = 32 := by rw [List.length_append, h₁, h₂]
  have hlen := length_covered hS hiv h₁ h₂ hstream cipher.key.rawBytes masked
  have hwrap := length_wrapKey hV hiv h₁ h₂ cipher.key.rawBytes
  have hfront : Buffer.read (covered S cipher.key.rawBytes iv k₁ k₂ streamIv masked ++ code) 0
      (56 + masked.length) = some (covered S cipher.key.rawBytes iv k₁ k₂ streamIv masked) :=
    Buffer.read_left hlen
  have hreceived : Buffer.read (covered S cipher.key.rawBytes iv k₁ k₂ streamIv masked ++ code)
      (56 + masked.length) 64 = some code := Buffer.read_right hlen hcode
  have hmasked : Buffer.read (covered S cipher.key.rawBytes iv k₁ k₂ streamIv masked ++ code) 56
      masked.length = some masked := by
    rw [covered_append, ← List.append_assoc]
    exact Buffer.read_mid (by rw [List.length_append, hwrap, hstream]) rfl
  have hdrop : (covered S cipher.key.rawBytes iv k₁ k₂ streamIv masked ++ code).drop 48 =
      streamIv ++ (masked ++ code) := by
    rw [covered_append, List.drop_left' hwrap]
  have hsize : (covered S cipher.key.rawBytes iv k₁ k₂ streamIv masked ++ code).length =
      masked.length + 120 := by
    rw [List.length_append, hlen, hcode]
    omega
  -- the session key
  obtain ⟨block, hblock⟩ := hV.block.init_total false
    ((cipher.key.length_rawBytes.trans hV.streamKey).trans hV.blockKey.symm)
  obtain ⟨hblockKey, hdir⟩ := hV.block.init_key hblock
  obtain ⟨out, hstep₁, hstep₂⟩ := blockDecrypt_pair hV hiv h₁ h₂ hdir
    (streamIv ++ (masked ++ code)) "block cipher decrypt failure." "block cipher decrypt failure."
  rw [hblockKey, ← covered_append] at hstep₁ hstep₂
  -- the code
  obtain ⟨mac, hmac⟩ := hS.mac.init_total (hkey.trans hS.macKey.symm)
  set front := covered S cipher.key.rawBytes iv k₁ k₂ streamIv masked
  obtain ⟨mac', hdigest, hfinalize⟩ := hS.mac.digest_one hmac front
  have hexpected : Buffer.read (S.mac.mac (k₁ ++ k₂) front) 0 64 =
      some (S.mac.mac (k₁ ++ k₂) front) :=
    Buffer.read_all ((hS.mac.length_mac ..).trans hS.macSize)
  -- the plaintext
  obtain ⟨stream, stream₁, stream₂, hinit, hstart, hdecrypt⟩ :=
    startDecryption_streamDecrypt hV hkey hstream masked code "stream cipher decryption failure."
  have hbefore : masked.length + 120 - 64 = 56 + masked.length := by omega
  unfold decrypt KEY_IV_SIZE KEY_SIZE IV_SIZE MAC_SIZE
  simp only [hsize, Nat.reduceAdd]
  rw [check_pos (by omega), ok_bind, Nat.add_sub_cancel, newByteArray_eq (by omega), ok_bind,
    orThrow_bind hblock, bind_ok hstep₁, bind_ok hstep₂, orThrow_bind hmac, hbefore,
    orThrow_bind hfront, orThrow_bind hdigest, orThrow_bind hfinalize, orThrow_bind hexpected,
    orThrow_bind hreceived]
  by_cases hauthentic : S.mac.mac (k₁ ++ k₂) front = code
  · rw [check_pos hauthentic, if_pos hauthentic, ok_bind, orThrow_bind hinit, hdrop,
      orThrow_bind hstart, orThrow_bind hmasked, bind_ok hdecrypt]
  · rw [check_neg hauthentic, if_neg hauthentic, error_bind]

end Calls

/-! ## What is accepted -/

section Accept

variable (hS : S.Lawful) (cipher : SimpleStreamCipher S)

theorem decrypt_short {m : Bytes} (h : m.length < 120) :
    cipher.decrypt m = .error (.java .messageAuthenticationException "bad message size.") := by
  unfold decrypt KEY_IV_SIZE KEY_SIZE IV_SIZE MAC_SIZE
  dsimp only
  rw [check_neg (by omega), error_bind]

/-- A plaintext whose message would not fit an array is refused. -/
theorem lt_of_encrypt {draws : Draws} {p m : Bytes} (hp : p.length < 2 ^ 31)
    (h : cipher.encrypt draws p = .ok m) : p.length + 120 < 2 ^ 31 := by
  obtain ⟨_, hout, -⟩ := bind_eq_ok_iff.mp h
  have hsize := lt_of_newByteArray (by unfold KEY_IV_SIZE KEY_SIZE IV_SIZE MAC_SIZE; omega) hout
  unfold KEY_IV_SIZE KEY_SIZE IV_SIZE MAC_SIZE at hsize
  omega

include hS

/-- **Five regions.** An array that is long enough is a vector and a wrapped
session key, a vector and a masked plaintext, and a code. -/
theorem exists_regions (key : Bytes) {m : Bytes} (h : 120 ≤ m.length) :
    ∃ iv k₁ k₂ streamIv masked code, iv.length = 16 ∧ k₁.length = 16 ∧ k₂.length = 16 ∧
      streamIv.length = 8 ∧ code.length = 64 ∧ masked.length + 120 = m.length ∧
      m = covered S key iv k₁ k₂ streamIv masked ++ code := by
  obtain ⟨front, code, hfront, hcode, rfl⟩ := exists_cut m (m.length - 64) (by omega)
  obtain ⟨wrap, stream, hwrap, hstream, rfl⟩ := exists_cut front 48 (by omega)
  obtain ⟨streamIv, masked, hiv, hmasked, rfl⟩ := exists_cut stream 8 (by omega)
  obtain ⟨iv, k₁, k₂, hiv₁₆, h₁, h₂, rfl⟩ := exists_wrapKey hS.vccrypt hS.onto key hwrap
  refine ⟨iv, k₁, k₂, streamIv, masked, code, hiv₁₆, h₁, h₂, hiv, by omega, by omega, rfl⟩

/-- `encrypt` returns a message that `decrypt` undoes. -/
theorem decrypt_of_encrypt (draws : Draws) {p m : Bytes} (hp : p.length + 120 < 2 ^ 31)
    (h : cipher.encrypt draws p = .ok m) : cipher.decrypt m = .ok p := by
  obtain ⟨sessionKey, sessionIv, streamIv, hkey, hiv, hstream⟩ := draws
  obtain ⟨k₁, k₂, h₁, h₂, rfl⟩ := exists_cut sessionKey 16 (by omega)
  have h₂ : k₂.length = 16 := by omega
  obtain rfl := Except.ok.inj ((encrypt_eq hS cipher hiv h₁ h₂ hstream hkey hp).symm.trans h)
  rw [decrypt_eq hS cipher hiv h₁ h₂ hstream _ ((hS.mac.length_mac ..).trans hS.macSize)
    (by rwa [length_xorAt]), if_pos rfl, xorAt_xorAt]

/-- **A message that `decrypt` takes is one that `encrypt` makes**, from the
draws read off it; any other long enough is a bad one. -/
theorem decrypt_cases {m : Bytes} (hm : m.length < 2 ^ 31) (h : 120 ≤ m.length) :
    (∃ draws p, p.length + 120 < 2 ^ 31 ∧ cipher.encrypt draws p = .ok m ∧
      cipher.decrypt m = .ok p) ∨
    cipher.decrypt m = .error (.java .messageAuthenticationException "bad message.") := by
  obtain ⟨iv, k₁, k₂, streamIv, masked, code, hiv, h₁, h₂, hstream, hcode, hmasked, rfl⟩ :=
    exists_regions hS cipher.key.rawBytes h
  have hkey : (k₁ ++ k₂).length = 32 := by rw [List.length_append, h₁, h₂]
  have hdecrypt := decrypt_eq hS cipher hiv h₁ h₂ hstream masked hcode (by omega)
  by_cases hauthentic : S.mac.mac (k₁ ++ k₂)
      (covered S cipher.key.rawBytes iv k₁ k₂ streamIv masked) = code
  · refine .inl ⟨⟨k₁ ++ k₂, iv, streamIv, hkey, hiv, hstream⟩, _, ?_, ?_,
      hdecrypt.trans (if_pos hauthentic)⟩
    · rw [length_xorAt]
      omega
    · rw [encrypt_eq hS cipher hiv h₁ h₂ hstream hkey (by rw [length_xorAt]; omega), xorAt_xorAt,
        hauthentic]
  · exact .inr (hdecrypt.trans (if_neg hauthentic))

end Accept

/-- **The cipher accepts exactly what it produces.** An array decrypts to `p`
if and only if some draws encrypt `p` to it. Every other array is rejected
as not authentic, and one shorter than its envelope for its size. A plaintext
whose message fits an array, the empty one included, comes back whatever was
drawn. -/
theorem decrypt_accepts_exactly (hS : S.Lawful) (cipher : SimpleStreamCipher S) :
    (∀ m p : Bytes, m.length < 2 ^ 31 → p.length < 2 ^ 31 →
      (cipher.decrypt m = .ok p ↔ ∃ draws, cipher.encrypt draws p = .ok m)) ∧
    (∀ m : Bytes, m.length < 2 ^ 31 →
      (∀ draws p, p.length < 2 ^ 31 → cipher.encrypt draws p ≠ .ok m) →
      ∃ message, cipher.decrypt m = .error (.java .messageAuthenticationException message)) ∧
    (∀ m : Bytes, m.length < 120 →
      cipher.decrypt m = .error (.java .messageAuthenticationException "bad message size.")) ∧
    ∀ draws p, p.length + 120 < 2 ^ 31 →
      ∃ m, cipher.encrypt draws p = .ok m ∧ cipher.decrypt m = .ok p := by
  refine ⟨?_, ?_, fun m hm => decrypt_short cipher hm, ?_⟩
  · intro m p hm hp
    constructor
    · intro hdecrypt
      have hlong : 120 ≤ m.length := by
        by_contra hshort
        cases hdecrypt.symm.trans (decrypt_short cipher (by omega))
      obtain ⟨draws, q, -, hencrypt, hq⟩ | hbad := decrypt_cases hS cipher hm hlong
      · obtain rfl := Except.ok.inj (hdecrypt.symm.trans hq)
        exact ⟨draws, hencrypt⟩
      · cases hdecrypt.symm.trans hbad
    · rintro ⟨draws, hencrypt⟩
      exact decrypt_of_encrypt hS cipher draws (lt_of_encrypt cipher hp hencrypt) hencrypt
  · intro m hm hnone
    by_cases hshort : m.length < 120
    · exact ⟨_, decrypt_short cipher hshort⟩
    · obtain ⟨draws, p, hp, hencrypt, -⟩ | hbad := decrypt_cases hS cipher hm (by omega)
      · exact absurd hencrypt (hnone draws p (by omega))
      · exact ⟨_, hbad⟩
  · intro draws p hp
    obtain ⟨sessionKey, sessionIv, streamIv, hkey, hiv, hstream⟩ := draws
    obtain ⟨k₁, k₂, h₁, h₂, rfl⟩ := exists_cut sessionKey 16 (by omega)
    have hencrypt := encrypt_eq hS cipher hiv h₁ (by omega) hstream hkey hp
    exact ⟨_, hencrypt, decrypt_of_encrypt hS cipher _ hp hencrypt⟩

/-- In the open: three octets come back, nothing at all is too short to be
accepted, and an envelope around nothing decrypts to nothing only if it was
made so. -/
theorem decrypt_accepts_exactly_open :
    (decrypt (S := XorSuite.cryptoSuite) ⟨zeros 32, rfl⟩ (zeros 120) = .ok [] ↔
      ∃ draws, encrypt (S := XorSuite.cryptoSuite) ⟨zeros 32, rfl⟩ draws [] = .ok (zeros 120)) ∧
    (∃ message, decrypt (S := XorSuite.cryptoSuite) ⟨zeros 32, rfl⟩ [] =
      .error (.java .messageAuthenticationException message)) ∧
    decrypt (S := XorSuite.cryptoSuite) ⟨zeros 32, rfl⟩ (zeros 119) =
      .error (.java .messageAuthenticationException "bad message size.") ∧
    ∃ m, encrypt (S := XorSuite.cryptoSuite) ⟨zeros 32, rfl⟩
        ⟨zeros 32, zeros 16, zeros 8, rfl, rfl, rfl⟩ [1, 2, 3] = .ok m ∧
      decrypt (S := XorSuite.cryptoSuite) ⟨zeros 32, rfl⟩ m = .ok [1, 2, 3] := by
  obtain ⟨hiff, hother, hshort, hround⟩ :=
    decrypt_accepts_exactly XorSuite.cryptoSuite_lawful ⟨zeros 32, rfl⟩
  refine ⟨hiff (zeros 120) [] (by simp) (by simp), hother [] (by simp) ?_,
    hshort (zeros 119) (by simp), hround _ [1, 2, 3] (by simp)⟩
  intro draws p hp hencrypt
  have haccepted := (hiff [] p (by simp) hp).mpr ⟨draws, hencrypt⟩
  cases haccepted.symm.trans (hshort [] (by simp))

end SimpleStreamCipher

end VjBlockchain
