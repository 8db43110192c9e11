import VjBlockchain.Common.Cipher
import VjBlockchain.Util.Words
/-!
# The cryptographic suite — what the native code calls

The suite behind the native methods is a parameter: a stream cipher, the
short message authentication code, a block cipher, and two key agreements.
`Lawful` collects what the callers rely on, at the sizes of the suite: keys,
shared secrets and short codes of 32 octets, full-length codes of 64, stream
vectors of 8, blocks of 16. Both agreements give the two sides of an exchange
one secret.

Keys, vectors and codes are copied in and out of native buffers; the
allocation of those buffers is not modelled.
-/

namespace VjBlockchain

open Common Common.Bytes Common.Throwing

/-- The cryptographic suite of a native instance. -/
structure Vccrypt where
  stream : StreamCipher
  macShort : MacScheme
  block : BlockCipher
  /-- From a private key and a peer's public key. -/
  longTermSecret : Bytes → Bytes → Option Bytes
  /-- From a private key, a peer's public key, and the nonces of the server
  and of the client. -/
  shortTermSecret : Bytes → Bytes → Bytes → Bytes → Option Bytes
  /-- The private key belongs to the public key. -/
  IsKeyPair : Bytes → Bytes → Prop

/-- **A lawful suite.** -/
structure Vccrypt.Lawful (V : Vccrypt) : Prop where
  stream : V.stream.Lawful
  macShort : V.macShort.Lawful
  block : V.block.Lawful
  streamKey : V.stream.keySize = 32
  streamIv : V.stream.ivSize = 8
  macKey : V.macShort.keySize = 32
  macSize : V.macShort.macSize = 32
  blockKey : V.block.keySize = 32
  blockSize : V.block.blockSize = 16
  length_keys : ∀ {a A}, V.IsKeyPair a A → a.length = 32 ∧ A.length = 32
  longTerm_agree : ∀ {a A b B}, V.IsKeyPair a A → V.IsKeyPair b B →
    ∃ k, V.longTermSecret a B = some k ∧ V.longTermSecret b A = some k ∧ k.length = 32
  shortTerm_agree : ∀ {a A b B sn cn}, V.IsKeyPair a A → V.IsKeyPair b B →
    sn.length = 32 → cn.length = 32 →
    ∃ k, V.shortTermSecret a B sn cn = some k ∧ V.shortTermSecret b A sn cn = some k ∧
      k.length = 32

/-- A suite with its full-length message authentication code. -/
structure CryptoSuite extends Vccrypt where
  mac : MacScheme

/-- **A lawful suite with its full-length code**, whose block cipher is a
bijection of blocks. -/
structure CryptoSuite.Lawful (S : CryptoSuite) : Prop where
  vccrypt : S.toVccrypt.Lawful
  onto : S.block.Onto
  mac : S.mac.Lawful
  macKey : S.mac.keySize = 32
  macSize : S.mac.macSize = 64

/-- An encryption key pair; a private key of some other public key is none. -/
structure EncryptionKeyPair (V : Vccrypt) where
  privateKey : Bytes
  publicKey : Bytes
  isKeyPair : V.IsKeyPair privateKey publicKey

variable (V : Vccrypt)

/-- `ProtocolHandlerImpl.computeSharedSecretNative`. -/
def computeSharedSecret (clientPrivateKey serverPublicKey serverNonce clientNonce : Bytes) :
    Except Fault Bytes :=
  orThrow (V.shortTermSecret clientPrivateKey serverPublicKey serverNonce clientNonce)
    (.illegalState "vccrypt_key_agreement_short_term_secret_create")

/-! ## Streams over a buffer -/

/-- `vccrypt_stream_encrypt`: the masked input goes to offset `offset` of the
buffer part that starts at `out`, and the offset moves on. -/
def streamEncrypt (stream : V.stream.Instance) (input buffer : Bytes) (out offset : ℕ)
    (failure : String) : Except Fault (V.stream.Instance × Bytes × ℕ) := do
  let (masked, stream) ← orThrow (V.stream.encrypt stream input) (.illegalState failure)
  let buffer ← orThrow (Buffer.write buffer (out + offset) masked) .outOfBounds
  .ok (stream, buffer, offset + masked.length)

/-- `vccrypt_stream_decrypt`, likewise. -/
def streamDecrypt (stream : V.stream.Instance) (input buffer : Bytes) (out offset : ℕ)
    (failure : String) : Except Fault (V.stream.Instance × Bytes × ℕ) := do
  let (clear, stream) ← orThrow (V.stream.decrypt stream input) (.illegalState failure)
  let buffer ← orThrow (Buffer.write buffer (out + offset) clear) .outOfBounds
  .ok (stream, buffer, offset + clear.length)

section Stream

variable {V} (hV : V.Lawful)
include hV

/-- **Masking into a buffer**, right behind what it holds. -/
theorem streamEncrypt_next (stream : V.stream.Instance) (input pre : Bytes) (out offset n : ℕ)
    (failure : String) (ho : pre.length = out + offset) :
    ∃ stream', streamEncrypt V stream input (pre ++ zeros (input.length + n)) out offset failure =
        .ok (stream', pre ++ V.stream.maskAt (V.stream.cursor stream) input ++ zeros n,
          offset + input.length) ∧
      V.stream.cursor stream' = (V.stream.cursor stream).advance input.length := by
  obtain ⟨stream', henc, hcur⟩ := hV.stream.encrypt stream input
  have hmask : (V.stream.maskAt (V.stream.cursor stream) input).length = input.length :=
    length_xorAt ..
  refine ⟨stream', ?_, hcur⟩
  rw [streamEncrypt, orThrow_bind henc]
  dsimp only
  rw [orThrow_bind (Buffer.write_zeros ho (by rw [hmask]; omega)), hmask, Nat.add_sub_cancel_left]

/-- Unmasking into a fresh buffer of the input's size. -/
theorem streamDecrypt_fresh (stream : V.stream.Instance) (input : Bytes) (failure : String) :
    ∃ stream', streamDecrypt V stream input (zeros input.length) 0 0 failure =
        .ok (stream', V.stream.maskAt (V.stream.cursor stream) input, input.length) := by
  obtain ⟨stream', hdec, -⟩ := hV.stream.decrypt stream input
  have hmask : (V.stream.maskAt (V.stream.cursor stream) input).length = input.length :=
    length_xorAt ..
  refine ⟨stream', ?_⟩
  rw [streamDecrypt, orThrow_bind hdec]
  dsimp only
  rw [orThrow_bind (Buffer.write_fresh (by rw [hmask])), hmask]
  simp

variable {key iv : Bytes} (hkey : key.length = 32) (hiv : iv.length = 8)
include hkey hiv

/-- **A fresh stream into a buffer**: the vector, and right behind it the input
masked from position zero. -/
theorem startEncryption_streamEncrypt (input pre : Bytes) (out n : ℕ) (failure : String)
    (ho : pre.length = out) :
    ∃ stream₀ stream₁ stream₂, V.stream.init key = some stream₀ ∧
      V.stream.startEncryption stream₀ iv = some (iv, stream₁) ∧
      Buffer.write (pre ++ zeros (8 + (input.length + n))) out iv =
        some (pre ++ iv ++ zeros (input.length + n)) ∧
      streamEncrypt V stream₁ input (pre ++ iv ++ zeros (input.length + n)) out 8 failure =
        .ok (stream₂, pre ++ iv ++ xorAt (V.stream.keystream key iv) 0 input ++ zeros n,
          8 + input.length) := by
  obtain ⟨stream₀, hinit⟩ := hV.stream.init_total (hkey.trans hV.streamKey.symm)
  obtain ⟨stream₁, hstart, hcursor⟩ :=
    hV.stream.startEncryption stream₀ iv (hiv.trans hV.streamIv.symm)
  have hbehind : (pre ++ iv).length = out + 8 := by rw [List.length_append, ho, hiv]
  obtain ⟨stream₂, hencrypt, -⟩ :=
    streamEncrypt_next hV stream₁ input (pre ++ iv) out 8 n failure hbehind
  rw [hcursor, hV.stream.init_key hinit] at hencrypt
  refine ⟨stream₀, stream₁, stream₂, hinit, hstart, ?_, hencrypt⟩
  rw [Buffer.write_zeros ho (by omega), hiv, Nat.add_sub_cancel_left]

/-- **A stream read back**: the vector off the front, and the octets behind it
unmasked, whatever follows them. -/
theorem startDecryption_streamDecrypt (masked rest : Bytes) (failure : String) :
    ∃ stream₀ stream₁ stream₂, V.stream.init key = some stream₀ ∧
      V.stream.startDecryption stream₀ (iv ++ (masked ++ rest)) = some stream₁ ∧
      streamDecrypt V stream₁ masked (zeros masked.length) 0 0 failure =
        .ok (stream₂, xorAt (V.stream.keystream key iv) 0 masked, masked.length) := by
  obtain ⟨stream₀, hinit⟩ := hV.stream.init_total (hkey.trans hV.streamKey.symm)
  obtain ⟨stream₁, hstart, hcursor⟩ :=
    hV.stream.startDecryption stream₀ iv (masked ++ rest) (hiv.trans hV.streamIv.symm)
  obtain ⟨stream₂, hdecrypt⟩ := streamDecrypt_fresh hV stream₁ masked failure
  rw [hcursor, hV.stream.init_key hinit] at hdecrypt
  exact ⟨stream₀, stream₁, stream₂, hinit, hstart, hdecrypt⟩

end Stream

/-! ## Message authentication codes

The short codes as functions, for the code that asks for them: what the two
methods return where there is room for everything. The native calls, with
their arrays and buffers, are in `NativeHmac`; they follow these functions. -/

namespace HMAC

/-- Digest each message in turn. -/
def digestMessages (mac : V.macShort.Instance) : List Bytes → Except Fault V.macShort.Instance
  | [] => .ok mac
  | m :: ms => do
    let mac ← orThrow (V.macShort.digest mac m) (.illegalState "could not digest")
    digestMessages mac ms

/-- `HMAC.createHMACShort` over several messages; a `null` key is `none`. -/
def createHMACShortArr (key : Option Bytes) (messages : List Bytes) : Except Fault Bytes := do
  let key ← orThrow key (.java .nullPointerException "key")
  let mac ← orThrow (V.macShort.init key) (.illegalState "could not initialize short mac.")
  let mac ← digestMessages V mac messages
  orThrow (V.macShort.finalize mac) (.illegalState "could not finalize.")

/-- `HMAC.createHMACShort` over one message. -/
def createHMACShort (key : Option Bytes) (message : Bytes) : Except Fault Bytes := do
  let key ← orThrow key (.java .nullPointerException "key")
  let mac ← orThrow (V.macShort.init key) (.illegalState "could not initialize short mac.")
  let mac ← orThrow (V.macShort.digest mac message) (.illegalState "could not digest.")
  orThrow (V.macShort.finalize mac) (.illegalState "could not finalize.")

variable {V}

/-- **Digesting pieces absorbs their concatenation.** -/
theorem digestMessages_eq (hM : V.macShort.Lawful) (ms : List Bytes) (mac : V.macShort.Instance) :
    ∃ mac', digestMessages V mac ms = .ok mac' ∧ V.macShort.key mac' = V.macShort.key mac ∧
      V.macShort.absorbed mac' = V.macShort.absorbed mac ++ ms.flatten := by
  induction ms generalizing mac with
  | nil => exact ⟨mac, rfl, rfl, by simp⟩
  | cons m ms ih =>
    obtain ⟨mac₁, hm, hkey, habs⟩ := hM.digest mac m
    obtain ⟨mac₂, hms, hkey₂, habs₂⟩ := ih mac₁
    refine ⟨mac₂, ?_, hkey₂.trans hkey, by simp [habs₂, habs]⟩
    rw [digestMessages, orThrow_bind hm, hms]

/-- **The code of several messages is the code of their concatenation**, whatever
the key, and a key that is refused is refused for both. -/
theorem createHMACShortArr_flatten (hM : V.macShort.Lawful) (key : Option Bytes)
    (ms : List Bytes) : createHMACShortArr V key ms = createHMACShort V key ms.flatten := by
  unfold createHMACShortArr createHMACShort
  cases key with
  | none => rfl
  | some k =>
    rw [orThrow_some, ok_bind, ok_bind]
    cases hinit : V.macShort.init k with
    | none => rfl
    | some mac =>
      obtain ⟨mac₁, hms, hkey₁, habsorbed₁⟩ := digestMessages_eq hM ms mac
      obtain ⟨mac₂, hflatten, hkey₂, habsorbed₂⟩ := hM.digest mac ms.flatten
      rw [orThrow_some, ok_bind, ok_bind, bind_ok hms, orThrow_bind hflatten, hM.finalize,
        hM.finalize, hkey₁, hkey₂, habsorbed₁, habsorbed₂]

/-- Under a key of the suite's size, the code of several messages is the code
of their concatenation. -/
theorem createHMACShortArr_eq (hV : V.Lawful) {k : Bytes} (hk : k.length = 32) (ms : List Bytes) :
    createHMACShortArr V (some k) ms = .ok (V.macShort.mac k ms.flatten) := by
  obtain ⟨mac, hinit⟩ := hV.macShort.init_total (hk.trans hV.macKey.symm)
  obtain ⟨hkey, habs⟩ := hV.macShort.init hinit
  obtain ⟨mac', hms, hkey', habs'⟩ := digestMessages_eq hV.macShort ms mac
  rw [createHMACShortArr, orThrow_some, ok_bind, orThrow_bind hinit, bind_ok hms,
    hV.macShort.finalize, orThrow_some, hkey', hkey, habs', habs, List.nil_append]

theorem createHMACShort_eq (hV : V.Lawful) {k : Bytes} (hk : k.length = 32) (m : Bytes) :
    createHMACShort V (some k) m = .ok (V.macShort.mac k m) := by
  obtain ⟨mac, hinit⟩ := hV.macShort.init_total (hk.trans hV.macKey.symm)
  obtain ⟨mac', hm, hfinalize⟩ := hV.macShort.digest_one hinit m
  rw [createHMACShort, orThrow_some, ok_bind, orThrow_bind hinit, orThrow_bind hm, hfinalize,
    orThrow_some]

end HMAC

/-! ## Vectors

A packet's vector is a machine word handed to the cipher where it lies in
memory; the stored octets of a little-endian host are its vector. -/

/-- The memory of a 64-bit word. -/
def hostBytes (iv : BitVec 64) : Bytes := (toBE 8 iv.toNat).reverse

@[simp] theorem length_hostBytes (iv : BitVec 64) : (hostBytes iv).length = 8 := by
  simp [hostBytes]

end VjBlockchain
