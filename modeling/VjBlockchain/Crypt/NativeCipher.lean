import VjBlockchain.Crypt.Native
import VjBlockchain.Crypt.SimpleStreamCipher
/-!
# The native message cipher — resources

`SimpleStreamCipher_encryptNative.c` and its counterpart, the two longest
chains of labels there are: a generator, three contexts, and the buffers for a
session key and its vectors are acquired in between the arrays that are pinned
first and given back last.
-/

namespace VjBlockchain

open Common Common.Bytes Common.Throwing

namespace NativeCipher

/-- What the two methods acquire. -/
inductive Resource
  | inputData
  | keyBytesData
  | keyBuffer
  | outputArrayData
  | prng
  | sessionKeyBuffer
  | sessionIVBuffer
  | streamIVBuffer
  | mac
  | block
  | stream
  | macBuffer
  deriving DecidableEq, Repr

/-- The calls that acquire nothing. -/
inductive Op
  | getKey
  | getRawBytes
  | newByteArray
  | readSessionKey
  | readSessionIV
  | readStreamIV
  | blockOne
  | blockTwo
  | digestKey
  | startStream
  | streamData
  | digestData
  | finalize
  deriving DecidableEq, Repr

open NativeMethod Routine JavaException SimpleStreamCipher

variable {S : CryptoSuite} (env : NativeEnv (NativeCall Resource Op))
variable (cipher : SimpleStreamCipher S)

/-- `encryptNative`, with what the generator returns. -/
def encryptNative (draws : Draws) (input : Bytes) : NativeMethod Resource Op Bytes := do
  initialized env
  claim .inputData (nullPointer "inputData") none
  must .getKey (nullPointer "key") (some .inputData)
  must .getRawBytes (nullPointer "keyBytes") (some .inputData)
  claim .keyBytesData (nullPointer "keyBytesData") (some .inputData)
  claim .keyBuffer (illegalState "key buffer creation failure.") (some .keyBytesData)
  let out ← through .newByteArray
    (newByteArray (KEY_IV_SIZE + KEY_SIZE + SimpleStreamCipher.IV_SIZE + input.length + MAC_SIZE)
      "bad outputArray alloc.")
    (nullPointer "bad outputArray alloc.") (some .keyBuffer)
  claim .outputArrayData (nullPointer "outputArray data could not be read.") (some .keyBuffer)
  claim .prng (illegalState "prng instance creation failure.") (some .outputArrayData)
  claim .sessionKeyBuffer (illegalState "session key buffer create failure.") (some .prng)
  claim .sessionIVBuffer (illegalState "session iv buffer create failure.")
    (some .sessionKeyBuffer)
  claim .streamIVBuffer (illegalState "stream iv buffer create failure.") (some .sessionIVBuffer)
  must .readSessionKey (illegalState "prng read failure.") (some .streamIVBuffer)
  must .readSessionIV (illegalState "prng read failure.") (some .streamIVBuffer)
  must .readStreamIV (illegalState "prng read failure.") (some .streamIVBuffer)
  let mac ← create .mac (S.mac.init draws.sessionKey) (illegalState "mac init failure.")
    (some .streamIVBuffer)
  let block ← create .block (S.block.init cipher.key.rawBytes true)
    (illegalState "block cipher init failure.") (some .mac)
  let out ← access (Buffer.write out 0 draws.sessionIv)
  let out ← through .blockOne
    (blockEncryptChained S.toVccrypt block draws.sessionIv draws.sessionKey out 0 16
      "block cipher encrypt failure.")
    (illegalState "block cipher encrypt failure.") (some .block)
  let out ← through .blockTwo
    (blockEncrypt S.toVccrypt block draws.sessionKey out 16 16 32 "block cipher encrypt failure.")
    (illegalState "block cipher encrypt failure.") (some .block)
  let front ← access (Buffer.read out 0 48)
  let mac ← attempt .digestKey (S.mac.digest mac front) (illegalState "message digest failure.")
    (some .block)
  let stream ← create .stream (S.stream.init draws.sessionKey)
    (illegalState "stream cipher init failure.") (some .block)
  let (header, stream) ← attempt .startStream (S.stream.startEncryption stream draws.streamIv)
    (illegalState "stream cipher start encryption failure.") (some .stream)
  let out ← access (Buffer.write out 48 header)
  let (_, out, offset) ← through .streamData
    (streamEncrypt S.toVccrypt stream input out 48 header.length
      "stream cipher encryption failure.")
    (illegalState "stream cipher encryption failure.") (some .stream)
  let body ← access (Buffer.read out 48 offset)
  let mac ← attempt .digestData (S.mac.digest mac body) (illegalState "message digest failure.")
    (some .stream)
  claim .macBuffer (illegalState "mac buffer init failure.") (some .stream)
  let code ← attempt .finalize (S.mac.finalize mac) (illegalState "mac finalize failure.")
    (some .macBuffer)
  access (Buffer.write out (48 + offset) code)

/-- `decryptNative`. -/
def decryptNative (input : Bytes) : NativeMethod Resource Op Bytes := do
  initialized env
  claim .inputData (nullPointer "inputData") none
  must .getKey (nullPointer "key") (some .inputData)
  must .getRawBytes (nullPointer "keyBytes") (some .inputData)
  claim .keyBytesData (nullPointer "keyBytesData") (some .inputData)
  claim .keyBuffer (illegalState "key buffer creation failure.") (some .keyBytesData)
  let envelopeSize := KEY_IV_SIZE + KEY_SIZE + SimpleStreamCipher.IV_SIZE + MAC_SIZE
  ensure (¬input.length < envelopeSize) ⟨.messageAuthenticationException, "bad message size."⟩
    (some .keyBuffer)
  let plaintextSize := input.length - envelopeSize
  let out ← through .newByteArray (newByteArray plaintextSize "bad outputArray alloc.")
    (nullPointer "bad outputArray alloc.") (some .keyBuffer)
  claim .outputArrayData (nullPointer "outputArray data could not be read.") (some .keyBuffer)
  claim .sessionKeyBuffer (illegalState "session key buffer create failure.")
    (some .outputArrayData)
  let block ← create .block (S.block.init cipher.key.rawBytes false)
    (illegalState "block cipher init failure.") (some .sessionKeyBuffer)
  let sessionKey ← through .blockOne
    (blockDecrypt S.toVccrypt block input (zeros KEY_SIZE) 0 16 0 "block cipher decrypt failure.")
    (illegalState "block cipher decrypt failure.") (some .block)
  let sessionKey ← through .blockTwo
    (blockDecrypt S.toVccrypt block input sessionKey 16 32 16 "block cipher decrypt failure.")
    (illegalState "block cipher decrypt failure.") (some .block)
  let mac ← create .mac (S.mac.init sessionKey) (illegalState "mac init failure.") (some .block)
  let front ← access (Buffer.read input 0 (input.length - MAC_SIZE))
  let mac ← attempt .digestData (S.mac.digest mac front) (illegalState "message digest failure.")
    (some .mac)
  claim .macBuffer (illegalState "mac buffer init failure.") (some .mac)
  let code ← attempt .finalize (S.mac.finalize mac) (illegalState "mac finalize failure.")
    (some .macBuffer)
  let expected ← access (Buffer.read code 0 MAC_SIZE)
  let received ← access (Buffer.read input (input.length - MAC_SIZE) MAC_SIZE)
  ensure (expected = received) ⟨.messageAuthenticationException, "bad message."⟩
    (some .macBuffer)
  let stream ← create .stream (S.stream.init sessionKey)
    (illegalState "stream cipher init failure.") (some .macBuffer)
  let stream ← attempt .startStream
    (S.stream.startDecryption stream (input.drop (KEY_IV_SIZE + KEY_SIZE)))
    (illegalState "stream cipher start decryption failure.") (some .stream)
  let masked ← access (Buffer.read input (KEY_IV_SIZE + KEY_SIZE + 8) plaintextSize)
  let (_, out, _) ← through .streamData
    (streamDecrypt S.toVccrypt stream masked out 0 0 "stream cipher decryption failure.")
    (illegalState "stream cipher decryption failure.") (some .stream)
  pure out

/-- The labels of `encryptNative`. -/
def encryptLabels : List Resource :=
  [.macBuffer, .stream, .block, .mac, .streamIVBuffer, .sessionIVBuffer, .sessionKeyBuffer, .prng,
    .outputArrayData, .keyBuffer, .keyBytesData, .inputData]

/-- The labels of `decryptNative`. -/
def decryptLabels : List Resource :=
  [.stream, .macBuffer, .mac, .block, .sessionKeyBuffer, .outputArrayData, .keyBuffer,
    .keyBytesData, .inputData]

/-! ## Each method, step by step -/

variable {env cipher}

theorem encryptNative_implements (draws : Draws) (input : Bytes) :
    Implements encryptLabels (fun _ => []) [] [] (encryptNative env cipher draws input)
      (env.whenInitialized (cipher.encrypt draws input)) := by
  refine .ensure rfl ?_
  refine .claim rfl (by decide) ?_
  refine .must rfl ?_
  refine .must rfl ?_
  iterate 2 refine .claim rfl (by decide) ?_
  refine .through rfl (.newByteArray _ _) fun out => ?_
  iterate 5 refine .claim rfl (by decide) ?_
  iterate 3 refine .must rfl ?_
  refine .create rfl (by decide) fun mac => ?_
  refine .create rfl (by decide) fun block => ?_
  refine .access fun out => ?_
  refine .through rfl throwsOnly_blockEncryptChained fun out => ?_
  refine .through rfl throwsOnly_blockEncrypt fun out => ?_
  refine .access fun front => ?_
  refine .attempt rfl fun mac => ?_
  refine .create rfl (by decide) fun stream => ?_
  refine .attempt rfl fun ⟨header, stream⟩ => ?_
  refine .access fun out => ?_
  refine .through rfl throwsOnly_streamEncrypt fun ⟨_, out, offset⟩ => ?_
  refine .access fun body => ?_
  refine .attempt rfl fun mac => ?_
  refine .claim rfl (by decide) ?_
  refine .attempt rfl fun code => ?_
  exact .of_bind_pure (.access fun out => .done rfl out)

theorem decryptNative_implements (input : Bytes) :
    Implements decryptLabels (fun _ => []) [] [] (decryptNative env cipher input)
      (env.whenInitialized (cipher.decrypt input)) := by
  refine .ensure rfl ?_
  refine .claim rfl (by decide) ?_
  refine .must rfl ?_
  refine .must rfl ?_
  iterate 2 refine .claim rfl (by decide) ?_
  refine .ensure rfl ?_
  refine .through rfl (.newByteArray _ _) fun out => ?_
  iterate 2 refine .claim rfl (by decide) ?_
  refine .create rfl (by decide) fun block => ?_
  refine .through rfl throwsOnly_blockDecrypt fun sessionKey => ?_
  refine .through rfl throwsOnly_blockDecrypt fun sessionKey => ?_
  refine .create rfl (by decide) fun mac => ?_
  refine .access fun front => ?_
  refine .attempt rfl fun mac => ?_
  refine .claim rfl (by decide) ?_
  refine .attempt rfl fun code => ?_
  refine .access fun expected => ?_
  refine .access fun received => ?_
  refine .ensure rfl ?_
  refine .create rfl (by decide) fun stream => ?_
  refine .attempt rfl fun stream => ?_
  refine .access fun masked => ?_
  refine .through rfl throwsOnly_streamDecrypt fun ⟨_, out, _⟩ => ?_
  exact .done rfl out

/-! ## Every way through the methods -/

section Settle

variable (hS : S.Lawful)
include hS

/-- An encryption keeps to its arrays. -/
theorem encrypt_inBounds (cipher : SimpleStreamCipher S) (draws : Draws) {input : Bytes}
    (hinput : input.length < 2 ^ 31) : InBounds (cipher.encrypt draws input) := by
  rcases Nat.lt_or_ge (input.length + 120) (2 ^ 31) with hfits | hbig
  · obtain ⟨sessionKey, sessionIv, streamIv, hkey, hiv, hstream⟩ := draws
    obtain ⟨k₁, k₂, h₁, h₂, rfl⟩ := exists_cut sessionKey 16 (by omega)
    rw [encrypt_eq hS cipher hiv h₁ (by omega) hstream hkey hfits]
    exact .ok _
  · have hsize : KEY_IV_SIZE + KEY_SIZE + SimpleStreamCipher.IV_SIZE + input.length + MAC_SIZE =
        input.length + 120 := by
      unfold KEY_IV_SIZE KEY_SIZE SimpleStreamCipher.IV_SIZE MAC_SIZE
      omega
    have hrefused := newByteArray_error hbig (by omega) "bad outputArray alloc."
    rw [encrypt, hsize, hrefused, error_bind]
    exact ⟨fun h => by cases h⟩

/-- So does a decryption. -/
theorem decrypt_inBounds (cipher : SimpleStreamCipher S) {input : Bytes}
    (hinput : input.length < 2 ^ 31) : InBounds (cipher.decrypt input) := by
  by_cases hshort : input.length < 120
  · rw [decrypt_short cipher hshort]
    exact ⟨fun h => by cases h⟩
  · rcases decrypt_cases hS cipher hinput (by omega) with ⟨_, p, -, -, hp⟩ | hbad
    · rw [hp]
      exact .ok _
    · rw [hbad]
      exact ⟨fun h => by cases h⟩

/-- **The native message cipher settles, whichever call fails.** In every
environment both methods do what their functions do or throw because a call
has failed, and give back once whatever they pin, allocate or make. -/
theorem message_calls_settle (env : NativeEnv (NativeCall Resource Op))
    (cipher : SimpleStreamCipher S) :
    (∀ draws input, input.length < 2 ^ 31 → Settles env encryptLabels
      (encryptNative env cipher draws input) (cipher.encrypt draws input)) ∧
    ∀ input, input.length < 2 ^ 31 → Settles env decryptLabels
      (decryptNative env cipher input) (cipher.decrypt input) :=
  ⟨fun draws input hinput =>
      (encryptNative_implements draws input).settles (encrypt_inBounds hS cipher draws hinput),
    fun input hinput =>
      (decryptNative_implements input).settles (decrypt_inBounds hS cipher hinput)⟩

end Settle

/-- The code of a message cannot be finished. -/
def unfinished : NativeEnv (NativeCall Resource Op) := ⟨true, fun c => c == .op .finalize⟩

/-- Twelve resources are given back by an encryption that fails at its last call. -/
theorem message_calls_settle_unfinished :
    (unfinished.invoke encryptLabels (encryptNative (S := XorSuite.cryptoSuite) unfinished
        ⟨zeros 32, rfl⟩ ⟨zeros 32, zeros 16, zeros 8, rfl, rfl, rfl⟩ [1])).1 =
      .error (.illegalState "mac finalize failure.") ∧
    (unfinished.invoke encryptLabels (encryptNative (S := XorSuite.cryptoSuite) unfinished
        ⟨zeros 32, rfl⟩ ⟨zeros 32, zeros 16, zeros 8, rfl, rfl, rfl⟩ [1])).2.released.length =
      12 ∧
    (unfinished.invoke encryptLabels (encryptNative (S := XorSuite.cryptoSuite) unfinished
        ⟨zeros 32, rfl⟩ ⟨zeros 32, zeros 16, zeros 8, rfl, rfl, rfl⟩ [1])).2.Settled ∧
    (unfinished.invoke decryptLabels (decryptNative (S := XorSuite.cryptoSuite) unfinished
        ⟨zeros 32, rfl⟩ (zeros 120))).2.Settled := by
  obtain ⟨hencrypt, hdecrypt⟩ :=
    message_calls_settle XorSuite.cryptoSuite_lawful unfinished ⟨zeros 32, rfl⟩
  exact ⟨by decide +kernel, by decide +kernel, (hencrypt _ [1] (by decide)).settled,
    (hdecrypt (zeros 120) (by simp)).settled⟩

end NativeCipher

end VjBlockchain
