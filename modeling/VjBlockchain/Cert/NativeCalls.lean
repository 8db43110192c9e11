import VjBlockchain.Cert.OneFormat
import VjBlockchain.Crypt.Native
/-!
# The native key and data calls — resources

Wrapping and unwrapping a key, for certificates and for documents alike, and
the six calls that encrypt or decrypt under one: a field, a piece of a
document, or an array. The first give back what they acquire on every way out.
The others pin the array they are about to return, and have no label for it:
they give it back in their last step, and an exception after it was pinned
leaves it pinned.

The references to the two key arrays are resources: wrapping and unwrapping
have labels of their own that drop them.
-/

namespace VjBlockchain

open Common Common.Bytes Common.Throwing

/-- The two keys are copied, one after the other, and the secret is made of them. -/
theorem longTermSecret_bind {α : Type} {V : Vccrypt} (privateKey publicKey : Bytes)
    (f : Bytes → Except Fault α) :
    (longTermSecret V privateKey publicKey >>= f) =
      orThrow (Buffer.read privateKey 0 32) .outOfBounds >>= fun a =>
        orThrow (Buffer.read publicKey 0 32) .outOfBounds >>= fun b =>
          orThrow (V.longTermSecret a b) (.illegalState "key agreement failure.") >>= f := by
  simp only [longTermSecret, bind_assoc]

/-! ## Wrapping keys -/

namespace NativeKey

/-- What a wrapping or an unwrapping acquires. -/
inductive Resource
  | keyArrayData
  | privateKeyArray
  | privateKeyArrayData
  | privateKeyBuffer
  | publicKeyArray
  | publicKeyArrayData
  | publicKeyBuffer
  | keyBuffer
  | ka
  | prng
  | ivBuffer
  | outputArrayData
  | block
  deriving DecidableEq, Repr

/-- The calls that acquire nothing. -/
inductive Op
  | secretCreate
  | prngRead
  | newByteArray
  | blockOne
  | blockTwo
  deriving DecidableEq, Repr

open NativeMethod Routine JavaException

variable (V : Vccrypt) (env : NativeEnv (NativeCall Resource Op))

/-- How both methods begin: from the key array to the copy of the private key.
They name one failure differently. -/
def agree (privateKeyRefused publicKeyRefused : String) (localPrivate peerPublic : Bytes) :
    NativeMethod Resource Op Bytes := do
  claim .keyArrayData (nullPointer "key data read failure.") none
  claim .privateKeyArray (nullPointer privateKeyRefused) (some .keyArrayData)
  claim .privateKeyArrayData (nullPointer "private key data read failure.")
    (some .privateKeyArray)
  claim .privateKeyBuffer (illegalState "private key buffer creation failure.")
    (some .privateKeyArrayData)
  let privateKey ← access (Buffer.read localPrivate 0 32)
  claim .publicKeyArray (nullPointer publicKeyRefused) (some .privateKeyBuffer)
  claim .publicKeyArrayData (nullPointer "public key data read failure.") (some .publicKeyArray)
  claim .publicKeyBuffer (illegalState "public key buffer creation failure.")
    (some .publicKeyArrayData)
  let publicKey ← access (Buffer.read peerPublic 0 32)
  claim .keyBuffer (illegalState "public key buffer creation failure.") (some .publicKeyBuffer)
  claim .ka (illegalState "key agreement context creation failure.") (some .keyBuffer)
  attempt .secretCreate (V.longTermSecret privateKey publicKey)
    (illegalState "key agreement failure.") (some .ka)

/-- `encryptKey` of a certificate and of a document; `iv` is what the generator
puts in the vector's buffer. -/
def encryptKey (localPrivate peerPublic key iv : Bytes) : NativeMethod Resource Op Bytes := do
  initialized env
  let secret ← agree V "localPrivate.getRawBytes()" "publicKeyArray.getRawBytes()" localPrivate
    peerPublic
  claim .prng (illegalState "prng instance creation failure.") (some .ka)
  claim .ivBuffer (illegalState "iv buffer creation failure.") (some .prng)
  must .prngRead (illegalState "prng read failure.") (some .ivBuffer)
  let out ← through .newByteArray
    (newByteArray (16 + key.length) "outputArray creation failure.")
    (nullPointer "outputArray creation failure.") (some .ivBuffer)
  claim .outputArrayData (nullPointer "outputArray data read failure.") (some .ivBuffer)
  let block ← create .block (V.block.init secret true)
    (illegalState "block cipher creation failure.") (some .outputArrayData)
  let out ← access (Buffer.write out 0 iv)
  let out ← through .blockOne
    (blockEncrypt V block key out 0 0 16 "block cipher block 1 encrypt failure.")
    (illegalState "block cipher block 1 encrypt failure.") (some .block)
  let out ← through .blockTwo
    (blockEncrypt V block key out 16 16 32 "block cipher block 2 encrypt failure.")
    (illegalState "block cipher block 2 encrypt failure.") (some .block)
  pure out

/-- `decryptSecretNative` of a certificate and `decryptKey` of a document. -/
def decryptKey (localPrivateKey peerPublicKey encryptedKey : Bytes) :
    NativeMethod Resource Op Bytes := do
  initialized env
  let secret ← agree V "private key read failure." "peerPublicKey.getRawBytes()" localPrivateKey
    peerPublicKey
  -- an array of no size that is allowed is refused like any other
  ensure (16 ≤ encryptedKey.length) (nullPointer "outputArray creation failure.") (some .ka)
  must .newByteArray (nullPointer "outputArray creation failure.") (some .ka)
  claim .outputArrayData (nullPointer "outputArray data read failure.") (some .ka)
  let out := zeros (encryptedKey.length - 16)
  let block ← create .block (V.block.init secret false)
    (illegalState "block cipher creation failure.") (some .outputArrayData)
  let out ← through .blockOne
    (blockDecrypt V block encryptedKey out 0 16 0 "block cipher block 1 decrypt failure.")
    (illegalState "block cipher block 1 decrypt failure.") (some .block)
  let out ← through .blockTwo
    (blockDecrypt V block encryptedKey out 16 32 16 "block cipher block 2 decrypt failure.")
    (illegalState "block cipher block 2 decrypt failure.") (some .block)
  pure out

/-- The labels both methods share. -/
def agreeLabels : List Resource :=
  [.ka, .keyBuffer, .publicKeyBuffer, .publicKeyArrayData, .publicKeyArray, .privateKeyBuffer,
    .privateKeyArrayData, .privateKeyArray, .keyArrayData]

/-- The labels of `encryptKey`. -/
def encryptKeyLabels : List Resource := [.block, .outputArrayData, .ivBuffer, .prng] ++ agreeLabels

/-- The labels of `decryptKey`. -/
def decryptKeyLabels : List Resource := [.block, .outputArrayData] ++ agreeLabels

variable {V env}

/-- **The shared beginning**, in front of any rest. -/
theorem agree_implements {labels : List Resource} {privateKeyRefused publicKeyRefused : String}
    {localPrivate peerPublic : Bytes} {f : Bytes → NativeMethod Resource Op Bytes}
    {g : Bytes → Except Fault Bytes}
    (hlabels : ∀ r ∈ agreeLabels, fallFrom labels (some r) = fallFrom agreeLabels (some r))
    (hf : ∀ secret, Implements labels (fun _ => []) agreeLabels agreeLabels (f secret) (g secret)) :
    Implements labels (fun _ => []) [] []
      (agree V privateKeyRefused publicKeyRefused localPrivate peerPublic >>= f)
      (longTermSecret V localPrivate peerPublic >>= g) := by
  have hexit : ∀ r ∈ agreeLabels, fallFrom agreeLabels (some r) = fallFrom labels (some r) :=
    fun r hr => (hlabels r hr).symm
  rw [agree, longTermSecret_bind]
  simp only [Routine.bind_assoc]
  refine .claim rfl (by decide) ?_
  refine .claim (hexit .keyArrayData (by decide)) (by decide) ?_
  refine .claim (hexit .privateKeyArray (by decide)) (by decide) ?_
  refine .claim (hexit .privateKeyArrayData (by decide)) (by decide) ?_
  refine .access fun privateKey => ?_
  refine .claim (hexit .privateKeyBuffer (by decide)) (by decide) ?_
  refine .claim (hexit .publicKeyArray (by decide)) (by decide) ?_
  refine .claim (hexit .publicKeyArrayData (by decide)) (by decide) ?_
  refine .access fun publicKey => ?_
  refine .claim (hexit .publicKeyBuffer (by decide)) (by decide) ?_
  refine .claim (hexit .keyBuffer (by decide)) (by decide) ?_
  exact .attempt (hexit .ka (by decide)) hf

theorem encryptKey_implements (localPrivate peerPublic key iv : Bytes) :
    Implements encryptKeyLabels (fun _ => []) [] []
      (encryptKey V env localPrivate peerPublic key iv)
      (env.whenInitialized
        (EncryptedDocumentBuilder.encryptKey V localPrivate peerPublic key iv)) := by
  refine .ensure rfl ?_
  refine agree_implements (by decide) fun secret => ?_
  iterate 2 refine .claim rfl (by decide) ?_
  refine .must rfl ?_
  refine .through rfl (.newByteArray _ _) fun out => ?_
  refine .claim rfl (by decide) ?_
  refine .create rfl (by decide) fun block => ?_
  refine .access fun out => ?_
  refine .through rfl throwsOnly_blockEncrypt fun out => ?_
  exact .of_bind_pure (.through rfl throwsOnly_blockEncrypt fun out => .done rfl out)

theorem decryptKey_implements (localPrivateKey peerPublicKey encryptedKey : Bytes) :
    Implements decryptKeyLabels (fun _ => []) [] []
      (decryptKey V env localPrivateKey peerPublicKey encryptedKey)
      (env.whenInitialized
        (EncryptedDocumentReader.decryptKey V localPrivateKey peerPublicKey encryptedKey)) := by
  refine .ensure rfl ?_
  refine agree_implements (by decide) fun secret => ?_
  refine .ensure rfl ?_
  refine .must rfl ?_
  refine .claim rfl (by decide) ?_
  refine .create rfl (by decide) fun block => ?_
  refine .through rfl throwsOnly_blockDecrypt fun out => ?_
  exact .of_bind_pure (.through rfl throwsOnly_blockDecrypt fun out => .done rfl out)

/-- **The native key calls settle**, for certificates and documents alike, unless
they touch memory outside an array. -/
theorem key_calls_leave_nothing (V : Vccrypt) (env : NativeEnv (NativeCall Resource Op)) :
    (∀ localPrivate peerPublic key iv, LeavesBehind env encryptKeyLabels (fun _ => [])
      (encryptKey V env localPrivate peerPublic key iv)
      (EncryptedCertificateBuilder.encryptKey V localPrivate peerPublic key iv)) ∧
    ∀ localPrivateKey peerPublicKey encryptedKey, LeavesBehind env decryptKeyLabels (fun _ => [])
      (decryptKey V env localPrivateKey peerPublicKey encryptedKey)
      (EncryptedCertificateReader.decryptSecretNative V localPrivateKey peerPublicKey
        encryptedKey) :=
  ⟨fun _ _ _ _ => (encryptKey_implements ..).leavesOf,
    fun _ _ _ => (decryptKey_implements ..).leavesOf⟩

end NativeKey

/-! ## Encrypting and decrypting under a key -/

namespace NativeData

/-- What the six methods acquire. -/
inductive Resource
  | keyBuffer
  | keyArrayData
  | ivArrayData
  | inputArrayData
  | stream
  | outputArrayData
  deriving DecidableEq, Repr

/-- The calls that acquire nothing. -/
inductive Op
  | newByteArray
  | startStream
  | streamData
  deriving DecidableEq, Repr

open NativeMethod Routine JavaException

variable (V : Vccrypt) (env : NativeEnv (NativeCall Resource Op))

/-- The buffer for the key, and its array pinned. -/
def pinKey : NativeMethod Resource Op Unit := do
  claim .keyBuffer (illegalState "key buffer create failure.") none
  claim .keyArrayData (nullPointer "key data read failure.") (some .keyBuffer)

/-- The last steps of an encryption. -/
def finishEncryption (stream : V.stream.Instance) (input out : Bytes) (offset : ℕ) :
    NativeMethod Resource Op Bytes := do
  let (_, out, _) ← through .streamData
    (streamEncrypt V stream input out 0 offset "could not encrypt input data.")
    (illegalState "could not encrypt input data.") (some .stream)
  dispose .outputArrayData
  pure out

/-- The last steps of a decryption. -/
def finishDecryption (stream : V.stream.Instance) (input out : Bytes) :
    NativeMethod Resource Op Bytes := do
  let (_, out, _) ← through .streamData
    (streamDecrypt V stream input out 0 0 "could not decrypt input data.")
    (illegalState "could not decrypt input data.") (some .stream)
  dispose .outputArrayData
  pure out

/-- The rest of an encryption, from the vector on. -/
def encryptWith (key iv input : Bytes) : NativeMethod Resource Op Bytes := do
  claim .ivArrayData (nullPointer "iv data read failure.") (some .keyArrayData)
  claim .inputArrayData (nullPointer "input data read failure.") (some .ivArrayData)
  let stream ← create .stream (V.stream.init key) (illegalState "stream context failure.")
    (some .inputArrayData)
  let out ← through .newByteArray
    (newByteArray (IV_SIZE + input.length) "bad outputArray alloc.")
    (nullPointer "bad outputArray alloc.") (some .stream)
  claim .outputArrayData (nullPointer "outputArray data could not be read.") (some .stream)
  let iv ← access (Buffer.read iv 0 8)
  let (header, stream) ← attempt .startStream (V.stream.startEncryption stream iv)
    (illegalState "could not start encryption stream.") (some .stream)
  let out ← access (Buffer.write out 0 header)
  finishEncryption V stream input out header.length

/-- `EncryptedCertificateBuilder.encryptData`. -/
def encryptField (key iv input : Bytes) : NativeMethod Resource Op Bytes := do
  initialized env
  pinKey
  let key ← access (Buffer.read key 0 32)
  encryptWith V key iv input

/-- `GenericStreamCipher.encryptNative`. -/
def encryptNative (key iv input : Bytes) : NativeMethod Resource Op Bytes := do
  initialized env
  ensure (key.length = V.stream.keySize) (illegalState "Invalid key size.") none
  pinKey
  encryptWith V key iv input

/-- `EncryptedDocumentBuilder.encryptData`. -/
def encryptPiece (key iv input : Bytes) (offset : ℕ) : NativeMethod Resource Op Bytes := do
  initialized env
  pinKey
  let key ← access (Buffer.read key 0 32)
  claim .ivArrayData (nullPointer "iv data read failure.") (some .keyArrayData)
  claim .inputArrayData (nullPointer "input data read failure.") (some .ivArrayData)
  let stream ← create .stream (V.stream.init key) (illegalState "stream context failure.")
    (some .inputArrayData)
  let outputBufferOffset := if offset = 0 then IV_SIZE else 0
  let out ← through .newByteArray
    (newByteArray (outputBufferOffset + input.length) "bad outputArray alloc.")
    (nullPointer "bad outputArray alloc.") (some .stream)
  claim .outputArrayData (nullPointer "outputArray data could not be read.") (some .stream)
  let iv ← access (Buffer.read iv 0 8)
  let (out, stream) ←
    if offset = 0 then do
      let (header, stream) ← attempt .startStream (V.stream.startEncryption stream iv)
        (illegalState "could not start encryption stream.") (some .stream)
      let out ← access (Buffer.write out offset header)
      pure (out, stream)
    else do
      let stream ← attempt .startStream (V.stream.continueEncryption stream iv offset)
        (illegalState "could not continue encryption stream.") (some .stream)
      pure (out, stream)
  finishEncryption V stream input out outputBufferOffset

/-- The rest of a decryption, from the input on. -/
def decryptWith (secretKey input : Bytes) : NativeMethod Resource Op Bytes := do
  claim .inputArrayData (nullPointer "input data read failure.") (some .keyArrayData)
  let stream ← create .stream (V.stream.init secretKey) (illegalState "stream context failure.")
    (some .inputArrayData)
  -- an array of no size that is allowed is refused like any other
  ensure (IV_SIZE ≤ input.length) (nullPointer "bad outputArray alloc.") (some .stream)
  must .newByteArray (nullPointer "bad outputArray alloc.") (some .stream)
  claim .outputArrayData (nullPointer "outputArray data could not be read.") (some .stream)
  let out := zeros (input.length - IV_SIZE)
  let stream ← attempt .startStream (V.stream.startDecryption stream input)
    (illegalState "could not start decryption stream.") (some .stream)
  finishDecryption V stream (input.drop IV_SIZE) out

/-- `EncryptedCertificateReader.decryptNative`. -/
def decryptField (secretKey input : Bytes) : NativeMethod Resource Op Bytes := do
  initialized env
  pinKey
  let secretKey ← access (Buffer.read secretKey 0 32)
  decryptWith V secretKey input

/-- `GenericStreamCipher.decryptNative`. -/
def decryptNative (secretKey input : Bytes) : NativeMethod Resource Op Bytes := do
  initialized env
  ensure (secretKey.length = V.stream.keySize) (illegalState "Invalid key size.") none
  pinKey
  decryptWith V secretKey input

/-- `EncryptedDocumentReader.decryptData`. -/
def decryptPiece (secretKey iv input : Bytes) (offset : ℕ) : NativeMethod Resource Op Bytes := do
  initialized env
  pinKey
  let secretKey ← access (Buffer.read secretKey 0 32)
  claim .ivArrayData (nullPointer "iv data read failure.") (some .keyArrayData)
  claim .inputArrayData (nullPointer "input data read failure.") (some .ivArrayData)
  let stream ← create .stream (V.stream.init secretKey) (illegalState "stream context failure.")
    (some .inputArrayData)
  let inputBufferOffset := if offset = 0 then IV_SIZE else 0
  ensure (inputBufferOffset ≤ input.length) (nullPointer "bad outputArray alloc.") (some .stream)
  must .newByteArray (nullPointer "bad outputArray alloc.") (some .stream)
  claim .outputArrayData (nullPointer "outputArray data could not be read.") (some .stream)
  let out := zeros (input.length - inputBufferOffset)
  let stream ←
    if offset = 0 then
      attempt .startStream (V.stream.startDecryption stream input)
        (illegalState "could not start decryption stream.") (some .stream)
    else do
      let iv ← access (Buffer.read iv 0 8)
      attempt .startStream (V.stream.continueDecryption stream iv offset)
        (illegalState "could not continue decryption stream.") (some .stream)
  finishDecryption V stream (input.drop inputBufferOffset) out

/-! ### What stays pinned -/

/-- The labels of the methods that pin a vector. -/
def vectorLabels : List Resource :=
  [.stream, .inputArrayData, .ivArrayData, .keyArrayData, .keyBuffer]

/-- The labels of the others. -/
def plainLabels : List Resource := [.stream, .inputArrayData, .keyArrayData, .keyBuffer]

/-- The exceptions thrown while the array to return is pinned. -/
def pinnedMessages : List String :=
  ["could not start encryption stream.", "could not continue encryption stream.",
    "could not encrypt input data.", "could not start decryption stream.",
    "could not continue decryption stream.", "could not decrypt input data."]

/-- What an exception leaves. -/
def pinned (e : JavaException) : List Resource :=
  if e.message ∈ pinnedMessages then [.outputArrayData] else []

variable {V env}

/-- The key in front of any rest. -/
theorem pinKey_implements {labels : List Resource} {f : Unit → NativeMethod Resource Op Bytes}
    {x : Except Fault Bytes} (hlabels : [.keyBuffer] = fallFrom labels (some .keyBuffer))
    (hf : Implements labels pinned [.keyArrayData, .keyBuffer] [.keyArrayData, .keyBuffer]
      (f ()) x) :
    Implements labels pinned [] [] (pinKey >>= f) x := by
  rw [pinKey, Routine.bind_assoc]
  exact .claim rfl (by decide) (.claim hlabels (by decide) hf)

/-- **The last steps** release what was pinned last, or leave it. -/
theorem finishEncryption_implements {labels : List Resource}
    (hlabels : labels = fallFrom labels (some .stream)) (stream : V.stream.Instance)
    (input out : Bytes) (offset : ℕ) :
    Implements labels pinned (.outputArrayData :: labels) (.outputArrayData :: labels)
      (finishEncryption V stream input out offset) (do
        let (_, out, _) ←
          streamEncrypt V stream input out 0 offset "could not encrypt input data."
        .ok out) := by
  refine .through ?_ throwsOnly_streamEncrypt fun ⟨_, out, _⟩ => ?_
  · exact congrArg (Resource.outputArrayData :: ·) hlabels
  · exact .dispose List.mem_cons_self (.done (List.erase_cons_head ..) out)

theorem finishDecryption_implements {labels : List Resource}
    (hlabels : labels = fallFrom labels (some .stream)) (stream : V.stream.Instance)
    (input out : Bytes) :
    Implements labels pinned (.outputArrayData :: labels) (.outputArrayData :: labels)
      (finishDecryption V stream input out) (do
        let (_, out, _) ← streamDecrypt V stream input out 0 0 "could not decrypt input data."
        .ok out) := by
  refine .through ?_ throwsOnly_streamDecrypt fun ⟨_, out, _⟩ => ?_
  · exact congrArg (Resource.outputArrayData :: ·) hlabels
  · exact .dispose List.mem_cons_self (.done (List.erase_cons_head ..) out)

theorem encryptWith_implements (key iv input : Bytes) :
    Implements vectorLabels pinned [.keyArrayData, .keyBuffer] [.keyArrayData, .keyBuffer]
      (encryptWith V key iv input) (do
        let stream ← orThrow (V.stream.init key) (.illegalState "stream context failure.")
        let out ← newByteArray (IV_SIZE + input.length) "bad outputArray alloc."
        let iv ← orThrow (Buffer.read iv 0 8) .outOfBounds
        let (header, stream) ← orThrow (V.stream.startEncryption stream iv)
          (.illegalState "could not start encryption stream.")
        let out ← orThrow (Buffer.write out 0 header) .outOfBounds
        let (_, out, _) ←
          streamEncrypt V stream input out 0 header.length "could not encrypt input data."
        .ok out) := by
  iterate 2 refine .claim rfl (by decide) ?_
  refine .create rfl (by decide) fun stream => ?_
  refine .through rfl (.newByteArray _ _) fun out => ?_
  refine .claim rfl (by decide) ?_
  refine .access fun iv => ?_
  refine .attempt rfl fun ⟨header, stream⟩ => ?_
  exact .access fun out => finishEncryption_implements rfl stream input out header.length

theorem encryptField_implements (key iv input : Bytes) :
    Implements vectorLabels pinned [] [] (encryptField V env key iv input)
      (env.whenInitialized (EncryptedCertificateBuilder.encryptData V key iv input)) := by
  refine .ensure rfl (pinKey_implements rfl ?_)
  exact .access fun key => encryptWith_implements key iv input

theorem encryptNative_implements (key iv input : Bytes) :
    Implements vectorLabels pinned [] [] (encryptNative V env key iv input)
      (env.whenInitialized (GenericStreamCipher.encryptNative V key iv input)) := by
  refine .ensure rfl (.ensure rfl (pinKey_implements rfl ?_))
  exact encryptWith_implements key iv input

theorem encryptPiece_implements (key iv input : Bytes) (offset : ℕ) :
    Implements vectorLabels pinned [] [] (encryptPiece V env key iv input offset)
      (env.whenInitialized (EncryptedDocumentBuilder.encryptData V key iv input offset)) := by
  refine .ensure rfl (pinKey_implements rfl ?_)
  refine .access fun key => ?_
  iterate 2 refine .claim rfl (by decide) ?_
  refine .create rfl (by decide) fun stream => ?_
  refine .through rfl (.newByteArray _ _) fun out => ?_
  refine .claim rfl (by decide) ?_
  refine .access fun iv => ?_
  by_cases hzero : offset = 0
  · simp only [if_pos hzero]
    refine .attempt rfl fun ⟨header, stream⟩ => ?_
    exact .access fun out => finishEncryption_implements rfl stream input out _
  · simp only [if_neg hzero]
    exact .attempt rfl fun stream => finishEncryption_implements rfl stream input _ _

theorem decryptWith_implements (secretKey input : Bytes) :
    Implements plainLabels pinned [.keyArrayData, .keyBuffer] [.keyArrayData, .keyBuffer]
      (decryptWith V secretKey input) (do
        let stream ← orThrow (V.stream.init secretKey) (.illegalState "stream context failure.")
        check (IV_SIZE ≤ input.length) (.java .nullPointerException "bad outputArray alloc.")
        let out := zeros (input.length - IV_SIZE)
        let stream ← orThrow (V.stream.startDecryption stream input)
          (.illegalState "could not start decryption stream.")
        let (_, out, _) ←
          streamDecrypt V stream (input.drop IV_SIZE) out 0 0 "could not decrypt input data."
        .ok out) := by
  refine .claim rfl (by decide) ?_
  refine .create rfl (by decide) fun stream => ?_
  refine .ensure rfl ?_
  refine .must rfl ?_
  refine .claim rfl (by decide) ?_
  exact .attempt rfl fun stream => finishDecryption_implements rfl stream _ _

theorem decryptField_implements (secretKey input : Bytes) :
    Implements plainLabels pinned [] [] (decryptField V env secretKey input)
      (env.whenInitialized (EncryptedCertificateReader.decryptNative V secretKey input)) := by
  refine .ensure rfl (pinKey_implements rfl ?_)
  exact .access fun secretKey => decryptWith_implements secretKey input

theorem decryptNative_implements (secretKey input : Bytes) :
    Implements plainLabels pinned [] [] (decryptNative V env secretKey input)
      (env.whenInitialized (GenericStreamCipher.decryptNative V secretKey input)) := by
  refine .ensure rfl (.ensure rfl (pinKey_implements rfl ?_))
  exact decryptWith_implements secretKey input

theorem decryptPiece_implements (secretKey iv input : Bytes) (offset : ℕ) :
    Implements vectorLabels pinned [] [] (decryptPiece V env secretKey iv input offset)
      (env.whenInitialized (EncryptedDocumentReader.decryptData V secretKey iv input offset)) := by
  refine .ensure rfl (pinKey_implements rfl ?_)
  refine .access fun secretKey => ?_
  iterate 2 refine .claim rfl (by decide) ?_
  refine .create rfl (by decide) fun stream => ?_
  refine .ensure rfl ?_
  refine .must rfl ?_
  refine .claim rfl (by decide) ?_
  by_cases hzero : offset = 0
  · simp only [if_pos hzero]
    exact .attempt rfl fun stream => finishDecryption_implements rfl stream _ _
  · simp only [if_neg hzero]
    refine .access fun iv => ?_
    exact .attempt rfl fun stream => finishDecryption_implements rfl stream _ _

/-! ### Every way through the methods -/

/-- **What the native data calls leave.** In every environment each of the six
does what its function does or throws because a call has failed. Unless it
touches memory outside an array, it leaves the array it was about to return
pinned exactly when it throws for the cipher, and gives back once everything
else it acquired. -/
theorem data_calls_leave (V : Vccrypt) (env : NativeEnv (NativeCall Resource Op)) :
    (∀ key iv input, LeavesBehind env vectorLabels pinned (encryptField V env key iv input)
      (EncryptedCertificateBuilder.encryptData V key iv input)) ∧
    (∀ key iv input, LeavesBehind env vectorLabels pinned (encryptNative V env key iv input)
      (GenericStreamCipher.encryptNative V key iv input)) ∧
    (∀ key iv input offset, LeavesBehind env vectorLabels pinned
      (encryptPiece V env key iv input offset)
      (EncryptedDocumentBuilder.encryptData V key iv input offset)) ∧
    (∀ secretKey input, LeavesBehind env plainLabels pinned (decryptField V env secretKey input)
      (EncryptedCertificateReader.decryptNative V secretKey input)) ∧
    (∀ secretKey input, LeavesBehind env plainLabels pinned (decryptNative V env secretKey input)
      (GenericStreamCipher.decryptNative V secretKey input)) ∧
    ∀ secretKey iv input offset, LeavesBehind env vectorLabels pinned
      (decryptPiece V env secretKey iv input offset)
      (EncryptedDocumentReader.decryptData V secretKey iv input offset) :=
  ⟨fun key iv input => (encryptField_implements key iv input).leavesOf,
    fun key iv input => (encryptNative_implements key iv input).leavesOf,
    fun key iv input offset => (encryptPiece_implements key iv input offset).leavesOf,
    fun secretKey input => (decryptField_implements secretKey input).leavesOf,
    fun secretKey input => (decryptNative_implements secretKey input).leavesOf,
    fun secretKey iv input offset =>
      (decryptPiece_implements secretKey iv input offset).leavesOf⟩

/-- A field whose cipher does not start leaves the array for it pinned. -/
example :
    ((⟨true, fun c => c == .op .startStream⟩ : NativeEnv (NativeCall Resource Op)).invoke
      vectorLabels (encryptField XorSuite.suite ⟨true, fun c => c == .op .startStream⟩
        (zeros 32) (zeros 8) [1])).2.live = [.outputArrayData] := by
  decide +kernel

end NativeData

end VjBlockchain
