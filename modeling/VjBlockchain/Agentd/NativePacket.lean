import VjBlockchain.Agentd.ExactCode
import VjBlockchain.Crypt.Native
/-!
# The native packet calls — resources

The four native methods under a session: the writer of packets, the two calls
of their reader, and the short-term secret. Each pins the arrays it is handed,
copies them into buffers and makes the contexts it needs, and every failure
has a label of its own to jump to.

The text of each follows its C function, label by label. What it computes is
the function of the same name in the envelope.
-/

namespace VjBlockchain

open Common Common.Bytes Common.Throwing

namespace NativePacket

/-- What the four methods acquire. -/
inductive Resource
  | digest
  | packet
  | sharedSecretBytes
  | sharedSecretBuffer
  | stream
  | mac
  | headerBytes
  | headerBuffer
  | dheaderBuffer
  | payloadBytes
  | payloadBuffer
  | dpayloadBuffer
  | clientPrivateKeyBytes
  | clientPrivateKeyBuffer
  | serverPublicKeyBytes
  | serverPublicKeyBuffer
  | serverNonceBytes
  | serverNonceBuffer
  | clientNonceBytes
  | clientNonceBuffer
  | agreement
  | retvalBytes
  deriving DecidableEq, Repr

/-- The calls that acquire nothing. -/
inductive Op
  | continueEncryption
  | encryptType
  | encryptSize
  | encryptPayload
  | continueDecryption
  | decrypt
  | digestHeader
  | digestPayload
  | finalize
  | secretCreate
  | newByteArray
  deriving DecidableEq, Repr

open NativeMethod Routine JavaException

variable (V : Vccrypt) (env : NativeEnv (NativeCall Resource Op))

/-- `encryptPayloadNative`. -/
def encryptPayloadNative (sharedSecret : Option Bytes) (iv : BitVec 64) (payload : Bytes) :
    NativeMethod Resource Op Bytes := do
  initialized env
  let sharedSecret ← require sharedSecret (nullPointer "shared_secret") none
  let digestSize := 32
  claim .digest (illegalState "digest buffer create failure.") none
  let nsize := toBE 4 payload.length
  claim .packet (illegalState "packet buffer create failure.") (some .digest)
  let packet := zeros (1 + 4 + digestSize + payload.length)
  claim .sharedSecretBytes (nullPointer "shared_secret_bytes") (some .packet)
  claim .sharedSecretBuffer (illegalState "shared secret buffer create failure.")
    (some .sharedSecretBytes)
  let stream ← create .stream (V.stream.init sharedSecret) (illegalState "stream context failure.")
    (some .sharedSecretBuffer)
  let mac ← create .mac (V.macShort.init sharedSecret) (illegalState "mac init failure.")
    (some .stream)
  let stream ← attempt .continueEncryption (V.stream.continueEncryption stream (hostBytes iv) 0)
    (illegalState "continue_encryption failure") (some .mac)
  let (stream, packet, offset) ← through .encryptType
    (streamEncrypt V stream [IPC_DATA_TYPE_AUTHED_PACKET] packet 0 0 "encryption failure - type")
    (illegalState "encryption failure - type") (some .mac)
  let (stream, packet, offset) ← through .encryptSize
    (streamEncrypt V stream nsize packet 0 offset "encryption failure - size")
    (illegalState "encryption failure - size") (some .mac)
  claim .payloadBytes (nullPointer "payload_bytes") (some .mac)
  claim .payloadBuffer (illegalState "payload buffer create failure.") (some .payloadBytes)
  let (_, packet, _) ← through .encryptPayload
    (streamEncrypt V stream payload packet digestSize offset "encryption failure - payload")
    (illegalState "encryption failure - payload") (some .payloadBuffer)
  let mac ← attempt .digestHeader (V.macShort.digest mac (slice packet 0 (1 + 4)))
    (illegalState "digest failure") (some .payloadBuffer)
  let mac ← attempt .digestPayload (V.macShort.digest mac
    (slice packet (1 + 4 + digestSize) (1 + 4 + digestSize + payload.length)))
    (illegalState "digest failure") (some .payloadBuffer)
  let digest ← attempt .finalize (V.macShort.finalize mac) (illegalState "finalize failure")
    (some .payloadBuffer)
  let packet ← access (Buffer.write packet (1 + 4) digest)
  let packet ← through .newByteArray
    (toByteArray packet (.illegalState "return value array could not be allocated."))
    (illegalState "return value array could not be allocated.") (some .payloadBuffer)
  claim .retvalBytes (illegalState "return value array data could not be dereferenced.")
    (some .payloadBuffer)
  dispose .retvalBytes
  pure packet

/-- `decryptHeaderNative`. -/
def decryptHeaderNative (sharedSecret : Option Bytes) (iv : BitVec 64) (header : Bytes) :
    NativeMethod Resource Op ℕ := do
  initialized env
  let sharedSecret ← require sharedSecret (nullPointer "shared_secret") none
  ensure (header.length = 5) (illegalState "invalid header size") none
  claim .sharedSecretBytes (nullPointer "shared_secret_bytes") none
  claim .sharedSecretBuffer (illegalState "shared secret buffer create failure.")
    (some .sharedSecretBytes)
  claim .headerBytes (nullPointer "header_bytes") (some .sharedSecretBuffer)
  claim .headerBuffer (illegalState "header buffer create failure.") (some .headerBytes)
  claim .dheaderBuffer (illegalState "decrypted header buffer create failure.")
    (some .headerBuffer)
  let dheader := zeros header.length
  let stream ← create .stream (V.stream.init sharedSecret)
    (illegalState "stream context failure.") (some .dheaderBuffer)
  let stream ← attempt .continueDecryption (V.stream.continueDecryption stream (hostBytes iv) 0)
    (illegalState "continue_decryption failure") (some .stream)
  let (_, dheader, _) ← through .decrypt
    (streamDecrypt V stream header dheader 0 0 "decryption failure")
    (illegalState "decryption failure") (some .stream)
  ensure (slice dheader 0 1 = [IPC_DATA_TYPE_AUTHED_PACKET]) (illegalState "invalid packet type")
    (some .stream)
  let payloadSize := ofBE (slice dheader 1 5)
  ensure (payloadSize ≤ MAX_PAYLOAD_SIZE) (illegalState "invalid packet size") (some .stream)
  pure payloadSize

/-- `decryptPayloadNative`; `payload` starts with the code. -/
def decryptPayloadNative (sharedSecret : Option Bytes) (iv : BitVec 64)
    (header payload : Bytes) : NativeMethod Resource Op Bytes := do
  initialized env
  let sharedSecret ← require sharedSecret (nullPointer "shared_secret") none
  claim .sharedSecretBytes (nullPointer "shared_secret_bytes") none
  claim .sharedSecretBuffer (illegalState "shared secret buffer create failure.")
    (some .sharedSecretBytes)
  claim .headerBytes (nullPointer "header_bytes") (some .sharedSecretBuffer)
  claim .headerBuffer (illegalState "header buffer create failure.") (some .headerBytes)
  claim .payloadBytes (nullPointer "payload_bytes") (some .headerBuffer)
  claim .payloadBuffer (illegalState "payload buffer create failure.") (some .payloadBytes)
  let macSize := V.macShort.macSize
  ensure (macSize ≤ payload.length)
    ⟨.messageVerificationException, "invalid payload size (MAC)"⟩ (some .payloadBuffer)
  let payloadBegin := payload.drop macSize
  let mac ← create .mac (V.macShort.init sharedSecret)
    (illegalState "MAC instance create failure.") (some .payloadBuffer)
  claim .digest (illegalState "digest buffer create failure.") (some .mac)
  let mac ← attempt .digestHeader (V.macShort.digest mac header) (illegalState "digest failure")
    (some .digest)
  let mac ← attempt .digestPayload (V.macShort.digest mac payloadBegin)
    (illegalState "digest failure") (some .digest)
  let digest ← attempt .finalize (V.macShort.finalize mac) (illegalState "finalize failure")
    (some .digest)
  ensure (slice payload 0 macSize = slice digest 0 macSize)
    ⟨.messageVerificationException, "Bad packet MAC"⟩ (some .digest)
  claim .dpayloadBuffer (illegalState "decrypted payload buffer create failure.") (some .digest)
  let dpayload := zeros (payload.length - macSize)
  let stream ← create .stream (V.stream.init sharedSecret)
    (illegalState "stream context failure.") (some .dpayloadBuffer)
  let stream ← attempt .continueDecryption (V.stream.continueDecryption stream (hostBytes iv) 5)
    (illegalState "continue_decryption failure") (some .stream)
  let (_, dpayload, _) ← through .decrypt
    (streamDecrypt V stream payloadBegin dpayload 0 0 "decryption failure")
    (illegalState "decryption failure") (some .stream)
  must .newByteArray (illegalState "return value array could not be allocated.") (some .stream)
  claim .retvalBytes (illegalState "return value array data could not be dereferenced.")
    (some .stream)
  dispose .retvalBytes
  pure dpayload

/-- `computeSharedSecretNative`. -/
def computeSharedSecretNative (clientPrivateKey serverPublicKey serverNonce clientNonce : Bytes) :
    NativeMethod Resource Op Bytes := do
  initialized env
  claim .clientPrivateKeyBytes (nullPointer "client_private_key_bytes") none
  claim .clientPrivateKeyBuffer (illegalState "client private key buffer creation failure.")
    (some .clientPrivateKeyBytes)
  claim .serverPublicKeyBytes (nullPointer "server_public_key_bytes")
    (some .clientPrivateKeyBuffer)
  claim .serverPublicKeyBuffer (illegalState "server public key buffer creation failure.")
    (some .serverPublicKeyBytes)
  claim .serverNonceBytes (nullPointer "server_nonce_bytes") (some .serverPublicKeyBuffer)
  claim .serverNonceBuffer (illegalState "server nonce buffer creation failure.")
    (some .serverNonceBytes)
  claim .clientNonceBytes (nullPointer "client_nonce_bytes") (some .serverNonceBuffer)
  claim .clientNonceBuffer (illegalState "client nonce buffer creation failure.")
    (some .clientNonceBytes)
  claim .sharedSecretBuffer
    (illegalState "vccrypt_suite_buffer_init_for_cipher_key_agreement_shared_secret")
    (some .clientNonceBuffer)
  claim .agreement (illegalState "vccrypt_suite_cipher_key_agreement_init")
    (some .sharedSecretBuffer)
  let sharedSecret ← attempt .secretCreate
    (V.shortTermSecret clientPrivateKey serverPublicKey serverNonce clientNonce)
    (illegalState "vccrypt_key_agreement_short_term_secret_create") (some .agreement)
  must .newByteArray (nullPointer "return value array could not be allocated.")
    (some .agreement)
  claim .retvalBytes (nullPointer "return value array data could not be dereferenced.")
    (some .agreement)
  dispose .retvalBytes
  pure sharedSecret

/-! ## The labels -/

/-- The labels of `encryptPayloadNative`. -/
def encryptPayloadLabels : List Resource :=
  [.payloadBuffer, .payloadBytes, .mac, .stream, .sharedSecretBuffer, .sharedSecretBytes, .packet,
    .digest]

/-- The labels of `decryptHeaderNative`. -/
def decryptHeaderLabels : List Resource :=
  [.stream, .dheaderBuffer, .headerBuffer, .headerBytes, .sharedSecretBuffer, .sharedSecretBytes]

/-- The labels of `decryptPayloadNative`. -/
def decryptPayloadLabels : List Resource :=
  [.stream, .dpayloadBuffer, .digest, .mac, .payloadBuffer, .payloadBytes, .headerBuffer,
    .headerBytes, .sharedSecretBuffer, .sharedSecretBytes]

/-- The labels of `computeSharedSecretNative`. -/
def computeSharedSecretLabels : List Resource :=
  [.agreement, .sharedSecretBuffer, .clientNonceBuffer, .clientNonceBytes, .serverNonceBuffer,
    .serverNonceBytes, .serverPublicKeyBuffer, .serverPublicKeyBytes, .clientPrivateKeyBuffer,
    .clientPrivateKeyBytes]

/-! ## Each method, step by step -/

variable {V env}

theorem encryptPayloadNative_implements (sharedSecret : Option Bytes) (iv : BitVec 64)
    (payload : Bytes) :
    Implements encryptPayloadLabels (fun _ => []) [] []
      (encryptPayloadNative V env sharedSecret iv payload)
      (env.whenInitialized (VjBlockchain.encryptPayloadNative V sharedSecret iv payload)) := by
  refine .ensure rfl ?_
  refine .require rfl fun sharedSecret => ?_
  iterate 4 refine .claim rfl (by decide) ?_
  refine .create rfl (by decide) fun stream => ?_
  refine .create rfl (by decide) fun mac => ?_
  refine .attempt rfl fun stream => ?_
  refine .through rfl throwsOnly_streamEncrypt fun ⟨stream, packet, offset⟩ => ?_
  refine .through rfl throwsOnly_streamEncrypt fun ⟨stream, packet, offset⟩ => ?_
  refine .claim rfl (by decide) ?_
  refine .claim rfl (by decide) ?_
  refine .through rfl throwsOnly_streamEncrypt fun ⟨_, packet, _⟩ => ?_
  refine .attempt rfl fun mac => ?_
  refine .attempt rfl fun mac => ?_
  refine .attempt rfl fun digest => ?_
  refine .access fun packet => ?_
  refine .of_bind_ok (.through rfl (.toByteArray _ _) fun packet => ?_)
  refine .claim rfl (by decide) ?_
  refine .dispose (by decide) ?_
  exact .done rfl packet

theorem decryptHeaderNative_implements (sharedSecret : Option Bytes) (iv : BitVec 64)
    (header : Bytes) :
    Implements decryptHeaderLabels (fun _ => []) [] []
      (decryptHeaderNative V env sharedSecret iv header)
      (env.whenInitialized (VjBlockchain.decryptHeaderNative V sharedSecret iv header)) := by
  refine .ensure rfl ?_
  refine .require rfl fun sharedSecret => ?_
  refine .ensure rfl ?_
  iterate 5 refine .claim rfl (by decide) ?_
  refine .create rfl (by decide) fun stream => ?_
  refine .attempt rfl fun stream => ?_
  refine .through rfl throwsOnly_streamDecrypt fun ⟨_, dheader, _⟩ => ?_
  refine .ensure rfl ?_
  refine .ensure rfl ?_
  exact .done rfl _

theorem decryptPayloadNative_implements (sharedSecret : Option Bytes) (iv : BitVec 64)
    (header payload : Bytes) :
    Implements decryptPayloadLabels (fun _ => []) [] []
      (decryptPayloadNative V env sharedSecret iv header payload)
      (env.whenInitialized
        (VjBlockchain.decryptPayloadNative V sharedSecret iv header payload)) := by
  refine .ensure rfl ?_
  refine .require rfl fun sharedSecret => ?_
  iterate 6 refine .claim rfl (by decide) ?_
  refine .ensure rfl ?_
  refine .create rfl (by decide) fun mac => ?_
  refine .claim rfl (by decide) ?_
  refine .attempt rfl fun mac => ?_
  refine .attempt rfl fun mac => ?_
  refine .attempt rfl fun digest => ?_
  refine .ensure rfl ?_
  refine .claim rfl (by decide) ?_
  refine .create rfl (by decide) fun stream => ?_
  refine .attempt rfl fun stream => ?_
  refine .through rfl throwsOnly_streamDecrypt fun ⟨_, dpayload, _⟩ => ?_
  refine .must rfl ?_
  refine .claim rfl (by decide) ?_
  refine .dispose (by decide) ?_
  exact .done rfl dpayload

theorem computeSharedSecretNative_implements
    (clientPrivateKey serverPublicKey serverNonce clientNonce : Bytes) :
    Implements computeSharedSecretLabels (fun _ => []) [] []
      (computeSharedSecretNative V env clientPrivateKey serverPublicKey serverNonce clientNonce)
      (env.whenInitialized
        (computeSharedSecret V clientPrivateKey serverPublicKey serverNonce clientNonce)) := by
  refine .ensure rfl ?_
  iterate 10 refine .claim rfl (by decide) ?_
  refine .of_bind_ok (.attempt rfl fun sharedSecret => ?_)
  refine .must rfl ?_
  refine .claim rfl (by decide) ?_
  refine .dispose (by decide) ?_
  exact .done rfl sharedSecret

/-! ## Every way through the methods -/

/-- **The native packet calls settle, whichever call fails.** In every
environment each of them does what its function does or throws because a call
has failed; and whatever it pins, allocates or makes it gives back once. -/
theorem packet_calls_settle (hV : V.Lawful) (env : NativeEnv (NativeCall Resource Op)) :
    (∀ sharedSecret iv payload, Settles env encryptPayloadLabels
      (encryptPayloadNative V env sharedSecret iv payload)
      (VjBlockchain.encryptPayloadNative V sharedSecret iv payload)) ∧
    (∀ sharedSecret iv header, Settles env decryptHeaderLabels
      (decryptHeaderNative V env sharedSecret iv header)
      (VjBlockchain.decryptHeaderNative V sharedSecret iv header)) ∧
    (∀ sharedSecret iv header payload, Settles env decryptPayloadLabels
      (decryptPayloadNative V env sharedSecret iv header payload)
      (VjBlockchain.decryptPayloadNative V sharedSecret iv header payload)) ∧
    ∀ clientPrivateKey serverPublicKey serverNonce clientNonce,
      Settles env computeSharedSecretLabels
        (computeSharedSecretNative V env clientPrivateKey serverPublicKey serverNonce clientNonce)
        (computeSharedSecret V clientPrivateKey serverPublicKey serverNonce clientNonce) := by
  have hnull : ∀ {α : Type} (f : Bytes → Except Fault α),
      InBounds (orThrow none (.java .nullPointerException "shared_secret") >>= f) :=
    fun f => .bind (.orThrow ..) fun _ h => by cases h
  refine ⟨fun sharedSecret iv payload => ?_, fun sharedSecret iv header => ?_,
    fun sharedSecret iv header payload => ?_, fun _ _ _ _ => ?_⟩
  · refine (encryptPayloadNative_implements ..).settles ?_
    cases sharedSecret with
    | none => exact hnull _
    | some key => exact encryptPayloadNative_inBounds hV ..
  · refine (decryptHeaderNative_implements ..).settles ?_
    cases sharedSecret with
    | none => exact hnull _
    | some key => exact decryptHeaderNative_inBounds hV ..
  · refine (decryptPayloadNative_implements ..).settles ?_
    cases sharedSecret with
    | none => exact hnull _
    | some key => exact decryptPayloadNative_inBounds hV ..
  · exact (computeSharedSecretNative_implements ..).settles (.orThrow ..)

/-- The payload cannot be digested. -/
def undigested : NativeEnv (NativeCall Resource Op) := ⟨true, fun c => c == .op .digestPayload⟩

/-- Two contexts and six buffers or arrays are given back by a call that fails
late. -/
theorem packet_calls_settle_undigested :
    (undigested.invoke encryptPayloadLabels
        (encryptPayloadNative XorSuite.suite undigested (some (zeros 32)) 1 [1])).1 =
      .error (.illegalState "digest failure") ∧
    (undigested.invoke encryptPayloadLabels
      (encryptPayloadNative XorSuite.suite undigested (some (zeros 32)) 1 [1])).2.released.length =
        8 ∧
    (undigested.invoke encryptPayloadLabels
      (encryptPayloadNative XorSuite.suite undigested (some (zeros 32)) 1 [1])).2.Settled :=
  ⟨by decide +kernel, by decide +kernel,
    ((packet_calls_settle XorSuite.suite_lawful undigested).1 (some (zeros 32)) 1 [1]).settled⟩

end NativePacket

end VjBlockchain
