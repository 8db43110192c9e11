import VjBlockchain.Crypt.Vccrypt
/-!
# The outer envelope — packets of the agent protocol

A packet is a masked type octet and size, a short code, and the masked
payload. `encryptPayloadNative` lays it out in a buffer allocated at its
final size: the header is masked in place at positions 0 to 4 of the stream,
the payload at positions from 5 on but 32 octets further along in the buffer,
and the code goes into the hole between them. `decryptHeaderNative` and
`decryptPayloadNative` take the two parts apart again, in two calls with two
cipher instances.

`OuterEnvelopeWriter` and `OuterEnvelopeReader` hold the two packet counters.
The counter is a `long` that wraps, and moves only when a call returns.
-/

namespace VjBlockchain

open Common Common.Bytes Common.Throwing

/-- The largest payload a reader takes. -/
def MAX_PAYLOAD_SIZE : ℕ := 10 * 1024 * 1024

def IPC_DATA_TYPE_AUTHED_PACKET : UInt8 := 0x30

variable (V : Vccrypt)

/-- `OuterEnvelopeWriter.encryptPayloadNative`. -/
def encryptPayloadNative (sharedSecret : Option Bytes) (iv : BitVec 64) (payload : Bytes) :
    Except Fault Bytes := do
  let sharedSecret ← orThrow sharedSecret (.java .nullPointerException "shared_secret")
  let digestSize := 32
  let nsize := toBE 4 payload.length
  let packet := zeros (1 + 4 + digestSize + payload.length)
  let stream ← orThrow (V.stream.init sharedSecret) (.illegalState "stream context failure.")
  let mac ← orThrow (V.macShort.init sharedSecret) (.illegalState "mac init failure.")
  let stream ← orThrow (V.stream.continueEncryption stream (hostBytes iv) 0)
    (.illegalState "continue_encryption failure")
  let (stream, packet, offset) ←
    streamEncrypt V stream [IPC_DATA_TYPE_AUTHED_PACKET] packet 0 0 "encryption failure - type"
  let (stream, packet, offset) ←
    streamEncrypt V stream nsize packet 0 offset "encryption failure - size"
  -- the payload keeps its stream position but is stored behind the code
  let (_, packet, _) ←
    streamEncrypt V stream payload packet digestSize offset "encryption failure - payload"
  let mac ← orThrow (V.macShort.digest mac (slice packet 0 (1 + 4)))
    (.illegalState "digest failure")
  let mac ← orThrow (V.macShort.digest mac
    (slice packet (1 + 4 + digestSize) (1 + 4 + digestSize + payload.length)))
    (.illegalState "digest failure")
  let digest ← orThrow (V.macShort.finalize mac) (.illegalState "finalize failure")
  let packet ← orThrow (Buffer.write packet (1 + 4) digest) .outOfBounds
  toByteArray packet (.illegalState "return value array could not be allocated.")

/-- `OuterEnvelopeReader.decryptHeaderNative`: the payload size. -/
def decryptHeaderNative (sharedSecret : Option Bytes) (iv : BitVec 64) (header : Bytes) :
    Except Fault ℕ := do
  let sharedSecret ← orThrow sharedSecret (.java .nullPointerException "shared_secret")
  check (header.length = 5) (.illegalState "invalid header size")
  let dheader := zeros header.length
  let stream ← orThrow (V.stream.init sharedSecret) (.illegalState "stream context failure.")
  let stream ← orThrow (V.stream.continueDecryption stream (hostBytes iv) 0)
    (.illegalState "continue_decryption failure")
  let (_, dheader, _) ← streamDecrypt V stream header dheader 0 0 "decryption failure"
  check (slice dheader 0 1 = [IPC_DATA_TYPE_AUTHED_PACKET]) (.illegalState "invalid packet type")
  let payloadSize := ofBE (slice dheader 1 5)
  check (payloadSize ≤ MAX_PAYLOAD_SIZE) (.illegalState "invalid packet size")
  .ok payloadSize

/-- `OuterEnvelopeReader.decryptPayloadNative`; `payload` starts with the code. -/
def decryptPayloadNative (sharedSecret : Option Bytes) (iv : BitVec 64)
    (header payload : Bytes) : Except Fault Bytes := do
  let sharedSecret ← orThrow sharedSecret (.java .nullPointerException "shared_secret")
  let macSize := V.macShort.macSize
  check (macSize ≤ payload.length)
    (.java .messageVerificationException "invalid payload size (MAC)")
  let payloadBegin := payload.drop macSize
  let mac ← orThrow (V.macShort.init sharedSecret) (.illegalState "MAC instance create failure.")
  let mac ← orThrow (V.macShort.digest mac header) (.illegalState "digest failure")
  let mac ← orThrow (V.macShort.digest mac payloadBegin) (.illegalState "digest failure")
  let digest ← orThrow (V.macShort.finalize mac) (.illegalState "finalize failure")
  check (slice payload 0 macSize = slice digest 0 macSize)
    (.java .messageVerificationException "Bad packet MAC")
  let dpayload := zeros (payload.length - macSize)
  let stream ← orThrow (V.stream.init sharedSecret) (.illegalState "stream context failure.")
  let stream ← orThrow (V.stream.continueDecryption stream (hostBytes iv) 5)
    (.illegalState "continue_decryption failure")
  let (_, dpayload, _) ← streamDecrypt V stream payloadBegin dpayload 0 0 "decryption failure"
  .ok dpayload

/-! ## The two counters -/

/-- The writing end: the counter of the next packet sent. -/
structure OuterEnvelopeWriter where
  iv : BitVec 64
  deriving DecidableEq, Repr

/-- The reading end: the counter of the next packet received. -/
structure OuterEnvelopeReader where
  iv : BitVec 64
  deriving DecidableEq, Repr

namespace OuterEnvelopeWriter

/-- `new OuterEnvelopeWriter()`. -/
def new : OuterEnvelopeWriter := ⟨0x0000000000000001⟩

def encryptPayload (w : OuterEnvelopeWriter) (key : Option Bytes) (payload : Bytes) :
    Except Fault (Bytes × OuterEnvelopeWriter) := do
  let encryptedPayload ← encryptPayloadNative V key w.iv payload
  .ok (encryptedPayload, ⟨w.iv + 1⟩)

end OuterEnvelopeWriter

namespace OuterEnvelopeReader

/-- `new OuterEnvelopeReader()`. -/
def new : OuterEnvelopeReader := ⟨0x8000000000000001⟩

def decryptHeader (r : OuterEnvelopeReader) (key : Option Bytes) (header : Bytes) :
    Except Fault ℕ :=
  decryptHeaderNative V key r.iv header

def decryptPayload (r : OuterEnvelopeReader) (key : Option Bytes) (header payload : Bytes) :
    Except Fault (Bytes × OuterEnvelopeReader) := do
  let decryptedPayload ← decryptPayloadNative V key r.iv header payload
  .ok (decryptedPayload, ⟨r.iv + 1⟩)

end OuterEnvelopeReader

/-- **Reading one packet off a byte stream**, in the order every response
reader of `ProtocolHandlerImpl` does it: five octets, then as many as the
header says and the code besides. What is left of the stream comes back. -/
def readPacket (sharedSecret : Option Bytes) (iv : BitVec 64) (stream : Bytes) :
    Except Fault (Bytes × Bytes) := do
  check (5 ≤ stream.length) (.java .ioException "")
  let header := stream.take 5
  let payloadSize ← decryptHeaderNative V sharedSecret iv header
  let stream := stream.drop 5
  check (payloadSize + 32 ≤ stream.length) (.java .ioException "")
  let payload ← decryptPayloadNative V sharedSecret iv header (stream.take (payloadSize + 32))
  .ok (payload, stream.drop (payloadSize + 32))

end VjBlockchain
