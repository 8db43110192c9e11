import VjBlockchain.Common.Source
import VjBlockchain.Crypt.KeyWrap
/-!
# Encrypted documents — builder, reader, and the natives under them

A document is encrypted as it is read: each piece the source returns goes to
`encryptData` with the offset reached so far, and a fresh cipher instance is
started or continued there. Offset zero doubles as the order to put the
vector in front. The reader takes the vector off first, prepends it to the
piece it reads at offset zero, and otherwise runs the same loop.

The secret key travels to a subscriber wrapped under a long-term secret: two
blocks, each chained to the sixteen octets in front of it.

Random draws (the secret key, the vector of a document, the vector of a
wrapped key) are arguments. Native code copies 32 octets of a key whatever
the length of the array it is given; a shorter array is read out of bounds.
-/

namespace VjBlockchain

open Common Common.Bytes Common.Throwing

variable (V : Vccrypt)

/-- `EncryptedDocumentBuilder.BUFFER_SIZE`. -/
def BUFFER_SIZE : ℕ := 4096

/-- The stream vector's size. -/
def IV_SIZE : ℕ := 8

/-! ## The builder -/

namespace EncryptedDocumentBuilder

/-- `encryptKey`; `iv` is what the generator put in the vector's buffer. -/
def encryptKey (localPrivate peerPublic key iv : Bytes) : Except Fault Bytes := do
  let secret ← longTermSecret V localPrivate peerPublic
  let out ← newByteArray (16 + key.length) "outputArray creation failure."
  let block ← orThrow (V.block.init secret true) (.illegalState "block cipher creation failure.")
  let out ← orThrow (Buffer.write out 0 iv) .outOfBounds
  let out ← blockEncrypt V block key out 0 0 16 "block cipher block 1 encrypt failure."
  blockEncrypt V block key out 16 16 32 "block cipher block 2 encrypt failure."

/-- `encryptData`. -/
def encryptData (key iv input : Bytes) (offset : ℕ) : Except Fault Bytes := do
  let key ← orThrow (Buffer.read key 0 32) .outOfBounds
  let stream ← orThrow (V.stream.init key) (.illegalState "stream context failure.")
  let outputBufferOffset := if offset = 0 then IV_SIZE else 0
  let out ← newByteArray (outputBufferOffset + input.length) "bad outputArray alloc."
  let iv ← orThrow (Buffer.read iv 0 8) .outOfBounds
  let (out, stream) ←
    if offset = 0 then do
      let (header, stream) ← orThrow (V.stream.startEncryption stream iv)
        (.illegalState "could not start encryption stream.")
      let out ← orThrow (Buffer.write out offset header) .outOfBounds
      Except.ok (out, stream)
    else do
      let stream ← orThrow (V.stream.continueEncryption stream iv offset)
        (.illegalState "could not continue encryption stream.")
      Except.ok (out, stream)
  let (_, out, _) ←
    streamEncrypt V stream input out 0 outputBufferOffset "could not encrypt input data."
  .ok out

/-- The `while` loop of `encrypt`, on the two streams and the offset. -/
def encryptLoop (secretKey iv : Bytes) (source : Source) (destination : Bytes) (offset : ℕ) :
    EStateM.Result Fault (Source × Bytes) Unit :=
  Source.transcribe (encryptData V secretKey iv) (by decide : 0 < BUFFER_SIZE) source destination
    offset

end EncryptedDocumentBuilder

/-- A builder: its creator's key pair, the secret key drawn for the document,
and the streams it was given. -/
structure EncryptedDocumentBuilder where
  keyPair : EncryptionKeyPair V
  secretKey : Bytes
  length_secretKey : secretKey.length = 32
  source : Option Source
  destination : Option Bytes

namespace EncryptedDocumentBuilder

/-- `createDocumentBuilder`, with the secret key the generator returned. -/
def createDocumentBuilder (keyPair : EncryptionKeyPair V) (secretKey : Bytes)
    (h : secretKey.length = 32) : EncryptedDocumentBuilder V :=
  ⟨keyPair, secretKey, h, none, none⟩

variable {V}

def withSource (b : EncryptedDocumentBuilder V) (source : Source) : EncryptedDocumentBuilder V :=
  { b with source := some source }

def withDestination (b : EncryptedDocumentBuilder V) (destination : Bytes) :
    EncryptedDocumentBuilder V :=
  { b with destination := some destination }

/-- `createEncryptedSharedSecret`. -/
def createEncryptedSharedSecret (b : EncryptedDocumentBuilder V) (publicKey iv : Bytes) :
    Except Fault Bytes :=
  encryptKey V b.keyPair.privateKey publicKey b.secretKey iv

/-- `encrypt`, with the vector it draws. -/
def encrypt (iv : Bytes) : EStateM Fault (EncryptedDocumentBuilder V) Unit := fun b =>
  match b.source, b.destination with
  | none, _ => .error (.illegalState "source not provided") b
  | some _, none => .error (.illegalState "destination not provided") b
  | some source, some destination =>
    match encryptLoop V b.secretKey iv source destination 0 with
    | .ok _ s => .ok () ((b.withSource s.1).withDestination s.2)
    | .error f s => .error f ((b.withSource s.1).withDestination s.2)

end EncryptedDocumentBuilder

/-! ## The reader -/

namespace EncryptedDocumentReader

/-- `decryptKey`. -/
def decryptKey (localPrivateKey peerPublicKey encryptedKey : Bytes) : Except Fault Bytes := do
  let secret ← longTermSecret V localPrivateKey peerPublicKey
  check (16 ≤ encryptedKey.length) (.java .nullPointerException "outputArray creation failure.")
  let out := zeros (encryptedKey.length - 16)
  let block ← orThrow (V.block.init secret false) (.illegalState "block cipher creation failure.")
  let out ← blockDecrypt V block encryptedKey out 0 16 0 "block cipher block 1 decrypt failure."
  blockDecrypt V block encryptedKey out 16 32 16 "block cipher block 2 decrypt failure."

/-- `decryptData`. -/
def decryptData (secretKey iv input : Bytes) (offset : ℕ) : Except Fault Bytes := do
  let secretKey ← orThrow (Buffer.read secretKey 0 32) .outOfBounds
  let stream ← orThrow (V.stream.init secretKey) (.illegalState "stream context failure.")
  let inputBufferOffset := if offset = 0 then IV_SIZE else 0
  check (inputBufferOffset ≤ input.length) (.java .nullPointerException "bad outputArray alloc.")
  let out := zeros (input.length - inputBufferOffset)
  let stream ←
    if offset = 0 then
      orThrow (V.stream.startDecryption stream input)
        (.illegalState "could not start decryption stream.")
    else do
      let iv ← orThrow (Buffer.read iv 0 8) .outOfBounds
      orThrow (V.stream.continueDecryption stream iv offset)
        (.illegalState "could not continue decryption stream.")
  let (_, out, _) ← streamDecrypt V stream (input.drop inputBufferOffset) out 0 0
    "could not decrypt input data."
  .ok out

/-- The chunk the loop hands to `decryptData`: at offset zero the piece read
goes behind the vector. -/
def chunkOf (iv piece : Bytes) (offset : ℕ) : Except Fault Bytes :=
  if offset = 0 then arraycopy piece 0 (iv ++ zeros piece.length) iv.length piece.length
  else .ok piece

/-- What a turn makes of the piece it reads. -/
def decryptPiece (secretKey iv piece : Bytes) (offset : ℕ) : Except Fault Bytes := do
  let chunk ← chunkOf iv piece offset
  decryptData V secretKey iv chunk offset

/-- The `while` loop of `decrypt`. -/
def decryptLoop (secretKey iv : Bytes) (source : Source) (destination : Bytes) (offset : ℕ) :
    EStateM.Result Fault (Source × Bytes) Unit :=
  Source.transcribe (decryptPiece V secretKey iv) (by decide : 0 < BUFFER_SIZE) source destination
    offset

/-- `source.read(iv, 0, 8)` into a fresh array, its result ignored: what a
short read leaves of the array stays zero. -/
def readIv (source : Source) : Bytes × Source :=
  match source.read IV_SIZE with
  | none => (zeros IV_SIZE, source)
  | some (piece, source') => (piece ++ zeros (IV_SIZE - piece.length), source')

end EncryptedDocumentReader

/-- A reader: the secret key it recovered, and the streams it was given. -/
structure EncryptedDocumentReader where
  secretKey : Bytes
  source : Option Source
  destination : Option Bytes

namespace EncryptedDocumentReader

/-- `new EncryptedDocumentReader(localPrivateKey, peerPublicKey, sharedSecret)`. -/
def new (localPrivateKey peerPublicKey sharedSecret : Bytes) :
    Except Fault EncryptedDocumentReader := do
  let secretKey ← decryptKey V localPrivateKey peerPublicKey sharedSecret
  .ok ⟨secretKey, none, none⟩

def withSource (r : EncryptedDocumentReader) (source : Source) : EncryptedDocumentReader :=
  { r with source := some source }

def withDestination (r : EncryptedDocumentReader) (destination : Bytes) :
    EncryptedDocumentReader :=
  { r with destination := some destination }

/-- `decrypt`. -/
def decrypt : EStateM Fault EncryptedDocumentReader Unit := fun r =>
  match r.source, r.destination with
  | none, _ => .error (.illegalState "source not provided") r
  | some _, none => .error (.illegalState "destination not provided") r
  | some source, some destination =>
    let (iv, source) := readIv source
    match decryptLoop V r.secretKey iv source destination 0 with
    | .ok _ s => .ok () ((r.withSource s.1).withDestination s.2)
    | .error f s => .error f ((r.withSource s.1).withDestination s.2)

end EncryptedDocumentReader

/-! ## One shot -/

/-- `GenericStreamCipher.encryptNative`, which allocates its result through an
array size of 32 bits. -/
def GenericStreamCipher.encryptNative (key iv input : Bytes) : Except Fault Bytes := do
  check (key.length = V.stream.keySize) (.illegalState "Invalid key size.")
  let stream ← orThrow (V.stream.init key) (.illegalState "stream context failure.")
  let out ← newByteArray (IV_SIZE + input.length) "bad outputArray alloc."
  let iv ← orThrow (Buffer.read iv 0 8) .outOfBounds
  let (header, stream) ← orThrow (V.stream.startEncryption stream iv)
    (.illegalState "could not start encryption stream.")
  let out ← orThrow (Buffer.write out 0 header) .outOfBounds
  let (_, out, _) ←
    streamEncrypt V stream input out 0 header.length "could not encrypt input data."
  .ok out

end VjBlockchain
