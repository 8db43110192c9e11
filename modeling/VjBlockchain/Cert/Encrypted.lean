import VjBlockchain.Cert.RoundTrip
import VjBlockchain.Document.RoundTrip
/-!
# Encrypted certificates — builder, reader, and the natives under them

An encrypted builder is a builder with a key pair, a secret key drawn when it
was made, and a counter. Each `addEncrypted` method serializes its value and
ends in `addEncryptedByteArray`, which takes the counter as the vector of a
fresh stream and stores vector and masked value as one field; the counter has
moved on before anything can throw. The secret key goes to a recipient as a
certificate fragment of its own, inside a field of the certificate.

The reader scans the fragments for its entity's and unwraps the key from the
first one. Plain and encrypted values share the field ids and the index among
the values of an id.
-/

namespace VjBlockchain

open Common Common.Bytes Common.Throwing

namespace Field

def VELO_ENCRYPTED_SHARED_SECRET_FRAGMENT : JInt := 0x00A0
def VELO_ENCRYPTED_SHARED_SECRET_ENTITY_UUID : JInt := 0x00A1
def VELO_ENCRYPTED_SHARED_SECRET_KEY : JInt := 0x00A2

end Field

/-- A call of `addEncryptedSharedSecret`, with the vector `encryptKey` draws. -/
structure SharedSecret where
  entityId : UUID
  publicKey : Bytes
  wrapIv : Bytes
  length_wrapIv : wrapIv.length = 16

variable (V : Vccrypt) (C : Vccert)

/-! ## The builder -/

/-- An encrypted builder. -/
structure EncryptedCertificateBuilder extends CertificateBuilder where
  keyPair : EncryptionKeyPair V
  secretKey : Bytes
  length_secretKey : secretKey.length = 32
  iv : BitVec 64

namespace EncryptedCertificateBuilder

/-- `encryptData`. -/
def encryptData (key iv input : Bytes) : Except Fault Bytes := do
  let key ← orThrow (Buffer.read key 0 32) .outOfBounds
  let stream ← orThrow (V.stream.init key) (.illegalState "stream context failure.")
  let out ← newByteArray (IV_SIZE + input.length) "bad outputArray alloc."
  let iv ← orThrow (Buffer.read iv 0 8) .outOfBounds
  let (header, stream) ← orThrow (V.stream.startEncryption stream iv)
    (.illegalState "could not start encryption stream.")
  let out ← orThrow (Buffer.write out 0 header) .outOfBounds
  let (_, out, _) ←
    streamEncrypt V stream input out 0 header.length "could not encrypt input data."
  .ok out

/-- `encryptKey`, step for step that of a document. -/
def encryptKey (localPrivateKey peerPublicKey inputKey iv : Bytes) : Except Fault Bytes :=
  EncryptedDocumentBuilder.encryptKey V localPrivateKey peerPublicKey inputKey iv

variable {V}

/-- `createCertificateBuilder`, with the secret key the generator returned. -/
def createCertificateBuilder (keyPair : EncryptionKeyPair V) (certificateType : UUID)
    (secretKey : Bytes) (h : secretKey.length = 32) : EncryptedCertificateBuilder V :=
  { CertificateBuilder.createCertificateBuilder certificateType with
    keyPair := keyPair
    secretKey := secretKey
    length_secretKey := h
    iv := 0 }

/-- One of the inherited `add` methods. -/
def add (c : AddCall) : EStateM Fault (EncryptedCertificateBuilder V) Unit := do
  let b ← get
  let added ← Effect.lift (AddCall.call b.toCertificateBuilder c)
  set { b with toCertificateBuilder := added }

section Masked

-- what `encryptData` does with a key, a vector and a value
variable (encryptData : Bytes → Bytes → Bytes → Except Fault Bytes)

def addEncryptedByteArray (fieldId : JInt) (value : Bytes) :
    EStateM Fault (EncryptedCertificateBuilder V) Unit := do
  let b ← get
  set { b with iv := b.iv + 1 }
  let encryptedValue ←
    Effect.lift (encryptData b.secretKey (CertificateBuilder.serializeLong b.iv) value)
  add (.addByteArray fieldId encryptedValue)

def addEncryptedByte (fieldId : JInt) (value : BitVec 8) :
    EStateM Fault (EncryptedCertificateBuilder V) Unit :=
  addEncryptedByteArray encryptData fieldId (CertificateBuilder.serializeByte value)

def addEncryptedShort (fieldId value : JInt) :
    EStateM Fault (EncryptedCertificateBuilder V) Unit :=
  addEncryptedByteArray encryptData fieldId (CertificateBuilder.serializeShort value)

def addEncryptedInt (fieldId value : JInt) : EStateM Fault (EncryptedCertificateBuilder V) Unit :=
  addEncryptedByteArray encryptData fieldId (CertificateBuilder.serializeInt value)

def addEncryptedLong (fieldId : JInt) (value : BitVec 64) :
    EStateM Fault (EncryptedCertificateBuilder V) Unit :=
  addEncryptedByteArray encryptData fieldId (CertificateBuilder.serializeLong value)

def addEncryptedUUID (fieldId : JInt) (value : UUID) :
    EStateM Fault (EncryptedCertificateBuilder V) Unit :=
  addEncryptedByteArray encryptData fieldId (CertificateBuilder.serializeUUID value)

def addEncryptedString (fieldId : JInt) (value : JString) :
    EStateM Fault (EncryptedCertificateBuilder V) Unit :=
  addEncryptedByteArray encryptData fieldId (CertificateBuilder.serializeString value)

def addEncryptedDate (fieldId : JInt) (value : BitVec 64) :
    EStateM Fault (EncryptedCertificateBuilder V) Unit :=
  addEncryptedByteArray encryptData fieldId (CertificateBuilder.serializeDate value)

end Masked

/-- The fragment for a recipient. -/
def fragmentBuilder (entityId : UUID) (encryptedKey : Bytes) : CertificateBuilder :=
  (CertificateBuilder.createCertificateFragmentBuilder.addUUID
    Field.VELO_ENCRYPTED_SHARED_SECRET_ENTITY_UUID entityId).addByteArray
    Field.VELO_ENCRYPTED_SHARED_SECRET_KEY encryptedKey

def addEncryptedSharedSecret (s : SharedSecret) :
    EStateM Fault (EncryptedCertificateBuilder V) Unit := do
  let b ← get
  let encryptedKey ←
    Effect.lift (encryptKey V b.keyPair.privateKey s.publicKey b.secretKey s.wrapIv)
  let fragment ← Effect.lift ((fragmentBuilder s.entityId encryptedKey).emit C)
  add (.addByteArray Field.VELO_ENCRYPTED_SHARED_SECRET_FRAGMENT fragment.byteArray)

end EncryptedCertificateBuilder

/-- A call of one of the `addEncrypted` methods for a value. -/
inductive EncryptedAdd
  | addEncryptedByte (fieldId : JInt) (value : BitVec 8)
  | addEncryptedShort (fieldId value : JInt)
  | addEncryptedInt (fieldId value : JInt)
  | addEncryptedLong (fieldId : JInt) (value : BitVec 64)
  | addEncryptedUUID (fieldId : JInt) (value : UUID)
  | addEncryptedString (fieldId : JInt) (value : JString)
  | addEncryptedDate (fieldId : JInt) (value : BitVec 64)
  | addEncryptedByteArray (fieldId : JInt) (value : Bytes)

namespace EncryptedAdd

/-- The field id the call names. -/
def fieldId : EncryptedAdd → JInt
  | addEncryptedByte f _ | addEncryptedShort f _ | addEncryptedInt f _ | addEncryptedLong f _
  | addEncryptedUUID f _ | addEncryptedString f _ | addEncryptedDate f _
  | addEncryptedByteArray f _ => f

/-- The value as it is serialized. -/
def serialized : EncryptedAdd → Bytes
  | addEncryptedByte _ v => CertificateBuilder.serializeByte v
  | addEncryptedShort _ v => CertificateBuilder.serializeShort v
  | addEncryptedInt _ v => CertificateBuilder.serializeInt v
  | addEncryptedLong _ v => CertificateBuilder.serializeLong v
  | addEncryptedUUID _ v => CertificateBuilder.serializeUUID v
  | addEncryptedString _ v => CertificateBuilder.serializeString v
  | addEncryptedDate _ v => CertificateBuilder.serializeDate v
  | addEncryptedByteArray _ v => v

variable {V} (encryptData : Bytes → Bytes → Bytes → Except Fault Bytes)

/-- Make the call, with what `encryptData` does. -/
def call : EncryptedAdd → EStateM Fault (EncryptedCertificateBuilder V) Unit
  | addEncryptedByte f v => EncryptedCertificateBuilder.addEncryptedByte encryptData f v
  | addEncryptedShort f v => EncryptedCertificateBuilder.addEncryptedShort encryptData f v
  | addEncryptedInt f v => EncryptedCertificateBuilder.addEncryptedInt encryptData f v
  | addEncryptedLong f v => EncryptedCertificateBuilder.addEncryptedLong encryptData f v
  | addEncryptedUUID f v => EncryptedCertificateBuilder.addEncryptedUUID encryptData f v
  | addEncryptedString f v => EncryptedCertificateBuilder.addEncryptedString encryptData f v
  | addEncryptedDate f v => EncryptedCertificateBuilder.addEncryptedDate encryptData f v
  | addEncryptedByteArray f v =>
    EncryptedCertificateBuilder.addEncryptedByteArray encryptData f v

/-- **Whatever its type, a value is masked as it is serialized.** -/
theorem call_eq (c : EncryptedAdd) :
    (c.call encryptData : EStateM Fault (EncryptedCertificateBuilder V) Unit) =
      EncryptedCertificateBuilder.addEncryptedByteArray encryptData c.fieldId c.serialized := by
  cases c <;> rfl

end EncryptedAdd

/-- A call on an encrypted builder. -/
inductive EncryptedCall
  | add (call : AddCall)
  | addEncrypted (call : EncryptedAdd)
  | addEncryptedSharedSecret (secret : SharedSecret)

namespace EncryptedCall

/-- The field id the call stores under. -/
def fieldId : EncryptedCall → JInt
  | add c => c.fieldId
  | addEncrypted c => c.fieldId
  | addEncryptedSharedSecret _ => Field.VELO_ENCRYPTED_SHARED_SECRET_FRAGMENT

/-- The octets of the value it stores. -/
def size : EncryptedCall → ℕ
  | add c => c.serialized.length
  | addEncrypted c => IV_SIZE + c.serialized.length
  | addEncryptedSharedSecret _ => 72

variable {V}

/-- Make the call. -/
def call : EncryptedCall → EStateM Fault (EncryptedCertificateBuilder V) Unit
  | add c => EncryptedCertificateBuilder.add c
  | addEncrypted c => c.call (EncryptedCertificateBuilder.encryptData V)
  | addEncryptedSharedSecret s => EncryptedCertificateBuilder.addEncryptedSharedSecret C s

/-- Make the calls in order, up to the first that throws. -/
def callAll : List EncryptedCall → EStateM Fault (EncryptedCertificateBuilder V) Unit
  | [] => pure ()
  | c :: cs => do
    call C c
    callAll cs

end EncryptedCall

/-! ## The reader -/

/-- An encrypted reader; it has no secret key until it has loaded one. -/
structure EncryptedCertificateReader extends CertificateReader where
  uuid : UUID
  localPrivateKey : Bytes
  peerPublicKey : Bytes
  secretKey : Option Bytes

namespace EncryptedCertificateReader

/-- `decryptSecretNative`, step for step the `decryptKey` of a document. -/
def decryptSecretNative (localPrivateKey peerPublicKey encryptedKey : Bytes) :
    Except Fault Bytes :=
  EncryptedDocumentReader.decryptKey V localPrivateKey peerPublicKey encryptedKey

/-- `decryptNative`. -/
def decryptNative (secretKey input : Bytes) : Except Fault Bytes := do
  let secretKey ← orThrow (Buffer.read secretKey 0 32) .outOfBounds
  let stream ← orThrow (V.stream.init secretKey) (.illegalState "stream context failure.")
  check (IV_SIZE ≤ input.length) (.java .nullPointerException "bad outputArray alloc.")
  let out := zeros (input.length - IV_SIZE)
  let stream ← orThrow (V.stream.startDecryption stream input)
    (.illegalState "could not start decryption stream.")
  let (_, out, _) ←
    streamDecrypt V stream (input.drop IV_SIZE) out 0 0 "could not decrypt input data."
  .ok out

/-- `new EncryptedCertificateReader(uuid, localPrivateKey, peerPublicKey, parser)`. -/
def new (uuid : UUID) (localPrivateKey peerPublicKey : Bytes) (parser : CertificateParser) :
    Except Fault EncryptedCertificateReader := do
  let r ← CertificateReader.new C parser
  .ok { r with
    uuid := uuid
    localPrivateKey := localPrivateKey
    peerPublicKey := peerPublicKey
    secretKey := none }

def getEncrypted (r : EncryptedCertificateReader) (fieldId : JInt) (index : ℕ) :
    Except Fault CertificateFieldReader :=
  match r.secretKey with
  | none => .error (.illegalState "Secret key must be loaded.")
  | some secretKey =>
    match r.certFields fieldId with
    | none => .error (.java .missingFieldException "Missing field.")
    | some fields =>
      match fields[index]? with
      | none => .error (.java .missingFieldException "Missing field.")
      | some rawValue => do
        check (¬8 ≥ rawValue.length) (.java .fieldConversionException "Invalid encrypted field.")
        let value ← decryptNative V secretKey rawValue
        .ok (.new value)

def getFirstEncrypted (r : EncryptedCertificateReader) (fieldId : JInt) :
    Except Fault CertificateFieldReader :=
  r.getEncrypted V fieldId 0

/-- The loop of `loadSecretKey`: the key in the first fragment for `uuid`. -/
def scan (uuid : UUID) (localPrivateKey peerPublicKey : Bytes) :
    List Bytes → Except Fault (Option Bytes)
  | [] => .ok none
  | i :: fields => do
    let r ← CertificateReader.new C (.new ⟨i⟩)
    let entity ← r.getFirst Field.VELO_ENCRYPTED_SHARED_SECRET_ENTITY_UUID
    let euuid ← entity.asUUID
    if euuid = uuid then do
      let key ← r.getFirst Field.VELO_ENCRYPTED_SHARED_SECRET_KEY
      let secretKey ← decryptSecretNative V localPrivateKey peerPublicKey key.asByteArray
      .ok (some secretKey)
    else scan uuid localPrivateKey peerPublicKey fields

/-- `loadSecretKey`. -/
def loadSecretKey : EStateM Fault EncryptedCertificateReader Unit := do
  let r ← get
  let fields ← Effect.lift (orThrow (r.certFields Field.VELO_ENCRYPTED_SHARED_SECRET_FRAGMENT)
    (.java .missingFieldException "Missing secret key field."))
  let found ← Effect.lift (scan V C r.uuid r.localPrivateKey r.peerPublicKey fields)
  match found with
  | some secretKey => set { r with secretKey := some secretKey }
  | none =>
    if r.secretKey = none then
      throw (.java .missingFieldException "Missing secret key.")
    else pure ()

end EncryptedCertificateReader

end VjBlockchain
