import VjBlockchain.Cert.FieldReader
import VjBlockchain.Cert.Vccert
/-!
# Certificates — builder, parser, reader

A builder collects pairs of a field id and a serialized value; every `add`
method ends in `addByteArray`, which keeps the low sixteen bits of the id and
stores them as a signed `Integer`. `emit` computes the certificate's size in
a 32-bit counter, hands the fields to the certificate library in order, and
checks that the library wrote as much as was counted.

The parser walks a certificate natively into a list of pairs, whose keys are
unsigned, and groups the values of each key in order. A reader looks fields
up in that map.
-/

namespace VjBlockchain

open Common Common.Bytes Common.Throwing

/-- A certificate is its octets. -/
structure Certificate where
  byteArray : Bytes
  deriving DecidableEq, Repr

/-! ## Field ids the modelled code names -/

namespace Field

def CERTIFICATE_VERSION : JInt := 0x0001
def CERTIFICATE_CRYPTO_SUITE : JInt := 0x0020
def CERTIFICATE_TYPE : JInt := 0x0030
def CERTIFICATE_ID : JInt := 0x0038
def ARTIFACT_ID : JInt := 0x0041
def LONG_ID_BEGIN : JInt := 0x0400
def LONG_ID_END : JInt := 0xFEFF

end Field

/-! ## The builder -/

/-- A builder: its fields in the order they were added. -/
structure CertificateBuilder where
  fields : List (JInt × Bytes)

namespace CertificateBuilder

/-- `(int) (short) fieldId`. -/
def shortKey (fieldId : JInt) : JInt := (fieldId.setWidth 16).signExtend 32

def serializeByte (value : BitVec 8) : Bytes := toBE 1 value.toNat
def serializeShort (value : JInt) : Bytes := toBE 2 value.toNat
def serializeInt (value : JInt) : Bytes := toBE 4 value.toNat
def serializeLong (value : BitVec 64) : Bytes := toBE 8 value.toNat
def serializeString (value : JString) : Bytes := transcode value

/-- Whole seconds since the epoch of a time in milliseconds, rounded down. -/
def serializeDate (millis : BitVec 64) : Bytes :=
  toBE 8 (BitVec.ofInt 64 (millis.toInt.fdiv 1000)).toNat

def serializeZonedDateTime (value : Time.ZonedDateTime) : Bytes :=
  toBE 8 value.instant.epochSecond.toNat ++ toBE 4 value.offset.totalSeconds.toNat

def serializeUUID (uuid : UUID) : Bytes :=
  toBE 8 uuid.mostSignificantBits.toNat ++ toBE 8 uuid.leastSignificantBits.toNat

def addByteArray (b : CertificateBuilder) (fieldId : JInt) (value : Bytes) :
    CertificateBuilder :=
  ⟨b.fields ++ [(shortKey fieldId, value)]⟩

def addByte (b : CertificateBuilder) (fieldId : JInt) (value : BitVec 8) :=
  b.addByteArray fieldId (serializeByte value)

def addShort (b : CertificateBuilder) (fieldId value : JInt) :=
  b.addByteArray fieldId (serializeShort value)

def addInt (b : CertificateBuilder) (fieldId value : JInt) :=
  b.addByteArray fieldId (serializeInt value)

def addLong (b : CertificateBuilder) (fieldId : JInt) (value : BitVec 64) :=
  b.addByteArray fieldId (serializeLong value)

def addUUID (b : CertificateBuilder) (fieldId : JInt) (value : UUID) :=
  b.addByteArray fieldId (serializeUUID value)

def addString (b : CertificateBuilder) (fieldId : JInt) (value : JString) :=
  b.addByteArray fieldId (serializeString value)

def addDate (b : CertificateBuilder) (fieldId : JInt) (value : BitVec 64) :=
  b.addByteArray fieldId (serializeDate value)

/-- Dates with an offset are for user fields only. -/
def addZonedDateTime (b : CertificateBuilder) (fieldId : JInt) (value : Time.ZonedDateTime) :
    Except Fault CertificateBuilder := do
  check (¬(fieldId.toInt < Field.LONG_ID_BEGIN.toInt ∨ fieldId.toInt > Field.LONG_ID_END.toInt))
    (.java .illegalArgumentException "ZonedDateTime can only be used in user fields.")
  .ok (b.addByteArray fieldId (serializeZonedDateTime value))

def createCertificateFragmentBuilder : CertificateBuilder := ⟨[]⟩

/-- A builder that starts with the default fields of every certificate. -/
def createCertificateBuilder (certificateType : UUID) : CertificateBuilder :=
  ((createCertificateFragmentBuilder.addInt Field.CERTIFICATE_VERSION 0x00010000).addShort
    Field.CERTIFICATE_CRYPTO_SUITE 0x0001).addUUID Field.CERTIFICATE_TYPE certificateType

end CertificateBuilder

/-- A call of one of the `add` methods. -/
inductive AddCall
  | addByte (fieldId : JInt) (value : BitVec 8)
  | addShort (fieldId value : JInt)
  | addInt (fieldId value : JInt)
  | addLong (fieldId : JInt) (value : BitVec 64)
  | addUUID (fieldId : JInt) (value : UUID)
  | addString (fieldId : JInt) (value : JString)
  | addDate (fieldId : JInt) (value : BitVec 64)
  | addZonedDateTime (fieldId : JInt) (value : Time.ZonedDateTime)
  | addByteArray (fieldId : JInt) (value : Bytes)
  deriving DecidableEq

namespace AddCall

/-- The field id the call names. -/
def fieldId : AddCall → JInt
  | addByte f _ | addShort f _ | addInt f _ | addLong f _ | addUUID f _ | addString f _
  | addDate f _ | addZonedDateTime f _ | addByteArray f _ => f

/-- The value as it is serialized. -/
def serialized : AddCall → Bytes
  | addByte _ v => CertificateBuilder.serializeByte v
  | addShort _ v => CertificateBuilder.serializeShort v
  | addInt _ v => CertificateBuilder.serializeInt v
  | addLong _ v => CertificateBuilder.serializeLong v
  | addUUID _ v => CertificateBuilder.serializeUUID v
  | addString _ v => CertificateBuilder.serializeString v
  | addDate _ v => CertificateBuilder.serializeDate v
  | addZonedDateTime _ v => CertificateBuilder.serializeZonedDateTime v
  | addByteArray _ v => v

/-- Make the call. -/
def call (b : CertificateBuilder) : AddCall → Except Fault CertificateBuilder
  | addByte f v => .ok (b.addByte f v)
  | addShort f v => .ok (b.addShort f v)
  | addInt f v => .ok (b.addInt f v)
  | addLong f v => .ok (b.addLong f v)
  | addUUID f v => .ok (b.addUUID f v)
  | addString f v => .ok (b.addString f v)
  | addDate f v => .ok (b.addDate f v)
  | addZonedDateTime f v => b.addZonedDateTime f v
  | addByteArray f v => .ok (b.addByteArray f v)

/-- Make the calls in order, up to the first that throws. -/
def callAll (b : CertificateBuilder) : List AddCall → Except Fault CertificateBuilder
  | [] => .ok b
  | c :: cs => do
    let b ← call b c
    callAll b cs

end AddCall

/-- `LinkedList.size()`: an `int`, the largest one for every longer list. -/
def LinkedList.size {α : Type} (list : List α) : JInt :=
  BitVec.ofNat 32 (min list.length (2 ^ 31 - 1))

namespace CertificateBuilder

variable (C : Vccert)

/-- The size of the certificate to emit, in the 32 bits of a `jsize`. -/
def certSize (fields : List (JInt × Bytes)) : BitVec 32 :=
  fields.foldl (fun size field => size + BitVec.ofNat 32 (2 + 2 + field.2.length)) 0

/-- For each field: add it to the builder, its type cut to sixteen bits. -/
def addFields (builder : C.Builder) : List (JInt × Bytes) → Except Fault C.Builder
  | [] => .ok builder
  | (fieldType, value) :: fields => do
    let builder ← orThrow (C.addShortBuffer builder (fieldType.setWidth 16) value)
      (.illegalState "vccert_builder_add_short_buffer")
    addFields builder fields

/-- `emit`. -/
def emit (b : CertificateBuilder) : Except Fault Certificate := do
  let lstSize := LinkedList.size b.fields
  check (¬lstSize.toInt ≤ 0) (.illegalState "cannot emit empty certificate fragment.")
  -- both loops get the entries below the size
  let lst := b.fields.take lstSize.toNat
  let certSize := certSize lst
  let builder ← orThrow (C.builderInit (certSize.signExtend 64).toNat)
    (.illegalState "vccert_builder_init")
  let builder ← addFields C builder lst
  let outbuf := C.builderEmit builder
  check (outbuf.length = certSize.toNat) (.illegalState "emitted_size != cert_size")
  .ok ⟨outbuf⟩

end CertificateBuilder

/-! ## The parser -/

/-- A map from field ids to the values of the field. -/
abbrev FieldMap := JInt → Option (List Bytes)

namespace CertificateParser

variable (C : Vccert)

/-- The list entry of a field: its id is unsigned. -/
def entry (r : Record) : JInt × Bytes := (r.tag.setWidth 32, r.value)

/-- The fields behind the current one, while `fieldNext` succeeds. -/
def nextFields (parser : C.Parser) : List (JInt × Bytes) :=
  match _h : C.fieldNext parser with
  | none => []
  | some (r, parser') => entry r :: nextFields parser'
  termination_by (C.rest parser).length
  decreasing_by exact C.fieldNext_shorter _h

/-- `parseNative`. -/
def parseNative (certificate : Bytes) : Except Fault (List (JInt × Bytes)) := do
  let parser ← orThrow (C.parserInit certificate)
    (.java .illegalArgumentException "certificate invalid.")
  let (r, parser) ← orThrow (C.fieldFirst parser)
    (.java .illegalArgumentException "certificate has no valid fields.")
  .ok (entry r :: nextFields C parser)

/-- `appendField`: the value joins those the key has. -/
def appendField (appendValue : List Bytes) : Option (List Bytes) → List Bytes
  | some v => v ++ appendValue
  | none => appendValue

/-- `HashMap.compute`. -/
def compute (map : FieldMap) (key : JInt) (f : Option (List Bytes) → List Bytes) : FieldMap :=
  fun k => if k = key then some (f (map k)) else map k

/-- Group the values of each key. -/
def group (certFields : List (JInt × Bytes)) : FieldMap :=
  certFields.foldl (fun map v => compute map v.1 (appendField [v.2])) fun _ => none

end CertificateParser

/-- A parser of a certificate. -/
structure CertificateParser where
  certificate : Bytes

namespace CertificateParser

def new (cert : Certificate) : CertificateParser := ⟨cert.byteArray⟩

/-- `parse`, of a certificate that has not been attested. -/
def parse (C : Vccert) (p : CertificateParser) : Except Fault FieldMap := do
  let certFields ← parseNative C p.certificate
  .ok (group certFields)

end CertificateParser

/-! ## The reader -/

/-- A reader of a certificate's fields. -/
structure CertificateReader where
  parser : CertificateParser
  certFields : FieldMap

namespace CertificateReader

/-- `new CertificateReader(parser)` parses at once. -/
def new (C : Vccert) (parser : CertificateParser) : Except Fault CertificateReader := do
  let certFields ← parser.parse C
  .ok ⟨parser, certFields⟩

def count (r : CertificateReader) (fieldId : JInt) : ℕ :=
  match r.certFields fieldId with
  | none => 0
  | some fields => fields.length

def getFields (r : CertificateReader) : Set JInt := { f | (r.certFields f).isSome }

def get (r : CertificateReader) (fieldId : JInt) (index : ℕ) :
    Except Fault CertificateFieldReader :=
  match r.certFields fieldId with
  | none => .error (.java .missingFieldException "Missing field.")
  | some fields =>
    match fields[index]? with
    | none => .error (.java .missingFieldException "Missing field.")
    | some value => .ok (.new value)

def getFirst (r : CertificateReader) (fieldId : JInt) : Except Fault CertificateFieldReader :=
  r.get fieldId 0

end CertificateReader

end VjBlockchain
