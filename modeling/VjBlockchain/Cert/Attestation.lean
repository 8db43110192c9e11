import VjBlockchain.Cert.Parse
import VjBlockchain.Common.Dialogue
import VjBlockchain.Util.UuidConv
/-!
# Attestation

A `CertificateParser` with all its fields. `parse` walks the first `size`
octets of the certificate; `attest` has the certificate library examine the
first `rawSize` of them and, when the library accepts, sets `size` to what
the library says was signed.

The library is a parameter. While it attests it may call the entity key
resolver of the source, any number of times, so an attestation is a dialogue
whose questions are entities and whose answers are keys, or none. The other
three resolvers of the source refuse whatever they are asked.

Native code does not throw: it leaves an exception pending, and the Java
caller gets that one when the call is over, whatever was returned. `Jni` has
the pending exception. Four things are outside the bounds of what native code
may touch: a method or the length of a `null` reference, octets that could
not be got, an exception thrown that was not made, and a C string passed for
a Java one, as the source does where an exception is to be wrapped in another.
-/

namespace VjBlockchain

open Common Common.Bytes Common.Throwing

/-! ## The library -/

/-- What `vccert_parser_attest` returns. -/
inductive AttestStatus
  | success
  | general
  | missingSignerUuid
  | missingSignature
  | missingSigningCert
  | chainAttestation
  | signerUuidMismatch
  | signerMissingSigningKey
  | signatureMismatch
  | missingContract
  | contractVerification
  | missingTransactionType
  | missingArtifactId
  | unknown (status : JInt)
  deriving DecidableEq, Repr

/-- An entity whose keys the library asks for, at a height of the chain. -/
structure EntityQuery where
  height : BitVec 64
  entityId : Bytes
  length_entityId : entityId.length = 16
  deriving DecidableEq, Repr

/-- The keys of an entity, as the library gets them. -/
structure EntityKeys where
  pubenckey : Bytes
  pubsignkey : Bytes
  deriving DecidableEq, Repr

/-- The attestation of a certificate library: it ends with a status and the
size of its parser. -/
structure Attester (C : Vccert) where
  attest : C.Parser → BitVec 64 → Bool → Dialogue EntityQuery (Option EntityKeys) (AttestStatus × ℕ)

/-- **A lawful attestation**: it succeeds with a size inside the buffer and
with all the keys it asked for, and misses a signing certificate only when it
did not get some. -/
structure Attester.Lawful {C : Vccert} (A : Attester C) : Prop where
  success : ∀ {p height validate keys n},
    (A.attest p height validate).result keys = some (.success, n) →
      n ≤ (C.buffer p).length ∧ none ∉ keys
  missingSigningCert : ∀ {p height validate keys n},
    (A.attest p height validate).result keys = some (.missingSigningCert, n) → none ∈ keys

/-! ## The caller -/

/-- A reference to an entity: what its two getters return, `none` also for one
that throws. -/
structure EntityReference where
  publicEncryptionKey : Option Bytes
  publicSigningKey : Option Bytes
  deriving DecidableEq, Repr

/-- A delegate. It is told how many entities it has resolved in this call
before, so it may change its mind. -/
structure CertificateParserDelegate where
  resolveEntity : ℕ → UUID → BitVec 64 → Except JavaException (Option EntityReference)

/-- How the calls of one resolution turn out that it makes itself: the UUID
object, the exception for an unknown entity, and for each key its buffer and
the octets of its array. -/
structure Resolution where
  newUuid : Option JavaException
  newUnknownEntity : Bool
  pubenckeyInit : Bool
  pubenckeyElements : Bool
  pubsignkeyInit : Bool
  pubsignkeyElements : Bool

/-- The arguments of an `attest` call, and how the calls it makes itself turn
out: the options of the library, the octets of the certificate, and what each
resolution does. -/
structure Attempt where
  delegate : Option CertificateParserDelegate
  blockHeight : BitVec 64
  validateContract : Bool
  optionsInit : Bool
  certificateElements : Bool
  resolution : ℕ → Resolution

/-- The native environment: how many entities have been resolved, and the
pending exception. -/
structure Jni where
  resolved : ℕ
  pending : Option JavaException

/-- The next resolution, with an exception pending or none. -/
def Jni.next (env : Jni) (pending : Option JavaException) : Jni := ⟨env.resolved + 1, pending⟩

/-- The end of the resolver: the keys are copied, one after the other. -/
def copyKeys (calls : Resolution) (entref : EntityReference) (env : Jni) :
    Except Fault (Option EntityKeys × Jni) := do
  -- the length of an array that is not there
  let pubenckey ← orThrow entref.publicEncryptionKey .outOfBounds
  if calls.pubenckeyInit then do
    check (calls.pubenckeyElements = true) .outOfBounds
    let pubsignkey ← orThrow entref.publicSigningKey .outOfBounds
    if calls.pubsignkeyInit then do
      check (calls.pubsignkeyElements = true) .outOfBounds
      .ok (some ⟨pubenckey, pubsignkey⟩, env.next none)
    else .ok (none, env.next (some ⟨.attestationException, "vccrypt_buffer_init"⟩))
  else .ok (none, env.next (some ⟨.attestationException, "vccrypt_buffer_init"⟩))

/-- `attest_entity_key_resolver`. It never looks at the pending exception
before it has made the UUID, so one that was there is taken for its own. -/
def attestEntityKeyResolver (a : Attempt) (delegate : CertificateParserDelegate) (q : EntityQuery)
    (env : Jni) : Except Fault (Option EntityKeys × Jni) := do
  let calls := a.resolution env.resolved
  let jEntityId ← UuidConv.uuidFromBytes q.entityId
  -- "invalid entity uuid" is passed for a `jstring`
  check ((calls.newUuid.or env.pending).isNone = true) .outOfBounds
  match delegate.resolveEntity env.resolved jEntityId q.height with
  | .error e => .ok (none, env.next (some e))
  | .ok none => do
    check (calls.newUnknownEntity = true) .outOfBounds
    .ok (none, env.next (some
      ⟨.unknownEntityException, "Unknown Entity " ++ jEntityId.toString⟩))
  | .ok (some entref) => copyKeys calls entref env

/-! ## The parser object -/

/-- A `CertificateParser` with its fields. -/
structure ParserObject where
  certificate : Bytes
  size : JInt
  rawSize : JInt
  deriving DecidableEq, Repr

namespace ParserObject

variable (C : Vccert)

/-- The constructor. -/
def new (cert : Certificate) : ParserObject :=
  let size : JInt := BitVec.ofNat 32 cert.byteArray.length
  ⟨cert.byteArray, size, size⟩

def getCertificate (p : ParserObject) : Certificate := ⟨p.certificate⟩

/-- What native code reads that is given an array and a size. -/
def nativeBuffer (certificate : Bytes) (size : JInt) : Except Fault Bytes :=
  let n := (size.signExtend 64).toNat
  if n ≤ certificate.length then .ok (certificate.take n) else .error .outOfBounds

/-- `parse`. -/
def parse : EStateM Fault ParserObject FieldMap := do
  let p ← get
  Effect.lift do
    let buffer ← nativeBuffer p.certificate p.size
    let certFields ← CertificateParser.parseNative C buffer
    .ok (CertificateParser.group certFields)

variable {C} (A : Attester C)

/-- `attestNative` up to the result of the library. -/
def examine (a : Attempt) (certificate : Bytes) (rawSize : JInt) :
    Except Fault ((AttestStatus × ℕ) × Jni) := do
  let delegate ← orThrow a.delegate (.java .nullPointerException "delegate")
  check (a.optionsInit = true) (.illegalState "vccert could not be initialized.")
  check (a.certificateElements = true) .outOfBounds
  let buffer ← nativeBuffer certificate rawSize
  let parser ← orThrow (C.parserInit buffer)
    (.java .illegalArgumentException "certificate invalid.")
  (A.attest parser a.blockHeight a.validateContract).run (attestEntityKeyResolver a delegate)
    ⟨0, none⟩

/-- Back to Java: a pending exception goes before what was returned. -/
def leave (result : Bool) (pending : Option JavaException) : EStateM Fault ParserObject Bool :=
  match pending with
  | some e => throw (.thrown e)
  | none => pure result

/-- The message for each status that has an exception of its own. -/
def attestMessage : AttestStatus → String
  | .general => "general error."
  | .missingSignerUuid => "certificate missing signer uuid."
  | .missingSignature => "certificate missing signature."
  | .chainAttestation => "certificate chain attestation failed."
  | .signerUuidMismatch => "signer UUID mismatch."
  | .signerMissingSigningKey => "Signing key missing."
  | .signatureMismatch => "Signature mismatch."
  | .missingContract => "Missing contract."
  | .contractVerification => "Contract verification failure."
  | .missingTransactionType => "Missing transaction type field."
  | .missingArtifactId => "Missing artifact id field."
  | _ => "Unknown error."

/-- Decode the result. Nothing is thrown for a missing signing certificate:
the resolver is relied on to have left an exception pending. For a chain that
failed that exception is to be wrapped in another, whose message is passed
for a `jstring`. -/
def decode (status : AttestStatus) (size : ℕ) (pending : Option JavaException) :
    EStateM Fault ParserObject Bool :=
  match status with
  | .success => do
    modify fun p => { p with size := BitVec.ofNat 32 size }
    leave true pending
  | .missingSigningCert => leave false pending
  | .chainAttestation => do
    Effect.lift (check (pending.isNone = true) .outOfBounds)
    leave false (some ⟨.attestationException, attestMessage .chainAttestation⟩)
  | status => leave false (some ⟨.attestationException, attestMessage status⟩)

/-- `attest`. -/
def attest (a : Attempt) : EStateM Fault ParserObject Bool := do
  let p ← get
  let ((status, size), env) ← Effect.lift (examine A a p.certificate p.rawSize)
  decode status size env.pending

end ParserObject

/-! ## Calls -/

/-- A call on the parser. -/
inductive ParserCall
  | parse
  | attest (a : Attempt)

/-- What it returns. -/
inductive ParserValue
  | fields (map : FieldMap)
  | verdict (valid : Bool)

/-- Make the call. -/
def ParserCall.run {C : Vccert} (A : Attester C) :
    ParserCall → EStateM Fault ParserObject ParserValue
  | parse => do pure (.fields (← ParserObject.parse C))
  | attest a => do pure (.verdict (← ParserObject.attest A a))

end VjBlockchain
