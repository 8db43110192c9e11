import VjBlockchain.Crypt.Native
import VjBlockchain.Crypt.Password
import VjBlockchain.Crypt.Signing
/-!
# The native generators — resources

Keys are made in native code: the two kinds of key pair by contexts of the
suite, and the symmetric keys from a password or by its generator of random
octets. A symmetric key is drawn in three places. Two of them ask for 32
octets and return the array; the third asks for as many as the stream cipher
takes, and has the constructor of `Key` look at them again.

What is drawn is up to the suite. Local references go when a method returns,
and are not modelled.
-/

namespace VjBlockchain

open Common Common.Bytes Common.Throwing

/-- The generator of the suite: what it writes into a buffer of a size. -/
structure Prng where
  read : ℕ → Option Bytes
  length_read : ∀ {n key}, read n = some key → key.length = n

/-- `Key.createRandomNative`. The object is made by its constructor. -/
def Key.createRandomNative (S : CryptoSuite) (initialized : Bool) (prng : Prng) :
    Except Fault (Key S) := do
  let key ← orThrow (prng.read S.stream.keySize) (.illegalState "prng read failure.")
  Key.new ⟨initialized, fun _ => false⟩ S key

/-- What `generateEncryptionKey` computes, of a certificate's builder and of a
document's. -/
def generateEncryptionKey (prng : Prng) : Except Fault Bytes :=
  orThrow (prng.read 32) (.illegalState "bad vccrypt prng read.")

/-- What `generateNative` computes from a drawn pair. -/
def generatePair {α : Type} (drawn : Option α) : Except Fault α :=
  orThrow drawn (.illegalState "keypair could not be generated.")

namespace NativeGenerate

/-- What the generators acquire. -/
inductive Resource
  | context
  | priv
  | pub
  | privArrayData
  | pubArrayData
  | keyBuffer
  | prng
  | keyArrayData
  | kdOptions
  | kdCtx
  | passwordArray
  | passwordBuffer
  | saltArray
  | saltBuffer
  deriving DecidableEq, Repr

/-- The calls that acquire nothing. -/
inductive Op
  | keypairCreate
  | newPrivArray
  | newPubArray
  | newPrivateKey
  | newPublicKey
  | newKeyPair
  | prngRead
  | deriveKey
  | newKeyArray
  | newKey
  deriving DecidableEq, Repr

open NativeMethod Routine JavaException

variable (env : NativeEnv (NativeCall Resource Op))

/-! ## Key pairs -/

/-- The labels of both `generateNative`: `pub_dispose`, `priv_dispose`, and the
one for the context. -/
def pairLabels : List Resource := [.pub, .priv, .context]

/-- What both `generateNative` do; they differ in three messages and in the
exception for the pair itself. -/
def generateNative {α : Type} (contextFailure privateFailure publicFailure : String)
    (pairFailure : JavaException) (drawn : Option α) : NativeMethod Resource Op α := do
  initialized env
  claim .context (illegalState contextFailure) none
  claim .priv (illegalState "private key buffer could not be initialized.") (some .context)
  claim .pub (illegalState "public key buffer could not be initialized.") (some .priv)
  let keys ← attempt .keypairCreate drawn (illegalState "keypair could not be generated.")
    (some .pub)
  must .newPrivArray (illegalState "priv key array could not be allocated.") (some .pub)
  claim .privArrayData (illegalState "priv key array data could not be dereferenced.")
    (some .pub)
  dispose .privArrayData
  must .newPubArray (illegalState "pub key array could not be allocated.") (some .pub)
  claim .pubArrayData (illegalState "pub key array data could not be dereferenced.") (some .pub)
  dispose .pubArrayData
  must .newPrivateKey (illegalState privateFailure) (some .pub)
  must .newPublicKey (illegalState publicFailure) (some .pub)
  must .newKeyPair pairFailure (some .pub)
  pure keys

/-- `EncryptionKeyPair.generateNative`. -/
def EncryptionKeyPair.generateNative {V : Vccrypt} (drawn : Option (EncryptionKeyPair V)) :
    NativeMethod Resource Op (EncryptionKeyPair V) :=
  NativeGenerate.generateNative env "cipher key agreement could not be initialized."
    "privateKey could not be instantiated." "publicKey could not be instantiated."
    (illegalState "EncryptionKeyPair could not be instantiated.") drawn

/-- `SigningKeyPair.generateNative`. When the pair cannot be made it sets no
exception of its own, and `pending` is the virtual machine's. -/
def SigningKeyPair.generateNative (pending : JavaException) (drawn : Option (Bytes × Bytes)) :
    NativeMethod Resource Op SigningKeyPair :=
  NativeGenerate.generateNative env "digital signature could not be initialized."
    "signingPrivateKey could not be instantiated." "signingPublicKey could not be instantiated."
    pending (drawn.map SigningKeyPair.of)

/-! ## Symmetric keys -/

/-- The labels of the methods that draw a symmetric key. -/
def keyLabels : List Resource := [.prng, .keyBuffer]

/-- `Key.createRandomNative`; `pending` is the virtual machine's exception for an
object that cannot be made. -/
def createRandomNative (S : CryptoSuite) (pending : JavaException) (prng : Prng) :
    NativeMethod Resource Op (Key S) := do
  initialized env
  claim .keyBuffer (illegalState "could not initialize a crypto buffer.") none
  claim .prng (illegalState "prng instance creation failure.") (some .keyBuffer)
  let key ← attempt .prngRead (prng.read S.stream.keySize) (illegalState "prng read failure.")
    (some .prng)
  must .newKeyArray (nullPointer "outputArray creation failure.") (some .prng)
  claim .keyArrayData (nullPointer "outputArray data read failure.") (some .prng)
  dispose .keyArrayData
  through .newKey (Key.new ⟨env.initialized, fun _ => false⟩ S key) pending (some .prng)

/-- `EncryptedCertificateBuilder.generateEncryptionKey`, and
`EncryptedDocumentBuilder.generateEncryptionKey`, which is its copy. -/
def generateEncryptionKey (prng : Prng) : NativeMethod Resource Op Bytes := do
  initialized env
  claim .keyBuffer (illegalState "bad vccrypt buffer.") none
  claim .prng (illegalState "bad vccrypt prng.") (some .keyBuffer)
  let key ← attempt .prngRead (prng.read 32) (illegalState "bad vccrypt prng read.") (some .prng)
  must .newKeyArray (nullPointer "bad keyArray alloc.") (some .prng)
  claim .keyArrayData (nullPointer "keyArray data could not be dereferenced.") (some .prng)
  dispose .keyArrayData
  pure key

/-- The labels of `createFromPasswordNative`. -/
def passwordLabels : List Resource :=
  [.keyBuffer, .saltBuffer, .saltArray, .passwordBuffer, .passwordArray, .kdCtx, .kdOptions]

/-- `Key.createFromPasswordNative`. -/
def createFromPasswordNative (K : KeyDerivation) (password salt : Bytes) (iterations : BitVec 32)
    (sha512 : Bool) : NativeMethod Resource Op Bytes := do
  initialized env
  let hmacAlg := if sha512 then MacAlgorithm.sha2_512Hmac else .sha2_512_256Hmac
  let options ← create .kdOptions (K.optionsInit hmacAlg)
    (illegalState "key derivation options initialization failure.") none
  let ctx ← create .kdCtx (K.init options)
    (illegalState "key derivation instance initialization failure.") (some .kdOptions)
  claim .passwordArray (nullPointer "password read failure.") (some .kdCtx)
  claim .passwordBuffer (illegalState "could not initialize password crypto buffer.")
    (some .passwordArray)
  claim .saltArray (nullPointer "salt data read failure.") (some .passwordBuffer)
  claim .saltBuffer (illegalState "could not initialize salt crypto buffer.") (some .saltArray)
  claim .keyBuffer (illegalState "could not initialize key crypto buffer.") (some .saltBuffer)
  let key ← attempt .deriveKey (K.deriveKey ctx password salt iterations)
    (illegalState "key derivation failure.") (some .keyBuffer)
  must .newKeyArray (nullPointer "outputArray creation failure.") (some .keyBuffer)
  claim .keyArrayData (nullPointer "outputArray data read failure.") (some .keyBuffer)
  dispose .keyArrayData
  pure key

/-! ## Each method, step by step -/

variable {env}

theorem generateNative_implements {α : Type} (contextFailure privateFailure publicFailure : String)
    (pairFailure : JavaException) (drawn : Option α) :
    Implements pairLabels (fun _ => []) [] []
      (generateNative env contextFailure privateFailure publicFailure pairFailure drawn)
      (env.whenInitialized (generatePair drawn)) := by
  refine .ensure rfl ?_
  iterate 3 refine .claim rfl (by decide) ?_
  refine .of_bind_ok (.attempt rfl fun keys => ?_)
  iterate 2
    refine .must rfl ?_
    refine .claim rfl (by decide) ?_
    refine .dispose (by decide) ?_
  iterate 3 refine .must rfl ?_
  exact .done rfl keys

theorem createRandomNative_implements (S : CryptoSuite) (pending : JavaException) (prng : Prng) :
    Implements keyLabels (fun _ => []) [] [] (createRandomNative env S pending prng)
      (env.whenInitialized (Key.createRandomNative S env.initialized prng)) := by
  refine .ensure rfl ?_
  iterate 2 refine .claim rfl (by decide) ?_
  refine .attempt rfl fun key => ?_
  refine .must rfl ?_
  refine .claim rfl (by decide) ?_
  refine .dispose (by decide) ?_
  refine .of_bind_pure (.construct (fun e => rfl) fun key => ?_)
  exact .done rfl key

theorem generateEncryptionKey_implements (prng : Prng) :
    Implements keyLabels (fun _ => []) [] [] (generateEncryptionKey env prng)
      (env.whenInitialized (VjBlockchain.generateEncryptionKey prng)) := by
  refine .ensure rfl ?_
  iterate 2 refine .claim rfl (by decide) ?_
  refine .of_bind_ok (.attempt rfl fun key => ?_)
  refine .must rfl ?_
  refine .claim rfl (by decide) ?_
  refine .dispose (by decide) ?_
  exact .done rfl key

/-- Where no call fails, as the method among the derivations does. -/
theorem createFromPasswordNative_implements (K : KeyDerivation) (password salt : Bytes)
    (iterations : BitVec 32) (sha512 : Bool) :
    Implements passwordLabels (fun _ => []) [] []
      (createFromPasswordNative env K password salt iterations sha512)
      (env.whenInitialized
        (Key.createFromPasswordNative K ⟨true, fun _ => false⟩ password salt iterations
          sha512)) := by
  refine .ensure rfl ?_
  refine .create rfl (by decide) fun options => ?_
  refine .create rfl (by decide) fun ctx => ?_
  iterate 5 refine .claim rfl (by decide) ?_
  refine .attempt rfl fun key => ?_
  refine .must rfl ?_
  refine .claim rfl (by decide) ?_
  refine .dispose (by decide) ?_
  exact .done rfl key

/-! ## Every way through the methods -/

/-- A random key is what was drawn. -/
theorem createRandomNative_eq_ok_iff {S : CryptoSuite} {initialized : Bool} {prng : Prng}
    {key : Key S} :
    Key.createRandomNative S initialized prng = .ok key ↔
      initialized = true ∧ prng.read S.stream.keySize = some key.rawBytes := by
  simp only [Key.createRandomNative, bind_eq_ok_iff, orThrow_eq_ok_iff, Key.new_eq_ok_iff]
  constructor
  · rintro ⟨drawn, hread, hinitialized, rfl⟩
    exact ⟨hinitialized, hread⟩
  · rintro ⟨hinitialized, hread⟩
    exact ⟨_, hread, hinitialized, rfl⟩

theorem createRandomNative_inBounds (S : CryptoSuite) (initialized : Bool) (prng : Prng) :
    InBounds (Key.createRandomNative S initialized prng) := by
  refine .bind (.orThrow ..) fun key _ => .bind (.check ..) fun _ _ => ⟨?_⟩
  split_ifs <;> exact fun h => by cases h

theorem createFromPasswordNative_inBounds (K : KeyDerivation) (env : NativeEnv Key.Call)
    (password salt : Bytes) (iterations : BitVec 32) (sha512 : Bool) :
    InBounds (Key.createFromPasswordNative K env password salt iterations sha512) :=
  .bind (.check ..) fun _ _ => .bind (.orThrow ..) fun _ _ => .bind (.orThrow ..) fun _ _ =>
    .bind (.orThrow ..) fun _ _ => .bind (.orThrow ..) fun _ _ => .bind (.orThrow ..) fun _ _ =>
      .bind (.orThrow ..) fun _ _ => .bind (.check ..) fun _ _ => .bind (.orThrow ..) fun _ _ =>
        .bind (.orThrow ..) fun _ _ => .orThrow ..

/-- **The native generators settle, whichever call fails.** In every environment
each of them gives what the suite has drawn or derived, or throws because a
call has failed; and whatever it pins, allocates or makes it gives back once. The
constructor of a random key takes whatever was drawn for it. -/
theorem generators_settle (env : NativeEnv (NativeCall Resource Op)) (pending : JavaException) :
    (∀ {V : Vccrypt} (drawn : Option (EncryptionKeyPair V)), Settles env pairLabels
      (EncryptionKeyPair.generateNative env drawn) (generatePair drawn)) ∧
    (∀ drawn, Settles env pairLabels (SigningKeyPair.generateNative env pending drawn)
      (generatePair (drawn.map SigningKeyPair.of))) ∧
    (∀ S prng, Settles env keyLabels (createRandomNative env S pending prng)
      (Key.createRandomNative S env.initialized prng) ∧
      ∀ drawn, env.initialized = true → prng.read S.stream.keySize = some drawn →
        ∃ key : Key S, key.rawBytes = drawn ∧
          Key.createRandomNative S env.initialized prng = .ok key) ∧
    (∀ prng, Settles env keyLabels (generateEncryptionKey env prng)
      (VjBlockchain.generateEncryptionKey prng)) ∧
    ∀ K password salt iterations sha512, Settles env passwordLabels
      (createFromPasswordNative env K password salt iterations sha512)
      (Key.createFromPasswordNative K ⟨true, fun _ => false⟩ password salt iterations sha512) := by
  refine ⟨fun drawn => ?_, fun drawn => ?_,
    fun S prng => ⟨?_, fun drawn hinitialized hread => ?_⟩, fun prng => ?_,
    fun K password salt iterations sha512 => ?_⟩
  · exact (generateNative_implements ..).settles (.orThrow ..)
  · exact (generateNative_implements ..).settles (.orThrow ..)
  · exact (createRandomNative_implements ..).settles (createRandomNative_inBounds ..)
  · exact ⟨⟨drawn, prng.length_read hread⟩, rfl,
      createRandomNative_eq_ok_iff.mpr ⟨hinitialized, hread⟩⟩
  · exact (generateEncryptionKey_implements ..).settles (.orThrow ..)
  · exact (createFromPasswordNative_implements ..).settles (createFromPasswordNative_inBounds ..)

end NativeGenerate

end VjBlockchain
