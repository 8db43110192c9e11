import VjBlockchain.Cert.Sign
import VjBlockchain.Cert.SignedPrefix
import VjBlockchain.Util.Native
/-!
# The native certificate calls — resources

The two that write a certificate, and the two that read one. The writers go
through the fields in a loop that pins one value at a time and gives it back
right behind the call that copies it, before they look whether that call was
refused. So a loop that stops halfway has pinned as much as it went through
and holds none of it.

None of the four looks whether an array could be pinned or allocated. Here it
always can, save that of the certificate that is attested, which the attempt
has a say in.
-/

namespace VjBlockchain

open Common Common.Bytes Common.Throwing

namespace NativeCertificate

/-- What the four methods acquire. -/
inductive Resource
  | builder
  /-- Of the field at a place in the list. -/
  | fieldVal (i : ℕ)
  | priv
  | privBytes
  | signerIdBytes
  | outData
  | parserOptions
  | bufferPtr
  | parser
  deriving DecidableEq, Repr

/-- The calls that acquire nothing. -/
inductive Op
  | addShortBuffer (i : ℕ)
  | builderSign
  deriving DecidableEq, Repr

open NativeMethod Routine JavaException

variable (C : Vccert) (env : NativeEnv (NativeCall Resource Op))

/-! ## Writing -/

/-- The loop over the fields, from the field at `i` on. -/
def addFields (failure : String) (i : ℕ) (builder : C.Builder) :
    List (JInt × Bytes) → NativeMethod Resource Op C.Builder
  | [] => pure builder
  | (fieldType, value) :: fields => do
    unchecked (.fieldVal i)
    let builder ← attemptReleasing (.addShortBuffer i) (.fieldVal i)
      (C.addShortBuffer builder (fieldType.setWidth 16) value) (illegalState failure)
      (some .builder)
    addFields failure (i + 1) builder fields

/-- The labels of `emit`. -/
def emitLabels : List Resource := [.builder]

/-- `CertificateBuilder.emit`. -/
def emit (b : CertificateBuilder) : NativeMethod Resource Op Certificate := do
  initialized env
  let lstSize := LinkedList.size b.fields
  ensure (¬lstSize.toInt ≤ 0) (illegalState "cannot emit empty certificate fragment.") none
  let lst := b.fields.take lstSize.toNat
  let certSize := CertificateBuilder.certSize lst
  let builder ← create .builder (C.builderInit (certSize.signExtend 64).toNat)
    (illegalState "vccert_builder_init") none
  let builder ← addFields C "vccert_builder_add_short_buffer" 0 builder lst
  let outbuf := C.builderEmit builder
  ensure (outbuf.length = certSize.toNat) (illegalState "emitted_size != cert_size")
    (some .builder)
  unchecked .outData
  dispose .outData
  pure ⟨outbuf⟩

variable {C}

/-- The labels of `signNative`. -/
def signLabels : List Resource := [.signerIdBytes, .priv, .builder]

/-- `CertificateBuilder.signNative`. -/
def signNative (G : Signer C) (b : CertificateBuilder) (signerId privateKey : Option Bytes) :
    NativeMethod Resource Op Certificate := do
  initialized env
  let signerId ← require signerId (nullPointer "signerId") none
  let privateKey ← require privateKey (nullPointer "privateKey") none
  ensure (signerId.length = 16) ⟨.illegalArgumentException, "Signer ID is the wrong size"⟩ none
  let lst := b.fields.take (LinkedList.size b.fields).toNat
  let certSize :=
    CertificateBuilder.certSize lst + BitVec.ofNat 32 (2 * 2 + 2 * 2 + 16 + G.signatureSize)
  let builder ← create .builder (C.builderInit (certSize.signExtend 64).toNat)
    (illegalState "general error.") none
  let builder ← addFields C "general error." 0 builder lst
  claim .priv (illegalState "Couldn't create private key buffer") (some .builder)
  ensure (privateKey.length = G.privateKeySize)
    ⟨.illegalArgumentException, "Private key is the wrong size"⟩ (some .priv)
  unchecked .privBytes
  dispose .privBytes
  unchecked .signerIdBytes
  let builder ← attempt .builderSign (G.builderSign builder signerId privateKey)
    (illegalState "signature error") (some .signerIdBytes)
  let outbuf := C.builderEmit builder
  ensure (outbuf.length = certSize.toNat) (illegalState "emitted_size != cert_size")
    (some .signerIdBytes)
  unchecked .outData
  dispose .outData
  pure ⟨outbuf⟩

/-! ## Reading -/

/-- The labels of the two readers: `disposeParser` and `releaseJBuffer`, which has
the options disposed of as well. -/
def parseLabels : List Resource := [.parser, .bufferPtr, .parserOptions]

variable (C) in
/-- `CertificateParser.parseNative`, of the octets the size covers. -/
def parseNative (certificate : Bytes) : NativeMethod Resource Op (List (JInt × Bytes)) := do
  initialized env
  claim .parserOptions (illegalState "vccert could not be initialized.") none
  unchecked .bufferPtr
  let parser ← create .parser (C.parserInit certificate)
    ⟨.illegalArgumentException, "certificate invalid."⟩ (some .bufferPtr)
  let (r, parser) ← require (C.fieldFirst parser)
    ⟨.illegalArgumentException, "certificate has no valid fields."⟩ (some .parser)
  pure (CertificateParser.entry r :: CertificateParser.nextFields C parser)

/-- `CertificateParser.attestNative`, up to the result of the library. The
library calls the resolver on its way, and the options may be refused for what
the attempt says or by the environment. -/
def examine (A : Attester C) (a : Attempt) (certificate : Bytes) (rawSize : JInt) :
    NativeMethod Resource Op ((AttestStatus × ℕ) × Jni) := do
  initialized env
  let delegate ← require a.delegate (nullPointer "delegate") none
  ensure (a.optionsInit = true) (illegalState "vccert could not be initialized.") none
  unchecked .parserOptions
  access (check (a.certificateElements = true) Fault.outOfBounds).toOption
  unchecked .bufferPtr
  let buffer ← access (ParserObject.nativeBuffer certificate rawSize).toOption
  let parser ← create .parser (C.parserInit buffer)
    ⟨.illegalArgumentException, "certificate invalid."⟩ (some .bufferPtr)
  access ((A.attest parser a.blockHeight a.validateContract).run
    (attestEntityKeyResolver a delegate) ⟨0, none⟩).toOption

/-! ## Each method, step by step -/

variable {env}

/-- Places in the list are acquired in order. -/
def FreshFrom (i : ℕ) (acquired : List Resource) : Prop := ∀ j, i ≤ j → .fieldVal j ∉ acquired

/-- Nothing but values of fields has been acquired since. -/
def AddsFields (acquired acquired' : List Resource) : Prop :=
  ∀ r ∈ acquired', r ∈ acquired ∨ ∃ j, r = .fieldVal j

theorem AddsFields.notMem {acquired acquired' : List Resource} (h : AddsFields acquired acquired')
    {r : Resource} (hr : r ∉ acquired) (hfield : ∀ j, r ≠ .fieldVal j) : r ∉ acquired' := by
  intro hmem
  rcases h r hmem with hold | ⟨j, hj⟩
  · exact hr hold
  · exact hfield j hj

/-- **The loop**, wherever it stops, holds what it held. -/
theorem addFields_implements {labels : List Resource} {failure : String} {β : Type}
    {f : C.Builder → NativeMethod Resource Op β} {g : C.Builder → Except Fault β}
    {held : List Resource} (hheld : held = fallFrom labels (some .builder)) :
    ∀ (fields : List (JInt × Bytes)) (i : ℕ) (acquired : List Resource) (builder : C.Builder),
      FreshFrom i acquired →
      (∀ builder acquired', AddsFields acquired acquired' →
        Implements labels (fun _ => []) held acquired' (f builder) (g builder)) →
      Implements labels (fun _ => []) held acquired (addFields C failure i builder fields >>= f)
        (CertificateBuilder.appendFields C failure builder fields >>= g) := by
  intro fields
  induction fields with
  | nil =>
    intro i acquired builder _ hf
    exact hf builder acquired fun r hr => .inl hr
  | cons field fields ih =>
    intro i acquired builder hfresh hf
    obtain ⟨fieldType, value⟩ := field
    have herase : (Resource.fieldVal i :: held).erase (.fieldVal i) = held :=
      List.erase_cons_head ..
    have hlater : FreshFrom (i + 1) (.fieldVal i :: acquired) := by
      intro j hj hmem
      rcases List.mem_cons.mp hmem with hi | hold
      · have hji := Resource.fieldVal.inj hi
        omega
      · exact hfresh j (by omega) hold
    rw [addFields, CertificateBuilder.appendFields, Routine.bind_assoc, Routine.bind_assoc,
      LawfulMonad.bind_assoc]
    refine .unchecked (hfresh i le_rfl) ?_
    refine .attemptReleasing List.mem_cons_self (herase.trans hheld) fun builder => ?_
    rw [herase]
    refine ih (i + 1) _ builder hlater fun builder acquired' hacquired => ?_
    refine hf builder acquired' fun r hr => ?_
    rcases hacquired r hr with hmem | hfield
    · rcases List.mem_cons.mp hmem with rfl | hold
      · exact .inr ⟨i, rfl⟩
      · exact .inl hold
    · exact .inr hfield

theorem emit_implements (b : CertificateBuilder) :
    Implements emitLabels (fun _ => []) [] [] (emit C env b)
      (env.whenInitialized (CertificateBuilder.emit C b)) := by
  refine .ensure rfl ?_
  refine .ensure rfl ?_
  refine .create rfl (by decide) fun builder => ?_
  rw [CertificateBuilder.addFields_eq_appendFields]
  refine addFields_implements rfl _ 0 _ builder (by simp [FreshFrom]) fun builder acquired h => ?_
  refine .ensure rfl ?_
  refine .unchecked (h.notMem (by decide) fun j hj => by cases hj) ?_
  refine .dispose (by decide) ?_
  exact .done rfl _

theorem signNative_implements (G : Signer C) (b : CertificateBuilder)
    (signerId privateKey : Option Bytes) :
    Implements signLabels (fun _ => []) [] [] (signNative env G b signerId privateKey)
      (env.whenInitialized (CertificateBuilder.signNative G b signerId privateKey)) := by
  refine .ensure rfl ?_
  refine .require rfl fun signerId => ?_
  refine .require rfl fun privateKey => ?_
  refine .ensure rfl ?_
  refine .create rfl (by decide) fun builder => ?_
  refine addFields_implements rfl _ 0 _ builder (by simp [FreshFrom]) fun builder acquired h => ?_
  have hfresh : ∀ r, r ∉ [Resource.builder] → (∀ j, r ≠ .fieldVal j) → r ∉ acquired :=
    fun r hr => h.notMem hr
  refine .claim rfl (hfresh _ (by decide) fun j hj => by cases hj) ?_
  refine .ensure rfl ?_
  refine .unchecked (by simp [hfresh]) ?_
  refine .dispose (by decide) ?_
  refine .unchecked (by simp [hfresh]) ?_
  refine .attempt rfl fun builder => ?_
  refine .ensure rfl ?_
  refine .unchecked (by simp [hfresh]) ?_
  refine .dispose (by decide) ?_
  exact .done rfl _

theorem parseNative_implements (certificate : Bytes) :
    Implements parseLabels (fun _ => []) [] [] (parseNative C env certificate)
      (env.whenInitialized (CertificateParser.parseNative C certificate)) := by
  refine .ensure rfl ?_
  refine .claim rfl (by decide) ?_
  refine .unchecked (by decide) ?_
  refine .create rfl (by decide) fun parser => ?_
  refine .require rfl fun field => ?_
  exact .done rfl _

/-- What is outside the bounds is no exception. -/
theorem check_outOfBounds_ne (p : Prop) [Decidable p] (e : JavaException) :
    check p Fault.outOfBounds ≠ .error (.thrown e) := by
  unfold check
  split_ifs <;> exact fun h => by cases h

/-- A buffer is there, or it is not. -/
theorem nativeBuffer_ne (certificate : Bytes) (size : JInt) (e : JavaException) :
    ParserObject.nativeBuffer certificate size ≠ .error (.thrown e) := by
  unfold ParserObject.nativeBuffer
  dsimp only
  split_ifs <;> exact fun h => by cases h

/-- The resolver throws nothing: it leaves exceptions pending. -/
theorem attest_ne (A : Attester C) (parser : C.Parser) (a : Attempt)
    (delegate : CertificateParserDelegate) (e : JavaException) :
    (A.attest parser a.blockHeight a.validateContract).run (attestEntityKeyResolver a delegate)
      ⟨0, none⟩ ≠ .error (.thrown e) := by
  intro h
  obtain ⟨q, env, hanswer⟩ := Dialogue.run_error h
  cases attestEntityKeyResolver_error hanswer

theorem examine_implements (A : Attester C) (a : Attempt) (certificate : Bytes) (rawSize : JInt) :
    Implements parseLabels (fun _ => []) [] [] (examine env A a certificate rawSize)
      (env.whenInitialized (ParserObject.examine A a certificate rawSize)) := by
  refine .ensure rfl ?_
  refine .require rfl fun delegate => ?_
  refine .ensure rfl ?_
  refine .unchecked (by decide) ?_
  refine .memory (check_outOfBounds_ne _) fun _ => ?_
  refine .unchecked (by decide) ?_
  refine .memory (nativeBuffer_ne certificate rawSize) fun buffer => ?_
  refine .create rfl (by decide) fun parser => ?_
  refine .of_bind_pure (.memory (attest_ne A parser a delegate) fun result => ?_)
  exact .done rfl result

/-! ## Every way through the methods -/

theorem signNative_inBounds (G : Signer C) (b : CertificateBuilder)
    (signerId privateKey : Option Bytes) :
    InBounds (CertificateBuilder.signNative G b signerId privateKey) :=
  .bind (.orThrow ..) fun _ _ => .bind (.orThrow ..) fun _ _ => .bind (.check ..) fun _ _ =>
    .bind (.orThrow ..) fun _ _ => .bind (CertificateBuilder.appendFields_inBounds ..) fun _ _ =>
      .bind (.check ..) fun _ _ => .bind (.orThrow ..) fun _ _ => .bind (.check ..) fun _ _ =>
        .ok _

theorem parseNative_inBounds (certificate : Bytes) :
    InBounds (CertificateParser.parseNative C certificate) :=
  .bind (.orThrow ..) fun _ _ => .bind (.orThrow ..) fun _ _ => .ok _

/-- **The native certificate calls settle, whichever call fails.** In every
environment each of the four does what its function does or throws because a
call has failed, and gives back once whatever it has acquired: a writer also
where a field in the middle of the list is refused, whatever the list, and a
reader whatever it is given. Only an attestation may end outside memory, and
only for what it was given. -/
theorem certificate_calls_settle (env : NativeEnv (NativeCall Resource Op)) :
    (∀ b, Settles env emitLabels (emit C env b) (CertificateBuilder.emit C b)) ∧
    (∀ (G : Signer C) b signerId privateKey, Settles env signLabels
      (signNative env G b signerId privateKey)
      (CertificateBuilder.signNative G b signerId privateKey)) ∧
    (∀ certificate, Settles env parseLabels (parseNative C env certificate)
      (CertificateParser.parseNative C certificate)) ∧
    ∀ (A : Attester C) a certificate rawSize, LeavesBehind env parseLabels (fun _ => [])
      (examine env A a certificate rawSize) (ParserObject.examine A a certificate rawSize) :=
  ⟨fun b => (emit_implements b).settles (CertificateBuilder.emit_inBounds b),
    fun G b signerId privateKey =>
      (signNative_implements G b signerId privateKey).settles (signNative_inBounds ..),
    fun certificate => (parseNative_implements certificate).settles (parseNative_inBounds ..),
    fun A a certificate rawSize => (examine_implements A a certificate rawSize).leavesOf⟩

/-- Of three fields the second is refused: two have been pinned, and with the
builder three resources are given back. -/
example :
    let env : NativeEnv (NativeCall Resource Op) := ⟨true, fun c => c == .op (.addShortBuffer 1)⟩
    let (outcome, table) := env.invoke emitLabels
      (emit BufferCert.lib env ⟨[(1, [1]), (2, [2]), (3, [3])]⟩)
    outcome = .error (.illegalState "vccert_builder_add_short_buffer") ∧
      table.released = [.builder, .fieldVal 1, .fieldVal 0] ∧ table.live = [] := by
  decide +kernel

end NativeCertificate

end VjBlockchain
