import VjBlockchain.Crypt.NativeGenerate
/-!
# The native signing calls — resources, and what a failing call can do

`signNative` throws for every call that fails. `verifyNative` has two ways out
that throw nothing: a signature of the wrong size, and a verification that does
not succeed, for whatever reason. Both leave through a label with the answer
`false`.

So a failing call can make a good signature look bad, and only that call. No
failing call can make a bad one look good.

Local references go when a method returns, and are left out as in the
generators; the labels that drop one earlier do nothing here.
-/

namespace VjBlockchain

open Common Common.Bytes Common.Throwing

namespace NativeSigning

/-- What the two methods acquire. -/
inductive Resource
  | privkey
  | privateKeyBytes
  | pubkey
  | publicKeyBytes
  | sign
  | messageBytes
  | signature
  | signOutBytes
  | signBuf
  | signatureArrayBytes
  deriving DecidableEq, Repr

/-- The calls that acquire nothing. -/
inductive Op
  | sign
  | verify
  | newByteArray
  | newObject
  deriving DecidableEq, Repr

open NativeMethod Routine JavaException

variable (D : SignatureScheme) (env : NativeEnv (NativeCall Resource Op))

/-- `SigningPrivateKey.signNative`. -/
def signNative (key : SigningPrivateKey) (message : Option Message) :
    NativeMethod Resource Op Signature := do
  initialized env
  let message ← require message (nullPointer "message") none
  let privateKey ← require key.rawBytes (nullPointer "this.getRawBytes()") none
  ensure (privateKey.length = D.privateKeySize) (illegalState "private_key_size") none
  claim .privkey (illegalState "privkey") none
  claim .privateKeyBytes (nullPointer "private_key_bytes") (some .privkey)
  claim .sign (illegalState "signature_init") (some .privateKeyBytes)
  let message ← require message.rawBytes (nullPointer "message.getRawBytes()") (some .sign)
  claim .messageBytes (nullPointer "message_bytes") (some .sign)
  claim .signature (illegalState "signature") (some .messageBytes)
  let signature ← attempt .sign (D.sign privateKey message) (illegalState "signature_sign")
    (some .signature)
  must .newByteArray (nullPointer "sign_out") (some .signature)
  claim .signOutBytes (nullPointer "sign_out_bytes") (some .signature)
  dispose .signOutBytes
  must .newObject (illegalState "Signature_new") (some .signature)
  pure ⟨some signature⟩

/-- The labels of `signNative`. -/
def signLabels : List Resource := [.signature, .messageBytes, .sign, .privateKeyBytes, .privkey]

/-- `SigningPublicKey.verifyNative`. -/
def verifyNative (key : SigningPublicKey) (signature : Option Signature)
    (message : Option Message) : Answering Resource Op Bool Bool := do
  ensure (env.initialized = true) (.inl (illegalState "vjblockchain not initialized.")) none
  let signature ← require signature (.inl (nullPointer "signature")) none
  let message ← require message (.inl (nullPointer "message")) none
  let publicKey ← require key.rawBytes (.inl (nullPointer "this.getRawBytes()")) none
  ensure (publicKey.length = D.publicKeySize) (.inl (illegalState "public_key_size")) none
  Answering.claim .pubkey (illegalState "pubkey") none
  Answering.claim .publicKeyBytes (nullPointer "public_key_bytes") (some .pubkey)
  Answering.claim .sign (illegalState "signature_init") (some .publicKeyBytes)
  let message ← require message.rawBytes (.inl (nullPointer "message.getRawBytes()")) (some .sign)
  Answering.claim .messageBytes (nullPointer "message_bytes") (some .sign)
  Answering.claim .signBuf (illegalState "sign_buf") (some .messageBytes)
  let signature ← require signature.signatureBytes
    (.inl (nullPointer "signature.getSignatureBytes()")) (some .signBuf)
  ensure (signature.length = D.signatureSize) (.inr false) (some .signBuf)
  Answering.claim .signatureArrayBytes (nullPointer "signature_array_bytes") (some .signBuf)
  Answering.decided .verify (D.verify publicKey signature message = true) false
    (some .signatureArrayBytes)
  pure true

/-- The labels of `verifyNative`. -/
def verifyLabels : List Resource :=
  [.signatureArrayBytes, .signBuf, .messageBytes, .sign, .publicKeyBytes, .pubkey]

/-! ## Each method, step by step -/

variable {D env}

theorem signNative_implements (key : SigningPrivateKey) (message : Option Message) :
    Implements signLabels (fun _ => []) [] [] (signNative D env key message)
      (env.whenInitialized (key.signNative D message)) := by
  refine .ensure rfl ?_
  refine .require rfl fun message => ?_
  refine .require rfl fun privateKey => ?_
  refine .ensure rfl ?_
  iterate 3 refine .claim rfl (by decide) ?_
  refine .require rfl fun message => ?_
  iterate 2 refine .claim rfl (by decide) ?_
  refine .attempt rfl fun signature => ?_
  refine .must rfl ?_
  refine .claim rfl (by decide) ?_
  refine .dispose (by decide) ?_
  refine .must rfl ?_
  exact .done rfl _

/-- The one call that may decide the answer. -/
def Decides (o : Op) (answer : Bool) : Prop := o = .verify ∧ answer = false

theorem verifyNative_answers (key : SigningPublicKey) (signature : Option Signature)
    (message : Option Message) :
    Answering.Answers verifyLabels Decides [] [] (verifyNative D env key signature message)
      (env.whenInitialized (key.verifyNative D signature message)) := by
  refine .ensure rfl ?_
  refine .require rfl fun signature => ?_
  refine .require rfl fun message => ?_
  refine .require rfl fun publicKey => ?_
  refine .ensure rfl ?_
  iterate 3 refine .claim rfl (by decide) ?_
  refine .require rfl fun message => ?_
  iterate 2 refine .claim rfl (by decide) ?_
  refine .require rfl fun signature => ?_
  refine .decide rfl ?_
  refine .claim rfl (by decide) ?_
  refine .decided ⟨rfl, rfl⟩ rfl ?_
  exact .done rfl true

/-! ## Every way through the methods -/

theorem signNative_inBounds (key : SigningPrivateKey) (message : Option Message) :
    InBounds (key.signNative D message) :=
  .bind (.orThrow ..) fun _ _ => .bind (.orThrow ..) fun _ _ => .bind (.check ..) fun _ _ =>
    .bind (.orThrow ..) fun _ _ => .bind (.orThrow ..) fun _ _ => .ok _

theorem verifyNative_inBounds (key : SigningPublicKey) (signature : Option Signature)
    (message : Option Message) : InBounds (key.verifyNative D signature message) := by
  refine .bind (.orThrow ..) fun _ _ => .bind (.orThrow ..) fun _ _ => .bind (.orThrow ..)
    fun _ _ => .bind (.check ..) fun _ _ => .bind (.orThrow ..) fun _ _ => .bind (.orThrow ..)
    fun _ _ => ?_
  split_ifs <;> exact .ok _

variable (D) in
/-- What `verifyNative` answers in an environment. -/
def answerOf (env : NativeEnv (NativeCall Resource Op)) (key : SigningPublicKey)
    (signature : Option Signature) (message : Option Message) : Except Fault Bool :=
  (env.ask verifyLabels (verifyNative D env key signature message)).1

/-- An answer in an environment, if it would be `x`: that, or an exception or a
`false` for a call that has failed. -/
def AnswersAs (env : NativeEnv (NativeCall Resource Op)) (answer x : Except Fault Bool) : Prop :=
  answer = env.whenInitialized x ∨
    (∃ c, env.fails c = true) ∧ (∃ e, answer = .error (.thrown e)) ∨
    env.fails (.op .verify) = true ∧ answer = .ok false

theorem answerOf_answersAs (env : NativeEnv (NativeCall Resource Op)) (key : SigningPublicKey)
    (signature : Option Signature) (message : Option Message) :
    AnswersAs env (answerOf D env key signature message)
      (key.verifyNative D signature message) := by
  have hanswers : Answering.Answers verifyLabels Decides [] []
      (verifyNative D env key signature message) _ := verifyNative_answers key signature message
  rcases hanswers.outcome with hplain | hthrown | ⟨o, answer, ho, ⟨rfl, rfl⟩, hanswer⟩
  · exact .inl hplain
  · exact .inr (.inl hthrown)
  · exact .inr (.inr ⟨ho, hanswer⟩)

/-- **The native signing calls settle, whichever call fails.** In every
environment `signNative` does what its function does or throws because a call
has failed; `verifyNative` may also answer `false`, when it is the verification
that has failed. Whatever they pin, allocate or make they give back once, also
on the two ways out that throw nothing. -/
theorem signing_calls_settle (D : SignatureScheme) (env : NativeEnv (NativeCall Resource Op)) :
    (∀ key message, Settles env signLabels (signNative D env key message)
      (key.signNative D message)) ∧
    ∀ key signature message,
      AnswersAs env (answerOf D env key signature message)
        (key.verifyNative D signature message) ∧
      (env.ask verifyLabels (verifyNative D env key signature message)).2.Settled := by
  refine ⟨fun key message => ?_, fun key signature message => ⟨?_, ?_⟩⟩
  · exact (signNative_implements key message).settles (signNative_inBounds ..)
  · exact answerOf_answersAs ..
  · refine (verifyNative_answers key signature message).settled ?_
    exact .bind (.check ..) fun _ _ => verifyNative_inBounds ..

/-! ## Signed and verified -/

/-- **What is signed is verified, and nothing else is.** Over any failing calls:
whatever is accepted has octets of the right sizes that the scheme accepts; and
a signature that a generated pair makes of a message is accepted by the pair,
unless a call fails, and then it is an exception or the verification itself. -/
theorem signed_is_verified (hD : D.Lawful) :
    (∀ env key signature message, answerOf D env key signature message = .ok true →
      ∃ A s m, key.Accepts (D := D) signature message A s m) ∧
    ∀ (generation : NativeEnv (NativeCall NativeGenerate.Resource NativeGenerate.Op))
      (pending : JavaException) (drawn : Option (Bytes × Bytes)) (pair : SigningKeyPair),
      (∀ keys, drawn = some keys → D.IsKeyPair keys.1 keys.2) →
      (generation.invoke NativeGenerate.pairLabels
        (NativeGenerate.SigningKeyPair.generateNative generation pending drawn)).1 = .ok pair →
      ∀ (signing verification : NativeEnv (NativeCall Resource Op)) (m : Bytes),
        ∃ signature,
          EndsWith signing signLabels
            (signNative D signing pair.privateKey (some ⟨some m⟩)) signature ∧
          AnswersAs verification
            (answerOf D verification pair.publicKey (some signature) (some ⟨some m⟩))
            (.ok true) := by
  constructor
  · intro env key signature message h
    rcases answerOf_answersAs env key signature message with hplain | ⟨-, e, hthrown⟩ | ⟨-, hfalse⟩
    · have haccepted := NativeEnv.whenInitialized_eq_ok_iff.mp (hplain.symm.trans h)
      exact SigningPublicKey.verifyNative_eq_true_iff.mp haccepted.2
    · cases hthrown.symm.trans h
    · cases hfalse.symm.trans h
  · intro generation pending drawn pair hdrawn hpair signing verification m
    have hgenerated := (NativeGenerate.generateNative_implements ..).leavesOf.of_ok hpair
    obtain ⟨⟨a, A⟩, rfl, rfl⟩ := Option.map_eq_some_iff.mp (orThrow_eq_ok_iff.mp hgenerated)
    have hkeys : D.IsKeyPair a A := hdrawn _ rfl
    obtain ⟨s, hs, hsigned⟩ := SigningKeyPair.signNative_eq hD hkeys m
    have haccepted := SigningPublicKey.verifyNative_eq_true_iff.mpr
      ⟨A, s, m, SigningKeyPair.accepts hD hkeys hs⟩
    refine ⟨⟨some s⟩, (signNative_implements ..).endsWith hsigned, ?_⟩
    rw [← haccepted]
    exact answerOf_answersAs ..

/-- No call fails. -/
def reliable : NativeEnv (NativeCall Resource Op) := ⟨true, fun _ => false⟩

/-- Signatures cannot be verified. -/
def unverifying : NativeEnv (NativeCall Resource Op) := ⟨true, fun c => c == .op .verify⟩

/-- The pair of zeros, generated. -/
def openPair : SigningKeyPair := .of (zeros 32, zeros 32)

/-- A good signature, accepted, and refused by a verification that fails. -/
theorem signed_is_verified_unverified :
    ∃ signature, (reliable.invoke signLabels (signNative XorSuite.signatures reliable
        openPair.privateKey (some ⟨some [1]⟩))).1 = .ok signature ∧
      answerOf XorSuite.signatures reliable openPair.publicKey (some signature)
        (some ⟨some [1]⟩) = .ok true ∧
      answerOf XorSuite.signatures unverifying openPair.publicKey (some signature)
        (some ⟨some [1]⟩) = .ok false := by
  have hdrawn : ∀ keys, some (zeros 32, zeros 32) = some keys →
      XorSuite.signatures.IsKeyPair keys.1 keys.2 := by
    intro keys hkeys
    obtain rfl := Option.some.inj hkeys
    exact ⟨length_zeros 32, rfl⟩
  have hpair : (NativeEnv.invoke ⟨true, fun _ => false⟩ NativeGenerate.pairLabels
      (NativeGenerate.SigningKeyPair.generateNative ⟨true, fun _ => false⟩
        (.illegalState "Instantiation") (some (zeros 32, zeros 32)))).1 = .ok openPair := rfl
  obtain ⟨signature, hsigned, hverified⟩ := (signed_is_verified XorSuite.signatures_lawful).2
    ⟨true, fun _ => false⟩ (.illegalState "Instantiation") _ _ hdrawn hpair reliable reliable [1]
  have hmade := hsigned.of_reliable fun _ => rfl
  refine ⟨signature, hmade, ?_, ?_⟩
  · rcases hverified with h | ⟨⟨c, hc⟩, -⟩ | ⟨hverify, -⟩
    · exact h
    · cases hc
    · cases hverify
  · obtain rfl : ⟨some (toBE 64 (ofBE (zeros 32) + 31 * ofBE [1] + 1))⟩ = signature :=
      Except.ok.inj hmade
    decide +kernel

end NativeSigning

end VjBlockchain
