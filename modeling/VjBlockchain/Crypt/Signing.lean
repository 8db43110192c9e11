import VjBlockchain.Cert.Sign
/-!
# Signing keys

One half of a signing key pair signs and the other verifies. Keys, messages
and signatures are arrays in objects whose constructors check nothing; what
they hold is looked at when they are used. A key of the wrong size is an
exception of both methods. A signature of the wrong size is none: `verify`
answers `false`, as it does for a signature the scheme refuses.

The scheme is a parameter, like the rest of the cryptographic library.
-/

namespace VjBlockchain

open Common Common.Bytes Common.Throwing

/-- The digital signatures of the suite. -/
structure SignatureScheme where
  privateKeySize : ℕ
  publicKeySize : ℕ
  signatureSize : ℕ
  /-- With a private key, a message. -/
  sign : Bytes → Bytes → Option Bytes
  /-- Under a public key, a signature of a message. -/
  verify : Bytes → Bytes → Bytes → Bool
  /-- The private key belongs to the public key. -/
  IsKeyPair : Bytes → Bytes → Prop

/-- **A lawful scheme**: its pairs sign every message, and what they sign
verifies. -/
structure SignatureScheme.Lawful (D : SignatureScheme) : Prop where
  length_keys : ∀ {a A}, D.IsKeyPair a A →
    a.length = D.privateKeySize ∧ A.length = D.publicKeySize
  sign : ∀ {a A}, D.IsKeyPair a A → ∀ m, ∃ s, D.sign a m = some s
  verify : ∀ {a A}, D.IsKeyPair a A → ∀ {m s}, D.sign a m = some s →
    s.length = D.signatureSize ∧ D.verify A s m = true

/-! ## Objects -/

structure SigningPublicKey where
  rawBytes : Option Bytes

structure SigningKeyPair where
  publicKey : SigningPublicKey
  privateKey : SigningPrivateKey

structure Signature where
  signatureBytes : Option Bytes

structure Message where
  rawBytes : Option Bytes

variable (D : SignatureScheme)

/-! ## Signing and verifying -/

/-- `SigningPrivateKey.signNative`; a `null` reference is `none`. -/
def SigningPrivateKey.signNative (key : SigningPrivateKey) (message : Option Message) :
    Except Fault Signature := do
  let message ← orThrow message (.java .nullPointerException "message")
  let privateKey ← orThrow key.rawBytes (.java .nullPointerException "this.getRawBytes()")
  check (privateKey.length = D.privateKeySize) (.illegalState "private_key_size")
  let message ← orThrow message.rawBytes (.java .nullPointerException "message.getRawBytes()")
  let signature ← orThrow (D.sign privateKey message) (.illegalState "signature_sign")
  .ok ⟨some signature⟩

/-- `SigningPublicKey.verifyNative`. -/
def SigningPublicKey.verifyNative (key : SigningPublicKey) (signature : Option Signature)
    (message : Option Message) : Except Fault Bool := do
  let signature ← orThrow signature (.java .nullPointerException "signature")
  let message ← orThrow message (.java .nullPointerException "message")
  let publicKey ← orThrow key.rawBytes (.java .nullPointerException "this.getRawBytes()")
  check (publicKey.length = D.publicKeySize) (.illegalState "public_key_size")
  let message ← orThrow message.rawBytes (.java .nullPointerException "message.getRawBytes()")
  let signature ← orThrow signature.signatureBytes
    (.java .nullPointerException "signature.getSignatureBytes()")
  -- A size that cannot match is no exception.
  if signature.length = D.signatureSize then
    if D.verify publicKey signature message = true then .ok true else .ok false
  else .ok false

/-- What `SigningKeyPair.generateNative` makes of a drawn pair. -/
def SigningKeyPair.of (keys : Bytes × Bytes) : SigningKeyPair := ⟨⟨some keys.2⟩, ⟨some keys.1⟩⟩

variable {D}

/-- The octets `verify` accepts. -/
structure SigningPublicKey.Accepts (key : SigningPublicKey) (signature : Option Signature)
    (message : Option Message) (A s m : Bytes) : Prop where
  publicKey : key.rawBytes = some A
  signature : signature = some ⟨some s⟩
  message : message = some ⟨some m⟩
  length_publicKey : A.length = D.publicKeySize
  length_signature : s.length = D.signatureSize
  verify : D.verify A s m = true

/-- **What `verify` accepts**: octets of the right sizes, there and accepted by
the scheme. -/
theorem SigningPublicKey.verifyNative_eq_true_iff {key : SigningPublicKey}
    {signature : Option Signature} {message : Option Message} :
    key.verifyNative D signature message = .ok true ↔
      ∃ A s m, key.Accepts (D := D) signature message A s m := by
  constructor
  · intro h
    simp only [verifyNative, bind_eq_ok_iff, orThrow_eq_ok_iff, check_eq_ok_iff] at h
    obtain ⟨⟨_⟩, rfl, ⟨_⟩, rfl, A, hkey, -, hA, m, rfl, s, rfl, h⟩ := h
    split_ifs at h with hs hverify
    · exact ⟨A, s, m, hkey, rfl, rfl, hA, hs, hverify⟩
    · cases h
    · cases h
  · rintro ⟨A, s, m, hkey, rfl, rfl, hA, hs, hverify⟩
    rw [verifyNative, orThrow_some, ok_bind, orThrow_some, ok_bind, orThrow_bind hkey,
      check_pos hA, ok_bind, orThrow_some, ok_bind, orThrow_some, ok_bind, if_pos hs,
      if_pos hverify]

/-- What a pair signs, its public key accepts. -/
theorem SigningKeyPair.accepts (hD : D.Lawful) {a A m s : Bytes} (hpair : D.IsKeyPair a A)
    (hsign : D.sign a m = some s) :
    (SigningKeyPair.of (a, A)).publicKey.Accepts (D := D) (some ⟨some s⟩) (some ⟨some m⟩) A s
      m := by
  obtain ⟨hlength, hverify⟩ := hD.verify hpair hsign
  exact ⟨rfl, rfl, rfl, (hD.length_keys hpair).2, hlength, hverify⟩

/-- A pair signs. -/
theorem SigningKeyPair.signNative_eq (hD : D.Lawful) {a A : Bytes} (hpair : D.IsKeyPair a A)
    (m : Bytes) :
    ∃ s, D.sign a m = some s ∧
      (SigningKeyPair.of (a, A)).privateKey.signNative D (some ⟨some m⟩) = .ok ⟨some s⟩ := by
  obtain ⟨s, hsign⟩ := hD.sign hpair m
  refine ⟨s, hsign, ?_⟩
  rw [SigningPrivateKey.signNative, orThrow_some, ok_bind, SigningKeyPair.of, orThrow_some,
    ok_bind, check_pos (hD.length_keys hpair).1, ok_bind, orThrow_some, ok_bind,
    orThrow_bind hsign]

/-- A scheme in the open: the sum of key and message, which anyone can add up. -/
def XorSuite.signatures : SignatureScheme where
  privateKeySize := 32
  publicKeySize := 32
  signatureSize := 64
  sign a m := some (toBE 64 (ofBE a + 31 * ofBE m + m.length))
  verify A s m := s == toBE 64 (ofBE A + 31 * ofBE m + m.length)
  IsKeyPair a A := a.length = 32 ∧ A = a

theorem XorSuite.signatures_lawful : signatures.Lawful where
  length_keys := by
    rintro _ A ⟨ha, rfl⟩
    exact ⟨ha, ha⟩
  sign := fun _ _ => ⟨_, rfl⟩
  verify := by
    rintro _ A ⟨-, rfl⟩ m s hsign
    obtain rfl := Option.some.inj hsign
    exact ⟨length_toBE .., beq_self_eq_true _⟩

end VjBlockchain
