import VjBlockchain.Cert.EncryptedRoundTrip
/-!
# One format — generic, field and document encryption

Three pairs of native methods encrypt and decrypt under a key: the generic
stream cipher, the fields of an encrypted certificate, and the pieces of a
document. What they write is one format, a vector and the masked octets behind
it, and each can read what another has written.

The format has no code. Every array with room for a vector is what some
encryption under any given key returns, so that a decryption refuses an array
only for its size.
-/

namespace Common

/-- Two maskings may be done in either order. -/
theorem xorAt_comm (ks ks' : ℕ → UInt8) (p q : ℕ) (d : Bytes) :
    xorAt ks p (xorAt ks' q d) = xorAt ks' q (xorAt ks p d) := by
  induction d generalizing p q with
  | nil => rfl
  | cons b bs ih =>
    rw [xorAt, xorAt, xorAt, xorAt, ih, UInt8.xor_assoc, UInt8.xor_comm (ks' q), ← UInt8.xor_assoc]

end Common

namespace VjBlockchain

open Common Common.Bytes Common.Throwing

variable {V : Vccrypt}

namespace GenericStreamCipher

/-- `decryptNative`. -/
def decryptNative (V : Vccrypt) (secretKey input : Bytes) : Except Fault Bytes := do
  check (secretKey.length = V.stream.keySize) (.illegalState "Invalid key size.")
  let stream ← orThrow (V.stream.init secretKey) (.illegalState "stream context failure.")
  check (IV_SIZE ≤ input.length) (.java .nullPointerException "bad outputArray alloc.")
  let out := zeros (input.length - IV_SIZE)
  let stream ← orThrow (V.stream.startDecryption stream input)
    (.illegalState "could not start decryption stream.")
  let (_, out, _) ←
    streamDecrypt V stream (input.drop IV_SIZE) out 0 0 "could not decrypt input data."
  .ok out

/-- **Under a key of the suite's size a field is decrypted as any other text.** -/
theorem decryptNative_eq_field (hV : V.Lawful) {key : Bytes} (hkey : key.length = 32)
    (input : Bytes) :
    decryptNative V key input = EncryptedCertificateReader.decryptNative V key input := by
  rw [decryptNative, check_pos (hkey.trans hV.streamKey.symm), ok_bind,
    EncryptedCertificateReader.decryptNative, orThrow_bind (Buffer.read_all hkey)]

/-- The field reader is the document reader at offset zero. -/
theorem decryptNative_eq_document (hV : V.Lawful) {key : Bytes} (hkey : key.length = 32)
    (iv input : Bytes) :
    decryptNative V key input = EncryptedDocumentReader.decryptData V key iv input 0 :=
  decryptNative_eq_field hV hkey input

section Key

variable (hV : V.Lawful) {key : Bytes} (hkey : key.length = 32)
include hV hkey

theorem decryptNative_eq {iv : Bytes} (hiv : iv.length = 8) (masked : Bytes) :
    decryptNative V key (iv ++ masked) = .ok (xorAt (V.stream.keystream key iv) 0 masked) :=
  (decryptNative_eq_field hV hkey _).trans
    (EncryptedCertificateReader.decryptNative_eq hV hkey hiv masked)

/-- Without room for a vector there is no array to return. -/
theorem decryptNative_short {input : Bytes} (h : input.length < 8) :
    decryptNative V key input = .error (.java .nullPointerException "bad outputArray alloc.") := by
  obtain ⟨stream, hinit⟩ := hV.stream.init_total (hkey.trans hV.streamKey.symm)
  rw [decryptNative, check_pos (hkey.trans hV.streamKey.symm), ok_bind, orThrow_bind hinit,
    check_neg (by rw [IV_SIZE]; omega), error_bind]

/-- **What is decrypted was encrypted**: under the vector it starts with. -/
theorem decryptNative_eq_ok_iff {m p : Bytes} (hm : m.length < 2 ^ 31) (hp : p.length < 2 ^ 31) :
    decryptNative V key m = .ok p ↔ ∃ iv, iv.length = 8 ∧ encryptNative V key iv p = .ok m := by
  constructor
  · intro h
    have hlong : 8 ≤ m.length := by
      by_contra hshort
      cases h.symm.trans (decryptNative_short hV hkey (by omega))
    obtain ⟨iv, masked, hiv, hmasked, rfl⟩ := exists_cut m 8 hlong
    obtain rfl := Except.ok.inj ((decryptNative_eq hV hkey hiv masked).symm.trans h)
    refine ⟨iv, hiv, ?_⟩
    rw [EncryptedDocumentBuilder.genericEncrypt_eq hV hkey hiv
      (by rw [length_xorAt, IV_SIZE]; omega), xorAt_xorAt]
  · rintro ⟨iv, hiv, h⟩
    obtain ⟨_, -, hinit⟩ := bind_eq_ok_iff.mp h
    obtain ⟨_, -, hout⟩ := bind_eq_ok_iff.mp hinit
    obtain ⟨_, hout, -⟩ := bind_eq_ok_iff.mp hout
    have hsize := lt_of_newByteArray (by rw [IV_SIZE]; omega) hout
    have hencrypt := EncryptedDocumentBuilder.genericEncrypt_eq hV hkey hiv hsize
    obtain rfl := Except.ok.inj (hencrypt.symm.trans h)
    rw [decryptNative_eq hV hkey hiv, xorAt_xorAt]

/-- **A flipped octet is flipped in what comes out**, and nothing else is. -/
theorem decryptNative_flip (flips : ℕ → UInt8) {m p : Bytes} (h : decryptNative V key m = .ok p) :
    decryptNative V key (m.take 8 ++ xorAt flips 0 (m.drop 8)) = .ok (xorAt flips 0 p) := by
  have hlong : 8 ≤ m.length := by
    by_contra hshort
    cases h.symm.trans (decryptNative_short hV hkey (by omega))
  obtain ⟨iv, masked, hiv, hmasked, rfl⟩ := exists_cut m 8 hlong
  obtain rfl := Except.ok.inj ((decryptNative_eq hV hkey hiv masked).symm.trans h)
  rw [List.take_left' hiv, List.drop_left' hiv, decryptNative_eq hV hkey hiv, xorAt_comm]

end Key

end GenericStreamCipher

open GenericStreamCipher in
/-- **One format, and no code in it.** Under a key of the suite's size the
three encryptions return the same octets for the same vector, and the three
decryptions do the same with every array; a document written in pieces is
read back in one. An array is decrypted exactly if it was encrypted under some
vector, which is so for every array of at least eight octets; and octets
flipped in it are flipped in what comes out. -/
theorem one_format (hV : V.Lawful) {key : Bytes} (hkey : key.length = 32) :
    (∀ iv input, iv.length = 8 → IV_SIZE + input.length < 2 ^ 31 →
      EncryptedCertificateBuilder.encryptData V key iv input = encryptNative V key iv input ∧
      EncryptedDocumentBuilder.encryptData V key iv input 0 = encryptNative V key iv input) ∧
    (∀ iv m, EncryptedCertificateReader.decryptNative V key m = decryptNative V key m ∧
      EncryptedDocumentReader.decryptData V key iv m 0 = decryptNative V key m) ∧
    (∀ iv (source : Source) destination, iv.length = 8 → source.remaining ≠ [] →
      ∃ source' m, EncryptedDocumentBuilder.encryptLoop V key iv source destination 0 =
          .ok () (source', destination ++ m) ∧
        decryptNative V key m = .ok source.remaining) ∧
    (∀ m p, m.length < 2 ^ 31 → p.length < 2 ^ 31 →
      (decryptNative V key m = .ok p ↔
        ∃ iv, iv.length = 8 ∧ encryptNative V key iv p = .ok m)) ∧
    (∀ m, (∃ p, decryptNative V key m = .ok p) ↔ 8 ≤ m.length) ∧
    ∀ flips m p, decryptNative V key m = .ok p →
      decryptNative V key (m.take 8 ++ xorAt flips 0 (m.drop 8)) = .ok (xorAt flips 0 p) := by
  refine ⟨fun iv input hiv hinput => ?_, fun iv m => ?_, ?_,
    fun m p hm hp => decryptNative_eq_ok_iff hV hkey hm hp, fun m => ⟨?_, fun hlong => ?_⟩,
    fun flips m p h => decryptNative_flip hV hkey flips h⟩
  · rw [EncryptedDocumentBuilder.genericEncrypt_eq hV hkey hiv hinput]
    exact ⟨EncryptedCertificateBuilder.encryptData_eq hV hkey hiv hinput,
      EncryptedDocumentBuilder.encryptData_eq hV hkey hiv hinput 0⟩
  · exact ⟨(decryptNative_eq_field hV hkey m).symm,
      (decryptNative_eq_document hV hkey iv m).symm⟩
  · intro iv source destination hiv hne
    obtain ⟨source', -, hloop⟩ :=
      EncryptedDocumentBuilder.encryptLoop_zero hV hkey hiv source destination
    rw [if_neg hne] at hloop
    exact ⟨source', _, hloop, by rw [decryptNative_eq hV hkey hiv, xorAt_xorAt]⟩
  · rintro ⟨p, h⟩
    by_contra hshort
    cases h.symm.trans (decryptNative_short hV hkey (by omega))
  · obtain ⟨iv, masked, hiv, -, rfl⟩ := exists_cut m 8 hlong
    exact ⟨_, decryptNative_eq hV hkey hiv masked⟩

open GenericStreamCipher in
/-- In the open: eight octets alone decrypt to nothing, a field is read by the
generic cipher, and the lowest bit of its first octet can be flipped. -/
theorem one_format_open :
    decryptNative XorSuite.suite (zeros 32) (zeros 8) = .ok [] ∧
    EncryptedCertificateBuilder.encryptData XorSuite.suite (zeros 32) (zeros 8) [4, 5] =
      encryptNative XorSuite.suite (zeros 32) (zeros 8) [4, 5] ∧
    decryptNative XorSuite.suite (zeros 32) (zeros 8 ++ [5, 5]) = .ok [5, 5] := by
  obtain ⟨hencrypt, -, -, hiff, -, hflip⟩ :=
    @one_format XorSuite.suite XorSuite.suite_lawful (zeros 32) (length_zeros 32)
  have hnothing : decryptNative XorSuite.suite (zeros 32) (zeros 8) = .ok [] :=
    (hiff (zeros 8) [] (by simp) (by simp)).mpr ⟨zeros 8, by simp, by decide +kernel⟩
  have hread : decryptNative XorSuite.suite (zeros 32) (zeros 8 ++ [4, 5]) = .ok [4, 5] :=
    (hiff _ [4, 5] (by simp) (by simp)).mpr ⟨zeros 8, by simp, by decide +kernel⟩
  exact ⟨hnothing, (hencrypt (zeros 8) [4, 5] (by simp) (by simp [IV_SIZE])).1,
    hflip (fun n => if n = 0 then 1 else 0) _ _ hread⟩

end VjBlockchain
