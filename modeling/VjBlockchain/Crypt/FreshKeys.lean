import VjBlockchain.Cert.NativeCalls
import VjBlockchain.Crypt.NativeCipher
import VjBlockchain.Crypt.NativeGenerate
/-!
# Fresh keys, over calls that fail

A key is made by one native call, used by a second, and what that one returned
is undone by a third. Any call any of them makes may fail. A failure ends its
method with an exception, so what comes out at the end is what went in.
-/

namespace VjBlockchain

open Common Common.Bytes Common.Throwing

open NativeMethod

/-- An encryption that fits into an array, and its decryption. -/
theorem SimpleStreamCipher.encrypt_decrypt {S : CryptoSuite} (hS : S.Lawful)
    (cipher : SimpleStreamCipher S) (draws : Draws) {p : Bytes} (hp : p.length + 120 < 2 ^ 31) :
    ∃ m, cipher.encrypt draws p = .ok m ∧ cipher.decrypt m = .ok p := by
  have hround := fun m => decrypt_of_encrypt hS cipher (m := m) draws hp
  obtain ⟨sessionKey, sessionIv, streamIv, hkey, hiv, hstream⟩ := draws
  obtain ⟨k₁, k₂, h₁, h₂, rfl⟩ := exists_cut sessionKey 16 (by omega)
  have hencrypt := encrypt_eq hS cipher hiv h₁ (by omega) hstream hkey hp
  exact ⟨_, hencrypt, hround _ hencrypt⟩

/-- **What a fresh key does is undone, whatever calls fail.** A random key that
was made encrypts every text that fits, and decrypts it again; an encryption
key that was made is wrapped by one key pair for another, and unwrapped by that
one. Each call ends so, or with an exception for a call that has failed. -/
theorem fresh_keys_undone {S : CryptoSuite} (hS : S.Lawful) (prng : Prng)
    (generation : NativeEnv (NativeCall NativeGenerate.Resource NativeGenerate.Op)) :
    (∀ (pending : JavaException) (key : Key S),
      (generation.invoke NativeGenerate.keyLabels
        (NativeGenerate.createRandomNative generation S pending prng)).1 = .ok key →
      prng.read S.stream.keySize = some key.rawBytes ∧
      ∀ (encryption decryption : NativeEnv (NativeCall NativeCipher.Resource NativeCipher.Op))
        (draws : SimpleStreamCipher.Draws) (p : Bytes), p.length + 120 < 2 ^ 31 →
        ∃ m, EndsWith encryption NativeCipher.encryptLabels
            (NativeCipher.encryptNative encryption ⟨key⟩ draws p) m ∧
          EndsWith decryption NativeCipher.decryptLabels
            (NativeCipher.decryptNative decryption ⟨key⟩ m) p) ∧
    ∀ secretKey : Bytes,
      (generation.invoke NativeGenerate.keyLabels
        (NativeGenerate.generateEncryptionKey generation prng)).1 = .ok secretKey →
      prng.read 32 = some secretKey ∧
      ∀ (wrapping unwrapping : NativeEnv (NativeCall NativeKey.Resource NativeKey.Op))
        (creator subscriber : EncryptionKeyPair S.toVccrypt) (iv : Bytes), iv.length = 16 →
        ∃ wrapped, EndsWith wrapping NativeKey.encryptKeyLabels
            (NativeKey.encryptKey S.toVccrypt wrapping creator.privateKey subscriber.publicKey
              secretKey iv) wrapped ∧
          EndsWith unwrapping NativeKey.decryptKeyLabels
            (NativeKey.decryptKey S.toVccrypt unwrapping subscriber.privateKey creator.publicKey
              wrapped) secretKey := by
  constructor
  · intro pending key hkey
    have hmade := (NativeGenerate.createRandomNative_implements S pending prng).leavesOf.of_ok hkey
    refine ⟨(NativeGenerate.createRandomNative_eq_ok_iff.mp hmade).2,
      fun encryption decryption draws p hp => ?_⟩
    obtain ⟨m, hencrypt, hdecrypt⟩ := SimpleStreamCipher.encrypt_decrypt hS ⟨key⟩ draws hp
    exact ⟨m, (NativeCipher.encryptNative_implements ..).endsWith hencrypt,
      (NativeCipher.decryptNative_implements ..).endsWith hdecrypt⟩
  · intro secretKey hsecret
    have hmade := (NativeGenerate.generateEncryptionKey_implements prng).leavesOf.of_ok hsecret
    have hread : prng.read 32 = some secretKey := orThrow_eq_ok_iff.mp hmade
    refine ⟨hread, fun wrapping unwrapping creator subscriber iv hiv => ?_⟩
    obtain ⟨wrapped, hwrap, hunwrap⟩ :=
      decryptKey_encryptKey hS.vccrypt creator subscriber (prng.length_read hread) hiv
    exact ⟨wrapped, (NativeKey.encryptKey_implements ..).endsWith hwrap,
      (NativeKey.decryptKey_implements ..).endsWith hunwrap⟩

/-- A generator of zeros. -/
def zeroPrng : Prng := ⟨fun n => some (zeros n), fun h => by
  obtain rfl := Option.some.inj h
  exact length_zeros _⟩

/-- The key of zeros, where no call fails: three octets come back, and a wrapped
key does. -/
theorem fresh_keys_undone_zeros :
    (∃ m, (NativeEnv.invoke ⟨true, fun _ => false⟩ NativeCipher.encryptLabels
        (NativeCipher.encryptNative (S := XorSuite.cryptoSuite) ⟨true, fun _ => false⟩
          ⟨zeros 32, rfl⟩ ⟨zeros 32, zeros 16, zeros 8, rfl, rfl, rfl⟩ [1, 2, 3])).1 = .ok m ∧
      (NativeEnv.invoke ⟨true, fun _ => false⟩ NativeCipher.decryptLabels
        (NativeCipher.decryptNative (S := XorSuite.cryptoSuite) ⟨true, fun _ => false⟩
          ⟨zeros 32, rfl⟩ m)).1 = .ok [1, 2, 3]) ∧
    ∃ wrapped, (NativeEnv.invoke ⟨true, fun _ => false⟩ NativeKey.decryptKeyLabels
      (NativeKey.decryptKey XorSuite.suite ⟨true, fun _ => false⟩
        (XorSuite.keyPair 2).privateKey (XorSuite.keyPair 1).publicKey wrapped)).1 =
          .ok (zeros 32) := by
  have hkey : (NativeEnv.invoke ⟨true, fun _ => false⟩ NativeGenerate.keyLabels
      (NativeGenerate.createRandomNative ⟨true, fun _ => false⟩ XorSuite.cryptoSuite
        (.illegalState "Instantiation") zeroPrng)).1 = .ok ⟨zeros 32, rfl⟩ := rfl
  have hsecret : (NativeEnv.invoke ⟨true, fun _ => false⟩ NativeGenerate.keyLabels
      (NativeGenerate.generateEncryptionKey ⟨true, fun _ => false⟩ zeroPrng)).1 =
        .ok (zeros 32) := rfl
  obtain ⟨hseals, hwraps⟩ :=
    fresh_keys_undone XorSuite.cryptoSuite_lawful zeroPrng ⟨true, fun _ => false⟩
  obtain ⟨m, hencrypt, hdecrypt⟩ := (hseals _ _ hkey).2 ⟨true, fun _ => false⟩
    ⟨true, fun _ => false⟩ ⟨zeros 32, zeros 16, zeros 8, rfl, rfl, rfl⟩ [1, 2, 3] (by decide)
  obtain ⟨wrapped, -, hunwrap⟩ := (hwraps _ hsecret).2 ⟨true, fun _ => false⟩
    ⟨true, fun _ => false⟩ (XorSuite.keyPair 1) (XorSuite.keyPair 2) (zeros 16) rfl
  exact ⟨⟨m, hencrypt.of_reliable fun _ => rfl, hdecrypt.of_reliable fun _ => rfl⟩, wrapped,
    hunwrap.of_reliable fun _ => rfl⟩

end VjBlockchain
