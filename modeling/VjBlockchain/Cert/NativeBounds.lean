import VjBlockchain.Cert.Recipients
/-!
# What the native cipher calls touch

The native methods take a length from one array and copy fixed amounts: 32
octets of a key, 8 of a vector, three stretches of 16 of a wrapped key. Where
the array at hand is shorter, they read, or write, past its end.

An unwrapping of a key allocates sixteen octets less than it was given and
always fills 32. It stays inside its arrays for 48 octets or more, and for
fewer than sixteen, where the allocation is refused with an exception; what
it returns is a key of 32 octets for exactly 48.
-/

namespace VjBlockchain

open Common Common.Bytes Common.Throwing

variable (V : Vccrypt)

/-- **An unwrapping keeps to its arrays**, and what it returns is a key. -/
structure UnwrapsInside (unwrapped : Except Fault Bytes) : Prop where
  inBounds : InBounds unwrapped
  length : ∀ key, unwrapped = .ok key → key.length = 32

/-- The two keys have a secret, and the block cipher takes it. -/
def Agrees (privateKey publicKey : Bytes) : Prop :=
  ∃ secret block, V.longTermSecret (privateKey.take 32) (publicKey.take 32) = some secret ∧
    V.block.init secret false = some block

/-- Both keys are long enough, and a wrapped key that is unwrapped at all has
its 48 octets, or too few for an allocation. -/
structure WrappedFits (privateKey publicKey encryptedKey : Bytes) : Prop where
  le_privateKey : 32 ≤ privateKey.length
  le_publicKey : 32 ≤ publicKey.length
  length_encryptedKey : Agrees V privateKey publicKey →
    encryptedKey.length < 16 ∨ encryptedKey.length = 48

/-- A vector has its eight octets, unless the result would fit no array. -/
def VectorFits (iv input : Bytes) : Prop := 8 ≤ iv.length ∨ 2 ^ 31 ≤ IV_SIZE + input.length

variable {V}

/-! ## Exceptions -/

theorem InBounds.thrown_error {α : Type} (e : JavaException) :
    InBounds (.error (.thrown e) : Except Fault α) :=
  ⟨fun h => nomatch h⟩

theorem not_inBounds {α : Type} : ¬InBounds (.error .outOfBounds : Except Fault α) :=
  fun h => h.ne rfl

theorem UnwrapsInside.thrown_error (e : JavaException) : UnwrapsInside (.error (.thrown e)) :=
  ⟨.thrown_error e, fun _ h => nomatch h⟩

/-! ## One block -/

/-- Inside both arrays a block is decrypted. -/
theorem exists_blockDecrypt (hV : V.Lawful) (hB : V.block.Onto) {block : V.block.Instance}
    (hdir : V.block.encrypting block = false) {key out : Bytes} {c i o : ℕ}
    (hc : c + 16 ≤ key.length) (hi : i + 16 ≤ key.length) (ho : o + 16 ≤ out.length)
    (failure : String) :
    ∃ out', blockDecrypt V block key out c i o failure = .ok out' ∧ out'.length = out.length := by
  obtain ⟨chain, hchain, hlen⟩ := Buffer.exists_read hc
  obtain ⟨masked, hmasked, hsize⟩ := Buffer.exists_read hi
  have hclear : (V.block.dec (V.block.key block) chain masked).length = 16 :=
    (hB.length_dec _ (hsize.trans hV.blockSize.symm)).trans hV.blockSize
  have hroom : o + (V.block.dec (V.block.key block) chain masked).length ≤ out.length := by
    rw [hclear]
    exact ho
  obtain ⟨out', hout, hlen'⟩ := Buffer.exists_write hroom
  exact ⟨out', blockDecrypt_eq hV hdir hchain hmasked hlen hsize hout failure, hlen'⟩

/-- A block past the end of the array is read there all the same. -/
theorem blockDecrypt_past {block : V.block.Instance} {key : Bytes} {i : ℕ}
    (hi : key.length < i + 16) (out : Bytes) (c o : ℕ) (failure : String) :
    blockDecrypt V block key out c i o failure = .error .outOfBounds := by
  rw [blockDecrypt]
  cases Buffer.read key c 16 with
  | none => rfl
  | some chain =>
    rw [orThrow_some, ok_bind, Buffer.read_none hi]
    rfl

/-! ## Unwrapping -/

/-- A short key array is read past its end. -/
theorem longTermSecret_short {privateKey publicKey : Bytes}
    (h : privateKey.length < 32 ∨ publicKey.length < 32) :
    longTermSecret V privateKey publicKey = .error .outOfBounds := by
  rw [longTermSecret]
  cases hread : Buffer.read privateKey 0 32 with
  | none => rfl
  | some key =>
    have hprivate : ¬privateKey.length < 32 := by
      intro hshort
      rw [Buffer.read_none (by omega)] at hread
      cases hread
    rw [orThrow_some, ok_bind, Buffer.read_none (by omega)]
    rfl

theorem longTermSecret_eq {privateKey publicKey : Bytes} (hprivate : 32 ≤ privateKey.length)
    (hpublic : 32 ≤ publicKey.length) :
    longTermSecret V privateKey publicKey =
      orThrow (V.longTermSecret (privateKey.take 32) (publicKey.take 32))
        (.illegalState "key agreement failure.") := by
  rw [longTermSecret, orThrow_bind (Buffer.read_eq (by omega)),
    orThrow_bind (Buffer.read_eq (by omega)), slice_zero, slice_zero]

section Unwrap

variable (hV : V.Lawful) (hB : V.block.Onto)
include hV hB

/-- **The two blocks of a wrapped key**, of any length an array is allocated
for. -/
theorem unwrap_blocks {block : V.block.Instance} (hdir : V.block.encrypting block = false)
    {encryptedKey : Bytes} (h : 16 ≤ encryptedKey.length) (first second : String) :
    UnwrapsInside (do
      let out ← blockDecrypt V block encryptedKey (zeros (encryptedKey.length - 16)) 0 16 0 first
      blockDecrypt V block encryptedKey out 16 32 16 second) ↔ encryptedKey.length = 48 := by
  rcases Nat.lt_or_ge encryptedKey.length 32 with hshort | hfirst
  · rw [blockDecrypt_past (by omega), error_bind]
    exact ⟨fun hinside => absurd hinside.inBounds not_inBounds, fun hlen => by omega⟩
  have hroom : 0 + 16 ≤ (zeros (encryptedKey.length - 16)).length := by
    rw [length_zeros]
    omega
  obtain ⟨out, hout, hlen⟩ := exists_blockDecrypt hV hB hdir
    (by omega : 0 + 16 ≤ encryptedKey.length) hfirst hroom first
  rw [length_zeros] at hlen
  rw [bind_ok hout]
  rcases Nat.lt_or_ge encryptedKey.length 48 with hshort | hsecond
  · rw [blockDecrypt_past (by omega)]
    exact ⟨fun hinside => absurd hinside.inBounds not_inBounds, fun hlen => by omega⟩
  obtain ⟨key, hkey, hsize⟩ := exists_blockDecrypt hV hB hdir hfirst hsecond
    (by omega : 16 + 16 ≤ out.length) second
  rw [hkey]
  constructor
  · intro hinside
    have := hinside.length key rfl
    omega
  · intro hwhole
    refine ⟨.ok key, fun key' hkey' => ?_⟩
    obtain rfl := Except.ok.inj hkey'
    omega

/-- **An unwrapping keeps to its arrays exactly if they fit.** -/
theorem decryptKey_inside_iff (privateKey publicKey encryptedKey : Bytes) :
    UnwrapsInside (EncryptedDocumentReader.decryptKey V privateKey publicKey encryptedKey) ↔
      WrappedFits V privateKey publicKey encryptedKey := by
  rw [EncryptedDocumentReader.decryptKey]
  by_cases hkeys : privateKey.length < 32 ∨ publicKey.length < 32
  · rw [longTermSecret_short hkeys, error_bind]
    constructor
    · exact fun hinside => absurd hinside.inBounds not_inBounds
    · rintro ⟨hprivate, hpublic, -⟩
      omega
  have hprivate : 32 ≤ privateKey.length := by omega
  have hpublic : 32 ≤ publicKey.length := by omega
  rw [longTermSecret_eq hprivate hpublic]
  cases hsecret : V.longTermSecret (privateKey.take 32) (publicKey.take 32) with
  | none =>
    -- without a secret nothing is unwrapped
    refine iff_of_true (.thrown_error _) ⟨hprivate, hpublic, ?_⟩
    rintro ⟨secret, _, h, -⟩
    cases hsecret.symm.trans h
  | some secret =>
    rw [orThrow_some, ok_bind]
    by_cases hlen : 16 ≤ encryptedKey.length
    swap
    · rw [check_neg hlen, error_bind]
      exact iff_of_true (.thrown_error _) ⟨hprivate, hpublic, fun _ => .inl (by omega)⟩
    rw [check_pos hlen, ok_bind]
    cases hblock : V.block.init secret false with
    | none =>
      refine iff_of_true (.thrown_error _) ⟨hprivate, hpublic, ?_⟩
      rintro ⟨secret', block, h, hinit⟩
      obtain rfl := Option.some.inj (hsecret.symm.trans h)
      cases hblock.symm.trans hinit
    | some block =>
      rw [orThrow_some, ok_bind]
      have hdir : V.block.encrypting block = false := (hV.block.init_key hblock).2
      refine (unwrap_blocks hV hB hdir hlen _ _).trans ?_
      constructor
      · exact fun hwhole => ⟨hprivate, hpublic, fun _ => .inr hwhole⟩
      · rintro ⟨-, -, hfits⟩
        rcases hfits ⟨secret, block, hsecret, hblock⟩ with hshort | hwhole
        · omega
        · exact hwhole

end Unwrap

/-! ## Encrypting -/

section Encrypt

variable (hV : V.Lawful)
include hV

/-- **An encryption under a key of the suite's size** keeps to its arrays
exactly if the vector is long enough. -/
theorem encryptWith_inBounds_iff {key input : Bytes} (hkey : key.length = 32)
    (hinput : input.length < 2 ^ 31) (iv : Bytes) :
    InBounds (GenericStreamCipher.encryptNative V key iv input) ↔ VectorFits iv input := by
  obtain ⟨stream, hinit⟩ := hV.stream.init_total (hkey.trans hV.streamKey.symm)
  rw [GenericStreamCipher.encryptNative, check_pos (hkey.trans hV.streamKey.symm), ok_bind,
    orThrow_bind hinit]
  unfold VectorFits IV_SIZE
  rcases Nat.lt_or_ge (8 + input.length) (2 ^ 31) with hfits | hbig
  swap
  · rw [newByteArray_error hbig (by omega), error_bind]
    exact iff_of_true (.thrown_error _) (.inr hbig)
  rw [newByteArray_eq hfits, ok_bind]
  rcases Nat.lt_or_ge iv.length 8 with hshort | hlong
  · rw [Buffer.read_none (by omega)]
    refine iff_of_false not_inBounds ?_
    rintro (hlong | hbig) <;> omega
  · refine iff_of_true ?_ (.inl hlong)
    obtain ⟨v, hread, hv⟩ := Buffer.exists_read (by omega : 0 + 8 ≤ iv.length)
    obtain ⟨stream₀, stream₁, stream₂, hinit', hstart, hheader, hencrypt⟩ :=
      startEncryption_streamEncrypt hV hkey hv input [] 0 0 "could not encrypt input data." rfl
    obtain rfl := Option.some.inj (hinit.symm.trans hinit')
    simp only [List.nil_append, Nat.add_zero] at hheader hencrypt
    rw [orThrow_bind hread, orThrow_bind hstart]
    dsimp only
    rw [orThrow_bind hheader, hv, bind_ok hencrypt]
    exact .ok _

/-- The field encryption copies 32 octets of its key. -/
theorem encryptData_eq_encryptNative {key : Bytes} (hkey : 32 ≤ key.length) (iv input : Bytes) :
    EncryptedCertificateBuilder.encryptData V key iv input =
      GenericStreamCipher.encryptNative V (key.take 32) iv input := by
  have hlen : (key.take 32).length = V.stream.keySize := by
    rw [List.length_take_of_le hkey, hV.streamKey]
  rw [EncryptedCertificateBuilder.encryptData, orThrow_bind (Buffer.read_eq (by omega)), slice_zero,
    GenericStreamCipher.encryptNative, check_pos hlen, ok_bind]

theorem encryptData_inBounds_iff {input : Bytes} (hinput : input.length < 2 ^ 31)
    (key iv : Bytes) :
    InBounds (EncryptedCertificateBuilder.encryptData V key iv input) ↔
      32 ≤ key.length ∧ VectorFits iv input := by
  by_cases hkey : 32 ≤ key.length
  · rw [encryptData_eq_encryptNative hV hkey,
      encryptWith_inBounds_iff hV (List.length_take_of_le hkey) hinput, and_iff_right hkey]
  · rw [EncryptedCertificateBuilder.encryptData, Buffer.read_none (by omega)]
    exact iff_of_false not_inBounds fun h => hkey h.1

theorem encryptNative_inBounds_iff {input : Bytes} (hinput : input.length < 2 ^ 31)
    (key iv : Bytes) :
    InBounds (GenericStreamCipher.encryptNative V key iv input) ↔
      (key.length = 32 → VectorFits iv input) := by
  by_cases hkey : key.length = 32
  · rw [encryptWith_inBounds_iff hV hkey hinput, forall_prop_of_true hkey]
  · rw [GenericStreamCipher.encryptNative, check_neg (by rw [hV.streamKey]; exact hkey)]
    exact iff_of_true (.thrown_error _) fun h => absurd h hkey

end Encrypt

/-- **When the native cipher calls stay inside their arrays.** Both
unwrappings throw or return a key of 32 octets, and never leave an array, if
and only if their keys have 32 octets and a wrapped key that is unwrapped at
all has 48, or fewer than 16. The two encryptions never leave an array if and
only if the keys they use have 32 octets and their vector has 8, or the
result fits no array. -/
theorem native_calls_inside_iff (hV : V.Lawful) (hB : V.block.Onto) :
    (∀ privateKey publicKey encryptedKey : Bytes,
      UnwrapsInside (EncryptedCertificateReader.decryptSecretNative V privateKey publicKey
        encryptedKey) ↔ WrappedFits V privateKey publicKey encryptedKey) ∧
    (∀ privateKey publicKey encryptedKey : Bytes,
      UnwrapsInside (EncryptedDocumentReader.decryptKey V privateKey publicKey encryptedKey) ↔
        WrappedFits V privateKey publicKey encryptedKey) ∧
    (∀ key iv input : Bytes, input.length < 2 ^ 31 →
      (InBounds (EncryptedCertificateBuilder.encryptData V key iv input) ↔
        32 ≤ key.length ∧ VectorFits iv input)) ∧
    ∀ key iv input : Bytes, input.length < 2 ^ 31 →
      (InBounds (GenericStreamCipher.encryptNative V key iv input) ↔
        (key.length = 32 → VectorFits iv input)) := by
  refine ⟨fun privateKey publicKey encryptedKey => ?_, decryptKey_inside_iff hV hB, ?_, ?_⟩
  · exact decryptKey_inside_iff hV hB privateKey publicKey encryptedKey
  · exact fun key iv input hinput => encryptData_inBounds_iff hV hinput key iv
  · exact fun key iv input hinput => encryptNative_inBounds_iff hV hinput key iv

/-- In the open: 48 octets are unwrapped inside, and so is an encryption with a
vector of eight. -/
theorem native_calls_inside_open :
    UnwrapsInside (EncryptedCertificateReader.decryptSecretNative XorSuite.suite (zeros 32)
      (zeros 32) (zeros 48)) ∧
    InBounds (GenericStreamCipher.encryptNative XorSuite.suite (zeros 32) (zeros 8) [1]) := by
  obtain ⟨hunwrap, -, -, hencrypt⟩ :=
    native_calls_inside_iff XorSuite.suite_lawful XorSuite.block_onto
  exact ⟨(hunwrap ..).mpr ⟨by decide, by decide, fun _ => .inr rfl⟩,
    (hencrypt _ _ _ (by decide)).mpr fun _ => .inl (by decide)⟩

/-- **Short arrays are read past their end**: a wrapped key of 32 octets, and a
vector of seven; and 49 octets give a key of 33. -/
theorem not_native_calls_inside :
    ¬UnwrapsInside (EncryptedCertificateReader.decryptSecretNative XorSuite.suite (zeros 32)
      (zeros 32) (zeros 32)) ∧
    ¬InBounds (GenericStreamCipher.encryptNative XorSuite.suite (zeros 32) (zeros 7) [1]) ∧
    ∃ key, EncryptedDocumentReader.decryptKey XorSuite.suite (zeros 32) (zeros 32) (zeros 49) =
      .ok key ∧ key.length = 33 := by
  refine ⟨fun h => h.inBounds.ne ?_, fun h => h.ne ?_, ?_⟩
  · decide +kernel
  · decide +kernel
  · exact ⟨_, rfl, by decide +kernel⟩

end VjBlockchain
