import VjBlockchain.Document.Model
import VjBlockchain.Crypt.XorSuite
/-!
# Chunked encryption is one-shot encryption

`encryptData` masks its piece at the offset it is told and puts the vector in
front at offset zero only. A run of the loop therefore writes the document
masked from position zero on, with the vector once at the very front, however
the source was split; `GenericStreamCipher.encryptNative` returns the same
octets, if there is an array of their number.
-/

namespace VjBlockchain

open Common Common.Bytes Common.Throwing

variable {V : Vccrypt} (hV : V.Lawful)

namespace EncryptedDocumentBuilder

/-- The vector takes the front of a buffer with room for it and `n` octets. -/
theorem write_iv {iv : Bytes} (hiv : iv.length = 8) (n : ℕ) :
    Buffer.write (zeros (IV_SIZE + n)) 0 iv = some (iv ++ zeros (n + 0)) := by
  have hroom : iv.length ≤ IV_SIZE + n := by
    rw [hiv, IV_SIZE]
    omega
  have hleft : IV_SIZE + n - iv.length = n + 0 := by
    rw [hiv, IV_SIZE]
    omega
  rw [Buffer.write_fresh hroom, hleft]

/-- An array has room for a chunk with its vector. -/
theorem chunk_fits {piece : Bytes} (h : piece.length ≤ BUFFER_SIZE) :
    IV_SIZE + piece.length < 2 ^ 31 := by
  rw [BUFFER_SIZE] at h
  rw [IV_SIZE]
  omega

/-! ## What it writes -/

section

variable {key iv : Bytes} (hkey : key.length = 32) (hiv : iv.length = 8)
include hV hkey hiv

/-- **One chunk.** The vector in front at offset zero, and the input masked at
its offset in the document. -/
theorem encryptData_eq {input : Bytes} (hinput : IV_SIZE + input.length < 2 ^ 31) (offset : ℕ) :
    encryptData V key iv input offset =
      .ok ((if offset = 0 then iv else []) ++ xorAt (V.stream.keystream key iv) offset input) := by
  obtain ⟨s₀, hs₀⟩ := hV.stream.init_total (hkey.trans hV.streamKey.symm)
  have hivSize : iv.length = V.stream.ivSize := hiv.trans hV.streamIv.symm
  unfold encryptData
  rw [orThrow_bind (Buffer.read_all hkey), orThrow_bind hs₀, Buffer.read_all hiv, orThrow_some]
  by_cases h₀ : offset = 0
  · -- the vector fills the front of the buffer, the piece follows it
    subst h₀
    obtain ⟨s₁, hs₁, hc₁⟩ := hV.stream.startEncryption s₀ iv hivSize
    rw [hV.stream.init_key hs₀] at hc₁
    obtain ⟨s₂, henc, -⟩ :=
      streamEncrypt_next hV s₁ input iv 0 8 0 "could not encrypt input data." (by omega)
    simp only [if_true, newByteArray_eq hinput, ok_bind, hs₁, orThrow_some, write_iv hiv]
    rw [IV_SIZE, bind_ok henc, hc₁]
    simp [StreamCipher.maskAt]
  · obtain ⟨s₁, hs₁, hc₁⟩ := hV.stream.continueEncryption s₀ iv offset hivSize
    rw [hV.stream.init_key hs₀] at hc₁
    obtain ⟨s₂, henc, -⟩ :=
      streamEncrypt_next hV s₁ input [] 0 0 0 "could not encrypt input data." rfl
    have hpiece := lt_of_le_of_lt (Nat.le_add_left input.length IV_SIZE) hinput
    simp only [if_neg h₀, Nat.zero_add, newByteArray_eq hpiece, ok_bind, hs₁, orThrow_some]
    rw [List.nil_append, Nat.add_zero] at henc
    rw [bind_ok henc, hc₁]
    simp [StreamCipher.maskAt]

/-- **The loop past the first chunk** writes the rest of the document masked
at the offset reached, and reads its source to the end. -/
theorem encryptLoop_pos (source : Source) (destination : Bytes) {offset : ℕ} (hpos : 0 < offset) :
    ∃ source', source'.remaining = [] ∧
      encryptLoop V key iv source destination offset = .ok () (source',
        destination ++ xorAt (V.stream.keystream key iv) offset source.remaining) := by
  refine Source.transcribe_eq 1 ?_
    (xorAt_nil _) (xorAt_append _) source destination hpos
  intro piece offset hpos hpiece
  have hchunk := encryptData_eq hV hkey hiv (chunk_fits hpiece) offset
  rwa [if_neg (by omega), List.nil_append] at hchunk

/-- **A run of the loop from the start** puts the vector in front of the
document masked from position zero; on an empty document it writes nothing. -/
theorem encryptLoop_zero (source : Source) (destination : Bytes) :
    ∃ source', source'.remaining = [] ∧
      encryptLoop V key iv source destination 0 = .ok () (source',
        destination ++ if source.remaining = [] then []
          else iv ++ xorAt (V.stream.keystream key iv) 0 source.remaining) := by
  cases hread : source.read BUFFER_SIZE with
  | none =>
    have hend := Source.read_eq_none_iff.mp hread
    refine ⟨source, hend, ?_⟩
    rw [encryptLoop, Source.transcribe_done hread, if_pos hend, List.append_nil]
  | some r =>
    obtain ⟨piece, s'⟩ := r
    obtain ⟨hsplit, hpiece, hsize⟩ := Source.read_eq_some (by decide) hread
    have hne : source.remaining ≠ [] := by
      intro h
      rw [Source.read_eq_none_iff.mpr h] at hread
      cases hread
    have hchunk := encryptData_eq hV hkey hiv (chunk_fits hsize) 0
    rw [if_pos rfl] at hchunk
    obtain ⟨source', hend, hloop⟩ := encryptLoop_pos hV hkey hiv s'
      (destination ++ (iv ++ xorAt (V.stream.keystream key iv) 0 piece))
      (Nat.add_pos_right 0 hpiece)
    refine ⟨source', hend, ?_⟩
    rw [encryptLoop, Source.transcribe_more hread hchunk, ← encryptLoop, hloop, if_neg hne, hsplit,
      xorAt_append]
    simp only [List.append_assoc]

/-- **One shot**: what `GenericStreamCipher.encryptNative` returns, of a size
that an array has. -/
theorem genericEncrypt_eq {input : Bytes} (hinput : IV_SIZE + input.length < 2 ^ 31) :
    GenericStreamCipher.encryptNative V key iv input =
      .ok (iv ++ xorAt (V.stream.keystream key iv) 0 input) := by
  obtain ⟨s₀, s₁, s₂, hs₀, hs₁, hheader, henc⟩ := startEncryption_streamEncrypt hV hkey hiv input []
    0 0 "could not encrypt input data." rfl
  simp only [List.nil_append] at hheader henc
  rw [GenericStreamCipher.encryptNative, check_pos (hkey.trans hV.streamKey.symm), ok_bind,
    orThrow_bind hs₀, newByteArray_eq hinput, ok_bind, orThrow_bind (Buffer.read_all hiv),
    orThrow_bind hs₁]
  dsimp only
  rw [IV_SIZE, ← Nat.add_zero input.length, orThrow_bind hheader, hiv, bind_ok henc, zeros_zero,
    List.append_nil]

omit hiv in
/-- **No array holds more**: a longer result is refused. -/
theorem genericEncrypt_large {input : Bytes} (hinput : input.length < 2 ^ 31)
    (hlarge : 2 ^ 31 ≤ IV_SIZE + input.length) :
    GenericStreamCipher.encryptNative V key iv input =
      .error (.java .nullPointerException "bad outputArray alloc.") := by
  obtain ⟨s₀, hs₀⟩ := hV.stream.init_total (hkey.trans hV.streamKey.symm)
  rw [GenericStreamCipher.encryptNative, check_pos (hkey.trans hV.streamKey.symm), ok_bind,
    orThrow_bind hs₀, newByteArray_error hlarge (by rw [IV_SIZE]; omega), error_bind]

end

/-! ## The builder -/

/-- A builder that has both streams leaves in its destination what the loop
wrote there. -/
theorem encrypt_eq {b : EncryptedDocumentBuilder V} {source source' : Source}
    {destination out iv : Bytes} (hs : b.source = some source)
    (hd : b.destination = some destination)
    (hloop : encryptLoop V b.secretKey iv source destination 0 = .ok () (source', out)) :
    encrypt iv b = .ok () ((b.withSource source').withDestination out) := by
  rw [encrypt, hs, hd]
  dsimp only
  rw [hloop]

end EncryptedDocumentBuilder

open EncryptedDocumentBuilder in
/-- **Chunked document encryption equals one-shot encryption.** Whatever the
plan by which the source splits a non-empty document, the builder writes the
vector once, followed by the document masked from position zero. That is
what `GenericStreamCipher.encryptNative` returns for the whole document; of an
array so long that no array has room for vector and document, it returns
nothing. -/
theorem encrypt_chunked (hV : V.Lawful) (keyPair : EncryptionKeyPair V) {secretKey iv : Bytes}
    (hkey : secretKey.length = 32) (hiv : iv.length = 8) (document : Bytes)
    (hne : document ≠ []) (plan : ℕ → ℕ) :
    ∃ b', encrypt iv (((createDocumentBuilder V keyPair secretKey hkey).withSource
        ⟨document, plan⟩).withDestination []) = .ok () b' ∧
      b'.destination = some (iv ++ xorAt (V.stream.keystream secretKey iv) 0 document) ∧
      (document.length < 2 ^ 31 → GenericStreamCipher.encryptNative V secretKey iv document =
        if 8 + document.length < 2 ^ 31 then
          .ok (iv ++ xorAt (V.stream.keystream secretKey iv) 0 document)
        else .error (.java .nullPointerException "bad outputArray alloc.")) := by
  obtain ⟨source', -, hloop⟩ := encryptLoop_zero hV hkey hiv ⟨document, plan⟩ []
  rw [if_neg hne, List.nil_append] at hloop
  refine ⟨_, encrypt_eq rfl rfl hloop, rfl, fun harray => ?_⟩
  split
  · rename_i hfits
    exact genericEncrypt_eq hV hkey hiv hfits
  · rename_i hlarge
    exact genericEncrypt_large hV hkey harray (not_lt.mp hlarge)

open EncryptedDocumentBuilder in
/-- Nine octets, read in pieces of two. -/
theorem encrypt_chunked_pairs :
    ∃ b', encrypt (zeros 8) (((createDocumentBuilder XorSuite.suite ⟨zeros 32, zeros 32, rfl, rfl⟩
        (zeros 32) rfl).withSource ⟨[1, 2, 3, 4, 5, 6, 7, 8, 9], fun _ => 2⟩).withDestination []) =
        .ok () b' ∧
      b'.destination = some (zeros 8 ++ [1, 2, 3, 4, 5, 6, 7, 8, 9]) ∧
      GenericStreamCipher.encryptNative XorSuite.suite (zeros 32) (zeros 8)
        [1, 2, 3, 4, 5, 6, 7, 8, 9] = .ok (zeros 8 ++ [1, 2, 3, 4, 5, 6, 7, 8, 9]) := by
  obtain ⟨b', hrun, hdest, honce⟩ := encrypt_chunked XorSuite.suite_lawful
    ⟨zeros 32, zeros 32, rfl, rfl⟩ (length_zeros 32) (length_zeros 8)
    [1, 2, 3, 4, 5, 6, 7, 8, 9] (by decide) fun _ => 2
  have hmasked : zeros 8 ++ xorAt (XorSuite.suite.stream.keystream (zeros 32) (zeros 8)) 0
      [1, 2, 3, 4, 5, 6, 7, 8, 9] = zeros 8 ++ [1, 2, 3, 4, 5, 6, 7, 8, 9] := by decide
  rw [hmasked] at hdest honce
  exact ⟨b', hrun, hdest, honce (by decide)⟩

end VjBlockchain
