import VjBlockchain.Document.Chunks
/-!
# Documents round trip

The subscriber recovers the secret key from its wrapping, since both sides
agree on the long-term secret and each block is unchained with the block that
chained it. The reader's loop then masks what the builder's loop masked, at
the same positions, whatever the two splits: the reader's offset counts the
document and not the vector, and at offset zero the vector it had taken off
is put back in front.
-/

namespace VjBlockchain

open Common Common.Bytes Common.Throwing

variable {V : Vccrypt} (hV : V.Lawful)

/-! ## The wrapped key -/

section Wrap

variable {secret iv k₁ k₂ : Bytes} (hsecret : secret.length = 32) (hiv : iv.length = 16)
  (h₁ : k₁.length = 16) (h₂ : k₂.length = 16)
include hV hsecret hiv h₁ h₂

/-- **The builder wraps a key of two blocks.** -/
theorem encryptKey_eq {localPrivate peerPublic : Bytes}
    (hagree : longTermSecret V localPrivate peerPublic = .ok secret) :
    EncryptedDocumentBuilder.encryptKey V localPrivate peerPublic (k₁ ++ k₂) iv =
      .ok (wrapKey V secret iv k₁ k₂) := by
  obtain ⟨block, hblock⟩ := hV.block.init_total true (hsecret.trans hV.blockKey.symm)
  obtain ⟨rfl, hdir⟩ := hV.block.init_key hblock
  have hout : Buffer.write (zeros (16 + (k₁ ++ k₂).length)) 0 iv = some (iv ++ zeros 32) := by
    rw [Buffer.write_fresh (by omega), List.length_append, h₁, h₂, hiv]
  obtain ⟨out, hstep₁, hstep₂⟩ := blockEncrypt_pair hV hiv h₁ h₂ hdir 0
    "block cipher block 1 encrypt failure." "block cipher block 2 encrypt failure."
  rw [EncryptedDocumentBuilder.encryptKey, hagree, ok_bind,
    newByteArray_eq (by rw [List.length_append]; omega), ok_bind, orThrow_bind hblock,
    orThrow_bind hout, bind_ok hstep₁, hstep₂, zeros_zero, List.append_nil]

/-- **The subscriber unwraps it.** -/
theorem decryptKey_wrapKey {localPrivate peerPublic : Bytes}
    (hagree : longTermSecret V localPrivate peerPublic = .ok secret) :
    EncryptedDocumentReader.decryptKey V localPrivate peerPublic (wrapKey V secret iv k₁ k₂) =
      .ok (k₁ ++ k₂) := by
  obtain ⟨block, hblock⟩ := hV.block.init_total false (hsecret.trans hV.blockKey.symm)
  obtain ⟨rfl, hdir⟩ := hV.block.init_key hblock
  have hlen := length_wrapKey hV hiv h₁ h₂ (V.block.key block)
  obtain ⟨out, hstep₁, hstep₂⟩ := blockDecrypt_pair hV hiv h₁ h₂ hdir []
    "block cipher block 1 decrypt failure." "block cipher block 2 decrypt failure."
  rw [List.append_nil] at hstep₁ hstep₂
  rw [EncryptedDocumentReader.decryptKey, hagree, ok_bind, hlen, check_pos (by omega), ok_bind]
  dsimp only
  rw [orThrow_bind hblock, bind_ok hstep₁, hstep₂]

end Wrap

/-- **A wrapped key is recovered** by the other side of the agreement. -/
theorem decryptKey_encryptKey (hV : V.Lawful) (creator subscriber : EncryptionKeyPair V)
    {secretKey wrapIv : Bytes} (hkey : secretKey.length = 32) (hwrap : wrapIv.length = 16) :
    ∃ wrapped, EncryptedDocumentBuilder.encryptKey V creator.privateKey subscriber.publicKey
        secretKey wrapIv = .ok wrapped ∧
      EncryptedDocumentReader.decryptKey V subscriber.privateKey creator.publicKey wrapped =
        .ok secretKey := by
  obtain ⟨secret, hsecret, hcreator, hsubscriber⟩ := longTermSecret_agree hV creator subscriber
  obtain ⟨k₁, k₂, h₁, h₂, rfl⟩ := exists_cut secretKey 16 (by omega)
  have h₂ : k₂.length = 16 := by omega
  exact ⟨_, encryptKey_eq hV hsecret hwrap h₁ h₂ hcreator,
    decryptKey_wrapKey hV hsecret hwrap h₁ h₂ hsubscriber⟩

/-! ## The reader's loop -/

namespace EncryptedDocumentReader

/-- At offset zero the vector goes back in front of the piece. -/
theorem chunkOf_eq (iv piece : Bytes) (offset : ℕ) :
    chunkOf iv piece offset = .ok ((if offset = 0 then iv else []) ++ piece) := by
  rw [chunkOf]
  split
  · exact arraycopy_last rfl rfl
  · rfl

section

variable {key iv : Bytes} (hkey : key.length = 32) (hiv : iv.length = 8)
include hV hkey hiv

/-- **One chunk**, whatever the offset: the piece masked at its offset in the
document. -/
theorem decryptData_eq (piece : Bytes) (offset : ℕ) :
    decryptData V key iv ((if offset = 0 then iv else []) ++ piece) offset =
      .ok (xorAt (V.stream.keystream key iv) offset piece) := by
  obtain ⟨s₀, hs₀⟩ := hV.stream.init_total (hkey.trans hV.streamKey.symm)
  have hivSize : iv.length = V.stream.ivSize := hiv.trans hV.streamIv.symm
  unfold decryptData
  rw [orThrow_bind (Buffer.read_all hkey), orThrow_bind hs₀]
  -- only the first chunk has the vector in front of it
  by_cases h₀ : offset = 0
  · subst h₀
    obtain ⟨s₁, hs₁, hc₁⟩ := hV.stream.startDecryption s₀ iv piece hivSize
    rw [hV.stream.init_key hs₀] at hc₁
    obtain ⟨s₂, hdec⟩ := streamDecrypt_fresh hV s₁ piece "could not decrypt input data."
    have hroom : IV_SIZE ≤ (iv ++ piece).length := by
      rw [List.length_append, hiv, IV_SIZE]
      omega
    have hdrop : (iv ++ piece).drop IV_SIZE = piece := List.drop_left' hiv
    have hout : (iv ++ piece).length - IV_SIZE = piece.length := by
      rw [List.length_append, hiv, IV_SIZE]
      omega
    simp only [if_true, check_pos hroom, ok_bind, hs₁, orThrow_some, hdrop, hout]
    rw [bind_ok hdec, hc₁]
    rfl
  · obtain ⟨s₁, hs₁, hc₁⟩ := hV.stream.continueDecryption s₀ iv offset hivSize
    rw [hV.stream.init_key hs₀] at hc₁
    obtain ⟨s₂, hdec⟩ := streamDecrypt_fresh hV s₁ piece "could not decrypt input data."
    simp only [if_neg h₀, List.nil_append, check_pos (Nat.zero_le _), ok_bind, hs₁,
      Buffer.read_all hiv, orThrow_some, List.drop_zero, Nat.sub_zero]
    rw [bind_ok hdec, hc₁]
    rfl

/-- **A run of the loop** unmasks what the source holds at the offset reached,
however the source is split. -/
theorem decryptLoop_eq (source : Source) (destination : Bytes) (offset : ℕ) :
    ∃ source', source'.remaining = [] ∧
      decryptLoop V key iv source destination offset = .ok () (source',
        destination ++ xorAt (V.stream.keystream key iv) offset source.remaining) := by
  refine Source.transcribe_eq 0 ?_
    (xorAt_nil _) (xorAt_append _) source destination (Nat.zero_le offset)
  intro piece offset _ _
  rw [decryptPiece, bind_ok (chunkOf_eq iv piece offset)]
  exact decryptData_eq hV hkey hiv piece offset

end

/-- The vector comes off the front, when the first read returns all of it. -/
theorem readIv_eq {source s' : Source} {iv body piece : Bytes} (hiv : iv.length = 8)
    (hsource : source.remaining = iv ++ body) (hread : source.read IV_SIZE = some (piece, s'))
    (hwhole : piece.length = 8) : readIv source = (iv, s') ∧ s'.remaining = body := by
  obtain ⟨hsplit, -, -⟩ := Source.read_eq_some (by decide) hread
  obtain ⟨rfl, rfl⟩ := List.append_inj (hsource.symm.trans hsplit) (hiv.trans hwhole.symm)
  refine ⟨?_, rfl⟩
  rw [readIv, hread]
  simp [IV_SIZE, hiv]

/-- A reader that has both streams leaves in its destination what the loop
wrote there. -/
theorem decrypt_eq {r : EncryptedDocumentReader} {source source₁ source₂ : Source}
    {destination iv out : Bytes} (hs : r.source = some source)
    (hd : r.destination = some destination) (hiv : readIv source = (iv, source₁))
    (hloop : decryptLoop V r.secretKey iv source₁ destination 0 = .ok () (source₂, out)) :
    decrypt V r = .ok () ((r.withSource source₂).withDestination out) := by
  rw [decrypt, hs, hd]
  dsimp only
  rw [hiv]
  dsimp only
  rw [hloop]

end EncryptedDocumentReader

/-! ## The round trip -/

open EncryptedDocumentBuilder in
open EncryptedDocumentReader in
/-- **Documents round trip.** The creator wraps the secret key for the
subscriber and encrypts a document, empty or not, split by any plan. A
reader made from the subscriber's private key, the creator's public key and
the wrapped key, over the encrypted document split by any plan whose first
read returns the whole vector, writes exactly the document. -/
theorem document_round_trip (hV : V.Lawful) (creator subscriber : EncryptionKeyPair V)
    {secretKey wrapIv iv : Bytes} (hkey : secretKey.length = 32) (hwrap : wrapIv.length = 16)
    (hiv : iv.length = 8) (document : Bytes) (plan : ℕ → ℕ) :
    ∃ sharedSecret b' ciphertext,
      createEncryptedSharedSecret (createDocumentBuilder V creator secretKey hkey)
        subscriber.publicKey wrapIv = .ok sharedSecret ∧
      encrypt iv (((createDocumentBuilder V creator secretKey hkey).withSource
        ⟨document, plan⟩).withDestination []) = .ok () b' ∧
      b'.destination = some ciphertext ∧
      ∀ plan' : ℕ → ℕ,
        (∀ piece s', (⟨ciphertext, plan'⟩ : Source).read IV_SIZE = some (piece, s') →
          piece.length = 8) →
        ∃ r r', EncryptedDocumentReader.new V subscriber.privateKey creator.publicKey
            sharedSecret = .ok r ∧
          decrypt V ((r.withSource ⟨ciphertext, plan'⟩).withDestination []) = .ok () r' ∧
          r'.destination = some document := by
  obtain ⟨wrapped, hshared, hunwrap⟩ := decryptKey_encryptKey hV creator subscriber hkey hwrap
  obtain ⟨source', -, hloop⟩ := encryptLoop_zero hV hkey hiv ⟨document, plan⟩ []
  rw [List.nil_append] at hloop
  refine ⟨_, _, _, hshared, encrypt_eq rfl rfl hloop, rfl, ?_⟩
  intro plan' hwhole
  refine ⟨⟨secretKey, none, none⟩, ?_⟩
  have hnew : EncryptedDocumentReader.new V subscriber.privateKey creator.publicKey wrapped =
      .ok ⟨secretKey, none, none⟩ := by
    rw [EncryptedDocumentReader.new, hunwrap, ok_bind]
  by_cases hempty : document = []
  · -- nothing was written: the vector's read meets the end of the stream
    subst hempty
    obtain ⟨source₂, -, hdec⟩ := decryptLoop_eq hV hkey (length_zeros IV_SIZE) ⟨[], plan'⟩ [] 0
    refine ⟨_, hnew, decrypt_eq rfl rfl (?_ : readIv ⟨[], plan'⟩ = (zeros IV_SIZE, ⟨[], plan'⟩))
      hdec, rfl⟩
    rw [readIv, Source.read_eq_none_iff.mpr rfl]
  · simp only [if_neg hempty] at hwhole ⊢
    cases hread : (⟨iv ++ xorAt (V.stream.keystream secretKey iv) 0 document, plan'⟩ :
        Source).read IV_SIZE with
    | none =>
      have hnil := List.append_eq_nil_iff.mp (Source.read_eq_none_iff.mp hread)
      rw [hnil.1] at hiv
      cases hiv
    | some r =>
      obtain ⟨piece, s'⟩ := r
      obtain ⟨htaken, hbody⟩ := readIv_eq hiv rfl hread (hwhole piece s' hread)
      obtain ⟨source₂, -, hdec⟩ := decryptLoop_eq hV hkey hiv s' [] 0
      rw [hbody, xorAt_xorAt] at hdec
      exact ⟨_, hnew, decrypt_eq rfl rfl htaken hdec, rfl⟩

open EncryptedDocumentBuilder in
open EncryptedDocumentReader in
/-- Three octets, written in one piece each and read back in eights. -/
theorem document_round_trip_three :
    ∃ sharedSecret b' ciphertext r r',
      createEncryptedSharedSecret (createDocumentBuilder XorSuite.suite
        ⟨zeros 32, zeros 32, rfl, rfl⟩ (zeros 32) rfl) (List.replicate 32 1) (zeros 16) =
          .ok sharedSecret ∧
      encrypt (zeros 8) (((createDocumentBuilder XorSuite.suite ⟨zeros 32, zeros 32, rfl, rfl⟩
        (zeros 32) rfl).withSource ⟨[1, 2, 3], fun _ => 1⟩).withDestination []) = .ok () b' ∧
      b'.destination = some ciphertext ∧
      EncryptedDocumentReader.new XorSuite.suite (List.replicate 32 1) (zeros 32) sharedSecret =
        .ok r ∧
      decrypt XorSuite.suite ((r.withSource ⟨ciphertext, fun _ => 8⟩).withDestination []) =
        .ok () r' ∧
      r'.destination = some [1, 2, 3] := by
  obtain ⟨sharedSecret, b', ciphertext, hshared, hrun, hdest, hread⟩ :=
    document_round_trip XorSuite.suite_lawful ⟨zeros 32, zeros 32, rfl, rfl⟩
      ⟨List.replicate 32 1, List.replicate 32 1, rfl, rfl⟩ (length_zeros 32) (length_zeros 16)
      (length_zeros 8) [1, 2, 3] fun _ => 1
  have hciphertext : ciphertext = zeros 8 ++ [1, 2, 3] := by
    obtain ⟨source', -, hloop⟩ := encryptLoop_zero XorSuite.suite_lawful (length_zeros 32)
      (length_zeros 8) ⟨[1, 2, 3], fun _ => 1⟩ []
    obtain ⟨⟩ := hrun.symm.trans (encrypt_eq rfl rfl hloop)
    exact (Option.some.inj hdest).symm
  subst hciphertext
  obtain ⟨r, r', hnew, hdec, hdest'⟩ := hread (fun _ => 8) (by rintro _ _ ⟨⟩; rfl)
  exact ⟨sharedSecret, b', _, r, r', hshared, hrun, hdest, hnew, hdec, hdest'⟩

end VjBlockchain
