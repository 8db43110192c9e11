import VjBlockchain.Crypt.Vccrypt
/-!
# Wrapped keys — two chained blocks

A symmetric key travels as three stretches of sixteen octets: a vector drawn
for it, and the two halves of the key, each encrypted by the block cipher and
chained to the stretch in front of it. Documents, certificates and the simple
stream cipher wrap their keys alike; what differs is the secret, and what
follows in the buffer.

Unwrapping chains on what it reads and not on what it has decrypted. When the
block cipher is a bijection of blocks, every forty-eight octets are the
wrapping of exactly one key.
-/

namespace VjBlockchain

open Common Common.Bytes Common.Throwing

variable (V : Vccrypt)

/-- The long-term secret of a private and a public key array. -/
def longTermSecret (privateKey publicKey : Bytes) : Except Fault Bytes := do
  let privateKey ← orThrow (Buffer.read privateKey 0 32) .outOfBounds
  let publicKey ← orThrow (Buffer.read publicKey 0 32) .outOfBounds
  orThrow (V.longTermSecret privateKey publicKey) (.illegalState "key agreement failure.")

/-- `vccrypt_block_encrypt`: a block of `key` at `i`, chained to the octets of
`out` at `c`, goes to `out` at `o`. -/
def blockEncrypt (block : V.block.Instance) (key out : Bytes) (c i o : ℕ) (failure : String) :
    Except Fault Bytes := do
  let chain ← orThrow (Buffer.read out c 16) .outOfBounds
  let clear ← orThrow (Buffer.read key i 16) .outOfBounds
  let masked ← orThrow (V.block.encrypt block chain clear) (.illegalState failure)
  orThrow (Buffer.write out o masked) .outOfBounds

/-- `vccrypt_block_encrypt`, its chaining block in a buffer of its own. -/
def blockEncryptChained (block : V.block.Instance) (chain key out : Bytes) (i o : ℕ)
    (failure : String) : Except Fault Bytes := do
  let clear ← orThrow (Buffer.read key i 16) .outOfBounds
  let masked ← orThrow (V.block.encrypt block chain clear) (.illegalState failure)
  orThrow (Buffer.write out o masked) .outOfBounds

/-- `vccrypt_block_decrypt`: chain and block both lie in `key`. -/
def blockDecrypt (block : V.block.Instance) (key out : Bytes) (c i o : ℕ) (failure : String) :
    Except Fault Bytes := do
  let chain ← orThrow (Buffer.read key c 16) .outOfBounds
  let masked ← orThrow (Buffer.read key i 16) .outOfBounds
  let clear ← orThrow (V.block.decrypt block chain masked) (.illegalState failure)
  orThrow (Buffer.write out o clear) .outOfBounds

/-- A key wrapped under a secret: the vector, and two blocks each chained to
the sixteen octets in front of it. -/
def wrapKey (V : Vccrypt) (secret iv k₁ k₂ : Bytes) : Bytes :=
  iv ++ (V.block.enc secret iv k₁ ++ V.block.enc secret (V.block.enc secret iv k₁) k₂)

variable {V} (hV : V.Lawful)
include hV

/-! ## Secrets -/

/-- Both sides of a wrapping agree on its secret. -/
theorem longTermSecret_agree (a b : EncryptionKeyPair V) :
    ∃ k, k.length = 32 ∧ longTermSecret V a.privateKey b.publicKey = .ok k ∧
      longTermSecret V b.privateKey a.publicKey = .ok k := by
  obtain ⟨k, hab, hba, hk⟩ := hV.longTerm_agree a.isKeyPair b.isKeyPair
  obtain ⟨ha, hA⟩ := hV.length_keys a.isKeyPair
  obtain ⟨hb, hB⟩ := hV.length_keys b.isKeyPair
  refine ⟨k, hk, ?_, ?_⟩
  · rw [longTermSecret, orThrow_bind (Buffer.read_all ha), orThrow_bind (Buffer.read_all hB), hab,
      orThrow_some]
  · rw [longTermSecret, orThrow_bind (Buffer.read_all hb), orThrow_bind (Buffer.read_all hA), hba,
      orThrow_some]

/-! ## One block -/

theorem length_enc_block (k c : Bytes) {b : Bytes} (hb : b.length = 16) :
    (V.block.enc k c b).length = 16 := by
  have hsize : b.length = V.block.blockSize := hb.trans hV.blockSize.symm
  exact (hV.block.length_enc k hsize).trans hV.blockSize

/-- One call of the block cipher, given what it reads and where it writes. -/
theorem blockEncrypt_eq {block : V.block.Instance} {key out out' chain clear : Bytes} {c i o : ℕ}
    (hdir : V.block.encrypting block = true) (hchain : Buffer.read out c 16 = some chain)
    (hclear : Buffer.read key i 16 = some clear) (hc : chain.length = 16)
    (hb : clear.length = 16)
    (hwrite : Buffer.write out o (V.block.enc (V.block.key block) chain clear) = some out')
    (failure : String) : blockEncrypt V block key out c i o failure = .ok out' := by
  have hblock := hV.block.encrypt block hdir (hc.trans hV.blockSize.symm)
    (hb.trans hV.blockSize.symm)
  rw [blockEncrypt, orThrow_bind hchain, orThrow_bind hclear, orThrow_bind hblock, hwrite,
    orThrow_some]

theorem blockDecrypt_eq {block : V.block.Instance} {key out out' chain masked : Bytes} {c i o : ℕ}
    (hdir : V.block.encrypting block = false) (hchain : Buffer.read key c 16 = some chain)
    (hmasked : Buffer.read key i 16 = some masked) (hc : chain.length = 16)
    (hb : masked.length = 16)
    (hwrite : Buffer.write out o (V.block.dec (V.block.key block) chain masked) = some out')
    (failure : String) : blockDecrypt V block key out c i o failure = .ok out' := by
  have hblock := hV.block.decrypt block hdir (hc.trans hV.blockSize.symm)
    (hb.trans hV.blockSize.symm)
  rw [blockDecrypt, orThrow_bind hchain, orThrow_bind hmasked, orThrow_bind hblock, hwrite,
    orThrow_some]

omit hV in
theorem length_blockEncrypt {block : V.block.Instance} {key out out' : Bytes} {c i o : ℕ}
    {failure : String} (h : blockEncrypt V block key out c i o failure = .ok out') :
    out'.length = out.length := by
  obtain ⟨_, -, h⟩ := bind_eq_ok_iff.mp h
  obtain ⟨_, -, h⟩ := bind_eq_ok_iff.mp h
  obtain ⟨_, -, h⟩ := bind_eq_ok_iff.mp h
  exact Buffer.length_write (orThrow_eq_ok_iff.mp h)

omit hV in
/-- Where the chaining block comes from makes no difference. -/
theorem blockEncrypt_read {block : V.block.Instance} {out chain : Bytes} {c : ℕ}
    (hchain : Buffer.read out c 16 = some chain) (key : Bytes) (i o : ℕ) (failure : String) :
    blockEncrypt V block key out c i o failure =
      blockEncryptChained V block chain key out i o failure := by
  rw [blockEncrypt, orThrow_bind hchain, blockEncryptChained]

/-! ## Both blocks -/

section Wrap

variable {block : V.block.Instance} {iv k₁ k₂ : Bytes} (hiv : iv.length = 16)
  (h₁ : k₁.length = 16) (h₂ : k₂.length = 16)
include hiv h₁ h₂

theorem length_wrapKey (secret : Bytes) : (wrapKey V secret iv k₁ k₂).length = 48 := by
  have he₁ := length_enc_block hV secret iv h₁
  have he₂ := length_enc_block hV secret (V.block.enc secret iv k₁) h₂
  rw [wrapKey, List.length_append, List.length_append, hiv, he₁, he₂]

/-- **Wrapping**: two calls behind the vector, the second one chained to what
the first one wrote. -/
theorem blockEncrypt_pair (hdir : V.block.encrypting block = true) (n : ℕ) (f₁ f₂ : String) :
    ∃ out, blockEncrypt V block (k₁ ++ k₂) (iv ++ zeros (32 + n)) 0 0 16 f₁ = .ok out ∧
      blockEncrypt V block (k₁ ++ k₂) out 16 16 32 f₂ =
        .ok (wrapKey V (V.block.key block) iv k₁ k₂ ++ zeros n) := by
  have he₁ := length_enc_block hV (V.block.key block) iv h₁
  have he₂ := length_enc_block hV (V.block.key block)
    (V.block.enc (V.block.key block) iv k₁) h₂
  have hfront : (iv ++ V.block.enc (V.block.key block) iv k₁).length = 32 := by
    rw [List.length_append, hiv, he₁]
  refine ⟨iv ++ V.block.enc (V.block.key block) iv k₁ ++ zeros (16 + n), ?_, ?_⟩
  · refine blockEncrypt_eq hV hdir (Buffer.read_left hiv) (Buffer.read_left h₁) hiv h₁ ?_ _
    rw [Buffer.write_zeros hiv (by omega), he₁]
    congr 3
    omega
  · have hchain : Buffer.read (iv ++ V.block.enc (V.block.key block) iv k₁ ++ zeros (16 + n))
        16 16 = some (V.block.enc (V.block.key block) iv k₁) := by
      rw [List.append_assoc, Buffer.read_mid hiv he₁]
    refine blockEncrypt_eq hV hdir hchain (Buffer.read_right h₁ h₂) he₁ h₂ ?_ _
    rw [Buffer.write_zeros hfront (by omega), he₂, wrapKey, Nat.add_sub_cancel_left]
    simp only [List.append_assoc]

/-- **Unwrapping**, whatever follows the wrapped key. -/
theorem blockDecrypt_pair (hdir : V.block.encrypting block = false) (rest : Bytes)
    (f₁ f₂ : String) :
    ∃ out, blockDecrypt V block (wrapKey V (V.block.key block) iv k₁ k₂ ++ rest) (zeros 32)
        0 16 0 f₁ = .ok out ∧
      blockDecrypt V block (wrapKey V (V.block.key block) iv k₁ k₂ ++ rest) out 16 32 16 f₂ =
        .ok (k₁ ++ k₂) := by
  have he₁ := length_enc_block hV (V.block.key block) iv h₁
  have he₂ := length_enc_block hV (V.block.key block)
    (V.block.enc (V.block.key block) iv k₁) h₂
  have hlen := length_wrapKey hV hiv h₁ h₂ (V.block.key block)
  set secret := V.block.key block with hsecret
  set c₁ := V.block.enc secret iv k₁ with hc₁
  set c₂ := V.block.enc secret c₁ k₂ with hc₂
  have hsplit : wrapKey V secret iv k₁ k₂ ++ rest = iv ++ (c₁ ++ (c₂ ++ rest)) := by
    rw [wrapKey, ← hc₁, ← hc₂, List.append_assoc, List.append_assoc]
  have hread₀ : Buffer.read (wrapKey V secret iv k₁ k₂ ++ rest) 0 16 = some iv := by
    rw [hsplit]
    exact Buffer.read_left hiv
  have hread₁ : Buffer.read (wrapKey V secret iv k₁ k₂ ++ rest) 16 16 = some c₁ := by
    rw [hsplit]
    exact Buffer.read_mid hiv he₁
  have hread₂ : Buffer.read (wrapKey V secret iv k₁ k₂ ++ rest) 32 16 = some c₂ := by
    rw [hsplit, ← List.append_assoc]
    exact Buffer.read_mid (by rw [List.length_append, hiv, he₁]) he₂
  -- each block is undone under the block that chained into it
  have hdec₁ : V.block.dec secret iv c₁ = k₁ :=
    hV.block.dec_enc secret (h₁.trans hV.blockSize.symm)
  have hdec₂ : V.block.dec secret c₁ c₂ = k₂ :=
    hV.block.dec_enc secret (h₂.trans hV.blockSize.symm)
  refine ⟨k₁ ++ zeros 16, ?_, ?_⟩
  · refine blockDecrypt_eq hV hdir hread₀ hread₁ hiv he₁ ?_ _
    rw [← hsecret, hdec₁, Buffer.write_fresh (by omega), h₁]
  · refine blockDecrypt_eq hV hdir hread₁ hread₂ he₁ he₂ ?_ _
    rw [← hsecret, hdec₂, Buffer.write_zeros h₁ (by omega), h₂]
    simp

end Wrap

/-- **Every forty-eight octets wrap a key**, when every block is an
encryption. -/
theorem exists_wrapKey (hB : V.block.Onto) (secret : Bytes) {w : Bytes} (hw : w.length = 48) :
    ∃ iv k₁ k₂, iv.length = 16 ∧ k₁.length = 16 ∧ k₂.length = 16 ∧
      w = wrapKey V secret iv k₁ k₂ := by
  obtain ⟨iv, blocks, hiv, hblocks, rfl⟩ := exists_cut w 16 (by omega)
  obtain ⟨c₁, c₂, hc₁, hc₂, rfl⟩ := exists_cut blocks 16 (by omega)
  have hsize₁ : c₁.length = V.block.blockSize := hc₁.trans hV.blockSize.symm
  have hsize₂ : c₂.length = V.block.blockSize := by
    rw [hV.blockSize]
    omega
  refine ⟨iv, V.block.dec secret iv c₁, V.block.dec secret c₁ c₂, hiv,
    (hB.length_dec secret hsize₁).trans hV.blockSize,
    (hB.length_dec secret hsize₂).trans hV.blockSize, ?_⟩
  rw [wrapKey, hB.enc_dec secret hsize₁, hB.enc_dec secret hsize₂]

end VjBlockchain
