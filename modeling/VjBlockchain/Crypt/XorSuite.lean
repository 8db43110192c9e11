import VjBlockchain.Crypt.Vccrypt
/-!
# A suite in the open

A lawful suite of no cryptographic strength, small enough to compute with:
the keystream repeats key and vector, the code adds up numbers, a block is
masked with its key and chaining block, and a public key is its private key.
It shows that the laws asked of a suite can be met together.
-/

namespace VjBlockchain

open Common Common.Bytes

namespace XorSuite

def keystream (key iv : Bytes) (j : ℕ) : UInt8 := key.getD (j % 32) 0 ^^^ iv.getD (j % 8) 0

def stream : StreamCipher where
  Instance := Cursor
  init k := if k.length = 32 then some ⟨k, [], 0⟩ else none
  startEncryption i iv := if iv.length = 8 then some (iv, ⟨i.key, iv, 0⟩) else none
  continueEncryption i iv p := if iv.length = 8 then some ⟨i.key, iv, p⟩ else none
  encrypt i d := some (xorAt (keystream i.key i.iv) i.pos d, i.advance d.length)
  startDecryption i input := if 8 ≤ input.length then some ⟨i.key, input.take 8, 0⟩ else none
  continueDecryption i iv p := if iv.length = 8 then some ⟨i.key, iv, p⟩ else none
  decrypt i d := some (xorAt (keystream i.key i.iv) i.pos d, i.advance d.length)
  keySize := 32
  ivSize := 8
  cursor i := i
  keystream := keystream

theorem stream_lawful : stream.Lawful where
  init_key := by
    intro k i h
    by_cases hk : k.length = 32
    · obtain rfl : (⟨k, [], 0⟩ : Cursor) = i := Option.some.inj ((if_pos hk).symm.trans h)
      rfl
    · cases (if_neg hk).symm.trans h
  init_total := fun h => ⟨_, if_pos h⟩
  startEncryption := fun _ _ h => ⟨_, if_pos h, rfl⟩
  continueEncryption := fun _ _ _ h => ⟨_, if_pos h, rfl⟩
  encrypt := fun _ _ => ⟨_, rfl, rfl⟩
  startDecryption := by
    intro i iv rest h
    have h₈ : iv.length = 8 := h
    refine ⟨_, if_pos (by rw [List.length_append]; omega), ?_⟩
    rw [List.take_left' h₈]
    rfl
  continueDecryption := fun _ _ _ h => ⟨_, if_pos h, rfl⟩
  decrypt := fun _ _ => ⟨_, rfl, rfl⟩

/-- An instance is its key and what it has absorbed. -/
def macShort : MacScheme where
  Instance := Bytes × Bytes
  init k := if k.length = 32 then some (k, []) else none
  digest i d := some (i.1, i.2 ++ d)
  finalize i := some (toBE 32 (ofBE i.1 + 31 * ofBE i.2 + i.2.length))
  keySize := 32
  macSize := 32
  key := Prod.fst
  absorbed := Prod.snd
  mac k d := toBE 32 (ofBE k + 31 * ofBE d + d.length)

theorem macShort_lawful : macShort.Lawful where
  init := by
    intro k i h
    by_cases hk : k.length = 32
    · obtain rfl : ((k, []) : Bytes × Bytes) = i := Option.some.inj ((if_pos hk).symm.trans h)
      exact ⟨rfl, rfl⟩
    · cases (if_neg hk).symm.trans h
  init_total := fun h => ⟨_, if_pos h⟩
  digest := fun _ _ => ⟨_, rfl, rfl, rfl⟩
  finalize := fun _ => rfl
  length_mac := fun _ _ => length_toBE ..

/-- The same sum, written out at full length. -/
def mac : MacScheme :=
  { macShort with
    finalize := fun i => some (toBE 64 (ofBE i.1 + 31 * ofBE i.2 + i.2.length))
    macSize := 64
    mac := fun k d => toBE 64 (ofBE k + 31 * ofBE d + d.length) }

theorem mac_lawful : mac.Lawful where
  init := macShort_lawful.init
  init_total := macShort_lawful.init_total
  digest := macShort_lawful.digest
  finalize := fun _ => rfl
  length_mac := fun _ _ => length_toBE ..

def blockMask (key chain : Bytes) (j : ℕ) : UInt8 := key.getD j 0 ^^^ chain.getD j 0

/-- An instance is its key and its direction. -/
def block : BlockCipher where
  Instance := Bytes × Bool
  init k e := if k.length = 32 then some (k, e) else none
  encrypt i c b := if i.2 then some (xorAt (blockMask i.1 c) 0 b) else none
  decrypt i c b := if i.2 then none else some (xorAt (blockMask i.1 c) 0 b)
  keySize := 32
  blockSize := 16
  key := Prod.fst
  encrypting := Prod.snd
  enc k c b := xorAt (blockMask k c) 0 b
  dec k c b := xorAt (blockMask k c) 0 b

theorem block_lawful : block.Lawful where
  init_key := by
    intro k e i h
    by_cases hk : k.length = 32
    · obtain rfl : ((k, e) : Bytes × Bool) = i := Option.some.inj ((if_pos hk).symm.trans h)
      exact ⟨rfl, rfl⟩
    · cases (if_neg hk).symm.trans h
  init_total := fun _ h => ⟨_, if_pos h⟩
  encrypt := fun _ _ _ h _ _ => if_pos h
  decrypt := fun i _ _ h _ _ => if_neg (by rw [show i.2 = false from h]; decide)
  length_enc := fun _ _ _ h => (length_xorAt ..).trans h
  dec_enc := fun _ _ _ _ => xorAt_xorAt ..

theorem block_onto : block.Onto where
  length_dec := fun _ _ _ h => (length_xorAt ..).trans h
  enc_dec := fun _ _ _ _ => xorAt_xorAt ..

/-- The suite. -/
def suite : Vccrypt where
  stream := stream
  macShort := macShort
  block := block
  longTermSecret a B :=
    if a.length = 32 ∧ B.length = 32 then some (toBE 32 (ofBE a + ofBE B)) else none
  shortTermSecret a B sn cn :=
    if a.length = 32 ∧ B.length = 32 ∧ sn.length = 32 ∧ cn.length = 32 then
      some (toBE 32 (ofBE a + ofBE B + 3 * ofBE sn + 5 * ofBE cn))
    else none
  IsKeyPair a A := a.length = 32 ∧ A = a

/-- **The laws of a suite can be met.** -/
theorem suite_lawful : suite.Lawful where
  stream := stream_lawful
  macShort := macShort_lawful
  block := block_lawful
  streamKey := rfl
  streamIv := rfl
  macKey := rfl
  macSize := rfl
  blockKey := rfl
  blockSize := rfl
  length_keys := by
    rintro _ A ⟨ha, rfl⟩
    exact ⟨ha, ha⟩
  longTerm_agree := by
    rintro _ A _ B ⟨ha, rfl⟩ ⟨hb, rfl⟩
    refine ⟨_, if_pos ⟨ha, hb⟩, ?_, length_toBE ..⟩
    rw [Nat.add_comm (ofBE A)]
    exact if_pos ⟨hb, ha⟩
  shortTerm_agree := by
    rintro _ A _ B sn cn ⟨ha, rfl⟩ ⟨hb, rfl⟩ hsn hcn
    refine ⟨_, if_pos ⟨ha, hb, hsn, hcn⟩, ?_, length_toBE ..⟩
    rw [Nat.add_comm (ofBE A)]
    exact if_pos ⟨hb, ha, hsn, hcn⟩

/-- The key pair of one octet, repeated. -/
def keyPair (n : UInt8) : EncryptionKeyPair suite :=
  ⟨List.replicate 32 n, List.replicate 32 n, rfl, rfl⟩

/-- The suite with its full-length code. -/
def cryptoSuite : CryptoSuite := { suite with mac := mac }

theorem cryptoSuite_lawful : cryptoSuite.Lawful where
  vccrypt := suite_lawful
  onto := block_onto
  mac := mac_lawful
  macKey := rfl
  macSize := rfl

end XorSuite

end VjBlockchain
