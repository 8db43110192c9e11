import VjBlockchain.Common.Keystream
/-!
# Cryptographic instances — streams, codes, blocks

What a caller sees of a cryptographic library: instances made from a key,
calls that may refuse, and positions or absorbed data that an instance
carries from one call to the next. The functions a caller can run come
first in each structure; the last fields say, for reasoning only, what an
instance holds and which mathematical function its calls compute. A
`Lawful` structure ties the two together.

Making an instance may refuse a key. Only keys of the scheme's own size are
promised to be taken, and every other call is promised to go through.
-/

namespace Common

/-! ## Stream ciphers -/

/-- Where a stream stands: its key, its initialisation vector, and the
position of the next octet. -/
structure Cursor where
  key : Bytes
  iv : Bytes
  pos : ℕ

/-- The cursor after `n` more octets. -/
def Cursor.advance (c : Cursor) (n : ℕ) : Cursor := { c with pos := c.pos + n }

/-- A stream cipher. `startEncryption` returns the octets it puts in front of
the stream; `startDecryption` reads them back off the front of its input. -/
structure StreamCipher where
  Instance : Type
  init : Bytes → Option Instance
  startEncryption : Instance → Bytes → Option (Bytes × Instance)
  continueEncryption : Instance → Bytes → ℕ → Option Instance
  encrypt : Instance → Bytes → Option (Bytes × Instance)
  startDecryption : Instance → Bytes → Option Instance
  continueDecryption : Instance → Bytes → ℕ → Option Instance
  decrypt : Instance → Bytes → Option (Bytes × Instance)
  keySize : ℕ
  ivSize : ℕ
  cursor : Instance → Cursor
  keystream : Bytes → Bytes → ℕ → UInt8

namespace StreamCipher

variable (S : StreamCipher)

/-- The mask a cursor is about to apply. -/
def maskAt (c : Cursor) (d : Bytes) : Bytes := xorAt (S.keystream c.key c.iv) c.pos d

/-- **A lawful stream cipher** masks by position: starting puts the vector in
front and stands at position zero, continuing at `p` stands at position `p`,
and each octet is masked by the keystream at its own position. -/
structure Lawful : Prop where
  init_key : ∀ {k i}, S.init k = some i → (S.cursor i).key = k
  init_total : ∀ {k}, k.length = S.keySize → ∃ i, S.init k = some i
  startEncryption : ∀ (i : S.Instance) (iv : Bytes), iv.length = S.ivSize →
    ∃ i', S.startEncryption i iv = some (iv, i') ∧ S.cursor i' = ⟨(S.cursor i).key, iv, 0⟩
  continueEncryption : ∀ (i : S.Instance) (iv : Bytes) (p : ℕ), iv.length = S.ivSize →
    ∃ i', S.continueEncryption i iv p = some i' ∧ S.cursor i' = ⟨(S.cursor i).key, iv, p⟩
  encrypt : ∀ (i : S.Instance) (d : Bytes),
    ∃ i', S.encrypt i d = some (S.maskAt (S.cursor i) d, i') ∧
      S.cursor i' = (S.cursor i).advance d.length
  startDecryption : ∀ (i : S.Instance) (iv rest : Bytes), iv.length = S.ivSize →
    ∃ i', S.startDecryption i (iv ++ rest) = some i' ∧ S.cursor i' = ⟨(S.cursor i).key, iv, 0⟩
  continueDecryption : ∀ (i : S.Instance) (iv : Bytes) (p : ℕ), iv.length = S.ivSize →
    ∃ i', S.continueDecryption i iv p = some i' ∧ S.cursor i' = ⟨(S.cursor i).key, iv, p⟩
  decrypt : ∀ (i : S.Instance) (d : Bytes),
    ∃ i', S.decrypt i d = some (S.maskAt (S.cursor i) d, i') ∧
      S.cursor i' = (S.cursor i).advance d.length

end StreamCipher

/-! ## Message authentication codes -/

/-- A message authentication code with an incremental interface. -/
structure MacScheme where
  Instance : Type
  init : Bytes → Option Instance
  digest : Instance → Bytes → Option Instance
  finalize : Instance → Option Bytes
  keySize : ℕ
  macSize : ℕ
  key : Instance → Bytes
  absorbed : Instance → Bytes
  mac : Bytes → Bytes → Bytes

namespace MacScheme

variable (M : MacScheme)

/-- **A lawful code** absorbs pieces as their concatenation: what `finalize`
returns depends on the key and on the octets digested, not on how they were
cut. -/
structure Lawful : Prop where
  init : ∀ {k i}, M.init k = some i → M.key i = k ∧ M.absorbed i = []
  init_total : ∀ {k}, k.length = M.keySize → ∃ i, M.init k = some i
  digest : ∀ (i : M.Instance) (d : Bytes),
    ∃ i', M.digest i d = some i' ∧ M.key i' = M.key i ∧ M.absorbed i' = M.absorbed i ++ d
  finalize : ∀ i : M.Instance, M.finalize i = some (M.mac (M.key i) (M.absorbed i))
  length_mac : ∀ k d : Bytes, (M.mac k d).length = M.macSize

/-- The code of one piece. -/
theorem Lawful.digest_one {M : MacScheme} (hM : M.Lawful) {k : Bytes} {i : M.Instance}
    (hi : M.init k = some i) (a : Bytes) :
    ∃ i₁, M.digest i a = some i₁ ∧ M.finalize i₁ = some (M.mac k a) := by
  obtain ⟨hkey, habsorbed⟩ := hM.init hi
  obtain ⟨i₁, hi₁, hkey₁, habsorbed₁⟩ := hM.digest i a
  refine ⟨i₁, hi₁, ?_⟩
  rw [hM.finalize, hkey₁, hkey, habsorbed₁, habsorbed, List.nil_append]

/-- The code of two pieces is that of their concatenation. -/
theorem Lawful.digest_two {M : MacScheme} (hM : M.Lawful) {k : Bytes} {i : M.Instance}
    (hi : M.init k = some i) (a b : Bytes) :
    ∃ i₁ i₂, M.digest i a = some i₁ ∧ M.digest i₁ b = some i₂ ∧
      M.finalize i₂ = some (M.mac k (a ++ b)) := by
  obtain ⟨hkey, habsorbed⟩ := hM.init hi
  obtain ⟨i₁, hi₁, hkey₁, habsorbed₁⟩ := hM.digest i a
  obtain ⟨i₂, hi₂, hkey₂, habsorbed₂⟩ := hM.digest i₁ b
  refine ⟨i₁, i₂, hi₁, hi₂, ?_⟩
  rw [hM.finalize, hkey₂, hkey₁, hkey, habsorbed₂, habsorbed₁, habsorbed, List.nil_append]

end MacScheme

/-! ## Block ciphers -/

/-- A block cipher used one block at a time, each call given the block that
chains into it. An instance is made for one direction. -/
structure BlockCipher where
  Instance : Type
  init : Bytes → Bool → Option Instance
  encrypt : Instance → Bytes → Bytes → Option Bytes
  decrypt : Instance → Bytes → Bytes → Option Bytes
  keySize : ℕ
  blockSize : ℕ
  key : Instance → Bytes
  encrypting : Instance → Bool
  enc : Bytes → Bytes → Bytes → Bytes
  dec : Bytes → Bytes → Bytes → Bytes

namespace BlockCipher

variable (B : BlockCipher)

/-- **A lawful block cipher** undoes its own encryption of a block under the
same key and the same chaining block. -/
structure Lawful : Prop where
  init_key : ∀ {k e i}, B.init k e = some i → B.key i = k ∧ B.encrypting i = e
  init_total : ∀ {k} (e : Bool), k.length = B.keySize → ∃ i, B.init k e = some i
  encrypt : ∀ (i : B.Instance) {c b : Bytes}, B.encrypting i = true →
    c.length = B.blockSize → b.length = B.blockSize →
    B.encrypt i c b = some (B.enc (B.key i) c b)
  decrypt : ∀ (i : B.Instance) {c b : Bytes}, B.encrypting i = false →
    c.length = B.blockSize → b.length = B.blockSize →
    B.decrypt i c b = some (B.dec (B.key i) c b)
  length_enc : ∀ (k : Bytes) {c b : Bytes}, b.length = B.blockSize →
    (B.enc k c b).length = B.blockSize
  dec_enc : ∀ (k : Bytes) {c b : Bytes}, b.length = B.blockSize → B.dec k c (B.enc k c b) = b

/-- **Every block is an encryption**: of its own decryption. -/
structure Onto : Prop where
  length_dec : ∀ (k : Bytes) {c b : Bytes}, b.length = B.blockSize →
    (B.dec k c b).length = B.blockSize
  enc_dec : ∀ (k : Bytes) {c b : Bytes}, b.length = B.blockSize → B.enc k c (B.dec k c b) = b

end BlockCipher

end Common
