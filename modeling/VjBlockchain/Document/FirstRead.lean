import VjBlockchain.Document.RoundTrip
/-!
# The first read of a document

`decrypt` takes the vector off its source with a single `read` and does not
look at how much it returned. A stream may return less than was asked for.
Then the vector is what came, filled up with zeros, and what was left of it is
decrypted as the document's beginning; the loop behind it runs to the end as
if nothing had happened. A stream that ends inside the vector, or before it,
is read to the end in the same way.

So the vector is found exactly when the first read returns all of it.
-/

namespace VjBlockchain

open Common Common.Bytes Common.Throwing

namespace EncryptedDocumentReader

/-- What `decrypt` uses as the vector and leaves as ciphertext are the first
eight octets of the stream and the rest. -/
def UsesFirstEight (source : Source) : Prop :=
  (readIv source).1 = source.remaining.take 8 ∧
    (readIv source).2.remaining = source.remaining.drop 8

/-- **The vector is found.** Of a stream of at least eight octets the first
eight are the vector, and what is written is the rest unmasked under it; a
shorter stream makes `decrypt` throw an `IOException`. -/
def FindsIv (V : Vccrypt) (secretKey : Bytes) (source : Source) (destination : Bytes) : Prop :=
  if 8 ≤ source.remaining.length then
    UsesFirstEight source ∧ ∃ r', decrypt V ⟨secretKey, some source, some destination⟩ = .ok () r' ∧
      r'.destination = some (destination ++ xorAt
        (V.stream.keystream secretKey (source.remaining.take 8)) 0 (source.remaining.drop 8))
  else ∃ message r', decrypt V ⟨secretKey, some source, some destination⟩ =
    .error (.java .ioException message) r'

/-- The first read of the stream returns all that it is asked for. -/
def FirstReadWhole (source : Source) : Prop :=
  ∃ piece s', source.read IV_SIZE = some (piece, s') ∧ piece.length = 8

theorem FirstReadWhole.length_le {source : Source} (h : FirstReadWhole source) :
    8 ≤ source.remaining.length := by
  obtain ⟨piece, s', hread, hwhole⟩ := h
  obtain ⟨hsplit, -, -⟩ := Source.read_eq_some (by decide) hread
  have hlen := congrArg List.length hsplit
  rw [List.length_append] at hlen
  omega

/-- The vector always fills its array. -/
theorem length_readIv (source : Source) : (readIv source).1.length = 8 := by
  unfold readIv
  split
  · exact length_zeros 8
  · rename_i piece s' hread
    obtain ⟨-, -, hle⟩ := Source.read_eq_some (by decide) hread
    have hroom : piece.length ≤ 8 := hle
    rw [List.length_append, length_zeros, IV_SIZE]
    omega

/-- **The first eight octets are used exactly when one read returns them.** -/
theorem usesFirstEight_iff {source : Source} (hlen : 8 ≤ source.remaining.length) :
    UsesFirstEight source ↔ FirstReadWhole source := by
  constructor
  · rintro ⟨-, hrest⟩
    cases hread : source.read IV_SIZE with
    | none =>
      rw [Source.read_eq_none_iff.mp hread] at hlen
      cases hlen
    | some r =>
      obtain ⟨piece, s'⟩ := r
      obtain ⟨hsplit, -, hle⟩ := Source.read_eq_some (by decide) hread
      have hleft : (readIv source).2 = s' := by rw [readIv, hread]
      -- what is left tells how much was taken
      have hcount := congrArg List.length hsplit
      rw [List.length_append, ← hleft, hrest, List.length_drop] at hcount
      exact ⟨piece, s', hread, by omega⟩
  · rintro ⟨piece, s', hread, hwhole⟩
    have hiv : (source.remaining.take 8).length = 8 := by
      rw [List.length_take]
      omega
    obtain ⟨htaken, hbody⟩ :=
      readIv_eq hiv (List.take_append_drop 8 source.remaining).symm hread hwhole
    rw [UsesFirstEight, htaken]
    exact ⟨rfl, hbody⟩

/-- **`decrypt` always finishes**, with what was left behind the first read
unmasked under what the first read brought. -/
theorem decrypt_finishes {V : Vccrypt} (hV : V.Lawful) {secretKey : Bytes}
    (hkey : secretKey.length = 32) (source : Source) (destination : Bytes) :
    ∃ r', decrypt V ⟨secretKey, some source, some destination⟩ = .ok () r' ∧
      r'.destination = some (destination ++ xorAt
        (V.stream.keystream secretKey (readIv source).1) 0 (readIv source).2.remaining) := by
  obtain ⟨source', -, hloop⟩ :=
    decryptLoop_eq hV hkey (length_readIv source) (readIv source).2 destination 0
  exact ⟨_, decrypt_eq (r := ⟨secretKey, some source, some destination⟩) rfl rfl rfl hloop, rfl⟩

/-- **The vector is found exactly when the first read returns all of it.** For
every stream, every way of splitting it, and every destination. -/
theorem findsIv_iff {V : Vccrypt} (hV : V.Lawful) {secretKey : Bytes}
    (hkey : secretKey.length = 32) (source : Source) (destination : Bytes) :
    FindsIv V secretKey source destination ↔ FirstReadWhole source := by
  obtain ⟨r', hrun, hdest⟩ := decrypt_finishes hV hkey source destination
  unfold FindsIv
  split
  · rename_i hlen
    constructor
    · rintro ⟨huses, -⟩
      exact (usesFirstEight_iff hlen).mp huses
    · intro hwhole
      have huses := (usesFirstEight_iff hlen).mpr hwhole
      rw [huses.1, huses.2] at hdest
      exact ⟨huses, r', hrun, hdest⟩
  · rename_i hshort
    constructor
    · rintro ⟨message, r'', hthrown⟩
      cases hrun.symm.trans hthrown
    · intro hwhole
      exact absurd hwhole.length_le hshort

/-- Nine octets, eight of them in the first read. -/
theorem findsIv_iff_nine :
    (zeros 32).length = 32 ∧
      FindsIv XorSuite.suite (zeros 32) ⟨[1, 2, 3, 4, 5, 6, 7, 8, 9], fun _ => 8⟩ [] :=
  ⟨length_zeros 32, (findsIv_iff XorSuite.suite_lawful (length_zeros 32) _ _).mpr
    ⟨[1, 2, 3, 4, 5, 6, 7, 8], _, rfl, rfl⟩⟩

/-- **A short first read goes unnoticed.** Nine octets that come in fours give
a document of five, and a stream that ends inside the vector one of none; the
vector is found in neither. -/
theorem not_findsIv :
    (∃ r', decrypt XorSuite.suite
        ⟨zeros 32, some ⟨[1, 2, 3, 4, 5, 6, 7, 8, 9], fun _ => 4⟩, some []⟩ = .ok () r' ∧
      r'.destination = some [4, 4, 4, 12, 9]) ∧
    ¬FindsIv XorSuite.suite (zeros 32) ⟨[1, 2, 3, 4, 5, 6, 7, 8, 9], fun _ => 4⟩ [] ∧
    (∃ r', decrypt XorSuite.suite ⟨zeros 32, some ⟨[1, 2, 3], fun _ => 8⟩, some []⟩ = .ok () r' ∧
      r'.destination = some []) ∧
    ¬FindsIv XorSuite.suite (zeros 32) ⟨[1, 2, 3], fun _ => 8⟩ [] := by
  obtain ⟨r₁, hrun₁, hdest₁⟩ := decrypt_finishes XorSuite.suite_lawful (length_zeros 32)
    ⟨[1, 2, 3, 4, 5, 6, 7, 8, 9], fun _ => 4⟩ []
  obtain ⟨r₂, hrun₂, hdest₂⟩ := decrypt_finishes XorSuite.suite_lawful (length_zeros 32)
    ⟨[1, 2, 3], fun _ => 8⟩ []
  refine ⟨⟨r₁, hrun₁, hdest₁.trans (by decide)⟩, ?_, ⟨r₂, hrun₂, hdest₂.trans (by decide)⟩, ?_⟩
  · rintro ⟨huses, -⟩
    exact absurd huses.1 (by decide)
  · rintro ⟨message, r', hthrown⟩
    cases hrun₂.symm.trans hthrown

end EncryptedDocumentReader

end VjBlockchain
