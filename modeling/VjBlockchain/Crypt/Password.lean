import VjBlockchain.Cert.Strings
import VjBlockchain.Crypt.SimpleStreamCipher
/-!
# Keys from passwords

`Key.createFromPassword` derives a key from the octets of a password, its
salt and a count. The octets are those of the default character set of the
machine, which nothing else in the call depends on: two machines agree where
their character sets do.

Key derivation is a parameter, like the rest of the cryptographic library.
-/

namespace VjBlockchain

open Common Common.Bytes Common.Throwing

/-! ## Character sets -/

/-- A character set, as what it encodes. -/
structure Charset where
  encode : JString → Bytes

namespace Charset

/-- A character in a set that has the first `limit` of them, an octet each. -/
def octet (limit c : ℕ) : UInt8 := if c < limit then UInt8.ofNat c else 0x3F

/-- A string in such a set; a surrogate pair is one character. -/
def encodeOctets (limit : ℕ) : JString → Bytes
  | [] => []
  | [u] => [octet limit u.toNat]
  | u :: l :: rest =>
    if isHighSurrogate u && isLowSurrogate l then 0x3F :: encodeOctets limit rest
    else octet limit u.toNat :: encodeOctets limit (l :: rest)

def UTF_8 : Charset := ⟨transcode⟩

def ISO_8859_1 : Charset := ⟨encodeOctets 0x100⟩

def US_ASCII : Charset := ⟨encodeOctets 0x80⟩

/-- A unit whose octet is the same in all three: ASCII, or half of no pair. -/
def PlainUnit (u : UInt16) : Prop := u.toNat < 0x80 ∨ isHighSurrogate u ∨ isLowSurrogate u

/-- A string of such units. -/
def Plain : JString → Prop
  | [] => True
  | [u] => PlainUnit u
  | u :: l :: rest =>
    ¬(isHighSurrogate u && isLowSurrogate l) ∧ PlainUnit u ∧ Plain (l :: rest)

end Charset

/-! ## Derivation -/

/-- The codes a key may be derived with. -/
inductive MacAlgorithm
  | sha2_512Hmac
  | sha2_512_256Hmac
  deriving DecidableEq, Repr

/-- PBKDF2, as the native code calls it. -/
structure KeyDerivation where
  Options : Type
  Context : Type
  optionsInit : MacAlgorithm → Option Options
  init : Options → Option Context
  /-- From a password, a salt and a count. -/
  deriveKey : Context → Bytes → Bytes → BitVec 32 → Option Bytes

/-- **No collision**: the two passwords are not derived to one key. -/
def KeyDerivation.Separates (K : KeyDerivation) (alg : MacAlgorithm) (salt : Bytes)
    (iterations : BitVec 32) (p q : Bytes) : Prop :=
  ∀ options ctx k, K.optionsInit alg = some options → K.init options = some ctx →
    K.deriveKey ctx p salt iterations = some k → K.deriveKey ctx q salt iterations = some k → p = q

namespace Key

/-- The calls of `createFromPasswordNative` that may fail. -/
inductive Call
  | optionsInit
  | init
  | getPassword
  | passwordBufferInit
  | getSalt
  | saltBufferInit
  | keyBufferInit
  | deriveKey
  | newByteArray
  | getOutputArrayData
  deriving DecidableEq, Repr

variable (K : KeyDerivation) (env : NativeEnv Call)

/-- `createFromPasswordNative`. -/
def createFromPasswordNative (password salt : Bytes) (iterations : BitVec 32) (sha512 : Bool) :
    Except Fault Bytes := do
  check (env.initialized = true) (.illegalState "vjblockchain not initialized.")
  let hmacAlg := if sha512 then MacAlgorithm.sha2_512Hmac else .sha2_512_256Hmac
  let options ← orThrow (env.call .optionsInit (K.optionsInit hmacAlg))
    (.illegalState "key derivation options initialization failure.")
  let ctx ← orThrow (env.call .init (K.init options))
    (.illegalState "key derivation instance initialization failure.")
  let password ← orThrow (env.call .getPassword (some password))
    (.java .nullPointerException "password read failure.")
  let password ← orThrow (env.call .passwordBufferInit (some password))
    (.illegalState "could not initialize password crypto buffer.")
  let salt ← orThrow (env.call .getSalt (some salt))
    (.java .nullPointerException "salt data read failure.")
  let salt ← orThrow (env.call .saltBufferInit (some salt))
    (.illegalState "could not initialize salt crypto buffer.")
  check (env.fails .keyBufferInit = false)
    (.illegalState "could not initialize key crypto buffer.")
  let key ← orThrow (env.call .deriveKey (K.deriveKey ctx password salt iterations))
    (.illegalState "key derivation failure.")
  let outputArray ← orThrow (env.call .newByteArray (some key))
    (.java .nullPointerException "outputArray creation failure.")
  orThrow (env.call .getOutputArrayData (some outputArray))
    (.java .nullPointerException "outputArray data read failure.")

/-- `createFromPasswordAsBytes`, on a machine with this default character set. -/
def createFromPasswordAsBytes (defaultCharset : Charset) (salt : Bytes) (iterations : BitVec 32)
    (password : JString) (sha512 : Bool) : Except Fault Bytes :=
  createFromPasswordNative K env (defaultCharset.encode password) salt iterations sha512

/-- The constructor, which has the size verified. -/
def new (S : CryptoSuite) (key : Bytes) : Except Fault (Key S) := do
  check (env.initialized = true) (.illegalState "vjblockchain not initialized.")
  if h : key.length = S.stream.keySize then .ok ⟨key, h⟩
  else .error (.java .invalidKeySizeException "Invalid Key Size.")

/-- `createFromPassword`. -/
def createFromPassword (S : CryptoSuite) (defaultCharset : Charset) (salt : Bytes)
    (iterations : BitVec 32) (password : JString) : Except Fault (Key S) := do
  let key ← createFromPasswordAsBytes K env defaultCharset salt iterations password false
  new env S key

/-! ## What a key is derived from -/

variable {K env}

/-- **A call that returns has derived its key** from the octets it was given, and
nothing it called has failed. -/
theorem createFromPasswordNative_ok_iff {password salt k : Bytes} {iterations : BitVec 32}
    {sha512 : Bool} :
    createFromPasswordNative K env password salt iterations sha512 = .ok k ↔
      env.initialized = true ∧ (∀ c, env.fails c = false) ∧ ∃ options ctx,
        K.optionsInit (if sha512 then .sha2_512Hmac else .sha2_512_256Hmac) = some options ∧
        K.init options = some ctx ∧ K.deriveKey ctx password salt iterations = some k := by
  simp only [createFromPasswordNative, bind_eq_ok_iff, orThrow_eq_ok_iff,
    NativeEnv.call_eq_some_iff, check_eq_ok_iff, Option.some.injEq]
  constructor
  · rintro ⟨-, hinit, options, ⟨h₁, hoptions⟩, ctx, ⟨h₂, hctx⟩, _, ⟨h₃, rfl⟩, _, ⟨h₄, rfl⟩,
      _, ⟨h₅, rfl⟩, _, ⟨h₆, rfl⟩, -, h₇, _, ⟨h₈, hkey⟩, _, ⟨h₉, rfl⟩, h₁₀, rfl⟩
    refine ⟨hinit, fun c => ?_, options, ctx, hoptions, hctx, hkey⟩
    cases c <;> assumption
  · rintro ⟨hinit, hfails, options, ctx, hoptions, hctx, hkey⟩
    exact ⟨(), hinit, options, ⟨hfails _, hoptions⟩, ctx, ⟨hfails _, hctx⟩, _, ⟨hfails _, rfl⟩,
      _, ⟨hfails _, rfl⟩, _, ⟨hfails _, rfl⟩, _, ⟨hfails _, rfl⟩, (), hfails _, k,
      ⟨hfails _, hkey⟩, _, ⟨hfails _, rfl⟩, hfails _, rfl⟩

/-- The constructor takes keys of the right size as they are. -/
theorem new_eq_ok_iff {S : CryptoSuite} {k : Bytes} {key : Key S} :
    new env S k = .ok key ↔ env.initialized = true ∧ key.rawBytes = k := by
  rw [new, bind_eq_ok_iff]
  constructor
  · rintro ⟨_, hinit, h⟩
    split_ifs at h with hsize
    obtain rfl := Except.ok.inj h
    exact ⟨check_eq_ok_iff.mp hinit, rfl⟩
  · rintro ⟨hinit, rfl⟩
    exact ⟨(), check_eq_ok_iff.mpr hinit, dif_pos key.length_rawBytes⟩

/-- **Two machines derive one key** from a password exactly when their character
sets encode it to the same octets, if derivation tells the octets apart. -/
theorem createFromPasswordAsBytes_iff {c₁ c₂ : Charset} {salt k : Bytes} {iterations : BitVec 32}
    {password : JString} {sha512 : Bool}
    (hsep : K.Separates (if sha512 then .sha2_512Hmac else .sha2_512_256Hmac) salt iterations
      (c₁.encode password) (c₂.encode password))
    (h : createFromPasswordAsBytes K env c₁ salt iterations password sha512 = .ok k) :
    createFromPasswordAsBytes K env c₂ salt iterations password sha512 = .ok k ↔
      c₁.encode password = c₂.encode password := by
  constructor
  · intro h'
    obtain ⟨-, -, options, ctx, hoptions, hctx, hkey⟩ := createFromPasswordNative_ok_iff.mp h
    obtain ⟨-, -, options', ctx', hoptions', hctx', hkey'⟩ :=
      createFromPasswordNative_ok_iff.mp h'
    obtain rfl := Option.some.inj (hoptions.symm.trans hoptions')
    obtain rfl := Option.some.inj (hctx.symm.trans hctx')
    exact hsep options ctx k hoptions hctx hkey hkey'
  · intro hsame
    rwa [createFromPasswordAsBytes, ← hsame]

theorem createFromPassword_ok_iff {S : CryptoSuite} {c : Charset} {salt : Bytes}
    {iterations : BitVec 32} {password : JString} {key : Key S} :
    createFromPassword K env S c salt iterations password = .ok key ↔
      createFromPasswordAsBytes K env c salt iterations password false = .ok key.rawBytes := by
  rw [createFromPassword, bind_eq_ok_iff]
  constructor
  · rintro ⟨k, hk, hnew⟩
    rwa [(new_eq_ok_iff.mp hnew).2]
  · intro hk
    have hinit := (createFromPasswordNative_ok_iff.mp hk).1
    exact ⟨key.rawBytes, hk, new_eq_ok_iff.mpr ⟨hinit, rfl⟩⟩

end Key

/-! ## Where character sets agree -/

namespace Charset

/-- A character has one octet in UTF-8 if it is in ASCII, and more otherwise. -/
theorem utf8_cases (c : ℕ) :
    c < 0x80 ∧ utf8 c = [UInt8.ofNat c] ∨ 0x80 ≤ c ∧ 2 ≤ (utf8 c).length := by
  unfold utf8
  split_ifs with h₁ h₂ h₃
  · exact .inl ⟨h₁, rfl⟩
  all_goals exact .inr ⟨by omega, by simp⟩

section

variable {limit : ℕ} (hlow : 0x80 ≤ limit) (hhigh : limit ≤ 0xD800)
include hlow hhigh

/-- **One unit**: its octets in UTF-8 are its octet in a small set, or they are
more than one. -/
theorem utf8Unit_cases (u : UInt16) : PlainUnit u ∧ utf8Unit u = [octet limit u.toNat] ∨
    ¬PlainUnit u ∧ 2 ≤ (utf8Unit u).length := by
  by_cases hsurrogate : isHighSurrogate u = true ∨ isLowSurrogate u = true
  · have hbig : ¬u.toNat < limit := by
      rw [isHighSurrogate_iff, isLowSurrogate_iff] at hsurrogate
      omega
    refine .inl ⟨.inr hsurrogate, ?_⟩
    rw [utf8Unit, if_pos (by simpa using hsurrogate), octet, if_neg hbig]
  · have hunit : utf8Unit u = utf8 u.toNat := if_neg (by simpa using hsurrogate)
    rw [hunit]
    rcases utf8_cases u.toNat with ⟨hascii, hone⟩ | ⟨hmore, htwo⟩
    · refine .inl ⟨.inl hascii, ?_⟩
      rw [hone, octet, if_pos (by omega)]
    · refine .inr ⟨?_, htwo⟩
      rintro (hascii | hsurrogate')
      · omega
      · exact hsurrogate hsurrogate'

/-- UTF-8 never has fewer octets. -/
theorem length_encodeOctets_le (s : JString) :
    (encodeOctets limit s).length ≤ (transcode s).length := by
  have hone : ∀ u, 1 ≤ (utf8Unit u).length := by
    intro u
    rcases utf8Unit_cases hlow hhigh u with ⟨-, h⟩ | ⟨-, h⟩
    · simp [h]
    · omega
  induction s using transcode.induct with
  | case1 => exact le_rfl
  | case2 u => exact hone u
  | case3 u l rest hpair ih =>
    have hpos := List.length_pos_iff.mpr
      (utf8_ne_nil (0x10000 + (u.toNat - 0xD800) * 0x400 + (l.toNat - 0xDC00)))
    rw [encodeOctets, if_pos hpair, transcode, if_pos hpair, List.length_append,
      List.length_cons]
    omega
  | case4 u l rest hpair ih =>
    have hpos := hone u
    rw [encodeOctets, if_neg hpair, transcode, if_neg hpair, List.length_append,
      List.length_cons]
    omega

/-- **UTF-8 and a small set encode the same octets exactly of plain strings.** -/
theorem transcode_eq_encodeOctets_iff (s : JString) :
    transcode s = encodeOctets limit s ↔ Plain s := by
  induction s using transcode.induct with
  | case1 => exact iff_of_true rfl trivial
  | case2 u =>
    rw [transcode, encodeOctets, Plain]
    rcases utf8Unit_cases hlow hhigh u with ⟨hplain, h⟩ | ⟨hplain, h⟩
    · exact iff_of_true h hplain
    · refine iff_of_false (fun heq => ?_) hplain
      rw [heq, List.length_singleton] at h
      omega
  | case3 u l rest hpair ih =>
    rw [transcode, if_pos hpair, encodeOctets, if_pos hpair, Plain]
    refine iff_of_false (fun heq => ?_) fun h => h.1 hpair
    have hlen := congrArg List.length heq
    have hle := length_encodeOctets_le hlow hhigh rest
    rw [List.length_append, List.length_cons] at hlen
    rcases utf8_cases (0x10000 + (u.toNat - 0xD800) * 0x400 + (l.toNat - 0xDC00)) with
      ⟨hascii, -⟩ | ⟨-, htwo⟩
    · omega
    · omega
  | case4 u l rest hpair ih =>
    rw [transcode, if_neg hpair, encodeOctets, if_neg hpair, Plain]
    rcases utf8Unit_cases hlow hhigh u with ⟨hplain, h⟩ | ⟨hplain, h⟩
    · rw [h, List.singleton_append, List.cons.injEq, ih]
      simp [hpair, hplain]
    · refine iff_of_false (fun heq => ?_) fun hall => hplain hall.2.1
      have hlen := congrArg List.length heq
      have hle := length_encodeOctets_le hlow hhigh (l :: rest)
      rw [List.length_append, List.length_cons] at hlen
      omega

end

end Charset

namespace Key

variable {K : KeyDerivation} {env : NativeEnv Call}

/-- **A key from a password is the same on two machines exactly when their
character sets encode the password to the same octets**, unless derivation
itself takes two passwords for one. Between UTF-8 and ISO-8859-1 or US-ASCII
these are the passwords of ASCII characters and surrogates without a partner. -/
theorem createFromPassword_same_iff {S : CryptoSuite} {c₁ c₂ : Charset} {salt : Bytes}
    {iterations : BitVec 32} {password : JString}
    (hsep : K.Separates .sha2_512_256Hmac salt iterations (c₁.encode password)
      (c₂.encode password)) {key : Key S}
    (h : createFromPassword K env S c₁ salt iterations password = .ok key) :
    (createFromPassword K env S c₂ salt iterations password = .ok key ↔
      c₁.encode password = c₂.encode password) ∧
    (c₁ = Charset.UTF_8 → c₂ = Charset.ISO_8859_1 ∨ c₂ = Charset.US_ASCII →
      (createFromPassword K env S c₂ salt iterations password = .ok key ↔
        Charset.Plain password)) := by
  have hiff : createFromPassword K env S c₂ salt iterations password = .ok key ↔
      c₁.encode password = c₂.encode password := by
    rw [createFromPassword_ok_iff]
    exact createFromPasswordAsBytes_iff hsep (createFromPassword_ok_iff.mp h)
  refine ⟨hiff, ?_⟩
  rintro rfl (rfl | rfl)
  · exact hiff.trans (Charset.transcode_eq_encodeOctets_iff (by decide) (by decide) password)
  · exact hiff.trans (Charset.transcode_eq_encodeOctets_iff (by decide) (by decide) password)

/-- A derivation without strength: the sum of password and salt, one octet put in
front of the password. -/
def openDerivation : KeyDerivation where
  Options := MacAlgorithm
  Context := MacAlgorithm
  optionsInit := some
  init := some
  deriveKey alg password salt iterations :=
    some (toBE (if alg = .sha2_512Hmac then 64 else 32)
      (ofBE (1 :: password) + ofBE salt + iterations.toNat))

def openEnv : NativeEnv Call := ⟨true, fun _ => false⟩

/-- In the open: a password of ASCII characters. -/
theorem createFromPassword_same_ascii :
    ∃ key : Key XorSuite.cryptoSuite,
      createFromPassword openDerivation openEnv XorSuite.cryptoSuite .UTF_8 [1, 2] 10000
        [0x50, 0x77, 0x31] = .ok key ∧
      createFromPassword openDerivation openEnv XorSuite.cryptoSuite .ISO_8859_1 [1, 2] 10000
        [0x50, 0x77, 0x31] = .ok key := by
  have hkey : ∃ key : Key XorSuite.cryptoSuite, createFromPassword openDerivation openEnv
      XorSuite.cryptoSuite .UTF_8 [1, 2] 10000 [0x50, 0x77, 0x31] = .ok key := ⟨_, rfl⟩
  obtain ⟨key, hkey⟩ := hkey
  have hencode : Charset.UTF_8.encode [0x50, 0x77, 0x31] =
      Charset.ISO_8859_1.encode [0x50, 0x77, 0x31] := by decide
  have hsep : openDerivation.Separates .sha2_512_256Hmac [1, 2] 10000
      (Charset.UTF_8.encode [0x50, 0x77, 0x31]) (Charset.ISO_8859_1.encode [0x50, 0x77, 0x31]) :=
    fun _ _ _ _ _ _ _ => hencode
  exact ⟨key, hkey, ((createFromPassword_same_iff hsep hkey).2 rfl (.inl rfl)).mpr
    (by simp [Charset.Plain, Charset.PlainUnit, isHighSurrogate, isLowSurrogate])⟩

/-- **One letter that is not in ASCII** gives two keys on two machines, although
derivation tells its two encodings apart. -/
theorem not_createFromPassword_same :
    openDerivation.Separates .sha2_512_256Hmac [1, 2] 10000 (Charset.UTF_8.encode [0xE9])
        (Charset.ISO_8859_1.encode [0xE9]) ∧
      ∃ key key' : Key XorSuite.cryptoSuite,
        createFromPassword openDerivation openEnv XorSuite.cryptoSuite .UTF_8 [1, 2] 10000
          [0xE9] = .ok key ∧
        createFromPassword openDerivation openEnv XorSuite.cryptoSuite .ISO_8859_1 [1, 2] 10000
          [0xE9] = .ok key' ∧
        key.rawBytes ≠ key'.rawBytes := by
  refine ⟨?_, _, _, rfl, rfl, by decide +kernel⟩
  intro options ctx k hoptions hctx hkey hkey'
  obtain rfl := Option.some.inj hoptions
  obtain rfl := Option.some.inj hctx
  exact absurd (Option.some.inj (hkey.trans hkey'.symm)) (by decide +kernel)

end Key

end VjBlockchain
