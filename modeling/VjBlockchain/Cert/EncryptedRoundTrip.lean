import VjBlockchain.Cert.Recipients
/-!
# Encrypted fields round trip, but for empty values

An encrypted value is stored behind its eight-octet vector, so the stored
array of an empty value is the vector and nothing else. `getEncrypted` asks
for more than eight octets before it decrypts: the builder takes an empty
value, the decryption under the reader would return it, and the test between
them refuses it. Every other value comes back.

The index of a value counts all fields of its id in front of it, plain and
encrypted ones alike, and the default ones.
-/

namespace VjBlockchain

open Common Common.Bytes Common.Throwing CertificateParser
open EncryptedCall EncryptedCertificateBuilder EncryptedCertificateReader

variable {V : Vccrypt} {C : Vccert}

/-! ## One value -/

namespace EncryptedCertificateReader

/-- What lies behind the vector is unmasked. -/
theorem decryptNative_eq (hV : V.Lawful) {key iv : Bytes} (hkey : key.length = 32)
    (hiv : iv.length = 8) (masked : Bytes) :
    decryptNative V key (iv ++ masked) = .ok (xorAt (V.stream.keystream key iv) 0 masked) :=
  EncryptedDocumentReader.decryptData_eq hV hkey hiv masked 0

/-- **The test on the length** is a test for a value that is not empty. -/
theorem getEncrypted_eq (hV : V.Lawful) {r : EncryptedCertificateReader} {key iv value : Bytes}
    {fields : List Bytes} {f : JInt} {i : ℕ} (hkey : key.length = 32) (hiv : iv.length = 8)
    (hloaded : r.secretKey = some key) (hfields : r.certFields f = some fields)
    (hraw : fields[i]? = some (iv ++ xorAt (V.stream.keystream key iv) 0 value)) :
    r.getEncrypted V f i = if value = [] then
        .error (.java .fieldConversionException "Invalid encrypted field.")
      else .ok (.new value) := by
  have hlen : (iv ++ xorAt (V.stream.keystream key iv) 0 value).length = 8 + value.length := by
    rw [List.length_append, hiv, length_xorAt]
  unfold getEncrypted
  simp only [hloaded, hfields, hraw, hlen]
  by_cases hempty : value = []
  · rw [if_pos hempty, check_neg (by simp [hempty]), error_bind]
  · have hpos := List.length_pos_iff.mpr hempty
    rw [if_neg hempty, check_pos (by omega), ok_bind, decryptNative_eq hV hkey hiv, ok_bind,
      xorAt_xorAt]

end EncryptedCertificateReader

/-! ## Its place among the values -/

/-- The index of the next value of an id: the default fields of the id, and the
calls before that stored under it. -/
def indexOf (certificateType : UUID) (before : List EncryptedCall) (f : JInt) : ℕ :=
  (AddCall.named (BuilderStart.certificate certificateType).defaults f).length +
    (before.filter fun c => c.fieldId = f).length

section Place

variable {keyPair : EncryptionKeyPair V} {secretKey : Bytes} {made : List AddCall}
  {calls before after : List EncryptedCall} {c : EncryptedCall}

/-- The fields of an id are as many as the calls that name it. -/
theorem length_named_of_leaves (h : List.Forall₂ (Leaves C keyPair secretKey) calls made)
    (f : JInt) : (AddCall.named made f).length = (calls.filter fun c => c.fieldId = f).length := by
  induction h with
  | nil => rfl
  | @cons c m calls made hc _ ih =>
    unfold AddCall.named at ih ⊢
    rw [List.filter_cons, List.filter_cons, hc.fieldId]
    split
    · rw [List.length_cons, List.length_cons, ih]
    · exact ih

/-- The fields are split where the calls are. -/
theorem split_leaves
    (h : List.Forall₂ (Leaves C keyPair secretKey) (before ++ c :: after) made) :
    ∃ first m rest, made = first ++ m :: rest ∧
      List.Forall₂ (Leaves C keyPair secretKey) before first ∧ Leaves C keyPair secretKey c m := by
  induction before generalizing made with
  | nil =>
    obtain ⟨m, rest, hm, -, rfl⟩ := List.forall₂_cons_left_iff.mp h
    exact ⟨[], m, rest, rfl, .nil, hm⟩
  | cons c' before ih =>
    obtain ⟨m', made', hm', hmade, rfl⟩ := List.forall₂_cons_left_iff.mp h
    obtain ⟨first, m, rest, rfl, hfirst, hm⟩ := ih hmade
    exact ⟨m' :: first, m, rest, rfl, .cons hm' hfirst, hm⟩

/-- **A call's value is found at its index.** -/
theorem value_at_index (certificateType : UUID)
    (h : List.Forall₂ (Leaves C keyPair secretKey) (before ++ c :: after) made) :
    ∃ m, Leaves C keyPair secretKey c m ∧
      (valuesOf (((BuilderStart.certificate certificateType).defaults ++ made).map
        fun c => (c.fieldId, c.serialized)) c.fieldId)[indexOf certificateType before c.fieldId]? =
        some m.serialized := by
  obtain ⟨first, m, rest, rfl, hfirst, hm⟩ := split_leaves h
  refine ⟨m, hm, ?_⟩
  rw [indexOf, ← length_named_of_leaves hfirst, AddCall.valuesOf_entries, ← List.append_assoc]
  have hnamed : AddCall.named ((BuilderStart.certificate certificateType).defaults ++ first ++
      m :: rest) c.fieldId = AddCall.named (BuilderStart.certificate certificateType).defaults
        c.fieldId ++ AddCall.named first c.fieldId ++ m :: AddCall.named rest c.fieldId := by
    unfold AddCall.named
    rw [List.filter_append, List.filter_append, List.filter_cons_of_pos (by simp [hm.fieldId])]
  rw [hnamed, List.getElem?_map, ← List.length_append, List.getElem?_append_right le_rfl]
  simp

end Place

/-! ## All values -/

/-- **The encrypted fields of a certificate are read back** by a recipient:
the key loads, and each field gives a reader over the octets serialized for
it. -/
def ReadsBack (C : Vccert) (creator recipient : EncryptionKeyPair V)
    (entityId certificateType : UUID) (calls : List EncryptedCall)
    (b : EncryptedCertificateBuilder V) : Prop :=
  ∃ cert r r', b.emit C = .ok cert ∧
    EncryptedCertificateReader.new C entityId recipient.privateKey creator.publicKey (.new cert) =
      .ok r ∧
    loadSecretKey V C r = .ok () r' ∧
    ∀ before c after, calls = before ++ .addEncrypted c :: after →
      r'.getEncrypted V c.fieldId (indexOf certificateType before c.fieldId) =
        .ok (.new c.serialized)

section Recipient

variable {creator : EncryptionKeyPair V} (recipient : EncryptionKeyPair V) (entityId : UUID)
  {certificateType : UUID} {secretKey : Bytes} {calls : List EncryptedCall}
  {b : EncryptedCertificateBuilder V}

/-- **What a recipient reads**: every value, or a refusal where it is empty. -/
theorem getEncrypted_of_calls (hV : V.Lawful) (hC : C.Lawful) (hkey : secretKey.length = 32)
    (hfit : Fit certificateType calls)
    (hcalls : callAll C calls (createCertificateBuilder creator certificateType secretKey hkey) =
      .ok () b) {s : SharedSecret}
    (hfirst : (recipients calls).find? (fun s => s.entityId = entityId) = some s)
    (hpublic : s.publicKey = recipient.publicKey) :
    ∃ cert r r', b.emit C = .ok cert ∧
      EncryptedCertificateReader.new C entityId recipient.privateKey creator.publicKey
        (.new cert) = .ok r ∧
      loadSecretKey V C r = .ok () r' ∧
      ∀ before c after, calls = before ++ .addEncrypted c :: after →
        r'.getEncrypted V c.fieldId (indexOf certificateType before c.fieldId) =
          if c.serialized = [] then
            .error (.java .fieldConversionException "Invalid encrypted field.")
          else .ok (.new c.serialized) := by
  obtain ⟨cert, r₀, made, hemit, hnew, hleaves, hgroup⟩ := reader_of_calls hV hC hkey hfit hcalls
  obtain ⟨fragments, hwraps, hfragments⟩ := fragments_of_reader hleaves hfit.others hgroup
  refine ⟨cert, _, _, hemit, new_eq hnew ..,
    loadSecretKey_of_wraps hV hC hkey hwraps hfragments hfirst hpublic, ?_⟩
  rintro before c after rfl
  obtain ⟨m, ⟨iv, hiv, rfl⟩, hvalue⟩ := value_at_index certificateType hleaves
  have hfields : r₀.certFields c.fieldId = some (valuesOf
      (((BuilderStart.certificate certificateType).defaults ++ made).map
        fun c => (c.fieldId, c.serialized)) c.fieldId) := by
    rw [hgroup, group_eq, present, if_neg]
    intro hnil
    rw [EncryptedCall.fieldId, hnil] at hvalue
    cases hvalue
  exact getEncrypted_eq hV hkey hiv rfl hfields hvalue

/-- **Encrypted fields round trip exactly when none is empty.** For any calls
on an encrypted builder that return and fit a certificate, the first one for
the reader's entity naming the reader's public key, the emitted certificate
is read back if and only if every value encrypted has at least one octet. -/
theorem readsBack_iff (hV : V.Lawful) (hC : C.Lawful) (hkey : secretKey.length = 32)
    (hfit : Fit certificateType calls)
    (hcalls : callAll C calls (createCertificateBuilder creator certificateType secretKey hkey) =
      .ok () b)
    (hrecipient : ∃ s, (recipients calls).find? (fun s => s.entityId = entityId) = some s ∧
      s.publicKey = recipient.publicKey) :
    ReadsBack C creator recipient entityId certificateType calls b ↔
      ∀ c, .addEncrypted c ∈ calls → c.serialized ≠ [] := by
  obtain ⟨s, hfirst, hpublic⟩ := hrecipient
  obtain ⟨cert, r, r', hemit, hnew, hload, hget⟩ :=
    getEncrypted_of_calls recipient entityId hV hC hkey hfit hcalls hfirst hpublic
  constructor
  · rintro ⟨cert₁, r₁, r₁', hemit₁, hnew₁, hload₁, hback⟩ c hc hempty
    obtain rfl := Except.ok.inj (hemit.symm.trans hemit₁)
    obtain rfl := Except.ok.inj (hnew.symm.trans hnew₁)
    obtain ⟨⟩ := hload.symm.trans hload₁
    obtain ⟨before, after, hsplit⟩ := List.append_of_mem hc
    have hrefused := hget before c after hsplit
    rw [if_pos hempty] at hrefused
    cases hrefused.symm.trans (hback before c after hsplit)
  · intro hne
    refine ⟨cert, r, r', hemit, hnew, hload, ?_⟩
    intro before c after hsplit
    rw [hget before c after hsplit, if_neg (hne c (by simp [hsplit]))]

end Recipient

/-- A recipient, a plain field, and an encrypted array under the same id. -/
def behindPlain (value : Bytes) : List EncryptedCall :=
  [.addEncryptedSharedSecret firstRecipient,
    .add (.addInt 0x0400 7),
    .addEncrypted (.addEncryptedByteArray 0x0400 value)]

/-- What the calls do to the fresh builder. -/
def behindPlainRun (value : Bytes) :
    Except Fault Unit × EncryptedCertificateBuilder XorSuite.suite :=
  Effect.outcome (callAll BufferCert.lib (behindPlain value)) freshBuilder

/-- In the open: three octets are read back. -/
theorem readsBack_iff_three :
    ReadsBack BufferCert.lib (XorSuite.keyPair 0) (XorSuite.keyPair 1) ⟨0, 1⟩ ⟨0, 0⟩
      (behindPlain [1, 2, 3]) (behindPlainRun [1, 2, 3]).2 := by
  have hreturns : (behindPlainRun [1, 2, 3]).1 = .ok () := by decide +kernel
  have hcalls : callAll BufferCert.lib (behindPlain [1, 2, 3]) freshBuilder =
      .ok () (behindPlainRun [1, 2, 3]).2 := Effect.ok_of_outcome hreturns
  have hfit : Fit ⟨0, 0⟩ (behindPlain [1, 2, 3]) :=
    ⟨by decide, by decide, by decide, by decide⟩
  refine (readsBack_iff (XorSuite.keyPair 1) ⟨0, 1⟩ XorSuite.suite_lawful BufferCert.lib_lawful
    rfl hfit hcalls ⟨_, rfl, rfl⟩).mpr ?_
  intro c hc
  simp only [behindPlain, List.mem_cons, List.not_mem_nil, or_false, reduceCtorEq, false_or,
    EncryptedCall.addEncrypted.injEq] at hc
  subst hc
  decide

/-- **An empty value is refused**: the calls return, the certificate is emitted,
the key loads, and the field the builder took cannot be read. -/
theorem not_readsBack_empty :
    (behindPlainRun []).1 = .ok () ∧
      ¬ReadsBack BufferCert.lib (XorSuite.keyPair 0) (XorSuite.keyPair 1) ⟨0, 1⟩ ⟨0, 0⟩
        (behindPlain []) (behindPlainRun []).2 := by
  have hreturns : (behindPlainRun []).1 = .ok () := by decide +kernel
  have hcalls : callAll BufferCert.lib (behindPlain []) freshBuilder =
      .ok () (behindPlainRun []).2 := Effect.ok_of_outcome hreturns
  have hfit : Fit ⟨0, 0⟩ (behindPlain []) := ⟨by decide, by decide, by decide, by decide⟩
  refine ⟨hreturns, ?_⟩
  rintro ⟨cert, r, r', hemit, hnew, hload, hback⟩
  obtain ⟨cert₁, r₁, r₁', hemit₁, hnew₁, hload₁, hget⟩ :=
    getEncrypted_of_calls (XorSuite.keyPair 1) ⟨0, 1⟩ XorSuite.suite_lawful
      BufferCert.lib_lawful rfl hfit hcalls rfl rfl
  obtain rfl := Except.ok.inj (hemit.symm.trans hemit₁)
  obtain rfl := Except.ok.inj (hnew.symm.trans hnew₁)
  obtain ⟨⟩ := hload.symm.trans hload₁
  have hsplit : behindPlain [] = [.addEncryptedSharedSecret _, .add (.addInt 0x0400 7)] ++
      .addEncrypted (.addEncryptedByteArray 0x0400 []) :: [] := rfl
  cases (hback _ _ _ hsplit).symm.trans (hget _ _ _ hsplit)

end VjBlockchain
