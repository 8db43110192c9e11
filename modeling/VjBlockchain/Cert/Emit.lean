import VjBlockchain.Cert.Model
/-!
# What `emit` writes

Whatever the builder holds, `emit` writes its fields as records, in order,
provided each value fits a length field and the whole fits a `jsize`. The key
that `addByteArray` stored, signed or not, comes out as the low sixteen bits
of the id it was made from.
-/

namespace VjBlockchain

open Common Common.Bytes Common.Throwing

/-- The record a stored field is written as. -/
def fieldRecord (field : JInt × Bytes) : Record := ⟨field.1.setWidth 16, field.2⟩

/-- The octets the fields take up. -/
def encodedSize (fields : List (JInt × Bytes)) : ℕ :=
  (fields.map fun field => 4 + field.2.length).sum

theorem encodedSize_cons (field : JInt × Bytes) (fields : List (JInt × Bytes)) :
    encodedSize (field :: fields) = 4 + field.2.length + encodedSize fields := rfl

theorem length_encodeAll_fields (fields : List (JInt × Bytes)) :
    (Record.encodeAll (fields.map fieldRecord)).length = encodedSize fields := by
  induction fields with
  | nil => rfl
  | cons field fields ih =>
    rw [List.map_cons, Record.encodeAll_cons, List.length_append, ih, Record.length_encode,
      encodedSize_cons, fieldRecord]

/-- Every field takes up four octets at least. -/
theorem four_mul_length_le (fields : List (JInt × Bytes)) :
    4 * fields.length ≤ encodedSize fields := by
  induction fields with
  | nil => exact Nat.zero_le _
  | cons field fields ih =>
    rw [encodedSize_cons, List.length_cons]
    omega

/-- The size of a list is a length, up to the largest `int`. -/
theorem LinkedList.size_toNat {α : Type} (list : List α) :
    (LinkedList.size list).toNat = min list.length (2 ^ 31 - 1) := by
  rw [LinkedList.size, BitVec.toNat_ofNat, Nat.mod_eq_of_lt (by omega)]

/-- A list below the largest `int` is gone through whole. -/
theorem LinkedList.take_size {α : Type} {list : List α} (h : list.length < 2 ^ 31) :
    list.take (LinkedList.size list).toNat = list := by
  rw [LinkedList.size_toNat]
  exact List.take_of_length_le (by omega)

/-- Only an empty list has no size. -/
theorem LinkedList.size_pos {α : Type} {list : List α} (h : list ≠ []) :
    ¬(LinkedList.size list).toInt ≤ 0 := by
  have hpos : 0 < list.length := List.length_pos_iff.mpr h
  have hsize := LinkedList.size_toNat list
  rw [BitVec.toInt_eq_toNat_of_lt (by omega), hsize]
  omega

namespace CertificateBuilder

/-! ## The size -/

theorem foldl_certSize (fields : List (JInt × Bytes)) (size : BitVec 32) :
    fields.foldl (fun size field => size + BitVec.ofNat 32 (2 + 2 + field.2.length)) size =
      size + BitVec.ofNat 32 (encodedSize fields) := by
  induction fields generalizing size with
  | nil => simp [encodedSize]
  | cons field fields ih =>
    rw [List.foldl_cons, ih, encodedSize_cons, BitVec.add_assoc, ← BitVec.ofNat_add]

/-- The counter holds the size, modulo its width. -/
theorem certSize_eq (fields : List (JInt × Bytes)) :
    certSize fields = BitVec.ofNat 32 (encodedSize fields) := by
  rw [certSize, foldl_certSize]
  exact BitVec.zero_add _

/-- **Below `2 ^ 31` the size survives** the counter and its widening. -/
theorem certSize_toNat {fields : List (JInt × Bytes)} (h : encodedSize fields < 2 ^ 31) :
    (certSize fields).toNat = encodedSize fields ∧
      ((certSize fields).signExtend 64).toNat = encodedSize fields := by
  rw [certSize_eq]
  exact ⟨Nat.mod_eq_of_lt (by omega), toNat_signExtend_size h⟩

/-! ## The fields -/

section

variable {C : Vccert} (hC : C.Lawful)
include hC

/-- **The fields are appended in order**, while they fit. -/
theorem addFields_eq (fields : List (JInt × Bytes)) : ∀ builder : C.Builder,
    (∀ field ∈ fields, field.2.length < 65536) →
    (C.written builder).length + encodedSize fields ≤ C.capacity builder →
    ∃ builder', addFields C builder fields = .ok builder' ∧
      C.written builder' = C.written builder ++ Record.encodeAll (fields.map fieldRecord) := by
  induction fields with
  | nil =>
    intro builder _ _
    exact ⟨builder, rfl, by simp⟩
  | cons field fields ih =>
    intro builder hfit hroom
    obtain ⟨fieldType, value⟩ := field
    rw [encodedSize_cons] at hroom
    dsimp only at hroom
    have hr : (fieldRecord (fieldType, value)).Fits := hfit _ (List.mem_cons_self ..)
    have hlen : (fieldRecord (fieldType, value)).encode.length = 4 + value.length :=
      Record.length_encode _
    obtain ⟨b₁, hadd, hcap, hwritten⟩ := hC.addShortBuffer (b := builder) hr (by omega)
    have hroom₁ : (C.written b₁).length + encodedSize fields ≤ C.capacity b₁ := by
      rw [hwritten, hcap, List.length_append, hlen]
      omega
    obtain ⟨b₂, hrest, hwritten₂⟩ :=
      ih b₁ (fun f hf => hfit f (List.mem_cons_of_mem _ hf)) hroom₁
    refine ⟨b₂, ?_, ?_⟩
    · have hadd' : C.addShortBuffer builder (fieldType.setWidth 16) value = some b₁ := hadd
      rw [addFields, orThrow_bind hadd', hrest]
    · rw [hwritten₂, hwritten, List.map_cons, Record.encodeAll_cons, List.append_assoc]

/-- **`emit` writes the fields as records.** -/
theorem emit_eq {b : CertificateBuilder} (hne : b.fields ≠ [])
    (hfit : ∀ field ∈ b.fields, field.2.length < 65536)
    (hsize : encodedSize b.fields < 2 ^ 31) :
    emit C b = .ok ⟨Record.encodeAll (b.fields.map fieldRecord)⟩ := by
  obtain ⟨hcount, hwide⟩ := certSize_toNat hsize
  obtain ⟨b₀, hinit, hcap, hempty⟩ := hC.builderInit hsize
  obtain ⟨b₁, hadd, hwritten⟩ := addFields_eq hC b.fields b₀ hfit (by
    rw [hempty, hcap, List.length_nil, Nat.zero_add])
  have hout : C.builderEmit b₁ = Record.encodeAll (b.fields.map fieldRecord) := by
    rw [hC.builderEmit, hwritten, hempty, List.nil_append]
  have hwhole : b.fields.take (LinkedList.size b.fields).toNat = b.fields := by
    have := four_mul_length_le b.fields
    exact LinkedList.take_size (by omega)
  rw [emit]
  dsimp only
  rw [check_pos (LinkedList.size_pos hne), ok_bind, hwhole, hwide, orThrow_bind hinit, bind_ok hadd,
    hout, check_pos (by rw [length_encodeAll_fields, hcount]), ok_bind]

end

/-! ## What the calls store -/

/-- The low sixteen bits of a key are those of the id it was made from. -/
theorem setWidth_shortKey (fieldId : JInt) :
    (shortKey fieldId).setWidth 16 = fieldId.setWidth 16 := by
  ext i hi
  have hi₃₂ : i < 32 := by omega
  simp [shortKey, BitVec.getElem_signExtend, hi, hi₃₂]

end CertificateBuilder

namespace AddCall

/-- What a call stores. -/
def stored (c : AddCall) : JInt × Bytes := (CertificateBuilder.shortKey c.fieldId, c.serialized)

/-- **A call that returns has stored one field**, behind those there were. -/
theorem call_fields {b b' : CertificateBuilder} {c : AddCall} (h : call b c = .ok b') :
    b'.fields = b.fields ++ [c.stored] := by
  cases c with
  | addZonedDateTime fieldId value =>
    obtain ⟨_, -, hok⟩ := bind_eq_ok_iff.mp h
    obtain rfl := Except.ok.inj hok
    rfl
  | _ =>
    obtain rfl := Except.ok.inj h
    rfl

/-- **A sequence of calls that returns has stored a field for each**, in
order. -/
theorem callAll_fields {cs : List AddCall} : ∀ {b b' : CertificateBuilder},
    callAll b cs = .ok b' → b'.fields = b.fields ++ cs.map stored := by
  induction cs with
  | nil =>
    intro b b' h
    obtain rfl := Except.ok.inj h
    simp
  | cons c cs ih =>
    intro b b' h
    obtain ⟨b₁, hcall, hrest⟩ := bind_eq_ok_iff.mp h
    rw [ih hrest, call_fields hcall]
    simp

/-- The record a call's field is written as. -/
theorem fieldRecord_stored (c : AddCall) :
    fieldRecord c.stored = ⟨c.fieldId.setWidth 16, c.serialized⟩ := by
  rw [fieldRecord, stored, CertificateBuilder.setWidth_shortKey]

end AddCall

end VjBlockchain
