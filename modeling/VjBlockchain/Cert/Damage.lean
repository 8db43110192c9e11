import VjBlockchain.Cert.Emit
import VjBlockchain.Cert.Parse
/-!
# Damaged certificates

The parsing loop ends when `fieldNext` refuses, and a refusal is the same at
the end of the buffer and at a broken field. Damage in the first field makes
`parse` throw; damage behind it is taken for the end, and the fields in front
of it are returned as if they were the certificate.
-/

namespace VjBlockchain

open Common Common.Bytes Common.Throwing CertificateParser

/-- Parsing an array accepts it only whole: a normal return means a non-empty
concatenation of complete fields, which the parsed fields give back when
they are written again in wire order; anything else is refused. -/
def ParsesOnlyWhole (C : Vccert) (certificate : Bytes) : Prop :=
  (∀ map, parse C ⟨certificate⟩ = .ok map →
    certificate ≠ [] ∧ Record.Whole certificate ∧
      ∃ fields, parseNative C certificate = .ok fields ∧ map = group fields ∧
        Record.encodeAll (fields.map fieldRecord) = certificate) ∧
  (¬(certificate ≠ [] ∧ Record.Whole certificate) →
    ∃ m, parse C ⟨certificate⟩ = .error (.java .illegalArgumentException m))

/-- The array starts with a complete field. -/
def StartsComplete (certificate : Bytes) : Prop :=
  ∃ (r : Record) (rest : Bytes), r.Fits ∧ certificate = r.encode ++ rest

theorem startsComplete_iff (certificate : Bytes) :
    StartsComplete certificate ↔ Record.next certificate ≠ none := by
  rw [Option.ne_none_iff_exists', Prod.exists]
  simp only [StartsComplete, Record.next_eq_some_iff]

/-- The entry of a parsed field is written back as the field. -/
theorem fieldRecord_entry (r : Record) : fieldRecord (entry r) = r := by
  have htag : (r.tag.setWidth 32).setWidth 16 = r.tag := by
    apply BitVec.eq_of_toNat_eq
    rw [BitVec.toNat_setWidth, BitVec.toNat_setWidth]
    have := r.tag.isLt
    omega
  rw [fieldRecord, entry, htag]

theorem map_fieldRecord_entry (rs : List Record) : (rs.map entry).map fieldRecord = rs := by
  rw [List.map_map]
  exact (List.map_congr_left fun r _ => fieldRecord_entry r).trans (List.map_id rs)

/-- **The parser accepts only whole certificates, save those damaged behind
their first field**: it does what is asked of it on exactly the arrays that
do not start with a complete field, or are complete fields throughout. -/
theorem parsesOnlyWhole_iff {C : Vccert} (hC : C.Lawful) (certificate : Bytes) :
    ParsesOnlyWhole C certificate ↔
      ¬StartsComplete certificate ∨ Record.Whole certificate := by
  rw [startsComplete_iff, not_not]
  constructor
  · rintro ⟨haccept, -⟩
    by_cases hfirst : Record.next certificate = none
    · exact .inl hfirst
    · exact .inr (haccept _ (parse_eq hC (p := ⟨certificate⟩) hfirst)).2.1
  · intro hcond
    by_cases hfirst : Record.next certificate = none
    · -- refused, so nothing is accepted
      have hrefused := parse_error hC (p := ⟨certificate⟩) hfirst
      refine ⟨fun map hmap => ?_, fun _ => ⟨_, hrefused⟩⟩
      cases hrefused.symm.trans hmap
    · have hwhole : Record.Whole certificate := hcond.resolve_left hfirst
      have hne : certificate ≠ [] := by
        rintro rfl
        exact hfirst Record.next_nil
      refine ⟨fun map hmap => ⟨hne, hwhole, _, parseNative_eq hC hfirst, ?_, ?_⟩,
        fun hnot => absurd ⟨hne, hwhole⟩ hnot⟩
      · exact (Except.ok.inj ((parse_eq hC (p := ⟨certificate⟩) hfirst).symm.trans hmap)).symm
      · rw [map_fieldRecord_entry]
        have hback := Record.encodeAll_walk certificate
        rwa [(Record.whole_iff certificate).mp hwhole, List.append_nil] at hback

/-- One complete field, and one octet of a second: the octet is dropped. -/
theorem not_parsesOnlyWhole : ¬ParsesOnlyWhole BufferCert.lib [0x00, 0x01, 0x00, 0x00, 0x00] := by
  intro h
  have hfirst : Record.next [0x00, 0x01, 0x00, 0x00, 0x00] = some (⟨1, []⟩, [0x00]) := by decide
  have hparse := parse_eq BufferCert.lib_lawful (p := ⟨[0x00, 0x01, 0x00, 0x00, 0x00]⟩)
    (hfirst ▸ Option.some_ne_none _)
  have hwhole := (Record.whole_iff _).mp (h.1 _ hparse).2.1
  rw [Record.walk_some hfirst, Record.walk_none (by rfl)] at hwhole
  cases hwhole

/-- A certificate of one field, and the same cut short inside its length. -/
theorem parsesOnlyWhole_field :
    ParsesOnlyWhole BufferCert.lib [0x00, 0x01, 0x00, 0x01, 0x07] ∧
      ParsesOnlyWhole BufferCert.lib [0x00, 0x01, 0x00] := by
  refine ⟨(parsesOnlyWhole_iff BufferCert.lib_lawful _).mpr (.inr ⟨[⟨1, [7]⟩], by decide, rfl⟩),
    (parsesOnlyWhole_iff BufferCert.lib_lawful _).mpr (.inl ?_)⟩
  rw [startsComplete_iff]
  exact fun h => h rfl

end VjBlockchain
