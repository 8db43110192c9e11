import VjBlockchain.Cert.Model
/-!
# What the parser returns

`parseNative` returns the walk of the certificate: the records that can be
taken off its front, and refuses only when there is not even a first one.
`parse` groups them: a key holds exactly the values of its fields, in wire
order, and is there exactly when it has some.
-/

namespace VjBlockchain

open Common Common.Bytes Common.Throwing

namespace CertificateParser

section

variable {C : Vccert} (hC : C.Lawful)
include hC

/-- **The loop collects the walk** of what lies behind the current field. -/
theorem nextFields_eq (parser : C.Parser) :
    nextFields C parser = (Record.walk (C.rest parser)).1.map entry := by
  induction hrest : C.rest parser using Record.walk_induction generalizing parser with
  | stop bs h =>
    rw [← hrest] at h
    have hnext := hC.fieldNext_none h
    rw [nextFields, ← hrest, Record.walk_none h]
    split
    · rfl
    · rename_i h'
      cases hnext.symm.trans h'
  | step bs r rest h ih =>
    rw [← hrest] at h
    obtain ⟨parser', hnext, hrest'⟩ := hC.fieldNext_some h
    rw [nextFields, ← hrest, Record.walk_some h]
    split
    · rename_i h'
      cases hnext.symm.trans h'
    · rename_i h'
      obtain ⟨rfl, rfl⟩ := Prod.mk.inj (Option.some.inj (hnext.symm.trans h'))
      rw [ih _ hrest', List.map_cons]

/-- **`parseNative` returns the walk of the certificate.** -/
theorem parseNative_eq {certificate : Bytes} (h : Record.next certificate ≠ none) :
    parseNative C certificate = .ok ((Record.walk certificate).1.map entry) := by
  obtain ⟨parser, hinit, hbuffer⟩ := hC.parserInit certificate
  obtain ⟨⟨r, rest⟩, hnext⟩ := Option.ne_none_iff_exists'.mp h
  rw [← hbuffer] at hnext
  obtain ⟨parser', hfirst, hrest⟩ := hC.fieldFirst_some hnext
  rw [parseNative, orThrow_bind hinit, orThrow_bind hfirst]
  dsimp only
  rw [nextFields_eq hC, hrest, ← hbuffer, Record.walk_some hnext, List.map_cons]

/-- **It refuses a certificate without a first field.** -/
theorem parseNative_error {certificate : Bytes} (h : Record.next certificate = none) :
    parseNative C certificate =
      .error (.java .illegalArgumentException "certificate has no valid fields.") := by
  obtain ⟨parser, hinit, hbuffer⟩ := hC.parserInit certificate
  rw [← hbuffer] at h
  rw [parseNative, orThrow_bind hinit, hC.fieldFirst_none h]
  rfl

theorem parse_eq {p : CertificateParser} (h : Record.next p.certificate ≠ none) :
    parse C p = .ok (group ((Record.walk p.certificate).1.map entry)) := by
  rw [parse, parseNative_eq hC h, ok_bind]

/-- **Written records are parsed back**, if there are any. -/
theorem parse_encodeAll {rs : List Record} (hne : rs ≠ []) (hfits : ∀ r ∈ rs, r.Fits) :
    parse C ⟨Record.encodeAll rs⟩ = .ok (group (rs.map entry)) := by
  have hwalk := Record.walk_encodeAll hfits
  have hfirst : Record.next (Record.encodeAll rs) ≠ none := by
    intro h
    rw [Record.walk_none h] at hwalk
    exact hne (Prod.mk.inj hwalk).1.symm
  have hparse := parse_eq (p := ⟨Record.encodeAll rs⟩) hC hfirst
  dsimp only at hparse
  rw [hparse, hwalk]

theorem parse_error {p : CertificateParser} (h : Record.next p.certificate = none) :
    parse C p = .error (.java .illegalArgumentException "certificate has no valid fields.") := by
  rw [parse, parseNative_error hC h, error_bind]

end

/-! ## Grouping -/

/-- The values stored under a key, in order. -/
def valuesOf (fields : List (JInt × Bytes)) (key : JInt) : List Bytes :=
  (fields.filter fun field => field.1 = key).map Prod.snd

theorem valuesOf_append (fields fields' : List (JInt × Bytes)) (key : JInt) :
    valuesOf (fields ++ fields') key = valuesOf fields key ++ valuesOf fields' key := by
  simp [valuesOf]

theorem valuesOf_cons (field : JInt × Bytes) (fields : List (JInt × Bytes)) (key : JInt) :
    valuesOf (field :: fields) key =
      if field.1 = key then field.2 :: valuesOf fields key else valuesOf fields key := by
  by_cases h : field.1 = key <;> simp [valuesOf, h]

/-- The values of a key as a map shows them: absent rather than empty. -/
def present (values : List Bytes) : Option (List Bytes) :=
  if values = [] then none else some values

/-- One turn of the grouping loop. -/
theorem compute_present {fields : List (JInt × Bytes)} {map : FieldMap}
    (h : ∀ k, map k = present (valuesOf fields k)) (v : JInt × Bytes) (k : JInt) :
    compute map v.1 (appendField [v.2]) k = present (valuesOf (fields ++ [v]) k) := by
  rw [compute, valuesOf_append]
  by_cases hk : k = v.1
  · subst hk
    have hv : valuesOf [v] v.1 = [v.2] := by simp [valuesOf]
    rw [if_pos rfl, h, hv]
    by_cases hempty : valuesOf fields v.1 = []
    · rw [hempty]
      rfl
    · rw [present, if_neg hempty, present, if_neg (by simp)]
      rfl
  · have hv : valuesOf [v] k = [] := by simp [valuesOf, Ne.symm hk]
    rw [if_neg hk, h, hv, List.append_nil]

/-- **Grouping keeps every value, in order, under its key.** -/
theorem group_eq (fields : List (JInt × Bytes)) (key : JInt) :
    group fields key = present (valuesOf fields key) := by
  have hloop : ∀ (done todo : List (JInt × Bytes)) (map : FieldMap),
      (∀ k, map k = present (valuesOf done k)) →
      todo.foldl (fun map v => compute map v.1 (appendField [v.2])) map key =
        present (valuesOf (done ++ todo) key) := by
    intro done todo
    induction todo generalizing done with
    | nil =>
      intro map h
      rw [List.append_nil]
      exact h key
    | cons v todo ih =>
      intro map h
      rw [List.foldl_cons, ih (done ++ [v]) _ (compute_present h v), List.append_assoc]
      rfl
  exact hloop [] fields (fun _ => none) fun _ => rfl

end CertificateParser

/-! ## Reading the map -/

namespace CertificateReader

open CertificateParser

variable {r : CertificateReader} {fields : List (JInt × Bytes)}

theorem count_eq (h : r.certFields = group fields) (key : JInt) :
    r.count key = (valuesOf fields key).length := by
  rw [count, h, group_eq, present]
  split
  · rename_i hnone
    split at hnone
    · rename_i hempty
      rw [hempty]
      rfl
    · cases hnone
  · rename_i values hsome
    split at hsome
    · cases hsome
    · rw [Option.some.inj hsome]

theorem get_eq (h : r.certFields = group fields) {key : JInt} {i : ℕ}
    (hi : i < (valuesOf fields key).length) :
    r.get key i = .ok (.new (valuesOf fields key)[i]) := by
  have hne : valuesOf fields key ≠ [] := by
    intro hempty
    rw [hempty] at hi
    cases hi
  rw [get, h, group_eq, present, if_neg hne]
  dsimp only
  rw [List.getElem?_eq_getElem hi]

theorem getFirst_eq (h : r.certFields = group fields) {key : JInt} {v : Bytes}
    (hv : (valuesOf fields key).head? = some v) : r.getFirst key = .ok (.new v) := by
  obtain ⟨vs, hvs⟩ := List.head?_eq_some_iff.mp hv
  rw [getFirst, get, h, group_eq, hvs, present, if_neg (by simp)]
  rfl

theorem mem_getFields (h : r.certFields = group fields) (key : JInt) :
    key ∈ r.getFields ↔ ∃ field ∈ fields, field.1 = key := by
  have hmem : key ∈ r.getFields ↔ valuesOf fields key ≠ [] := by
    show (r.certFields key).isSome ↔ _
    rw [h, group_eq, present]
    split <;> simp_all
  rw [hmem, valuesOf, ne_eq, List.map_eq_nil_iff, List.filter_eq_nil_iff]
  simp

end CertificateReader

end VjBlockchain
