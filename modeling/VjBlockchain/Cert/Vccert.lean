import VjBlockchain.Common.Record
/-!
# The certificate library — what the native code calls

`vccert` is a parameter: a builder that appends fields to a buffer of the
size it was made with, and a parser that walks a buffer field by field. A
call to `fieldFirst` or `fieldNext` returns a field and the parser behind it,
or refuses; the refusal is the same at the end of the buffer and at a field
that does not fit in it. A parser only moves forward, which is part of being
one.
-/

namespace VjBlockchain

open Common

/-- The certificate library. -/
structure Vccert where
  Builder : Type
  builderInit : ℕ → Option Builder
  addShortBuffer : Builder → BitVec 16 → Bytes → Option Builder
  builderEmit : Builder → Bytes
  Parser : Type
  parserInit : Bytes → Option Parser
  fieldFirst : Parser → Option (Record × Parser)
  fieldNext : Parser → Option (Record × Parser)
  /-- The size a builder was made with, and what has been appended. -/
  capacity : Builder → ℕ
  written : Builder → Bytes
  /-- The buffer of a parser, and what lies behind its current field. -/
  buffer : Parser → Bytes
  rest : Parser → Bytes
  fieldNext_shorter : ∀ {p r p'}, fieldNext p = some (r, p') → (rest p').length < (rest p).length

/-- **A lawful library**: fields are appended as records while they fit, and
walked as records for as long as there is a complete one. -/
structure Vccert.Lawful (C : Vccert) : Prop where
  builderInit : ∀ {n}, n < 2 ^ 31 →
    ∃ b, C.builderInit n = some b ∧ C.capacity b = n ∧ C.written b = []
  addShortBuffer : ∀ {b : C.Builder} {r : Record}, r.Fits →
    (C.written b).length + r.encode.length ≤ C.capacity b →
    ∃ b', C.addShortBuffer b r.tag r.value = some b' ∧ C.capacity b' = C.capacity b ∧
      C.written b' = C.written b ++ r.encode
  builderEmit : ∀ b, C.builderEmit b = C.written b
  parserInit : ∀ bs, ∃ p, C.parserInit bs = some p ∧ C.buffer p = bs
  fieldFirst_none : ∀ {p}, Record.next (C.buffer p) = none → C.fieldFirst p = none
  fieldFirst_some : ∀ {p r rest}, Record.next (C.buffer p) = some (r, rest) →
    ∃ p', C.fieldFirst p = some (r, p') ∧ C.rest p' = rest
  fieldNext_none : ∀ {p}, Record.next (C.rest p) = none → C.fieldNext p = none
  fieldNext_some : ∀ {p r rest}, Record.next (C.rest p) = some (r, rest) →
    ∃ p', C.fieldNext p = some (r, p') ∧ C.rest p' = rest

namespace BufferCert

/-- A builder is its capacity and its buffer; a parser its buffer and what
lies behind the current field. -/
def lib : Vccert where
  Builder := ℕ × Bytes
  builderInit n := if n < 2 ^ 31 then some (n, []) else none
  addShortBuffer b f v :=
    if b.2.length + (4 + v.length) ≤ b.1 then some (b.1, b.2 ++ Record.encode ⟨f, v⟩) else none
  builderEmit := Prod.snd
  Parser := Bytes × Bytes
  parserInit bs := some (bs, bs)
  fieldFirst p := (Record.next p.1).map fun r => (r.1, (p.1, r.2))
  fieldNext p := (Record.next p.2).map fun r => (r.1, (p.1, r.2))
  capacity := Prod.fst
  written := Prod.snd
  buffer := Prod.fst
  rest := Prod.snd
  fieldNext_shorter := by
    intro p r p' h
    obtain ⟨⟨r', rest⟩, hnext, heq⟩ := Option.map_eq_some_iff.mp h
    obtain ⟨rfl, rfl⟩ := Prod.mk.inj heq
    exact Record.length_next hnext

/-- **The laws of the library can be met.** -/
theorem lib_lawful : lib.Lawful where
  builderInit := fun h => ⟨_, if_pos h, rfl, rfl⟩
  addShortBuffer := by
    intro b r _ hroom
    rw [Record.length_encode] at hroom
    exact ⟨_, if_pos hroom, rfl, rfl⟩
  builderEmit := fun _ => rfl
  parserInit := fun _ => ⟨_, rfl, rfl⟩
  fieldFirst_none := fun h => congrArg (Option.map _) h
  fieldFirst_some := fun h => ⟨_, congrArg (Option.map _) h, rfl⟩
  fieldNext_none := fun h => congrArg (Option.map _) h
  fieldNext_some := fun h => ⟨_, congrArg (Option.map _) h, rfl⟩

end BufferCert

end VjBlockchain
