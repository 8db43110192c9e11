import VjBlockchain.Common.Bytes
/-!
# Sources — streams read in pieces

A source holds the octets not yet read and a plan of how much each coming
read returns. The plan is arbitrary; a read clamps it to what the contract of
an input stream allows: at least one octet, at most what was asked for, and
the end of the stream only when nothing is left. Quantifying over plans is
quantifying over every way the stream may be split.

A program that turns a stream into another is one loop over the reads. What it
writes does not depend on the plan, if what it makes of two pieces in turn is
what it makes of them together.
-/

namespace Common

/-- A stream of octets with a plan of how it is split. -/
structure Source where
  remaining : Bytes
  plan : ℕ → ℕ

namespace Source

/-- How many octets the next read for `n` returns. -/
def pieceSize (s : Source) (n : ℕ) : ℕ := min (max 1 (s.plan 0)) (min n s.remaining.length)

/-- One read for up to `n` octets; `none` at the end of the stream. -/
def read (s : Source) (n : ℕ) : Option (Bytes × Source) :=
  if s.remaining = [] then none
  else some (s.remaining.take (s.pieceSize n),
    ⟨s.remaining.drop (s.pieceSize n), fun i => s.plan (i + 1)⟩)

theorem read_eq_none_iff {s : Source} {n : ℕ} : s.read n = none ↔ s.remaining = [] := by
  rw [read]
  split <;> simp_all

/-- **What a read returns** comes off the front of the stream, is not empty,
and is no longer than asked for. -/
theorem read_eq_some {s s' : Source} {n : ℕ} {piece : Bytes} (hn : 0 < n)
    (h : s.read n = some (piece, s')) :
    s.remaining = piece ++ s'.remaining ∧ 0 < piece.length ∧ piece.length ≤ n := by
  rw [read] at h
  split at h
  · cases h
  · rename_i hne
    obtain ⟨rfl, rfl⟩ := Prod.mk.inj (Option.some.inj h)
    have hpos := List.length_pos_iff.mpr hne
    refine ⟨(List.take_append_drop ..).symm, ?_, ?_⟩ <;>
    · rw [List.length_take, pieceSize]
      omega

theorem length_read {s s' : Source} {n : ℕ} {piece : Bytes} (hn : 0 < n)
    (h : s.read n = some (piece, s')) : s'.remaining.length < s.remaining.length := by
  obtain ⟨hsplit, hpos, -⟩ := read_eq_some hn h
  rw [hsplit, List.length_append]
  omega

/-- **Induction over the reads of a stream.** -/
theorem read_induction {n : ℕ} (hn : 0 < n) {P : Source → Prop}
    (done : ∀ s, s.read n = none → P s)
    (more : ∀ s piece s', s.read n = some (piece, s') → P s' → P s) (s : Source) : P s := by
  induction hk : s.remaining.length using Nat.strong_induction_on generalizing s with
  | h k ih =>
    cases hread : s.read n with
    | none => exact done s hread
    | some r =>
      obtain ⟨piece, s'⟩ := r
      exact more s piece s' hread (ih _ (by rw [← hk]; exact length_read hn hread) s' rfl)

/-! ## The loop over the reads -/

section Transcribe

variable {ε : Type} {n : ℕ}

/-- **A stream is transcribed**: it is read to its end in pieces of up to `n`
octets, and what `turn` makes of a piece, at the offset reached, is written
behind what was written before. A turn that throws ends the loop, with its
piece taken and nothing written. -/
def transcribe (turn : Bytes → ℕ → Except ε Bytes) (hn : 0 < n) (source : Source)
    (destination : Bytes) (offset : ℕ) : EStateM.Result ε (Source × Bytes) Unit :=
  match _h : source.read n with
  | none => .ok () (source, destination)
  | some (piece, source') =>
    match turn piece offset with
    | .error e => .error e (source', destination)
    | .ok written => transcribe turn hn source' (destination ++ written) (offset + piece.length)
  termination_by source.remaining.length
  decreasing_by exact length_read hn _h

variable {turn : Bytes → ℕ → Except ε Bytes} {hn : 0 < n}

theorem transcribe_done {source : Source} (hread : source.read n = none) (destination : Bytes)
    (offset : ℕ) :
    transcribe turn hn source destination offset = .ok () (source, destination) := by
  rw [transcribe]
  split
  · rfl
  · rename_i h
    cases hread.symm.trans h

theorem transcribe_more {source source' : Source} {piece written : Bytes} {offset : ℕ}
    (hread : source.read n = some (piece, source')) (hturn : turn piece offset = .ok written)
    (destination : Bytes) :
    transcribe turn hn source destination offset =
      transcribe turn hn source' (destination ++ written) (offset + piece.length) := by
  rw [transcribe]
  split
  · rename_i h
    cases hread.symm.trans h
  · rename_i h
    obtain ⟨rfl, rfl⟩ := Prod.mk.inj (Option.some.inj (hread.symm.trans h))
    rw [hturn]

/-- **Pieces add up.** Where a turn writes `out` of a piece, no longer than
asked for, and `out` of two pieces is `out` of them together, the loop writes
`out` of the stream, whatever the plan. -/
theorem transcribe_eq {out : ℕ → Bytes → Bytes} (start : ℕ)
    (hturn : ∀ piece offset, start ≤ offset → piece.length ≤ n →
      turn piece offset = .ok (out offset piece))
    (hnil : ∀ offset, out offset [] = [])
    (happend : ∀ offset as bs, out offset (as ++ bs) = out offset as ++ out (offset + as.length) bs)
    (source : Source) : ∀ (destination : Bytes) {offset : ℕ}, start ≤ offset →
      ∃ source', source'.remaining = [] ∧ transcribe turn hn source destination offset =
        .ok () (source', destination ++ out offset source.remaining) := by
  induction source using read_induction hn with
  | done s hread =>
    intro destination offset _
    have hend := read_eq_none_iff.mp hread
    refine ⟨s, hend, ?_⟩
    rw [transcribe_done hread, hend, hnil, List.append_nil]
  | more s piece s' hread ih =>
    intro destination offset hstart
    obtain ⟨hsplit, -, hpiece⟩ := read_eq_some hn hread
    obtain ⟨source', hend, hloop⟩ :=
      ih (destination ++ out offset piece) (hstart.trans (Nat.le_add_right offset piece.length))
    refine ⟨source', hend, ?_⟩
    rw [transcribe_more hread (hturn piece offset hstart hpiece), hloop, hsplit, happend,
      List.append_assoc]

end Transcribe

end Source

end Common
