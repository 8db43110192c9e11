import VjBlockchain.Common.Bytes
/-!
# Fixed-size buffers — writes that stay inside

A buffer is allocated at its final size and filled piece by piece, each
piece at an explicit offset. `write` refuses a piece that would run past the
end, so a caller that reaches its result has stayed in bounds. The lemmas
here follow the order of filling: a piece that lands on the zeros left of
the allocation extends the written part, and a piece that lands on a hole
of its own size replaces it.
-/

namespace Common

namespace Buffer

open Bytes

/-- `buf` with `d` written at offset `o`, if it fits. -/
def write (buf : Bytes) (o : ℕ) (d : Bytes) : Option Bytes :=
  if o + d.length ≤ buf.length then some (buf.take o ++ (d ++ buf.drop (o + d.length))) else none

/-- A write moves nothing. -/
theorem length_write {buf d out : Bytes} {o : ℕ} (h : write buf o d = some out) :
    out.length = buf.length := by
  obtain ⟨hfit, hout⟩ := Option.ite_none_right_eq_some.mp h
  rw [← Option.some.inj hout, List.length_append, List.length_append, List.length_take,
    List.length_drop]
  omega

/-- `n` octets of `buf` from offset `o`, if it has them. -/
def read (buf : Bytes) (o n : ℕ) : Option Bytes :=
  if o + n ≤ buf.length then some (slice buf o (o + n)) else none

theorem read_eq {buf : Bytes} {o n : ℕ} (h : o + n ≤ buf.length) :
    read buf o n = some (slice buf o (o + n)) := if_pos h

theorem read_none {buf : Bytes} {o n : ℕ} (h : buf.length < o + n) : read buf o n = none :=
  if_neg (by omega)

theorem length_of_read {buf d : Bytes} {o n : ℕ} (h : read buf o n = some d) : d.length = n := by
  obtain ⟨hfit, hd⟩ := Option.ite_none_right_eq_some.mp h
  rw [← Option.some.inj hd, length_slice]
  omega

/-- A read inside the buffer succeeds. -/
theorem exists_read {buf : Bytes} {o n : ℕ} (h : o + n ≤ buf.length) :
    ∃ d, read buf o n = some d ∧ d.length = n :=
  ⟨_, read_eq h, length_of_read (read_eq h)⟩

/-- So does a write. -/
theorem exists_write {buf d : Bytes} {o : ℕ} (h : o + d.length ≤ buf.length) :
    ∃ out, write buf o d = some out ∧ out.length = buf.length :=
  ⟨_, if_pos h, length_write (if_pos h)⟩

/-- A read that covers exactly the middle of three parts. -/
theorem read_mid {pre mid post : Bytes} {o n : ℕ} (ho : pre.length = o) (hn : mid.length = n) :
    read (pre ++ (mid ++ post)) o n = some mid := by
  subst ho hn
  rw [read_eq (by simp only [List.length_append]; omega), slice_mid rfl rfl]

/-- A read of exactly the first part. -/
theorem read_left {pre post : Bytes} {n : ℕ} (hn : pre.length = n) :
    read (pre ++ post) 0 n = some pre :=
  @read_mid [] pre post 0 n rfl hn

/-- A read of exactly the last part. -/
theorem read_right {pre post : Bytes} {o n : ℕ} (ho : pre.length = o) (hn : post.length = n) :
    read (pre ++ post) o n = some post := by
  simpa using @read_mid pre post [] o n ho hn

/-- A read of the whole buffer. -/
theorem read_all {buf : Bytes} {n : ℕ} (h : buf.length = n) : read buf 0 n = some buf := by
  rw [read_eq (by omega), slice_self _ _ (by omega)]

/-- A write over a hole of its own size fills the hole and moves nothing. -/
theorem write_hole {pre hole post d : Bytes} {o : ℕ} (ho : pre.length = o)
    (hd : hole.length = d.length) :
    write (pre ++ (hole ++ post)) o d = some (pre ++ (d ++ post)) := by
  subst ho
  have hfit : pre.length + d.length ≤ (pre ++ (hole ++ post)).length := by
    simp only [List.length_append]
    omega
  rw [write, if_pos hfit, List.take_left, ← List.drop_drop, List.drop_left, ← hd, List.drop_left]

/-- **The next piece.** Written right after what is there already, a piece
takes its place at the front of the remaining zeros. -/
theorem write_zeros {pre d : Bytes} {o n : ℕ} (ho : pre.length = o) (hd : d.length ≤ n) :
    write (pre ++ zeros n) o d = some (pre ++ d ++ zeros (n - d.length)) := by
  have hsplit : zeros n = zeros d.length ++ zeros (n - d.length) := by
    rw [← zeros_add]
    congr 1
    omega
  rw [hsplit, write_hole ho (length_zeros _), List.append_assoc]

/-- The first piece into a fresh buffer. -/
theorem write_fresh {d : Bytes} {n : ℕ} (hd : d.length ≤ n) :
    write (zeros n) 0 d = some (d ++ zeros (n - d.length)) :=
  by simpa using write_zeros (List.length_nil (α := UInt8)) hd

/-- What lies in front of a write stays. -/
theorem take_write {buf d out : Bytes} {o n : ℕ} (h : write buf o d = some out) (hn : n ≤ o) :
    out.take n = buf.take n := by
  obtain ⟨hfit, hout⟩ := Option.ite_none_right_eq_some.mp h
  have hlen : n ≤ (buf.take o).length := by
    rw [List.length_take]
    omega
  rw [← Option.some.inj hout, List.take_append_of_le_length hlen, List.take_take, min_eq_left hn]

/-- What is written first comes first. -/
theorem take_write_zero {buf d out : Bytes} (h : write buf 0 d = some out) :
    out.take d.length = d := by
  obtain ⟨-, hout⟩ := Option.ite_none_right_eq_some.mp h
  rw [← Option.some.inj hout, List.take_zero, List.nil_append, List.take_left]

/-- The last piece, when it takes all that is left. -/
theorem write_last {pre d : Bytes} {o n : ℕ} (ho : pre.length = o) (hd : d.length = n) :
    write (pre ++ zeros n) o d = some (pre ++ d) := by
  rw [write_zeros ho hd.le, hd, Nat.sub_self, zeros_zero, List.append_nil]

end Buffer

end Common
