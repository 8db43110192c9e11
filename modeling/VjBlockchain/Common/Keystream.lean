import VjBlockchain.Common.Bytes
/-!
# Keystreams — masking by position

A stream cipher masks the octet at position `j` with the `j`-th octet of a
keystream. `xorAt ks p d` masks `d` as the stretch of a stream that starts at
position `p`. Cutting `d` in two and masking the second piece at the advanced
position gives the same octets, and masking twice gives `d` back; nothing
else about a cipher is used by its callers.
-/

namespace Common

/-- `d` masked with the keystream from position `p` on. -/
def xorAt (ks : ℕ → UInt8) : ℕ → Bytes → Bytes
  | _, [] => []
  | p, b :: bs => (b ^^^ ks p) :: xorAt ks (p + 1) bs

@[simp] theorem xorAt_nil (ks : ℕ → UInt8) (p : ℕ) : xorAt ks p [] = [] := rfl

@[simp] theorem length_xorAt (ks : ℕ → UInt8) (p : ℕ) (d : Bytes) :
    (xorAt ks p d).length = d.length := by
  induction d generalizing p with
  | nil => rfl
  | cons b bs ih => simp [xorAt, ih]

/-- **Positions compose.** A stream masked in two stretches is the stream
masked at once, provided the second stretch starts where the first ended. -/
theorem xorAt_append (ks : ℕ → UInt8) (p : ℕ) (as bs : Bytes) :
    xorAt ks p (as ++ bs) = xorAt ks p as ++ xorAt ks (p + as.length) bs := by
  induction as generalizing p with
  | nil => simp
  | cons a as ih => simp [xorAt, ih, Nat.add_assoc, Nat.add_comm 1]

/-- **Masking twice at one position unmasks.** -/
@[simp] theorem xorAt_xorAt (ks : ℕ → UInt8) (p : ℕ) (d : Bytes) :
    xorAt ks p (xorAt ks p d) = d := by
  induction d generalizing p with
  | nil => rfl
  | cons b bs ih => rw [xorAt, xorAt, ih, UInt8.xor_assoc, UInt8.xor_self, UInt8.xor_zero]

/-- A masked text determines the text: both sides of an equation may be
unmasked at once. -/
theorem xorAt_eq_iff {ks : ℕ → UInt8} {p : ℕ} {c d : Bytes} :
    xorAt ks p c = d ↔ c = xorAt ks p d := by
  constructor <;> rintro rfl <;> simp

/-- Two streams mask a text alike if and only if they agree where it stands. -/
theorem xorAt_congr_iff {ks ks' : ℕ → UInt8} {p : ℕ} {d : Bytes} :
    xorAt ks p d = xorAt ks' p d ↔ ∀ n < d.length, ks (p + n) = ks' (p + n) := by
  induction d generalizing p with
  | nil => simp
  | cons b bs ih =>
    rw [xorAt, xorAt, List.cons_eq_cons, UInt8.xor_right_inj, ih]
    constructor
    · rintro ⟨hhead, htail⟩ n hn
      cases n with
      | zero => exact hhead
      | succ n =>
        have := htail n (Nat.lt_of_succ_lt_succ hn)
        rwa [Nat.add_assoc, Nat.add_comm 1 n] at this
    · intro h
      refine ⟨h 0 (Nat.zero_lt_succ _), fun n hn => ?_⟩
      rw [Nat.add_assoc, Nat.add_comm 1 n]
      exact h (n + 1) (Nat.succ_lt_succ hn)

end Common
