import VjBlockchain.Common.Bytes
/-!
# Walks — items at the front of a string

A format writes an item as octets, and takes the item at the front of a
string off, when one is written there. `walk` takes items off for as long as
there is one, and returns them with what it could not take. A string is what
its walk would write, and its leftover.
-/

namespace Common

open Bytes

/-- **A format of items**: taking an item off undoes writing it, whatever
follows, and nothing else is taken off. -/
structure ItemFormat (α : Type) where
  Valid : α → Prop
  write : α → Bytes
  next : Bytes → Option (α × Bytes)
  write_ne_nil : ∀ {a}, Valid a → write a ≠ []
  next_eq_some_iff : ∀ {bs rest a}, next bs = some (a, rest) ↔ Valid a ∧ bs = write a ++ rest

namespace ItemFormat

variable {α : Type} (F : ItemFormat α)

/-- Items written one after the other. -/
def writeAll (as : List α) : Bytes := (as.map F.write).flatten

/-- At most `n` items from the front, and the rest. -/
def walkFrom : ℕ → Bytes → List α × Bytes
  | 0, bs => ([], bs)
  | n + 1, bs =>
    match F.next bs with
    | none => ([], bs)
    | some (a, rest) => (a :: (walkFrom n rest).1, (walkFrom n rest).2)

/-- All items from the front, and the rest. -/
def walk (bs : Bytes) : List α × Bytes := F.walkFrom bs.length bs

variable {F}

@[simp] theorem writeAll_nil : F.writeAll [] = [] := rfl

@[simp] theorem writeAll_cons (a : α) (as : List α) :
    F.writeAll (a :: as) = F.write a ++ F.writeAll as := rfl

/-! ## One item -/

theorem next_write {a : α} (ha : F.Valid a) (rest : Bytes) :
    F.next (F.write a ++ rest) = some (a, rest) :=
  F.next_eq_some_iff.mpr ⟨ha, rfl⟩

theorem length_next {bs rest : Bytes} {a : α} (h : F.next bs = some (a, rest)) :
    rest.length < bs.length := by
  obtain ⟨ha, rfl⟩ := F.next_eq_some_iff.mp h
  have := List.length_pos_iff.mpr (F.write_ne_nil ha)
  rw [List.length_append]
  omega

theorem next_nil : F.next [] = none := by
  cases h : F.next [] with
  | none => rfl
  | some p => exact absurd (length_next h) (Nat.not_lt_zero _)

/-! ## All items -/

/-- Every octet is an item at most. -/
theorem walkFrom_eq {n : ℕ} {bs : Bytes} (h : bs.length ≤ n) : F.walkFrom n bs = F.walk bs := by
  suffices hall : ∀ {m n : ℕ} {bs : Bytes}, bs.length ≤ m → bs.length ≤ n →
      F.walkFrom m bs = F.walkFrom n bs from hall h le_rfl
  intro m
  induction m with
  | zero =>
    intro n bs hm _
    obtain rfl := List.length_eq_zero_iff.mp (Nat.le_zero.mp hm)
    cases n with
    | zero => rfl
    | succ n => rw [walkFrom, walkFrom, next_nil]
  | succ m ih =>
    intro n bs hm hn
    cases hnext : F.next bs with
    | none => cases n <;> simp [walkFrom, hnext]
    | some p =>
      obtain ⟨a, rest⟩ := p
      have hlt := length_next hnext
      obtain ⟨n, rfl⟩ : ∃ k, n = k + 1 := ⟨n - 1, by omega⟩
      have hrest : F.walkFrom m rest = F.walkFrom n rest := ih (by omega) (by omega)
      simp only [walkFrom, hnext, hrest]

theorem walk_none {bs : Bytes} (h : F.next bs = none) : F.walk bs = ([], bs) := by
  rw [walk]
  cases bs.length <;> simp [walkFrom, h]

theorem walk_some {bs rest : Bytes} {a : α} (h : F.next bs = some (a, rest)) :
    F.walk bs = (a :: (F.walk rest).1, (F.walk rest).2) := by
  have hlt := length_next h
  obtain ⟨n, hn⟩ : ∃ n, bs.length = n + 1 := ⟨bs.length - 1, by omega⟩
  have hrest : F.walkFrom n rest = F.walk rest := walkFrom_eq (by omega)
  rw [walk, hn]
  simp only [walkFrom, h, hrest]

/-- **Induction along a walk.** -/
theorem walk_induction {P : Bytes → Prop} (stop : ∀ bs, F.next bs = none → P bs)
    (step : ∀ bs a rest, F.next bs = some (a, rest) → P rest → P bs) (bs : Bytes) : P bs := by
  induction hk : bs.length using Nat.strong_induction_on generalizing bs with
  | h k ih =>
    cases hnext : F.next bs with
    | none => exact stop bs hnext
    | some p =>
      obtain ⟨a, rest⟩ := p
      have hlt : rest.length < k := hk ▸ length_next hnext
      exact step bs a rest hnext (ih rest.length hlt rest rfl)

/-- **A string is its walk and its leftover.** -/
theorem writeAll_walk (bs : Bytes) : F.writeAll (F.walk bs).1 ++ (F.walk bs).2 = bs := by
  induction bs using walk_induction (F := F) with
  | stop bs h => rw [walk_none h, writeAll_nil, List.nil_append]
  | step bs a rest h ih =>
    rw [walk_some h, writeAll_cons, List.append_assoc, ih, (F.next_eq_some_iff.mp h).2]

/-- Nothing can be taken off a leftover. -/
theorem next_leftover (bs : Bytes) : F.next (F.walk bs).2 = none := by
  induction bs using walk_induction (F := F) with
  | stop bs h => rwa [walk_none h]
  | step bs a rest h ih => rwa [walk_some h]

theorem length_leftover_le (bs : Bytes) : (F.walk bs).2.length ≤ bs.length := by
  have hsplit := congrArg List.length (F.writeAll_walk bs)
  rw [List.length_append] at hsplit
  omega

/-- **What is written is walked.** -/
theorem walk_writeAll {as : List α} (has : ∀ a ∈ as, F.Valid a) :
    F.walk (F.writeAll as) = (as, []) := by
  induction as with
  | nil => exact walk_none next_nil
  | cons a as ih =>
    obtain ⟨ha, has⟩ := List.forall_mem_cons.mp has
    rw [writeAll_cons, walk_some (next_write ha _), ih has]

end ItemFormat

end Common
