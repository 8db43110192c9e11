import Mathlib.Data.List.Nodup
/-!
# Resources — what is acquired and what is released

A table has the resources that are live and, beside them, all that were
acquired and all that were released. A program may release what is not live;
that takes nothing off the table but is kept in mind. `Balanced` says that
this has not happened and that nothing was acquired twice, so that every
resource acquired is live or was released once.
-/

namespace Common

/-- A table of live resources, and what was done to it. -/
structure Table (ρ : Type) where
  live : List ρ
  acquired : List ρ
  released : List ρ
  deriving Repr

namespace Table

variable {ρ : Type} [DecidableEq ρ]

def empty : Table ρ := ⟨[], [], []⟩

def acquire (t : Table ρ) (r : ρ) : Table ρ := ⟨r :: t.live, r :: t.acquired, t.released⟩

def release (t : Table ρ) (r : ρ) : Table ρ := ⟨t.live.erase r, t.acquired, r :: t.released⟩

/-- **Everything acquired was released exactly once**, and nothing is live. -/
structure Settled (t : Table ρ) : Prop where
  live : t.live = []
  released : ∀ r ∈ t.acquired, t.released.count r = 1

/-- Nothing was acquired twice; what was acquired was released or is live. -/
structure Balanced (t : Table ρ) : Prop where
  nodup : t.acquired.Nodup
  count : ∀ r, t.acquired.count r = t.released.count r + t.live.count r

variable {t : Table ρ}

/-- **A balanced table is settled when it is empty.** -/
theorem Balanced.settled_iff (h : t.Balanced) : t.Settled ↔ t.live = [] := by
  constructor
  · exact Settled.live
  · intro hlive
    refine ⟨hlive, fun r hr => ?_⟩
    have hcount := h.count r
    have honce := List.count_eq_one_of_mem h.nodup hr
    rw [hlive, List.count_nil] at hcount
    omega

/-- A balanced table with these live, after these were acquired. -/
structure Holds (t : Table ρ) (live acquired : List ρ) : Prop where
  live : t.live = live
  acquired : t.acquired = acquired
  balanced : t.Balanced

namespace Holds

variable {live acquired : List ρ} {r : ρ}

theorem empty : (empty : Table ρ).Holds [] [] := ⟨rfl, rfl, List.nodup_nil, fun _ => rfl⟩

/-- Acquiring what is new. -/
theorem acquire (h : t.Holds live acquired) (hr : r ∉ acquired) :
    (t.acquire r).Holds (r :: live) (r :: acquired) := by
  obtain ⟨rfl, rfl, hnodup, hcount⟩ := h
  refine ⟨rfl, rfl, List.nodup_cons.mpr ⟨hr, hnodup⟩, fun x => ?_⟩
  have hx := hcount x
  simp only [Table.acquire, List.count_cons]
  omega

/-- Releasing what is live. -/
theorem release (h : t.Holds live acquired) (hr : r ∈ live) :
    (t.release r).Holds (live.erase r) acquired := by
  obtain ⟨rfl, rfl, hnodup, hcount⟩ := h
  refine ⟨rfl, rfl, hnodup, fun x => ?_⟩
  have hx := hcount x
  have hpos := List.count_pos_iff.mpr hr
  simp only [Table.release, List.count_cons, List.count_erase]
  by_cases hxr : r = x
  · subst hxr
    simp
    omega
  · simpa [hxr] using hx

/-- Releasing what was acquired last. -/
theorem release_last (h : t.Holds (r :: live) acquired) : (t.release r).Holds live acquired := by
  simpa using h.release (List.mem_cons_self ..)

end Holds

end Table

end Common
