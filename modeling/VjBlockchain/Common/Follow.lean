import Mathlib.Data.List.Nodup
/-!
# Following a list that grows

A list without repetitions can be walked by asking, again and again, what comes
behind the element reached last. Whoever walks it that way needs to remember
that element only, and the list may have grown between two questions.
-/

namespace Common

variable {α : Type} [DecidableEq α]

/-- The element behind the first `a` of a list. -/
def after (a : α) : List α → Option α
  | x :: y :: rest => if x = a then some y else after a (y :: rest)
  | _ => none

/-- **What comes behind the `n`-th element** is the next one, if any. -/
theorem after_eq {l : List α} (hl : l.Nodup) {n : ℕ} {a : α} (h : l[n]? = some a) :
    after a l = l[n + 1]? := by
  induction l generalizing n with
  | nil => cases h
  | cons x rest ih =>
    obtain ⟨hx, hrest⟩ := List.nodup_cons.mp hl
    cases n with
    | zero =>
      obtain rfl := Option.some.inj h
      cases rest with
      | nil => rfl
      | cons y rest => exact if_pos rfl
    | succ n =>
      have hmem : a ∈ rest := List.mem_of_getElem? h
      cases rest with
      | nil => cases h
      | cons y rest =>
        have hne : x ≠ a := fun hxa => hx (hxa ▸ hmem)
        exact (if_neg hne).trans (ih hrest h)

end Common
