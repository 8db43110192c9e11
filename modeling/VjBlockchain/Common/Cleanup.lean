import VjBlockchain.Common.Resources
/-!
# Cleanup — routines that end in a chain of labels

A routine acquires resources one after the other, and ends in a chain of
labels: each disposes of one resource and falls through to the next. A call
that fails sets an exception and jumps into the chain; a body that comes to
its end falls into it at the top.

Which calls fail is up to an environment, and everything here is about all of
them at once. `Tidy` is read off the text of a routine, and `Tidy.holds` says
of every run what it leaves behind. `ends` is what the caller sees of a run.
-/

namespace Common

/-- A routine over calls `κ` and resources `ρ`, which throws `ε` or returns `α`. -/
inductive Routine (κ ρ ε α : Type) where
  /-- The end of the body. -/
  | done (a : α)
  /-- An exception is set. A jump to the label that disposes of a resource, or
  behind all of them. -/
  | raise (e : ε) (label : Option ρ)
  /-- Memory outside a buffer is touched. -/
  | crash
  /-- A call that may fail, which is then as `raise`. -/
  | call (c : κ) (e : ε) (label : Option ρ) (next : Routine κ ρ ε α)
  /-- Likewise, with a resource that is released right behind it either way. -/
  | callReleasing (c : κ) (r : ρ) (e : ε) (label : Option ρ) (next : Routine κ ρ ε α)
  | acquire (r : ρ) (next : Routine κ ρ ε α)
  | release (r : ρ) (next : Routine κ ρ ε α)

/-- How a routine ends. -/
inductive Ending (ε α : Type) where
  | returned (a : α)
  | thrown (e : ε)
  | crashed
  deriving DecidableEq, Repr

/-- What is left behind, if `e` leaves `leaves e`. -/
def Ending.left {ε α ρ : Type} (leaves : ε → List ρ) : Ending ε α → List ρ
  | .thrown e => leaves e
  | .returned _ => []
  | .crashed => []

/-- What the caller sees of a routine that may leave through a label with its
answer. -/
def Ending.early {ε α : Type} : Ending (ε ⊕ α) α → Ending ε α
  | .returned a => .returned a
  | .thrown (.inl e) => .thrown e
  | .thrown (.inr a) => .returned a
  | .crashed => .crashed

namespace Table

variable {ρ : Type} [DecidableEq ρ]

/-- These are disposed of in order. -/
def releaseAll (t : Table ρ) (rs : List ρ) : Table ρ := rs.foldl release t

/-- Nothing is live twice. -/
theorem Balanced.nodup_live {t : Table ρ} (h : t.Balanced) : t.live.Nodup := by
  refine List.nodup_iff_count_le_one.mpr fun r => ?_
  have honce := List.nodup_iff_count_le_one.mp h.nodup r
  have hcount := h.count r
  omega

/-- What is live after a release. -/
theorem Balanced.mem_release {t : Table ρ} (h : t.Balanced) {r x : ρ} :
    x ∈ (t.release r).live ↔ x ≠ r ∧ x ∈ t.live := h.nodup_live.mem_erase_iff

/-- **Releasing what was acquired first** leaves what came after it. -/
theorem Holds.releaseAll {left rs : List ρ} : ∀ {t : Table ρ} {acquired : List ρ},
    t.Holds (left ++ rs) acquired → (t.releaseAll rs).Holds left acquired := by
  induction rs with
  | nil =>
    intro t acquired h
    rwa [List.append_nil] at h
  | cons r rs ih =>
    intro t acquired h
    have hnodup : (left ++ r :: rs).Nodup := h.live ▸ h.balanced.nodup_live
    have hr : r ∉ left := fun hmem =>
      List.disjoint_of_nodup_append hnodup hmem List.mem_cons_self
    have hreleased := h.release (List.mem_append_right left List.mem_cons_self)
    rw [List.erase_append_right _ hr, List.erase_cons_head] at hreleased
    exact ih hreleased

end Table

namespace Routine

variable {κ ρ ε α β γ : Type}

/-! ## Sequencing -/

protected def bind : Routine κ ρ ε α → (α → Routine κ ρ ε β) → Routine κ ρ ε β
  | done a, f => f a
  | raise e label, _ => raise e label
  | crash, _ => crash
  | call c e label next, f => call c e label (next.bind f)
  | callReleasing c r e label next, f => callReleasing c r e label (next.bind f)
  | acquire r next, f => acquire r (next.bind f)
  | release r next, f => release r (next.bind f)

instance : Monad (Routine κ ρ ε) where
  pure := done
  bind := Routine.bind

@[simp] theorem done_bind (a : α) (f : α → Routine κ ρ ε β) : (done a >>= f) = f a := rfl

@[simp] theorem pure_bind (a : α) (f : α → Routine κ ρ ε β) :
    ((pure a : Routine κ ρ ε α) >>= f) = f a := rfl

@[simp] theorem bind_assoc (m : Routine κ ρ ε α) (f : α → Routine κ ρ ε β)
    (g : β → Routine κ ρ ε γ) : (m >>= f >>= g) = m >>= fun a => f a >>= g := by
  induction m with
  | done a => rfl
  | raise e label => rfl
  | crash => rfl
  | call c e label next ih => exact congrArg (call c e label) ih
  | callReleasing c r e label next ih => exact congrArg (callReleasing c r e label) ih
  | acquire r next ih => exact congrArg (acquire r) ih
  | release r next ih => exact congrArg (release r) ih

@[simp] theorem bind_pure (m : Routine κ ρ ε α) : (m >>= pure) = m := by
  induction m with
  | done a => rfl
  | raise e label => rfl
  | crash => rfl
  | call c e label next ih => exact congrArg (call c e label) ih
  | callReleasing c r e label next ih => exact congrArg (callReleasing c r e label) ih
  | acquire r next ih => exact congrArg (acquire r) ih
  | release r next ih => exact congrArg (release r) ih

/-! ## Steps -/

/-- An answer that may be a refusal. -/
def require (answer : Option α) (e : ε) (label : Option ρ) : Routine κ ρ ε α :=
  match answer with
  | some a => done a
  | none => raise e label

/-- A call, and its answer. -/
def attempt (c : κ) (answer : Option α) (e : ε) (label : Option ρ) : Routine κ ρ ε α :=
  call c e label (require answer e label)

/-- A call, and its answer, with a resource that is released in between. -/
def attemptReleasing (c : κ) (r : ρ) (answer : Option α) (e : ε) (label : Option ρ) :
    Routine κ ρ ε α :=
  callReleasing c r e label (require answer e label)

/-- A call that acquires a resource. -/
def acquiring (c : κ) (r : ρ) (answer : Option α) (e : ε) (label : Option ρ) :
    Routine κ ρ ε α := do
  let a ← attempt c answer e label
  acquire r (done a)

/-- A check that throws unless its condition holds. -/
def ensure (p : Prop) [Decidable p] (e : ε) (label : Option ρ) : Routine κ ρ ε Unit :=
  if p then done () else raise e label

/-- Memory that is read or written. -/
def access (x : Option α) : Routine κ ρ ε α :=
  match x with
  | some a => done a
  | none => crash

/-- A resource disposed of within the body. -/
def dispose (r : ρ) : Routine κ ρ ε Unit := release r (done ())

/-! ## Runs -/

section Run

variable [DecidableEq ρ]

/-- What is disposed of from a label on. -/
def fallFrom (labels : List ρ) : Option ρ → List ρ
  | some r => labels.dropWhile (· ≠ r)
  | none => []

/-- A run in an environment. -/
def run (labels : List ρ) (fails : κ → Bool) : Routine κ ρ ε α → Table ρ → Ending ε α × Table ρ
  | done a, t => (.returned a, t.releaseAll labels)
  | raise e label, t => (.thrown e, t.releaseAll (fallFrom labels label))
  | crash, t => (.crashed, t)
  | call c e label next, t =>
    if fails c then (.thrown e, t.releaseAll (fallFrom labels label)) else next.run labels fails t
  | callReleasing c r e label next, t =>
    if fails c then (.thrown e, (t.release r).releaseAll (fallFrom labels label))
    else next.run labels fails (t.release r)
  | acquire r next, t => next.run labels fails (t.acquire r)
  | release r next, t => next.run labels fails (t.release r)

end Run

/-- What the caller sees of a run. -/
def ends (fails : κ → Bool) : Routine κ ρ ε α → Ending ε α
  | done a => .returned a
  | raise e _ => .thrown e
  | crash => .crashed
  | call c e _ next => if fails c then .thrown e else next.ends fails
  | callReleasing c _ e _ next => if fails c then .thrown e else next.ends fails
  | acquire _ next => next.ends fails
  | release _ next => next.ends fails

/-- The caller sees nothing of the resources. -/
theorem run_fst [DecidableEq ρ] (labels : List ρ) (fails : κ → Bool) (m : Routine κ ρ ε α)
    (t : Table ρ) : (m.run labels fails t).1 = m.ends fails := by
  induction m generalizing t with
  | done a => rfl
  | raise e label => rfl
  | crash => rfl
  | call c e label next ih =>
    rw [run, ends]
    split
    · rfl
    · exact ih t
  | callReleasing c r e label next ih =>
    rw [run, ends]
    split
    · rfl
    · exact ih _
  | acquire r next ih => exact ih _
  | release r next ih => exact ih _

/-- Each call of a routine throws what it may. -/
def Throws (may : κ → ε → Prop) : Routine κ ρ ε α → Prop
  | done _ => True
  | raise _ _ => True
  | crash => True
  | call c e _ next => may c e ∧ next.Throws may
  | callReleasing c _ e _ next => may c e ∧ next.Throws may
  | acquire _ next => next.Throws may
  | release _ next => next.Throws may

/-- A run that a failing call has ended, by what that call may throw. -/
theorem Throws.ends_eq_or {may : κ → ε → Prop} (fails : κ → Bool) {m : Routine κ ρ ε α}
    (h : m.Throws may) :
    m.ends fails = m.ends (fun _ => false) ∨
      ∃ c e, fails c = true ∧ may c e ∧ m.ends fails = .thrown e := by
  induction m with
  | done a => exact .inl rfl
  | raise e label => exact .inl rfl
  | crash => exact .inl rfl
  | call c e label next ih =>
    obtain ⟨hmay, hnext⟩ := h
    by_cases hc : fails c = true
    · exact .inr ⟨c, e, hc, hmay, if_pos hc⟩
    · have hmade : (call c e label next).ends fails = next.ends fails := if_neg hc
      rw [hmade]
      exact ih hnext
  | callReleasing c r e label next ih =>
    obtain ⟨hmay, hnext⟩ := h
    by_cases hc : fails c = true
    · exact .inr ⟨c, e, hc, hmay, if_pos hc⟩
    · have hmade : (callReleasing c r e label next).ends fails = next.ends fails := if_neg hc
      rw [hmade]
      exact ih hnext
  | acquire r next ih => exact ih h
  | release r next ih => exact ih h

theorem throws_any (m : Routine κ ρ ε α) : m.Throws fun _ _ => True := by
  induction m with
  | done a => exact trivial
  | raise e label => exact trivial
  | crash => exact trivial
  | call c e label next ih => exact ⟨trivial, ih⟩
  | callReleasing c r e label next ih => exact ⟨trivial, ih⟩
  | acquire r next ih => exact ih
  | release r next ih => exact ih

/-- **A failing call ends in an exception, or was not made**: a run ends as it
does when no call fails, or throws. -/
theorem ends_eq_or (fails : κ → Bool) (m : Routine κ ρ ε α) :
    m.ends fails = m.ends (fun _ => false) ∨
      (∃ c, fails c = true) ∧ ∃ e, m.ends fails = .thrown e := by
  rcases m.throws_any.ends_eq_or fails with hplain | ⟨c, e, hc, -, hthrown⟩
  · exact .inl hplain
  · exact .inr ⟨⟨c, hc⟩, e, hthrown⟩

/-! ## The discipline -/

section Tidy

variable [DecidableEq ρ] (labels : List ρ) (leaves : ε → List ρ)

/-- **The discipline of a routine** that holds some of what it has acquired.
Each resource is acquired once and released while it is held; the end of the
body releases all that is held, and an exit that throws `e` all but the
`leaves e`. -/
def Tidy : List ρ → List ρ → Routine κ ρ ε α → Prop
  | held, _, done _ => held = labels
  | held, _, raise e label => held = leaves e ++ fallFrom labels label
  | _, _, crash => True
  | held, acquired, call _ e label next =>
    held = leaves e ++ fallFrom labels label ∧ next.Tidy held acquired
  | held, acquired, callReleasing _ r e label next =>
    r ∈ held ∧ held.erase r = leaves e ++ fallFrom labels label ∧
      next.Tidy (held.erase r) acquired
  | held, acquired, acquire r next => r ∉ acquired ∧ next.Tidy (r :: held) (r :: acquired)
  | held, acquired, release r next => r ∈ held ∧ next.Tidy (held.erase r) acquired

variable {labels leaves} {held acquired : List ρ}

/-- **Every run of a tidy routine** that does not crash leaves what its exception
leaves, and nothing if it returns. -/
theorem Tidy.holds {m : Routine κ ρ ε α} (h : m.Tidy labels leaves held acquired)
    (fails : κ → Bool) {t : Table ρ} (ht : t.Holds held acquired)
    (hcrash : m.ends fails ≠ .crashed) :
    ∃ acquired', (m.run labels fails t).2.Holds ((m.ends fails).left leaves) acquired' := by
  induction m generalizing held acquired t with
  | done a =>
    obtain rfl : held = labels := h
    exact ⟨acquired, ht.releaseAll⟩
  | raise e label =>
    obtain rfl : held = leaves e ++ fallFrom labels label := h
    exact ⟨acquired, ht.releaseAll⟩
  | crash => exact absurd rfl hcrash
  | call c e label next ih =>
    obtain ⟨rfl, hnext⟩ := h
    rw [ends] at hcrash
    rw [run, ends]
    split
    · exact ⟨acquired, ht.releaseAll⟩
    · rename_i hc
      rw [if_neg hc] at hcrash
      exact ih hnext ht hcrash
  | callReleasing c r e label next ih =>
    obtain ⟨hr, hexit, hnext⟩ := h
    have hreleased := ht.release hr
    rw [ends] at hcrash
    rw [run, ends]
    split
    · rw [hexit] at hreleased
      exact ⟨acquired, hreleased.releaseAll⟩
    · rename_i hc
      rw [if_neg hc] at hcrash
      exact ih hnext hreleased hcrash
  | acquire r next ih => exact ih h.2 (ht.acquire h.1) hcrash
  | release r next ih => exact ih h.2 (ht.release h.1) hcrash

/-! ### Step by step -/

variable {f : α → Routine κ ρ ε β} {e : ε} {label : Option ρ}

@[simp] theorem tidy_pure {a : α} :
    (pure a : Routine κ ρ ε α).Tidy labels leaves held acquired ↔ held = labels := Iff.rfl

/-- After an answer. -/
theorem tidy_require_bind {answer : Option α}
    (hexit : held = leaves e ++ fallFrom labels label)
    (hf : ∀ a, (f a).Tidy labels leaves held acquired) :
    (require answer e label >>= f).Tidy labels leaves held acquired := by
  cases answer with
  | none => exact hexit
  | some a => exact hf a

/-- After a call. -/
theorem tidy_attempt_bind {c : κ} {answer : Option α}
    (hexit : held = leaves e ++ fallFrom labels label)
    (hf : ∀ a, (f a).Tidy labels leaves held acquired) :
    (attempt c answer e label >>= f).Tidy labels leaves held acquired :=
  ⟨hexit, tidy_require_bind hexit hf⟩

/-- After a call, and the release behind it. -/
theorem tidy_attemptReleasing_bind {c : κ} {r : ρ} {answer : Option α} (hr : r ∈ held)
    (hexit : held.erase r = leaves e ++ fallFrom labels label)
    (hf : ∀ a, (f a).Tidy labels leaves (held.erase r) acquired) :
    (attemptReleasing c r answer e label >>= f).Tidy labels leaves held acquired :=
  ⟨hr, hexit, tidy_require_bind hexit hf⟩

/-- After a resource is acquired. -/
theorem tidy_acquiring_bind {c : κ} {r : ρ} {answer : Option α}
    (hexit : held = leaves e ++ fallFrom labels label) (hr : r ∉ acquired)
    (hf : ∀ a, (f a).Tidy labels leaves (r :: held) (r :: acquired)) :
    (acquiring c r answer e label >>= f).Tidy labels leaves held acquired := by
  rw [acquiring, bind_assoc]
  exact tidy_attempt_bind hexit fun a => ⟨hr, hf a⟩

/-- After a check. -/
theorem tidy_ensure_bind {p : Prop} [Decidable p] {f : Unit → Routine κ ρ ε β}
    (hexit : held = leaves e ++ fallFrom labels label)
    (hf : (f ()).Tidy labels leaves held acquired) :
    (ensure p e label >>= f).Tidy labels leaves held acquired := by
  unfold ensure
  split
  · exact hf
  · exact hexit

/-- After memory was read or written. -/
theorem tidy_access_bind {x : Option α} (hf : ∀ a, (f a).Tidy labels leaves held acquired) :
    (access x >>= f).Tidy labels leaves held acquired := by
  cases x with
  | none => exact trivial
  | some a => exact hf a

/-- After a resource is disposed of. -/
theorem tidy_dispose_bind {r : ρ} {f : Unit → Routine κ ρ ε β} (hr : r ∈ held)
    (hf : (f ()).Tidy labels leaves (held.erase r) acquired) :
    (dispose r >>= f).Tidy labels leaves held acquired := ⟨hr, hf⟩

end Tidy

end Routine

end Common
