import VjBlockchain.Common.Effect
/-!
# Contracts — what a method needs and what it leaves

An invariant says that a method changes nothing of interest. Where a method
makes progress, its contract says how far: from a state with the precondition
it ends with a value and a state, or with a fault and a state, of which its
two postconditions hold. Contracts compose along binds; an invariant is the
contract that leaves what it needs.
-/

namespace Common

namespace Effect

variable {ε σ α β : Type}

/-- From a state with `I` the method returns as `Q` says or throws as `E`
says. -/
structure Contract (I : σ → Prop) (Q : α → σ → Prop) (E : ε → σ → Prop) (x : EStateM ε σ α) :
    Prop where
  ok : ∀ {s a s'}, I s → x s = .ok a s' → Q a s'
  error : ∀ {s e s'}, I s → x s = .error e s' → E e s'

namespace Contract

variable {I : σ → Prop} {Q : α → σ → Prop} {E : ε → σ → Prop} {x : EStateM ε σ α}

/-- **One method after another**: the second needs what the first leaves, and
both may throw in one way. -/
protected theorem bind {R : β → σ → Prop} {f : α → EStateM ε σ β} (hx : Contract I Q E x)
    (hf : ∀ a, Contract (Q a) R E (f a)) : Contract I R E (x >>= f) where
  ok := by
    intro s b s'' hs h
    obtain ⟨a, s', hxa, hfa⟩ := bind_eq_ok h
    exact (hf a).ok (hx.ok hs hxa) hfa
  error := by
    intro s e s'' hs h
    rcases bind_eq_error h with hxe | ⟨a, s', hxa, hfe⟩
    · exact hx.error hs hxe
    · exact (hf a).error (hx.ok hs hxa) hfe

/-- A function run as a method leaves the state alone. -/
protected theorem lift {x : Except ε α} (hok : ∀ {s a}, I s → x = .ok a → Q a s)
    (herror : ∀ {s e}, I s → x = .error e → E e s) :
    Contract I Q E (lift x : EStateM ε σ α) where
  ok := by
    intro s a s' hs h
    obtain ⟨ha, rfl⟩ := lift_eq_ok_iff.mp h
    exact hok hs ha
  error := by
    intro s e s' hs h
    obtain ⟨he, rfl⟩ := lift_eq_error_iff.mp h
    exact herror hs he

/-- What a method preserves, and what a fault leaves of it. -/
theorem of_preserves (hx : Preserves I (fun _ => True) x) (hE : ∀ {s e}, I s → E e s) :
    Contract I (fun _ => I) E x where
  ok := fun hs h => hx.ok hs h
  error := fun hs h => hE (hx.error hs h).1

/-- **A fact in front** of what a method needs may be had first. -/
theorem of_fact {p : Prop} (h : p → Contract I Q E x) :
    Contract (fun s => p ∧ I s) Q E x where
  ok := fun hs => (h hs.1).ok hs.2
  error := fun hs => (h hs.1).error hs.2

/-- The outcome of a method with one postcondition for both of its ends. -/
theorem outcome {Q : Except ε α → σ → Prop}
    (h : Contract I (fun a => Q (.ok a)) (fun e => Q (.error e)) x) {s : σ} (hs : I s) :
    Q (Effect.outcome x s).1 (Effect.outcome x s).2 := by
  cases hx : x s with
  | ok a s' =>
    rw [outcome_ok hx]
    exact h.ok hs hx
  | error e s' =>
    rw [outcome_error hx]
    exact h.error hs hx

end Contract

end Effect

end Common
