import VjBlockchain.Common.Bytes
/-!
# Effects — exceptions over a state, and runs of calls

Two monads carry the programs of this development: `Except` for functions
that return or throw, and `EStateM` for methods that also change a state and
keep what they changed when they throw. The rules here execute such programs
one bind at a time, forwards from known results and backwards from a normal
return.

A caller that goes on after an exception makes a *run*: calls in sequence,
each from the state its predecessor left, whatever that one did. `trace`
records the outcomes of a run, and `trace_induction` is the one induction
over runs.
-/

namespace Common

variable {ε σ α β ι : Type}

/-! ## Functions that return or throw -/

namespace Throwing

theorem bind_ok {x : Except ε α} {f : α → Except ε β} {a : α} (h : x = .ok a) :
    (x >>= f) = f a := by rw [h]; rfl

@[simp] theorem ok_bind (a : α) (f : α → Except ε β) : (Except.ok a >>= f) = f a := rfl

@[simp] theorem error_bind (e : ε) (f : α → Except ε β) : (Except.error e >>= f) = .error e := rfl

theorem bind_error {x : Except ε α} {f : α → Except ε β} {e : ε} (h : x = .error e) :
    (x >>= f) = .error e := by rw [h]; rfl

/-- **Backwards through a bind.** -/
theorem bind_eq_ok_iff {x : Except ε α} {f : α → Except ε β} {b : β} :
    (x >>= f) = .ok b ↔ ∃ a, x = .ok a ∧ f a = .ok b := by
  cases x with
  | error e =>
    constructor
    · intro h
      cases h
    · rintro ⟨_, h, _⟩
      cases h
  | ok a =>
    constructor
    · intro h
      exact ⟨a, rfl, h⟩
    · rintro ⟨_, h, hf⟩
      cases h
      exact hf

/-- A call that may refuse, and the exception its refusal becomes. -/
def orThrow (x : Option α) (e : ε) : Except ε α :=
  match x with
  | some a => .ok a
  | none => .error e

@[simp] theorem orThrow_some (a : α) (e : ε) : orThrow (some a) e = .ok a := rfl

/-- A call that did not refuse, and what is done with its result. -/
theorem orThrow_bind {x : Option α} {a : α} (h : x = some a) (e : ε) (f : α → Except ε β) :
    (orThrow x e >>= f) = f a := by
  rw [h, orThrow_some, ok_bind]

@[simp] theorem orThrow_eq_ok_iff {x : Option α} {e : ε} {a : α} :
    orThrow x e = .ok a ↔ x = some a := by
  cases x <;> simp [orThrow]

/-- A check that throws unless its condition holds. -/
def check (p : Prop) [Decidable p] (e : ε) : Except ε Unit :=
  if p then .ok () else .error e

@[simp] theorem check_eq_ok_iff {p : Prop} [Decidable p] {e : ε} {u : Unit} :
    check p e = .ok u ↔ p := by
  by_cases h : p <;> simp [check, h]

theorem check_pos {p : Prop} [Decidable p] {e : ε} (h : p) : check p e = .ok () := if_pos h

theorem check_neg {p : Prop} [Decidable p] {e : ε} (h : ¬p) : check p e = .error e := if_neg h

end Throwing

/-! ## Methods over a state -/

namespace Effect

theorem bind_ok {x : EStateM ε σ α} {f : α → EStateM ε σ β} {s s' : σ} {a : α}
    (h : x s = .ok a s') : (x >>= f) s = f a s' := by
  simp only [bind, EStateM.bind, h]

theorem bind_error {x : EStateM ε σ α} {f : α → EStateM ε σ β} {s s' : σ} {e : ε}
    (h : x s = .error e s') : (x >>= f) s = .error e s' := by
  simp only [bind, EStateM.bind, h]

/-- **Backwards through a bind.** -/
theorem bind_eq_ok {x : EStateM ε σ α} {f : α → EStateM ε σ β} {s s'' : σ} {b : β}
    (h : (x >>= f) s = .ok b s'') : ∃ a s', x s = .ok a s' ∧ f a s' = .ok b s'' := by
  cases hx : x s with
  | error e s' => rw [bind_error hx] at h; cases h
  | ok a s' => exact ⟨a, s', rfl, by rw [bind_ok hx] at h; exact h⟩

/-- **Backwards through a bind that threw**: the first part threw, or it
returned and the rest did. -/
theorem bind_eq_error {x : EStateM ε σ α} {f : α → EStateM ε σ β} {s s'' : σ} {e : ε}
    (h : (x >>= f) s = .error e s'') :
    x s = .error e s'' ∨ ∃ a s', x s = .ok a s' ∧ f a s' = .error e s'' := by
  cases hx : x s with
  | error e' s' =>
    rw [bind_error hx] at h
    cases h
    exact .inl rfl
  | ok a s' => exact .inr ⟨a, s', rfl, by rw [bind_ok hx] at h; exact h⟩

/-- A function that returns or throws, run as a method that leaves the state
alone. -/
def lift (x : Except ε α) : EStateM ε σ α := fun s =>
  match x with
  | .ok a => .ok a s
  | .error e => .error e s

@[simp] theorem lift_ok (a : α) (s : σ) : (lift (.ok a) : EStateM ε σ α) s = .ok a s := rfl

@[simp] theorem lift_error (e : ε) (s : σ) :
    (lift (.error e) : EStateM ε σ α) s = .error e s := rfl

theorem lift_eq_ok_iff {x : Except ε α} {s s' : σ} {a : α} :
    lift x s = .ok a s' ↔ x = .ok a ∧ s' = s := by
  cases x with
  | error e =>
    constructor
    · intro h
      cases h
    · rintro ⟨h, _⟩
      cases h
  | ok b =>
    constructor
    · intro h
      cases h
      exact ⟨rfl, rfl⟩
    · rintro ⟨h, rfl⟩
      cases h
      rfl

theorem lift_eq_error_iff {x : Except ε α} {s s' : σ} {e : ε} :
    lift x s = .error e s' ↔ x = .error e ∧ s' = s := by
  cases x with
  | error e' =>
    constructor
    · intro h
      cases h
      exact ⟨rfl, rfl⟩
    · rintro ⟨h, rfl⟩
      cases h
      rfl
  | ok a =>
    constructor
    · intro h
      cases h
    · rintro ⟨h, _⟩
      cases h

@[simp] theorem get_apply (s : σ) : (get : EStateM ε σ σ) s = .ok s s := rfl

/-- A method that goes on with its state. -/
theorem get_bind (f : σ → EStateM ε σ β) (s : σ) : (get >>= f) s = f s s := rfl

/-- A method that goes on from another state. -/
theorem set_bind (s s' : σ) (f : PUnit → EStateM ε σ β) : (set s' >>= f) s = f ⟨⟩ s' := rfl

/-! ## Invariants of a method

What a method preserves whichever way it ends, and what it may throw. The
predicate is carried through a method bind by bind. -/

/-- From a state with `I` the method ends in one, and throws only what `E`
allows. -/
structure Preserves (I : σ → Prop) (E : ε → Prop) (x : EStateM ε σ α) : Prop where
  ok : ∀ {s a s'}, I s → x s = .ok a s' → I s'
  error : ∀ {s e s'}, I s → x s = .error e s' → I s' ∧ E e

namespace Preserves

variable {I : σ → Prop} {E : ε → Prop}

protected theorem pure (a : α) : Preserves I E (pure a : EStateM ε σ α) where
  ok := by
    rintro s _ _ hs ⟨⟩
    exact hs
  error := by
    rintro s _ _ hs ⟨⟩

/-- A rest that relies on what the first part returned. -/
protected theorem bind_of {x : EStateM ε σ α} {f : α → EStateM ε σ β} (hx : Preserves I E x)
    (hf : ∀ {a s s'}, x s = .ok a s' → Preserves I E (f a)) : Preserves I E (x >>= f) where
  ok := by
    intro s b s'' hs h
    obtain ⟨a, s', hxa, hfa⟩ := bind_eq_ok h
    exact (hf hxa).ok (hx.ok hs hxa) hfa
  error := by
    intro s e s'' hs h
    rcases bind_eq_error h with hxe | ⟨a, s', hxa, hfe⟩
    · exact hx.error hs hxe
    · exact (hf hxa).error (hx.ok hs hxa) hfe

protected theorem bind {x : EStateM ε σ α} {f : α → EStateM ε σ β} (hx : Preserves I E x)
    (hf : ∀ a, Preserves I E (f a)) : Preserves I E (x >>= f) :=
  hx.bind_of fun {a} _ _ _ => hf a

protected theorem get : Preserves I E (get : EStateM ε σ σ) where
  ok := by
    rintro s _ _ hs ⟨⟩
    exact hs
  error := by
    rintro s _ _ hs ⟨⟩

protected theorem throw {e : ε} (he : E e) : Preserves I E (throw e : EStateM ε σ α) where
  ok := by
    rintro s _ _ hs ⟨⟩
  error := by
    rintro s _ _ hs ⟨⟩
    exact ⟨hs, he⟩

/-- A function run as a method preserves everything. -/
protected theorem lift {x : Except ε α} (hx : ∀ e, x = .error e → E e) :
    Preserves I E (lift x : EStateM ε σ α) where
  ok := by
    intro s a s' hs h
    obtain ⟨-, rfl⟩ := lift_eq_ok_iff.mp h
    exact hs
  error := by
    intro s e s' hs h
    obtain ⟨herror, rfl⟩ := lift_eq_error_iff.mp h
    exact ⟨hs, hx e herror⟩

protected theorem lift_any (x : Except ε α) :
    Preserves I (fun _ => True) (Effect.lift x : EStateM ε σ α) := .lift fun _ _ => trivial

end Preserves

/-! ## Runs -/

/-- What a call did, and the state it left. -/
def outcome (x : EStateM ε σ α) (s : σ) : Except ε α × σ :=
  match x s with
  | .ok a s' => (.ok a, s')
  | .error e s' => (.error e, s')

theorem outcome_ok {x : EStateM ε σ α} {s s' : σ} {a : α} (h : x s = .ok a s') :
    outcome x s = (.ok a, s') := by rw [outcome, h]

theorem outcome_error {x : EStateM ε σ α} {s s' : σ} {e : ε} (h : x s = .error e s') :
    outcome x s = (.error e, s') := by rw [outcome, h]

theorem outcome_congr {x y : EStateM ε σ α} {s s' : σ} (h : x s = y s') :
    outcome x s = outcome y s' := by rw [outcome, outcome, h]

theorem ok_of_outcome {x : EStateM ε σ α} {s : σ} {a : α} (h : (outcome x s).1 = .ok a) :
    x s = .ok a (outcome x s).2 := by
  cases hx : x s with
  | ok b s' =>
    rw [outcome_ok hx] at h ⊢
    rw [Except.ok.inj h]
  | error e s' =>
    rw [outcome_error hx] at h
    cases h

theorem error_of_outcome {x : EStateM ε σ α} {s : σ} {e : ε} (h : (outcome x s).1 = .error e) :
    x s = .error e (outcome x s).2 := by
  cases hx : x s with
  | ok a s' =>
    rw [outcome_ok hx] at h
    cases h
  | error e' s' =>
    rw [outcome_error hx] at h ⊢
    rw [Except.error.inj h]

theorem outcome_bind_ok {x : EStateM ε σ α} {f : α → EStateM ε σ β} {s s' : σ} {a : α}
    (h : x s = .ok a s') : outcome (x >>= f) s = outcome (f a) s' := by
  rw [outcome, outcome, bind_ok h]

@[simp] theorem outcome_lift (x : Except ε α) (s : σ) :
    outcome (lift x) s = (x, s) := by
  cases x <;> rfl

/-- What is done to the result changes no state. -/
theorem outcome_bind_pure (x : EStateM ε σ α) (f : α → β) (s : σ) :
    outcome (x >>= fun a => pure (f a)) s = ((outcome x s).1.map f, (outcome x s).2) := by
  cases h : x s with
  | ok a s' =>
    have hpure : (x >>= fun a => pure (f a)) s = .ok (f a) s' := bind_ok h
    rw [outcome_ok h, outcome_ok hpure]
    rfl
  | error e s' =>
    have herror : (x >>= fun a => pure (f a)) s = .error e s' := bind_error h
    rw [outcome_error h, outcome_error herror]
    rfl

theorem Preserves.outcome {I : σ → Prop} {E : ε → Prop} {x : EStateM ε σ α}
    (hx : Preserves I E x) {s : σ} (hs : I s) : I (outcome x s).2 := by
  unfold Effect.outcome
  split
  · rename_i h
    exact hx.ok hs h
  · rename_i h
    exact (hx.error hs h).1

/-- It is enough to look at the state a method leaves. -/
theorem Preserves.of_outcome {I : σ → Prop} {x : EStateM ε σ α}
    (h : ∀ s, I s → I (Effect.outcome x s).2) : Preserves I (fun _ => True) x where
  ok := by
    intro s a s' hs hx
    have hend := h s hs
    rwa [outcome_ok hx] at hend
  error := by
    intro s e s' hs hx
    have hend := h s hs
    rw [outcome_error hx] at hend
    exact ⟨hend, trivial⟩

/-- A first part that leaves a state with the invariant, and a rest that
preserves it. -/
theorem Preserves.outcome_bind {I : σ → Prop} {E : ε → Prop} {x : EStateM ε σ α}
    {f : α → EStateM ε σ β} (hf : ∀ a, Preserves I E (f a)) {s : σ}
    (hx : I (Effect.outcome x s).2) : I (Effect.outcome (x >>= f) s).2 := by
  cases h : x s with
  | ok a s' =>
    rw [outcome_ok h] at hx
    rw [outcome_bind_ok h]
    exact (hf a).outcome hx
  | error e s' =>
    rw [outcome_error h] at hx
    rwa [outcome_error (bind_error h)]

/-- The outcomes of a run of calls, each made from the state the one before
it left, and the state after the last. -/
def trace (call : ι → EStateM ε σ α) : List ι → σ → List (Except ε α) × σ
  | [], s => ([], s)
  | i :: is, s =>
    let (r, s') := outcome (call i) s
    let (rs, s'') := trace call is s'
    (r :: rs, s'')

variable {call : ι → EStateM ε σ α}

@[simp] theorem trace_nil (s : σ) : trace call [] s = ([], s) := rfl

theorem trace_cons (i : ι) (is : List ι) (s : σ) :
    trace call (i :: is) s =
      ((outcome (call i) s).1 :: (trace call is (outcome (call i) s).2).1,
        (trace call is (outcome (call i) s).2).2) := rfl

/-- **Runs compose.** -/
theorem trace_append (is js : List ι) (s : σ) :
    trace call (is ++ js) s =
      ((trace call is s).1 ++ (trace call js (trace call is s).2).1,
        (trace call js (trace call is s).2).2) := by
  induction is generalizing s with
  | nil => rfl
  | cons i is ih => simp [trace_cons, ih]

/-- One more call. -/
theorem trace_concat (is : List ι) (i : ι) (s : σ) :
    trace call (is ++ [i]) s =
      ((trace call is s).1 ++ [(outcome (call i) (trace call is s).2).1],
        (outcome (call i) (trace call is s).2).2) := by
  rw [trace_append, trace_cons, trace_nil]

/-- **The outcome of one call of a run** is that of the call made from the
state the calls before it left. -/
theorem trace_getElem? {is : List ι} {i : ι} {n : ℕ} (h : is[n]? = some i) (s : σ) :
    (trace call is s).1[n]? = some (outcome (call i) (trace call (is.take n) s).2).1 := by
  induction is generalizing n s with
  | nil => cases h
  | cons j is ih =>
    cases n with
    | zero =>
      obtain rfl : j = i := Option.some.inj h
      rfl
    | succ n => exact ih h _

/-- What every call of a run preserves, the run does. -/
theorem trace_preserves {I : σ → Prop} {E : ε → Prop} {is : List ι}
    (h : ∀ i ∈ is, Preserves I E (call i)) {s : σ} (hs : I s) : I (trace call is s).2 := by
  induction is generalizing s with
  | nil => exact hs
  | cons i is ih =>
    rw [trace_cons]
    exact ih (fun j hj => h j (List.mem_cons_of_mem i hj)) ((h i List.mem_cons_self).outcome hs)

/-- **Induction along a run.** What holds at its start and is kept by each of
its calls holds after every part of it; it may speak of the calls made. -/
theorem trace_induction {P : List ι → σ → Prop} {is : List ι} {s : σ} (start : P [] s)
    (step : ∀ done i, done ++ [i] <+: is → P done (trace call done s).2 →
      P (done ++ [i]) (outcome (call i) (trace call done s).2).2) :
    ∀ done, done <+: is → P done (trace call done s).2 := by
  intro done
  induction done using List.reverseRecOn with
  | nil => exact fun _ => start
  | append_singleton done i ih =>
    intro hprefix
    rw [trace_concat]
    exact step done i hprefix (ih ((List.prefix_append ..).trans hprefix))

end Effect

end Common
