import VjBlockchain.Common.Effect
/-!
# Histories — a record beside the state

A statement about what happened *during* a run needs more than the states
between its calls. `watch` runs a method and appends to a history what an
observer notes about it; the method itself cannot see the history. A program
rebuilt from watched parts `Erases` to the program it was built from, and so
does every run of it, so what its history says is said about the program.

`Each` is a property of every entry of a history together with the entries
before it. It is kept one entry at a time.
-/

namespace Common

variable {ε σ α β ι γ : Type}

/-! ## Entries and their past -/

/-- **Every entry** of a history, together with its past, has the property. -/
def Each (Q : List γ → γ → Prop) (log : List γ) : Prop :=
  ∀ past e rest, log = past ++ e :: rest → Q past e

namespace Each

variable {Q : List γ → γ → Prop}

theorem nil : Each Q [] := by
  intro past e rest h
  cases past <;> cases h

/-- The first part of a history. -/
theorem of_append {log rest : List γ} (h : Each Q (log ++ rest)) : Each Q log := by
  rintro past e rest' rfl
  exact h past e (rest' ++ rest) (by simp)

/-- One more entry. -/
theorem concat_iff {log : List γ} {e : γ} : Each Q (log ++ [e]) ↔ Each Q log ∧ Q log e := by
  constructor
  · intro h
    exact ⟨h.of_append, h log e [] rfl⟩
  · rintro ⟨hlog, he⟩ past e' rest h
    -- the entry is the new one, or it was there before
    rcases List.eq_nil_or_concat rest with rfl | ⟨rest, last, rfl⟩
    · obtain ⟨rfl, he'⟩ := List.append_inj' h rfl
      cases he'
      exact he
    · have hsplit : log ++ [e] = (past ++ e' :: rest) ++ [last] := by simpa using h
      obtain ⟨rfl, -⟩ := List.append_inj' hsplit rfl
      exact hlog past e' rest rfl

end Each

/-! ## Watched methods -/

namespace Effect

/-- Run a method, and append to the history what is noted about its start and
its result. -/
def watch (x : EStateM ε σ α) (note : σ → Except ε α → List γ) : EStateM ε (σ × List γ) α :=
  fun s =>
    match x s.1 with
    | .ok a s' => .ok a (s', s.2 ++ note s.1 (.ok a))
    | .error e s' => .error e (s', s.2 ++ note s.1 (.error e))

/-- A method of which nothing is noted. -/
def unwatched (x : EStateM ε σ α) : EStateM ε (σ × List γ) α := watch x fun _ _ => []

section Apply

variable {x : EStateM ε σ α} {note : σ → Except ε α → List γ} {s s' : σ} {log : List γ}

theorem watch_ok {a : α} (h : x s = .ok a s') :
    watch x note (s, log) = .ok a (s', log ++ note s (.ok a)) := by
  simp only [watch, h]

theorem watch_error {e : ε} (h : x s = .error e s') :
    watch x note (s, log) = .error e (s', log ++ note s (.error e)) := by
  simp only [watch, h]

theorem unwatched_ok {a : α} (h : x s = .ok a s') :
    (unwatched x : EStateM ε (σ × List γ) α) (s, log) = .ok a (s', log) := by
  rw [unwatched, watch_ok h, List.append_nil]

theorem unwatched_error {e : ε} (h : x s = .error e s') :
    (unwatched x : EStateM ε (σ × List γ) α) (s, log) = .error e (s', log) := by
  rw [unwatched, watch_error h, List.append_nil]

end Apply

/-- The outcome of a watched method. -/
theorem outcome_watch (x : EStateM ε σ α) (note : σ → Except ε α → List γ) (s : σ × List γ) :
    outcome (watch x note) s =
      ((outcome x s.1).1, (outcome x s.1).2, s.2 ++ note s.1 (outcome x s.1).1) := by
  obtain ⟨s, log⟩ := s
  cases h : x s with
  | ok a s' => rw [outcome_ok (watch_ok h), outcome_ok h]
  | error e s' => rw [outcome_error (watch_error h), outcome_error h]

/-- What a watched method preserves: an invariant of state and history that
the method keeps and its notes keep. -/
theorem Preserves.watch {I : σ × List γ → Prop} {E : ε → Prop} {x : EStateM ε σ α}
    {note : σ → Except ε α → List γ}
    (hok : ∀ {s a s' log}, I (s, log) → x s = .ok a s' → I (s', log ++ note s (.ok a)))
    (herror : ∀ {s e s' log}, I (s, log) → x s = .error e s' →
      I (s', log ++ note s (.error e)) ∧ E e) :
    Preserves I E (watch x note) where
  ok := by
    rintro ⟨s, log⟩ a s' hs h
    cases hx : x s with
    | ok b s'' =>
      rw [watch_ok hx] at h
      cases h
      exact hok hs hx
    | error e s'' =>
      rw [watch_error hx] at h
      cases h
  error := by
    rintro ⟨s, log⟩ e s' hs h
    cases hx : x s with
    | ok b s'' =>
      rw [watch_ok hx] at h
      cases h
    | error e' s'' =>
      rw [watch_error hx] at h
      cases h
      exact herror hs hx

/-- An unwatched method appends nothing. -/
theorem Preserves.unwatched {I : σ × List γ → Prop} {E : ε → Prop} {x : EStateM ε σ α}
    (hx : ∀ log, Preserves (fun s => I (s, log)) E x) :
    Preserves I E (unwatched x : EStateM ε (σ × List γ) α) := by
  refine .watch ?_ ?_
  · intro s a s' log hs h
    rw [List.append_nil]
    exact (hx log).ok hs h
  · intro s e s' log hs h
    rw [List.append_nil]
    exact (hx log).error hs h

/-! ## Forgetting the history -/

/-- **Without its history** the method is `x`: the same outcome, the same
state. -/
def Erases (y : EStateM ε (σ × List γ) α) (x : EStateM ε σ α) : Prop :=
  ∀ s log, ((outcome y (s, log)).1, (outcome y (s, log)).2.1) = outcome x s

namespace Erases

theorem watch (x : EStateM ε σ α) (note : σ → Except ε α → List γ) :
    Erases (Effect.watch x note) x := by
  intro s log
  cases hx : x s with
  | ok a s' => rw [outcome_ok (watch_ok hx), outcome_ok hx]
  | error e s' => rw [outcome_error (watch_error hx), outcome_error hx]

theorem unwatched (x : EStateM ε σ α) : Erases (unwatched x : EStateM ε (σ × List γ) α) x :=
  .watch x _

protected theorem pure (a : α) :
    Erases (pure a : EStateM ε (σ × List γ) α) (pure a : EStateM ε σ α) := fun _ _ => rfl

protected theorem bind {y : EStateM ε (σ × List γ) α} {x : EStateM ε σ α}
    {g : α → EStateM ε (σ × List γ) β} {f : α → EStateM ε σ β} (hy : Erases y x)
    (hg : ∀ a, Erases (g a) (f a)) : Erases (y >>= g) (x >>= f) := by
  intro s log
  have hhead := hy s log
  cases hyx : y (s, log) with
  | ok a s' =>
    rw [outcome_ok hyx] at hhead
    cases hx : x s with
    | ok b t =>
      rw [outcome_ok hx] at hhead
      cases hhead
      rw [outcome_bind_ok hyx, outcome_bind_ok hx]
      exact hg a s'.1 s'.2
    | error e t =>
      rw [outcome_error hx] at hhead
      cases hhead
  | error e s' =>
    rw [outcome_error hyx] at hhead
    cases hx : x s with
    | ok b t =>
      rw [outcome_ok hx] at hhead
      cases hhead
    | error e' t =>
      rw [outcome_error hx] at hhead
      cases hhead
      rw [outcome_error (bind_error hyx), outcome_error (bind_error hx)]

/-- **A watched run is the run**, with a history beside it. -/
theorem trace {call' : ι → EStateM ε (σ × List γ) α} {call : ι → EStateM ε σ α}
    (h : ∀ i, Erases (call' i) (call i)) (is : List ι) (s : σ) (log : List γ) :
    ((Effect.trace call' is (s, log)).1, (Effect.trace call' is (s, log)).2.1) =
      Effect.trace call is s := by
  induction is generalizing s log with
  | nil => rfl
  | cons i is ih =>
    have hhead := h i s log
    have hrest := ih (outcome (call' i) (s, log)).2.1 (outcome (call' i) (s, log)).2.2
    rw [trace_cons, trace_cons, ← hhead, ← hrest]

end Erases

end Effect

end Common
