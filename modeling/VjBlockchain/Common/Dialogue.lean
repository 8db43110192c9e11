import VjBlockchain.Common.Effect
/-!
# Dialogues — computations that ask on their way

A library that calls back into its caller is a dialogue: it ends with a
result, or asks a question and goes on with the answer. `result` follows a
dialogue along a list of answers. `run` lets somebody answer who has a state
of his own and may fail; what he keeps true from answer to answer is true of
the answers that led to the result.
-/

namespace Common

/-- A computation that asks questions of type `Q`. -/
inductive Dialogue (Q A R : Type)
  | done (result : R)
  | ask (question : Q) (answered : A → Dialogue Q A R)

namespace Dialogue

variable {Q A R σ ε : Type}

/-- The result after exactly these answers. -/
def result : Dialogue Q A R → List A → Option R
  | done r, [] => some r
  | done _, _ :: _ => none
  | ask _ _, [] => none
  | ask _ k, a :: as => (k a).result as

/-- Answer every question. -/
def run (answer : Q → σ → Except ε (A × σ)) : Dialogue Q A R → σ → Except ε (R × σ)
  | done r, s => .ok (r, s)
  | ask q k, s => do
    let (a, s) ← answer q s
    run answer (k a) s

/-- A question the dialogue gets to along some answers. -/
inductive Asked (q : Q) : Dialogue Q A R → Prop
  | here {k} : Asked q (ask q k)
  | later {q' k} (a : A) (hrest : Asked q (k a)) : Asked q (ask q' k)

variable {answer : Q → σ → Except ε (A × σ)}

/-- **Answers that agree on whatever may be asked lead to the same end.** -/
theorem run_congr {answer' : Q → σ → Except ε (A × σ)} {d : Dialogue Q A R} {s : σ}
    (h : ∀ q s, Asked q d → answer q s = answer' q s) : run answer d s = run answer' d s := by
  induction d generalizing s with
  | done r => rfl
  | ask q k ih =>
    rw [run, run, ← h q s .here]
    cases answer q s with
    | error e => rfl
    | ok x => exact ih x.1 fun q' s' hasked => h q' s' (.later x.1 hasked)

/-- **What each answer keeps true is true of all answers together.** -/
theorem run_ok {I : List A → σ → Prop}
    (step : ∀ {as q s a s'}, I as s → answer q s = .ok (a, s') → I (as ++ [a]) s')
    {d : Dialogue Q A R} {s s' : σ} {r : R} (before : List A) (hs : I before s)
    (h : run answer d s = .ok (r, s')) :
    ∃ as, d.result as = some r ∧ I (before ++ as) s' := by
  induction d generalizing s before with
  | done r' =>
    cases h
    exact ⟨[], rfl, by rwa [List.append_nil]⟩
  | ask q k ih =>
    obtain ⟨⟨a, s₁⟩, ha, hrest⟩ := Throwing.bind_eq_ok_iff.mp h
    obtain ⟨as, hresult, hI⟩ := ih a (before ++ [a]) (step hs ha) hrest
    rw [List.append_assoc] at hI
    exact ⟨a :: as, hresult, hI⟩

/-- A run fails with one of its answers. -/
theorem run_error {d : Dialogue Q A R} {s : σ} {e : ε} (h : run answer d s = .error e) :
    ∃ q s', answer q s' = .error e := by
  induction d generalizing s with
  | done r => cases h
  | ask q k ih =>
    cases ha : answer q s with
    | error e' =>
      rw [run, ha, Throwing.error_bind] at h
      exact ⟨q, s, ha.trans (congrArg Except.error (Except.error.inj h))⟩
    | ok x =>
      rw [run, ha, Throwing.ok_bind] at h
      exact ih x.1 h

end Dialogue

end Common
