import VjBlockchain.Common.Effect
/-!
# Once — a call that is made good once

A call may fail a number of times and then succeed, and from then on it does
nothing but give its value again. `Once` says so of one call at a time: what
holds of the state while the calls made have all failed, and what holds of it
after the first that has not. `Once.run` says it of a run.
-/

namespace Common

namespace Effect

variable {ε σ α ι : Type}

/-- **A call that is made good once.** `Pending done s`: the calls `done` have
failed and left `s`. `Ready done i a s`: they have, then the call `i` has
given `a`, and the state is `s`. -/
structure Once (call : ι → EStateM ε σ α) (P : ι → Prop) (Pending : List ι → σ → Prop)
    (Ready : List ι → ι → α → σ → Prop) : Prop where
  first : ∀ {done i s}, P i → Pending done s →
    (∃ a s', call i s = .ok a s' ∧ Ready done i a s') ∨
      ∃ e s', call i s = .error e s' ∧ Pending (done ++ [i]) s'
  again : ∀ {done i a s}, Ready done i a s → ∀ j, call j s = .ok a s

namespace Once

variable {call : ι → EStateM ε σ α} {P : ι → Prop} {Pending : List ι → σ → Prop}
  {Ready : List ι → ι → α → σ → Prop}

/-- Nothing is done any more. -/
theorem trace_again (h : Once call P Pending Ready) {done : List ι} {i : ι} {a : α} {s : σ}
    (hs : Ready done i a s) (is : List ι) :
    trace call is s = (List.replicate is.length (.ok a), s) := by
  induction is with
  | nil => rfl
  | cons j is ih =>
    rw [trace_cons, outcome_ok (h.again hs j), ih]
    rfl

/-- **A run of calls**: all fail, or some fail, one is made good, and the rest
gives its value and leaves the state as it is. -/
theorem run (h : Once call P Pending Ready) (is : List ι) :
    ∀ {done : List ι} {s : σ}, (∀ i ∈ is, P i) → Pending done s →
      ((∀ r ∈ (trace call is s).1, ∃ e, r = .error e) ∧
          Pending (done ++ is) (trace call is s).2) ∨
        ∃ failed i rest a failures, is = failed ++ i :: rest ∧
          (trace call is s).1 = failures ++ List.replicate (rest.length + 1) (.ok a) ∧
          failures.length = failed.length ∧ (∀ r ∈ failures, ∃ e, r = .error e) ∧
          Ready (done ++ failed) i a (trace call is s).2 := by
  induction is with
  | nil =>
    intro done s _ hs
    refine .inl ⟨fun r hr => absurd hr List.not_mem_nil, ?_⟩
    rw [List.append_nil]
    exact hs
  | cons i is ih =>
    intro done s hP hs
    rw [trace_cons]
    rcases h.first (hP i List.mem_cons_self) hs with ⟨a, s', hcall, hready⟩ | ⟨e, s', hcall, hs'⟩
    · rw [outcome_ok hcall, h.trace_again hready]
      refine .inr ⟨[], i, is, a, [], rfl, rfl, rfl, fun r hr => absurd hr List.not_mem_nil, ?_⟩
      rw [List.append_nil]
      exact hready
    · rw [outcome_error hcall]
      have hrest := ih (fun j hj => hP j (List.mem_cons_of_mem i hj)) hs'
      rw [List.append_assoc] at hrest
      rcases hrest with ⟨hall, hpending⟩ | ⟨failed, j, rest, a, failures, his, hresults, hlen,
        hfailures, hready⟩
      · exact .inl ⟨List.forall_mem_cons.mpr ⟨⟨e, rfl⟩, hall⟩, hpending⟩
      · refine .inr ⟨i :: failed, j, rest, a, .error e :: failures, ?_, ?_, ?_,
          List.forall_mem_cons.mpr ⟨⟨e, rfl⟩, hfailures⟩, ?_⟩
        · rw [his, List.cons_append]
        · rw [hresults, List.cons_append]
        · rw [List.length_cons, List.length_cons, hlen]
        · rw [List.append_assoc] at hready
          exact hready

end Once

end Effect

end Common
