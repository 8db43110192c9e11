import VjBlockchain.Common.History
/-!
# Simulation — one program over two states

A program may run on a detailed state and on an abstract one. `Simulates`
says that from related states the two runs end alike, with one result and in
related states again, unless the detailed run or the abstract one is *lost*:
it has reached a state after which nothing is claimed. Being lost is never
undone, so the relation passes through binds and along runs of calls.
-/

namespace Common

namespace Effect

variable {ε σ τ α β ι : Type}

/-- `x`, on detailed states, does what `y` does on abstract ones, until one of
them is lost. -/
structure Simulates (R : σ → τ → Prop) (L : σ → Prop) (L' : τ → Prop) (x : EStateM ε σ α)
    (y : EStateM ε τ α) : Prop where
  step : ∀ {s t}, R s t → L (outcome x s).2 ∨ L' (outcome y t).2 ∨
    ((outcome x s).1 = (outcome y t).1 ∧ R (outcome x s).2 (outcome y t).2)
  lost : Preserves L (fun _ => True) x
  lost' : Preserves L' (fun _ => True) y

namespace Simulates

variable {R : σ → τ → Prop} {L : σ → Prop} {L' : τ → Prop}

protected theorem pure (a : α) :
    Simulates R L L' (pure a : EStateM ε σ α) (pure a : EStateM ε τ α) where
  step := fun h => .inr (.inr ⟨rfl, h⟩)
  lost := .pure a
  lost' := .pure a

protected theorem throw (e : ε) :
    Simulates R L L' (throw e : EStateM ε σ α) (throw e : EStateM ε τ α) where
  step := fun h => .inr (.inr ⟨rfl, h⟩)
  lost := .throw trivial
  lost' := .throw trivial

/-- A function does not look at the state. -/
protected theorem lift (x : Except ε α) :
    Simulates R L L' (lift x : EStateM ε σ α) (lift x : EStateM ε τ α) where
  step := by
    intro s t h
    rw [outcome_lift, outcome_lift]
    exact .inr (.inr ⟨rfl, h⟩)
  lost := .lift fun _ _ => trivial
  lost' := .lift fun _ _ => trivial

/-- **Two binds.** The rests are compared after one result only, and not at
all once a first part is lost. -/
protected theorem bind {x : EStateM ε σ α} {y : EStateM ε τ α} {f : α → EStateM ε σ β}
    {g : α → EStateM ε τ β} (hxy : Simulates R L L' x y)
    (hfg : ∀ a, Simulates R L L' (f a) (g a)) : Simulates R L L' (x >>= f) (y >>= g) where
  step := by
    intro s t h
    rcases hxy.step h with hL | hL' | ⟨hresult, hR⟩
    · exact .inl (Preserves.outcome_bind (fun a => (hfg a).lost) hL)
    · exact .inr (.inl (Preserves.outcome_bind (fun a => (hfg a).lost') hL'))
    · cases hx : x s with
      | ok a s' =>
        rw [outcome_ok hx] at hresult hR
        have hy := ok_of_outcome hresult.symm
        rw [outcome_bind_ok hx, outcome_bind_ok hy]
        exact (hfg a).step hR
      | error e s' =>
        rw [outcome_error hx] at hresult hR
        have hy := error_of_outcome hresult.symm
        rw [outcome_error (bind_error hx), outcome_error (bind_error hy)]
        exact .inr (.inr ⟨rfl, hR⟩)
  lost := .bind hxy.lost fun a => (hfg a).lost
  lost' := .bind hxy.lost' fun a => (hfg a).lost'

/-- **Two programs that go on with a part of the state** both states agree
on. -/
protected theorem get_bind {f : σ → EStateM ε σ β} {g : τ → EStateM ε τ β}
    (hfg : ∀ {s t}, R s t → Simulates R L L' (f s) (g t))
    (hf : ∀ s, Preserves L (fun _ => True) (f s)) (hg : ∀ t, Preserves L' (fun _ => True) (g t)) :
    Simulates R L L' (get >>= f) (get >>= g) where
  step := fun h => (hfg h).step h
  lost := .bind .get hf
  lost' := .bind .get hg

/-- **With one history beside both**, to which neither adds. -/
protected theorem unwatched {γ : Type} {x : EStateM ε σ α} {y : EStateM ε τ α}
    (h : Simulates R L L' x y) :
    Simulates (fun s t => R s.1 t.1 ∧ s.2 = t.2) (fun s : σ × List γ => L s.1) (fun t => L' t.1)
      (unwatched x) (unwatched y) where
  step := by
    rintro ⟨s, log⟩ ⟨t, _⟩ ⟨hR, rfl⟩
    rw [unwatched, unwatched, outcome_watch, outcome_watch]
    exact (h.step hR).imp_right (.imp_right fun hend => ⟨hend.1, hend.2, rfl⟩)
  lost := .unwatched fun _ => h.lost
  lost' := .unwatched fun _ => h.lost'

/-- **With the result made into another**, be it that a throw is caught. -/
theorem recast {ε' : Type} {x : EStateM ε σ α} {y : EStateM ε τ α} {x' : EStateM ε' σ β}
    {y' : EStateM ε' τ β} (h : Simulates R L L' x y) (g : Except ε α → Except ε' β)
    (hx : ∀ s, outcome x' s = (g (outcome x s).1, (outcome x s).2))
    (hy : ∀ t, outcome y' t = (g (outcome y t).1, (outcome y t).2)) : Simulates R L L' x' y' where
  step := by
    intro s t hR
    rw [hx, hy]
    exact (h.step hR).imp_right (.imp_right (.imp_left (congrArg g)))
  lost := .of_outcome fun s hs => by
    rw [hx]
    exact h.lost.outcome hs
  lost' := .of_outcome fun t ht => by
    rw [hy]
    exact h.lost'.outcome ht

/-- **Without what wraps the result**, if it tells results apart. -/
theorem of_wrapped {w : α → β} (hw : Function.Injective w) {x : EStateM ε σ α}
    {y : EStateM ε τ α}
    (h : Simulates R L L' (x >>= fun a => pure (w a)) (y >>= fun a => pure (w a))) :
    Simulates R L L' x y where
  step := by
    intro s t hR
    have hstep := h.step hR
    rw [outcome_bind_pure, outcome_bind_pure] at hstep
    refine hstep.imp_right (.imp_right (.imp_left fun hmap => ?_))
    cases hx : (outcome x s).1 with
    | ok a =>
      cases hy : (outcome y t).1 with
      | ok a' =>
        rw [hx, hy] at hmap
        rw [hw (Except.ok.inj hmap)]
      | error f =>
        rw [hx, hy] at hmap
        cases hmap
    | error f =>
      cases hy : (outcome y t).1 with
      | ok a =>
        rw [hx, hy] at hmap
        cases hmap
      | error f' =>
        rw [hx, hy] at hmap
        rw [Except.error.inj hmap]
  lost := .of_outcome fun s hs => by
    have hend := h.lost.outcome hs
    rwa [outcome_bind_pure] at hend
  lost' := .of_outcome fun t ht => by
    have hend := h.lost'.outcome ht
    rwa [outcome_bind_pure] at hend

/-- **Runs.** What the calls do one by one, every run of them does: the two
runs have the same outcomes, or one of them is lost by its end. -/
theorem trace {call : ι → EStateM ε σ α} {call' : ι → EStateM ε τ α} (is : List ι)
    (h : ∀ i ∈ is, Simulates R L L' (call i) (call' i)) {s : σ} {t : τ} (hR : R s t) :
    L (trace call is s).2 ∨ L' (trace call' is t).2 ∨
      ((trace call is s).1 = (trace call' is t).1 ∧
        R (trace call is s).2 (trace call' is t).2) := by
  induction is generalizing s t with
  | nil => exact .inr (.inr ⟨rfl, hR⟩)
  | cons i is ih =>
    have hrest : ∀ j ∈ is, Simulates R L L' (call j) (call' j) :=
      fun j hj => h j (List.mem_cons_of_mem i hj)
    rw [trace_cons, trace_cons]
    rcases (h i List.mem_cons_self).step hR with hL | hL' | ⟨hresult, hR'⟩
    · exact .inl (trace_preserves (fun j hj => (hrest j hj).lost) hL)
    · exact .inr (.inl (trace_preserves (fun j hj => (hrest j hj).lost') hL'))
    · rcases ih hrest hR' with hL | hL' | ⟨hresults, hR''⟩
      · exact .inl hL
      · exact .inr (.inl hL')
      · exact .inr (.inr ⟨by rw [hresult, hresults], hR''⟩)

end Simulates

end Effect

end Common
