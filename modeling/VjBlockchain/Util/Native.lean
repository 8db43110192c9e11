import VjBlockchain.Common.Cleanup
import VjBlockchain.Util.Words
/-!
# Native methods — between the virtual machine and the suite

A native method is a routine: it pins the arrays it is handed, allocates
buffers, makes contexts of the suite, and leaves through its labels. Beside it
stands what it computes, a function that returns or throws and knows nothing
of resources. `Implements` carries both through a method step by step: the
discipline of the routine, and that without a failing call it does what the
function does.
-/

namespace VjBlockchain

open Common Common.Bytes Common.Throwing

/-- A call of a native method: one that acquires a resource, or another. -/
inductive NativeCall (ρ ω : Type)
  | acquire (r : ρ)
  | op (o : ω)
  deriving DecidableEq, Repr

/-- A native method that returns `α`. -/
abbrev NativeMethod (ρ ω α : Type) := Routine (NativeCall ρ ω) ρ JavaException α

/-- What the caller of a native method gets. -/
def outcomeOf {α : Type} : Ending JavaException α → Except Fault α
  | .returned a => .ok a
  | .thrown e => .error (.thrown e)
  | .crashed => .error .outOfBounds

abbrev JavaException.illegalState (m : String) : JavaException := ⟨.illegalStateException, m⟩

abbrev JavaException.nullPointer (m : String) : JavaException := ⟨.nullPointerException, m⟩

namespace NativeEnv

variable {ρ ω α : Type} [DecidableEq ρ]

/-- What a method does that first looks whether the library is there. -/
def whenInitialized (env : NativeEnv (NativeCall ρ ω)) (x : Except Fault α) : Except Fault α := do
  check (env.initialized = true) (.illegalState "vjblockchain not initialized.")
  x

omit [DecidableEq ρ] in
theorem whenInitialized_eq_ok_iff {env : NativeEnv (NativeCall ρ ω)} {x : Except Fault α} {a : α} :
    env.whenInitialized x = .ok a ↔ env.initialized = true ∧ x = .ok a := by
  rw [whenInitialized, bind_eq_ok_iff]
  constructor
  · rintro ⟨u, hchecked, hx⟩
    exact ⟨check_eq_ok_iff.mp hchecked, hx⟩
  · rintro ⟨hinitialized, hx⟩
    exact ⟨(), check_pos hinitialized, hx⟩

/-- A native method called with nothing acquired: what the caller gets, and what
became of the resources. -/
def invoke (env : NativeEnv (NativeCall ρ ω)) (labels : List ρ) (m : NativeMethod ρ ω α) :
    Except Fault α × Table ρ :=
  let (ending, table) := m.run labels env.fails .empty
  (outcomeOf ending, table)

end NativeEnv

/-- What is left behind by a method, if the exception `e` leaves `leaves e`. -/
def leftBehind {ρ α : Type} (leaves : JavaException → List ρ) : Except Fault α → List ρ
  | .error (.thrown e) => leaves e
  | _ => []

section Outcome

variable {ρ ω α : Type} [DecidableEq ρ] (env : NativeEnv (NativeCall ρ ω)) (labels : List ρ)

/-- **A native method that settles**: it ends as its function does, or throws
because a call has failed; and whatever it acquires it releases once. -/
structure Settles (m : NativeMethod ρ ω α) (x : Except Fault α) : Prop where
  outcome : (env.invoke labels m).1 = env.whenInitialized x ∨
    (∃ c, env.fails c = true) ∧ ∃ e, (env.invoke labels m).1 = .error (.thrown e)
  settled : (env.invoke labels m).2.Settled

/-- **A native method that leaves something behind**: unless it touches memory
outside a buffer, what is live at its end is what its exception leaves, and
everything else it acquired it has released once. -/
structure LeavesBehind (leaves : JavaException → List ρ) (m : NativeMethod ρ ω α)
    (x : Except Fault α) : Prop where
  outcome : (env.invoke labels m).1 = env.whenInitialized x ∨
    (∃ c, env.fails c = true) ∧ ∃ e, (env.invoke labels m).1 = .error (.thrown e)
  table : (env.invoke labels m).1 ≠ .error .outOfBounds →
    (env.invoke labels m).2.Balanced ∧
      (env.invoke labels m).2.live = leftBehind leaves (env.invoke labels m).1

end Outcome

/-- **What a method returns** is what its function does. -/
theorem LeavesBehind.of_ok {ρ ω α : Type} [DecidableEq ρ] {env : NativeEnv (NativeCall ρ ω)}
    {labels : List ρ} {leaves : JavaException → List ρ} {m : NativeMethod ρ ω α}
    {x : Except Fault α} (h : LeavesBehind env labels leaves m x) {a : α}
    (ha : (env.invoke labels m).1 = .ok a) : x = .ok a := by
  rcases h.outcome with hends | ⟨-, e, hthrown⟩
  · exact (NativeEnv.whenInitialized_eq_ok_iff.mp (hends.symm.trans ha)).2
  · cases hthrown.symm.trans ha

/-- A call has one exception. -/
def ThrowsOnly {α : Type} (x : Except Fault α) (e : JavaException) : Prop :=
  ∀ e', x = .error (.thrown e') → e' = e

namespace ThrowsOnly

variable {α β : Type} {e : JavaException}

theorem ok (a : α) : ThrowsOnly (.ok a : Except Fault α) e := nofun

theorem orThrow (x : Option α) : ThrowsOnly (Throwing.orThrow x (.thrown e)) e := by
  rintro e' h
  cases x with
  | none => exact (Fault.thrown.inj (Except.error.inj h)).symm
  | some a => cases h

/-- Memory is no exception. -/
theorem access (x : Option α) : ThrowsOnly (Throwing.orThrow x .outOfBounds) e := by
  rintro e' h
  cases x <;> cases h

theorem bind {x : Except Fault α} {f : α → Except Fault β} (hx : ThrowsOnly x e)
    (hf : ∀ a, ThrowsOnly (f a) e) : ThrowsOnly (x >>= f) e := by
  intro e' h
  cases x with
  | ok a => exact hf a e' h
  | error fault => exact hx e' (congrArg Except.error (Except.error.inj h))

/-- An array of a size that is not allowed. -/
theorem newByteArray (size : ℕ) (failure : String) :
    ThrowsOnly (VjBlockchain.newByteArray size failure) (.nullPointer failure) := by
  intro e' h
  rcases ite_eq_iff.mp h with ⟨-, hok⟩ | ⟨-, herror⟩
  · cases hok
  · exact (Fault.thrown.inj (Except.error.inj herror)).symm

theorem toByteArray (octets : Bytes) (e : JavaException) :
    ThrowsOnly (VjBlockchain.toByteArray octets (.thrown e)) e := by
  intro e' h
  unfold VjBlockchain.toByteArray at h
  by_cases hsize : octets.length < 2 ^ 31
  · rw [check_pos hsize] at h
    cases h
  · rw [check_neg hsize] at h
    exact (Fault.thrown.inj (Except.error.inj h)).symm

end ThrowsOnly

namespace NativeMethod

variable {ρ ω α β : Type}

/-! ## Steps -/

/-- The library is there. -/
def initialized (env : NativeEnv (NativeCall ρ ω)) : NativeMethod ρ ω Unit :=
  Routine.ensure (env.initialized = true) (.illegalState "vjblockchain not initialized.") none

/-- A resource that is made from an answer of the suite. -/
def create (r : ρ) (answer : Option α) (e : JavaException) (label : Option ρ) :
    NativeMethod ρ ω α :=
  Routine.acquiring (.acquire r) r answer e label

/-- A resource that is only refused when there is none to be had: a pinned array
or a buffer. -/
def claim (r : ρ) (e : JavaException) (label : Option ρ) : NativeMethod ρ ω Unit :=
  Routine.acquiring (.acquire r) r (some ()) e label

/-- An array that is pinned without a look at whether it was. -/
def unchecked (r : ρ) : NativeMethod ρ ω Unit := .acquire r (.done ())

/-- Another call of the suite. -/
def attempt (o : ω) (answer : Option α) (e : JavaException) (label : Option ρ) :
    NativeMethod ρ ω α :=
  Routine.attempt (.op o) answer e label

/-- A call that reads a pinned array, which is released right behind it. -/
def attemptReleasing (o : ω) (r : ρ) (answer : Option α) (e : JavaException)
    (label : Option ρ) : NativeMethod ρ ω α :=
  Routine.attemptReleasing (.op o) r answer e label

/-- A call that only the environment can fail. -/
def must (o : ω) (e : JavaException) (label : Option ρ) : NativeMethod ρ ω Unit :=
  Routine.attempt (.op o) (some ()) e label

/-- A call that goes through memory: it may leave a buffer as well. -/
def through (o : ω) (x : Except Fault α) (e : JavaException) (label : Option ρ) :
    NativeMethod ρ ω α :=
  .call (.op o) e label <|
    match x with
    | .ok a => .done a
    | .error (.thrown e') => .raise e' label
    | .error .outOfBounds => .crash

/-- What a method does when none of its calls fails. -/
def plain (m : NativeMethod ρ ω α) : Except Fault α := outcomeOf (m.ends fun _ => false)

/-! ## What a method does, and what it leaves -/

/-- How a method ends that would return `a`: so, or with an exception for a call
that has failed. -/
def EndsWith [DecidableEq ρ] (env : NativeEnv (NativeCall ρ ω)) (labels : List ρ)
    (m : NativeMethod ρ ω α) (a : α) : Prop :=
  (env.invoke labels m).1 = env.whenInitialized (.ok a) ∨
    (∃ c, env.fails c = true) ∧ ∃ e, (env.invoke labels m).1 = .error (.thrown e)

/-- Where no call fails. -/
theorem EndsWith.of_reliable [DecidableEq ρ] {env : NativeEnv (NativeCall ρ ω)} {labels : List ρ}
    {m : NativeMethod ρ ω α} {a : α} (h : EndsWith env labels m a)
    (hreliable : ∀ c, env.fails c = false) :
    (env.invoke labels m).1 = env.whenInitialized (.ok a) := by
  rcases h with hends | ⟨⟨c, hc⟩, -⟩
  · exact hends
  · cases (hreliable c).symm.trans hc

section Implements

variable [DecidableEq ρ] (labels : List ρ) (leaves : JavaException → List ρ)

/-- **A method, or the rest of one**, that does what a function does and keeps
the discipline of its labels. -/
structure Implements (held acquired : List ρ) (m : NativeMethod ρ ω α) (x : Except Fault α) :
    Prop where
  tidy : m.Tidy labels leaves held acquired
  plain : m.plain = x

namespace Implements

variable {labels leaves} {held acquired : List ρ} {r : ρ} {o : ω} {e : JavaException}
  {label : Option ρ} {f : α → NativeMethod ρ ω β} {g : α → Except Fault β}
  {f' : Unit → NativeMethod ρ ω β} {y : Except Fault β}

/-- **A native method against its function**, in any environment. -/
theorem leavesOf {env : NativeEnv (NativeCall ρ ω)} {m : NativeMethod ρ ω α} {x : Except Fault α}
    (h : Implements labels leaves [] [] m (env.whenInitialized x)) :
    LeavesBehind env labels leaves m x := by
  have hends : (env.invoke labels m).1 = outcomeOf (m.ends env.fails) :=
    congrArg outcomeOf (Routine.run_fst ..)
  constructor
  · rw [hends]
    rcases m.ends_eq_or env.fails with hreliable | ⟨hfails, e, hthrown⟩
    · exact .inl (by rw [hreliable]; exact h.plain)
    · exact .inr ⟨hfails, e, by rw [hthrown]; rfl⟩
  · intro hinside
    rw [hends] at hinside ⊢
    have hcrash : m.ends env.fails ≠ .crashed := fun hcrash => hinside (by rw [hcrash]; rfl)
    obtain ⟨acquired, hholds⟩ := h.tidy.holds env.fails .empty hcrash
    refine ⟨hholds.balanced, hholds.live.trans ?_⟩
    cases m.ends env.fails <;> rfl

/-- With nothing left by any exception, and inside its buffers. -/
theorem settles {env : NativeEnv (NativeCall ρ ω)} {m : NativeMethod ρ ω α} {x : Except Fault α}
    (h : Implements labels (fun _ => []) [] [] m (env.whenInitialized x)) (hx : InBounds x) :
    Settles env labels m x := by
  obtain ⟨houtcome, htable⟩ := h.leavesOf
  have hinside : (env.invoke labels m).1 ≠ .error .outOfBounds := by
    rcases houtcome with hends | ⟨-, e, hthrown⟩
    · rw [hends]
      exact (InBounds.bind (.check ..) fun _ _ => hx).ne
    · rw [hthrown]
      exact nofun
  obtain ⟨hbalanced, hlive⟩ := htable hinside
  refine ⟨houtcome, hbalanced.settled_iff.mpr (hlive.trans ?_)⟩
  unfold leftBehind
  split <;> rfl

/-- Where its function returns. -/
theorem endsWith {env : NativeEnv (NativeCall ρ ω)} {m : NativeMethod ρ ω α} {x : Except Fault α}
    {a : α} (h : Implements labels leaves [] [] m (env.whenInitialized x)) (hx : x = .ok a) :
    EndsWith env labels m a := by
  rw [EndsWith, ← hx]
  exact h.leavesOf.outcome

/-! ### Step by step -/

theorem done (hlabels : held = labels) (a : α) :
    Implements labels leaves held acquired (pure a : NativeMethod ρ ω α) (.ok a) := ⟨hlabels, rfl⟩

theorem create {answer : Option α}
    (hexit : held = leaves e ++ Routine.fallFrom labels label) (hr : r ∉ acquired)
    (hf : ∀ a, Implements labels leaves (r :: held) (r :: acquired) (f a) (g a)) :
    Implements labels leaves held acquired (NativeMethod.create r answer e label >>= f)
      (orThrow answer (.thrown e) >>= g) where
  tidy := Routine.tidy_acquiring_bind hexit hr fun a => (hf a).tidy
  plain := by
    cases answer with
    | none => rfl
    | some a => exact (hf a).plain

theorem claim (hexit : held = leaves e ++ Routine.fallFrom labels label)
    (hr : r ∉ acquired) (hf : Implements labels leaves (r :: held) (r :: acquired) (f' ()) y) :
    Implements labels leaves held acquired (NativeMethod.claim r e label >>= f') y where
  tidy := Routine.tidy_acquiring_bind hexit hr fun _ => hf.tidy
  plain := hf.plain

theorem attempt {answer : Option α}
    (hexit : held = leaves e ++ Routine.fallFrom labels label)
    (hf : ∀ a, Implements labels leaves held acquired (f a) (g a)) :
    Implements labels leaves held acquired (NativeMethod.attempt o answer e label >>= f)
      (orThrow answer (.thrown e) >>= g) where
  tidy := Routine.tidy_attempt_bind hexit fun a => (hf a).tidy
  plain := by
    cases answer with
    | none => rfl
    | some a => exact (hf a).plain

theorem unchecked (hr : r ∉ acquired)
    (hf : Implements labels leaves (r :: held) (r :: acquired) (f' ()) y) :
    Implements labels leaves held acquired (NativeMethod.unchecked r >>= f') y where
  tidy := ⟨hr, hf.tidy⟩
  plain := hf.plain

theorem attemptReleasing {answer : Option α} (hr : r ∈ held)
    (hexit : held.erase r = leaves e ++ Routine.fallFrom labels label)
    (hf : ∀ a, Implements labels leaves (held.erase r) acquired (f a) (g a)) :
    Implements labels leaves held acquired
      (NativeMethod.attemptReleasing o r answer e label >>= f)
      (orThrow answer (.thrown e) >>= g) where
  tidy := Routine.tidy_attemptReleasing_bind hr hexit fun a => (hf a).tidy
  plain := by
    cases answer with
    | none => rfl
    | some a => exact (hf a).plain

theorem must (hexit : held = leaves e ++ Routine.fallFrom labels label)
    (hf : Implements labels leaves held acquired (f' ()) y) :
    Implements labels leaves held acquired (NativeMethod.must o e label >>= f') y where
  tidy := Routine.tidy_attempt_bind hexit fun _ => hf.tidy
  plain := hf.plain

/-- A call through memory that throws nothing else. -/
theorem through {x : Except Fault α}
    (hexit : held = leaves e ++ Routine.fallFrom labels label) (hthrows : ThrowsOnly x e)
    (hf : ∀ a, Implements labels leaves held acquired (f a) (g a)) :
    Implements labels leaves held acquired (NativeMethod.through o x e label >>= f) (x >>= g) where
  tidy := by
    refine ⟨hexit, ?_⟩
    cases x with
    | ok a => exact (hf a).tidy
    | error fault =>
      cases fault with
      | thrown e' =>
        obtain rfl := hthrows e' rfl
        exact hexit
      | outOfBounds => exact trivial
  plain := by
    cases x with
    | ok a => exact (hf a).plain
    | error fault => cases fault <;> rfl

/-- A constructor called through the virtual machine, when no exception leaves
anything. -/
theorem construct {x : Except Fault α}
    (hexit : ∀ e, held = leaves e ++ Routine.fallFrom labels label)
    (hf : ∀ a, Implements labels leaves held acquired (f a) (g a)) :
    Implements labels leaves held acquired (NativeMethod.through o x e label >>= f) (x >>= g) where
  tidy := by
    refine ⟨hexit e, ?_⟩
    cases x with
    | ok a => exact (hf a).tidy
    | error fault =>
      cases fault with
      | thrown e' => exact hexit e'
      | outOfBounds => exact trivial
  plain := by
    cases x with
    | ok a => exact (hf a).plain
    | error fault => cases fault <;> rfl

theorem require {answer : Option α}
    (hexit : held = leaves e ++ Routine.fallFrom labels label)
    (hf : ∀ a, Implements labels leaves held acquired (f a) (g a)) :
    Implements labels leaves held acquired (Routine.require answer e label >>= f)
      (orThrow answer (.thrown e) >>= g) where
  tidy := Routine.tidy_require_bind hexit fun a => (hf a).tidy
  plain := by
    cases answer with
    | none => rfl
    | some a => exact (hf a).plain

theorem ensure {p : Prop} [Decidable p] {g' : Unit → Except Fault β}
    (hexit : held = leaves e ++ Routine.fallFrom labels label)
    (hf : Implements labels leaves held acquired (f' ()) (g' ())) :
    Implements labels leaves held acquired (Routine.ensure p e label >>= f')
      (check p (.thrown e) >>= g') where
  tidy := Routine.tidy_ensure_bind hexit hf.tidy
  plain := by
    unfold Routine.ensure check
    split
    · exact hf.plain
    · rfl

theorem access {x : Option α}
    (hf : ∀ a, Implements labels leaves held acquired (f a) (g a)) :
    Implements labels leaves held acquired (Routine.access x >>= f)
      (orThrow x .outOfBounds >>= g) where
  tidy := Routine.tidy_access_bind fun a => (hf a).tidy
  plain := by
    cases x with
    | none => rfl
    | some a => exact (hf a).plain

/-- What only memory can stop. -/
theorem memory {x : Except Fault α} (hx : ∀ e, x ≠ .error (.thrown e))
    (hf : ∀ a, Implements labels leaves held acquired (f a) (g a)) :
    Implements labels leaves held acquired (Routine.access x.toOption >>= f) (x >>= g) := by
  cases x with
  | ok a => exact hf a
  | error fault =>
    cases fault with
    | thrown e => exact absurd rfl (hx e)
    | outOfBounds => exact ⟨trivial, rfl⟩

theorem dispose (hr : r ∈ held) (hf : Implements labels leaves (held.erase r) acquired (f' ()) y) :
    Implements labels leaves held acquired (Routine.dispose r >>= f') y where
  tidy := Routine.tidy_dispose_bind hr hf.tidy
  plain := hf.plain

/-- The last step of a function need not be the last of its method. -/
theorem of_bind_ok {m : NativeMethod ρ ω α} {x : Except Fault α}
    (h : Implements labels leaves held acquired m (x >>= .ok)) :
    Implements labels leaves held acquired m x := by
  cases x <;> exact h

/-- A step at the end of both. -/
theorem of_bind_pure {m : NativeMethod ρ ω α} {x : Except Fault α}
    (h : Implements labels leaves held acquired (m >>= pure) (x >>= .ok)) :
    Implements labels leaves held acquired m x := by
  rw [Routine.bind_pure] at h
  exact h.of_bind_ok

end Implements

end Implements

end NativeMethod

/-! ## Methods that leave with their answer -/

/-- A part, with result `β`, of a native method that may also leave through a
label with its answer. -/
abbrev Answering (ρ ω α β : Type) := Routine (NativeCall ρ ω) ρ (JavaException ⊕ α) β

/-- Such a method called with nothing acquired. -/
def NativeEnv.ask {ρ ω α : Type} [DecidableEq ρ] (env : NativeEnv (NativeCall ρ ω))
    (labels : List ρ) (m : Answering ρ ω α α) : Except Fault α × Table ρ :=
  let (ending, table) := m.run labels env.fails .empty
  (outcomeOf ending.early, table)

namespace Answering

variable {ρ ω α β : Type}

/-- A pinned array or a buffer. -/
def claim (r : ρ) (e : JavaException) (label : Option ρ) :
    Answering ρ ω α Unit :=
  Routine.acquiring (.acquire r) r (some ()) (.inl e) label

/-- A call of the suite that succeeds or decides the answer. -/
def decided (o : ω) (p : Prop) [Decidable p] (a : α) (label : Option ρ) :
    Answering ρ ω α Unit :=
  .call (.op o) (.inr a) label (Routine.ensure p (.inr a) label)

/-- **The rest of such a method**: what it answers when no call fails, the
discipline of its labels, and which call may decide the answer by failing. -/
structure Answers [DecidableEq ρ] (labels : List ρ) (may : ω → α → Prop) (held acquired : List ρ)
    (m : Answering ρ ω α α) (x : Except Fault α) : Prop where
  tidy : m.Tidy labels (fun _ => []) held acquired
  throws : m.Throws fun c e => ∀ a, e = .inr a → ∃ o, c = .op o ∧ may o a
  plain : outcomeOf (m.ends fun _ => false).early = x

namespace Answers

variable [DecidableEq ρ] {labels : List ρ} {may : ω → α → Prop} {held acquired : List ρ} {r : ρ}
  {o : ω} {e : JavaException} {label : Option ρ} {a : α} {f : β → Answering ρ ω α α}
  {g : β → Except Fault α} {f' : Unit → Answering ρ ω α α} {y : Except Fault α}

theorem done (hlabels : held = labels) (a : α) :
    Answers labels may held acquired (pure a : Answering ρ ω α α) (.ok a) := ⟨hlabels, trivial, rfl⟩

theorem require {answer : Option β} (hexit : held = Routine.fallFrom labels label)
    (hf : ∀ b, Answers labels may held acquired (f b) (g b)) :
    Answers labels may held acquired (Routine.require answer (.inl e) label >>= f)
      (orThrow answer (.thrown e) >>= g) := by
  cases answer with
  | none => exact ⟨hexit, trivial, rfl⟩
  | some b => exact ⟨(hf b).tidy, (hf b).throws, (hf b).plain⟩

theorem ensure {p : Prop} [Decidable p] {g' : Unit → Except Fault α}
    (hexit : held = Routine.fallFrom labels label)
    (hf : Answers labels may held acquired (f' ()) (g' ())) :
    Answers labels may held acquired (Routine.ensure p (.inl e) label >>= f')
      (check p (.thrown e) >>= g') := by
  unfold Routine.ensure check
  split
  · exact hf
  · exact ⟨hexit, trivial, rfl⟩

theorem claim (hexit : held = Routine.fallFrom labels label) (hr : r ∉ acquired)
    (hf : Answers labels may (r :: held) (r :: acquired) (f' ()) y) :
    Answers labels may held acquired (Answering.claim r e label >>= f') y where
  tidy := Routine.tidy_acquiring_bind hexit hr fun _ => hf.tidy
  throws := ⟨(fun a h => by cases h), hf.throws⟩
  plain := hf.plain

/-- A check that decides the answer. -/
theorem decide {p : Prop} [Decidable p] (hexit : held = Routine.fallFrom labels label)
    (hf : Answers labels may held acquired (f' ()) y) :
    Answers labels may held acquired (Routine.ensure p (.inr a) label >>= f')
      (if p then y else .ok a) := by
  unfold Routine.ensure
  split
  · exact hf
  · exact ⟨hexit, trivial, rfl⟩

/-- A call that decides the answer. -/
theorem decided {p : Prop} [Decidable p] (hmay : may o a)
    (hexit : held = Routine.fallFrom labels label)
    (hf : Answers labels may held acquired (f' ()) y) :
    Answers labels may held acquired (Answering.decided o p a label >>= f')
      (if p then y else .ok a) where
  tidy := ⟨hexit, (decide hexit hf).tidy⟩
  throws := by
    refine ⟨fun a' h => ⟨o, rfl, ?_⟩, (decide hexit hf).throws⟩
    rwa [← Sum.inr.inj h]
  plain := (decide hexit hf).plain

/-- **What such a method does in any environment**: what it does when no call
fails; or it throws, or answers by the call that failed. -/
theorem outcome {env : NativeEnv (NativeCall ρ ω)} {m : Answering ρ ω α α}
    {x : Except Fault α} (h : Answers labels may [] [] m x) :
    (env.ask labels m).1 = x ∨
      (∃ c, env.fails c = true) ∧ (∃ e, (env.ask labels m).1 = .error (.thrown e)) ∨
      ∃ o a, env.fails (.op o) = true ∧ may o a ∧ (env.ask labels m).1 = .ok a := by
  have hends : (env.ask labels m).1 = outcomeOf (m.ends env.fails).early :=
    congrArg (outcomeOf ∘ Ending.early) (Routine.run_fst ..)
  rw [hends]
  rcases h.throws.ends_eq_or env.fails with hplain | ⟨c, e, hc, hmay, hthrown⟩
  · exact .inl (by rw [hplain]; exact h.plain)
  · rw [hthrown]
    cases e with
    | inl e => exact .inr (.inl ⟨⟨c, hc⟩, e, rfl⟩)
    | inr a =>
      obtain ⟨o, rfl, hanswer⟩ := hmay a rfl
      exact .inr (.inr ⟨o, a, hc, hanswer, rfl⟩)

/-- And it settles, unless it touches memory outside a buffer. -/
theorem settled {env : NativeEnv (NativeCall ρ ω)} {m : Answering ρ ω α α}
    {x : Except Fault α} (h : Answers labels may [] [] m x) (hx : InBounds x) :
    (env.ask labels m).2.Settled := by
  have hcrash : m.ends env.fails ≠ .crashed := by
    intro hcrash
    rcases h.throws.ends_eq_or env.fails with hplain | ⟨c, e, -, -, hthrown⟩
    · refine hx.ne ?_
      rw [← h.plain, ← hplain, hcrash]
      rfl
    · cases hcrash.symm.trans hthrown
  obtain ⟨acquired, hholds⟩ := h.tidy.holds env.fails .empty hcrash
  refine hholds.balanced.settled_iff.mpr (hholds.live.trans ?_)
  cases m.ends env.fails <;> rfl

end Answers

end Answering

end VjBlockchain
