import VjBlockchain.Common.Buffer
import VjBlockchain.Common.Effect
/-!
# The Java runtime — exceptions and arrays

A method of the source returns or throws, and what it throws is a class and
a message. Native code has a third way to end: it may touch memory outside a
buffer, which no `catch` sees. `Fault` has the two, and keeps them apart.

An array is a byte string. The two library routines the source cuts and
fills arrays with are `Arrays.copyOfRange` and `System.arraycopy`; both check
their bounds here as the library does.
-/

namespace VjBlockchain

open Common Common.Bytes Common.Throwing

/-- The exception classes the modelled code throws. -/
inductive ExceptionClass
  | illegalStateException
  | illegalArgumentException
  | nullPointerException
  | arrayIndexOutOfBoundsException
  | negativeArraySizeException
  | bufferUnderflowException
  | indexOutOfBoundsException
  | characterCodingException
  | dateTimeException
  | ioException
  | connectException
  | messageVerificationException
  | invalidPacketTypeException
  | invalidPayloadSizeException
  | invalidRequestIdException
  | errorStatusException
  | unsupportedProtocolVersionException
  | unsupportedCryptoSuiteVersion
  | agentVerificationException
  | missingFieldException
  | fieldConversionException
  | attestationException
  | unknownEntityException
  | messageAuthenticationException
  | invalidKeySizeException
  /-- A class that only code handed to the modelled code throws. -/
  | other (name : String)
  deriving DecidableEq, Repr

/-- An exception object: its class and its message. -/
structure JavaException where
  type : ExceptionClass
  message : String
  deriving DecidableEq, Repr

/-- How a method fails: with an exception, or in native code by leaving the
bounds of a buffer. -/
inductive Fault
  | thrown (e : JavaException)
  | outOfBounds
  deriving DecidableEq, Repr

/-- An exception of class `t` with message `m`. -/
abbrev Fault.java (t : ExceptionClass) (m : String) : Fault := .thrown ⟨t, m⟩

abbrev Fault.illegalState (m : String) : Fault := .java .illegalStateException m

/-! ## Staying inside

Code that fails only by throwing. The predicate is carried through a method
bind by bind. -/

/-- The method does not leave the bounds of a buffer. -/
structure InBounds {α : Type} (x : Except Fault α) : Prop where
  ne : x ≠ .error .outOfBounds

namespace InBounds

variable {α β : Type}

theorem ok (a : α) : InBounds (.ok a : Except Fault α) := ⟨fun h => nomatch h⟩

theorem bind {x : Except Fault α} {f : α → Except Fault β} (hx : InBounds x)
    (hf : ∀ a, x = .ok a → InBounds (f a)) : InBounds (x >>= f) := by
  refine ⟨fun h => ?_⟩
  cases hxa : x with
  | error e =>
    rw [bind_error hxa] at h
    exact hx.ne (hxa.trans (congrArg Except.error (Except.error.inj h)))
  | ok a =>
    rw [bind_ok hxa] at h
    exact (hf a hxa).ne h

/-- A refused call that becomes an exception stays in bounds. -/
theorem orThrow (x : Option α) (e : JavaException) : InBounds (orThrow x (.thrown e)) := by
  refine ⟨fun h => ?_⟩
  cases x <;> cases h

theorem check (p : Prop) [Decidable p] (e : JavaException) :
    InBounds (check p (.thrown e)) := by
  refine ⟨fun h => ?_⟩
  by_cases hp : p
  · rw [check_pos hp] at h
    cases h
  · rw [check_neg hp] at h
    cases h

/-- What fails in bounds failed with an exception. -/
theorem thrown {x : Except Fault α} (hx : InBounds x) {f : Fault} (h : x = .error f) :
    ∃ e, f = .thrown e := by
  cases f with
  | thrown e => exact ⟨e, rfl⟩
  | outOfBounds => exact absurd h hx.ne

end InBounds

/-! ## Arrays -/

/-- `Arrays.copyOfRange`: the octets from `i` up to `j`, zeros past the end of
the array. -/
def copyOfRange (a : Bytes) (i j : ℕ) : Except Fault Bytes :=
  if j < i then
    .error (.java .illegalArgumentException (toString i ++ " > " ++ toString j))
  else if a.length < i then
    .error (.java .arrayIndexOutOfBoundsException "")
  else
    .ok (slice a i j ++ zeros (j - max i a.length))

/-- Inside the array `copyOfRange` is a cut. -/
theorem copyOfRange_eq {a : Bytes} {i j : ℕ} (hij : i ≤ j) (hj : j ≤ a.length) :
    copyOfRange a i j = .ok (slice a i j) := by
  have hpad : j - max i a.length = 0 := by omega
  rw [copyOfRange, if_neg (by omega), if_neg (by omega), hpad]
  simp [zeros]

/-- From inside the array `copyOfRange` has all the octets asked for. -/
theorem exists_copyOfRange {a : Bytes} {i j : ℕ} (hij : i ≤ j) (hi : i ≤ a.length) :
    ∃ out, copyOfRange a i j = .ok out ∧ out.length = j - i := by
  refine ⟨slice a i j ++ zeros (j - max i a.length), ?_, ?_⟩
  · rw [copyOfRange, if_neg (by omega), if_neg (by omega)]
  · rw [List.length_append, length_slice, length_zeros]
    omega

/-- From behind the array there is nothing to copy. -/
theorem copyOfRange_behind {a : Bytes} {i j : ℕ} (hij : i ≤ j) (hi : a.length < i) :
    copyOfRange a i j = .error (.java .arrayIndexOutOfBoundsException "") := by
  rw [copyOfRange, if_neg (by omega), if_pos hi]

/-- `System.arraycopy`, as the destination array it leaves. -/
def arraycopy (src : Bytes) (srcPos : ℕ) (dest : Bytes) (destPos length : ℕ) :
    Except Fault Bytes :=
  if src.length < srcPos + length then
    .error (.java .arrayIndexOutOfBoundsException "")
  else
    orThrow (Buffer.write dest destPos (slice src srcPos (srcPos + length)))
      (.java .arrayIndexOutOfBoundsException "")

/-- A copy that returns had room, and moved nothing. -/
theorem length_of_arraycopy {src dest out : Bytes} {srcPos destPos length : ℕ}
    (h : arraycopy src srcPos dest destPos length = .ok out) :
    out.length = dest.length ∧ destPos + length ≤ dest.length := by
  rw [arraycopy] at h
  split_ifs at h with hsrc
  have hwrite := orThrow_eq_ok_iff.mp h
  obtain ⟨hfit, -⟩ := Option.ite_none_right_eq_some.mp hwrite
  rw [length_slice] at hfit
  exact ⟨Buffer.length_write hwrite, by omega⟩

/-- **Filling an array in order**: a whole array copied right behind what is
written already takes its place there. -/
theorem arraycopy_next {src pre : Bytes} {o n k : ℕ} (ho : pre.length = o)
    (hk : src.length = k) (hn : k ≤ n) :
    arraycopy src 0 (pre ++ zeros n) o k = .ok (pre ++ src ++ zeros (n - k)) := by
  subst hk
  rw [arraycopy, if_neg (by omega), Nat.zero_add, slice_self _ _ le_rfl,
    Buffer.write_zeros ho hn, orThrow_some]

/-- The last array, which takes all that is left. -/
theorem arraycopy_last {src pre : Bytes} {o k : ℕ} (ho : pre.length = o) (hk : src.length = k) :
    arraycopy src 0 (pre ++ zeros k) o k = .ok (pre ++ src) := by
  rw [arraycopy_next ho hk le_rfl, Nat.sub_self, zeros_zero, List.append_nil]

/-- The first array copied into a fresh one. -/
theorem arraycopy_first {src : Bytes} {n k : ℕ} (hk : src.length = k) (hn : k ≤ n) :
    arraycopy src 0 (zeros n) 0 k = .ok (src ++ zeros (n - k)) := by
  simpa using @arraycopy_next src [] 0 n k rfl hk hn

/-! ## Native code -/

/-- The environment of a native method: whether the library has been
initialised, and which of the calls the method makes will fail. -/
structure NativeEnv (κ : Type) where
  initialized : Bool
  fails : κ → Bool

namespace NativeEnv

variable {κ α : Type} (env : NativeEnv κ) (c : κ)

/-- A call fails, or gives its answer, which may be a refusal. -/
def call (answer : Option α) : Option α := if env.fails c then none else answer

theorem call_cases (answer : Option α) :
    env.fails c = true ∧ env.call c answer = none ∨
      env.fails c = false ∧ env.call c answer = answer := by
  unfold call
  cases env.fails c
  · exact .inr ⟨rfl, rfl⟩
  · exact .inl ⟨rfl, rfl⟩

@[simp] theorem call_eq_some_iff {answer : Option α} {a : α} :
    env.call c answer = some a ↔ env.fails c = false ∧ answer = some a := by
  rcases env.call_cases c answer with ⟨hfails, hcall⟩ | ⟨hfails, hcall⟩
  · simp [hfails, hcall]
  · simp [hfails, hcall]

end NativeEnv

end VjBlockchain
