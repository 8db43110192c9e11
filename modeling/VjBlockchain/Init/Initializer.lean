import VjBlockchain.Common.Cleanup
import VjBlockchain.Common.Once
import VjBlockchain.Util.Runtime
/-!
# The initializer

Every native method is handed the address of one native instance.
`Initializer.getInstance` makes it, once: it copies the native library out of
the resources into a temporary file, loads that, and has `blockchainInit` make
an instance and register in it all that native code needs of Java.

Any of this may fail, and then the next call tries again. A `Load` has what
decides how one try turns out. `getInstance` is synchronized, so any number of
threads that call it make one sequence of calls.
-/

namespace VjBlockchain

open Common Common.Bytes Common.Throwing

/-! ## The native side -/

/-- A native instance: what has been initialized in it, in order, and whether
that is all. -/
structure NativeInstance where
  registered : List String
  initialized : Bool
  deriving DecidableEq, Repr

/-- What `INIT_OR_FAIL` is called for, under the names it gives in its
exceptions. -/
def INIT_STEPS : List String :=
  ["vccrypt suite options", "vccert builder options", "AttestationException", "Certificate",
    "CertificateBuilder", "CertificateContract", "CertificateParser", "CertificateParserDelegate",
    "EncryptionKeyPair", "EncryptionPrivateKey", "EncryptionPublicKey", "InvalidKeySizeException",
    "Message", "MessageVerificationException", "EntityReference", "HashMap",
    "IllegalArgumentException", "Integer", "Key", "LinkedList", "MessageAuthenticationException",
    "NullPointerException", "Optional", "SimpleEntry", "Signature", "SigningKeyPair",
    "SigningPrivateKey", "SigningPublicKey", "SimpleStreamCipher", "TransactionStatus",
    "UnknownArtifactException", "UnknownArtifactTypeException", "UnknownEntityException", "UUID"]

/-- How the calls of `blockchainInit` turn out. -/
structure Boot where
  /-- `malloc` has memory. -/
  allocates : Bool
  /-- `IllegalStateException_register` fails, and leaves an exception pending or
  none. -/
  refused : Option (Option JavaException)
  fails : String → Bool

/-- `INIT_OR_FAIL`, for one step after the other: the instance, and the step
that has failed. -/
def initOrFail (fails : String → Bool) : List String → NativeInstance →
    NativeInstance × Option String
  | [], inst => (inst, none)
  | text :: steps, inst =>
    if fails text then (inst, some text)
    else initOrFail fails steps { inst with registered := inst.registered ++ [text] }

/-- The unfinished instance that is left when a step fails. -/
def Boot.left (b : Boot) : Option NativeInstance :=
  match b.refused with
  | some _ => none
  | none =>
    let (inst, failed) := initOrFail b.fails INIT_STEPS ⟨[], false⟩
    failed.map fun _ => inst

/-! ## The Java side -/

/-- What one try to load the library holds. -/
inductive Handle
  | input
  | output
  | file
  deriving DecidableEq, Repr

/-- How one try turns out. -/
structure Load where
  /-- The library, if it is among the resources. -/
  resource : Option Bytes
  createTempFile : Option JavaException
  openOutput : Option JavaException
  /-- How much each `read` gives, as far as there is as much. -/
  sizes : ℕ → ℕ
  read : ℕ → Option JavaException
  write : ℕ → Option JavaException
  /-- `System.load` of a file with these octets. -/
  load : Bytes → Option JavaException
  boot : Boot

/-- A call that throws or not. -/
def raise : Option JavaException → Except Fault Unit
  | none => .ok ()
  | some e => .error (.thrown e)

namespace Load

variable (l : Load)

/-- The loop that copies what is left, with what has been written. -/
def copyLoop (i : ℕ) (left written : Bytes) : Except Fault Bytes := do
  raise (l.read i)
  if left = [] then .ok written
  else
    let length := min (max 1 (l.sizes i)) 16384
    raise (l.write i)
    copyLoop (i + 1) (left.drop length) (written ++ left.take length)
termination_by left.length
decreasing_by
  rename_i hleft
  have hpos := List.length_pos_iff.mpr hleft
  rw [List.length_drop]
  omega

/-- The octets in the temporary file. -/
def copy : Except Fault Bytes :=
  match l.resource with
  | none => .error (.java .nullPointerException "")
  | some octets => l.copyLoop 0 octets []

end Load

/-- The static fields, the instances that have been allocated, and the streams
and files of each try. An instance is named by its place among those; an
address of zero is none. -/
structure Statics where
  initialized : Bool
  nativeInstance : ℕ
  loaded : Bool
  heap : List NativeInstance
  tries : ℕ
  handles : Table (ℕ × Handle)
  deriving Repr

namespace Initializer

/-- `blockchainInit`. An instance is freed only if there is not even an
exception to throw. -/
def blockchainInit (b : Boot) : EStateM Fault Statics ℕ := fun s =>
  if b.allocates = false then .error .outOfBounds s
  else
    match b.refused with
    | some (some e) => .error (.thrown e) s
    | some none => .ok 0 s
    | none =>
      match initOrFail b.fails INIT_STEPS ⟨[], false⟩ with
      | (inst, some text) =>
        .error (.illegalState (text ++ " not initialized.")) { s with heap := s.heap ++ [inst] }
      | (inst, none) =>
        .ok (s.heap.length + 1) { s with heap := s.heap ++ [{ inst with initialized := true }] }

/-- A stream or a file of a try. -/
def hold (k : ℕ) (h : Handle) : EStateM Fault Statics Unit :=
  modify fun s => { s with handles := s.handles.acquire (k, h) }

/-- `getResourceAsStream`, which may be `null`. -/
def openInput (k : ℕ) (l : Load) : EStateM Fault Statics Unit :=
  if l.resource.isSome then hold k .input else pure ()

/-- The `try` block up to the library's own code. -/
def stage (k : ℕ) (l : Load) : EStateM Fault Statics Unit := do
  openInput k l
  Effect.lift (raise l.createTempFile)
  hold k .file
  Effect.lift (raise l.openOutput)
  hold k .output
  let octets ← Effect.lift l.copy
  Effect.lift (raise (l.load octets))

/-- What becomes of the instance's address. -/
def accept (address : ℕ) : EStateM Fault Statics Unit := fun s =>
  if address = 0 then
    .error (.illegalState "Bad vjblockchain registration.") { s with nativeInstance := 0 }
  else .ok () { s with nativeInstance := address, loaded := true }

/-- The `try` block. -/
def tryLoad (k : ℕ) (l : Load) : EStateM Fault Statics Unit := do
  stage k l
  let address ← blockchainInit l.boot
  accept address

/-- The `catch` clause. -/
def caught (e : JavaException) : JavaException :=
  if e.type = .ioException then ⟨.illegalStateException, "Could not load class lib"⟩ else e

/-- What was opened is closed; an exception of `close` is dropped. A file is
deleted on exit. -/
def closeIfOpen (k : ℕ) (h : Handle) (t : Table (ℕ × Handle)) : Table (ℕ × Handle) :=
  if (k, h) ∈ t.live then t.release (k, h) else t

/-- The `finally` clause. -/
def finish (k : ℕ) (s : Statics) : Statics :=
  { s with
    handles := closeIfOpen k .file (closeIfOpen k .output (closeIfOpen k .input s.handles)) }

/-- `init`. Nothing follows when native code ends the process. -/
def init (l : Load) : EStateM Fault Statics Unit := fun s =>
  if s.loaded then .ok () s
  else
    match tryLoad s.tries l { s with tries := s.tries + 1 } with
    | .ok () s' => .ok () (finish s.tries s')
    | .error (.thrown e) s' => .error (.thrown (caught e)) (finish s.tries s')
    | .error .outOfBounds s' => .error .outOfBounds s'

/-- `getInstance`, the first time. -/
def firstInstance (l : Load) : EStateM Fault Statics ℕ := do
  init l
  modify fun s => { s with initialized := true }
  let s ← get
  pure s.nativeInstance

def getInstance (l : Load) : EStateM Fault Statics ℕ := fun s =>
  if s.initialized then .ok s.nativeInstance s else firstInstance l s

/-- Before the first call. -/
def start : Statics := ⟨false, 0, false, [], 0, .empty⟩

end Initializer

/-! ## One try -/

namespace Load

variable {l : Load}

/-- **The loop copies everything**, if it comes to its end. -/
theorem copyLoop_ok {i : ℕ} {left written octets : Bytes}
    (h : l.copyLoop i left written = .ok octets) : octets = written ++ left := by
  induction i, left, written using Load.copyLoop.induct l with
  | case1 i left written ih =>
    rw [copyLoop] at h
    obtain ⟨_, -, h⟩ := bind_eq_ok_iff.mp h
    by_cases hleft : left = []
    · rw [if_pos hleft] at h
      rw [hleft, List.append_nil]
      exact (Except.ok.inj h).symm
    · rw [if_neg hleft] at h
      obtain ⟨_, -, h⟩ := bind_eq_ok_iff.mp h
      rw [ih hleft h, List.append_assoc, List.take_append_drop]

/-- What is loaded is the library in full. -/
theorem copy_ok {octets : Bytes} (h : l.copy = .ok octets) : l.resource = some octets := by
  rw [copy] at h
  cases hresource : l.resource with
  | none =>
    rw [hresource] at h
    cases h
  | some bytes =>
    rw [hresource] at h
    rw [copyLoop_ok h, List.nil_append]

/-- What is thrown before the library's own code runs, if anything. -/
def prepare (l : Load) : Except Fault Unit := do
  raise l.createTempFile
  raise l.openOutput
  let octets ← l.copy
  raise (l.load octets)

/-- The library is loaded in full. -/
theorem prepare_ok (h : l.prepare = .ok ()) :
    ∃ octets, l.resource = some octets ∧ l.load octets = none := by
  obtain ⟨_, -, h⟩ := bind_eq_ok_iff.mp h
  obtain ⟨_, -, h⟩ := bind_eq_ok_iff.mp h
  obtain ⟨octets, hcopy, h⟩ := bind_eq_ok_iff.mp h
  refine ⟨octets, copy_ok hcopy, ?_⟩
  cases hload : l.load octets with
  | none => rfl
  | some e =>
    rw [hload] at h
    cases h

/-- The unfinished instance a try leaves, if it leaves one. -/
def left (l : Load) : Option NativeInstance :=
  match l.prepare with
  | .ok _ => l.boot.left
  | .error _ => none

end Load

theorem raise_inBounds (x : Option JavaException) : InBounds (raise x) := by
  cases x with
  | none => exact .ok ()
  | some e => exact ⟨fun h => by cases h⟩

theorem Load.copyLoop_inBounds (l : Load) (i : ℕ) (left written : Bytes) :
    InBounds (l.copyLoop i left written) := by
  induction i, left, written using Load.copyLoop.induct l with
  | case1 i left written ih =>
    rw [copyLoop]
    refine .bind (raise_inBounds _) fun _ _ => ?_
    by_cases hleft : left = []
    · rw [if_pos hleft]
      exact .ok _
    · rw [if_neg hleft]
      exact .bind (raise_inBounds _) fun _ _ => ih hleft

theorem Load.prepare_inBounds (l : Load) : InBounds l.prepare := by
  refine .bind (raise_inBounds _) fun _ _ => .bind (raise_inBounds _) fun _ _ =>
    .bind ?_ fun _ _ => raise_inBounds _
  rw [copy]
  cases l.resource with
  | none => exact ⟨fun h => by cases h⟩
  | some octets => exact l.copyLoop_inBounds 0 octets []

/-- All steps have been made, in order, or the instance is not all there. -/
theorem initOrFail_eq (fails : String → Bool) (steps : List String) (inst : NativeInstance) :
    (initOrFail fails steps inst).1.initialized = inst.initialized ∧
      ((initOrFail fails steps inst).2 = none →
        (initOrFail fails steps inst).1.registered = inst.registered ++ steps) := by
  induction steps generalizing inst with
  | nil => exact ⟨rfl, fun _ => (List.append_nil _).symm⟩
  | cons text steps ih =>
    rw [initOrFail]
    split
    · exact ⟨rfl, fun h => by cases h⟩
    · obtain ⟨hinitialized, hregistered⟩ := ih { inst with registered := inst.registered ++ [text] }
      refine ⟨hinitialized, fun h => ?_⟩
      rw [hregistered h, List.append_assoc]
      rfl

namespace Initializer

/-! ### What it holds -/

/-- What is open is a handle of this try. -/
structure Opened (k : ℕ) (t : Table (ℕ × Handle)) : Prop where
  balanced : t.Balanced
  live : ∀ x ∈ t.live, x.1 = k
  acquired : ∀ x ∈ t.acquired, x.1 ≤ k

/-- Nothing is open, and no handle of this try has been. -/
structure Closed (k : ℕ) (t : Table (ℕ × Handle)) : Prop where
  balanced : t.Balanced
  live : t.live = []
  acquired : ∀ x ∈ t.acquired, x.1 < k

theorem Closed.opened {k : ℕ} {t : Table (ℕ × Handle)} (h : Closed k t) : Opened k t :=
  ⟨h.balanced, by simp [h.live], fun x hx => (h.acquired x hx).le⟩

/-- A handle that was not held. -/
theorem Opened.acquire {k : ℕ} {t : Table (ℕ × Handle)} (h : Opened k t) {handle : Handle}
    (hnew : (k, handle) ∉ t.acquired) : Opened k (t.acquire (k, handle)) where
  balanced := (Table.Holds.acquire ⟨rfl, rfl, h.balanced⟩ hnew).balanced
  live := List.forall_mem_cons.mpr ⟨rfl, h.live⟩
  acquired := List.forall_mem_cons.mpr ⟨le_rfl, h.acquired⟩

theorem Opened.closeIfOpen {k : ℕ} {t : Table (ℕ × Handle)} (h : Opened k t) (handle : Handle) :
    Opened k (closeIfOpen k handle t) ∧
      ∀ x ∈ (Initializer.closeIfOpen k handle t).live, x ∈ t.live ∧ x.2 ≠ handle := by
  unfold Initializer.closeIfOpen
  split
  · rename_i hopen
    have hreleased := Table.Holds.release ⟨rfl, rfl, h.balanced⟩ hopen
    have hlive : ∀ x ∈ (t.release (k, handle)).live, x ∈ t.live ∧ x.2 ≠ handle := by
      intro x hx
      obtain ⟨hne, hx⟩ := h.balanced.mem_release.mp hx
      exact ⟨hx, fun heq => hne (Prod.ext (h.live x hx) heq)⟩
    exact ⟨⟨hreleased.balanced, fun x hx => h.live x (hlive x hx).1, h.acquired⟩, hlive⟩
  · rename_i hclosed
    refine ⟨h, fun x hx => ⟨hx, fun heq => ?_⟩⟩
    have hhandle : x = (k, handle) := Prod.ext (h.live x hx) heq
    exact hclosed (hhandle ▸ hx)

/-- **The `finally` clause closes everything**, each handle that is open and no
other. -/
theorem Opened.finish {k : ℕ} {s : Statics} (h : Opened k s.handles) :
    Closed (k + 1) (finish k s).handles := by
  obtain ⟨hinput, hlive⟩ := h.closeIfOpen .input
  obtain ⟨houtput, hlive'⟩ := hinput.closeIfOpen .output
  obtain ⟨hfile, hlive''⟩ := houtput.closeIfOpen .file
  refine ⟨hfile.balanced, List.eq_nil_iff_forall_not_mem.mpr fun x hx => ?_,
    fun x hx => Nat.lt_succ_of_le (hfile.acquired x hx)⟩
  obtain ⟨hx, hnotFile⟩ := hlive'' x hx
  obtain ⟨hx, hnotOutput⟩ := hlive' x hx
  obtain ⟨-, hnotInput⟩ := hlive x hx
  cases hhandle : x.2 with
  | input => exact hnotInput hhandle
  | output => exact hnotOutput hhandle
  | file => exact hnotFile hhandle

/-! ### What it does -/

/-- A call that may throw, a handle, and then the rest. -/
theorem outcome_raise_hold {k : ℕ} (x : Option JavaException) {handle : Handle} {s : Statics}
    {f : EStateM Fault Statics Unit} {g : Except Fault Unit} (h : Opened k s.handles)
    (hf : ∃ t, Opened k t ∧
      Effect.outcome f { s with handles := s.handles.acquire (k, handle) } =
        (g, { s with handles := t })) :
    ∃ t, Opened k t ∧ Effect.outcome (do Effect.lift (raise x); hold k handle; f) s =
      (do raise x; g, { s with handles := t }) := by
  cases x with
  | some e => exact ⟨s.handles, h, rfl⟩
  | none =>
    obtain ⟨t, ht, hrest⟩ := hf
    refine ⟨t, ht, ?_⟩
    have hopen : (do Effect.lift (raise none); hold k handle; f : EStateM Fault Statics Unit) s =
        f { s with handles := s.handles.acquire (k, handle) } :=
      (Effect.bind_ok (Effect.lift_ok ..)).trans (Effect.bind_ok rfl)
    rw [Effect.outcome_congr hopen, hrest]
    rfl

/-- **Up to the library's own code** a try does nothing but open its handles. -/
theorem outcome_stage (k : ℕ) (l : Load) {s : Statics} (h : Closed k s.handles) :
    ∃ t, Opened k t ∧ Effect.outcome (stage k l) s = (l.prepare, { s with handles := t }) := by
  have hfresh : ∀ handle, (k, handle) ∉ s.handles.acquired :=
    fun handle hmem => lt_irrefl k (h.acquired _ hmem)
  -- the stream of the resource, if there is one
  obtain ⟨t, ht, hfile, houtput, hinput⟩ : ∃ t, Opened k t ∧ (k, .file) ∉ t.acquired ∧
      (k, .output) ∉ t.acquired ∧
      openInput k l s = .ok () { s with handles := t } := by
    unfold openInput
    split
    · refine ⟨_, h.opened.acquire (hfresh .input), ?_, ?_, rfl⟩
      · simpa [Table.acquire] using hfresh .file
      · simpa [Table.acquire] using hfresh .output
    · exact ⟨s.handles, h.opened, hfresh .file, hfresh .output, rfl⟩
  have hnew : (k, Handle.output) ∉ (t.acquire (k, .file)).acquired := by
    simpa [Table.acquire] using houtput
  have hcopy : (do
      let octets ← Effect.lift l.copy
      Effect.lift (raise (l.load octets)) : EStateM Fault Statics Unit) =
      Effect.lift (l.copy >>= fun octets => raise (l.load octets)) := by
    cases hcopy : l.copy <;> rfl
  obtain ⟨t', ht', hrest⟩ := outcome_raise_hold l.createTempFile (s := { s with handles := t }) ht
    (outcome_raise_hold l.openOutput (ht.acquire hfile)
      ⟨_, (ht.acquire hfile).acquire hnew, Effect.outcome_lift
        (l.copy >>= fun octets => raise (l.load octets)) _⟩)
  refine ⟨t', ht', ?_⟩
  rw [stage, Effect.outcome_bind_ok hinput, hcopy]
  exact hrest

/-- **The library's own code** gives an instance with everything registered in
it, or throws or gives none, and leaves at most one that is unfinished. -/
theorem blockchainInit_cases {b : Boot} (hmemory : b.allocates = true) (s : Statics) :
    (b.left = none ∧ blockchainInit b s =
        .ok (s.heap.length + 1) { s with heap := s.heap ++ [⟨INIT_STEPS, true⟩] }) ∨
      (b.left = none ∧ blockchainInit b s = .ok 0 s) ∨
      ∃ e, blockchainInit b s = .error (.thrown e) { s with heap := s.heap ++ b.left.toList } := by
  have hmemory : ¬b.allocates = false := by simp [hmemory]
  obtain ⟨hinitialized, hregistered⟩ := initOrFail_eq b.fails INIT_STEPS ⟨[], false⟩
  unfold blockchainInit Boot.left
  rw [if_neg hmemory]
  cases b.refused with
  | some pending =>
    cases pending with
    | none => exact .inr (.inl ⟨rfl, rfl⟩)
    | some e =>
      refine .inr (.inr ⟨e, ?_⟩)
      rw [Option.toList_none, List.append_nil]
  | none =>
    cases hsteps : initOrFail b.fails INIT_STEPS ⟨[], false⟩ with
    | mk inst failed =>
      rw [hsteps] at hinitialized hregistered
      cases failed with
      | none =>
        obtain ⟨registered, initialized⟩ := inst
        obtain rfl : registered = INIT_STEPS := hregistered rfl
        exact .inl ⟨rfl, rfl⟩
      | some text => exact .inr (.inr ⟨_, rfl⟩)

/-- What a try leaves is unfinished. -/
theorem left_unfinished {l : Load} : ∀ inst ∈ l.left, inst.initialized = false := by
  intro inst hinst
  rw [Option.mem_def, Load.left] at hinst
  cases hprepare : l.prepare with
  | error f =>
    rw [hprepare] at hinst
    cases hinst
  | ok _ =>
    rw [hprepare] at hinst
    dsimp only at hinst
    rw [Boot.left] at hinst
    cases hrefused : l.boot.refused with
    | some pending =>
      rw [hrefused] at hinst
      cases hinst
    | none =>
      rw [hrefused] at hinst
      obtain ⟨text, -, rfl⟩ := Option.map_eq_some_iff.mp hinst
      exact (initOrFail_eq l.boot.fails INIT_STEPS ⟨[], false⟩).1

/-- **One try**: the library is loaded in full and a finished instance made, or
an exception is thrown and at most an unfinished one is left. -/
theorem tryLoad_cases {k : ℕ} {l : Load} (hmemory : l.boot.allocates = true) {s : Statics}
    (h : Closed k s.handles) :
    ∃ t address, Opened k t ∧
      ((∃ octets, l.resource = some octets ∧ l.load octets = none ∧
          tryLoad k l s = .ok () { s with
            nativeInstance := s.heap.length + 1
            loaded := true
            heap := s.heap ++ [⟨INIT_STEPS, true⟩]
            handles := t }) ∨
        ∃ e, tryLoad k l s = .error (.thrown e) { s with
            nativeInstance := address
            heap := s.heap ++ l.left.toList
            handles := t }) := by
  obtain ⟨t, ht, hstage⟩ := outcome_stage k l h
  cases hprepare : l.prepare with
  | error f =>
    obtain ⟨e, rfl⟩ := l.prepare_inBounds.thrown hprepare
    have hleft : l.left = none := by rw [Load.left, hprepare]
    rw [hprepare] at hstage
    have hthrown := Effect.error_of_outcome (congrArg Prod.fst hstage)
    rw [hstage] at hthrown
    refine ⟨t, s.nativeInstance, ht, .inr ⟨e, (Effect.bind_error hthrown).trans ?_⟩⟩
    rw [hleft, Option.toList_none, List.append_nil]
  | ok _ =>
    have hleft : l.left = l.boot.left := by rw [Load.left, hprepare]
    rw [hprepare] at hstage
    have hstaged := Effect.ok_of_outcome (congrArg Prod.fst hstage)
    rw [hstage] at hstaged
    have htry : tryLoad k l s = _ := Effect.bind_ok hstaged
    rcases blockchainInit_cases hmemory { s with handles := t } with
      ⟨-, hinit⟩ | ⟨hnone, hinit⟩ | ⟨e, hinit⟩
    · obtain ⟨octets, hresource, hload⟩ := Load.prepare_ok hprepare
      exact ⟨t, 0, ht, .inl ⟨octets, hresource, hload, htry.trans (Effect.bind_ok hinit)⟩⟩
    · have hrefused : tryLoad k l s =
          .error (.illegalState "Bad vjblockchain registration.")
            { s with nativeInstance := 0, heap := s.heap ++ l.left.toList, handles := t } := by
        rw [htry, Effect.bind_ok hinit, hleft, hnone, Option.toList_none, List.append_nil]
        rfl
      exact ⟨t, 0, ht, .inr ⟨_, hrefused⟩⟩
    · rw [← hleft] at hinit
      exact ⟨t, s.nativeInstance, ht, .inr ⟨e, htry.trans (Effect.bind_error hinit)⟩⟩

/-! ## Any number of calls -/

/-- **While every call has failed**, nothing is open, and of each try there is
at most its unfinished instance. -/
structure Pending (done : List Load) (s : Statics) : Prop where
  initialized : s.initialized = false
  loaded : s.loaded = false
  closed : Closed s.tries s.handles
  heap : s.heap = done.filterMap Load.left

/-- **Once a call has returned**, with the instance it has made. -/
structure Ready (done : List Load) (l : Load) (address : ℕ) (s : Statics) : Prop where
  initialized : s.initialized = true
  nativeInstance : s.nativeInstance = address
  closed : s.handles.Settled
  heap : s.heap = done.filterMap Load.left ++ [⟨INIT_STEPS, true⟩]
  address : address = s.heap.length
  loaded : ∃ octets, l.resource = some octets ∧ l.load octets = none

theorem init_ok {l : Load} {s s' : Statics} (hloaded : s.loaded = false)
    (h : tryLoad s.tries l { s with tries := s.tries + 1 } = .ok () s') :
    init l s = .ok () (finish s.tries s') := by
  rw [init, if_neg (by rw [hloaded]; exact Bool.false_ne_true), h]

theorem init_error {l : Load} {s s' : Statics} {e : JavaException} (hloaded : s.loaded = false)
    (h : tryLoad s.tries l { s with tries := s.tries + 1 } = .error (.thrown e) s') :
    init l s = .error (.thrown (caught e)) (finish s.tries s') := by
  rw [init, if_neg (by rw [hloaded]; exact Bool.false_ne_true), h]

/-- **`getInstance` is made good once.** -/
theorem getInstance_once : Effect.Once getInstance (fun l => l.boot.allocates = true) Pending
    Ready where
  again := by
    intro done l address s h j
    rw [getInstance, if_pos h.initialized, h.nativeInstance]
  first := by
    intro done l s hmemory h
    obtain ⟨t, address, ht, htry⟩ := tryLoad_cases (s := { s with tries := s.tries + 1 })
      hmemory h.closed
    have hget : getInstance l s = firstInstance l s := by
      rw [getInstance, h.initialized]
      rfl
    rcases htry with ⟨octets, hresource, hload, htry⟩ | ⟨e, htry⟩
    · have hinit := init_ok h.loaded htry
      have hclosed := Opened.finish (s := { s with
        nativeInstance := s.heap.length + 1
        loaded := true
        heap := s.heap ++ [⟨INIT_STEPS, true⟩]
        tries := s.tries + 1
        handles := t }) ht
      refine .inl ⟨s.heap.length + 1, _, hget.trans ((Effect.bind_ok hinit).trans rfl), rfl, rfl,
        hclosed.balanced.settled_iff.mpr hclosed.live, ?_, ?_, octets, hresource, hload⟩
      · exact congrArg (· ++ [_]) h.heap
      · have hlen : (s.heap ++ [NativeInstance.mk INIT_STEPS true]).length = s.heap.length + 1 :=
          List.length_append
        exact hlen.symm
    · have hinit := init_error h.loaded htry
      have hclosed := Opened.finish (s := { s with
        nativeInstance := address
        heap := s.heap ++ l.left.toList
        tries := s.tries + 1
        handles := t }) ht
      refine .inr ⟨_, _, hget.trans (Effect.bind_error hinit), h.initialized, h.loaded, hclosed, ?_⟩
      rw [List.filterMap_append, ← h.heap]
      show s.heap ++ l.left.toList = s.heap ++ [l].filterMap Load.left
      cases hleft : l.left with
      | none => simp [hleft]
      | some inst => simp [hleft]

theorem pending_start : Pending [] start :=
  ⟨rfl, rfl, ⟨Table.Holds.empty.balanced, rfl, fun _ hx => absurd hx List.not_mem_nil⟩, rfl⟩

end Initializer

open Initializer in
/-- **One instance for everyone.** Any number of threads call `getInstance` any
number of times, and whatever fails on the way, short of memory for an
instance: a number of calls throw, and all calls after them return one and the
same address. Behind it is an instance with everything registered in it, made
by a library that was loaded in full. What the failed calls have left are
unfinished instances, at most one each, to which nobody has the address; every
stream has been closed, and every temporary file been marked for deletion,
exactly once. -/
theorem one_instance {loads : List Load} (hmemory : ∀ l ∈ loads, l.boot.allocates = true)
    {results : List (Except Fault ℕ)} {s : Statics}
    (hrun : Effect.trace getInstance loads start = (results, s)) :
    s.handles.Settled ∧ (∀ inst ∈ loads.filterMap Load.left, inst.initialized = false) ∧
      (((∀ r ∈ results, ∃ f, r = .error f) ∧ s.heap = loads.filterMap Load.left) ∨
        ∃ failed l rest failures octets, loads = failed ++ l :: rest ∧
          failures.length = failed.length ∧ (∀ r ∈ failures, ∃ f, r = .error f) ∧
          results = failures ++ List.replicate (rest.length + 1) (.ok s.heap.length) ∧
          s.heap = failed.filterMap Load.left ++ [⟨INIT_STEPS, true⟩] ∧
          l.resource = some octets ∧ l.load octets = none) := by
  have hunfinished : ∀ inst ∈ loads.filterMap Load.left, inst.initialized = false := by
    intro inst hinst
    obtain ⟨l, -, hl⟩ := List.mem_filterMap.mp hinst
    exact left_unfinished inst hl
  have hcalls := getInstance_once.run loads hmemory pending_start
  rw [hrun] at hcalls
  rcases hcalls with ⟨hfailed, hpending⟩ | ⟨failed, l, rest, a, failures, hloads, hresults, hlen,
    hfailures, hready⟩
  · exact ⟨hpending.closed.balanced.settled_iff.mpr hpending.closed.live, hunfinished,
      .inl ⟨hfailed, hpending.heap⟩⟩
  · obtain ⟨octets, hresource, hload⟩ := hready.loaded
    refine ⟨hready.closed, hunfinished, .inr ⟨failed, l, rest, failures, octets, hloads, hlen,
      hfailures, ?_, hready.heap, hresource, hload⟩⟩
    rw [← hready.address]
    exact hresults

/-- A try in which nothing fails. -/
def smoothLoad : Load :=
  ⟨some [0x7F, 0x45, 0x4C, 0x46], none, none, fun _ => 3, fun _ => none, fun _ => none,
    fun _ => none, ⟨true, none, fun _ => false⟩⟩

/-- The library is not among the resources; then its last registration fails;
then nothing does. -/
def sampleLoads : List Load :=
  [{ smoothLoad with resource := none },
    { smoothLoad with boot := ⟨true, none, fun text => text = "UUID"⟩ }, smoothLoad, smoothLoad]

open Initializer in
/-- The unfinished instance of the second call is the first. -/
theorem one_instance_third :
    (Effect.trace getInstance sampleLoads start).1 =
        [.error (.java .nullPointerException ""), .error (.illegalState "UUID not initialized."),
          .ok 2, .ok 2] ∧
      (Effect.trace getInstance sampleLoads start).2.handles.Settled :=
  ⟨by decide +kernel, (one_instance (by decide) rfl).1⟩

end VjBlockchain
