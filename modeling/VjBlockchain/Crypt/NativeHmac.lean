import VjBlockchain.Common.Resources
import VjBlockchain.Crypt.XorSuite
/-!
# The native HMAC calls — resources

`HMAC_digestArrNative.c` and `HMAC_digestNative.c` pin Java arrays and
allocate buffers, and give them back in a chain of labels that every exit
falls through from some point on. A `CallFrame` is what such a call has done so
far: the table of its resources, the pending exception, and the array it is
about to return. Which calls fail is up to the environment; a call of the
suite may refuse besides. What a call for a short code computes is the
function of the same name in `HMAC`.

References to objects are left out: the virtual machine takes them back when
a native method returns.
-/

namespace VjBlockchain

open Common Common.Bytes Common.Throwing

namespace NativeHmac

/-- What the two functions acquire; messages are numbered. -/
inductive Resource
  | keyBytes
  | keyBuffer
  | macContext
  | messageBytes (i : ℕ)
  | macBuffer
  | retvalBytes
  deriving DecidableEq, Repr

/-- The calls that may fail. -/
inductive Call
  | getKeyBytes
  | keyBufferInit
  | macInit
  | getMessageBytes (i : ℕ)
  | macDigest (i : ℕ)
  | macBufferInit
  | macFinalize
  | newByteArray
  | getRetvalBytes
  deriving DecidableEq, Repr

/-- A native call under way. -/
structure CallFrame where
  table : Table Resource
  pending : Option JavaException
  retval : Option Bytes

namespace CallFrame

def entry : CallFrame := ⟨.empty, none, none⟩

def throwNew (s : CallFrame) (type : ExceptionClass) (message : String) : CallFrame :=
  { s with pending := some ⟨type, message⟩ }

def acquire (s : CallFrame) (r : Resource) : CallFrame := { s with table := s.table.acquire r }

def release (s : CallFrame) (r : Resource) : CallFrame := { s with table := s.table.release r }

def setRetval (s : CallFrame) (retval : Bytes) : CallFrame := { s with retval := some retval }

/-- What the Java caller gets; no array is `null`. -/
def outcome (s : CallFrame) : Except Fault (Option Bytes) :=
  match s.pending with
  | some e => .error (.thrown e)
  | none => .ok s.retval

/-! ### The labels -/

def keyBytesDispose (s : CallFrame) : CallFrame := s.release .keyBytes

def keyBufferDispose (s : CallFrame) : CallFrame := (s.release .keyBuffer).keyBytesDispose

/-- Of `HMAC_digestNative.c` only. -/
def messageBytesDispose (s : CallFrame) : CallFrame :=
  (s.release (.messageBytes 0)).keyBufferDispose

/-- What follows this label is not the same in both functions. -/
def macBufferDispose (next : CallFrame → CallFrame) (s : CallFrame) : CallFrame :=
  next (s.release .macBuffer)

end CallFrame

open CallFrame

/-- The short code of the suite, or its long one. -/
def suiteMac (S : CryptoSuite) : Bool → MacScheme
  | true => S.macShort
  | false => S.mac

/-- How both functions begin: from the checks to the MAC context. -/
def digestWith {α : Type} (S : CryptoSuite) (env : NativeEnv Call) (key : Option Bytes)
    (message : Option α) (messageName : String) (hmacShort : Bool)
    (body : α → (suiteMac S hmacShort).Instance → CallFrame → CallFrame) : CallFrame :=
  let s := entry
  if env.initialized = false then
    s.throwNew .illegalStateException "vjblockchain not initialized."
  else
    match key, message with
    | none, _ => s.throwNew .nullPointerException "key"
    | some _, none => s.throwNew .nullPointerException messageName
    | some key, some message =>
      if env.fails .getKeyBytes then
        s.throwNew .nullPointerException "key_bytes"
      else
        let s := s.acquire .keyBytes
        if env.fails .keyBufferInit then
          (s.throwNew .illegalStateException "key buffer creation failure.").keyBytesDispose
        else
          let s := s.acquire .keyBuffer
          match env.call .macInit ((suiteMac S hmacShort).init key) with
          | none =>
            (s.throwNew .illegalStateException (if hmacShort then "could not initialize short mac."
              else "could not initialize mac.")).keyBufferDispose
          | some mac => body message mac (s.acquire .macContext)

variable (M : MacScheme) (env : NativeEnv Call)

/-- The loop over the messages; `next` is what follows it. -/
def digestEach (next : M.Instance → CallFrame → CallFrame) :
    ℕ → List Bytes → M.Instance → CallFrame → CallFrame
  | _, [], mac, s => next mac s
  | i, message :: messages, mac, s =>
    if env.fails (.getMessageBytes i) then
      (s.throwNew .nullPointerException "msg_bytes").keyBufferDispose
    else
      let s := s.acquire (.messageBytes i)
      match env.call (.macDigest i) (M.digest mac message) with
      | none =>
        ((s.throwNew .illegalStateException "could not digest").release
          (.messageBytes i)).keyBufferDispose
      | some mac => digestEach next (i + 1) messages mac (s.release (.messageBytes i))

/-- How both functions end: from the buffer for the code to the array that is
returned. `next` is the label behind `mac_buffer_dispose`. -/
def finish (next : CallFrame → CallFrame) (mac : M.Instance) (s : CallFrame) : CallFrame :=
  if env.fails .macBufferInit then
    next (s.throwNew .illegalStateException "could not finalize.")
  else
    let s := s.acquire .macBuffer
    match env.call .macFinalize (M.finalize mac) with
    | none => (s.throwNew .illegalStateException "could not finalize.").macBufferDispose next
    | some code =>
      if env.fails .newByteArray then
        (s.throwNew .illegalStateException
          "return value array could not be allocated.").macBufferDispose next
      else
        let s := s.setRetval (zeros M.macSize)
        if env.fails .getRetvalBytes then
          (s.throwNew .illegalStateException
            "return value array data could not be dereferenced.").macBufferDispose next
        else
          let s := s.acquire .retvalBytes
          let s := s.setRetval code
          (s.release .retvalBytes).macBufferDispose next

/-- `HMAC_digestArrNative`. -/
def digestArrNative (S : CryptoSuite) (key : Option Bytes) (messages : Option (List Bytes))
    (hmacShort : Bool) : CallFrame :=
  digestWith S env key messages "messages" hmacShort fun messages mac s =>
    digestEach (suiteMac S hmacShort) env (finish (suiteMac S hmacShort) env keyBufferDispose) 0
      messages mac s

/-- The one message of `HMAC_digestNative`. -/
def digestOne (message : Bytes) (mac : M.Instance) (s : CallFrame) : CallFrame :=
  if env.fails (.getMessageBytes 0) then
    (s.throwNew .nullPointerException "message_bytes").keyBufferDispose
  else
    let s := s.acquire (.messageBytes 0)
    match env.call (.macDigest 0) (M.digest mac message) with
    | none => (s.throwNew .illegalStateException "could not digest.").messageBytesDispose
    | some mac => finish M env messageBytesDispose mac s

/-- `HMAC_digestNative`. -/
def digestNative (S : CryptoSuite) (key message : Option Bytes) (hmacShort : Bool) : CallFrame :=
  digestWith S env key message "message" hmacShort (digestOne (suiteMac S hmacShort) env)

/-! ## The methods of `HMAC` -/

/-- `createHMACShort(byte[][])`: no `null` gets to the native code. -/
def createHMACShortArr (S : CryptoSuite) (key : Option Bytes)
    (messages : Option (List (Option Bytes))) : CallFrame :=
  match messages with
  | none => entry.throwNew .nullPointerException ""
  | some messages =>
    if none ∈ messages then entry.throwNew .nullPointerException "null message"
    else digestArrNative env S key (some (messages.filterMap id)) true

/-- `createHMACShort(byte[])`. -/
def createHMACShort (S : CryptoSuite) (key message : Option Bytes) : CallFrame :=
  digestNative env S key message true

/-- `createHMACLong(byte[])`. -/
def createHMACLong (S : CryptoSuite) (key message : Option Bytes) : CallFrame :=
  digestNative env S key message false

/-! ## What is live at each point -/

/-- What both functions hold from the MAC context on. -/
def held : List Resource := [.macContext, .keyBuffer, .keyBytes]

/-- What the loop has acquired when it comes to message `i`. -/
def seen (i : ℕ) : List Resource := (List.range i).reverse.map .messageBytes ++ held

theorem seen_succ (i : ℕ) : seen (i + 1) = .messageBytes i :: seen i := by
  simp [seen, List.range_succ]

theorem messageBytes_notMem_seen (i : ℕ) : .messageBytes i ∉ seen i := by
  simp [seen, held]

/-- A frame that is left with a balanced table and these live. -/
def Leaves (s : CallFrame) (live : List Resource) : Prop := ∃ acquired, s.table.Holds live acquired

theorem Leaves.settled_iff {s : CallFrame} {live : List Resource} (h : Leaves s live) :
    s.table.Settled ↔ live = [] := by
  obtain ⟨acquired, hholds⟩ := h
  rw [hholds.balanced.settled_iff, hholds.live]

variable {M env} {s : CallFrame} {acquired : List Resource}

/-- **The MAC context is on no label.** -/
theorem keyBufferDispose_leaves (h : s.table.Holds held acquired) :
    Leaves s.keyBufferDispose [.macContext] := by
  have hbuffer : (s.table.release .keyBuffer).Holds [.macContext, .keyBytes] acquired :=
    h.release (by decide)
  have hbytes : s.keyBufferDispose.table.Holds [.macContext] acquired :=
    hbuffer.release (by decide)
  exact ⟨acquired, hbytes⟩

theorem messageBytesDispose_leaves (h : s.table.Holds (.messageBytes 0 :: held) acquired) :
    Leaves s.messageBytesDispose [.macContext] :=
  keyBufferDispose_leaves (s := s.release (.messageBytes 0)) h.release_last

/-- **The end of a call** leaves what its label leaves: the two resources it
acquires are released on every exit. -/
theorem finish_leaves {next : CallFrame → CallFrame} {live live' : List Resource}
    (hnext : ∀ {s acquired}, s.table.Holds live acquired → Leaves (next s) live') (mac : M.Instance)
    (h : s.table.Holds live acquired) (hbuffer : .macBuffer ∉ acquired)
    (hretval : .retvalBytes ∉ acquired) : Leaves (finish M env next mac s) live' := by
  have hacquired := h.acquire hbuffer
  have hreleased := hacquired.release_last
  unfold finish
  split
  · exact hnext (s := s.throwNew _ _) h
  cases env.call .macFinalize (M.finalize mac) with
  | none => exact hnext (s := ((s.acquire _).throwNew _ _).release _) hreleased
  | some code =>
    dsimp only
    split
    · exact hnext (s := ((s.acquire _).throwNew _ _).release _) hreleased
    split
    · exact hnext (s := (((s.acquire _).setRetval _).throwNew _ _).release _) hreleased
    · have hnew : .retvalBytes ∉ .macBuffer :: acquired := by
        simpa using hretval
      exact hnext (hacquired.acquire hnew).release_last.release_last

/-- **The loop**: whatever it does, it comes to the label, or to what follows
it, with what it held before. -/
theorem digestEach_leaves {next : M.Instance → CallFrame → CallFrame}
    (hnext : ∀ i mac {s}, s.table.Holds held (seen i) → Leaves (next mac s) [.macContext])
    (messages : List Bytes) :
    ∀ i mac {s}, s.table.Holds held (seen i) →
      Leaves (digestEach M env next i messages mac s) [.macContext] := by
  induction messages with
  | nil => exact hnext
  | cons message messages ih =>
    intro i mac s h
    have hacquired := h.acquire (messageBytes_notMem_seen i)
    rw [← seen_succ] at hacquired
    have hreleased := hacquired.release_last
    unfold digestEach
    split
    · exact keyBufferDispose_leaves (s := s.throwNew _ _) h
    cases env.call (.macDigest i) (M.digest mac message) with
    | none =>
      exact keyBufferDispose_leaves (s := ((s.acquire _).throwNew _ _).release _) hreleased
    | some mac' => exact ih (i + 1) mac' (s := (s.acquire _).release _) hreleased

/-- The call gets as far as a MAC context. -/
structure MacStarts {α : Type} (S : CryptoSuite) (env : NativeEnv Call) (key : Option Bytes)
    (message : Option α) (hmacShort : Bool) : Prop where
  initialized : env.initialized = true
  message : message.isSome
  keyBytes : env.fails .getKeyBytes = false
  keyBuffer : env.fails .keyBufferInit = false
  mac : ∃ k, key = some k ∧ (env.call .macInit ((suiteMac S hmacShort).init k)).isSome

/-- Of the message it matters only that there is one. -/
theorem MacStarts.of_message {α β : Type} {S : CryptoSuite} {key : Option Bytes}
    {message : Option α} {message' : Option β} {hmacShort : Bool} (hmessage : message'.isSome)
    (h : MacStarts S env key message hmacShort) : MacStarts S env key message' hmacShort :=
  ⟨h.initialized, hmessage, h.keyBytes, h.keyBuffer, h.mac⟩

/-- **The beginning of a call**: it is over with nothing left, or it goes on with
a MAC context. -/
theorem digestWith_leaves {α : Type} (S : CryptoSuite) {key : Option Bytes} {message : Option α}
    (messageName : String) {hmacShort : Bool}
    {body : α → (suiteMac S hmacShort).Instance → CallFrame → CallFrame}
    (hbody : ∀ m mac {s}, s.table.Holds held held → Leaves (body m mac s) [.macContext]) :
    MacStarts S env key message hmacShort ∧
      Leaves (digestWith S env key message messageName hmacShort body) [.macContext] ∨
    ¬MacStarts S env key message hmacShort ∧
      Leaves (digestWith S env key message messageName hmacShort body) [] := by
  have hentry : (Table.empty : Table Resource).Holds [] [] := .empty
  have hbytes := hentry.acquire (r := Resource.keyBytes) (by decide)
  have hbuffer := hbytes.acquire (r := Resource.keyBuffer) (by decide)
  have hmac := hbuffer.acquire (r := Resource.macContext) (by decide)
  unfold digestWith
  by_cases hinitialized : env.initialized = false
  · rw [if_pos hinitialized]
    exact .inr ⟨fun h => absurd h.initialized (by simp [hinitialized]), _, hentry⟩
  rw [if_neg hinitialized]
  obtain _ | k := key
  · refine .inr ⟨fun h => ?_, _, hentry⟩
    obtain ⟨_, hk, -⟩ := h.mac
    cases hk
  obtain _ | m := message
  · exact .inr ⟨fun h => absurd h.message (by simp), _, hentry⟩
  dsimp only
  by_cases hget : env.fails .getKeyBytes = true
  · rw [if_pos hget]
    exact .inr ⟨fun h => absurd h.keyBytes (by simp [hget]), _, hentry⟩
  rw [if_neg hget]
  by_cases hnew : env.fails .keyBufferInit = true
  · rw [if_pos hnew]
    exact .inr ⟨fun h => absurd h.keyBuffer (by simp [hnew]), _, hbytes.release_last⟩
  rw [if_neg hnew]
  cases hinit : env.call .macInit ((suiteMac S hmacShort).init k) with
  | none =>
    refine .inr ⟨fun h => ?_, _, hbuffer.release_last.release_last⟩
    obtain ⟨_, hk, hsome⟩ := h.mac
    obtain rfl := Option.some.inj hk
    rw [hinit] at hsome
    cases hsome
  | some mac =>
    refine .inl ⟨⟨by simpa using hinitialized, rfl, by simpa using hget, by simpa using hnew,
      k, rfl, by rw [hinit]; rfl⟩, ?_⟩
    exact hbody m mac (s := ((entry.acquire _).acquire _).acquire _) hmac

/-- **What a call leaves.** If it gets as far as a MAC context this is left, and
nothing is left otherwise. -/
theorem digestWith_settled_iff {α : Type} (S : CryptoSuite) {key : Option Bytes}
    {message : Option α} (messageName : String) {hmacShort : Bool}
    {body : α → (suiteMac S hmacShort).Instance → CallFrame → CallFrame}
    (hbody : ∀ m mac {s}, s.table.Holds held held → Leaves (body m mac s) [.macContext]) :
    (digestWith S env key message messageName hmacShort body).table.Settled ↔
      ¬MacStarts S env key message hmacShort := by
  rcases digestWith_leaves S messageName hbody with ⟨hstarts, hleaves⟩ | ⟨hstops, hleaves⟩
  · rw [hleaves.settled_iff]
    simp [hstarts]
  · rw [hleaves.settled_iff]
    simp [hstops]

theorem digestOne_leaves (message : Bytes) (mac : M.Instance) (h : s.table.Holds held held) :
    Leaves (digestOne M env message mac s) [.macContext] := by
  have hacquired := h.acquire (r := .messageBytes 0) (by decide)
  unfold digestOne
  split
  · exact keyBufferDispose_leaves (s := s.throwNew _ _) h
  cases env.call (.macDigest 0) (M.digest mac message) with
  | none => exact messageBytesDispose_leaves (s := (s.acquire _).throwNew _ _) hacquired
  | some mac' =>
    exact finish_leaves messageBytesDispose_leaves mac' (s := s.acquire _) hacquired (by decide)
      (by decide)

theorem digestArrNative_settled_iff (S : CryptoSuite) (env : NativeEnv Call) (key : Option Bytes)
    (messages : Option (List Bytes)) (hmacShort : Bool) :
    (digestArrNative env S key messages hmacShort).table.Settled ↔
      ¬MacStarts S env key messages hmacShort := by
  refine digestWith_settled_iff S "messages" fun messages mac s h => ?_
  refine digestEach_leaves (fun i mac' s' h' => ?_) messages 0 mac h
  exact finish_leaves keyBufferDispose_leaves mac' h' (by simp [seen, held]) (by simp [seen, held])

theorem digestNative_settled_iff (S : CryptoSuite) (env : NativeEnv Call)
    (key message : Option Bytes) (hmacShort : Bool) :
    (digestNative env S key message hmacShort).table.Settled ↔
      ¬MacStarts S env key message hmacShort :=
  digestWith_settled_iff S "message" fun m mac _ h => digestOne_leaves m mac h

/-- **The native HMAC calls settle their resources exactly when there is no MAC
context**: the library is not initialised, the key or a message is `null`, or
pinning the key, allocating its buffer or making the context fails. Where
there is one it is never released, whatever comes after. -/
theorem hmac_settled_iff (S : CryptoSuite) (env : NativeEnv Call) (key : Option Bytes) :
    (∀ messages : Option (List (Option Bytes)),
      (createHMACShortArr env S key messages).table.Settled ↔
        ¬(none ∉ messages.getD [] ∧ MacStarts S env key messages true)) ∧
    ∀ message : Option Bytes,
      ((createHMACShort env S key message).table.Settled ↔ ¬MacStarts S env key message true) ∧
      ((createHMACLong env S key message).table.Settled ↔ ¬MacStarts S env key message false) := by
  refine ⟨fun messages => ?_, fun message => ⟨digestNative_settled_iff S env key message true,
    digestNative_settled_iff S env key message false⟩⟩
  have hentry : (Table.empty : Table Resource).Settled :=
    Table.Holds.empty.balanced.settled_iff.mpr rfl
  unfold createHMACShortArr
  obtain _ | messages := messages
  · simp only [throwNew, entry]
    exact iff_of_true hentry fun h => nomatch h.2.message
  dsimp only
  by_cases hnull : none ∈ messages
  · rw [if_pos hnull]
    exact iff_of_true hentry fun h => h.1 hnull
  · rw [if_neg hnull, digestArrNative_settled_iff, not_iff_not]
    constructor
    · intro h
      exact ⟨hnull, h.of_message rfl⟩
    · intro h
      exact h.2.of_message rfl

/-- The environment in which no call fails. -/
def reliable : NativeEnv Call := ⟨true, fun _ => false⟩

/-- **A code that is returned leaves its MAC context behind**, and that alone. -/
theorem not_hmac_settled :
    (createHMACShortArr reliable XorSuite.cryptoSuite (some (zeros 32))
        (some [some [1]])).outcome = .ok (some (toBE 32 32)) ∧
      (createHMACShortArr reliable XorSuite.cryptoSuite (some (zeros 32))
        (some [some [1]])).table.live = [.macContext] ∧
      ¬(createHMACShortArr reliable XorSuite.cryptoSuite (some (zeros 32))
        (some [some [1]])).table.Settled ∧
      ¬(createHMACShort reliable XorSuite.cryptoSuite (some (zeros 32)) (some [1])).table.Settled ∧
      ¬(createHMACLong reliable XorSuite.cryptoSuite (some (zeros 32))
        (some [1])).table.Settled := by
  refine ⟨by decide +kernel, by decide +kernel, fun h => ?_, fun h => ?_, fun h => ?_⟩
  · exact absurd h.live (by decide +kernel)
  · exact absurd h.live (by decide +kernel)
  · exact absurd h.live (by decide +kernel)

end NativeHmac

end VjBlockchain
