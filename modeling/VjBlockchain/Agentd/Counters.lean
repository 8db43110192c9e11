import VjBlockchain.Agentd.Gate
import VjBlockchain.Common.History
/-!
# No keystream is used twice

A packet is masked with the keystream of its counter, so a counter used twice
would give two payloads away. The two counters live in different objects and
move only when a native call returns; every step of a session may end in an
exception anywhere.

The methods of the handler that use the envelope or send a message are
watched here: an `Event` is a call of `encryptPayload` or `decryptPayload`
with the counter it was made under, or a message handed to the channel.
Watched runs are the runs of the handler, and every entry of their history
is `Allowed` by the entries before it, on any channel and with any native
library.
-/

namespace VjBlockchain

open Common Common.Bytes Common.Throwing

/-- What is noted of a run. -/
inductive Event
  /-- `encryptPayload` returned a packet. -/
  | encrypted (iv : BitVec 64) (packet : Bytes)
  /-- `encryptPayload` threw. -/
  | notEncrypted (iv : BitVec 64)
  /-- A message was handed to `DataChannel.send`, which may throw. -/
  | sent (message : Bytes)
  /-- `decryptPayload` accepted a packet. -/
  | decrypted (iv : BitVec 64)
  /-- `decryptPayload` threw. -/
  | notDecrypted (iv : BitVec 64)

/-- The counters packets were encrypted under. -/
def encryptedIvs (log : List Event) : List (BitVec 64) :=
  log.filterMap fun
    | .encrypted iv _ => some iv
    | _ => none

/-- The counters packets were accepted under. -/
def decryptedIvs (log : List Event) : List (BitVec 64) :=
  log.filterMap fun
    | .decrypted iv => some iv
    | _ => none

/-- A method of the handler with a history. -/
abbrev Watched (W : Type) := EStateM Fault (Session W × List Event)

namespace Watched

variable {W α : Type} (P : Platform W)

/-! ## The parts -/

def send (message : Bytes) : Watched W Unit :=
  Effect.watch (Handler.send P message) fun _ _ => [.sent message]

def encryptPayload (payload : Bytes) : Watched W Bytes :=
  Effect.watch (Handler.encryptPayload P payload) fun s result =>
    match result with
    | .ok packet => [.encrypted s.handler.outerEnvelopeWriter.iv packet]
    | .error _ => [.notEncrypted s.handler.outerEnvelopeWriter.iv]

def decryptPayload (header payload : Bytes) : Watched W Bytes :=
  Effect.watch (Handler.decryptPayload P header payload) fun s result =>
    match result with
    | .ok _ => [.decrypted s.handler.outerEnvelopeReader.iv]
    | .error _ => [.notDecrypted s.handler.outerEnvelopeReader.iv]

/-- The other parts use neither counter and send nothing. -/
def quiet (x : Handler W α) : Watched W α := Effect.unwatched x

/-! ## Requests and responses -/

def sendRequest (request : Except Fault Bytes) : Watched W Unit := do
  let request ← quiet (Effect.lift request)
  let packet ← encryptPayload P request
  send P packet

def readResponse (expect : ℕ → Except Fault Unit) (decode : ℕ → Bytes → Except Fault α) :
    Watched W α := do
  let header ← quiet (Handler.recv P 5)
  let payloadSize ← quiet (Handler.decryptHeader P header)
  quiet (Effect.lift (expect payloadSize))
  let encryptedPayload ← quiet (Handler.recv P (payloadSize + 32))
  let decryptedPayload ← decryptPayload P header encryptedPayload
  quiet (Effect.lift (decode payloadSize decryptedPayload))

def readSplitResponse (expect : ℕ → Except Fault Unit) (decode : Bytes → Except Fault α) :
    Watched W α := do
  let header ← quiet (Handler.recv P 5)
  let payloadSize ← quiet (Handler.decryptHeader P header)
  quiet (Effect.lift (expect payloadSize))
  let responseHMAC ← quiet (Handler.recv P 32)
  let encryptedPayloadTail ← quiet (Handler.recv P payloadSize)
  let encryptedPayload ← quiet (Effect.lift (Handler.joinPayload responseHMAC encryptedPayloadTail))
  let decryptedPayload ← decryptPayload P header encryptedPayload
  quiet (Effect.lift (decode decryptedPayload))

def read (r : Request) : Watched W Value :=
  match r with
  | .submit .. => readSplitResponse P r.expect (r.decode 12)
  | _ => readResponse P r.expect r.decode

/-- An operation: the guard, the request, the exchange. -/
def call (op : Operation) : Watched W Value := do
  if op ≠ .getConnectionStatus then quiet Handler.requireConnected
  let r ← quiet (Effect.lift (op.written P.cert))
  sendRequest P (.ok r.encode)
  read P r

/-! ## The handshake -/

def exchangeHello (nonces : Nonces) : Watched W (Bytes × ServerHello) := do
  let s ← quiet get
  let request ← quiet (Effect.lift (handshakeRequest s.handler.entityId nonces))
  send P request
  let response ← quiet (Handler.recvServerHello P)
  let hello ← quiet
    (Effect.lift (verifyServerHello s.handler.agentId s.handler.agentPublicEncKey response))
  pure (response, hello)

def initiateHandshake (nonces : Nonces) : Watched W Bytes := do
  let (response, hello) ← exchangeHello P nonces
  let s ← quiet get
  let secret ← quiet (Effect.lift (computeSharedSecret P.crypt s.handler.entityPrivateEncKey
    hello.serverPublicKey hello.serverKeyNonce nonces.clientKeyNonce))
  quiet (Handler.setSharedSecret secret)
  quiet (Effect.lift (Handler.verifyServerCode P nonces secret response hello))
  pure hello.serverChallengeNonce

def acknowledgeHandshake (serverChallengeNonce : Bytes) : Watched W Unit := do
  let s ← quiet get
  sendRequest P (HMAC.createHMACShort P.crypt s.handler.sharedSecret serverChallengeNonce)
  readSplitResponse P (expectTwelve ").  Expected 12 bytes.") decodeAcknowledge

def handshake (nonces : Nonces) : Watched W Unit := do
  let serverChallengeNonce ← initiateHandshake P nonces
  acknowledgeHandshake P serverChallengeNonce

/-- A step of a run. -/
def step : Step → Watched W (Option Value)
  | .handshake nonces => do
    handshake P nonces
    pure none
  | .call op => do pure (some (← call P op))

/-! ## Watched methods are the methods -/

open Effect (Erases)

theorem erases_sendRequest (request : Except Fault Bytes) :
    Erases (sendRequest P request) (Handler.sendRequest P request) :=
  .bind (.unwatched _) fun _ => .bind (.watch _ _) fun _ => .watch _ _

theorem erases_readResponse (expect : ℕ → Except Fault Unit)
    (decode : ℕ → Bytes → Except Fault α) :
    Erases (readResponse P expect decode) (Handler.readResponse P expect decode) :=
  .bind (.unwatched _) fun _ => .bind (.unwatched _) fun _ => .bind (.unwatched _) fun _ =>
    .bind (.unwatched _) fun _ => .bind (.watch _ _) fun _ => .unwatched _

theorem erases_readSplitResponse (expect : ℕ → Except Fault Unit)
    (decode : Bytes → Except Fault α) :
    Erases (readSplitResponse P expect decode) (Handler.readSplitResponse P expect decode) :=
  .bind (.unwatched _) fun _ => .bind (.unwatched _) fun _ => .bind (.unwatched _) fun _ =>
    .bind (.unwatched _) fun _ => .bind (.unwatched _) fun _ => .bind (.unwatched _) fun _ =>
    .bind (.watch _ _) fun _ => .unwatched _

theorem erases_read (r : Request) : Erases (read P r) (r.read P) := by
  cases r with
  | submit _ _ _ => exact erases_readSplitResponse P _ _
  | _ => exact erases_readResponse P _ _

theorem erases_call (op : Operation) : Erases (call P op) (op.call P) := by
  have hsteps : op.call P = (do
      if op ≠ .getConnectionStatus then Handler.requireConnected
      let r ← Effect.lift (op.written P.cert)
      Handler.sendRequest P (.ok r.encode)
      r.read P : Handler W Value) := by
    funext s
    by_cases hop : op = .getConnectionStatus
    · subst hop
      rw [Operation.call_getConnectionStatus]
      rfl
    rw [if_pos hop]
    by_cases hnone : s.handler.sharedSecret = none
    · rw [Operation.call_unconnected hop hnone]
      exact (Effect.bind_error (Handler.requireConnected_error hnone)).symm
    · rw [Effect.bind_ok (Handler.requireConnected_ok hnone)]
      cases hr : op.written P.cert with
      | error f =>
        rw [Operation.call_error hr hnone]
        exact (Effect.bind_error (Effect.lift_error ..)).symm
      | ok r =>
        rw [Operation.call_eq hr hnone]
        exact (Effect.bind_ok (Effect.lift_ok ..)).symm
  have hexchange : Erases (do
      let r ← quiet (Effect.lift (op.written P.cert))
      sendRequest P (.ok r.encode)
      read P r) (do
      let r ← Effect.lift (op.written P.cert)
      Handler.sendRequest P (.ok r.encode)
      r.read P : Handler W Value) :=
    .bind (.unwatched _) fun r => .bind (erases_sendRequest P _) fun _ => erases_read P r
  rw [hsteps, call]
  split
  · exact .bind (.unwatched _) fun _ => hexchange
  · exact hexchange

theorem erases_handshake (nonces : Nonces) :
    Erases (handshake P nonces) (Handler.handshake P nonces) := by
  have hhello : Erases (exchangeHello P nonces) (Handler.exchangeHello P nonces) :=
    .bind (.unwatched _) fun _ => .bind (.unwatched _) fun _ => .bind (.watch _ _) fun _ =>
      .bind (.unwatched _) fun _ => .bind (.unwatched _) fun _ => .pure _
  have hfirst : Erases (initiateHandshake P nonces) (Handler.initiateHandshake P nonces) :=
    .bind hhello fun _ => .bind (.unwatched _) fun _ => .bind (.unwatched _) fun _ =>
      .bind (.unwatched _) fun _ => .bind (.unwatched _) fun _ => .pure _
  exact .bind hfirst fun _ => .bind (.unwatched _) fun _ => .bind (erases_sendRequest P _) fun _ =>
    erases_readSplitResponse P _ _

/-- **Every step of a watched run** is the step. -/
theorem erases_step (step : Step) : Erases (Watched.step P step) (step.run P) := by
  cases step with
  | handshake nonces => exact .bind (erases_handshake P nonces) fun _ => .pure _
  | call op => exact .bind (erases_call P op) fun _ => .pure _

end Watched

/-! ## Reading a response -/

namespace Watched

variable {W α : Type} {P : Platform W}

/-- What the parts of a response reader preserve, history and all. -/
structure Reads (P : Platform W) (I : Session W × List Event → Prop) : Prop where
  recv : ∀ n, Effect.Preserves I (fun _ => True) (quiet (Handler.recv P n))
  decryptHeader : ∀ header,
    Effect.Preserves I (fun _ => True) (quiet (Handler.decryptHeader P header))
  lift : ∀ {β : Type} (x : Except Fault β),
    Effect.Preserves I (fun _ => True) (quiet (Effect.lift x))
  decryptPayload : ∀ header payload,
    Effect.Preserves I (fun _ => True) (decryptPayload P header payload)

namespace Reads

variable {I : Session W × List Event → Prop} (h : Reads P I)
include h

theorem readResponse (expect : ℕ → Except Fault Unit) (decode : ℕ → Bytes → Except Fault α) :
    Effect.Preserves I (fun _ => True) (Watched.readResponse P expect decode) :=
  .bind (h.recv _) fun _ => .bind (h.decryptHeader _) fun _ => .bind (h.lift _) fun _ =>
    .bind (h.recv _) fun _ => .bind (h.decryptPayload ..) fun _ => h.lift _

theorem readSplitResponse (expect : ℕ → Except Fault Unit) (decode : Bytes → Except Fault α) :
    Effect.Preserves I (fun _ => True) (Watched.readSplitResponse P expect decode) :=
  .bind (h.recv _) fun _ => .bind (h.decryptHeader _) fun _ => .bind (h.lift _) fun _ =>
    .bind (h.recv _) fun _ => .bind (h.recv _) fun _ => .bind (h.lift _) fun _ =>
    .bind (h.decryptPayload ..) fun _ => h.lift _

/-- **Every response reader** preserves what its parts do. -/
theorem read (r : Request) : Effect.Preserves I (fun _ => True) (Watched.read P r) := by
  cases r with
  | submit _ _ _ => exact h.readSplitResponse ..
  | _ => exact h.readResponse ..

end Reads

end Watched

/-! ## What a history may hold -/

/-- The counter of the packet written after `n` others. -/
def writerIv (n : ℕ) : BitVec 64 := OuterEnvelopeWriter.new.iv + BitVec.ofNat 64 n

/-- The counter of the packet read after `n` others. -/
def readerIv (n : ℕ) : BitVec 64 := OuterEnvelopeReader.new.iv + BitVec.ofNat 64 n

theorem writerIv_succ (n : ℕ) : writerIv (n + 1) = writerIv n + 1 := by
  rw [writerIv, writerIv, BitVec.ofNat_add, BitVec.add_assoc]
  rfl

theorem readerIv_succ (n : ℕ) : readerIv (n + 1) = readerIv n + 1 := by
  rw [readerIv, readerIv, BitVec.ofNat_add, BitVec.add_assoc]
  rfl

/-- **What an entry may be**, given its past: the envelope is used under the
counter that is next, and a message sent was encrypted just before or is a
handshake request. -/
def Event.Allowed (V : Vccrypt) (entityId : UUID) (past : List Event) : Event → Prop
  | encrypted iv packet => iv = writerIv (encryptedIvs past).length ∧
    ∃ key payload, encryptPayloadNative V key iv payload = .ok packet
  | notEncrypted iv => iv = writerIv (encryptedIvs past).length
  | sent message => (∃ past' iv, past = past' ++ [.encrypted iv message]) ∨
    ∃ nonces, message = helloRequest entityId nonces
  | decrypted iv => iv = readerIv (decryptedIvs past).length ∧
    ∃ key header payload p, decryptPayloadNative V key iv header payload = .ok p
  | notDecrypted iv => iv = readerIv (decryptedIvs past).length

/-- **A history accounts for the handler's counters.** -/
structure Accounted (V : Vccrypt) (entityId : UUID) (h : ProtocolHandlerImpl)
    (log : List Event) : Prop where
  entity : h.entityId = entityId
  writer : h.outerEnvelopeWriter.iv = writerIv (encryptedIvs log).length
  reader : h.outerEnvelopeReader.iv = readerIv (decryptedIvs log).length
  allowed : Each (Event.Allowed V entityId) log

section

variable {V : Vccrypt} {entityId : UUID} {h : ProtocolHandlerImpl} {log : List Event}

theorem encryptedIvs_concat (log : List Event) (e : Event) :
    encryptedIvs (log ++ [e]) = encryptedIvs log ++ encryptedIvs [e] := List.filterMap_append

theorem decryptedIvs_concat (log : List Event) (e : Event) :
    decryptedIvs (log ++ [e]) = decryptedIvs log ++ decryptedIvs [e] := List.filterMap_append

/-- An entry that moves neither counter. -/
theorem Accounted.note (ha : Accounted V entityId h log) {e : Event}
    (he : e.Allowed V entityId log) (hencrypted : encryptedIvs [e] = [])
    (hdecrypted : decryptedIvs [e] = []) : Accounted V entityId h (log ++ [e]) where
  entity := ha.entity
  writer := by rw [encryptedIvs_concat, hencrypted, List.append_nil, ha.writer]
  reader := by rw [decryptedIvs_concat, hdecrypted, List.append_nil, ha.reader]
  allowed := Each.concat_iff.mpr ⟨ha.allowed, he⟩

/-- A packet written. -/
theorem Accounted.encrypted (ha : Accounted V entityId h log) {key : Option Bytes}
    {payload packet : Bytes}
    (hpacket : encryptPayloadNative V key h.outerEnvelopeWriter.iv payload = .ok packet) :
    Accounted V entityId h.afterWrite
      (log ++ [.encrypted h.outerEnvelopeWriter.iv packet]) where
  entity := ha.entity
  writer := by
    rw [encryptedIvs_concat, List.length_append]
    exact (congrArg (· + 1) ha.writer).trans (writerIv_succ _).symm
  reader := by
    rw [decryptedIvs_concat]
    exact ha.reader.trans (by simp [decryptedIvs])
  allowed := Each.concat_iff.mpr ⟨ha.allowed, ha.writer, key, payload, hpacket⟩

/-- A packet read. -/
theorem Accounted.decrypted (ha : Accounted V entityId h log) {key : Option Bytes}
    {header payload p : Bytes}
    (hp : decryptPayloadNative V key h.outerEnvelopeReader.iv header payload = .ok p) :
    Accounted V entityId h.afterRead (log ++ [.decrypted h.outerEnvelopeReader.iv]) where
  entity := ha.entity
  writer := by
    rw [encryptedIvs_concat]
    exact ha.writer.trans (by simp [encryptedIvs])
  reader := by
    rw [decryptedIvs_concat, List.length_append]
    exact (congrArg (· + 1) ha.reader).trans (readerIv_succ _).symm
  allowed := Each.concat_iff.mpr ⟨ha.allowed, ha.reader, key, header, payload, p, hp⟩

end

/-! ## Every part keeps the account -/

namespace Watched

variable {W α : Type} {P : Platform W} {entityId : UUID}

/-- The account of a session. -/
def Sound (P : Platform W) (entityId : UUID) (x : Session W × List Event) : Prop :=
  Accounted P.crypt entityId x.1.handler x.2

/-- The method keeps the account, however it ends. -/
def Keeps (P : Platform W) (entityId : UUID) (x : Watched W α) : Prop :=
  Effect.Preserves (Sound P entityId) (fun _ => True) x

theorem keeps_quiet {x : Handler W α}
    (hx : ∀ J : ProtocolHandlerImpl → Prop,
      Effect.Preserves (fun s : Session W => J s.handler) (fun _ => True) x) :
    Keeps P entityId (quiet x) :=
  .unwatched fun log => hx fun h => Accounted P.crypt entityId h log

theorem keeps_lift (x : Except Fault α) : Keeps P entityId (quiet (Effect.lift x)) :=
  keeps_quiet fun _ => .lift_any x

theorem keeps_recv (n : ℕ) : Keeps P entityId (quiet (Handler.recv P n)) :=
  keeps_quiet fun J => Handler.onWorld_handler J _

theorem keeps_get : Keeps P entityId (quiet get : Watched W (Session W)) :=
  keeps_quiet fun _ => .get

theorem keeps_encryptPayload (payload : Bytes) :
    Keeps P entityId (encryptPayload P payload) := by
  refine .watch ?_ ?_
  · intro s packet s' log hs h
    obtain ⟨hnative, rfl⟩ := Handler.encryptPayload_eq_ok h
    exact hs.encrypted hnative
  · intro s f s' log hs h
    obtain rfl := Handler.encryptPayload_eq_error h
    exact ⟨hs.note hs.writer rfl rfl, trivial⟩

theorem keeps_decryptPayload (header payload : Bytes) :
    Keeps P entityId (decryptPayload P header payload) := by
  refine .watch ?_ ?_
  · intro s p s' log hs h
    obtain ⟨hnative, rfl⟩ := Handler.decryptPayload_eq_ok h
    exact hs.decrypted hnative
  · intro s f s' log hs h
    obtain rfl := Handler.decryptPayload_eq_error h
    exact ⟨hs.note hs.reader rfl rfl, trivial⟩

/-- A message that may be sent is accounted for. -/
theorem sound_send {message : Bytes} {x : Session W × List Event} (hx : Sound P entityId x)
    (hmessage : (Event.sent message).Allowed P.crypt entityId x.2) :
    Sound P entityId (Effect.outcome (send P message) x).2 := by
  have hsent : Accounted P.crypt entityId x.1.handler (x.2 ++ [.sent message]) :=
    hx.note hmessage rfl rfl
  have hkeep := Handler.onWorld_handler (W := W)
    (fun h => Accounted P.crypt entityId h (x.2 ++ [.sent message])) (P.dataChannel.send message)
  cases h : Handler.send P message x.1 with
  | ok u s' =>
    rw [send, Effect.outcome_ok (Effect.watch_ok h)]
    exact hkeep.ok hsent h
  | error f s' =>
    rw [send, Effect.outcome_error (Effect.watch_error h)]
    exact (hkeep.error hsent h).1

/-- A packet is noted when it is encrypted. -/
theorem encryptPayload_noted {payload packet : Bytes} {x x' : Session W × List Event}
    (h : encryptPayload P payload x = .ok packet x') :
    ∃ past iv, x'.2 = past ++ [.encrypted iv packet] := by
  cases hx : Handler.encryptPayload P payload x.1 with
  | ok packet' s' =>
    cases h.symm.trans (Effect.watch_ok hx)
    exact ⟨_, _, rfl⟩
  | error f s' => cases h.symm.trans (Effect.watch_error hx)

/-- **A request** is sent as it was encrypted, or not at all. -/
theorem keeps_sendRequest (request : Except Fault Bytes) :
    Keeps P entityId (sendRequest P request) := by
  refine .bind (keeps_lift _) fun p => .of_outcome fun x hx => ?_
  cases henc : encryptPayload P p x with
  | error f x' =>
    rw [Effect.outcome_error (Effect.bind_error henc)]
    exact ((keeps_encryptPayload p).error hx henc).1
  | ok packet x' =>
    rw [Effect.outcome_bind_ok henc]
    exact sound_send ((keeps_encryptPayload p).ok hx henc) (.inl (encryptPayload_noted henc))

/-- What a response reader is made of keeps the account. -/
theorem reads_sound : Reads P (Sound P entityId) where
  recv := keeps_recv
  decryptHeader _ := keeps_quiet fun _ => Handler.decryptHeader_preserves fun _ => trivial
  lift := keeps_lift
  decryptPayload := keeps_decryptPayload

theorem keeps_call (op : Operation) : Keeps P entityId (call P op) := by
  have hexchange : Keeps P entityId (do
      let r ← quiet (Effect.lift (op.written P.cert))
      sendRequest P (.ok r.encode)
      read P r) :=
    .bind (keeps_lift _) fun r => .bind (keeps_sendRequest _) fun _ => reads_sound.read r
  have hguard : ∀ J : ProtocolHandlerImpl → Prop, Effect.Preserves
      (fun s : Session W => J s.handler) (fun _ => True) Handler.requireConnected := by
    intro J
    refine ⟨?_, ?_⟩ <;> intro s a s' hs h <;> unfold Handler.requireConnected at h <;>
      split at h <;> cases h
    · exact hs
    · exact ⟨hs, trivial⟩
  unfold call
  split
  · exact .bind (keeps_quiet hguard) fun _ => hexchange
  · exact hexchange

/-- The first message of a handshake is the request in the clear. -/
theorem keeps_exchangeHello (nonces : Nonces) : Keeps P entityId (exchangeHello P nonces) := by
  refine .of_outcome fun x hx => ?_
  obtain ⟨s, log⟩ := x
  have hrequest : (Effect.lift (handshakeRequest s.handler.entityId nonces) :
      Handler W Bytes) s = .ok (helloRequest entityId nonces) s := by
    rw [handshakeRequest_eq, hx.entity, Effect.lift_ok]
  unfold exchangeHello quiet
  rw [Effect.outcome_bind_ok (Effect.unwatched_ok (Effect.get_apply s)),
    Effect.outcome_bind_ok (Effect.unwatched_ok hrequest)]
  refine Effect.Preserves.outcome_bind (E := fun _ => True) (fun _ => ?_)
    (sound_send hx (.inr ⟨nonces, rfl⟩))
  exact .bind (keeps_quiet fun J => Handler.recvServerHello_handler J) fun _ =>
    .bind (keeps_lift _) fun _ => .pure _

theorem keeps_handshake (nonces : Nonces) : Keeps P entityId (handshake P nonces) := by
  -- the assignment of the secret moves no counter
  have hsecret : ∀ secret, Keeps P entityId (quiet (Handler.setSharedSecret secret)) := by
    intro secret
    refine .unwatched fun log => ⟨?_, ?_⟩
    · rintro s a s' hs ⟨⟩
      exact ⟨hs.entity, hs.writer, hs.reader, hs.allowed⟩
    · rintro s f s' hs ⟨⟩
  refine .bind (.bind (keeps_exchangeHello nonces) fun _ => .bind keeps_get fun _ =>
    .bind (keeps_lift _) fun _ => .bind (hsecret _) fun _ => .bind (keeps_lift _) fun _ =>
      .pure _) fun _ => ?_
  exact .bind keeps_get fun _ => .bind (keeps_sendRequest _) fun _ =>
    reads_sound.readSplitResponse ..

/-- **One step** keeps the account. -/
theorem keeps_step (step : Step) : Keeps P entityId (Watched.step P step) := by
  cases step with
  | handshake nonces => exact .bind (keeps_handshake nonces) fun _ => .pure _
  | call op => exact .bind (keeps_call op) fun _ => .pure _

/-- **A whole run** keeps it. -/
theorem sound_run (steps : List Step) {x : Session W × List Event} (hx : Sound P entityId x) :
    Sound P entityId (Effect.trace (Watched.step P) steps x).2 := by
  refine Effect.trace_induction (P := fun _ x => Sound P entityId x) hx ?_ steps
    (List.prefix_refl steps)
  intro done step _ ih
  exact (keeps_step step).outcome ih

end Watched

/-! ## The counters of a history -/

section

variable {V : Vccrypt} {entityId : UUID} {log : List Event}

/-- **The counters written under are the first ones**, each once, in order. -/
theorem encryptedIvs_eq (h : Each (Event.Allowed V entityId) log) :
    encryptedIvs log = (List.range (encryptedIvs log).length).map writerIv := by
  induction log using List.reverseRecOn with
  | nil => rfl
  | append_singleton log e ih =>
    obtain ⟨hlog, he⟩ := Each.concat_iff.mp h
    rw [encryptedIvs_concat]
    cases e with
    | encrypted iv packet =>
      have hone : encryptedIvs [.encrypted iv packet] = [iv] := rfl
      rw [hone, List.length_append, List.length_singleton, List.range_succ, List.map_append,
        ← ih hlog, he.1]
      rfl
    | _ => simpa [encryptedIvs] using ih hlog

/-- **So are the counters read under.** -/
theorem decryptedIvs_eq (h : Each (Event.Allowed V entityId) log) :
    decryptedIvs log = (List.range (decryptedIvs log).length).map readerIv := by
  induction log using List.reverseRecOn with
  | nil => rfl
  | append_singleton log e ih =>
    obtain ⟨hlog, he⟩ := Each.concat_iff.mp h
    rw [decryptedIvs_concat]
    cases e with
    | decrypted iv =>
      have hone : decryptedIvs [.decrypted iv] = [iv] := rfl
      rw [hone, List.length_append, List.length_singleton, List.range_succ, List.map_append,
        ← ih hlog, he.1]
      rfl
    | _ => simpa [decryptedIvs] using ih hlog

end

theorem toNat_writerIv {n : ℕ} (h : n + 1 < 2 ^ 64) : (writerIv n).toNat = n + 1 := by
  have hnew : OuterEnvelopeWriter.new.iv.toNat = 1 := rfl
  rw [writerIv, BitVec.toNat_add, BitVec.toNat_ofNat, hnew]
  omega

theorem toNat_readerIv {n : ℕ} (h : n + 1 < 2 ^ 63) : (readerIv n).toNat = 2 ^ 63 + (n + 1) := by
  have hnew : OuterEnvelopeReader.new.iv.toNat = 2 ^ 63 + 1 := rfl
  rw [readerIv, BitVec.toNat_add, BitVec.toNat_ofNat, hnew]
  omega

/-- Counters that do not wrap are different. -/
theorem nodup_map_range {f : ℕ → BitVec 64} {base n : ℕ}
    (h : ∀ i < n, (f i).toNat = base + (i + 1)) : ((List.range n).map f).Nodup := by
  refine List.Nodup.map_on ?_ List.nodup_range
  intro i hi j hj hij
  have heq := congrArg BitVec.toNat hij
  rw [h i (List.mem_range.mp hi), h j (List.mem_range.mp hj)] at heq
  omega

/-- **What a history says** of the keystreams used. -/
structure NoKeystreamTwice (V : Vccrypt) (entityId : UUID) (log : List Event) : Prop where
  /-- Every message sent was encrypted just before, handshake requests apart. -/
  sent : ∀ past message rest, log = past ++ .sent message :: rest →
    (∃ past' iv, past = past' ++ [.encrypted iv message]) ∨
      ∃ nonces, message = helloRequest entityId nonces
  /-- A packet is what the native method makes under its counter. -/
  encrypted : ∀ past iv packet rest, log = past ++ .encrypted iv packet :: rest →
    ∃ key payload, encryptPayloadNative V key iv payload = .ok packet
  encrypted_nodup : (encryptedIvs log).Nodup
  encrypted_msb : ∀ iv ∈ encryptedIvs log, iv.msb = false
  /-- A packet accepted is one the native method takes under its counter. -/
  decrypted : ∀ past iv rest, log = past ++ .decrypted iv :: rest →
    ∃ key header payload p, decryptPayloadNative V key iv header payload = .ok p
  decrypted_nodup : (decryptedIvs log).Nodup
  decrypted_msb : ∀ iv ∈ decryptedIvs log, iv.msb = true
  /-- Nothing had been encrypted under the counter of a call that threw. -/
  notEncrypted : ∀ past iv rest, log = past ++ .notEncrypted iv :: rest → iv ∉ encryptedIvs past

/-- **Histories that account for the counters use no keystream twice**, below
`2 ^ 63` packets in each direction. -/
theorem noKeystreamTwice_of_each {V : Vccrypt} {entityId : UUID} {log : List Event}
    (h : Each (Event.Allowed V entityId) log) (hwritten : (encryptedIvs log).length < 2 ^ 63)
    (hread : (decryptedIvs log).length < 2 ^ 63) : NoKeystreamTwice V entityId log where
  sent past message rest hlog := h past _ rest hlog
  encrypted past iv packet rest hlog := (h past _ rest hlog).2
  encrypted_nodup := by
    rw [encryptedIvs_eq h]
    exact nodup_map_range fun i hi => (toNat_writerIv (by omega)).trans (Nat.zero_add _).symm
  encrypted_msb := by
    intro iv hiv
    rw [encryptedIvs_eq h] at hiv
    obtain ⟨i, hi, rfl⟩ := List.mem_map.mp hiv
    have hi := List.mem_range.mp hi
    rw [BitVec.msb_eq_decide, toNat_writerIv (by omega), decide_eq_false_iff_not]
    omega
  decrypted past iv rest hlog := (h past _ rest hlog).2
  decrypted_nodup := by
    rw [decryptedIvs_eq h]
    exact nodup_map_range fun i hi => toNat_readerIv (by omega)
  decrypted_msb := by
    intro iv hiv
    rw [decryptedIvs_eq h] at hiv
    obtain ⟨i, hi, rfl⟩ := List.mem_map.mp hiv
    have hi := List.mem_range.mp hi
    rw [BitVec.msb_eq_decide, toNat_readerIv (by omega), decide_eq_true_iff]
    omega
  notEncrypted := by
    rintro past iv rest rfl hmem
    -- the counter that threw comes after all that were used before it
    have hiv : iv = writerIv (encryptedIvs past).length := h past _ rest rfl
    have hpast : Each (Event.Allowed V entityId) past := h.of_append
    have hlen : (encryptedIvs past).length ≤
        (encryptedIvs (past ++ .notEncrypted iv :: rest)).length := by
      simp [encryptedIvs]
    rw [encryptedIvs_eq hpast, hiv] at hmem
    obtain ⟨i, hi, heq⟩ := List.mem_map.mp hmem
    have hi := List.mem_range.mp hi
    have heq := congrArg BitVec.toNat heq
    rw [toNat_writerIv (by omega), toNat_writerIv (by omega)] at heq
    omega

/-- **No keystream is used twice.** For every run of handshakes and
operations on a handler fresh from its constructor, on any channel and with
any native library: as long as fewer than `2 ^ 63` packets are encrypted and
fewer than `2 ^ 63` accepted, the packets handed to the channel are encrypted
under pairwise different counters with the top bit clear, and packets are
accepted under pairwise different counters with the top bit set. A call of
either method that throws leaves its counter alone, and nothing has been
encrypted under the counter of an `encryptPayload` that throws. -/
theorem no_keystream_twice {W : Type} (P : Platform W) (agentId entityId : UUID)
    (agentPublicEncKey entityPrivateEncKey : Bytes) (w : W) (steps : List Step)
    {results : List (Except Fault (Option Value))} {s : Session W} {log : List Event}
    (hrun : Effect.trace (Watched.step P) steps
      (⟨.new agentId entityId agentPublicEncKey entityPrivateEncKey, w⟩, []) = (results, (s, log)))
    (hwritten : (encryptedIvs log).length < 2 ^ 63)
    (hread : (decryptedIvs log).length < 2 ^ 63) :
    Effect.trace (Step.run P) steps
        ⟨.new agentId entityId agentPublicEncKey entityPrivateEncKey, w⟩ = (results, s) ∧
      NoKeystreamTwice P.crypt entityId log ∧
      (∀ payload f (s s' : Session W),
        Handler.encryptPayload P payload s = .error f s' → s' = s) ∧
      ∀ header payload f (s s' : Session W),
        Handler.decryptPayload P header payload s = .error f s' → s' = s := by
  let s₀ : Session W := ⟨.new agentId entityId agentPublicEncKey entityPrivateEncKey, w⟩
  have herase := Effect.Erases.trace (Watched.erases_step P) steps s₀ []
  have hstart : Watched.Sound P entityId (s₀, []) := ⟨rfl, rfl, rfl, .nil⟩
  have hend := Watched.sound_run steps hstart
  rw [hrun] at herase hend
  exact ⟨herase.symm, noKeystreamTwice_of_each hend.allowed hwritten hread,
    fun _ _ _ _ h => Handler.encryptPayload_eq_error h,
    fun _ _ _ _ _ h => Handler.decryptPayload_eq_error h⟩

/-- A handshake and a call: two packets each way. -/
theorem no_keystream_twice_two :
    ∃ results s log,
      Effect.trace (Watched.step (refusingAgent.platform BufferCert.lib .reliable))
        [.handshake openNonces, .call .getLatestBlockId] (refusingAgent.fresh (zeros 32), []) =
        (results, (s, log)) ∧
      (encryptedIvs log).length = 2 ∧ (decryptedIvs log).length = 2 ∧
      NoKeystreamTwice XorSuite.suite ⟨2, 2⟩ log := by
  have hlen : (encryptedIvs (Effect.trace
      (Watched.step (refusingAgent.platform BufferCert.lib .reliable))
      [.handshake openNonces, .call .getLatestBlockId]
      (refusingAgent.fresh (zeros 32), [])).2.2).length = 2 ∧
      (decryptedIvs (Effect.trace (Watched.step (refusingAgent.platform BufferCert.lib .reliable))
        [.handshake openNonces, .call .getLatestBlockId]
        (refusingAgent.fresh (zeros 32), [])).2.2).length = 2 := by decide +kernel
  obtain ⟨results, ⟨s, log⟩, hrun⟩ : ∃ results x, Effect.trace
      (Watched.step (refusingAgent.platform BufferCert.lib .reliable))
      [.handshake openNonces, .call .getLatestBlockId] (refusingAgent.fresh (zeros 32), []) =
      (results, x) := ⟨_, _, rfl⟩
  rw [hrun] at hlen
  obtain ⟨hwritten, hread⟩ := hlen
  have htwo : 2 < 2 ^ 63 := by omega
  obtain ⟨-, honce, -⟩ := no_keystream_twice (refusingAgent.platform BufferCert.lib .reliable)
    ⟨1, 1⟩ ⟨2, 2⟩ (zeros 32) (zeros 32) (.start (M := refusingAgent.machine) AgentState.start)
    [.handshake openNonces, .call .getLatestBlockId] hrun
    (hwritten.trans_lt htwo) (hread.trans_lt htwo)
  exact ⟨results, s, log, hrun, hwritten, hread, honce⟩

end VjBlockchain
