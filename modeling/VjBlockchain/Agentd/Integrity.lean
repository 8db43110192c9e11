import VjBlockchain.Agentd.Place
import VjBlockchain.Agentd.Transport
import VjBlockchain.Common.Contract
/-!
# A channel in hostile hands

Whoever holds the network may hand the client any octets at all: repeat a
packet, hold it back, send the client's own packets back to it, cut them up.
What they cannot do is make a code. `Unforged` says so of the octets a run has
received: wherever a right code stands in them, it stands in a packet that one
of the two ends has sealed.

That alone leaves a packet in the wrong place, since the code does not tell
the place. The masked header does, as far as the keystreams of two counters
differ in its five octets. With both, a run of operations takes the packets in
the order of their counters, none twice and none left out.
-/

namespace VjBlockchain

open Common Common.Bytes Common.Throwing

/-! ## What a run receives -/

section Record

variable {W : Type}

/-- **A recorded channel** keeps the octets it has handed over. -/
def DataChannel.recorded (D : DataChannel W) : DataChannel (W × Bytes) where
  send message := Effect.unwatched (D.send message)
  recv n := Effect.watch (D.recv n) fun _ result => result.toOption.getD []

def Platform.recorded (P : Platform W) : Platform (W × Bytes) :=
  { P with dataChannel := P.dataChannel.recorded }

def Session.recorded (s : Session W) : Session (W × Bytes) := ⟨s.handler, (s.world, [])⟩

/-- The octets a run of operations has received, in order. -/
def received (P : Platform W) (ops : List Operation) (s : Session W) : Bytes :=
  (Effect.trace (Operation.call P.recorded) ops s.recorded).2.world.2

/-- A channel that hands over as many octets as it is asked for, or throws. -/
def DataChannel.Fills (D : DataChannel W) : Prop :=
  ∀ {n w octets w'}, D.recv n w = .ok octets w' → octets.length = n

end Record

/-! ## Who can have sent what -/

section Senders

variable (V : Vccrypt) (key : Bytes)

/-- The octets are built like a packet, and their code is right. -/
def Coded (packet : Bytes) : Prop :=
  37 ≤ packet.length ∧
    slice packet 5 37 = V.macShort.mac key (packet.take 5 ++ packet.drop 37)

instance (packet : Bytes) : Decidable (Coded V key packet) :=
  inferInstanceAs (Decidable (_ ∧ _))

/-- **No code is forged.** Of whatever was received, a part with a right code
is a packet that was sealed. -/
def Unforged (sealedAt : BitVec 64 → Option Bytes) (octets : Bytes) : Prop :=
  ∀ before packet after, octets = before ++ packet ++ after → Coded V key packet →
    ∃ i p, sealedAt i = some p ∧ packet = sealPacket V key i p

/-- **The headers tell the places**: of a packet sealed under another counter
than one of the next `n`, the keystream differs from that one's somewhere in
the header. -/
def HeadersApart (sealedAt : BitVec 64 → Option Bytes) (iv : BitVec 64) (n : ℕ) : Prop :=
  ∀ i p, sealedAt i = some p → ∀ k < n, i ≠ iv + BitVec.ofNat 64 k →
    ¬StreamsAgree V key i (iv + BitVec.ofNat 64 k) 0 5

end Senders

/-- **Answers taken in order.** Each operation throws, or takes the packet that
was sealed under the next counter and makes of it what it makes of such a
payload. -/
inductive TakenInOrder (C : Vccert) (sealedAt : BitVec 64 → Option Bytes) :
    BitVec 64 → List Operation → List (Except Fault Value) → Prop
  | nil (iv : BitVec 64) : TakenInOrder C sealedAt iv [] []
  | threw {iv : BitVec 64} {ops : List Operation} {results : List (Except Fault Value)}
      (op : Operation) (f : Fault) (rest : TakenInOrder C sealedAt iv ops results) :
      TakenInOrder C sealedAt iv (op :: ops) (.error f :: results)
  | took {iv : BitVec 64} {ops : List Operation} {results : List (Except Fault Value)}
      {op : Operation} {r : Request} {p : Bytes} (hr : op.request C = .ok r)
      (hp : sealedAt iv = some p) (rest : TakenInOrder C sealedAt (iv + 1) ops results) :
      TakenInOrder C sealedAt iv (op :: ops) (r.decode p.length p :: results)

/-! ## What one operation takes -/

section Contracts

open Effect (Contract)

variable {W α : Type} {P : Platform W} {key seen : Bytes} {iv : BitVec 64}

/-- A session under a key, with a counter and a record. -/
structure Stands (key : Bytes) (iv : BitVec 64) (seen : Bytes) (s : Session (W × Bytes)) :
    Prop where
  secret : s.handler.sharedSecret = some key
  reader : s.handler.outerEnvelopeReader.iv = iv
  record : s.world.2 = seen

/-- **What comes of reading a response**: nothing is accepted and the counter
stands, or what was received ends in the packet of a payload under this
counter, and the result is what is made of it. -/
inductive Heard (V : Vccrypt) (key : Bytes) (iv : BitVec 64) (seen : Bytes)
    (decode : ℕ → Bytes → Except Fault α) : Except Fault α → Session (W × Bytes) → Prop
  | missed {s : Session (W × Bytes)} (f : Fault) (more : Bytes)
      (h : Stands key iv (seen ++ more) s) : Heard V key iv seen decode (.error f) s
  | took {s : Session (W × Bytes)} (payload : Bytes)
      (h : Stands key (iv + 1) (seen ++ sealPacket V key iv payload) s) :
      Heard V key iv seen decode (decode payload.length payload) s

/-! ### Its parts -/

namespace Handler

/-- A method's call on the channel leaves the handler alone. -/
theorem onWorld_contract {W α : Type} {I : W → Prop} {Q : α → W → Prop} {E : Fault → W → Prop}
    {x : EStateM Fault W α} (J : ProtocolHandlerImpl → Prop) (hx : Contract I Q E x) :
    Contract (fun s => J s.handler ∧ I s.world) (fun a s => J s.handler ∧ Q a s.world)
      (fun f s => J s.handler ∧ E f s.world) (onWorld x) where
  ok := by
    rintro s a s' ⟨hhandler, hworld⟩ h
    obtain ⟨w, hxs, rfl⟩ := onWorld_eq_ok_iff.mp h
    exact ⟨hhandler, hx.ok hworld hxs⟩
  error := by
    rintro s f s' ⟨hhandler, hworld⟩ h
    obtain ⟨w, hxs, rfl⟩ := onWorld_eq_error_iff.mp h
    exact ⟨hhandler, hx.error hworld hxs⟩

/-- **What a recorded `recv` hands over** is at the end of the record. -/
theorem recorded_recv (hfills : P.dataChannel.Fills) (seen : Bytes) (n : ℕ) :
    Contract (fun w : W × Bytes => w.2 = seen)
      (fun octets w => octets.length = n ∧ w.2 = seen ++ octets) (fun _ w => w.2 = seen)
      (P.recorded.dataChannel.recv n) where
  ok := by
    rintro ⟨w, log⟩ octets w' rfl h
    simp only [Platform.recorded, DataChannel.recorded] at h
    cases hrecv : P.dataChannel.recv n w with
    | ok b w'' =>
      rw [Effect.watch_ok hrecv] at h
      cases h
      exact ⟨hfills hrecv, rfl⟩
    | error f w'' =>
      rw [Effect.watch_error hrecv] at h
      cases h
  error := by
    rintro ⟨w, log⟩ f w' rfl h
    simp only [Platform.recorded, DataChannel.recorded] at h
    cases hrecv : P.dataChannel.recv n w with
    | ok b w'' =>
      rw [Effect.watch_ok hrecv] at h
      cases h
    | error f' w'' =>
      rw [Effect.watch_error hrecv] at h
      cases h
      exact List.append_nil log

theorem recv_stands {E : Fault → Session (W × Bytes) → Prop} (hfills : P.dataChannel.Fills) (n : ℕ)
    (hE : ∀ {f s}, Stands key iv seen s → E f s) :
    Contract (Stands key iv seen)
      (fun octets s => octets.length = n ∧ Stands key iv (seen ++ octets) s) E
      (recv P.recorded n) := by
  have h := onWorld_contract
    (fun h => h.sharedSecret = some key ∧ h.outerEnvelopeReader.iv = iv)
    (recorded_recv hfills seen n)
  refine ⟨fun hs hok => ?_, fun hs herror => ?_⟩
  · obtain ⟨⟨hsecret, hreader⟩, hlen, hrecord⟩ := h.ok ⟨⟨hs.secret, hs.reader⟩, hs.record⟩ hok
    exact ⟨hlen, hsecret, hreader, hrecord⟩
  · obtain ⟨⟨hsecret, hreader⟩, hrecord⟩ := h.error ⟨⟨hs.secret, hs.reader⟩, hs.record⟩ herror
    exact hE ⟨hsecret, hreader, hrecord⟩

/-- Sending reads nothing. -/
theorem sendRequest_stands (request : Bytes) :
    Effect.Preserves (Stands key iv seen) (fun _ => True)
      (sendRequest P.recorded (.ok request)) := by
  have hsend : ∀ m, Effect.Preserves (Stands key iv seen) (fun _ => True)
      (send P.recorded m) := by
    intro m
    have hchannel : Effect.Preserves (fun w : W × Bytes => w.2 = seen) (fun _ => True)
        (P.recorded.dataChannel.send m) :=
      .unwatched fun log => ⟨fun hlog _ => hlog, fun hlog _ => ⟨hlog, trivial⟩⟩
    have h := onWorld_contract
      (fun h => h.sharedSecret = some key ∧ h.outerEnvelopeReader.iv = iv)
      (.of_preserves hchannel (E := fun _ w => w.2 = seen) fun hw => hw)
    refine ⟨fun hs hok => ?_, fun hs herror => ?_⟩
    · obtain ⟨⟨hsecret, hreader⟩, hrecord⟩ := h.ok ⟨⟨hs.secret, hs.reader⟩, hs.record⟩ hok
      exact ⟨hsecret, hreader, hrecord⟩
    · obtain ⟨⟨hsecret, hreader⟩, hrecord⟩ := h.error ⟨⟨hs.secret, hs.reader⟩, hs.record⟩ herror
      exact ⟨⟨hsecret, hreader, hrecord⟩, trivial⟩
  exact .bind (.lift fun _ _ => trivial) fun _ => .bind
    (encryptPayload_preserves (fun _ hs => ⟨hs.secret, hs.reader, hs.record⟩) fun _ => trivial)
    fun packet => hsend packet

variable (hV : P.crypt.Lawful) {E : Fault → Session (W × Bytes) → Prop}
include hV

/-- **A header that is accepted** is masked for this counter. -/
theorem decryptHeader_stands (header : Bytes) (hE : ∀ {f s}, Stands key iv seen s → E f s) :
    Contract (Stands key iv seen)
      (fun n s => header = sealHeader P.crypt key iv n ∧ Stands key iv seen s) E
      (decryptHeader P.recorded header) where
  ok := by
    intro s n s' hs h
    obtain ⟨hread, rfl⟩ := Effect.lift_eq_ok_iff.mp h
    rw [hs.secret, OuterEnvelopeReader.decryptHeader, hs.reader] at hread
    exact ⟨((decryptHeaderNative_ok_iff hV).mp hread).2.1, hs⟩
  error := by
    intro s f s' hs h
    obtain ⟨-, rfl⟩ := Effect.lift_eq_error_iff.mp h
    exact hE hs

/-- **A payload that is accepted** under a header of its own size: the two are
its packet. -/
theorem decryptPayload_stands {n : ℕ} {rest : Bytes} (hrest : rest.length = n + 32)
    (hE : ∀ {f s}, Stands key iv (seen ++ (sealHeader P.crypt key iv n ++ rest)) s → E f s) :
    Contract (Stands key iv (seen ++ (sealHeader P.crypt key iv n ++ rest)))
      (fun p s => n = p.length ∧ Stands key (iv + 1) (seen ++ sealPacket P.crypt key iv p) s) E
      (decryptPayload P.recorded (sealHeader P.crypt key iv n) rest) where
  ok := by
    intro s p s' hs h
    obtain ⟨hread, rfl⟩ := decryptPayload_eq_ok h
    rw [hs.secret, hs.reader] at hread
    obtain ⟨-, hsealed⟩ := (decryptPayloadNative_ok_iff hV).mp hread
    -- the code is 32 octets, so the header counted the payload
    have hsize : n = p.length := by
      have hlen := congrArg List.length hsealed
      rw [List.length_append, hV.macShort.length_mac, hV.macSize, length_sealBody] at hlen
      omega
    subst hsize
    refine ⟨rfl, hs.secret, congrArg (· + 1) hs.reader, hs.record.trans ?_⟩
    rw [hsealed, sealPacket, sealRest, sealMac]
  error := by
    intro s f s' hs h
    obtain rfl := decryptPayload_eq_error h
    exact hE hs

/-! ### Its two readers -/

variable {α : Type} {expect : ℕ → Except Fault Unit} {decode : ℕ → Bytes → Except Fault α}

theorem readResponse_heard (hfills : P.dataChannel.Fills) :
    Contract (Stands key iv seen) (fun a => Heard P.crypt key iv seen decode (.ok a))
      (fun f => Heard P.crypt key iv seen decode (.error f))
      (readResponse P.recorded expect decode) := by
  have hmissed : ∀ more {f : Fault} {s : Session (W × Bytes)}, Stands key iv (seen ++ more) s →
      Heard P.crypt key iv seen decode (.error f) s := fun more f _ hs => .missed f more hs
  refine .bind (recv_stands hfills 5 fun hs => hmissed [] (by rwa [List.append_nil])) ?_
  intro header
  refine .of_fact fun _ => .bind (decryptHeader_stands hV header (hmissed header)) ?_
  intro n
  refine .of_fact ?_
  rintro rfl
  refine .bind (.lift (fun hs _ => hs) fun hs _ => hmissed _ hs) fun _ => ?_
  refine .bind (recv_stands hfills (n + 32) (hmissed _)) fun rest => .of_fact fun hrest => ?_
  rw [List.append_assoc]
  refine .bind (decryptPayload_stands hV hrest (hmissed _)) fun payload => .of_fact ?_
  rintro rfl
  exact .lift (fun hs h => h ▸ .took payload hs) fun hs h => h ▸ .took payload hs

/-- The two pieces of the older readers make the rest of a packet. -/
theorem readSplitResponse_heard (hfills : P.dataChannel.Fills) (decode : Bytes → Except Fault α) :
    Contract (Stands key iv seen) (fun a => Heard P.crypt key iv seen (fun _ => decode) (.ok a))
      (fun f => Heard P.crypt key iv seen (fun _ => decode) (.error f))
      (readSplitResponse P.recorded expect decode) := by
  have hmissed : ∀ more {f : Fault} {s : Session (W × Bytes)}, Stands key iv (seen ++ more) s →
      Heard P.crypt key iv seen (fun _ => decode) (.error f) s :=
    fun more f _ hs => .missed f more hs
  refine .bind (recv_stands hfills 5 fun hs => hmissed [] (by rwa [List.append_nil])) ?_
  intro header
  refine .of_fact fun _ => .bind (decryptHeader_stands hV header (hmissed header)) ?_
  intro n
  refine .of_fact ?_
  rintro rfl
  refine .bind (.lift (fun hs _ => hs) fun hs _ => hmissed _ hs) fun _ => ?_
  refine .bind (recv_stands hfills 32 (hmissed _)) fun code => .of_fact fun hcode => ?_
  rw [List.append_assoc]
  refine .bind (recv_stands hfills n (hmissed _)) fun tail => .of_fact fun htail => ?_
  rw [List.append_assoc, List.append_assoc, joinPayload_eq]
  refine .bind (.lift (Q := fun rest s => rest = code ++ tail ∧ Stands key iv
    (seen ++ (sealHeader P.crypt key iv n ++ (code ++ tail))) s)
    (fun hs h => ⟨(Except.ok.inj h).symm, hs⟩) fun _ h => by cases h) fun rest => .of_fact ?_
  rintro rfl
  have hrest : (code ++ tail).length = n + 32 := by
    rw [List.length_append, hcode, htail, Nat.add_comm]
  refine .bind (decryptPayload_stands hV hrest (hmissed _)) fun payload => .of_fact ?_
  rintro rfl
  have htook : ∀ {s : Session (W × Bytes)},
      Stands key (iv + 1) (seen ++ sealPacket P.crypt key iv payload) s →
        Heard P.crypt key iv seen (fun _ => decode) (decode payload) s := .took payload
  exact .lift (fun hs h => h ▸ htook hs) fun hs h => h ▸ htook hs

theorem read_heard (hfills : P.dataChannel.Fills) (r : Request) :
    Contract (Stands key iv seen) (fun v => Heard P.crypt key iv seen r.decode (.ok v))
      (fun f => Heard P.crypt key iv seen r.decode (.error f)) (r.read P.recorded) := by
  cases r with
  | submit t a c => exact readSplitResponse_heard hV hfills (Request.decode (.submit t a c) 12)
  | _ => exact readResponse_heard hV hfills

end Handler

/-- **What one operation comes to**: it throws and takes nothing, or its
request's reader has heard a response. -/
theorem Operation.call_heard (hV : P.crypt.Lawful) (hfills : P.dataChannel.Fills)
    (op : Operation) {s : Session (W × Bytes)} (hs : Stands key iv seen s) :
    (∃ f, (Effect.outcome (op.call P.recorded) s).1 = .error f ∧
        Stands key iv seen (Effect.outcome (op.call P.recorded) s).2) ∨
      ∃ r, op.request P.cert = .ok r ∧ Heard P.crypt key iv seen r.decode
        (Effect.outcome (op.call P.recorded) s).1 (Effect.outcome (op.call P.recorded) s).2 := by
  rcases op.call_cases_request (P := P.recorded) hV hs.secret with ⟨f, hcall⟩ | ⟨r, hr, hcall⟩
  · rw [Effect.outcome_error hcall]
    exact .inl ⟨_, rfl, hs⟩
  · rw [Effect.outcome_congr hcall]
    refine .inr ⟨r, hr, Contract.outcome (.bind (.of_preserves
      (Handler.sendRequest_stands r.encode) fun hs => ?_) fun _ =>
        Handler.read_heard hV hfills r) hs⟩
    exact .missed _ [] (by rwa [List.append_nil])

/-! ## Runs -/

theorem Heard.stands {V : Vccrypt} {decode : ℕ → Bytes → Except Fault α} {x : Except Fault α}
    {s : Session (W × Bytes)} (h : Heard V key iv seen decode x s) :
    ∃ iv' more, Stands key iv' (seen ++ more) s := by
  cases h with
  | missed _ more h => exact ⟨_, more, h⟩
  | took _ h => exact ⟨_, _, h⟩

/-- A run keeps what it has received. -/
theorem run_stands (hV : P.crypt.Lawful) (hfills : P.dataChannel.Fills) (ops : List Operation)
    {s : Session (W × Bytes)} (hs : Stands key iv seen s) :
    ∃ iv' more, Stands key iv' (seen ++ more)
      (Effect.trace (Operation.call P.recorded) ops s).2 := by
  induction ops generalizing iv seen s with
  | nil => exact ⟨iv, [], by rwa [List.append_nil]⟩
  | cons op ops ih =>
    rcases op.call_heard hV hfills hs with ⟨_, -, hthrew⟩ | ⟨r, -, hheard⟩
    · exact ih hthrew
    · obtain ⟨_, more, hstands⟩ := hheard.stands
      obtain ⟨iv', more', h⟩ := ih hstands
      exact ⟨iv', more ++ more', by rwa [← List.append_assoc]⟩

/-- The counters behind the next one. -/
theorem counter_succ (iv : BitVec 64) (k : ℕ) :
    iv + 1 + BitVec.ofNat 64 k = iv + BitVec.ofNat 64 (k + 1) := by
  rw [BitVec.add_assoc]
  congr 1
  bv_omega

theorem HeadersApart.fewer {V : Vccrypt} {sealedAt : BitVec 64 → Option Bytes} {n : ℕ}
    (h : HeadersApart V key sealedAt iv (n + 1)) : HeadersApart V key sealedAt iv n :=
  fun i p hp k hk => h i p hp k (by omega)

theorem HeadersApart.next {V : Vccrypt} {sealedAt : BitVec 64 → Option Bytes} {n : ℕ}
    (h : HeadersApart V key sealedAt iv (n + 1)) : HeadersApart V key sealedAt (iv + 1) n := by
  intro i p hp k hk
  rw [counter_succ]
  exact h i p hp (k + 1) (by omega)

/-- A packet carries a right code. -/
theorem coded_sealPacket {V : Vccrypt} (hV : V.Lawful) (payload : Bytes) :
    Coded V key (sealPacket V key iv payload) := by
  have hheader := length_sealHeader (V := V) key iv payload.length
  have hmac := length_sealMac hV key iv payload
  refine ⟨by rw [length_sealPacket hV]; omega, ?_⟩
  rw [sealPacket, sealRest, slice_mid hheader (by rw [hheader, hmac]), List.take_left' hheader,
    ← List.append_assoc, List.drop_left' (by rw [List.length_append, hheader, hmac]), sealMac]

/-- **A packet found under a counter** was sealed under it, when no code is
forged and the headers tell the places. -/
theorem sealed_of_found {V : Vccrypt} (hV : V.Lawful) {sealedAt : BitVec 64 → Option Bytes}
    {n : ℕ} {octets before payload after : Bytes} (hforge : Unforged V key sealedAt octets)
    (hapart : HeadersApart V key sealedAt iv (n + 1))
    (hpart : octets = before ++ sealPacket V key iv payload ++ after) :
    sealedAt iv = some payload := by
  obtain ⟨i, p, hsealed, hpacket⟩ := hforge _ _ _ hpart (coded_sealPacket hV payload)
  have hlen : payload.length = p.length := by
    have h := congrArg List.length hpacket
    rw [length_sealPacket hV, length_sealPacket hV] at h
    omega
  obtain ⟨hheader, hrest⟩ := List.append_inj hpacket (by simp)
  by_cases hi : i = iv
  · subst hi
    obtain ⟨-, hbody⟩ := List.append_inj hrest (by rw [length_sealMac hV, length_sealMac hV])
    have hp : payload = p := (xorAt_eq_iff.mp hbody).trans (xorAt_xorAt ..)
    rw [hsealed, hp]
  · -- a header of the same size under another counter
    have hstreams : StreamsAgree V key i iv 0 5 := by
      rw [hlen] at hheader
      exact sealHeader_eq_iff.mp hheader.symm
    exact absurd hstreams (by simpa using hapart i p hsealed 0 (by omega) (by simpa using hi))

theorem takenInOrder_run (hV : P.crypt.Lawful) (hfills : P.dataChannel.Fills)
    {sealedAt : BitVec 64 → Option Bytes} (ops : List Operation) {s : Session (W × Bytes)}
    (hs : Stands key iv seen s)
    (hforge : Unforged P.crypt key sealedAt
      (Effect.trace (Operation.call P.recorded) ops s).2.world.2)
    (hapart : HeadersApart P.crypt key sealedAt iv ops.length) :
    TakenInOrder P.cert sealedAt iv ops (Effect.trace (Operation.call P.recorded) ops s).1 := by
  induction ops generalizing iv seen s with
  | nil => exact .nil iv
  | cons op ops ih =>
    rw [Effect.trace_cons] at hforge ⊢
    rcases op.call_heard hV hfills hs with ⟨f, hf, hthrew⟩ | ⟨r, hr, hheard⟩
    · rw [hf]
      exact .threw op f (ih hthrew hforge hapart.fewer)
    · generalize Effect.outcome (op.call P.recorded) s = result at hforge hheard ⊢
      obtain ⟨x, s'⟩ := result
      cases hheard with
      | missed f more h => exact .threw op f (ih h hforge hapart.fewer)
      | took payload h =>
        obtain ⟨_, more, hend⟩ := run_stands hV hfills ops h
        exact .took hr (sealed_of_found hV hforge hapart hend.record) (ih h hforge hapart.next)

/-- **Recording changes nothing**: a run over the recorded channel has the
results of the run over the channel. -/
theorem recorded_run (P : Platform W) (ops : List Operation) (s : Session W) :
    (Effect.trace (Operation.call P.recorded) ops s.recorded).1 =
      (Effect.trace (Operation.call P) ops s).1 := by
  have hstep : ∀ {β : Type} (x : EStateM Fault W β) (note : W → Except Fault β → Bytes),
      Effect.Simulates (fun (w : W × Bytes) w' => w.1 = w') (fun _ => False) (fun _ => False)
        (Effect.watch x note) x := by
    refine fun x note => ⟨?_, ⟨nofun, nofun⟩, ⟨nofun, nofun⟩⟩
    rintro w _ rfl
    rw [Effect.outcome_watch]
    exact .inr (.inr ⟨rfl, rfl⟩)
  have hch : DataChannel.Simulates (fun (w : W × Bytes) w' => w.1 = w') (fun _ => False)
      (fun _ => False) P.dataChannel.recorded P.dataChannel :=
    ⟨fun message => hstep (P.dataChannel.send message) fun _ _ => [],
      fun n => hstep (P.dataChannel.recv n) fun _ result => result.toOption.getD []⟩
  rcases Effect.Simulates.trace ops
      (fun op _ => Handler.simulates_call P.crypt P.cert hch op) (s := s.recorded) (t := s)
      ⟨rfl, rfl⟩ with hlost | hlost | ⟨hresults, -⟩
  · exact hlost.elim
  · exact hlost.elim
  · exact hresults

end Contracts

/-- As long as nothing has thrown, the packets are those of the next counters. -/
theorem TakenInOrder.unbroken {C : Vccert} {sealedAt : BitVec 64 → Option Bytes} {iv : BitVec 64}
    {ops : List Operation} {results : List (Except Fault Value)}
    (h : TakenInOrder C sealedAt iv ops results) {n : ℕ} {op : Operation} (hop : ops[n]? = some op)
    (hok : ∀ x ∈ results.take (n + 1), ∃ v, x = .ok v) :
    ∃ r p, op.request C = .ok r ∧ sealedAt (iv + BitVec.ofNat 64 n) = some p ∧
      results[n]? = some (r.decode p.length p) := by
  induction h generalizing n with
  | nil => cases hop
  | threw op f rest ih =>
    obtain ⟨v, hv⟩ := hok (.error f) (by simp)
    cases hv
  | took hr hp rest ih =>
    cases n with
    | zero =>
      obtain rfl := Option.some.inj hop
      exact ⟨_, _, hr, by simpa using hp, rfl⟩
    | succ n =>
      obtain ⟨r, p, hr', hp', hresult⟩ := ih hop fun x hx => hok x (List.mem_cons_of_mem _ hx)
      exact ⟨r, p, hr', (counter_succ ..) ▸ hp', hresult⟩

/-! ## Over a socket -/

section Socket

variable {M : AgentMachine} {N : Network M}

/-- `readFully` fills the array, or throws. -/
theorem Socket.length_readFully {wire : Wire} {n : ℕ} {s s' : Socket M} {octets : Bytes}
    (h : readFully wire n s = .ok octets s') : octets.length = n := by
  by_cases hn : n = 0
  · subst hn
    cases (readFully_zero wire s).symm.trans h
    rfl
  cases hclosed : s.closed with
  | true =>
    have hread : read wire n s = .error (.java .ioException "Socket closed") s := if_pos hclosed
    cases (readFully_error hn hread).symm.trans h
  | false =>
    rcases readFully_cases wire n hclosed with ⟨_, _, herror, -⟩ | ⟨-, _, _, herror⟩ |
      ⟨henough, _, hok, -⟩
    · cases herror.symm.trans h
    · cases herror.symm.trans h
    · cases hok.symm.trans h
      exact List.length_take_of_le henough

theorem socketChannel_fills : (socketChannel N).Fills := by
  intro n w octets w' h
  simp only [socketChannel, SocketDataChannelImpl.recv, SocketDataChannelImpl.onField] at h
  split at h
  · cases h
  · unfold SocketDataChannelImpl.onSocket at h
    split at h
    · cases h
    · split at h
      · rename_i hread
        cases h
        exact Socket.length_readFully hread
      · cases h

/-- **The network decides whether, not what.** Over a socket, whoever is behind
it, whatever octets come from there and whichever call on it throws: unless a
code is forged or two headers agree, a run of operations under a secret takes
the packets sealed under the reader's counters in their order, none twice and
none left out. Each operation throws or makes its result of the next one, and
as long as nothing has thrown the `n`-th operation makes its own of the
`n`-th. -/
theorem answers_in_order {V : Vccrypt} (hV : V.Lawful) (C : Vccert) {key : Bytes}
    {s : Session (SocketWorld M)} (hsecret : s.handler.sharedSecret = some key)
    (ops : List Operation) {sealedAt : BitVec 64 → Option Bytes}
    (hforge : Unforged V key sealedAt (received (socketPlatform V C N) ops s))
    (hapart : HeadersApart V key sealedAt s.handler.outerEnvelopeReader.iv ops.length) :
    TakenInOrder C sealedAt s.handler.outerEnvelopeReader.iv ops
        (Effect.trace (Operation.call (socketPlatform V C N)) ops s).1 ∧
      ∀ n op, ops[n]? = some op →
        (∀ x ∈ (Effect.trace (Operation.call (socketPlatform V C N)) ops s).1.take (n + 1),
          ∃ v, x = .ok v) →
        ∃ r p, op.request C = .ok r ∧
          sealedAt (s.handler.outerEnvelopeReader.iv + BitVec.ofNat 64 n) = some p ∧
          (Effect.trace (Operation.call (socketPlatform V C N)) ops s).1[n]? =
            some (r.decode p.length p) := by
  have hrun := takenInOrder_run (P := socketPlatform V C N) hV socketChannel_fills ops
    (s := s.recorded) ⟨hsecret, rfl, rfl⟩ hforge hapart
  rw [recorded_run] at hrun
  exact ⟨hrun, fun n op hop hok => hrun.unbroken hop hok⟩

end Socket

/-! ## In the open -/

/-- A peer that has one packet and sends it whatever it is asked. -/
def repeater (packet : Bytes) : AgentMachine where
  State := Unit
  react _ _ := ((), packet)
  accepts _ _ := false

/-- A status: the request id and two words of zeros. -/
def openStatus : Bytes := Answer.payload UNAUTH_PROTOCOL_REQ_ID_STATUS_GET ⟨0, 0, []⟩

/-- The one packet that was sealed. -/
def sealedOnce (i : BitVec 64) : Option Bytes :=
  if i = 0x8000000000000002 then some openStatus else none

abbrev RepeatedWorld :=
  SocketWorld (repeater (sealPacket XorSuite.suite (zeros 32) 0x8000000000000002 openStatus))

/-- A session as a handshake leaves it, with that peer. -/
def repeated : Session RepeatedWorld :=
  ⟨{ refusingAgent.client (zeros 32) with
      sharedSecret := some (zeros 32)
      outerEnvelopeWriter := ⟨0x0000000000000002⟩
      outerEnvelopeReader := ⟨0x8000000000000002⟩ }, trickling ()⟩

abbrev repeatedPlatform : Platform RepeatedWorld :=
  socketPlatform XorSuite.suite BufferCert.lib (trickle ())

theorem received_repeated :
    received repeatedPlatform [.getConnectionStatus, .getConnectionStatus] repeated =
      sealPacket XorSuite.suite (zeros 32) 0x8000000000000002 openStatus ++
        sealHeader XorSuite.suite (zeros 32) 0x8000000000000002 12 := by
  decide +kernel

/-- The code is right in one place only. -/
theorem unforged_repeated : Unforged XorSuite.suite (zeros 32) sealedOnce
    (received repeatedPlatform [.getConnectionStatus, .getConnectionStatus] repeated) := by
  rw [received_repeated]
  intro before packet after hsplit hcoded
  have hlen := congrArg List.length hsplit
  have hsealed : (sealPacket XorSuite.suite (zeros 32) 0x8000000000000002 openStatus).length = 49 :=
    length_sealPacket XorSuite.suite_lawful ..
  simp only [List.length_append, hsealed, length_sealHeader] at hlen
  have hall : ∀ i < 18, ∀ n < 55, Coded XorSuite.suite (zeros 32)
      (((sealPacket XorSuite.suite (zeros 32) 0x8000000000000002 openStatus ++
        sealHeader XorSuite.suite (zeros 32) 0x8000000000000002 12).drop i).take n) →
      i = 0 ∧ n = 49 := by decide +kernel
  have hpart : ((sealPacket XorSuite.suite (zeros 32) 0x8000000000000002 openStatus ++
      sealHeader XorSuite.suite (zeros 32) 0x8000000000000002 12).drop before.length).take
        packet.length = packet := by
    rw [hsplit, List.append_assoc, List.drop_left, List.take_left]
  have hshort := hcoded.1
  obtain ⟨hbefore, hpacket⟩ := hall before.length (by omega) packet.length (by omega)
    (hpart.symm ▸ hcoded)
  refine ⟨0x8000000000000002, openStatus, rfl, ?_⟩
  rw [hbefore, hpacket, List.drop_zero, List.take_left' hsealed] at hpart
  exact hpart.symm

/-- **A repeated packet is refused**: the second call takes its header for that
of the next packet, and throws. -/
theorem answers_in_order_repeated :
    (Effect.trace (Operation.call repeatedPlatform) [.getConnectionStatus, .getConnectionStatus]
        repeated).1 = [.ok (.int 0), .error (.illegalState "invalid packet type")] ∧
      TakenInOrder BufferCert.lib sealedOnce 0x8000000000000002
        [.getConnectionStatus, .getConnectionStatus]
        [.ok (.int 0), .error (.illegalState "invalid packet type")] := by
  have hrun : (Effect.trace (Operation.call repeatedPlatform)
      [.getConnectionStatus, .getConnectionStatus] repeated).1 =
      [.ok (.int 0), .error (.illegalState "invalid packet type")] := by decide +kernel
  have hapart : HeadersApart XorSuite.suite (zeros 32) sealedOnce 0x8000000000000002 2 := by
    intro i p hp k hk hne hagree
    obtain rfl : i = 0x8000000000000002 := (Option.ite_none_right_eq_some.mp hp).1
    rcases Nat.le_one_iff_eq_zero_or_eq_one.mp (Nat.le_of_lt_succ hk) with rfl | rfl
    · exact hne rfl
    · exact absurd (hagree 0 (by omega)) (by decide)
  have h := (answers_in_order XorSuite.suite_lawful BufferCert.lib (s := repeated) rfl
    [.getConnectionStatus, .getConnectionStatus] unforged_repeated hapart).1
  rw [hrun] at h
  exact ⟨hrun, h⟩

end VjBlockchain
