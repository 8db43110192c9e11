import VjBlockchain.Agentd.Acceptance
import VjBlockchain.Common.History
/-!
# How much is asked for

`recv` allocates an array of the size it is asked for before a single octet
of it has arrived. A metered channel is any channel with a record of these
sizes. A size is a Java `int` and the model cuts it off at zero, so a positive
entry of the record is a positive `int`.

The header of a sealed packet announces at most `MAX_PAYLOAD_SIZE`, whoever
sent it, since `decryptHeaderNative` checks it. The plain header of a first
answer is checked for one size only, and whatever else it announces from
twelve octets on is asked for.
-/

namespace VjBlockchain

open Common Common.Bytes Common.Throwing ByteUtil

/-- The most that a sealed packet has behind its header. -/
def MAX_RECV_SIZE : ℕ := MAX_PAYLOAD_SIZE + 32

section

variable {W α : Type}

/-- **A metered channel** records the sizes it is asked for. -/
def DataChannel.metered (D : DataChannel W) : DataChannel (W × List ℕ) where
  send message := Effect.unwatched (D.send message)
  recv n := Effect.watch (D.recv n) fun _ _ => [n]

def Platform.metered (P : Platform W) : Platform (W × List ℕ) :=
  { P with dataChannel := P.dataChannel.metered }

def Session.metered (s : Session W) : Session (W × List ℕ) := ⟨s.handler, (s.world, [])⟩

variable (P : Platform W)

/-- The state a run on the metered channel leaves. -/
def meteredRun (steps : List Step) (s : Session W) : Session (W × List ℕ) :=
  (Effect.trace (Step.run P.metered) steps s.metered).2

/-- The sizes a run asks for, in order. -/
def asked (steps : List Step) (s : Session W) : List ℕ := (meteredRun P steps s).world.2

/-- Every size is positive and within the limit. -/
def Moderate (sizes : List ℕ) : Prop := ∀ n ∈ sizes, 0 < n ∧ n ≤ MAX_RECV_SIZE

/-- The length a plain header announces, a Java `int`. -/
def announced (responseHeader : Bytes) : Except Fault ℤ := do
  let length ← copyOfRange responseHeader 1 5 >>= ntohl
  .ok (BitVec.ofNat 32 length).toInt

/-- **The first answer is moderate.** If a handshake from here receives a
header of the right type, it announces no more than the limit. -/
def HelloModerate (nonces : Nonces) (s : Session W) : Prop :=
  ∀ {request s₁ header s₂ n}, handshakeRequest s.handler.entityId nonces = .ok request →
    Handler.send P request s = .ok () s₁ → Handler.recv P 5 s₁ = .ok header s₂ →
    header[0]? = some IPC_DATA_TYPE_DATA_PACKET → announced header = .ok n → n ≤ MAX_RECV_SIZE

variable {P}

/-! ## The envelope does not look at the world -/

namespace Handler

theorem encryptPayload_world (J : W → Prop) (p : Bytes) :
    Effect.Preserves (fun s : Session W => J s.world) (fun _ => True) (encryptPayload P p) :=
  encryptPayload_preserves (fun _ hs => hs) fun _ => trivial

theorem decryptHeader_world (J : W → Prop) (header : Bytes) :
    Effect.Preserves (fun s : Session W => J s.world) (fun _ => True)
      (decryptHeader P header) :=
  decryptHeader_preserves fun _ => trivial

theorem decryptPayload_world (J : W → Prop) (header p : Bytes) :
    Effect.Preserves (fun s : Session W => J s.world) (fun _ => True)
      (decryptPayload P header p) :=
  decryptPayload_preserves (fun _ hs => hs) fun _ => trivial

theorem setSharedSecret_world (J : W → Prop) (secret : Bytes) :
    Effect.Preserves (fun s : Session W => J s.world) (fun _ => True) (setSharedSecret secret) where
  ok := by
    rintro s _ _ hs ⟨⟩
    exact hs
  error := by
    rintro s _ _ hs ⟨⟩

/-- **A header that is accepted** announces a packet within the limit. -/
theorem decryptHeader_le {header : Bytes} {s s' : Session W} {n : ℕ}
    (h : decryptHeader P header s = .ok n s') : n ≤ MAX_PAYLOAD_SIZE := by
  unfold decryptHeader at h
  obtain ⟨hread, -⟩ := Effect.lift_eq_ok_iff.mp h
  obtain ⟨_, -, h⟩ := bind_eq_ok_iff.mp hread
  obtain ⟨_, -, h⟩ := bind_eq_ok_iff.mp h
  obtain ⟨_, -, h⟩ := bind_eq_ok_iff.mp h
  obtain ⟨_, -, h⟩ := bind_eq_ok_iff.mp h
  obtain ⟨_, -, h⟩ := bind_eq_ok_iff.mp h
  obtain ⟨_, -, h⟩ := bind_eq_ok_iff.mp h
  obtain ⟨_, hmax, h⟩ := bind_eq_ok_iff.mp h
  obtain rfl := Except.ok.inj h
  exact check_eq_ok_iff.mp hmax

end Handler

/-! ## The record -/

/-- A method's call on the channel, and what it leaves. -/
theorem Handler.outcome_onWorld (x : EStateM Fault W α) (s : Session W) :
    Effect.outcome (onWorld x) s =
      ((Effect.outcome x s.world).1, { s with world := (Effect.outcome x s.world).2 }) := by
  cases h : x s.world with
  | ok a w =>
    have hx : onWorld x s = .ok a { s with world := w } := by rw [onWorld, h]
    rw [Effect.outcome_ok hx, Effect.outcome_ok h]
  | error f w =>
    have hx : onWorld x s = .error f { s with world := w } := by rw [onWorld, h]
    rw [Effect.outcome_error hx, Effect.outcome_error h]

/-- **Every call of `recv` is recorded**, whatever comes of it. -/
theorem recv_record (n : ℕ) (s : Session (W × List ℕ)) :
    (Effect.outcome (Handler.recv P.metered n) s).2.world.2 = s.world.2 ++ [n] := by
  have hwatch := Effect.outcome_watch (P.dataChannel.recv n) (fun _ _ => [n]) s.world
  have hworld := Handler.outcome_onWorld (P.metered.dataChannel.recv n) s
  rw [Handler.recv, hworld]
  exact congrArg (fun x => x.2.2) hwatch

/-- Nothing else is. -/
theorem send_record (message : Bytes) (s : Session (W × List ℕ)) :
    (Effect.outcome (Handler.send P.metered message) s).2.world.2 = s.world.2 := by
  have hwatch := Effect.outcome_watch (P.dataChannel.send message) (fun _ _ => ([] : List ℕ))
    s.world
  have hworld := Handler.outcome_onWorld (P.metered.dataChannel.send message) s
  rw [Handler.send, hworld]
  exact (congrArg (fun x => x.2.2) hwatch).trans (List.append_nil _)

/-- What was asked for stays in the record. -/
theorem metered_respects (n : ℕ) :
    Respects P.metered (fun s => n ∈ s.world.2) fun _ => True where
  send message := .of_outcome fun s hn => (send_record message s).symm ▸ hn
  recv m := .of_outcome fun s hn => (recv_record m s).symm ▸ List.mem_append_left [m] hn
  encryptPayload := Handler.encryptPayload_world fun w : W × List ℕ => n ∈ w.2
  decryptHeader := Handler.decryptHeader_world fun w : W × List ℕ => n ∈ w.2
  decryptPayload := Handler.decryptPayload_world fun w : W × List ℕ => n ∈ w.2
  thrown _ := trivial

theorem step_keeps (n : ℕ) (step : Step) :
    Effect.Preserves (fun s => n ∈ s.world.2) (fun _ => True) (step.run P.metered) := by
  cases step with
  | handshake nonces =>
    exact .bind ((metered_respects n).handshake
      (Handler.setSharedSecret_world fun w : W × List ℕ => n ∈ w.2) nonces) fun _ => .pure _
  | call op => exact .bind ((metered_respects n).call op) fun _ => .pure _

/-! ## Moderation -/

/-- The record is moderate. -/
def Metered (s : Session (W × List ℕ)) : Prop := Moderate s.world.2

abbrev KeepsMetered (x : Handler (W × List ℕ) α) : Prop :=
  Effect.Preserves Metered (fun _ => True) x

theorem keeps_recv {n : ℕ} (hpos : 0 < n) (hmax : n ≤ MAX_RECV_SIZE) :
    KeepsMetered (Handler.recv P.metered n) := by
  refine .of_outcome fun s hs m hm => ?_
  rw [recv_record] at hm
  rcases List.mem_append.mp hm with hm | hm
  · exact hs m hm
  · obtain rfl := List.mem_singleton.mp hm
    exact ⟨hpos, hmax⟩

theorem keeps_send (message : Bytes) : KeepsMetered (Handler.send P.metered message) :=
  .of_outcome fun s hs => by
    rw [Metered, send_record]
    exact hs

theorem keeps_lift (x : Except Fault α) :
    KeepsMetered (Effect.lift x : Handler (W × List ℕ) α) :=
  .lift_any x

theorem keeps_sendRequest (request : Except Fault Bytes) :
    KeepsMetered (Handler.sendRequest P.metered request) :=
  .bind (keeps_lift _) fun _ =>
    .bind (Handler.encryptPayload_world (fun w : W × List ℕ => Moderate w.2) _) fun _ =>
      keeps_send _

theorem keeps_decryptHeader (header : Bytes) :
    KeepsMetered (Handler.decryptHeader P.metered header) :=
  Handler.decryptHeader_world (fun w : W × List ℕ => Moderate w.2) header

theorem keeps_decryptPayload (header p : Bytes) :
    KeepsMetered (Handler.decryptPayload P.metered header p) :=
  Handler.decryptPayload_world (fun w : W × List ℕ => Moderate w.2) header p

/-- A packet is asked for up to the size its header has been accepted with. -/
theorem keeps_readResponse (expect : ℕ → Except Fault Unit)
    (decode : ℕ → Bytes → Except Fault α) :
    KeepsMetered (Handler.readResponse P.metered expect decode) :=
  .bind (keeps_recv (by decide) (by decide)) fun _ =>
    .bind_of (keeps_decryptHeader _) fun hheader => .bind (keeps_lift _) fun _ =>
      .bind (keeps_recv (by omega) (Nat.add_le_add_right (Handler.decryptHeader_le hheader) 32))
        fun _ => .bind (keeps_decryptPayload ..) fun _ => keeps_lift _

theorem keeps_readSplitResponse {expect : ℕ → Except Fault Unit}
    (hexpect : ∀ n u, expect n = .ok u → 0 < n) (decode : Bytes → Except Fault α) :
    KeepsMetered (Handler.readSplitResponse P.metered expect decode) :=
  .bind (keeps_recv (by decide) (by decide)) fun _ =>
    .bind_of (keeps_decryptHeader _) fun hheader => .bind_of (keeps_lift _) fun hsize =>
      .bind (keeps_recv (by decide) (by decide)) fun _ =>
        .bind (keeps_recv (hexpect _ _ (Effect.lift_eq_ok_iff.mp hsize).1)
          ((Handler.decryptHeader_le hheader).trans (Nat.le_add_right _ 32))) fun _ =>
          .bind (keeps_lift _) fun _ => .bind (keeps_decryptPayload ..) fun _ => keeps_lift _

theorem expectTwelve_pos (expected : String) (n : ℕ) (u : Unit)
    (h : expectTwelve expected n = .ok u) : 0 < n := by
  have := check_eq_ok_iff.mp h
  omega

/-- **Every operation asks moderately**, whatever it is answered. -/
theorem keeps_call (op : Operation) : KeepsMetered (op.call P.metered) := by
  have hread : ∀ r : Request, KeepsMetered (r.read P.metered) := by
    intro r
    cases r with
    | submit t a c => exact keeps_readSplitResponse (expectTwelve_pos _) _
    | _ => exact keeps_readResponse _ _
  refine .of_outcome fun s hs => ?_
  rcases op.call_cases (P := P.metered) (s := s) with ⟨e, hcall⟩ | ⟨r, -, hcall⟩
  · rw [Effect.outcome_error hcall]
    exact hs
  · rw [Effect.outcome, hcall]
    exact (Effect.Preserves.bind (keeps_sendRequest _) fun _ => hread r).outcome hs

theorem keeps_acknowledgeHandshake (serverChallengeNonce : Bytes) :
    KeepsMetered (Handler.acknowledgeHandshake P.metered serverChallengeNonce) :=
  .bind .get fun _ => .bind (keeps_sendRequest _) fun _ =>
    keeps_readSplitResponse (expectTwelve_pos _) _

/-! ## The first answer -/

/-- The size a plain header announces, as the method computes it. -/
theorem announced_eq {header : Bytes} {length : ℕ}
    (h : copyOfRange header 1 5 >>= ntohl = .ok length) :
    announced header = .ok (BitVec.ofNat 32 length).toInt := by
  rw [announced, h]
  rfl

/-- An answer of another length is asked for if it is long enough to be an
error, and then the method ends. -/
theorem keeps_handleHandshakeInitiateError {n : ℤ} (hn : n ≤ MAX_RECV_SIZE) :
    KeepsMetered (Handler.handleHandshakeInitiateError P.metered n) := by
  unfold Handler.handleHandshakeInitiateError
  split
  · exact .throw trivial
  · exact .bind (keeps_recv (by omega) (by omega)) fun _ => keeps_lift _

/-- **What is asked for behind a plain header** of at most the limit. -/
theorem keeps_helloBody {n : ℤ} (hn : n ≤ MAX_RECV_SIZE) :
    KeepsMetered (do
      if n ≠ 164 then Handler.handleHandshakeInitiateError P.metered n
      Handler.recv P.metered n.toNat : Handler (W × List ℕ) Bytes) := by
  have hbody : 0 < (164 : ℤ).toNat ∧ (164 : ℤ).toNat ≤ MAX_RECV_SIZE := by decide
  by_cases hlen : n = 164
  · subst hlen
    rw [if_neg (not_not_intro rfl)]
    exact keeps_recv hbody.1 hbody.2
  · rw [if_pos hlen]
    refine .bind_of (keeps_handleHandshakeInitiateError hn) fun {_ s _} hok => ?_
    obtain ⟨f, s', hthrows, -⟩ := Handler.handleHandshakeInitiateError_throws (P := P.metered) n s
    cases hok.symm.trans hthrows

/-- **A moderate first answer** is read moderately. -/
theorem recvServerHello_metered {s : Session (W × List ℕ)} (hs : Metered s)
    (hello : ∀ {header s' n}, Handler.recv P.metered 5 s = .ok header s' →
      header[0]? = some IPC_DATA_TYPE_DATA_PACKET → announced header = .ok n →
      n ≤ MAX_RECV_SIZE) :
    Metered (Effect.outcome (Handler.recvServerHello P.metered) s).2 := by
  have hheader : KeepsMetered (Handler.recv P.metered 5) := keeps_recv (by decide) (by decide)
  unfold Handler.recvServerHello
  cases hrecv : Handler.recv P.metered 5 s with
  | error f s' =>
    rw [Effect.outcome_error (Effect.bind_error hrecv)]
    exact (hheader.error hs hrecv).1
  | ok header s' =>
    rw [Effect.outcome_bind_ok hrecv]
    refine Effect.Preserves.outcome (E := fun _ => True) ?_ (hheader.ok hs hrecv)
    refine .bind_of (keeps_lift _) fun htype => .bind_of (keeps_lift _) fun hlength => ?_
    have htype := check_eq_ok_iff.mp (Effect.lift_eq_ok_iff.mp htype).1
    have hlength := announced_eq (Effect.lift_eq_ok_iff.mp hlength).1
    exact keeps_helloBody (hello hrecv htype hlength)

/-- **Whatever a plain header announces**, from twelve octets on, is asked
for. -/
theorem recvServerHello_asks {s s' : Session (W × List ℕ)} {header : Bytes} {n : ℤ}
    (hrecv : Handler.recv P.metered 5 s = .ok header s')
    (htype : header[0]? = some IPC_DATA_TYPE_DATA_PACKET) (hn : announced header = .ok n)
    (hmin : 12 ≤ n) :
    n.toNat ∈ (Effect.outcome (Handler.recvServerHello P.metered) s).2.world.2 := by
  obtain ⟨length, hlength, hn⟩ := bind_eq_ok_iff.mp hn
  obtain rfl := Except.ok.inj hn
  have hasked : ∀ t : Session (W × List ℕ),
      (BitVec.ofNat 32 length).toInt.toNat ∈ (Effect.outcome
        (Handler.recv P.metered (BitVec.ofNat 32 length).toInt.toNat) t).2.world.2 := by
    intro t
    rw [recv_record]
    exact List.mem_append_right _ (List.mem_singleton_self _)
  unfold Handler.recvServerHello
  rw [Effect.outcome_bind_ok hrecv, check_pos htype, Effect.outcome_bind_ok (Effect.lift_ok ..),
    hlength, Effect.outcome_bind_ok (Effect.lift_ok ..)]
  dsimp only
  by_cases h : (BitVec.ofNat 32 length).toInt = 164
  · rw [if_neg (not_not_intro h)]
    exact hasked s'
  · rw [if_pos h, Handler.handleHandshakeInitiateError, if_neg (not_lt.mpr hmin)]
    refine Effect.Preserves.outcome_bind (fun _ => (metered_respects _).recv _) ?_
    exact Effect.Preserves.outcome_bind (I := fun s : Session (W × List ℕ) => _ ∈ s.world.2)
      (fun _ => .lift_any _) (hasked s')

/-- What holds of the world once the first answer is read, and is kept by the
second round, holds after the handshake. -/
theorem outcome_handshake {J : W → Prop} {nonces : Nonces} {request : Bytes} {s s₁ : Session W}
    (hack : ∀ challenge, Effect.Preserves (fun s : Session W => J s.world) (fun _ => True)
      (Handler.acknowledgeHandshake P challenge))
    (hrequest : handshakeRequest s.handler.entityId nonces = .ok request)
    (hsend : Handler.send P request s = .ok () s₁)
    (hJ : J (Effect.outcome (Handler.recvServerHello P) s₁).2.world) :
    J (Effect.outcome (Handler.handshake P nonces) s).2.world := by
  have hexchange : J (Effect.outcome (Handler.exchangeHello P nonces) s).2.world := by
    unfold Handler.exchangeHello
    rw [Effect.outcome_bind_ok (Effect.get_apply s), hrequest,
      Effect.outcome_bind_ok (Effect.lift_ok ..), Effect.outcome_bind_ok hsend]
    exact Effect.Preserves.outcome_bind (I := fun s : Session W => J s.world)
      (fun _ => .bind (.lift_any _) fun _ => .pure _) hJ
  refine Effect.Preserves.outcome_bind (I := fun s : Session W => J s.world) hack ?_
  refine Effect.Preserves.outcome_bind (I := fun s : Session W => J s.world) (E := fun _ => True)
    (fun _ => ?_) hexchange
  exact .bind .get fun _ => .bind (.lift_any _) fun _ =>
    .bind (Handler.setSharedSecret_world J _) fun _ =>
      .bind (.lift_any _) fun _ => .pure _

/-! ## Runs -/

theorem outcome_run_handshake (P : Platform W) (nonces : Nonces) (s : Session W) :
    (Effect.outcome (Step.run P (.handshake nonces)) s).2 =
      (Effect.outcome (Handler.handshake P nonces) s).2 :=
  congrArg Prod.snd (Effect.outcome_bind_pure (Handler.handshake P nonces) (fun _ => none) s)

/-- **A handshake asks moderately** if its first answer is moderate. -/
theorem handshake_metered {nonces : Nonces} {s : Session (W × List ℕ)} (hs : Metered s)
    (hello : HelloModerate P.metered nonces s) :
    Metered (Effect.outcome (Handler.handshake P.metered nonces) s).2 := by
  cases hrequest : handshakeRequest s.handler.entityId nonces with
  | error f =>
    have hexchange : Handler.exchangeHello P.metered nonces s = .error f s := by
      unfold Handler.exchangeHello
      rw [Effect.get_bind, hrequest]
      exact Effect.bind_error (Effect.lift_error ..)
    have hshake : Handler.handshake P.metered nonces s = .error f s :=
      Effect.bind_error (Effect.bind_error hexchange)
    rw [Effect.outcome_error hshake]
    exact hs
  | ok request =>
    cases hsend : Handler.send P.metered request s with
    | error f s₁ =>
      have hexchange : Handler.exchangeHello P.metered nonces s = .error f s₁ := by
        unfold Handler.exchangeHello
        rw [Effect.get_bind, hrequest, Effect.bind_ok (Effect.lift_ok ..)]
        exact Effect.bind_error hsend
      have hshake : Handler.handshake P.metered nonces s = .error f s₁ :=
        Effect.bind_error (Effect.bind_error hexchange)
      rw [Effect.outcome_error hshake]
      exact ((keeps_send request).error hs hsend).1
    | ok u s₁ =>
      have hs₁ : Metered s₁ := (keeps_send request).ok hs hsend
      exact outcome_handshake (J := fun w : W × List ℕ => Moderate w.2)
        keeps_acknowledgeHandshake hrequest hsend
        (recvServerHello_metered hs₁ (hello hrequest hsend))

/-- Only then. -/
theorem helloModerate_of_handshake {nonces : Nonces} {s : Session (W × List ℕ)}
    (h : Metered (Effect.outcome (Handler.handshake P.metered nonces) s).2) :
    HelloModerate P.metered nonces s := by
  intro request s₁ header s₂ n hrequest hsend hrecv htype hn
  rcases lt_or_ge n 12 with hshort | hmin
  · exact hshort.le.trans (by decide)
  have hasked : n.toNat ∈
      (Effect.outcome (Handler.handshake P.metered nonces) s).2.world.2 :=
    outcome_handshake (J := fun w : W × List ℕ => n.toNat ∈ w.2)
      (metered_respects n.toNat).acknowledgeHandshake hrequest hsend
      (recvServerHello_asks hrecv htype hn hmin)
  have := (h n.toNat hasked).2
  omega

/-- **When every size is positive and within the limit**: if and only if the
first answers of all handshakes of the run announce no more. -/
theorem receives_moderate_iff (P : Platform W) (steps : List Step) (s : Session W) :
    Moderate (asked P steps s) ↔ ∀ done nonces, done ++ [.handshake nonces] <+: steps →
      HelloModerate P.metered nonces (meteredRun P done s) := by
  constructor
  · rintro hmoderate done nonces ⟨rest, rfl⟩
    refine helloModerate_of_handshake fun n hn => hmoderate n ?_
    unfold asked meteredRun
    rw [Effect.trace_append, Effect.trace_concat]
    refine Effect.trace_preserves (fun step _ => step_keeps n step) ?_
    rw [outcome_run_handshake]
    exact hn
  · intro hello
    refine Effect.trace_induction (P := fun _ s => Metered s) ?_ ?_ steps (List.prefix_refl _)
    · exact fun n hn => nomatch hn
    · rintro done (nonces | op) hdone hs
      · rw [outcome_run_handshake]
        exact handshake_metered hs (hello done nonces hdone)
      · exact (Effect.Preserves.bind (keeps_call op) fun _ => .pure _).outcome hs

end

/-- **Five octets ask for two billion.** Before anything is authentic, a
header of the right type makes the client allocate as much as it announces. -/
theorem not_receives_moderate :
    asked (Handler.mutePlatform XorSuite.suite BufferCert.lib) [.handshake openNonces]
      (receiving (refusingAgent.client (zeros 32)) [0x20, 0x7F, 0xFF, 0xFF, 0xFF]) =
        [5, 2147483647] ∧
    ¬Moderate [5, 2147483647] := by
  refine ⟨by decide +kernel, fun h => ?_⟩
  exact absurd (h 2147483647 (by decide)).2 (by decide)

end VjBlockchain
