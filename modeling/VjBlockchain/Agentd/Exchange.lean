import VjBlockchain.Agentd.Answer
import VjBlockchain.Agentd.World
/-!
# Every operation is one exchange

The thirteen operations differ in what they send and in how they read the
answer, and in nothing else. `Operation.written` is the request an operation
lays out, for which a submission first has to find the identifiers in its
transaction, and `Request.read` the reader of its answer. On a connected
handler every operation is the one followed by the other; a submission
without identifiers ends before anything is sent, and without a shared secret
every operation but `getConnectionStatus` ends at once.

`Operation.request` is the request that is sent: its packet has to fit an
array as well. Only a submission can be too long for one.
-/

namespace VjBlockchain

open Common Common.Bytes Common.Throwing

/-- The request an operation lays out, if it gets so far. -/
def Operation.written (C : Vccert) : Operation → Except Fault Request
  | submit t => do
    let (transactionId, artifactId) ← submitIds C t
    let _ ← submitRequest transactionId artifactId t
    .ok (.submit transactionId artifactId t.byteArray)
  | getLatestBlockId => .ok .getLatestBlockId
  | getBlockById u => .ok (.getBlockById u)
  | getNextBlockId u => .ok (.getNextBlockId u)
  | getPrevBlockId u => .ok (.getPrevBlockId u)
  | getTransactionById u => .ok (.getTransactionById u)
  | getTransactionNextId u => .ok (.getTransactionNextId u)
  | getTransactionPreviousId u => .ok (.getTransactionPreviousId u)
  | getTransactionBlockId u => .ok (.getTransactionBlockId u)
  | getArtifactFirstTxnId u => .ok (.getArtifactFirstTxnId u)
  | getArtifactLastTxnId u => .ok (.getArtifactLastTxnId u)
  | getBlockIdByBlockHeight h => .ok (.getBlockIdByBlockHeight h)
  | getConnectionStatus => .ok .getConnectionStatus

/-- The request an operation sends, if it gets so far. -/
def Operation.request (C : Vccert) (op : Operation) : Except Fault Request := do
  let r ← op.written C
  check (FitsPacket r.encode) (.illegalState "return value array could not be allocated.")
  .ok r

theorem Operation.request_eq_ok_iff {C : Vccert} {op : Operation} {r : Request} :
    op.request C = .ok r ↔ op.written C = .ok r ∧ FitsPacket r.encode := by
  constructor
  · intro h
    obtain ⟨r', hr, h⟩ := bind_eq_ok_iff.mp h
    obtain ⟨_, hfits, h⟩ := bind_eq_ok_iff.mp h
    cases h
    exact ⟨hr, check_eq_ok_iff.mp hfits⟩
  · rintro ⟨hr, hfits⟩
    rw [request, hr, ok_bind, check_pos hfits, ok_bind]

/-- What is laid out for a submission with its identifiers. -/
theorem Operation.written_submit {C : Vccert} {t : Certificate} {transactionId artifactId : UUID}
    (hids : submitIds C t = .ok (transactionId, artifactId))
    (hsize : t.byteArray.length + 40 < 2 ^ 31) :
    Operation.written C (.submit t) = .ok (.submit transactionId artifactId t.byteArray) := by
  rw [written, hids, ok_bind]
  dsimp only
  rw [submitRequest_eq _ _ hsize, ok_bind]

theorem Operation.of_written_submit {C : Vccert} {t : Certificate} {r : Request}
    (h : Operation.written C (.submit t) = .ok r) :
    ∃ transactionId artifactId, submitIds C t = .ok (transactionId, artifactId) ∧
      r = .submit transactionId artifactId t.byteArray ∧ t.byteArray.length + 40 < 2 ^ 31 := by
  obtain ⟨⟨transactionId, artifactId⟩, hids, h⟩ := bind_eq_ok_iff.mp h
  obtain ⟨request, hwritten, h⟩ := bind_eq_ok_iff.mp h
  cases h
  exact ⟨transactionId, artifactId, hids, rfl, lt_of_submitRequest hwritten⟩

/-- A submission without its identifiers. -/
theorem Operation.request_submit_error {C : Vccert} {t : Certificate} {f : Fault}
    (hids : submitIds C t = .error f) : Operation.request C (.submit t) = .error f := by
  rw [request, written, hids, error_bind, error_bind]

/-- **Which submissions are sent**: those with their identifiers whose packet
fits. -/
theorem Operation.request_submit_eq_ok_iff {C : Vccert} {t : Certificate} {r : Request} :
    Operation.request C (.submit t) = .ok r ↔
      ∃ transactionId artifactId, submitIds C t = .ok (transactionId, artifactId) ∧
        r = .submit transactionId artifactId t.byteArray ∧ t.byteArray.length + 77 < 2 ^ 31 := by
  have hfits : ∀ u a, FitsPacket (Request.submit u a t.byteArray).encode ↔
      t.byteArray.length + 77 < 2 ^ 31 := by
    intro u a
    rw [FitsPacket, length_encode_submit]
    omega
  rw [request_eq_ok_iff]
  constructor
  · rintro ⟨hr, hsize⟩
    obtain ⟨u, a, hids, rfl, -⟩ := of_written_submit hr
    exact ⟨u, a, hids, rfl, (hfits u a).mp hsize⟩
  · rintro ⟨u, a, hids, rfl, hsize⟩
    exact ⟨written_submit hids (by omega), (hfits u a).mpr hsize⟩

/-- **Only a submission may have no request.** The others are short. -/
theorem Operation.submit_of_request_error {C : Vccert} {op : Operation} {f : Fault}
    (h : op.request C = .error f) : ∃ t, op = .submit t := by
  by_contra hnot
  obtain ⟨r, hr, hother⟩ : ∃ r, op.written C = .ok r ∧ ∀ t a c, r ≠ .submit t a c := by
    cases op with
    | submit t => exact absurd ⟨t, rfl⟩ hnot
    | _ => exact ⟨_, rfl, fun _ _ _ h => by cases h⟩
  have hlen := length_encode_le hother
  have hfits : FitsPacket r.encode := by
    unfold FitsPacket
    omega
  cases h.symm.trans (request_eq_ok_iff.mpr ⟨hr, hfits⟩)

section

variable {W α : Type} {P : Platform W} {s : Session W}

/-- The reader of a request's answer. -/
def Request.read (P : Platform W) (r : Request) : Handler W Value :=
  match r with
  | submit .. => Handler.readSplitResponse P r.expect (r.decode 12)
  | _ => Handler.readResponse P r.expect r.decode

/-- Every reader asks for a header first. -/
theorem Request.read_error {s s' : Session W} {f : Fault} (r : Request)
    (h : Handler.recv P 5 s = .error f s') : r.read P s = .error f s' := by
  cases r with
  | submit _ _ _ => exact Effect.bind_error h
  | _ => exact Effect.bind_error h

namespace Handler

theorem lift_bind_pure {ε σ β : Type} (x : Except ε α) (f : α → β) :
    (Effect.lift x >>= fun a => pure (f a) : EStateM ε σ β) =
      Effect.lift (x >>= fun a => .ok (f a)) := by
  cases x <;> rfl

/-- What is done to a decoded value may be done while decoding. -/
theorem readResponse_map (expect : ℕ → Except Fault Unit) (decode : ℕ → Bytes → Except Fault α)
    (f : α → Value) :
    (readResponse P expect decode >>= fun a => pure (f a)) =
      readResponse P expect fun n p => decode n p >>= fun a => .ok (f a) := by
  simp only [readResponse, bind_assoc, lift_bind_pure]

theorem readSplitResponse_map (expect : ℕ → Except Fault Unit) (decode : Bytes → Except Fault α)
    (f : α → Value) :
    (readSplitResponse P expect decode >>= fun a => pure (f a)) =
      readSplitResponse P expect fun p => decode p >>= fun a => .ok (f a) := by
  simp only [readSplitResponse, bind_assoc, lift_bind_pure]

theorem requireConnected_ok (h : s.handler.sharedSecret ≠ none) :
    requireConnected s = .ok () s := if_neg h

theorem requireConnected_error (h : s.handler.sharedSecret = none) :
    requireConnected s =
      .error (.java .connectException "Not connected. Call connect() first.") s :=
  if_pos h

/-- The shape of the guarded queries, on a connected handler. -/
theorem query_eq (h : s.handler.sharedSecret ≠ none) {request : Except Fault Bytes} {q : Bytes}
    (hrequest : request = .ok q) (expect : ℕ → Except Fault Unit)
    (decode : ℕ → Bytes → Except Fault α) (f : α → Value) :
    ((do requireConnected; sendRequest P request; readResponse P expect decode) >>=
      fun a => pure (f a) : Handler W Value) s =
      (sendRequest P (.ok q) >>= fun _ =>
        readResponse P expect fun n p => decode n p >>= fun a => .ok (f a)) s := by
  simp only [bind_assoc, readResponse_map, hrequest]
  exact Effect.bind_ok (requireConnected_ok h)

end Handler

/-- The operation without the guard is one exchange on every handler. -/
theorem Operation.call_getConnectionStatus :
    Operation.call P .getConnectionStatus =
      (Handler.sendRequest P (.ok Request.getConnectionStatus.encode) >>=
        fun _ => Request.getConnectionStatus.read P) := by
  rw [Operation.call, Handler.getConnectionStatus, Handler.writeGetConnectionStatus,
    plainRequest_eq, bind_assoc, Handler.readGetConnectionStatus]
  simp only [Handler.readResponse_map]
  rfl

/-- **Every operation is one exchange**, on a connected handler. -/
theorem Operation.call_eq {op : Operation} {r : Request} (hr : op.written P.cert = .ok r)
    (h : s.handler.sharedSecret ≠ none) :
    op.call P s = (Handler.sendRequest P (.ok r.encode) >>= fun _ => r.read P) s := by
  cases op with
  | submit t =>
    obtain ⟨transactionId, artifactId, hids, rfl, hsize⟩ := of_written_submit hr
    have hsubmit : Operation.call P (.submit t) = (do
        Handler.requireConnected
        let (transactionId, artifactId) ← Effect.lift (submitIds P.cert t)
        Handler.writeSubmitRequest P transactionId artifactId t
        Handler.readSplitResponse P (expectTwelve "). Expected 12 bytes.") decodeSubmit >>=
          fun _ => pure .void) := by
      simp only [Operation.call, Handler.submit, Handler.readSubmitResponse, bind_assoc, pure_bind]
    rw [hsubmit, Effect.bind_ok (Handler.requireConnected_ok h), hids,
      Effect.bind_ok (Effect.lift_ok ..), Handler.readSplitResponse_map]
    dsimp only
    rw [Handler.writeSubmitRequest, submitRequest_eq _ _ hsize]
    rfl
  | getLatestBlockId =>
    obtain rfl := Except.ok.inj hr
    exact Handler.query_eq h (plainRequest_eq _) ..
  | getBlockIdByBlockHeight n =>
    obtain rfl := Except.ok.inj hr
    exact Handler.query_eq h (heightRequest_eq n) ..
  | getConnectionStatus =>
    obtain rfl := Except.ok.inj hr
    rw [Operation.call_getConnectionStatus]
  | _ u =>
    -- the nine queries about one identifier
    obtain rfl := Except.ok.inj hr
    exact Handler.query_eq h (idRequest_eq _ u) ..

/-- An operation that lays out no request has changed nothing. -/
theorem Operation.call_error {op : Operation} {f : Fault} (hr : op.written P.cert = .error f)
    (h : s.handler.sharedSecret ≠ none) : op.call P s = .error f s := by
  cases op with
  | submit t =>
    refine Effect.bind_error ?_
    rw [Handler.submit, Effect.bind_ok (Handler.requireConnected_ok h)]
    cases hids : submitIds P.cert t with
    | error f' =>
      rw [written, hids, error_bind] at hr
      rw [Except.error.inj hr]
      exact Effect.bind_error (Effect.lift_error ..)
    | ok ids =>
      obtain ⟨transactionId, artifactId⟩ := ids
      rw [written, hids, ok_bind] at hr
      rw [Effect.bind_ok (Effect.lift_ok ..)]
      dsimp only at hr ⊢
      cases hwritten : submitRequest transactionId artifactId t with
      | error f' =>
        rw [hwritten, error_bind] at hr
        cases hr
        refine Effect.bind_error ?_
        rw [Handler.writeSubmitRequest, hwritten]
        exact Effect.bind_error (Effect.lift_error ..)
      | ok request =>
        rw [hwritten, ok_bind] at hr
        cases hr
  | _ => cases hr

/-- **An operation that finds no request to send** has changed nothing either,
with a secret that the suite takes. -/
theorem Operation.call_refused (hV : P.crypt.Lawful) {key : Bytes} (hkey : P.crypt.Takes key)
    (hsecret : s.handler.sharedSecret = some key) {op : Operation} {f : Fault}
    (hr : op.request P.cert = .error f) : op.call P s = .error f s := by
  have hconnected : s.handler.sharedSecret ≠ none := by
    rw [hsecret]
    exact Option.some_ne_none key
  cases hwritten : op.written P.cert with
  | error f' =>
    rw [request, hwritten, error_bind] at hr
    rw [← Except.error.inj hr]
    exact call_error hwritten hconnected
  | ok r =>
    have hfits : ¬FitsPacket r.encode := by
      intro hfits
      cases hr.symm.trans (request_eq_ok_iff.mpr ⟨hwritten, hfits⟩)
    rw [request, hwritten, ok_bind, check_neg hfits, error_bind] at hr
    rw [call_eq hwritten hconnected, ← Except.error.inj hr]
    refine Effect.bind_error (Handler.sendRequest_unsealed ?_)
    rw [hsecret]
    exact encryptPayloadNative_error hV hkey _ hfits

/-- **The guard**, which one operation lacks. -/
theorem Operation.call_unconnected {op : Operation} (hop : op ≠ .getConnectionStatus)
    (h : s.handler.sharedSecret = none) :
    op.call P s = .error (.java .connectException "Not connected. Call connect() first.") s := by
  have hguard := Handler.requireConnected_error h
  cases op with
  | getConnectionStatus => exact absurd rfl hop
  | _ => exact Effect.bind_error (Effect.bind_error hguard)

end

end VjBlockchain
