import VjBlockchain.Agentd.Counters
/-!
# What a submission sends

`submit` repeats two fields of the certificate it submits in the request in
front of it. It takes them out of the parsed certificate, as UUIDs, and
writes them back as octets. Parsing, looking up and converting all come
before the first packet is encrypted, so a certificate that does not give its
two ids is refused without a trace. So is one that is too long for the array
of its request, or for that of its packet.
-/

namespace VjBlockchain

open Common Common.Bytes Common.Throwing ByteUtil UuidUtil

/-- The first value of a field. -/
def FirstValue (fields : FieldMap) (field : JInt) (value : Bytes) : Prop :=
  ∃ rest, fields field = some (value :: rest)

/-- **The certificate parses and gives its two ids**: its first `CERTIFICATE_ID`
and its first `ARTIFACT_ID` are there and have sixteen octets. -/
structure Identifies (C : Vccert) (t : Certificate) (certificateId artifactId : Bytes) : Prop where
  parses : ∃ fields, (CertificateParser.new t).parse C = .ok fields ∧
    FirstValue fields Field.CERTIFICATE_ID certificateId ∧
    FirstValue fields Field.ARTIFACT_ID artifactId
  length_certificateId : certificateId.length = 16
  length_artifactId : artifactId.length = 16

/-! ## The two ids -/

theorem getFirst_eq_ok_iff {reader : CertificateReader} {field : JInt}
    {fr : CertificateFieldReader} :
    reader.getFirst field = .ok fr ↔
      ∃ value, FirstValue reader.certFields field value ∧ fr = .new value := by
  unfold CertificateReader.getFirst CertificateReader.get
  constructor
  · intro h
    cases hfields : reader.certFields field with
    | none =>
      rw [hfields] at h
      cases h
    | some values =>
      rw [hfields] at h
      cases values with
      | nil => cases h
      | cons first rest => exact ⟨first, ⟨rest, hfields⟩, (Except.ok.inj h).symm⟩
  · rintro ⟨value, ⟨rest, hvalue⟩, rfl⟩
    rw [hvalue]
    rfl

theorem asUUID_new_eq_ok_iff {value : Bytes} {u : UUID} :
    (CertificateFieldReader.new value).asUUID = .ok u ↔ value.length = 16 ∧ halves value = u := by
  rw [FieldReader.asUUID_eq]
  split
  · rename_i h
    rw [Except.ok.injEq]
    exact (and_iff_right h).symm
  · rename_i h
    exact iff_of_false (fun hu => by cases hu) fun hu => h hu.1

/-- **A field as a UUID** is its first value, of sixteen octets. -/
theorem fieldAsUUID_eq_ok_iff {reader : CertificateReader} {field : JInt}
    {missing invalid : String} {u : UUID} :
    fieldAsUUID reader field missing invalid = .ok u ↔
      ∃ value, FirstValue reader.certFields field value ∧ value.length = 16 ∧
        halves value = u := by
  have hfield : (do (← reader.getFirst field).asUUID : Except Fault UUID) = .ok u ↔
      ∃ value, FirstValue reader.certFields field value ∧ value.length = 16 ∧
        halves value = u := by
    rw [bind_eq_ok_iff]
    constructor
    · rintro ⟨fr, hfr, hu⟩
      obtain ⟨value, hfirst, rfl⟩ := getFirst_eq_ok_iff.mp hfr
      exact ⟨value, hfirst, asUUID_new_eq_ok_iff.mp hu⟩
    · rintro ⟨value, hfirst, hu⟩
      exact ⟨_, getFirst_eq_ok_iff.mpr ⟨value, hfirst, rfl⟩, asUUID_new_eq_ok_iff.mpr hu⟩
  rw [← hfield, fieldAsUUID]
  -- only exceptions are replaced
  split
  · rename_i hthrown
    rw [hthrown]
    exact ⟨fun h => (by cases h), fun h => (by cases h)⟩
  · rename_i hthrown
    rw [hthrown]
    exact ⟨fun h => (by cases h), fun h => (by cases h)⟩
  · exact Iff.rfl

/-- **The ids of a submission** are those of its certificate. -/
theorem submitIds_eq_ok_iff {C : Vccert} {t : Certificate} {transactionId artifactId : UUID} :
    submitIds C t = .ok (transactionId, artifactId) ↔
      ∃ c a, Identifies C t c a ∧ halves c = transactionId ∧ halves a = artifactId := by
  unfold submitIds CertificateReader.new
  constructor
  · intro h
    obtain ⟨reader, hreader, h⟩ := bind_eq_ok_iff.mp h
    obtain ⟨fields, hparse, hreader⟩ := bind_eq_ok_iff.mp hreader
    cases hreader
    obtain ⟨x, hx, h⟩ := bind_eq_ok_iff.mp h
    obtain ⟨y, hy, h⟩ := bind_eq_ok_iff.mp h
    cases h
    obtain ⟨c, hc, hclen, hcid⟩ := fieldAsUUID_eq_ok_iff.mp hx
    obtain ⟨a, ha, halen, haid⟩ := fieldAsUUID_eq_ok_iff.mp hy
    exact ⟨c, a, ⟨⟨fields, hparse, hc, ha⟩, hclen, halen⟩, hcid, haid⟩
  · rintro ⟨c, a, ⟨⟨fields, hparse, hc, ha⟩, hclen, halen⟩, rfl, rfl⟩
    rw [hparse, ok_bind, ok_bind, fieldAsUUID_eq_ok_iff.mpr ⟨c, hc, hclen, rfl⟩, ok_bind,
      fieldAsUUID_eq_ok_iff.mpr ⟨a, ha, halen, rfl⟩, ok_bind]

/-- A transaction that starts with its two identifiers. -/
def transactionWith (transactionId artifactId : UUID) (others : List Record) : Certificate :=
  ⟨Record.encodeAll (⟨0x0038, UuidUtil.getBytesFromUUID transactionId⟩ ::
    ⟨0x0041, UuidUtil.getBytesFromUUID artifactId⟩ :: others)⟩

theorem identifies_transactionWith {C : Vccert} (hC : C.Lawful) (transactionId artifactId : UUID)
    {others : List Record} (hothers : ∀ r ∈ others, r.Fits) :
    Identifies C (transactionWith transactionId artifactId others)
      (getBytesFromUUID transactionId) (getBytesFromUUID artifactId) := by
  let first : Record := ⟨0x0038, getBytesFromUUID transactionId⟩
  let second : Record := ⟨0x0041, getBytesFromUUID artifactId⟩
  have hfits : ∀ r ∈ first :: second :: others, r.Fits := by
    intro r hr
    rcases List.mem_cons.mp hr with rfl | hr
    · exact (length_getBytesFromUUID transactionId).trans_lt (by omega)
    rcases List.mem_cons.mp hr with rfl | hr
    · exact (length_getBytesFromUUID artifactId).trans_lt (by omega)
    · exact hothers r hr
  have hparse : CertificateParser.parse C
      (.new (transactionWith transactionId artifactId others)) =
      .ok (CertificateParser.group ((first :: second :: others).map CertificateParser.entry)) :=
    CertificateParser.parse_encodeAll hC (List.cons_ne_nil _ _) hfits
  refine ⟨⟨_, hparse, ⟨_, CertificateParser.group_eq _ _⟩, ⟨_, CertificateParser.group_eq _ _⟩⟩,
    length_getBytesFromUUID _, length_getBytesFromUUID _⟩

/-- The smallest transaction that can be submitted. -/
def smallestTransaction (transactionId artifactId : UUID) : Certificate :=
  transactionWith transactionId artifactId []

theorem identifies_smallestTransaction {C : Vccert} (hC : C.Lawful)
    (transactionId artifactId : UUID) :
    Identifies C (smallestTransaction transactionId artifactId) (getBytesFromUUID transactionId)
      (getBytesFromUUID artifactId) :=
  identifies_transactionWith hC transactionId artifactId fun r hr => by cases hr

theorem length_smallestTransaction (transactionId artifactId : UUID) :
    (smallestTransaction transactionId artifactId).byteArray.length = 40 := by
  simp [smallestTransaction, transactionWith]

theorem submitIds_smallestTransaction {C : Vccert} (hC : C.Lawful)
    (transactionId artifactId : UUID) :
    submitIds C (smallestTransaction transactionId artifactId) =
      .ok (transactionId, artifactId) :=
  submitIds_eq_ok_iff.mpr ⟨_, _, identifies_smallestTransaction hC transactionId artifactId,
    halves_getBytesFromUUID _, halves_getBytesFromUUID _⟩

/-! ## The request -/

/-- **The request of a submission**: its own id, a zero, the two ids, and the
certificate. -/
structure Submits (request certificateId artifactId : Bytes) (t : Certificate) : Prop where
  request_id : slice request 0 4 = htonl 3
  offset : slice request 4 8 = htonl 0
  certificate_id : slice request 8 24 = certificateId
  artifact_id : slice request 24 40 = artifactId
  certificate : request.drop 40 = t.byteArray

theorem submits_encode {c a : Bytes} (hc : c.length = 16) (ha : a.length = 16) (t : Certificate) :
    Submits (Request.submit (halves c) (halves a) t.byteArray).encode c a t := by
  have hencode : (Request.submit (halves c) (halves a) t.byteArray).encode =
      htonl 3 ++ (htonl 0 ++ (c ++ (a ++ t.byteArray))) := by
    rw [Request.encode, Request.arguments, getBytesFromUUID_halves hc, getBytesFromUUID_halves ha]
    rfl
  rw [hencode]
  refine ⟨?_, ?_, ?_, ?_, ?_⟩
  · rw [slice_append_left (by simp), slice_self _ _ (by simp)]
  · exact slice_mid (length_htonl _) (by simp)
  · rw [← List.append_assoc]
    exact slice_mid (by simp) (by simp [hc])
  · rw [← List.append_assoc, ← List.append_assoc]
    exact slice_mid (by simp [hc]) (by simp [hc, ha])
  · rw [← List.append_assoc, ← List.append_assoc, ← List.append_assoc]
    exact List.drop_left' (by simp [hc, ha])

/-! ## The history of a submission -/

/-- A call of `decryptPayload`. -/
def Event.IsDecryption : Event → Prop
  | decrypted _ | notDecrypted _ => True
  | _ => False

section

variable {W : Type} {P : Platform W} {s : Session W} {t : Certificate}

/-- **Reading a response** decrypts, and neither encrypts nor sends. -/
theorem Watched.read_history (r : Request) (x : Session W × List Event) :
    ∃ rest, (Effect.outcome (Watched.read P r) x).2.2 = x.2 ++ rest ∧
      ∀ e ∈ rest, e.IsDecryption := by
  let I : Session W × List Event → Prop := fun y =>
    ∃ rest, y.2 = x.2 ++ rest ∧ ∀ e ∈ rest, e.IsDecryption
  have hquiet : ∀ {β : Type} (z : Handler W β), Effect.Preserves I (fun _ => True) (quiet z) :=
    fun z => .unwatched fun log => ⟨fun hs _ => hs, fun hs _ => ⟨hs, trivial⟩⟩
  have hmore : ∀ {log : List Event} {e : Event}, e.IsDecryption →
      (∃ rest, log = x.2 ++ rest ∧ ∀ e ∈ rest, e.IsDecryption) →
      ∃ rest, log ++ [e] = x.2 ++ rest ∧ ∀ e ∈ rest, e.IsDecryption := by
    rintro log e he ⟨rest, rfl, hrest⟩
    refine ⟨rest ++ [e], List.append_assoc .., ?_⟩
    intro e' he'
    rcases List.mem_append.mp he' with he' | he'
    · exact hrest e' he'
    · rw [List.mem_singleton.mp he']
      exact he
  have hreads : Watched.Reads P I :=
    { recv := fun _ => hquiet _
      decryptHeader := fun _ => hquiet _
      lift := fun _ => hquiet _
      decryptPayload := fun _ _ => .watch (fun hs _ => hmore trivial hs)
        fun hs _ => ⟨hmore trivial hs, trivial⟩ }
  exact (hreads.read r).outcome ⟨[], (List.append_nil _).symm, fun e he => by cases he⟩

/-- A submission with its two ids: one packet, encrypted and handed over. -/
theorem Watched.submit_history (hV : P.crypt.Lawful) {key : Bytes} (hkey : P.crypt.Takes key)
    (hsecret : s.handler.sharedSecret = some key) {r : Request}
    (hr : Operation.request P.cert (.submit t) = .ok r) :
    ∃ rest, (Effect.outcome (Watched.call P (.submit t)) (s, [])).2.2 =
        .encrypted s.handler.outerEnvelopeWriter.iv
            (sealPacket P.crypt key s.handler.outerEnvelopeWriter.iv r.encode) ::
          .sent (sealPacket P.crypt key s.handler.outerEnvelopeWriter.iv r.encode) :: rest ∧
      ∀ e ∈ rest, e.IsDecryption := by
  let packet := sealPacket P.crypt key s.handler.outerEnvelopeWriter.iv r.encode
  let s' : Session W := { s with handler := s.handler.afterWrite }
  obtain ⟨hwritten, hfits⟩ := Operation.request_eq_ok_iff.mp hr
  have hrequest : (Effect.lift (Operation.written P.cert (.submit t)) : Handler W Request) s =
      .ok r s := by
    rw [hwritten]
    exact Effect.lift_ok ..
  have hencrypt : Handler.encryptPayload P r.encode s = .ok packet s' :=
    Handler.encryptPayload_eq hV hkey hsecret hfits
  have hcall : Effect.outcome (Watched.call P (.submit t)) (s, []) = Effect.outcome
      (Watched.send P packet >>= fun _ => Watched.read P r)
      (s', [.encrypted s.handler.outerEnvelopeWriter.iv packet]) := by
    have hconnected := Option.ne_none_iff_exists'.mpr ⟨key, hsecret⟩
    have hsubmit : Operation.submit t ≠ .getConnectionStatus := fun h => by cases h
    have hnoted : Watched.encryptPayload P r.encode (s, []) =
        .ok packet (s', [.encrypted s.handler.outerEnvelopeWriter.iv packet]) :=
      Effect.watch_ok hencrypt
    unfold Watched.call Watched.quiet
    rw [if_pos hsubmit,
      Effect.outcome_bind_ok (Effect.unwatched_ok (Handler.requireConnected_ok hconnected)),
      Effect.outcome_bind_ok (Effect.unwatched_ok hrequest)]
    unfold Watched.sendRequest Watched.quiet
    rw [bind_assoc, Effect.outcome_bind_ok (Effect.unwatched_ok (Effect.lift_ok ..)), bind_assoc,
      Effect.outcome_bind_ok hnoted]
  rw [hcall]
  -- whether the channel takes it or not, it has been handed over
  cases hsend : Handler.send P packet s' with
  | error f s'' =>
    have hnoted : Watched.send P packet
        (s', [.encrypted s.handler.outerEnvelopeWriter.iv packet]) = .error f (s'',
          [.encrypted s.handler.outerEnvelopeWriter.iv packet, .sent packet]) :=
      Effect.watch_error hsend
    rw [Effect.outcome_error (Effect.bind_error hnoted)]
    exact ⟨[], rfl, fun e he => by cases he⟩
  | ok u s'' =>
    have hnoted : Watched.send P packet
        (s', [.encrypted s.handler.outerEnvelopeWriter.iv packet]) = .ok u (s'',
          [.encrypted s.handler.outerEnvelopeWriter.iv packet, .sent packet]) :=
      Effect.watch_ok hsend
    rw [Effect.outcome_bind_ok hnoted]
    exact Watched.read_history r _

/-- What an operation `submit` throws, `submit` throws. -/
theorem Handler.of_call_submit_error {f : Fault} {s' : Session W}
    (h : Operation.call P (.submit t) s = .error f s') : Handler.submit P t s = .error f s' := by
  have hcall : Operation.call P (.submit t) = (do submit P t; pure .void : Handler W Value) := rfl
  rw [hcall] at h
  cases hsubmit : submit P t s with
  | ok u s'' => cases (Effect.bind_ok hsubmit).symm.trans h
  | error f' s'' =>
    cases (Effect.bind_error hsubmit).symm.trans h
    rfl

variable (P s t) in
/-- **`submit` throws, and leaves handler and channel as they were**, with `log`
as its history. -/
def Refuses (log : List Event) : Prop :=
  ∃ e, Handler.submit P t s = .error (.thrown e) s ∧
    Effect.outcome (Watched.call P (.submit t)) (s, []) = (.error (.thrown e), (s, log))

/-- A submission that is not laid out leaves no trace. -/
theorem Refuses.of_unwritten {f : Fault} (hconnected : s.handler.sharedSecret ≠ none)
    (hwritten : Operation.written P.cert (.submit t) = .error f) : Refuses P s t [] := by
  obtain ⟨e, rfl⟩ := (Operation.written_inBounds P.cert (.submit t)).thrown hwritten
  have hrequest : (Effect.lift (Operation.written P.cert (.submit t)) : Handler W Request) s =
      .error (.thrown e) s := by
    rw [hwritten]
    exact Effect.lift_error ..
  have hsubmit : Operation.submit t ≠ .getConnectionStatus := fun h => by cases h
  refine ⟨e, Handler.of_call_submit_error (Operation.call_error hwritten hconnected), ?_⟩
  unfold Watched.call Watched.quiet
  rw [if_pos hsubmit,
    Effect.outcome_bind_ok (Effect.unwatched_ok (Handler.requireConnected_ok hconnected))]
  exact Effect.outcome_error (Effect.bind_error (Effect.unwatched_error hrequest))

/-- One whose packet does not fit only has its `encryptPayload` throw. -/
theorem Refuses.of_unsealed (hV : P.crypt.Lawful) {key : Bytes} (hkey : P.crypt.Takes key)
    (hsecret : s.handler.sharedSecret = some key) {r : Request}
    (hwritten : Operation.written P.cert (.submit t) = .ok r) (hfits : ¬FitsPacket r.encode) :
    Refuses P s t [.notEncrypted s.handler.outerEnvelopeWriter.iv] := by
  let e : JavaException :=
    ⟨.illegalStateException, "return value array could not be allocated."⟩
  have hconnected := Option.ne_none_iff_exists'.mpr ⟨key, hsecret⟩
  have hrefused : Operation.request P.cert (.submit t) = .error (.thrown e) := by
    rw [Operation.request, hwritten, ok_bind, check_neg hfits, error_bind]
  have hrequest : (Effect.lift (Operation.written P.cert (.submit t)) : Handler W Request) s =
      .ok r s := by
    rw [hwritten]
    exact Effect.lift_ok ..
  have hencrypt : Handler.encryptPayload P r.encode s = .error (.thrown e) s := by
    have hwriter : s.handler.outerEnvelopeWriter.encryptPayload P.crypt s.handler.sharedSecret
        r.encode = .error (.thrown e) := by
      rw [hsecret, OuterEnvelopeWriter.encryptPayload, encryptPayloadNative_error hV hkey _ hfits,
        error_bind]
    simp only [Handler.encryptPayload, hwriter]
  have hnoted : Watched.encryptPayload P r.encode (s, []) =
      .error (.thrown e) (s, [.notEncrypted s.handler.outerEnvelopeWriter.iv]) :=
    Effect.watch_error hencrypt
  have hsubmit : Operation.submit t ≠ .getConnectionStatus := fun h => by cases h
  refine ⟨e, Handler.of_call_submit_error (Operation.call_refused hV hkey hsecret hrefused), ?_⟩
  unfold Watched.call Watched.quiet
  rw [if_pos hsubmit,
    Effect.outcome_bind_ok (Effect.unwatched_ok (Handler.requireConnected_ok hconnected)),
    Effect.outcome_bind_ok (Effect.unwatched_ok hrequest)]
  unfold Watched.sendRequest Watched.quiet
  rw [bind_assoc, Effect.outcome_bind_ok (Effect.unwatched_ok (Effect.lift_ok ..)), bind_assoc]
  exact Effect.outcome_error (Effect.bind_error hnoted)

variable (P s t) in
/-- **`submit` encrypts exactly one request and hands it over**, and it repeats
the two ids and the certificate. -/
def SendsIds (key certificateId artifactId : Bytes) : Prop :=
  ∃ request rest, Submits request certificateId artifactId t ∧
    (Effect.outcome (Watched.call P (.submit t)) (s, [])).2.2 =
      .encrypted s.handler.outerEnvelopeWriter.iv
          (sealPacket P.crypt key s.handler.outerEnvelopeWriter.iv request) ::
        .sent (sealPacket P.crypt key s.handler.outerEnvelopeWriter.iv request) :: rest ∧
    ∀ e ∈ rest, e.IsDecryption

end

/-- **A submission sends the certificate's own ids or nothing.** For every
connected handler, every channel and every certificate: if the certificate
parses, its first `CERTIFICATE_ID` and `ARTIFACT_ID` have sixteen octets, and
an array can hold the packet, `submit` encrypts exactly one request and hands
it over, and it repeats those octets and the certificate; otherwise `submit`
throws, and handler and channel are as they were. What is watched here is
`submit` itself, with a history beside it. -/
theorem submit_own_ids {W : Type} (P : Platform W) (hV : P.crypt.Lawful) {key : Bytes}
    (hkey : P.crypt.Takes key) (s : Session W) (hsecret : s.handler.sharedSecret = some key)
    (t : Certificate) :
    Effect.Erases (Watched.call P (.submit t)) (do Handler.submit P t; pure .void) ∧
    (∀ c a, Identifies P.cert t c a → t.byteArray.length + 77 < 2 ^ 31 → SendsIds P s t key c a) ∧
    ((¬∃ c a, Identifies P.cert t c a) → Refuses P s t []) ∧
    (2 ^ 31 ≤ t.byteArray.length + 77 → ∃ log, Refuses P s t log ∧
      ∀ event ∈ log, event = .notEncrypted s.handler.outerEnvelopeWriter.iv) := by
  have hconnected := Option.ne_none_iff_exists'.mpr ⟨key, hsecret⟩
  refine ⟨Watched.erases_call P (.submit t), ?_, ?_, ?_⟩
  · intro c a h hsize
    obtain ⟨rest, hlog, hrest⟩ := Watched.submit_history hV hkey hsecret
      (Operation.request_submit_eq_ok_iff.mpr
        ⟨_, _, submitIds_eq_ok_iff.mpr ⟨c, a, h, rfl, rfl⟩, rfl, hsize⟩)
    exact ⟨_, rest, submits_encode h.length_certificateId h.length_artifactId t, hlog, hrest⟩
  · intro hnone
    cases hids : submitIds P.cert t with
    | ok ids =>
      obtain ⟨c, a, h, -⟩ := submitIds_eq_ok_iff.mp hids
      exact absurd ⟨c, a, h⟩ hnone
    | error f =>
      refine .of_unwritten hconnected (f := f) ?_
      rw [Operation.written, hids, error_bind]
  · intro hlong
    cases hwritten : Operation.written P.cert (.submit t) with
    | error f => exact ⟨[], .of_unwritten hconnected hwritten, fun event h => by cases h⟩
    | ok r =>
      have hfits : ¬FitsPacket r.encode := by
        intro hfits
        obtain ⟨_, _, -, -, hsize⟩ := Operation.request_submit_eq_ok_iff.mp
          (Operation.request_eq_ok_iff.mpr ⟨hwritten, hfits⟩)
        omega
      exact ⟨_, .of_unsealed hV hkey hsecret hwritten hfits, fun _ => List.mem_singleton.mp⟩

/-- The smallest transaction, on a handler with a key of zeros. -/
theorem submit_own_ids_smallest :
    SendsIds (refusingAgent.platform BufferCert.lib .reliable)
      ⟨{ refusingAgent.client (zeros 32) with sharedSecret := some (zeros 32) },
        .start (M := refusingAgent.machine) AgentState.start⟩
      (smallestTransaction ⟨0, 1⟩ ⟨0, 2⟩) (zeros 32) (getBytesFromUUID ⟨0, 1⟩)
      (getBytesFromUUID ⟨0, 2⟩) := by
  obtain ⟨-, hsends, -⟩ := submit_own_ids (refusingAgent.platform BufferCert.lib .reliable)
    XorSuite.suite_lawful (XorSuite.suite_lawful.takes (length_zeros 32))
    ⟨{ refusingAgent.client (zeros 32) with sharedSecret := some (zeros 32) },
      .start (M := refusingAgent.machine) AgentState.start⟩ rfl
    (smallestTransaction ⟨0, 1⟩ ⟨0, 2⟩)
  refine hsends _ _ (identifies_smallestTransaction BufferCert.lib_lawful _ _) ?_
  rw [length_smallestTransaction]
  omega

/-- A transaction close to the largest array: its ids, and values of zeros. -/
def longTransaction : Certificate :=
  transactionWith ⟨0, 1⟩ ⟨0, 2⟩
    (List.replicate 32766 ⟨0x0001, zeros 65535⟩ ++ [⟨0x0001, zeros 32700⟩])

theorem length_longTransaction : longTransaction.byteArray.length = 2147483618 := by
  simp only [longTransaction, transactionWith, Record.encodeAll_cons, Record.encodeAll_append,
    List.length_append, Record.length_encode, Record.length_encodeAll_replicate,
    Record.encodeAll_nil, List.length_nil, length_zeros, length_getBytesFromUUID]

theorem identifies_longTransaction : Identifies BufferCert.lib longTransaction
    (getBytesFromUUID ⟨0, 1⟩) (getBytesFromUUID ⟨0, 2⟩) := by
  refine identifies_transactionWith BufferCert.lib_lawful _ _ ?_
  intro r hr
  rcases List.mem_append.mp hr with hr | hr
  · obtain ⟨-, rfl⟩ := List.mem_replicate.mp hr
    exact (length_zeros 65535).trans_lt (by omega)
  · rw [List.mem_singleton.mp hr]
    exact (length_zeros 32700).trans_lt (by omega)

/-- **A certificate that no request can hold is not sent.** It parses, has both
ids and is an array, but the array of its request would be too long. -/
theorem long_not_sent :
    ∃ s key, Handler.handshake (refusingAgent.platform BufferCert.lib .reliable) openNonces
        (refusingAgent.fresh (zeros 32)) = .ok () s ∧ s.handler.sharedSecret = some key ∧
      longTransaction.byteArray.length < 2 ^ 31 ∧
      Identifies BufferCert.lib longTransaction (getBytesFromUUID ⟨0, 1⟩)
        (getBytesFromUUID ⟨0, 2⟩) ∧
      Refuses (refusingAgent.platform BufferCert.lib .reliable) s longTransaction [] ∧
      ¬SendsIds (refusingAgent.platform BufferCert.lib .reliable) s longTransaction key
        (getBytesFromUUID ⟨0, 1⟩) (getBytesFromUUID ⟨0, 2⟩) := by
  obtain ⟨key, s, hshake, hal, -⟩ := Handler.handshake_ok (C := BufferCert.lib)
    (A := refusingAgent) XorSuite.suite_lawful openNonces Line.reliable_sends (openAgent_client ..)
    fun _ _ => rfl
  have hsize := length_longTransaction
  have hrefuses : Refuses (refusingAgent.platform BufferCert.lib .reliable) s longTransaction
      [] := by
    cases hwritten : Operation.written BufferCert.lib (.submit longTransaction) with
    | error f => exact .of_unwritten hal.connected hwritten
    | ok r =>
      obtain ⟨_, _, -, -, hroom⟩ := Operation.of_written_submit hwritten
      omega
  refine ⟨s, key, hshake, hal.secret, by omega, identifies_longTransaction, hrefuses, ?_⟩
  rintro ⟨request, rest, -, hlog, -⟩
  obtain ⟨e, -, hhistory⟩ := hrefuses
  rw [hhistory] at hlog
  cases hlog

end VjBlockchain
