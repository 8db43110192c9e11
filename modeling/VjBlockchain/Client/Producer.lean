import VjBlockchain.Cert.FieldCodec
import VjBlockchain.Cert.RoundTrip
import VjBlockchain.Client.Connection
import VjBlockchain.Client.Reading
/-!
# The producer, and what becomes of its transactions

The example client that writes transactions: it builds a thousand certificates,
each with a number in its message, and submits them one after the other. Like
the consumer's, its `run` is commented out in the source; `writeCerts` takes
any connection.

What it writes the consumer prints. In between lie an agent, which reads the
submissions over a socket, and whoever wraps their certificates in blocks; the
order in which they come out is the order in which they have been wrapped.
-/

namespace VjBlockchain

open Common Common.Bytes Common.Throwing

def Field.PREVIOUS_CERTIFICATE_ID : JInt := 0x0039

/-! ## The program -/

/-- A method of the producer: a connection's state, and the lines printed. -/
abbrev Producer (σ : Type) := EStateM Fault (σ × List JString)

namespace Producer

def EXAMPLE_TRANSACTION_TYPE : UUID := ⟨0xc162572149304b7a, 0xb3218386285330f4⟩

/-- The message of the `i`-th turn. -/
def message (i : ℕ) : JString := .ofString ("Example transaction " ++ toString (i + 1))

/-- The `add` calls of the `i`-th turn, with the two random identifiers it
draws. -/
def calls (draw : UUID × UUID) (i : ℕ) : List AddCall :=
  [.addUUID Field.CERTIFICATE_ID draw.1, .addUUID Field.ARTIFACT_ID draw.2,
    .addUUID Field.PREVIOUS_CERTIFICATE_ID ⟨0, 0⟩, .addString 0x0401 (message i)]

/-- The certificate of the `i`-th turn. -/
def certificate (C : Vccert) (draw : UUID × UUID) (i : ℕ) : Except Fault Certificate := do
  let builder ← AddCall.callAll (.createCertificateBuilder EXAMPLE_TRANSACTION_TYPE) (calls draw i)
  builder.emit C

section

variable {σ : Type} (submit : Certificate → EStateM Fault σ TransactionStatus) (C : Vccert)

/-- The body of the loop. -/
def writeCert (draw : UUID × UUID) (i : ℕ) : Producer σ Unit := do
  let builder ← Effect.lift
    (AddCall.callAll (.createCertificateBuilder EXAMPLE_TRANSACTION_TYPE) (calls draw i))
  Consumer.println (.ofString ("Submitting transaction " ++ toString (i + 1)))
  let cert ← Effect.lift (builder.emit C)
  let _ ← Effect.unwatched (submit cert)

/-- The loop, from the `i`-th turn on. -/
def writeFrom (draws : ℕ → UUID × UUID) : ℕ → ℕ → Producer σ Unit
  | _, 0 => pure ()
  | i, n + 1 => do
    writeCert submit C (draws i) i
    writeFrom draws (i + 1) n

def writeCerts (draws : ℕ → UUID × UUID) : Producer σ Unit := writeFrom submit C draws 0 1000

end

end Producer

/-! ## Strings of characters -/

theorem isScalar_toNat (c : Char) : IsScalar c.toNat := by
  rcases c.valid with h | ⟨h, h'⟩
  · exact .inl h
  · exact .inr ⟨h, h'⟩

/-- A unit that is no surrogate pairs with nothing. -/
theorem wellPaired_cons {u : UInt16} (hu : ¬isSurrogate u) {s : JString} (hs : WellPaired s) :
    WellPaired (u :: s) := by
  cases s with
  | nil => exact hu
  | cons l rest =>
    have hhigh : isHighSurrogate u = false := by
      rw [isSurrogate, Bool.or_eq_true, not_or] at hu
      exact Bool.eq_false_iff.mpr hu.1
    rw [WellPaired, hhigh, Bool.false_and, if_neg Bool.false_ne_true]
    exact ⟨hu, hs⟩

theorem wellPaired_utf16 {c : ℕ} (hc : IsScalar c) {s : JString} (hs : WellPaired s) :
    WellPaired (utf16 c ++ s) := by
  rw [utf16]
  split
  · rename_i hlt
    have hunit : (UInt16.ofNat c).toNat = c := UInt16.toNat_ofNat_of_lt' hlt
    refine wellPaired_cons ?_ hs
    rw [isSurrogate, Bool.or_eq_true, isHighSurrogate_iff, isLowSurrogate_iff, hunit]
    unfold IsScalar at hc
    omega
  · have hscalar : 0xE000 ≤ c ∧ c < 0x110000 := by
      unfold IsScalar at hc
      omega
    have hsize : ∀ n, n < 0x10000 → n < UInt16.size := fun _ h => h
    have hhigh : (UInt16.ofNat (0xD800 + (c - 0x10000) / 0x400)).toNat =
        0xD800 + (c - 0x10000) / 0x400 := UInt16.toNat_ofNat_of_lt' (hsize _ (by omega))
    have hlow : (UInt16.ofNat (0xDC00 + (c - 0x10000) % 0x400)).toNat =
        0xDC00 + (c - 0x10000) % 0x400 := UInt16.toNat_ofNat_of_lt' (hsize _ (by omega))
    have hpair : (isHighSurrogate (UInt16.ofNat (0xD800 + (c - 0x10000) / 0x400)) &&
        isLowSurrogate (UInt16.ofNat (0xDC00 + (c - 0x10000) % 0x400))) = true := by
      rw [Bool.and_eq_true, isHighSurrogate_iff, isLowSurrogate_iff, hhigh, hlow]
      omega
    rw [List.cons_append, List.cons_append, List.nil_append, WellPaired, if_pos hpair]
    exact hs

/-- **Characters make no unpaired surrogate.** -/
theorem wellPaired_utf16All {cs : List ℕ} (hcs : ∀ c ∈ cs, IsScalar c) :
    WellPaired (utf16All cs) := by
  induction cs with
  | nil => exact trivial
  | cons c cs ih =>
    rw [utf16All, List.map_cons, List.flatten_cons]
    exact wellPaired_utf16 (hcs c List.mem_cons_self) (ih fun c' h => hcs c' (.tail _ h))

theorem wellPaired_ofString (s : String) : WellPaired (.ofString s) := by
  refine wellPaired_utf16All fun c hc => ?_
  obtain ⟨ch, -, rfl⟩ := List.mem_map.mp hc
  exact isScalar_toNat ch

theorem length_utf8_le (c : ℕ) : (utf8 c).length ≤ 4 := by
  unfold utf8
  split_ifs <;> simp

/-- A code unit takes up four octets at most. -/
theorem length_transcode_le (s : JString) : (transcode s).length ≤ 4 * s.length := by
  have hunit : ∀ u, (utf8Unit u).length ≤ 4 := by
    intro u
    unfold utf8Unit
    split_ifs
    · simp
    · exact length_utf8_le _
  induction s using transcode.induct with
  | case1 => simp [transcode]
  | case2 u => exact hunit u
  | case3 u l rest hpair ih =>
    have hchar := length_utf8_le (0x10000 + (u.toNat - 0xD800) * 0x400 + (l.toNat - 0xDC00))
    rw [transcode, if_pos hpair, List.length_append, List.length_cons, List.length_cons]
    omega
  | case4 u l rest hpair ih =>
    have hone := hunit u
    rw [transcode, if_neg hpair, List.length_append, List.length_cons]
    omega

/-- A character takes up two code units at most. -/
theorem length_ofString_le (s : String) : (JString.ofString s).length ≤ 2 * s.length := by
  have hall : ∀ cs : List ℕ, (utf16All cs).length ≤ 2 * cs.length := by
    intro cs
    induction cs with
    | nil => simp [utf16All]
    | cons c cs ih =>
      have hone : (utf16 c).length ≤ 2 := by
        unfold utf16
        split_ifs <;> simp
      rw [utf16All] at ih
      rw [utf16All, List.map_cons, List.flatten_cons, List.length_append, List.length_cons]
      omega
  refine (hall _).trans_eq ?_
  rw [List.length_map, String.length_toList]

/-! ## A certificate, read by the consumer -/

namespace AddCall

/-- The value that a reader finds first of some calls. -/
theorem firstValue_of_emit {made : List AddCall} {f : JInt} {c : AddCall} {rest : List AddCall}
    (h : named made f = c :: rest) {fields : FieldMap}
    (hfields : fields = CertificateParser.group (made.map fun c => (c.fieldId, c.serialized))) :
    FirstValue fields f c.serialized := by
  refine ⟨rest.map serialized, ?_⟩
  rw [hfields, CertificateParser.group_eq, valuesOf_entries, h, CertificateParser.present,
    List.map_cons, if_neg (List.cons_ne_nil _ _)]

end AddCall

/-- What the calls of a builder that can be emitted have in common. -/
structure BuilderStart.Emittable (start : BuilderStart) (calls : List AddCall) : Prop where
  ne_nil : start.defaults ++ calls ≠ []
  ids : ∀ c ∈ calls, c.fieldId.toNat ≤ 0xFFFF
  fits : ∀ c ∈ calls, c.serialized.length ≤ 65535
  total : AddCall.totalSize (start.defaults ++ calls) < 2 ^ 31

section

open AddCall CertificateParser

variable {C : Vccert} {start : BuilderStart} {made : List AddCall} {b : CertificateBuilder}

/-- The certificate of a builder, and what a reader finds in it. -/
theorem BuilderStart.Emittable.reader (hC : C.Lawful) (h : start.Emittable made)
    (hcalls : callAll start.builder made = .ok b) :
    ∃ cert r, b.emit C = .ok cert ∧ cert.byteArray.length = totalSize (start.defaults ++ made) ∧
      CertificateReader.new C (.new cert) = .ok r ∧
      r.certFields = group ((start.defaults ++ made).map fun c => (c.fieldId, c.serialized)) := by
  have hfields : b.fields = (start.defaults ++ made).map stored := by
    rw [callAll_fields hcalls, start.builder_fields, List.map_append]
  have hok : ∀ c ∈ start.defaults ++ made,
      c.fieldId.toNat ≤ 0xFFFF ∧ c.serialized.length ≤ 65535 := by
    intro c hc
    rcases List.mem_append.mp hc with hc | hc
    · exact start.defaults_ok c hc
    · exact ⟨h.ids c hc, h.fits c hc⟩
  exact reader_of_emit hC hfields h.ne_nil hok h.total

/-- **A transaction's line**: its first identifier and its first message, as
they were added. -/
theorem transactionLine_of_emit (hC : C.Lawful) (h : start.Emittable made)
    (hcalls : callAll start.builder made = .ok b) {id : UUID} {message : JString}
    {ids messages : List AddCall}
    (hid : named (start.defaults ++ made) Field.CERTIFICATE_ID =
      .addUUID Field.CERTIFICATE_ID id :: ids)
    (hmessage : named (start.defaults ++ made) 0x0401 = .addString 0x0401 message :: messages)
    (hpaired : WellPaired message) :
    ∃ cert, b.emit C = .ok cert ∧ Consumer.transactionLine C cert.byteArray =
      .ok (.ofString (id.toString ++ ": ") ++ message) := by
  obtain ⟨cert, r, hemit, -, hread, hfields⟩ := h.reader hC hcalls
  refine ⟨cert, hemit, ?_⟩
  have hgetId := getFirst_eq_ok_iff.mpr ⟨_, firstValue_of_emit hid hfields, rfl⟩
  have hgetMessage := getFirst_eq_ok_iff.mpr ⟨_, firstValue_of_emit hmessage hfields, rfl⟩
  have hasUUID : (CertificateFieldReader.new
      (serialized (.addUUID Field.CERTIFICATE_ID id))).asUUID = .ok id :=
    asUUID_new_eq_ok_iff.mpr ⟨UuidUtil.length_getBytesFromUUID id,
      UuidUtil.halves_getBytesFromUUID id⟩
  have hasString : (Effect.outcome FieldReader.asString
      (.new (serialized (.addString 0x0401 message)))).1 = .ok message :=
    FieldReader.asString_serializeString hpaired
  rw [Consumer.transactionLine, hread, ok_bind, hgetId, ok_bind, hasUUID, ok_bind, hgetMessage,
    ok_bind, hasString, ok_bind]

/-- **The request it is submitted in**: with its identifiers as they were added,
if the packet fits. -/
theorem request_of_emit (hC : C.Lawful) (h : start.Emittable made)
    (hcalls : callAll start.builder made = .ok b) {id artifactId : UUID}
    {ids artifactIds : List AddCall}
    (hid : named (start.defaults ++ made) Field.CERTIFICATE_ID =
      .addUUID Field.CERTIFICATE_ID id :: ids)
    (hartifact : named (start.defaults ++ made) Field.ARTIFACT_ID =
      .addUUID Field.ARTIFACT_ID artifactId :: artifactIds)
    (hsize : totalSize (start.defaults ++ made) + 77 < 2 ^ 31) :
    ∃ cert, b.emit C = .ok cert ∧
      Operation.request C (.submit cert) = .ok (.submit id artifactId cert.byteArray) := by
  obtain ⟨cert, r, hemit, hlen, hread, hfields⟩ := h.reader hC hcalls
  obtain ⟨fields, hparse, hr⟩ := bind_eq_ok_iff.mp hread
  obtain rfl := Except.ok.inj hr
  have hids : submitIds C cert = .ok (id, artifactId) :=
    submitIds_eq_ok_iff.mpr ⟨_, _, ⟨⟨fields, hparse, firstValue_of_emit hid hfields,
      firstValue_of_emit hartifact hfields⟩, UuidUtil.length_getBytesFromUUID id,
      UuidUtil.length_getBytesFromUUID artifactId⟩, UuidUtil.halves_getBytesFromUUID id,
      UuidUtil.halves_getBytesFromUUID artifactId⟩
  exact ⟨cert, hemit, Operation.request_submit_eq_ok_iff.mpr ⟨id, artifactId, hids, rfl, by omega⟩⟩

end

/-! ## What the producer builds -/

namespace Producer

open AddCall

/-- How its builder starts. -/
abbrev start : BuilderStart := .certificate EXAMPLE_TRANSACTION_TYPE

/-- What the consumer prints of the `i`-th transaction. -/
def line (draw : UUID × UUID) (i : ℕ) : JString :=
  .ofString (draw.1.toString ++ ": ") ++ message i

def submittingLine (i : ℕ) : JString := .ofString ("Submitting transaction " ++ toString (i + 1))

theorem callAll_calls (draw : UUID × UUID) (i : ℕ) :
    ∃ b, callAll (.createCertificateBuilder EXAMPLE_TRANSACTION_TYPE) (calls draw i) = .ok b :=
  ⟨_, rfl⟩

/-- No message is long. -/
theorem length_message {i : ℕ} (hi : i < 1000) :
    (CertificateBuilder.serializeString (message i)).length ≤ 192 := by
  have hdigits : (Nat.repr (i + 1)).length ≤ 4 := (Nat.length_repr_le_iff (by omega)).mpr (by omega)
  have hchars : ("Example transaction " ++ toString (i + 1)).length ≤ 24 := by
    rw [String.length_append]
    exact Nat.add_le_add_left hdigits 20
  have hunits := length_ofString_le ("Example transaction " ++ toString (i + 1))
  have hoctets := length_transcode_le (message i)
  unfold CertificateBuilder.serializeString
  unfold message at hoctets ⊢
  omega

/-- Nor is any certificate. -/
theorem totalSize_calls (draw : UUID × UUID) {i : ℕ} (hi : i < 1000) :
    totalSize (start.defaults ++ calls draw i) ≤ 400 := by
  have hmessage := length_message hi
  have huuid : ∀ u, (CertificateBuilder.serializeUUID u).length = 16 :=
    UuidUtil.length_getBytesFromUUID
  simp [totalSize, BuilderStart.defaults, calls, serialized, huuid,
    CertificateBuilder.serializeInt, CertificateBuilder.serializeShort]
  omega

theorem emittable (draw : UUID × UUID) {i : ℕ} (hi : i < 1000) :
    start.Emittable (calls draw i) := by
  have hmessage := length_message hi
  have huuid : ∀ u, (CertificateBuilder.serializeUUID u).length = 16 :=
    UuidUtil.length_getBytesFromUUID
  have htotal := totalSize_calls draw hi
  refine ⟨List.cons_ne_nil _ _, fun c hc => ?_, fun c hc => ?_, by omega⟩
  · simp only [calls, List.mem_cons, List.not_mem_nil, or_false] at hc
    rcases hc with rfl | rfl | rfl | rfl <;> exact Nat.le_of_ble_eq_true rfl
  · simp only [calls, List.mem_cons, List.not_mem_nil, or_false] at hc
    rcases hc with rfl | rfl | rfl | rfl
    · exact (huuid _).trans_le (by decide)
    · exact (huuid _).trans_le (by decide)
    · exact (huuid _).trans_le (by decide)
    · exact hmessage.trans (by decide)

theorem named_certificateId (draw : UUID × UUID) (i : ℕ) :
    named (start.defaults ++ calls draw i) Field.CERTIFICATE_ID =
      [.addUUID Field.CERTIFICATE_ID draw.1] := rfl

theorem named_artifactId (draw : UUID × UUID) (i : ℕ) :
    named (start.defaults ++ calls draw i) Field.ARTIFACT_ID =
      [.addUUID Field.ARTIFACT_ID draw.2] := rfl

theorem named_message (draw : UUID × UUID) (i : ℕ) :
    named (start.defaults ++ calls draw i) 0x0401 = [.addString 0x0401 (message i)] := rfl

/-- **The certificate of a turn**: it emits, it is submitted under the two
identifiers that were drawn, and the consumer's line for it is its number's. -/
theorem exists_certificate {C : Vccert} (hC : C.Lawful) (draw : UUID × UUID) {i : ℕ}
    (hi : i < 1000) :
    ∃ cert, certificate C draw i = .ok cert ∧
      Operation.request C (.submit cert) = .ok (.submit draw.1 draw.2 cert.byteArray) ∧
      Consumer.lineOf C cert.byteArray = line draw i := by
  have hsize := totalSize_calls draw hi
  obtain ⟨b, hcalls⟩ := callAll_calls draw i
  obtain ⟨cert, hemit, hline⟩ := transactionLine_of_emit hC (emittable draw hi) hcalls
    (named_certificateId draw i) (named_message draw i) (wellPaired_ofString _)
  obtain ⟨cert', hemit', hrequest⟩ := request_of_emit hC (emittable draw hi) hcalls
    (named_certificateId draw i) (named_artifactId draw i) (by omega)
  obtain rfl := Except.ok.inj (hemit.symm.trans hemit')
  refine ⟨cert, (bind_ok hcalls).trans hemit, hrequest, ?_⟩
  rw [Consumer.lineOf, hline]
  rfl

/-! ## The loop over a ledger -/

/-- A connection that takes every submission. Its state are the requests
made. -/
def ledger (C : Vccert) (t : Certificate) : EStateM Fault (List Request) TransactionStatus :=
  fun served =>
    match Operation.request C (.submit t) with
    | .ok r => .ok .succeeded (served ++ [r])
    | .error _ => .ok .failed served

/-- The submissions of the turns from the `i`-th on. -/
def submissions (draws : ℕ → UUID × UUID) (certs : ℕ → Certificate) (i n : ℕ) : List Request :=
  (List.range' i n).map fun j => .submit (draws j).1 (draws j).2 (certs j).byteArray

/-- **The loop submits its certificates one by one.** -/
theorem writeFrom_eq {C : Vccert} (draws : ℕ → UUID × UUID) {certs : ℕ → Certificate} {n i : ℕ}
    (hcerts : ∀ j, i ≤ j → j < i + n →
      certificate C (draws j) j = .ok (certs j) ∧ Operation.request C (.submit (certs j)) =
        .ok (.submit (draws j).1 (draws j).2 (certs j).byteArray))
    (served : List Request) (out : List JString) :
    writeFrom (ledger C) C draws i n (served, out) = .ok ()
      (served ++ submissions draws certs i n, out ++ (List.range' i n).map submittingLine) := by
  induction n generalizing i served out with
  | zero =>
    rw [submissions, List.range'_zero, List.map_nil, List.map_nil, List.append_nil,
      List.append_nil]
    rfl
  | succ n ih =>
    obtain ⟨hcert, hrequest⟩ := hcerts i le_rfl (by omega)
    obtain ⟨b, hcalls, hemit⟩ := bind_eq_ok_iff.mp hcert
    have hrest := ih (i := i + 1) (fun j hj hj' => hcerts j (by omega) (by omega))
      (served ++ [.submit (draws i).1 (draws i).2 (certs i).byteArray]) (out ++ [submittingLine i])
    have hturn : writeCert (ledger C) C (draws i) i (served, out) = .ok ()
        (served ++ [.submit (draws i).1 (draws i).2 (certs i).byteArray],
          out ++ [submittingLine i]) := by
      have hsubmit : ledger C (certs i) served = .ok .succeeded
          (served ++ [.submit (draws i).1 (draws i).2 (certs i).byteArray]) := by
        rw [ledger, hrequest]
      rw [writeCert, hcalls]
      refine (Effect.bind_ok (Effect.lift_ok ..)).trans ?_
      refine (Effect.bind_ok rfl).trans ?_
      rw [hemit]
      refine (Effect.bind_ok (Effect.lift_ok ..)).trans ?_
      exact Effect.bind_ok (Effect.unwatched_ok hsubmit)
    refine (Effect.bind_ok hturn).trans (hrest.trans ?_)
    rw [submissions, submissions, List.range'_succ, List.map_cons, List.map_cons,
      List.append_assoc, List.append_assoc]
    rfl

/-! ## The loop over a socket -/

section

variable {V : Vccrypt} {A : Agent V} {N : Network A.machine}

/-- What `submit` makes of how the handler's ended. -/
def verdict : Except Fault Unit → Except Fault TransactionStatus
  | .ok () => .ok .succeeded
  | .error (.thrown _) => .ok .failed
  | .error .outOfBounds => .error .outOfBounds

theorem outcome_submit {W : Type} (P : Platform W) (t : Certificate) (s : Session W) :
    Effect.outcome (RemoteAgentConnection.submit P t) s =
      (verdict (Effect.outcome (Handler.submit P t) s).1,
        (Effect.outcome (Handler.submit P t) s).2) := by
  cases h : Handler.submit P t s with
  | ok a s' =>
    have hsubmit : RemoteAgentConnection.submit P t s = .ok .succeeded s' := by
      rw [RemoteAgentConnection.submit, h]
    rw [Effect.outcome_ok hsubmit, Effect.outcome_ok h]
    rfl
  | error f s' =>
    cases f with
    | thrown e =>
      have hsubmit : RemoteAgentConnection.submit P t s = .ok .failed s' := by
        rw [RemoteAgentConnection.submit, h]
      rw [Effect.outcome_ok hsubmit, Effect.outcome_error h]
      rfl
    | outOfBounds =>
      have hsubmit : RemoteAgentConnection.submit P t s = .error .outOfBounds s' := by
        rw [RemoteAgentConnection.submit, h]
      rw [Effect.outcome_error hsubmit, Effect.outcome_error h]
      rfl

/-- The handler's `submit`, if the agent takes the submission on the spot. -/
def taken (C : Vccert) (t : Certificate) : EStateM Fault (List Request) Unit := fun served =>
  match Operation.request C (.submit t) with
  | .ok r => .ok () (served ++ [r])
  | .error f => .error f served

theorem respond_submit (C : Vccert) (t : Certificate) :
    A.respond C (.submit t) = taken C t >>= fun _ => pure .void := by
  funext served
  cases hr : Operation.request C (.submit t) with
  | error f =>
    have htaken : taken C t served = .error f served := by rw [taken, hr]
    rw [Effect.bind_error htaken, Agent.respond, hr]
  | ok r =>
    have htaken : taken C t served = .ok () (served ++ [r]) := by rw [taken, hr]
    obtain ⟨_, _, -, rfl, -⟩ := Operation.request_submit_eq_ok_iff.mp hr
    rw [Effect.bind_ok htaken, Agent.respond, hr]
    rfl

theorem outcome_ledger (C : Vccert) (t : Certificate) (served : List Request) :
    Effect.outcome (ledger C t) served =
      (verdict (Effect.outcome (taken C t) served).1, (Effect.outcome (taken C t) served).2) := by
  cases hr : Operation.request C (.submit t) with
  | error f =>
    obtain ⟨e, rfl⟩ := (Operation.request_inBounds C (.submit t)).thrown hr
    have htaken : taken C t served = .error (.thrown e) served := by rw [taken, hr]
    have hledger : ledger C t served = .ok .failed served := by rw [ledger, hr]
    rw [Effect.outcome_ok hledger, Effect.outcome_error htaken]
    rfl
  | ok r =>
    have htaken : taken C t served = .ok () (served ++ [r]) := by rw [taken, hr]
    have hledger : ledger C t served = .ok .succeeded (served ++ [r]) := by rw [ledger, hr]
    rw [Effect.outcome_ok hledger, Effect.outcome_ok htaken]
    rfl

/-- **A submission over the socket is taken**, or a read throws: whatever
status the agent answers with. -/
theorem simulates_submit (hV : V.Lawful) (C : Vccert) (hline : (N.wire 0).line = .reliable)
    (t : Certificate) :
    Effect.Simulates (fun s served => Mirrors N served s) (fun s => s.world.Threw N 0)
      (fun _ => False) (RemoteAgentConnection.submit (socketPlatform V C N) t) (ledger C t) := by
  have hsimulates := simulates_respond hV C hline (.submit t)
  rw [respond_submit] at hsimulates
  exact (Effect.Simulates.of_wrapped (w := fun _ : Unit => Value.void) (fun _ _ _ => rfl)
    hsimulates).recast verdict (outcome_submit _ t) (outcome_ledger C t)

/-- Printing asks the connection for nothing. -/
theorem simulates_println {σ τ : Type} {R : σ → τ → Prop} {L : σ → Prop} {L' : τ → Prop}
    (line : JString) :
    Consumer.Simulates R L L' (Consumer.println line) (Consumer.println line) where
  step := fun h => .inr (.inr ⟨rfl, h.1, congrArg (· ++ [line]) h.2⟩)
  lost := .of_outcome fun _ h => h
  lost' := .of_outcome fun _ h => h

/-- **Turn by turn.** -/
theorem simulates_writeFrom {σ τ : Type} {R : σ → τ → Prop} {L : σ → Prop} {L' : τ → Prop}
    {submit : Certificate → EStateM Fault σ TransactionStatus}
    {submit' : Certificate → EStateM Fault τ TransactionStatus} (C : Vccert)
    (hsubmit : ∀ t, Effect.Simulates R L L' (submit t) (submit' t)) (draws : ℕ → UUID × UUID)
    (i n : ℕ) :
    Consumer.Simulates R L L' (writeFrom submit C draws i n) (writeFrom submit' C draws i n) := by
  induction n generalizing i with
  | zero => exact .pure _
  | succ n ih =>
    have hcert : Consumer.Simulates R L L' (writeCert submit C (draws i) i)
        (writeCert submit' C (draws i) i) := by
      exact .bind (.lift _) fun builder => .bind (simulates_println _) fun _ =>
        .bind (.lift _) fun cert => .bind (.unwatched (hsubmit cert)) fun _ => .pure _
    exact .bind hcert fun _ => ih (i + 1)

end

end Producer

/-! ## What the consumer prints of it -/

open AddCall in
/-- **A block that a builder emits** with some transactions wrapped in it, and
whatever else. -/
inductive BlockOf (C : Vccert) : Block → List Bytes → Prop
  | emitted {id : UUID} {cert : Certificate} {start : BuilderStart} {made : List AddCall}
      {b : CertificateBuilder} (h : start.Emittable made)
      (hcalls : callAll start.builder made = .ok b) (hemit : b.emit C = .ok cert) :
      BlockOf C ⟨id, cert⟩
        ((named (start.defaults ++ made) Field.WRAPPED_TRANSACTION_TUPLE).map serialized)

/-- What is printed of such a block. -/
theorem BlockOf.linesOf {C : Vccert} (hC : C.Lawful) {b : Block} {transactions : List Bytes}
    (h : BlockOf C b transactions) :
    Consumer.linesOf C b = .ok (transactions.map (Consumer.lineOf C)) := by
  cases h with
  | @emitted id cert start made builder h hcalls hemit =>
    obtain ⟨cert', r, hemit', -, hread, hfields⟩ := h.reader hC hcalls
    obtain rfl := Except.ok.inj (hemit.symm.trans hemit')
    have hvalues : (r.certFields Field.WRAPPED_TRANSACTION_TUPLE).getD [] =
        (AddCall.named (start.defaults ++ made) Field.WRAPPED_TRANSACTION_TUPLE).map
          AddCall.serialized := by
      rw [hfields, CertificateParser.group_eq, AddCall.valuesOf_entries, CertificateParser.present]
      split
      · rename_i hempty
        rw [hempty]
        rfl
      · rfl
    rw [Consumer.linesOf, hread, ok_bind, hvalues]

/-- **What is printed of such blocks**: the transactions' lines, in the order
in which they are wrapped. -/
theorem print_wrapped {C : Vccert} (hC : C.Lawful) {blocks : List Block}
    {wrapped : List (List Bytes)} (h : List.Forall₂ (BlockOf C) blocks wrapped) :
    (∀ b ∈ blocks, ∃ lines, Consumer.linesOf C b = .ok lines) ∧
      Consumer.print C blocks = wrapped.flatten.map (Consumer.lineOf C) := by
  induction h with
  | nil => exact ⟨fun _ hb => absurd hb List.not_mem_nil, rfl⟩
  | @cons b transactions blocks wrapped hb _ ih =>
    obtain ⟨hreadable, hprint⟩ := ih
    have hlines := hb.linesOf hC
    refine ⟨List.forall_mem_cons.mpr ⟨⟨_, hlines⟩, hreadable⟩, ?_⟩
    rw [List.flatten_cons, List.map_append, ← hprint, Consumer.print, Consumer.print,
      List.map_cons, List.flatten_cons, hlines]
    rfl

/-- **A consumer's run**: it has connected over a socket of `N` to an agent it
is configured for, and taken `n` turns of its loop, which end with `last` and
leave `printed` behind. -/
inductive Consumer.Ran (V : Vccrypt) (C : Vccert) {A : Agent V} (N : Network A.machine) (n : ℕ) :
    Except Fault UUID → Session (SocketWorld A.machine) → List JString → Prop
  | read {privateKey : Bytes} {nonces : Nonces} {config : RemoteAgentConfiguration}
      {s s' : Session (SocketWorld A.machine)} {last : Except Fault UUID} {printed : List JString}
      (hclient : V.IsKeyPair privateKey A.entityPublicKey) (hagentId : config.agentId = A.agentId)
      (hpublicKey : config.agentPublicKey = A.publicKey) (hN : N.Reaches config AgentState.start)
      (hconnect : Effect.outcome (RemoteAgentConnection.connectSocket V C N nonces)
        (RemoteAgentConnection.new config A.entityId privateKey) = (.ok (), s))
      (hrun : Effect.outcome (readCerts (RemoteAgentConnection.queries (socketPlatform V C N)) C n
        ROOT_BLOCK) (s, []) = (last, (s', printed))) : Consumer.Ran V C N n last s' printed

/-- What a list's first parts hold are its first elements. -/
theorem flatten_take {α : Type} (parts : List (List α)) (k : ℕ) :
    (parts.take k).flatten = parts.flatten.take (parts.take k).flatten.length := by
  conv_rhs => rw [← List.take_append_drop k parts, List.flatten_append]
  rw [List.take_append_drop, List.take_left]

/-- **What a consumer prints of blocks that wrap certain transactions**: unless a
read throws, it is not stopped, and prints the lines of the transactions in
the order in which they are wrapped, those of the first `n` blocks at least. -/
theorem Consumer.Ran.printed_wrapped {V : Vccrypt} (hV : V.Lawful) {C : Vccert} (hC : C.Lawful)
    {A : Agent V} {N : Network A.machine} {chain : List Request → Chain} (hserves : A.Serves chain)
    {n : ℕ} {last : Except Fault UUID} {s : Session (SocketWorld A.machine)}
    {printed : List JString} (h : Consumer.Ran V C N n last s printed) :
    s.world.Threw N 0 ∨ ∃ socket, s.world.sockets[0]? = some socket ∧
      ∀ wrapped, List.Forall₂ (BlockOf C) (chain (AgentState.served socket.agent)).blocks wrapped →
        (∃ u, last = .ok u) ∧ ∃ k, min n (chain []).blocks.length ≤ k ∧
          printed = (wrapped.take k).flatten.map (Consumer.lineOf C) := by
  cases h with
  | @read privateKey nonces config s₀ _ _ _ hclient hagentId hpublicKey hN hconnect hrun =>
    rcases hN.connectSocket hV C hclient nonces hagentId hpublicKey hconnect with
      hlost | ⟨-, hmirrors⟩
    · have hkept := (Consumer.simulates_readCerts C (simulates_queries hV C hN.line hserves) n
        ROOT_BLOCK).lost.outcome (s := (s₀, [])) hlost
      rw [hrun] at hkept
      exact .inl hkept
    rcases hmirrors.followed hV C hN.line hserves hrun with
      hlost | ⟨socket, k, hsocket, -, hfollowed, hfar⟩
    · exact .inl hlost
    refine .inr ⟨socket, hsocket, fun wrapped hblocks => ?_⟩
    obtain ⟨hreadable, -⟩ := print_wrapped hC hblocks
    cases hfollowed with
    | @reached u _ hreached =>
      refine ⟨⟨u, rfl⟩, k, hfar ⟨u, rfl⟩, ?_⟩
      obtain ⟨-, hprint⟩ := print_wrapped hC (List.forall₂_take k hblocks)
      rw [hreached.printed, hprint]
    | stopped _ hb hf =>
      -- a block that is emitted is a certificate
      obtain ⟨lines, hlines⟩ := hreadable _ (List.mem_of_getElem? hb)
      cases hlines.symm.trans hf

open Producer in
/-- **What the producer writes the consumer prints.** A producer connects over
a socket to a conforming agent and writes its thousand transactions. However
the stream from the agent is split, whatever statuses it answers with, unless
a read of the socket throws: the loop runs to its end, and the agent has read
exactly its thousand submissions in order, each with the identifiers drawn for
it. And a consumer that connects to a conforming agent whose chain wraps
certificates of these, over any socket and while the chain may grow, is not
stopped by any block: unless a read throws, it prints for each the identifier
and the message it was given, in the order in which they are wrapped, and has
come past all blocks that were there at the start if it took as many turns. -/
theorem produced_is_printed {V : Vccrypt} (hV : V.Lawful) {C : Vccert} (hC : C.Lawful)
    (A : Agent V) {privateKey : Bytes} (hclient : V.IsKeyPair privateKey A.entityPublicKey)
    (nonces : Nonces) {config : RemoteAgentConfiguration} (hagentId : config.agentId = A.agentId)
    (hpublicKey : config.agentPublicKey = A.publicKey) (N : Network A.machine)
    (hN : N.Reaches config AgentState.start) {r : Except Fault Unit}
    {s : Session (SocketWorld A.machine)}
    (hconnect : Effect.outcome (RemoteAgentConnection.connectSocket V C N nonces)
      (RemoteAgentConnection.new config A.entityId privateKey) = (r, s))
    (draws : ℕ → UUID × UUID) :
    s.world.Threw N 0 ∨ (r = .ok () ∧ ∀ (r' : Except Fault Unit)
      (s' : Session (SocketWorld A.machine)) (out : List JString),
      Effect.outcome (writeCerts (RemoteAgentConnection.submit (socketPlatform V C N)) C draws)
        (s, []) = (r', (s', out)) →
      s'.world.Threw N 0 ∨ (r' = .ok () ∧ out = (List.range 1000).map submittingLine ∧
        ∃ (socket : Socket A.machine) (certs : ℕ → Certificate),
          s'.world.sockets[0]? = some socket ∧
          (∀ i < 1000, certificate C (draws i) i = .ok (certs i)) ∧
          AgentState.served socket.agent = (List.range 1000).map
            (fun i => .submit (draws i).1 (draws i).2 (certs i).byteArray) ∧
          ∀ (B : Agent V) (chain : List Request → Chain), B.Serves chain →
            ∀ (N' : Network B.machine) (n : ℕ) (last : Except Fault UUID)
              (t : Session (SocketWorld B.machine)) (printed : List JString),
            Consumer.Ran V C N' n last t printed →
            t.world.Threw N' 0 ∨ ∃ socket', t.world.sockets[0]? = some socket' ∧
              ∀ (wrapped : List (List Bytes)) (order : List ℕ),
                List.Forall₂ (BlockOf C) (chain (AgentState.served socket'.agent)).blocks
                  wrapped →
                wrapped.flatten = order.map (fun i => (certs i).byteArray) →
                (∀ i ∈ order, i < 1000) →
                (∃ u, last = .ok u) ∧ ∃ k, min n (chain []).blocks.length ≤ k ∧
                  printed = (order.take (wrapped.take k).flatten.length).map
                    fun i => line (draws i) i)) := by
  rcases hN.connectSocket hV C hclient nonces hagentId hpublicKey hconnect with
    hlost | ⟨hr, hmirrors⟩
  · exact .inl hlost
  refine .inr ⟨hr, fun r' s' out hrun => ?_⟩
  have hexists : ∀ i, ∃ cert : Certificate, i < 1000 → certificate C (draws i) i = .ok cert ∧
      Operation.request C (.submit cert) =
        .ok (.submit (draws i).1 (draws i).2 cert.byteArray) ∧
      Consumer.lineOf C cert.byteArray = line (draws i) i := by
    intro i
    by_cases hi : i < 1000
    · obtain ⟨cert, h⟩ := exists_certificate hC (draws i) hi
      exact ⟨cert, fun _ => h⟩
    · exact ⟨⟨[]⟩, fun h => absurd h hi⟩
  choose certs hcerts using hexists
  have hledger := writeFrom_eq draws (n := 1000) (i := 0) (fun j _ hj => by
    obtain ⟨hcert, hrequest, -⟩ := hcerts j (by omega)
    exact ⟨hcert, hrequest⟩) [] []
  have hstep := (simulates_writeFrom C (simulates_submit hV C hN.line) draws 0 1000).step
    (s := (s, [])) (t := ([], [])) ⟨hmirrors, rfl⟩
  rw [Effect.outcome_ok hledger] at hstep
  unfold writeCerts at hrun
  rw [hrun] at hstep
  rcases hstep with hlost | hlost | ⟨hresult, hend, hout⟩
  · exact .inl hlost
  · exact hlost.elim
  obtain ⟨socket, hsocket, -, hserved⟩ := Mirrors.socket hend
  rw [List.range_eq_range']
  refine .inr ⟨hresult, hout, socket, certs, hsocket, fun i hi => (hcerts i hi).1, hserved, ?_⟩
  intro B chain hserves N' n last t printed hran
  rcases hran.printed_wrapped hV hC hserves with hlost | ⟨socket', hsocket', hprinted⟩
  · exact .inl hlost
  refine .inr ⟨socket', hsocket', fun wrapped order hblocks horder hlt => ?_⟩
  obtain ⟨hlast, k, hk, hlines⟩ := hprinted wrapped hblocks
  have hfirst : (wrapped.take k).flatten =
      (order.take (wrapped.take k).flatten.length).map fun i => (certs i).byteArray := by
    conv_lhs => rw [flatten_take, horder, ← List.map_take]
  refine ⟨hlast, k, hk, ?_⟩
  conv_lhs => rw [hlines, hfirst, List.map_map]
  refine List.map_congr_left fun i hi => ?_
  exact (hcerts i (hlt i (List.mem_of_mem_take hi))).2.2

/-! ## In the open -/

def sampleDraws (_ : ℕ) : UUID × UUID := (⟨1, 2⟩, ⟨5, 6⟩)

/-- The certificate of the first turn. -/
def firstProduced : Certificate :=
  ((Producer.certificate BufferCert.lib (sampleDraws 0) 0).toOption).getD ⟨[]⟩

theorem certificate_firstProduced :
    Producer.certificate BufferCert.lib (sampleDraws 0) 0 = .ok firstProduced := by
  decide +kernel

/-- It alone, in a block. -/
def producedBlock : Block :=
  ⟨⟨3, 4⟩, ⟨Record.encode ⟨0x0084, firstProduced.byteArray⟩⟩⟩

theorem blockOf_producedBlock : BlockOf BufferCert.lib producedBlock [firstProduced.byteArray] := by
  have hemittable : BuilderStart.fragment.Emittable
      [.addByteArray Field.WRAPPED_TRANSACTION_TUPLE firstProduced.byteArray] :=
    ⟨List.cons_ne_nil _ _, by decide, by decide +kernel, by decide +kernel⟩
  exact .emitted hemittable rfl (by decide +kernel)

def producedChain : Chain := ⟨[producedBlock], by decide⟩

theorem producedChain_carried : producedChain.Carried where
  ne_nil := by decide
  limit := by decide +kernel

/-- The agent in the open that serves the block. -/
def producedAgent : Agent XorSuite.suite :=
  chainAgent (fun _ => producedChain) fun _ => producedChain_carried

/-- The first of the thousand, printed by a consumer after two turns. -/
theorem produced_is_printed_first :
    ∃ s s' out, Effect.outcome (RemoteAgentConnection.connectSocket XorSuite.suite
        BufferCert.lib (trickle (M := refusingAgent.machine) AgentState.start) openNonces)
        (RemoteAgentConnection.new ⟨"localhost", 4000, ⟨1, 1⟩, zeros 32⟩ refusingAgent.entityId
          (zeros 32)) = (.ok (), s) ∧
      Effect.outcome (Producer.writeCerts (RemoteAgentConnection.submit (socketPlatform
        XorSuite.suite BufferCert.lib (trickle (M := refusingAgent.machine) AgentState.start)))
        BufferCert.lib sampleDraws) (s, []) = (.ok (), (s', out)) ∧
      ∃ t t' last, Effect.outcome (RemoteAgentConnection.connectSocket XorSuite.suite
          BufferCert.lib (trickle (M := producedAgent.machine) AgentState.start) openNonces)
          (RemoteAgentConnection.new ⟨"localhost", 4000, ⟨1, 1⟩, zeros 32⟩ producedAgent.entityId
            (zeros 32)) = (.ok (), t) ∧
        Effect.outcome (Consumer.readCerts (RemoteAgentConnection.queries (socketPlatform
          XorSuite.suite BufferCert.lib (trickle (M := producedAgent.machine) AgentState.start)))
          BufferCert.lib 2 ROOT_BLOCK) (t, []) =
          (.ok last, (t', [Producer.line (sampleDraws 0) 0])) := by
  have hclient : XorSuite.suite.IsKeyPair (zeros 32) refusingAgent.entityPublicKey :=
    openAgent_client ..
  have hreaches : (trickle (M := refusingAgent.machine) AgentState.start).Reaches
      ⟨"localhost", 4000, ⟨1, 1⟩, zeros 32⟩ AgentState.start := ⟨rfl, rfl, rfl, fun _ => rfl⟩
  obtain ⟨r, s, hconnect⟩ : ∃ r s, Effect.outcome (RemoteAgentConnection.connectSocket
      XorSuite.suite BufferCert.lib (trickle (M := refusingAgent.machine) AgentState.start)
      openNonces) (RemoteAgentConnection.new ⟨"localhost", 4000, ⟨1, 1⟩, zeros 32⟩
        refusingAgent.entityId (zeros 32)) = (r, s) := ⟨_, _, rfl⟩
  rcases produced_is_printed XorSuite.suite_lawful BufferCert.lib_lawful refusingAgent hclient
    openNonces rfl rfl _ hreaches hconnect sampleDraws with hlost | ⟨rfl, hwrites⟩
  · exact (not_threw_trickle _ _ _ hlost).elim
  obtain ⟨r', s', out, hrun⟩ : ∃ r' s' out, Effect.outcome (Producer.writeCerts
      (RemoteAgentConnection.submit (socketPlatform XorSuite.suite BufferCert.lib
        (trickle (M := refusingAgent.machine) AgentState.start))) BufferCert.lib sampleDraws)
      (s, []) = (r', (s', out)) := ⟨_, _, _, rfl⟩
  rcases hwrites r' s' out hrun with hlost | ⟨rfl, -, socket, certs, -, hcerts, -, hprinted⟩
  · exact (not_threw_trickle _ _ _ hlost).elim
  refine ⟨s, s', out, hconnect, hrun, ?_⟩
  -- the consumer, over a socket of its own
  have hreaches' : (trickle (M := producedAgent.machine) AgentState.start).Reaches
      ⟨"localhost", 4000, ⟨1, 1⟩, zeros 32⟩ AgentState.start := ⟨rfl, rfl, rfl, fun _ => rfl⟩
  have hclient' : XorSuite.suite.IsKeyPair (zeros 32) producedAgent.entityPublicKey :=
    openAgent_client ..
  obtain ⟨r₂, t, hconnect'⟩ : ∃ r t, Effect.outcome (RemoteAgentConnection.connectSocket
      XorSuite.suite BufferCert.lib (trickle (M := producedAgent.machine) AgentState.start)
      openNonces) (RemoteAgentConnection.new ⟨"localhost", 4000, ⟨1, 1⟩, zeros 32⟩
        producedAgent.entityId (zeros 32)) = (r, t) := ⟨_, _, rfl⟩
  rcases hreaches'.connectSocket XorSuite.suite_lawful BufferCert.lib hclient' openNonces rfl rfl
    hconnect' with hlost | ⟨rfl, -⟩
  · exact (not_threw_trickle _ _ _ hlost).elim
  obtain ⟨last, t', printed, hread⟩ : ∃ last t' printed, Effect.outcome (Consumer.readCerts
      (RemoteAgentConnection.queries (socketPlatform XorSuite.suite BufferCert.lib
        (trickle (M := producedAgent.machine) AgentState.start))) BufferCert.lib 2 ROOT_BLOCK)
      (t, []) = (last, (t', printed)) := ⟨_, _, _, rfl⟩
  have hserves : producedAgent.Serves fun _ => producedChain :=
    chainAgent_serves (fun _ => producedChain_carried) fun _ _ => List.prefix_rfl
  rcases hprinted producedAgent _ hserves _ 2 last t' printed
    (.read hclient' rfl rfl hreaches' hconnect' hread) with hlost | ⟨socket', -, hlines⟩
  · exact (not_threw_trickle _ _ _ hlost).elim
  have hfirst : firstProduced = certs 0 :=
    Except.ok.inj (certificate_firstProduced.symm.trans (hcerts 0 (by omega)))
  have hblocks : List.Forall₂ (BlockOf BufferCert.lib) producedChain.blocks
      [[firstProduced.byteArray]] :=
    .cons blockOf_producedBlock .nil
  obtain ⟨⟨u, rfl⟩, k, hk, hout⟩ :=
    hlines [[firstProduced.byteArray]] [0] hblocks (by rw [hfirst]; rfl) (by decide)
  have hwhole : [[firstProduced.byteArray]].take k = [[firstProduced.byteArray]] :=
    List.take_of_length_le hk
  rw [hwhole] at hout
  refine ⟨t, t', u, hconnect', ?_⟩
  rw [hread, hout]
  rfl

end VjBlockchain
