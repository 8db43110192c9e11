import VjBlockchain.Cert.Attestation
/-!
# The signed prefix

What a `CertificateParser` promises about attestation, over any sequence of
`parse` and `attest` calls: its size stays within the certificate, an
`attest` call returns `true` or throws and changes nothing, its verdict is
that of a parser just made, and once an attestation has succeeded the parser
shows no field but those of the signed prefix, which is that of the last one
that succeeded.

`ParserPromises` collects this. It is broken where an attestation stumbles: where
native code goes on with something it has not got, or passes a C string for a
Java one. The process ends there, with nothing thrown. The certificate's
octets may be missing, or the keys of an entity, or the library asks again
after it was refused, or reports a chain that failed after it was refused. As
long as no attestation stumbles every promise is kept.
-/

namespace VjBlockchain

open Common Common.Bytes Common.Throwing

/-! ## The resolver -/

/-- The entity that is asked for. -/
def EntityQuery.uuid (q : EntityQuery) : UUID := UuidUtil.halves q.entityId

theorem EntityQuery.uuidFromBytes_entityId (q : EntityQuery) :
    UuidConv.uuidFromBytes q.entityId = .ok q.uuid :=
  UuidConv.uuidFromBytes_eq q.length_entityId.ge

/-- **A key of the entity cannot be copied**: it is not there, or its octets
cannot be got. The signing key is the second one. -/
def Resolution.MissesKey (calls : Resolution) (entref : EntityReference) : Prop :=
  entref.publicEncryptionKey = none ∨ calls.pubenckeyInit = true ∧
    (calls.pubenckeyElements = false ∨ entref.publicSigningKey = none ∨
      calls.pubsignkeyInit = true ∧ calls.pubsignkeyElements = false)

/-- **The resolver goes on with what it has not got**: a UUID, an exception to
throw, or a key. -/
def Misstep (a : Attempt) (delegate : CertificateParserDelegate) (n : ℕ) (q : EntityQuery) :
    Prop :=
  (a.resolution n).newUuid ≠ none ∨
    match delegate.resolveEntity n q.uuid q.height with
    | .error _ => False
    | .ok none => (a.resolution n).newUnknownEntity = false
    | .ok (some entref) => (a.resolution n).MissesKey entref

/-- The keys of the entity, if there are buffers for both. -/
def Resolution.keysOf (calls : Resolution) (entref : EntityReference) : Option EntityKeys :=
  match entref.publicEncryptionKey, entref.publicSigningKey with
  | some pubenckey, some pubsignkey =>
    if calls.pubenckeyInit = true ∧ calls.pubsignkeyInit = true then
      some ⟨pubenckey, pubsignkey⟩
    else none
  | _, _ => none

/-- **What the library is told** of the `n`-th entity it asks for: its keys, or
that there are none. -/
def Attempt.answer (a : Attempt) (delegate : CertificateParserDelegate) (n : ℕ)
    (q : EntityQuery) : Option EntityKeys :=
  match delegate.resolveEntity n q.uuid q.height with
  | .ok (some entref) => (a.resolution n).keysOf entref
  | _ => none

section Resolver

variable {a : Attempt} {delegate : CertificateParserDelegate} {q : EntityQuery} {env : Jni} {n : ℕ}
  {calls : Resolution} {entref : EntityReference}

theorem copyKeys_misses (h : calls.MissesKey entref) :
    copyKeys calls entref env = .error .outOfBounds := by
  unfold copyKeys
  rcases h with hencryption | ⟨hinit, h⟩
  · rw [hencryption]
    rfl
  · cases entref.publicEncryptionKey with
    | none => rfl
    | some pubenckey =>
      rw [orThrow_some, ok_bind, if_pos hinit]
      cases helements : calls.pubenckeyElements with
      | false => rfl
      | true =>
        rw [check_pos rfl, ok_bind]
        cases hsigning : entref.publicSigningKey with
        | none => rfl
        | some pubsignkey =>
          obtain ⟨hinit', helements'⟩ : calls.pubsignkeyInit = true ∧
              calls.pubsignkeyElements = false := by simpa [helements, hsigning] using h
          rw [orThrow_some, ok_bind, if_pos hinit', helements']
          rfl

/-- **Without a missing key** the copies are given to the library, or an
exception is left. -/
theorem copyKeys_eq (h : ¬calls.MissesKey entref) : ∃ pending,
    copyKeys calls entref env = .ok (calls.keysOf entref, env.next pending) ∧
      (calls.keysOf entref = none ↔ pending ≠ none) := by
  unfold Resolution.MissesKey at h
  unfold copyKeys Resolution.keysOf
  cases hencryption : entref.publicEncryptionKey with
  | none => exact absurd (.inl hencryption) h
  | some pubenckey =>
    cases hinit : calls.pubenckeyInit with
    | false =>
      refine ⟨some ⟨.attestationException, "vccrypt_buffer_init"⟩, ?_⟩
      cases entref.publicSigningKey <;> simp
    | true =>
      simp only [hencryption, hinit, reduceCtorEq, true_and, false_or, not_or, not_and,
        Bool.not_eq_false] at h
      obtain ⟨helements, hsigning, helements'⟩ := h
      obtain ⟨pubsignkey, hsigning⟩ := Option.ne_none_iff_exists'.mp hsigning
      cases hinit' : calls.pubsignkeyInit with
      | false =>
        exact ⟨some ⟨.attestationException, "vccrypt_buffer_init"⟩,
          by simp [check, helements, hsigning]⟩
      | true => exact ⟨none, by simp [check, helements, hsigning, helements' hinit']⟩

/-- **A pending exception ends the process**, and so does a misstep. -/
theorem attestEntityKeyResolver_pending (h : env.pending ≠ none) :
    attestEntityKeyResolver a delegate q env = .error .outOfBounds := by
  have hnot : ¬((a.resolution env.resolved).newUuid.or env.pending).isNone = true :=
    fun hnone => h (Option.or_eq_none_iff.mp (Option.isNone_iff_eq_none.mp hnone)).2
  unfold attestEntityKeyResolver
  dsimp only
  rw [q.uuidFromBytes_entityId, ok_bind, check_neg hnot, error_bind]

theorem attestEntityKeyResolver_misstep (h : Misstep a delegate n q) :
    attestEntityKeyResolver a delegate q ⟨n, none⟩ = .error .outOfBounds := by
  unfold Misstep at h
  unfold attestEntityKeyResolver
  dsimp only
  rw [q.uuidFromBytes_entityId, ok_bind, Option.or_none]
  cases hnew : (a.resolution n).newUuid with
  | some e => rfl
  | none =>
    rw [Option.isNone_none, check_pos rfl, ok_bind]
    have hentity := h.resolve_left (not_not.mpr hnew)
    cases hentref : delegate.resolveEntity n q.uuid q.height with
    | error e =>
      rw [hentref] at hentity
      exact hentity.elim
    | ok entref =>
      rw [hentref] at hentity
      cases entref with
      | none =>
        have hunmade : (a.resolution n).newUnknownEntity = false := hentity
        dsimp only
        rw [hunmade]
        rfl
      | some entref => exact copyKeys_misses hentity

/-- **Without a misstep** the library gets its answer, and with a refusal an
exception is left. -/
theorem attestEntityKeyResolver_eq (h : ¬Misstep a delegate n q) : ∃ pending,
    attestEntityKeyResolver a delegate q ⟨n, none⟩ =
        .ok (a.answer delegate n q, ⟨n + 1, pending⟩) ∧
      (a.answer delegate n q = none ↔ pending ≠ none) := by
  obtain ⟨hnew, hentity⟩ := not_or.mp h
  unfold attestEntityKeyResolver Attempt.answer
  dsimp only
  rw [q.uuidFromBytes_entityId, ok_bind, not_not.mp hnew]
  cases hentref : delegate.resolveEntity n q.uuid q.height with
  | error e => exact ⟨some e, rfl, by simp⟩
  | ok entref =>
    cases entref with
    | none =>
      have hmade : (a.resolution n).newUnknownEntity = true := by simpa [hentref] using hentity
      rw [hmade]
      exact ⟨_, rfl, by simp⟩
    | some entref => exact copyKeys_eq (by simpa [hentref] using hentity)

theorem attestEntityKeyResolver_error {f : Fault}
    (h : attestEntityKeyResolver a delegate q env = .error f) : f = .outOfBounds := by
  obtain ⟨n, pending⟩ := env
  cases pending with
  | some e =>
    exact Except.error.inj (h.symm.trans (attestEntityKeyResolver_pending (Option.some_ne_none e)))
  | none =>
    by_cases hmisstep : Misstep a delegate n q
    · exact Except.error.inj (h.symm.trans (attestEntityKeyResolver_misstep hmisstep))
    · obtain ⟨_, hok, -⟩ := attestEntityKeyResolver_eq hmisstep
      cases h.symm.trans hok

/-- **A resolver that goes on** was asked with no exception pending. It leaves
one where it gives no keys, and only there. -/
theorem attestEntityKeyResolver_ok {keys : Option EntityKeys} {env' : Jni}
    (h : attestEntityKeyResolver a delegate q env = .ok (keys, env')) :
    env.pending = none ∧ (keys = none ↔ env'.pending ≠ none) := by
  obtain ⟨n, pending⟩ := env
  cases pending with
  | some e =>
    cases h.symm.trans (attestEntityKeyResolver_pending (Option.some_ne_none e))
  | none =>
    by_cases hmisstep : Misstep a delegate n q
    · cases h.symm.trans (attestEntityKeyResolver_misstep hmisstep)
    · obtain ⟨pending, hok, hiff⟩ := attestEntityKeyResolver_eq hmisstep
      cases h.symm.trans hok
      exact ⟨rfl, hiff⟩

end Resolver

/-! ## One attestation -/

/-- **The library gets to a stumble**, after `n` entities it has got the keys
of. -/
inductive Stumble (a : Attempt) (delegate : CertificateParserDelegate) :
    ℕ → Dialogue EntityQuery (Option EntityKeys) (AttestStatus × ℕ) → Prop
  /-- The resolver makes a misstep. -/
  | misstep {n q answered} (h : Misstep a delegate n q) : Stumble a delegate n (.ask q answered)
  /-- The library is refused, and asks again. -/
  | again {n q answered q' answered'} (hrefused : a.answer delegate n q = none)
      (h : answered none = .ask q' answered') : Stumble a delegate n (.ask q answered)
  /-- The library is refused, and reports a chain that failed. -/
  | chain {n q answered size} (hrefused : a.answer delegate n q = none)
      (h : answered none = .done (.chainAttestation, size)) :
      Stumble a delegate n (.ask q answered)
  | later {n q answered keys} (hkeys : a.answer delegate n q = some keys)
      (hrest : Stumble a delegate (n + 1) (answered (some keys))) :
      Stumble a delegate n (.ask q answered)

/-- **The attestation stumbles**: over the octets of the certificate, or on the
way of the library. -/
def Attempt.Stumbles {C : Vccert} (A : Attester C) (a : Attempt) (certificate : Bytes) : Prop :=
  ∃ delegate, a.delegate = some delegate ∧ a.optionsInit = true ∧
    (a.certificateElements = false ∨ ∃ parser, C.parserInit certificate = some parser ∧
      Stumble a delegate 0 (A.attest parser a.blockHeight a.validateContract))

/-- **Stumbles end the process**, on the way or when the result is decoded. -/
theorem stumble_iff {a : Attempt} {delegate : CertificateParserDelegate}
    {d : Dialogue EntityQuery (Option EntityKeys) (AttestStatus × ℕ)} {n : ℕ} :
    Stumble a delegate n d ↔
      (∃ f, d.run (attestEntityKeyResolver a delegate) ⟨n, none⟩ = .error f) ∨
        ∃ size env, d.run (attestEntityKeyResolver a delegate) ⟨n, none⟩ =
          .ok ((.chainAttestation, size), env) ∧ env.pending ≠ none := by
  induction d generalizing n with
  | done r =>
    constructor
    · rintro ⟨⟩
    · rintro (⟨f, h⟩ | ⟨size, env, h, hpending⟩)
      · cases h
      · cases h
        exact absurd rfl hpending
  | ask q answered ih =>
    by_cases hmisstep : Misstep a delegate n q
    · rw [Dialogue.run, attestEntityKeyResolver_misstep hmisstep, error_bind]
      exact iff_of_true (.misstep hmisstep) (.inl ⟨_, rfl⟩)
    obtain ⟨pending, hanswer, hiff⟩ := attestEntityKeyResolver_eq hmisstep
    rw [Dialogue.run, hanswer, ok_bind]
    dsimp only
    cases hkeys : a.answer delegate n q with
    | some keys =>
      rw [hkeys] at hiff
      obtain rfl : pending = none := by simpa using hiff
      rw [← ih]
      constructor
      · rintro (h | ⟨hrefused, -⟩ | ⟨hrefused, -⟩ | ⟨hkeys', hrest⟩)
        · exact absurd h hmisstep
        · cases hkeys.symm.trans hrefused
        · cases hkeys.symm.trans hrefused
        · obtain rfl := Option.some.inj (hkeys.symm.trans hkeys')
          exact hrest
      · exact .later hkeys
    | none =>
      have hpending : pending ≠ none := hiff.mp hkeys
      cases hrest : answered none with
      | ask q' answered' =>
        rw [Dialogue.run, attestEntityKeyResolver_pending hpending, error_bind]
        exact iff_of_true (.again hkeys hrest) (.inl ⟨_, rfl⟩)
      | done r =>
        obtain ⟨status, size⟩ := r
        constructor
        · rintro (h | ⟨-, h⟩ | ⟨-, h⟩ | ⟨hkeys', -⟩)
          · exact absurd h hmisstep
          · cases hrest.symm.trans h
          · cases hrest.symm.trans h
            exact .inr ⟨size, _, rfl, hpending⟩
          · cases hkeys.symm.trans hkeys'
        · rintro (⟨f, h⟩ | ⟨size', env, h, -⟩)
          · cases h
          · cases h
            exact .chain hkeys hrest

namespace ParserObject

variable {C : Vccert} {A : Attester C} {a : Attempt} {certificate : Bytes}

/-- A size within an array is what native code reads of it. -/
theorem nativeBuffer_eq {n : ℕ} (hn : n ≤ certificate.length) (hlen : certificate.length < 2 ^ 31) :
    nativeBuffer certificate (BitVec.ofNat 32 n) = .ok (certificate.take n) := by
  unfold nativeBuffer
  rw [toNat_signExtend_size (by omega)]
  exact if_pos hn

/-- What the library said, and what it was told. -/
theorem examine_ok (hlen : certificate.length < 2 ^ 31) {status : AttestStatus} {n : ℕ} {env : Jni}
    (h : examine A a certificate (BitVec.ofNat 32 certificate.length) = .ok ((status, n), env)) :
    ∃ parser keys, C.parserInit certificate = some parser ∧
      (A.attest parser a.blockHeight a.validateContract).result keys = some (status, n) ∧
      (env.pending = none ↔ none ∉ keys) := by
  unfold examine at h
  rw [nativeBuffer_eq le_rfl hlen, List.take_length] at h
  obtain ⟨delegate, -, h⟩ := bind_eq_ok_iff.mp h
  obtain ⟨_, -, h⟩ := bind_eq_ok_iff.mp h
  obtain ⟨_, -, h⟩ := bind_eq_ok_iff.mp h
  rw [ok_bind] at h
  obtain ⟨parser, hparser, h⟩ := bind_eq_ok_iff.mp h
  -- an exception is pending once an answer has been refused, and then no other is given
  have hstep : ∀ {keys : List (Option EntityKeys)} {q env key env'},
      (env.pending = none ↔ none ∉ keys) →
      attestEntityKeyResolver a delegate q env = .ok (key, env') →
      (env'.pending = none ↔ none ∉ keys ++ [key]) := by
    intro keys q env key env' hI hanswer
    obtain ⟨hnone, hkey⟩ := attestEntityKeyResolver_ok hanswer
    rw [List.mem_append, List.mem_singleton, not_or, and_iff_right (hI.mp hnone), ← not_iff_not,
      not_not]
    exact hkey.symm.trans eq_comm
  have hstart : (⟨0, none⟩ : Jni).pending = none ↔ none ∉ ([] : List (Option EntityKeys)) := by
    simp
  obtain ⟨keys, hresult, hpending⟩ := Dialogue.run_ok
    (I := fun (keys : List (Option EntityKeys)) (env : Jni) => env.pending = none ↔ none ∉ keys)
    hstep [] hstart h
  exact ⟨parser, keys, orThrow_eq_ok_iff.mp hparser, hresult, hpending⟩

/-- **An attestation stumbles** in the library, or when its result is decoded. -/
theorem stumbles_iff (hlen : certificate.length < 2 ^ 31) :
    a.Stumbles A certificate ↔
      examine A a certificate (BitVec.ofNat 32 certificate.length) = .error .outOfBounds ∨
        ∃ n env, examine A a certificate (BitVec.ofNat 32 certificate.length) =
          .ok ((.chainAttestation, n), env) ∧ env.pending ≠ none := by
  unfold examine Attempt.Stumbles
  rw [nativeBuffer_eq le_rfl hlen, List.take_length]
  cases hdelegate : a.delegate with
  | none => simp [orThrow]
  | some delegate =>
    cases hinit : a.optionsInit with
    | false => simp [check]
    | true =>
      cases helements : a.certificateElements with
      | false => simp [check]
      | true =>
        rw [orThrow_some, ok_bind, check_pos rfl, ok_bind, check_pos rfl, ok_bind, ok_bind]
        cases hparser : C.parserInit certificate with
        | none => simp [orThrow]
        | some parser =>
          rw [orThrow_some, ok_bind]
          constructor
          · rintro ⟨_, hsome, -, helse | ⟨_, hinit, hstumble⟩⟩
            · cases helse
            obtain rfl := Option.some.inj hsome
            obtain rfl := Option.some.inj hinit
            rcases stumble_iff.mp hstumble with ⟨f, hrun⟩ | hchain
            · obtain ⟨q, env, hf⟩ := Dialogue.run_error hrun
              obtain rfl := attestEntityKeyResolver_error hf
              exact .inl hrun
            · exact .inr hchain
          · intro h
            refine ⟨delegate, rfl, rfl, .inr ⟨parser, rfl, stumble_iff.mpr ?_⟩⟩
            rcases h with h | hchain
            · exact .inl ⟨_, h⟩
            · exact .inr hchain

end ParserObject

/-- The size that is signed, when the attestation succeeds. -/
def Attempt.signs {C : Vccert} (A : Attester C) (a : Attempt) (certificate : Bytes) : Option ℕ :=
  match ParserObject.examine A a certificate (BitVec.ofNat 32 certificate.length) with
  | .ok ((.success, n), _) => some n
  | _ => none

/-- A parser of a certificate, whatever it shows of it. -/
structure ParserObject.Of (cert : Certificate) (p : ParserObject) : Prop where
  certificate : p.certificate = cert.byteArray
  rawSize : p.rawSize = BitVec.ofNat 32 cert.byteArray.length

namespace ParserObject

variable {C : Vccert} {A : Attester C} {a : Attempt} {cert : Certificate} {p : ParserObject}

theorem new_of (cert : Certificate) : (new cert).Of cert := ⟨rfl, rfl⟩

theorem attest_eq (hp : p.Of cert) :
    attest A a p = (do
      let ((status, size), env) ← Effect.lift (examine A a cert.byteArray
        (BitVec.ofNat 32 cert.byteArray.length))
      decode status size env.pending : EStateM Fault ParserObject Bool) p := by
  rw [attest, Effect.get_bind, hp.certificate, hp.rawSize]

section

variable (hA : A.Lawful) (hlen : cert.byteArray.length < 2 ^ 31)
include hA hlen

/-- **An attestation that succeeds** returns `true` and shows what is signed. -/
theorem attest_signed (hC : C.Lawful) (hp : p.Of cert) {n : ℕ}
    (h : a.signs A cert.byteArray = some n) :
    n ≤ cert.byteArray.length ∧ attest A a p = .ok true { p with size := BitVec.ofNat 32 n } := by
  unfold Attempt.signs at h
  split at h
  · rename_i n' env hexamine
    cases h
    obtain ⟨parser, keys, hparser, hresult, hpending⟩ := examine_ok hlen hexamine
    obtain ⟨hn, hkeys⟩ := hA.success hresult
    obtain ⟨parser', hparser', hbuffer⟩ := hC.parserInit cert.byteArray
    obtain rfl := Option.some.inj (hparser.symm.trans hparser')
    rw [hbuffer] at hn
    refine ⟨hn, ?_⟩
    rw [attest_eq hp, hexamine, Effect.bind_ok (Effect.lift_ok ..)]
    dsimp only
    rw [hpending.mpr hkeys]
    rfl
  · cases h

/-- **Any other attestation** throws and changes nothing, or ends the
process. -/
theorem attest_refused (h : a.signs A cert.byteArray = none) :
    ∃ f, (∀ p : ParserObject, p.Of cert → attest A a p = .error f p) ∧
      (f = .outOfBounds ↔ a.Stumbles A cert.byteArray) := by
  rw [stumbles_iff hlen]
  cases hexamine : examine A a cert.byteArray (BitVec.ofNat 32 cert.byteArray.length) with
  | error f =>
    refine ⟨f, ?_, ?_⟩
    · intro p hp
      rw [attest_eq hp, hexamine]
      exact Effect.bind_error (Effect.lift_error ..)
    · simp
  | ok x =>
    obtain ⟨⟨status, n⟩, env⟩ := x
    obtain ⟨parser, keys, -, hresult, hpending⟩ := examine_ok hlen hexamine
    obtain ⟨f, hdecode, hf⟩ : ∃ f, (∀ p, decode status n env.pending p = .error f p) ∧
        (f = .outOfBounds ↔ status = .chainAttestation ∧ env.pending ≠ none) := by
      cases status with
      | success =>
        rw [Attempt.signs, hexamine] at h
        cases h
      | missingSigningCert =>
        -- the resolver has refused, so it has left an exception
        have hnone := mt hpending.mp (not_not.mpr (hA.missingSigningCert hresult))
        obtain ⟨e, he⟩ := Option.ne_none_iff_exists'.mp hnone
        rw [he]
        exact ⟨.thrown e, fun p => rfl, by simp⟩
      | chainAttestation =>
        cases env.pending with
        | none => exact ⟨_, fun p => rfl, by simp⟩
        | some e => exact ⟨.outOfBounds, fun p => rfl, by simp⟩
      | _ => exact ⟨_, fun p => rfl, by simp⟩
    refine ⟨f, ?_, ?_⟩
    · intro p hp
      rw [attest_eq hp, hexamine, Effect.bind_ok (Effect.lift_ok ..)]
      exact hdecode p
    · rw [hf]
      simp

end

/-- **What `parse` yields** lies in the part of the certificate the parser
shows. -/
theorem parse_ok (hC : C.Lawful) (hlen : cert.byteArray.length < 2 ^ 31) (hp : p.Of cert) {n : ℕ}
    (hn : n ≤ cert.byteArray.length) (hsize : p.size = BitVec.ofNat 32 n) {map : FieldMap}
    {p' : ParserObject} (h : parse C p = .ok map p') :
    ∃ rs, Record.encodeAll rs <+: cert.byteArray.take n ∧
      map = CertificateParser.group (rs.map CertificateParser.entry) := by
  rw [parse, Effect.get_bind, hp.certificate, hsize,
    nativeBuffer_eq hn hlen] at h
  obtain ⟨h, -⟩ := Effect.lift_eq_ok_iff.mp h
  refine ⟨(Record.walk (cert.byteArray.take n)).1, ⟨_, Record.encodeAll_walk _⟩, ?_⟩
  by_cases hfirst : Record.next (cert.byteArray.take n) = none
  · rw [ok_bind, CertificateParser.parseNative_error hC hfirst] at h
    cases h
  · rw [ok_bind, CertificateParser.parseNative_eq hC hfirst, ok_bind] at h
    exact (Except.ok.inj h).symm

/-- A parser just made parses as one that knows of no sizes. -/
theorem parse_new (hlen : cert.byteArray.length < 2 ^ 31) :
    Effect.outcome (parse C) (new cert) = ((CertificateParser.new cert).parse C, new cert) := by
  have hbuffer : nativeBuffer cert.byteArray (new cert).size = .ok cert.byteArray := by
    rw [new, nativeBuffer_eq le_rfl hlen, List.take_length]
  rw [parse, Effect.outcome_bind_ok (Effect.get_apply _), Effect.outcome_lift]
  show ((nativeBuffer cert.byteArray (new cert).size >>= _), _) = _
  rw [hbuffer]
  rfl

end ParserObject

/-! ## Runs -/

/-- The size signed after one more call. -/
def ParserCall.signs {C : Vccert} (A : Attester C) (certificate : Bytes) (last : Option ℕ) :
    ParserCall → Option ℕ
  | parse => last
  | attest a => (a.signs A certificate).or last

/-- **The size the last attestation that succeeded signed for**, if one has. -/
def signedSize {C : Vccert} (A : Attester C) (certificate : Bytes) (calls : List ParserCall) :
    Option ℕ :=
  calls.foldl (ParserCall.signs A certificate) none

/-- The parser after some calls. -/
def parserAfter {C : Vccert} (A : Attester C) (cert : Certificate) (calls : List ParserCall) :
    ParserObject :=
  (Effect.trace (ParserCall.run A) calls (.new cert)).2

/-- **What a parser promises** along a sequence of calls. -/
structure ParserPromises {C : Vccert} (A : Attester C) (cert : Certificate)
    (calls : List ParserCall) : Prop where
  sizes : ∀ done, done <+: calls →
    0 ≤ (parserAfter A cert done).size.toInt ∧
      (parserAfter A cert done).size.toInt ≤ (parserAfter A cert done).rawSize.toInt ∧
      (parserAfter A cert done).rawSize.toInt = cert.byteArray.length
  certificate : ∀ done, done <+: calls → (parserAfter A cert done).getCertificate = cert
  /-- `attest` returns `true`, or throws and changes nothing. -/
  attest : ∀ done a, done ++ [.attest a] <+: calls →
    (∃ n, ParserObject.attest A a (parserAfter A cert done) =
        .ok true { parserAfter A cert done with size := BitVec.ofNat 32 n }) ∨
      ∃ e, ParserObject.attest A a (parserAfter A cert done) =
        .error (.thrown e) (parserAfter A cert done)
  /-- What came before makes no difference to it. -/
  verdict : ∀ done a, done ++ [.attest a] <+: calls →
    (Effect.outcome (ParserObject.attest A a) (parserAfter A cert done)).1 =
      (Effect.outcome (ParserObject.attest A a) (.new cert)).1
  /-- After an attestation that succeeded only what is signed is visible. -/
  parse : ∀ done n map p', done <+: calls → signedSize A cert.byteArray done = some n →
    ParserObject.parse C (parserAfter A cert done) = .ok map p' →
    ∃ rs, Record.encodeAll rs <+: cert.byteArray.take n ∧
      map = CertificateParser.group (rs.map CertificateParser.entry)

section Runs

variable {C : Vccert} {A : Attester C} {cert : Certificate}

/-- A parser that shows what the last attestation signed for, or all of its
certificate. -/
structure Shows (cert : Certificate) (signed : Option ℕ) (p : ParserObject) : Prop where
  of : p.Of cert
  le : signed.getD cert.byteArray.length ≤ cert.byteArray.length
  size : p.size = BitVec.ofNat 32 (signed.getD cert.byteArray.length)

variable (hC : C.Lawful) (hA : A.Lawful) (hlen : cert.byteArray.length < 2 ^ 31)
include hC hA hlen

/-- **One call.** -/
theorem Shows.call {signed : Option ℕ} {p : ParserObject} (hp : Shows cert signed p)
    (call : ParserCall) :
    Shows cert (call.signs A cert.byteArray signed) (Effect.outcome (call.run A) p).2 := by
  cases call with
  | parse =>
    rw [ParserCall.run, Effect.outcome_bind_pure, ParserObject.parse,
      Effect.outcome_bind_ok (Effect.get_apply p), Effect.outcome_lift]
    exact hp
  | attest a =>
    rw [ParserCall.run, Effect.outcome_bind_pure, ParserCall.signs]
    cases hsigns : a.signs A cert.byteArray with
    | some n =>
      obtain ⟨hn, hok⟩ := ParserObject.attest_signed hA hlen hC hp.of hsigns
      rw [Effect.outcome_ok hok]
      exact ⟨⟨hp.of.certificate, hp.of.rawSize⟩, hn, rfl⟩
    | none =>
      obtain ⟨f, hrefused, -⟩ := ParserObject.attest_refused hA hlen hsigns
      rw [Effect.outcome_error (hrefused p hp.of)]
      exact hp

/-- **A whole run.** -/
theorem shows_after (done : List ParserCall) :
    Shows cert (signedSize A cert.byteArray done) (parserAfter A cert done) := by
  refine Effect.trace_induction (P := fun done p => Shows cert (signedSize A cert.byteArray done) p)
    ⟨ParserObject.new_of cert, le_rfl, rfl⟩ ?_ done (List.prefix_refl done)
  intro done call _ ih
  have hsigned : signedSize A cert.byteArray (done ++ [call]) =
      call.signs A cert.byteArray (signedSize A cert.byteArray done) := by
    rw [signedSize, List.foldl_concat, signedSize]
  rw [hsigned]
  exact ih.call hC hA hlen call

/-- **The parser keeps its promises exactly in the runs in which no attestation
stumbles.** -/
theorem parser_promises_iff (calls : List ParserCall) :
    ParserPromises A cert calls ↔
      ∀ a, .attest a ∈ calls → ¬a.Stumbles A cert.byteArray := by
  constructor
  · intro h a ha hstumbles
    obtain ⟨done, rest, rfl⟩ := List.append_of_mem ha
    have hdone : done ++ [.attest a] <+: done ++ .attest a :: rest :=
      ⟨rest, List.append_cons .. |>.symm⟩
    have hsigns : a.signs A cert.byteArray = none := by
      rcases (ParserObject.stumbles_iff hlen).mp hstumbles with hexamine | ⟨n, env, hexamine, -⟩
      · rw [Attempt.signs, hexamine]
      · rw [Attempt.signs, hexamine]
    obtain ⟨f, hrefused, hiff⟩ := ParserObject.attest_refused hA hlen hsigns
    obtain rfl := hiff.mpr hstumbles
    have hends := hrefused _ (shows_after hC hA hlen done).of
    rcases h.attest done a hdone with ⟨n, hok⟩ | ⟨e, herror⟩
    · cases hends.symm.trans hok
    · cases hends.symm.trans herror
  · intro h
    refine ⟨?_, ?_, ?_, ?_, ?_⟩
    · intro done hdone
      obtain ⟨hof, hle, hsize⟩ := shows_after hC hA hlen done
      rw [hsize, hof.rawSize, toInt_ofNat_size (by omega), toInt_ofNat_size hlen]
      omega
    · intro done hdone
      show Certificate.mk _ = cert
      rw [(shows_after hC hA hlen done).of.certificate]
    · intro done a hdone
      have hof := (shows_after hC hA hlen done).of
      cases hsigns : a.signs A cert.byteArray with
      | some n => exact .inl ⟨n, (ParserObject.attest_signed hA hlen hC hof hsigns).2⟩
      | none =>
        obtain ⟨f, hrefused, hiff⟩ := ParserObject.attest_refused hA hlen hsigns
        have hmem : .attest a ∈ calls := hdone.subset (by simp)
        cases f with
        | thrown e => exact .inr ⟨e, hrefused _ hof⟩
        | outOfBounds => exact absurd (hiff.mp rfl) (h a hmem)
    · intro done a hdone
      have hof := (shows_after hC hA hlen done).of
      cases hsigns : a.signs A cert.byteArray with
      | some n =>
        rw [Effect.outcome_ok (ParserObject.attest_signed hA hlen hC hof hsigns).2,
          Effect.outcome_ok
            (ParserObject.attest_signed hA hlen hC (ParserObject.new_of cert) hsigns).2]
      | none =>
        obtain ⟨f, hrefused, -⟩ := ParserObject.attest_refused hA hlen hsigns
        rw [Effect.outcome_error (hrefused _ hof),
          Effect.outcome_error (hrefused _ (ParserObject.new_of cert))]
    · intro done n map p' _ hsigned hparse
      obtain ⟨hof, hle, hsize⟩ := shows_after hC hA hlen done
      rw [hsigned, Option.getD_some] at hle hsize
      exact ParserObject.parse_ok hC hlen hof hle hsize hparse

end Runs

/-! ## An attestation in the open

It asks for one entity, and takes the first five octets for signed when it
gets the keys. -/

theorem length_openEntity : (zeros 16).length = 16 := length_zeros 16

def openAttester : Attester BufferCert.lib where
  attest p height _ := .ask ⟨height, zeros 16, length_openEntity⟩ fun keys =>
    .done (if keys.isNone then .missingSigningCert else .success, min 5 p.1.length)

theorem openAttester_lawful : openAttester.Lawful where
  success := by
    intro p height validate keys n h
    match keys with
    | [none] => cases h
    | [some k] =>
      obtain rfl : min 5 p.1.length = n := (Prod.mk.inj (Option.some.inj h)).2
      exact ⟨Nat.min_le_right .., by simp⟩
  missingSigningCert := by
    intro p height validate keys n h
    match keys with
    | [none] => exact List.mem_singleton_self none
    | [some k] => cases h

/-- A resolution in which no call fails. -/
def Resolution.smooth : Resolution := ⟨none, true, true, true, true, true⟩

/-- A call with a delegate that always gives one answer. -/
def openAttempt (answer : Option EntityReference) : Attempt :=
  ⟨some ⟨fun _ _ _ => .ok answer⟩, 77, false, true, true, fun _ => .smooth⟩

/-- Two records, of which the first is signed. -/
def openCertificate : Certificate := ⟨Record.encodeAll [⟨0x1735, [1]⟩, ⟨0x1738, [7]⟩]⟩

/-- An attestation that succeeds, a walk, one that fails, and another walk. -/
theorem parser_promises_open :
    ParserPromises openAttester openCertificate
      [.attest (openAttempt (some ⟨some (zeros 32), some (zeros 32)⟩)), .parse,
        .attest (openAttempt none), .parse] := by
  have hlen : openCertificate.byteArray.length < 2 ^ 31 := by decide
  refine (parser_promises_iff BufferCert.lib_lawful openAttester_lawful hlen _).mpr ?_
  intro a ha hstumbles
  have hexamine := (ParserObject.stumbles_iff hlen).mp hstumbles
  simp only [List.mem_cons, ParserCall.attest.injEq, reduceCtorEq, List.not_mem_nil, false_or,
    or_false] at ha
  rcases ha with rfl | rfl <;> rcases hexamine with hexamine | ⟨n, env, hexamine, -⟩ <;>
    cases hexamine

/-- **An entity without a key ends the process.** No exception is raised. -/
theorem not_parser_promises :
    openAttester.Lawful ∧
      ParserObject.attest openAttester (openAttempt (some ⟨none, none⟩)) (.new openCertificate) =
        .error .outOfBounds (.new openCertificate) ∧
      ¬ParserPromises openAttester openCertificate
        [.attest (openAttempt (some ⟨none, none⟩))] := by
  have hends : ParserObject.attest openAttester (openAttempt (some ⟨none, none⟩))
      (.new openCertificate) = .error .outOfBounds (.new openCertificate) := rfl
  refine ⟨openAttester_lawful, hends, fun h => ?_⟩
  rcases h.attest [] _ (List.prefix_refl _) with ⟨n, hok⟩ | ⟨e, herror⟩
  · cases hends.symm.trans hok
  · cases hends.symm.trans herror

end VjBlockchain
