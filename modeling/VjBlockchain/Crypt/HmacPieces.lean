import VjBlockchain.Crypt.NativeHmac
/-!
# HMAC of several messages

The native calls, read as functions: a call follows a function that returns or
throws if it ends the same way, or throws because the environment has made
one of its calls fail. The list form of the code follows `digestMessages`,
the plain form digests once, and a MAC that absorbs pieces as their
concatenation gives both the same code.
-/

namespace VjBlockchain

open Common Common.Bytes Common.Throwing

namespace NativeHmac

open CallFrame

/-- The frame ends as the function does, or throws after a call that failed. -/
def Follows (env : NativeEnv Call) (s : CallFrame) (x : Except Fault Bytes) : Prop :=
  s.outcome = x.map some ∨ (∃ e, s.outcome = .error e) ∧ ∃ c, env.fails c = true

variable {env : NativeEnv Call} {s : CallFrame} {x : Except Fault Bytes}

theorem Follows.of_fails {c : Call} {e : Fault} (hc : env.fails c = true)
    (h : s.outcome = .error e) : Follows env s x := .inr ⟨⟨e, h⟩, c, hc⟩

/-- A function that returns is followed to its result. -/
theorem Follows.eq_of_ok (h : Follows env s x) {code : Option Bytes} (hs : s.outcome = .ok code) :
    .ok code = x.map some := by
  rcases h with h | ⟨⟨e, he⟩, -⟩
  · exact hs.symm.trans h
  · cases hs.symm.trans he

/-- Where no call fails the frame ends as the function does. -/
theorem Follows.eq_of_reliable (h : Follows env s x) (henv : ∀ c, env.fails c = false) :
    s.outcome = x.map some := by
  rcases h with h | ⟨-, c, hc⟩
  · exact h
  · cases (henv c).symm.trans hc

/-- A call that is all the environment's: where it does not fail, what comes next
follows. -/
theorem Follows.unless {c : Call} {stop next : CallFrame} {e : Fault}
    (hstop : stop.outcome = .error e) (hnext : Follows env next x) :
    Follows env (if env.fails c = true then stop else next) x := by
  by_cases hc : env.fails c = true
  · rw [if_pos hc]
    exact .of_fails hc hstop
  · rw [if_neg hc]
    exact hnext

theorem outcome_of_pending (h : s.pending = none) : s.outcome = .ok s.retval := by
  rw [outcome, h]

/-- **The end of a call** follows `finalize`. -/
theorem finish_follows {M : MacScheme} {next : CallFrame → CallFrame}
    (hnext : ∀ s, (next s).outcome = s.outcome) (mac : M.Instance) (hs : s.pending = none) :
    Follows env (finish M env next mac s)
      (orThrow (M.finalize mac) (.illegalState "could not finalize.")) := by
  unfold finish
  refine .unless (hnext _) ?_
  rcases env.call_cases .macFinalize (M.finalize mac) with ⟨hfails, hcall⟩ | ⟨-, hcall⟩
  · rw [hcall]
    exact .of_fails hfails (hnext _)
  rw [hcall]
  cases M.finalize mac with
  | none => exact .inl (hnext _)
  | some code =>
    refine .unless (hnext _) (.unless (hnext _) ?_)
    exact .inl ((hnext _).trans (outcome_of_pending hs))

/-- **The loop** follows `digestMessages`. -/
theorem digestEach_follows {V : Vccrypt} {next : V.macShort.Instance → CallFrame → CallFrame}
    {f : V.macShort.Instance → Except Fault Bytes}
    (hnext : ∀ mac {s}, s.pending = none → Follows env (next mac s) (f mac))
    (messages : List Bytes) :
    ∀ i mac {s}, s.pending = none → Follows env (digestEach V.macShort env next i messages mac s)
      (HMAC.digestMessages V mac messages >>= f) := by
  induction messages with
  | nil => exact fun _ mac _ hs => hnext mac hs
  | cons message messages ih =>
    intro i mac s hs
    rw [digestEach, HMAC.digestMessages]
    refine .unless rfl ?_
    rcases env.call_cases (.macDigest i) (V.macShort.digest mac message) with
      ⟨hfails, hcall⟩ | ⟨-, hcall⟩
    · rw [hcall]
      exact .of_fails hfails rfl
    rw [hcall]
    cases V.macShort.digest mac message with
    | none => exact .inl rfl
    | some mac' => exact ih (i + 1) mac' (s := (s.acquire _).release _) hs

/-- **The one message** is digested and the code finished. -/
theorem digestOne_follows {M : MacScheme} (message : Bytes) (mac : M.Instance)
    (hs : s.pending = none) : Follows env (digestOne M env message mac s)
      (orThrow (M.digest mac message) (.illegalState "could not digest.") >>= fun mac =>
        orThrow (M.finalize mac) (.illegalState "could not finalize.")) := by
  unfold digestOne
  refine .unless rfl ?_
  rcases env.call_cases (.macDigest 0) (M.digest mac message) with ⟨hfails, hcall⟩ | ⟨-, hcall⟩
  · rw [hcall]
    exact .of_fails hfails rfl
  rw [hcall]
  cases M.digest mac message with
  | none => exact .inl rfl
  | some mac' =>
    have hlabel : ∀ s, (messageBytesDispose s).outcome = s.outcome := fun _ => rfl
    exact finish_follows hlabel mac' (s := s.acquire _) hs

/-- **The beginning of a call** for a short code makes the MAC context of the
key. -/
theorem digestWith_follows {α : Type} (S : CryptoSuite) (hinitialized : env.initialized = true)
    (key : Option Bytes) (message : α) (messageName : String)
    {body : α → (suiteMac S true).Instance → CallFrame → CallFrame}
    {f : (suiteMac S true).Instance → Except Fault Bytes}
    (hbody : ∀ mac {s}, s.pending = none → Follows env (body message mac s) (f mac)) :
    Follows env (digestWith S env key (some message) messageName true body)
      (orThrow key (.java .nullPointerException "key") >>= fun key =>
        orThrow ((suiteMac S true).init key) (.illegalState "could not initialize short mac.") >>=
          f) := by
  unfold digestWith
  rw [if_neg (by simp [hinitialized])]
  cases key with
  | none => exact .inl rfl
  | some key =>
    rw [orThrow_some, ok_bind]
    refine .unless rfl (.unless rfl ?_)
    rcases env.call_cases .macInit ((suiteMac S true).init key) with ⟨hfails, hcall⟩ | ⟨-, hcall⟩
    · rw [hcall]
      exact .of_fails hfails rfl
    rw [hcall]
    cases (suiteMac S true).init key with
    | none => exact .inl rfl
    | some mac => exact hbody mac (s := ((entry.acquire _).acquire _).acquire _) rfl

/-! ## The two forms -/

/-- **The list form follows the function the handshake calls.** -/
theorem createHMACShortArr_follows (S : CryptoSuite) (hinitialized : env.initialized = true)
    (key : Option Bytes) (messages : List Bytes) :
    Follows env (createHMACShortArr env S key (some (messages.map some)))
      (HMAC.createHMACShortArr S.toVccrypt key messages) := by
  have hnull : none ∉ messages.map some := by simp
  have hsame : (messages.map some).filterMap id = messages := by
    simp
  have hlabel : ∀ s, (keyBufferDispose s).outcome = s.outcome := fun _ => rfl
  rw [createHMACShortArr, if_neg hnull, hsame]
  refine digestWith_follows S hinitialized key messages "messages" fun mac s hs => ?_
  exact digestEach_follows (V := S.toVccrypt) (fun mac' _ hs' => finish_follows hlabel mac' hs')
    messages 0 mac hs

/-- So does the plain form. -/
theorem createHMACShort_follows (S : CryptoSuite) (hinitialized : env.initialized = true)
    (key : Option Bytes) (message : Bytes) :
    Follows env (createHMACShort env S key (some message))
      (HMAC.createHMACShort S.toVccrypt key message) :=
  digestWith_follows S hinitialized key message "message" fun mac _ hs =>
    digestOne_follows message mac hs

/-- A library that is not initialised throws. -/
theorem digestWith_uninitialized {α : Type} (S : CryptoSuite) (h : env.initialized = false)
    (key : Option Bytes) (message : Option α) (messageName : String) (hmacShort : Bool)
    (body : α → (suiteMac S hmacShort).Instance → CallFrame → CallFrame) :
    (digestWith S env key message messageName hmacShort body).outcome =
      .error (.illegalState "vjblockchain not initialized.") := by
  unfold digestWith
  rw [if_pos h]
  rfl

theorem createHMACShortArr_uninitialized (S : CryptoSuite) (h : env.initialized = false)
    (key : Option Bytes) (messages : List Bytes) :
    (createHMACShortArr env S key (some (messages.map some))).outcome =
      .error (.illegalState "vjblockchain not initialized.") := by
  have hnull : none ∉ messages.map some := by simp
  rw [createHMACShortArr, if_neg hnull, digestArrNative, digestWith_uninitialized S h]

/-- **A code is the code of the function**, whatever the environment. -/
theorem createHMACShortArr_ok {S : CryptoSuite} {key : Option Bytes} {messages : List Bytes}
    {code : Option Bytes}
    (h : (createHMACShortArr env S key (some (messages.map some))).outcome = .ok code) :
    .ok code = (HMAC.createHMACShortArr S.toVccrypt key messages).map some := by
  cases hinitialized : env.initialized with
  | false => cases h.symm.trans (createHMACShortArr_uninitialized S hinitialized key messages)
  | true => exact (createHMACShortArr_follows S hinitialized key messages).eq_of_ok h

theorem createHMACShort_ok {S : CryptoSuite} {key : Option Bytes} {message : Bytes}
    {code : Option Bytes} (h : (createHMACShort env S key (some message)).outcome = .ok code) :
    .ok code = (HMAC.createHMACShort S.toVccrypt key message).map some := by
  cases hinitialized : env.initialized with
  | false => cases h.symm.trans (digestWith_uninitialized S hinitialized ..)
  | true => exact (createHMACShort_follows S hinitialized key message).eq_of_ok h

/-- In an environment where no call fails the two forms end the same way. -/
theorem createHMACShortArr_outcome {S : CryptoSuite} (hM : S.macShort.Lawful)
    (henv : ∀ c, env.fails c = false) (key : Option Bytes) (messages : List Bytes) :
    (createHMACShortArr env S key (some (messages.map some))).outcome =
      (createHMACShort env S key (some messages.flatten)).outcome := by
  cases hinitialized : env.initialized with
  | false =>
    rw [createHMACShortArr_uninitialized S hinitialized, createHMACShort, digestNative,
      digestWith_uninitialized S hinitialized]
  | true =>
    rw [(createHMACShortArr_follows S hinitialized key messages).eq_of_reliable henv,
      (createHMACShort_follows S hinitialized key messages.flatten).eq_of_reliable henv,
      HMAC.createHMACShortArr_flatten (V := S.toVccrypt) hM]

/-- **The list form agrees with the plain one.** Where no call fails both end the
same way, for every key and every list, and codes that are returned agree
wherever they are computed. So lists of the same concatenation have the same
code. -/
theorem createHMACShort_pieces {S : CryptoSuite} (hM : S.macShort.Lawful) (key : Option Bytes)
    (messages : List Bytes) :
    (∀ env : NativeEnv Call, (∀ c, env.fails c = false) →
      (createHMACShortArr env S key (some (messages.map some))).outcome =
        (createHMACShort env S key (some messages.flatten)).outcome) ∧
    (∀ (env env' : NativeEnv Call) (code code' : Option Bytes),
      (createHMACShortArr env S key (some (messages.map some))).outcome = .ok code →
      (createHMACShort env' S key (some messages.flatten)).outcome = .ok code' → code = code') ∧
    ∀ messages' : List Bytes, messages'.flatten = messages.flatten →
      ∀ env : NativeEnv Call, (∀ c, env.fails c = false) →
        (createHMACShortArr env S key (some (messages'.map some))).outcome =
          (createHMACShortArr env S key (some (messages.map some))).outcome := by
  refine ⟨fun env henv => createHMACShortArr_outcome hM henv key messages, ?_, ?_⟩
  · intro env env' code code' hcode hcode'
    have hArr := createHMACShortArr_ok hcode
    have hPlain := createHMACShort_ok hcode'
    rw [HMAC.createHMACShortArr_flatten (V := S.toVccrypt) hM] at hArr
    exact Except.ok.inj (hArr.trans hPlain.symm)
  · intro messages' hflatten env henv
    rw [createHMACShortArr_outcome hM henv, createHMACShortArr_outcome hM henv, hflatten]

/-- In the open: three messages, one of them empty, have the code of their
concatenation, and so have two. -/
theorem createHMACShort_pieces_open :
    (createHMACShort reliable XorSuite.cryptoSuite (some (zeros 32)) (some [1, 2, 3])).outcome =
        .ok (some (toBE 32 (31 * 66051 + 3))) ∧
      (createHMACShortArr reliable XorSuite.cryptoSuite (some (zeros 32))
        (some [some [1], some [], some [2, 3]])).outcome =
          .ok (some (toBE 32 (31 * 66051 + 3))) ∧
      (createHMACShortArr reliable XorSuite.cryptoSuite (some (zeros 32))
        (some [some [1, 2], some [3]])).outcome = .ok (some (toBE 32 (31 * 66051 + 3))) := by
  have hM : XorSuite.cryptoSuite.macShort.Lawful := XorSuite.macShort_lawful
  obtain ⟨hplain, -, hsame⟩ := createHMACShort_pieces hM (some (zeros 32)) [[1], [], [2, 3]]
  have hreliable : ∀ c, reliable.fails c = false := fun _ => rfl
  have hcode : (createHMACShort reliable XorSuite.cryptoSuite (some (zeros 32))
      (some [1, 2, 3])).outcome = .ok (some (toBE 32 (31 * 66051 + 3))) := by
    decide +kernel
  have hthree := (hplain reliable hreliable).trans hcode
  exact ⟨hcode, hthree, (hsame [[1, 2], [3]] rfl reliable hreliable).trans hthree⟩

end NativeHmac

end VjBlockchain
