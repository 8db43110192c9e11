import VjBlockchain.Cert.FieldReader
/-!
# Reading a field twice

A field reader is made to be asked once. A conversion that succeeds has read
the field to its end, and a string that is malformed has been read up to what
is malformed; the next call starts there. It gives the answer of a fresh
reader only if it cannot tell the difference.

`readTo` is where a call leaves a fresh reader, and `Indifferent` says of a
call that it cannot tell. The calls of a sequence all answer as on a fresh
reader exactly if each later one is indifferent to each earlier one.
-/

namespace VjBlockchain

open Common Common.Bytes Common.Throwing FieldReader

/-- A call of one of the conversions. -/
inductive FieldCall
  | asByte
  | asShort
  | asInt
  | asLong
  | asUUID
  | asString
  | asDate
  | asZonedDateTime
  | asByteArray
  deriving DecidableEq, Repr

/-- What a conversion returns. -/
inductive FieldValue
  | byte (value : BitVec 8)
  | short (value : BitVec 16)
  | int (value : JInt)
  | long (value : BitVec 64)
  | uuid (value : UUID)
  | string (value : JString)
  | date (millis : BitVec 64)
  | zonedDateTime (value : Time.ZonedDateTime)
  | byteArray (value : Bytes)
  deriving DecidableEq

namespace FieldCall

/-- Make the call. -/
def run : FieldCall → FieldReader FieldValue
  | asByte => do pure (.byte (← FieldReader.asByte))
  | asShort => do pure (.short (← FieldReader.asShort))
  | asInt => do pure (.int (← FieldReader.asInt))
  | asLong => do pure (.long (← FieldReader.asLong))
  | asUUID => do pure (.uuid (← FieldReader.asUUID))
  | asString => do pure (.string (← FieldReader.asString))
  | asDate => do pure (.date (← FieldReader.asDate))
  | asZonedDateTime => do pure (.zonedDateTime (← FieldReader.asZonedDateTime))
  | asByteArray => do pure (.byteArray (← FieldReader.asByteArray))

/-- The width of the fields a conversion takes. -/
def width : FieldCall → Option ℕ
  | asByte => some 1
  | asShort => some 2
  | asInt => some 4
  | asLong => some 8
  | asUUID => some 16
  | asDate => some 8
  | asZonedDateTime => some 12
  | asString => none
  | asByteArray => none

end FieldCall

/-- How much of a field is well-formed text. -/
def stringEnd (value : Bytes) : ℕ := value.length - (utf8Format.walk value).2.length

/-- **Where a call leaves a fresh reader.** -/
def readTo (value : Bytes) : FieldCall → ℕ
  | .asString => stringEnd value
  | .asZonedDateTime => 0
  | .asByteArray => 0
  | c => if c.width = some value.length then value.length else 0

/-- **The call cannot tell** a reader at `p` from a fresh one. -/
def Indifferent (value : Bytes) (p : ℕ) : FieldCall → Prop
  | .asByteArray => True
  | .asString => p < value.length
  | c => c.width ≠ some value.length ∧ c.width ≠ some (value.length - p)

/-- The first call does not disturb the second. -/
def Harmless (value : Bytes) (c d : FieldCall) : Prop :=
  readTo value c = 0 ∨ Indifferent value (readTo value c) d

/-- A position that some call leaves a fresh reader at, other than the start. -/
structure Stop (value : Bytes) (p : ℕ) : Prop where
  pos : 0 < p
  reached : p = value.length ∨ p < value.length ∧ p = stringEnd value

/-! ## Three kinds of calls -/

namespace FieldReader

variable {α β : Type}

/-- What is done with the value of a conversion belongs to its decoding. -/
theorem fixedWidth_bind_pure (n : ℕ) (message : String) (decoding : Bytes → α) (f : α → β) :
    (fixedWidth n message decoding >>= fun a => pure (f a)) =
      fixedWidth n message fun octets => f (decoding octets) := by
  funext r
  by_cases h : r.remaining = n
  · rw [fixedWidth_ok h, Effect.bind_ok (fixedWidth_ok h message decoding)]
    rfl
  · rw [fixedWidth_error h, Effect.bind_error (fixedWidth_error h message decoding)]

/-- No point in time is refused as a field. -/
theorem ofInstant_ne (timeEpochSeconds : BitVec 64) (timeOffset : BitVec 32) (message : String) :
    ofInstant timeEpochSeconds timeOffset ≠ .error (.java .fieldConversionException message) := by
  intro h
  obtain ⟨-, z, hok⟩ | ⟨-, _, herror⟩ := ofInstant_cases timeEpochSeconds timeOffset
  · cases h.symm.trans hok
  · cases h.symm.trans herror

theorem map_eq_error {ε : Type} {x : Except ε α} {f : α → β} {e : ε} (h : x.map f = .error e) :
    x = .error e := by
  cases x with
  | ok a => cases h
  | error e' => exact congrArg Except.error (Except.error.inj h)

/-- Text that is not empty is no empty string. -/
theorem map_fresh_asString_ne {value : Bytes} (h : value.length ≠ 0) :
    (Effect.outcome asString (.new value)).1.map FieldValue.string ≠ .ok (.string []) := by
  intro hmap
  by_cases hwalk : (utf8Format.walk value).2 = []
  · rw [Effect.outcome_ok (asString_ok (r := .new value) h hwalk)] at hmap
    have hnil : utf16All (utf8Format.walk value).1 = [] :=
      FieldValue.string.inj (Except.ok.inj hmap)
    have hsplit := utf8Format.writeAll_walk value
    cases hchars : (utf8Format.walk value).1 with
    | nil =>
      rw [hchars, hwalk, ItemFormat.writeAll_nil, List.append_nil] at hsplit
      exact h (congrArg List.length hsplit.symm)
    | cons c cs =>
      rw [hchars, utf16All, List.map_cons, List.flatten_cons] at hnil
      exact utf16_ne_nil c (List.append_eq_nil_iff.mp hnil).1
  · rw [Effect.outcome_error (asString_error (r := .new value) h hwalk)] at hmap
    cases hmap

end FieldReader

/-- **Kinds of calls**: a conversion of one width, a string, a date with an
offset, the array. -/
inductive FieldCall.Kind (c : FieldCall) : Prop
  | fixed {n : ℕ} {message : String} {decoding : Bytes → FieldValue} (pos : 0 < n)
    (run : c.run = fixedWidth n message decoding)
    (readTo : ∀ value, readTo value c = if value.length = n then value.length else 0)
    (indifferent : ∀ value p,
      Indifferent value p c ↔ value.length ≠ n ∧ value.length - p ≠ n)
  | string (h : c = .asString)
  | dateTime (h : c = .asZonedDateTime)
  | array (h : c = .asByteArray)

theorem FieldCall.kind (c : FieldCall) : c.Kind := by
  have hread : ∀ {c : FieldCall} {n : ℕ}, c.width = some n → ∀ value : Bytes,
      (if c.width = some value.length then value.length else 0) =
        if value.length = n then value.length else 0 := by
    intro c n hc value
    simp only [hc, Option.some_inj, eq_comm]
  have htell : ∀ {c : FieldCall} {n : ℕ}, c.width = some n → ∀ (value : Bytes) (p : ℕ),
      (c.width ≠ some value.length ∧ c.width ≠ some (value.length - p)) ↔
        value.length ≠ n ∧ value.length - p ≠ n := by
    intro c n hc value p
    simp only [hc, ne_eq, Option.some_inj, eq_comm]
  cases c with
  | asString => exact .string rfl
  | asZonedDateTime => exact .dateTime rfl
  | asByteArray => exact .array rfl
  | asUUID =>
    have hrun : run asUUID = fixedWidth 16 "Field cannot be converted to a UUID."
        fun octets => .uuid (UuidUtil.halves octets) := by
      rw [run, asUUID_eq_fixedWidth]
      exact fixedWidth_bind_pure ..
    exact .fixed (by decide) hrun (hread (c := asUUID) rfl) (htell (c := asUUID) rfl)
  | asByte =>
    exact .fixed (by decide) (fixedWidth_bind_pure ..) (hread (c := asByte) rfl)
      (htell (c := asByte) rfl)
  | asShort =>
    exact .fixed (by decide) (fixedWidth_bind_pure ..) (hread (c := asShort) rfl)
      (htell (c := asShort) rfl)
  | asInt =>
    exact .fixed (by decide) (fixedWidth_bind_pure ..) (hread (c := asInt) rfl)
      (htell (c := asInt) rfl)
  | asLong =>
    exact .fixed (by decide) (fixedWidth_bind_pure ..) (hread (c := asLong) rfl)
      (htell (c := asLong) rfl)
  | asDate =>
    exact .fixed (by decide) (fixedWidth_bind_pure ..) (hread (c := asDate) rfl)
      (htell (c := asDate) rfl)

/-! ## Where a reader stands -/

section

variable {value : Bytes} {p : ℕ}

theorem stringEnd_le : stringEnd value ≤ value.length := Nat.sub_le ..

/-- The leftover of a field's text is what is behind its end. -/
theorem drop_stringEnd : value.drop (stringEnd value) = (utf8Format.walk value).2 := by
  have hsplit := utf8Format.writeAll_walk value
  have hlen := congrArg List.length hsplit
  rw [List.length_append] at hlen
  have hend : (utf8Format.writeAll (utf8Format.walk value).1).length = stringEnd value := by
    unfold stringEnd
    omega
  calc value.drop (stringEnd value)
      = (utf8Format.writeAll (utf8Format.walk value).1 ++ (utf8Format.walk value).2).drop
          (stringEnd value) := by rw [hsplit]
    _ = (utf8Format.walk value).2 := List.drop_left' hend

/-- A field is text to its end, or there is something malformed in it. -/
theorem stringEnd_eq_length_iff :
    stringEnd value = value.length ↔ (utf8Format.walk value).2 = [] := by
  have hle := ItemFormat.length_leftover_le (F := utf8Format) value
  rw [← List.length_eq_zero_iff, stringEnd]
  omega

theorem remaining_eq : (⟨value, p⟩ : CertificateFieldReader).remaining = value.length - p := rfl

/-- **Where a call leaves a fresh reader** is where `readTo` says. -/
theorem outcome_new_snd (value : Bytes) (c : FieldCall) :
    (Effect.outcome c.run (.new value)).2 = ⟨value, readTo value c⟩ := by
  cases c.kind with
  | @fixed n message decoding _ hrun hread _ =>
    rw [hrun, hread]
    by_cases h : value.length = n
    · rw [Effect.outcome_ok (fixedWidth_ok (r := .new value) h message decoding), if_pos h, ← h]
      exact congrArg (CertificateFieldReader.mk value) (Nat.zero_add _)
    · rw [Effect.outcome_error (fixedWidth_error (r := .new value) h message decoding), if_neg h]
      rfl
  | string h =>
    subst h
    rw [FieldCall.run, Effect.outcome_bind_pure]
    by_cases hempty : value.length = 0
    · rw [Effect.outcome_ok (asString_empty (r := .new value) hempty)]
      obtain rfl := List.length_eq_zero_iff.mp hempty
      rfl
    · by_cases hwalk : (utf8Format.walk value).2 = []
      · rw [Effect.outcome_ok (asString_ok (r := .new value) hempty hwalk)]
        exact congrArg (CertificateFieldReader.mk value) (stringEnd_eq_length_iff.mpr hwalk).symm
      · rw [Effect.outcome_error (asString_error (r := .new value) hempty hwalk)]
        rfl
  | dateTime h =>
    subst h
    rw [FieldCall.run, Effect.outcome_bind_pure]
    by_cases hlen : value.length = 12
    · rw [outcome_asZonedDateTime (r := .new value) hlen]
      rfl
    · rw [Effect.outcome_error (asZonedDateTime_error (r := .new value) hlen)]
      rfl
  | array h =>
    subst h
    rfl

/-- **An answer from further on**: at `p` the conversion answers as on a fresh
reader exactly under the condition, and then it does not move. -/
structure AnswersAt {α : Type} (value : Bytes) (p : ℕ) (conversion : FieldReader α)
    (condition : Prop) : Prop where
  same_iff : (Effect.outcome conversion ⟨value, p⟩).1 = fresh conversion value ↔ condition
  stays : condition → (Effect.outcome conversion ⟨value, p⟩).2 = ⟨value, p⟩

/-- A conversion of one width refuses both the field and the rest of it. -/
theorem fixedWidth_answersAt {α : Type} (hp : 0 < p) (hle : p ≤ value.length) (n : ℕ)
    (message : String) (decoding : Bytes → α) :
    AnswersAt value p (fixedWidth n message decoding)
      (value.length ≠ n ∧ value.length - p ≠ n) := by
  by_cases h : value.length - p = n
  · have hok := Effect.outcome_ok (fixedWidth_ok (r := ⟨value, p⟩) h message decoding)
    refine ⟨⟨fun hsame => ?_, fun hne => absurd h hne.2⟩, fun hne => absurd h hne.2⟩
    rw [hok, fresh_fixedWidth_error (by omega)] at hsame
    cases hsame
  · have herror := Effect.outcome_error (fixedWidth_error (r := ⟨value, p⟩) h message decoding)
    refine ⟨⟨fun hsame => ⟨fun hwhole => ?_, h⟩, fun hne => ?_⟩, fun _ => by rw [herror]⟩
    · rw [herror, fresh_fixedWidth hwhole] at hsame
      cases hsame
    · rw [herror, fresh_fixedWidth_error hne.1]

/-- Text is read the same way only in front of what is malformed. -/
theorem asString_answersAt (hp : Stop value p) :
    AnswersAt value p (FieldCall.run .asString) (p < value.length) := by
  have hpos := hp.pos
  rcases hp.reached with rfl | ⟨hlt, hend⟩
  · -- at the end, the empty string
    have hempty := Effect.outcome_ok (asString_empty (r := ⟨value, value.length⟩)
      (Nat.sub_self _))
    refine ⟨⟨fun hsame => ?_, fun h => absurd h (lt_irrefl _)⟩, fun h => absurd h (lt_irrefl _)⟩
    rw [fresh, FieldCall.run, Effect.outcome_bind_pure, Effect.outcome_bind_pure, hempty] at hsame
    exact absurd hsame.symm (map_fresh_asString_ne hpos.ne')
  · -- in front of what is malformed, the same exception again
    have hleft : (utf8Format.walk value).2 ≠ [] := by
      intro hnil
      have := stringEnd_eq_length_iff.mpr hnil
      omega
    have hdrop : value.drop p = (utf8Format.walk value).2 := by rw [hend, drop_stringEnd]
    have hagain : (utf8Format.walk (value.drop p)).2 = (utf8Format.walk value).2 := by
      rw [hdrop, ItemFormat.walk_none (ItemFormat.next_leftover value)]
    have hstays : value.length - (utf8Format.walk (value.drop p)).2.length = p := by
      rw [hagain, hend]
      rfl
    have herror := Effect.outcome_error (asString_error (r := ⟨value, p⟩)
      (by rw [remaining_eq]; omega) (hagain.trans_ne hleft))
    have hfresh := Effect.outcome_error (asString_error (r := .new value)
      (by show value.length - 0 ≠ 0; omega) hleft)
    refine ⟨iff_of_true ?_ hlt, fun _ => ?_⟩
    · rw [fresh, FieldCall.run, Effect.outcome_bind_pure, Effect.outcome_bind_pure, herror, hfresh]
    · rw [FieldCall.run, Effect.outcome_bind_pure, herror]
      exact congrArg (CertificateFieldReader.mk value) hstays

/-- A date with an offset refuses both the field and the rest of it: what it
makes of twelve octets is never the exception for another size. -/
theorem asZonedDateTime_answersAt (hp : 0 < p) (hle : p ≤ value.length) :
    AnswersAt value p (FieldCall.run .asZonedDateTime)
      (value.length ≠ 12 ∧ value.length - p ≠ 12) := by
  have hne : ∀ (r : CertificateFieldReader) (message : String), r.remaining = 12 →
      (Effect.outcome (FieldCall.run .asZonedDateTime) r).1 ≠
        .error (.java .fieldConversionException message) := by
    intro r message hr h
    rw [FieldCall.run, Effect.outcome_bind_pure, outcome_asZonedDateTime hr] at h
    exact ofInstant_ne _ _ _ (map_eq_error h)
  have herror : ∀ r : CertificateFieldReader, r.remaining ≠ 12 →
      Effect.outcome (FieldCall.run .asZonedDateTime) r =
        (.error (.java .fieldConversionException
          "Field cannot be converted to a ZonedDateTime."), r) := by
    intro r hr
    rw [FieldCall.run, Effect.outcome_bind_pure, Effect.outcome_error (asZonedDateTime_error hr)]
    rfl
  by_cases h : value.length - p = 12
  · have hother : value.length ≠ 12 := by omega
    refine ⟨⟨fun hsame => ?_, fun hne => absurd h hne.2⟩, fun hne => absurd h hne.2⟩
    rw [fresh, herror (.new value) hother] at hsame
    exact absurd hsame (hne ⟨value, p⟩ _ h)
  · have hrest := herror ⟨value, p⟩ h
    refine ⟨⟨fun hsame => ⟨fun hwhole => ?_, h⟩, fun hother => ?_⟩, fun _ => by rw [hrest]⟩
    · rw [hrest] at hsame
      exact hne (.new value) _ hwhole hsame.symm
    · rw [fresh, hrest, herror (.new value) hother.1]

/-- **Every call answers at a stop** as on a fresh reader exactly if it is
indifferent. -/
theorem answersAt_stop (hp : Stop value p) (c : FieldCall) :
    AnswersAt value p c.run (Indifferent value p c) := by
  have hle : p ≤ value.length := by
    rcases hp.reached with rfl | ⟨hlt, -⟩
    · exact le_rfl
    · exact hlt.le
  cases c.kind with
  | @fixed n message decoding _ hrun _ htell =>
    rw [htell, hrun]
    exact fixedWidth_answersAt hp.pos hle n message decoding
  | string h =>
    subst h
    exact asString_answersAt hp
  | dateTime h =>
    subst h
    have htell : Indifferent value p .asZonedDateTime ↔
        value.length ≠ 12 ∧ value.length - p ≠ 12 := by
      simp only [Indifferent, FieldCall.width, ne_eq, Option.some_inj, eq_comm]
    rw [htell]
    exact asZonedDateTime_answersAt hp.pos hle
  | array h =>
    subst h
    exact ⟨iff_of_true rfl trivial, fun _ => rfl⟩

/-- Where a call that moves leaves a fresh reader. -/
theorem stop_readTo {c : FieldCall} (h : readTo value c ≠ 0) : Stop value (readTo value c) := by
  refine ⟨Nat.pos_of_ne_zero h, ?_⟩
  cases c.kind with
  | @fixed n _ _ _ _ hread _ =>
    rw [hread] at h ⊢
    split at h
    · rename_i hlen
      rw [if_pos hlen]
      exact .inl rfl
    · exact absurd rfl h
  | string hc =>
    subst hc
    rcases Nat.lt_or_ge (stringEnd value) value.length with hlt | hge
    · exact .inr ⟨hlt, rfl⟩
    · exact .inl (Nat.le_antisymm stringEnd_le hge)
  | dateTime hc =>
    subst hc
    exact absurd rfl h
  | array hc =>
    subst hc
    exact absurd rfl h

/-- A call that is indifferent to a stop would not go anywhere else. -/
theorem readTo_eq_of_indifferent (hp : Stop value p) {c : FieldCall}
    (hc : Indifferent value p c) (h : readTo value c ≠ 0) : readTo value c = p := by
  cases c.kind with
  | @fixed n _ _ _ _ hread htell =>
    have hother := ((htell value p).mp hc).1
    rw [hread, if_neg hother] at h
    exact absurd rfl h
  | string hs =>
    subst hs
    rcases hp.reached with rfl | ⟨-, hend⟩
    · exact absurd hc (lt_irrefl _)
    · exact hend.symm
  | dateTime hc =>
    subst hc
    exact absurd rfl h
  | array hc =>
    subst hc
    exact absurd rfl h

/-! ## Sequences of calls -/

/-- **From a stop on**, all calls answer as on a fresh reader exactly if all are
indifferent to it. -/
theorem trace_stop_iff (hp : Stop value p) (calls : List FieldCall) :
    (Effect.trace FieldCall.run calls ⟨value, p⟩).1 = calls.map (fun c => fresh c.run value) ↔
      ∀ c ∈ calls, Indifferent value p c := by
  induction calls with
  | nil => simp
  | cons c cs ih =>
    obtain ⟨hsame, hstays⟩ := answersAt_stop hp c
    rw [Effect.trace_cons, List.map_cons, List.cons_eq_cons, hsame, List.forall_mem_cons]
    refine and_congr_right fun hc => ?_
    rw [hstays hc, ih]

/-- Calls that are all indifferent to one stop are harmless to each other. -/
theorem pairwise_of_indifferent (hp : Stop value p) {calls : List FieldCall}
    (h : ∀ c ∈ calls, Indifferent value p c) : calls.Pairwise (Harmless value) := by
  refine List.pairwise_of_forall_mem_list fun c hc d hd => ?_
  by_cases hmoves : readTo value c = 0
  · exact .inl hmoves
  · rw [Harmless, readTo_eq_of_indifferent hp (h c hc) hmoves]
    exact .inr (h d hd)

/-- **When a field can be read again.** In a sequence of calls on one reader
each has the outcome it has on a fresh reader if and only if no earlier call
disturbs a later one. -/
theorem reread_iff (value : Bytes) (calls : List FieldCall) :
    (Effect.trace FieldCall.run calls (.new value)).1 = calls.map (fun c => fresh c.run value) ↔
      calls.Pairwise (Harmless value) := by
  induction calls with
  | nil => simp
  | cons c cs ih =>
    have hstate := outcome_new_snd value c
    rw [Effect.trace_cons, List.map_cons, List.cons_eq_cons, fresh, eq_self_iff_true, true_and,
      List.pairwise_cons, hstate]
    by_cases hmoves : readTo value c = 0
    · have hharmless : ∀ d ∈ cs, Harmless value c d := fun _ _ => .inl hmoves
      rw [hmoves, and_iff_right hharmless]
      exact ih
    · have hstop := stop_readTo hmoves
      rw [trace_stop_iff hstop]
      have hlater : (∀ d ∈ cs, Harmless value c d) ↔
          ∀ d ∈ cs, Indifferent value (readTo value c) d :=
        forall₂_congr fun d _ => or_iff_right hmoves
      rw [hlater]
      exact ⟨fun h => ⟨h, pairwise_of_indifferent hstop h⟩, fun h => h.1⟩

end

/-- **A second reading fails.** One octet is a byte, and then it is not. -/
theorem not_reread :
    (Effect.trace FieldCall.run [.asByte, .asByte] (.new [7])).1 =
        [.ok (.byte 7), .error (.java .fieldConversionException
          "Field cannot be converted to a byte.")] ∧
      fresh FieldCall.asByte.run [7] = .ok (.byte 7) := by
  refine ⟨?_, ?_⟩ <;> decide +kernel

end VjBlockchain
