import VjBlockchain.Cert.Recipients
import VjBlockchain.Common.History
/-!
# One vector to a value

Two values masked under one key and one vector are masked by one keystream.
An encrypted builder draws its key once, so it is the vector that has to
differ: a counter of 64 bits, taken and moved on in one expression, in front
of a native call that may throw for reasons of its own.

The builder is watched here through whole runs of a program that holds it and
goes on after exceptions. Noted are the values handed to `encryptData`, each
with its key and its vector and with what became of it, and the fields stored
by anything else. The counter counts the first kind of note and nothing else
moves it.
-/

namespace VjBlockchain

open Common Common.Bytes Common.Throwing

/-- **The vector goes in front** of a stream, whenever the suite starts one. -/
def Vccrypt.VectorInFront (V : Vccrypt) : Prop :=
  ∀ (stream stream' : V.stream.Instance) (iv header : Bytes), iv.length = 8 →
    V.stream.startEncryption stream iv = some (header, stream') → header = iv

/-- A lawful suite puts it there, and never refuses. -/
theorem Vccrypt.Lawful.vectorInFront {V : Vccrypt} (hV : V.Lawful) : V.VectorInFront := by
  intro stream stream' iv header hiv h
  obtain ⟨_, hstart, -⟩ := hV.stream.startEncryption stream iv (hiv.trans hV.streamIv.symm)
  rw [h] at hstart
  exact congrArg Prod.fst (Option.some.inj hstart)

variable {V : Vccrypt} (C : Vccert)

/-! ## Programs that hold a builder -/

namespace EncryptedCertificateBuilder

/-- `encryptData` on one occasion: what the suite makes of it, unless it throws
for want of a buffer or an array. -/
def encryptDataOn (V : Vccrypt) (broken : Option Fault) (key iv input : Bytes) :
    Except Fault Bytes :=
  match broken with
  | none => encryptData V key iv input
  | some fault => .error fault

end EncryptedCertificateBuilder

/-- A step of a program that holds a builder. -/
inductive BuilderStep
  | add (call : AddCall)
  | addEncrypted (call : EncryptedAdd) (broken : Option Fault)
  | addEncryptedSharedSecret (secret : SharedSecret)
  | emit

namespace BuilderStep

/-- The value a step hands to `encryptData`. -/
def encrypted : BuilderStep → Option EncryptedAdd
  | addEncrypted c _ => some c
  | _ => none

/-- Make the step; `emit` returns a certificate. -/
def call : BuilderStep → EStateM Fault (EncryptedCertificateBuilder V) (Option Certificate)
  | add c => do
    EncryptedCertificateBuilder.add c
    pure none
  | addEncrypted c broken => do
    c.call (EncryptedCertificateBuilder.encryptDataOn V broken)
    pure none
  | addEncryptedSharedSecret s => do
    EncryptedCertificateBuilder.addEncryptedSharedSecret C s
    pure none
  | emit => do
    let b ← get
    let cert ← Effect.lift (b.emit C)
    pure (some cert)

end BuilderStep

/-! ## What is noted -/

/-- A value that was handed to `encryptData`, and what became of it. -/
structure Encryption where
  fieldId : JInt
  secretKey : Bytes
  iv : Bytes
  value : Bytes
  result : Except Fault Bytes

/-- The field it became, unless `encryptData` threw. -/
def Encryption.stored (e : Encryption) : Option (JInt × Bytes) :=
  match e.result with
  | .ok encryptedValue => some (CertificateBuilder.shortKey e.fieldId, encryptedValue)
  | .error _ => none

/-- What is noted of a run: the encryptions, and the fields stored in the
clear. -/
inductive Note
  | encryption (e : Encryption)
  | plain (field : JInt × Bytes)

namespace Note

/-- The field a note is about. -/
def stored : Note → Option (JInt × Bytes)
  | encryption e => e.stored
  | plain field => some field

/-- The encryption a note is about. -/
def toEncryption : Note → Option Encryption
  | encryption e => some e
  | plain _ => none

end Note

/-- The encryptions of a history. -/
def encryptions (notes : List Note) : List Encryption := notes.filterMap Note.toEncryption

@[simp] theorem encryptions_concat_plain (notes : List Note) (field : JInt × Bytes) :
    encryptions (notes ++ [.plain field]) = encryptions notes := by
  simp [encryptions, Note.toEncryption]

@[simp] theorem encryptions_concat_encryption (notes : List Note) (e : Encryption) :
    encryptions (notes ++ [.encryption e]) = encryptions notes ++ [e] := by
  simp [encryptions, Note.toEncryption]

/-- The field of one more note. -/
theorem stored_concat (notes : List Note) (note : Note) :
    (notes ++ [note]).filterMap Note.stored =
      notes.filterMap Note.stored ++ note.stored.toList := by
  rw [List.filterMap_append]
  cases h : note.stored <;> simp [h]

/-- The method with a history. -/
abbrev Noted (V : Vccrypt) := EStateM Fault (EncryptedCertificateBuilder V × List Note)

namespace Noted

def add (c : AddCall) : Noted V Unit :=
  Effect.watch (EncryptedCertificateBuilder.add c) fun _ result =>
    match result with
    | .ok _ => [.plain c.stored]
    | .error _ => []

def addEncrypted (encryptData : Bytes → Bytes → Bytes → Except Fault Bytes) (fieldId : JInt)
    (value : Bytes) : Noted V Unit := do
  let b ← Effect.unwatched get
  Effect.unwatched (set { b with iv := b.iv + 1 })
  let iv := CertificateBuilder.serializeLong b.iv
  let encryptedValue ← Effect.watch (Effect.lift (encryptData b.secretKey iv value))
    fun _ result => [.encryption ⟨fieldId, b.secretKey, iv, value, result⟩]
  Effect.unwatched (EncryptedCertificateBuilder.add (.addByteArray fieldId encryptedValue))

def addEncryptedSharedSecret (s : SharedSecret) : Noted V Unit := do
  let b ← Effect.unwatched get
  let encryptedKey ← Effect.unwatched (Effect.lift (EncryptedCertificateBuilder.encryptKey V
    b.keyPair.privateKey s.publicKey b.secretKey s.wrapIv))
  let fragment ← Effect.unwatched (Effect.lift
    ((EncryptedCertificateBuilder.fragmentBuilder s.entityId encryptedKey).emit C))
  add (.addByteArray Field.VELO_ENCRYPTED_SHARED_SECRET_FRAGMENT fragment.byteArray)

def call : BuilderStep → Noted V (Option Certificate)
  | .add c => do
    add c
    pure none
  | .addEncrypted c broken => do
    addEncrypted (EncryptedCertificateBuilder.encryptDataOn V broken) c.fieldId c.serialized
    pure none
  | .addEncryptedSharedSecret s => do
    addEncryptedSharedSecret C s
    pure none
  | .emit => do
    let b ← Effect.unwatched get
    let cert ← Effect.unwatched (Effect.lift (b.emit C))
    pure (some cert)

/-- **A noted step is the step.** -/
theorem erases_call (step : BuilderStep) :
    Effect.Erases (call C step : Noted V (Option Certificate)) (step.call C) := by
  cases step with
  | add c => exact .bind (.watch _ _) fun _ => .pure _
  | addEncrypted c broken =>
    rw [BuilderStep.call, EncryptedAdd.call_eq]
    refine .bind (.bind (.unwatched _) fun b => .bind (.unwatched _) fun _ => ?_) fun _ => .pure _
    exact .bind (.watch _ _) fun _ => .unwatched _
  | addEncryptedSharedSecret s =>
    refine .bind (.bind (.unwatched _) fun b => .bind (.unwatched _) fun key => ?_) fun _ => .pure _
    exact .bind (.unwatched _) fun _ => .watch _ _
  | emit => exact .bind (.unwatched _) fun b => .bind (.unwatched _) fun _ => .pure _

end Noted

/-! ## What is in front of a masked value -/

namespace EncryptedCertificateBuilder

/-- **What `encryptData` returns begins with its vector.** -/
theorem take_encryptData (hV : V.VectorInFront) {key iv input out : Bytes} (hiv : iv.length = 8)
    (h : encryptData V key iv input = .ok out) : out.take IV_SIZE = iv := by
  obtain ⟨_, -, h⟩ := bind_eq_ok_iff.mp h
  obtain ⟨stream, -, h⟩ := bind_eq_ok_iff.mp h
  obtain ⟨fresh, -, h⟩ := bind_eq_ok_iff.mp h
  obtain ⟨_, hread, h⟩ := bind_eq_ok_iff.mp h
  obtain rfl := Option.some.inj ((Buffer.read_all hiv).symm.trans (orThrow_eq_ok_iff.mp hread))
  obtain ⟨⟨header, stream'⟩, hstart, hrest⟩ := bind_eq_ok_iff.mp h
  obtain rfl := hV stream stream' iv header hiv (orThrow_eq_ok_iff.mp hstart)
  obtain ⟨started, hheader, hbehind⟩ := bind_eq_ok_iff.mp hrest
  obtain ⟨⟨_, masked, _⟩, hencrypt, hout⟩ := bind_eq_ok_iff.mp hbehind
  cases hout
  obtain ⟨⟨mask, _⟩, -, hencrypt⟩ := bind_eq_ok_iff.mp hencrypt
  obtain ⟨_, hmasked, hresult⟩ := bind_eq_ok_iff.mp hencrypt
  cases hresult
  -- the masked value is written behind the header
  have hsize : IV_SIZE ≤ 0 + header.length := by rw [hiv, IV_SIZE]
  rw [Buffer.take_write (orThrow_eq_ok_iff.mp hmasked) hsize]
  have hfirst := Buffer.take_write_zero (orThrow_eq_ok_iff.mp hheader)
  rwa [hiv] at hfirst

/-- So it does on every occasion it returns. -/
theorem take_encryptDataOn (hV : V.VectorInFront) (broken : Option Fault)
    {key iv input out : Bytes} (hiv : iv.length = 8)
    (h : encryptDataOn V broken key iv input = .ok out) : out.take IV_SIZE = iv := by
  cases broken with
  | none => exact take_encryptData hV hiv h
  | some fault => cases h

end EncryptedCertificateBuilder

/-! ## The tally -/

/-- The vector of the `n`-th encryption. -/
def vector (n : ℕ) : Bytes := CertificateBuilder.serializeLong (BitVec.ofNat 64 n)

/-- **No vector repeats** within `2 ^ 64` encryptions. -/
theorem vector_injOn {m n : ℕ} (hm : m < 2 ^ 64) (hn : n < 2 ^ 64) (h : vector m = vector n) :
    m = n := by
  have hword : BitVec.ofNat 64 m = BitVec.ofNat 64 n := by
    rw [← ofNat_ofBE_toBE (n := 8) (by decide) (BitVec.ofNat 64 m),
      ← ofNat_ofBE_toBE (n := 8) (by decide) (BitVec.ofNat 64 n)]
    exact congrArg (fun bytes => BitVec.ofNat 64 (ofBE bytes)) h
  have hnat := congrArg BitVec.toNat hword
  rwa [BitVec.toNat_ofNat, BitVec.toNat_ofNat, Nat.mod_eq_of_lt hm, Nat.mod_eq_of_lt hn] at hnat

/-- **Builder and history agree** after `values` were handed to `encryptData`.
The counter has counted them, each went out under the builder's key and the
vector of its turn, and what the builder stores behind `fields` is what the
notes say. -/
structure Tallied (fields : List (JInt × Bytes)) (secretKey : Bytes) (values : List Bytes)
    (x : EncryptedCertificateBuilder V × List Note) : Prop where
  key : x.1.secretKey = secretKey
  stored : x.1.fields = fields ++ x.2.filterMap Note.stored
  counter : x.1.iv = BitVec.ofNat 64 values.length
  handed : (encryptions x.2).map Encryption.value = values
  keys : ∀ e ∈ encryptions x.2, e.secretKey = secretKey
  ivs : (encryptions x.2).map Encryption.iv = (List.range values.length).map vector
  front : ∀ e ∈ encryptions x.2, ∀ field, e.stored = some field → field.2.take IV_SIZE = e.iv

namespace Tallied

variable {fields : List (JInt × Bytes)} {secretKey : Bytes} {values : List Bytes}
  {b b' : EncryptedCertificateBuilder V} {notes : List Note}

/-- A field stored in the clear. -/
theorem plain (hx : Tallied fields secretKey values (b, notes)) {field : JInt × Bytes}
    (hkey : b'.secretKey = b.secretKey) (hiv : b'.iv = b.iv)
    (hfields : b'.fields = b.fields ++ [field]) :
    Tallied fields secretKey values (b', notes ++ [.plain field]) where
  key := hkey.trans hx.key
  stored := by
    have hbefore : b.fields = fields ++ notes.filterMap Note.stored := hx.stored
    rw [stored_concat, ← List.append_assoc, ← hbefore]
    exact hfields
  counter := hiv.trans hx.counter
  handed := by simpa using hx.handed
  keys := by simpa using hx.keys
  ivs := by simpa using hx.ivs
  front := by simpa using hx.front

/-- **One encryption more**, under the vector of its turn. -/
theorem encryption (hx : Tallied fields secretKey values (b, notes)) {e : Encryption}
    (hkey : b'.secretKey = b.secretKey) (hiv : b'.iv = b.iv + 1)
    (hfields : b'.fields = b.fields ++ e.stored.toList) (hekey : e.secretKey = b.secretKey)
    (heiv : e.iv = CertificateBuilder.serializeLong b.iv)
    (hefront : ∀ field, e.stored = some field → field.2.take IV_SIZE = e.iv) :
    Tallied fields secretKey (values ++ [e.value]) (b', notes ++ [.encryption e]) where
  key := hkey.trans hx.key
  stored := by
    have hbefore : b.fields = fields ++ notes.filterMap Note.stored := hx.stored
    rw [stored_concat, ← List.append_assoc, ← hbefore]
    exact hfields
  counter := by
    have hbefore : b.iv = BitVec.ofNat 64 values.length := hx.counter
    rw [List.length_append, List.length_singleton, BitVec.ofNat_add, ← hbefore]
    exact hiv
  handed := by
    rw [encryptions_concat_encryption, List.map_append, hx.handed, List.map_singleton]
  keys := by
    intro e' he'
    rw [encryptions_concat_encryption, List.mem_append, List.mem_singleton] at he'
    rcases he' with he' | rfl
    · exact hx.keys e' he'
    · exact hekey.trans hx.key
  ivs := by
    -- the counter stands at the number of values handed over
    have hlast : e.iv = vector values.length := by
      rw [heiv, vector]
      exact congrArg CertificateBuilder.serializeLong hx.counter
    rw [encryptions_concat_encryption, List.map_append, hx.ivs, List.length_append,
      List.length_singleton, List.range_succ, List.map_append, List.map_singleton,
      List.map_singleton, hlast]
  front := by
    intro e' he'
    rw [encryptions_concat_encryption, List.mem_append, List.mem_singleton] at he'
    rcases he' with he' | rfl
    · exact hx.front e' he'
    · exact hefront

end Tallied

/-! ## A run keeps the tally -/

namespace Noted

variable {fields : List (JInt × Bytes)} {secretKey : Bytes} {values : List Bytes}
  {x : EncryptedCertificateBuilder V × List Note}

/-- The method hands nothing to `encryptData` and keeps the tally. -/
def Keeps {α : Type} (fields : List (JInt × Bytes)) (secretKey : Bytes) (values : List Bytes)
    (y : Noted V α) : Prop :=
  Effect.Preserves (Tallied fields secretKey values) (fun _ => True) y

theorem keeps_get :
    Keeps fields secretKey values
      (Effect.unwatched get : Noted V (EncryptedCertificateBuilder V)) :=
  .unwatched fun _ => .get

theorem keeps_lift {α : Type} (y : Except Fault α) :
    Keeps fields secretKey values (Effect.unwatched (Effect.lift y) : Noted V α) :=
  .unwatched fun _ => .lift fun _ _ => trivial

theorem keeps_add (c : AddCall) : Keeps fields secretKey values (add c : Noted V Unit) := by
  refine .watch ?_ ?_
  · intro b _ b' notes hb h
    obtain ⟨added, hcall, rfl⟩ := EncryptedCertificateBuilder.add_eq_ok h
    exact hb.plain rfl rfl (AddCall.call_fields hcall)
  · intro b f b' notes hb h
    obtain rfl := EncryptedCertificateBuilder.add_eq_error h
    exact ⟨(List.append_nil notes).symm ▸ hb, trivial⟩

theorem keeps_addEncryptedSharedSecret (s : SharedSecret) :
    Keeps fields secretKey values (addEncryptedSharedSecret C s : Noted V Unit) :=
  .bind keeps_get fun _ => .bind (keeps_lift _) fun _ => .bind (keeps_lift _) fun _ => keeps_add _

/-- **An encrypted add takes its turn**, whether `encryptData` returns or
throws. -/
theorem tallied_addEncrypted {encryptData : Bytes → Bytes → Bytes → Except Fault Bytes}
    (hfront : ∀ key iv input out, iv.length = 8 → encryptData key iv input = .ok out →
      out.take IV_SIZE = iv)
    (fieldId : JInt) (value : Bytes) (hx : Tallied fields secretKey values x) :
    Tallied fields secretKey (values ++ [value])
      (Effect.outcome (addEncrypted encryptData fieldId value) x).2 := by
  obtain ⟨b, notes⟩ := x
  have hiv : (CertificateBuilder.serializeLong b.iv).length = 8 := length_toBE ..
  have hset : (set { b with iv := b.iv + 1 } :
      EStateM Fault (EncryptedCertificateBuilder V) PUnit) b =
        .ok ⟨⟩ { b with iv := b.iv + 1 } := rfl
  rw [addEncrypted, Effect.outcome_bind_ok (Effect.unwatched_ok (Effect.get_apply b)),
    Effect.outcome_bind_ok (Effect.unwatched_ok hset)]
  dsimp only
  cases hresult : encryptData b.secretKey (CertificateBuilder.serializeLong b.iv) value with
  | error f =>
    rw [Effect.outcome_error (Effect.bind_error (Effect.watch_error (Effect.lift_error f _)))]
    refine hx.encryption (e := ⟨fieldId, b.secretKey, _, value, .error f⟩) rfl rfl
      (List.append_nil _).symm rfl rfl fun field h => ?_
    cases h
  | ok encryptedValue =>
    -- to add an array never throws
    have hadd : EncryptedCertificateBuilder.add (.addByteArray fieldId encryptedValue)
        { b with iv := b.iv + 1 } = .ok () { b with
          toCertificateBuilder := b.toCertificateBuilder.addByteArray fieldId encryptedValue
          iv := b.iv + 1 } := rfl
    rw [Effect.outcome_bind_ok (Effect.watch_ok (Effect.lift_ok encryptedValue _)),
      Effect.outcome_ok (Effect.unwatched_ok hadd)]
    refine hx.encryption (e := ⟨fieldId, b.secretKey, _, value, .ok encryptedValue⟩) rfl rfl rfl
      rfl rfl fun field h => ?_
    cases h
    exact hfront _ _ _ _ hiv hresult

/-- **One step**: what it hands over joins what was handed over before. -/
theorem tallied_call (hV : V.VectorInFront) (step : BuilderStep)
    (hx : Tallied fields secretKey values x) :
    Tallied fields secretKey
      (values ++ (step.encrypted.map EncryptedAdd.serialized).toList)
      (Effect.outcome (call C step) x).2 := by
  have hquiet : ∀ {y : Noted V (Option Certificate)}, Keeps fields secretKey values y →
      Tallied fields secretKey (values ++ []) (Effect.outcome y x).2 := by
    intro y hy
    rw [List.append_nil]
    exact hy.outcome hx
  cases step with
  | add c => exact hquiet (.bind (keeps_add c) fun _ => .pure _)
  | addEncrypted c broken =>
    rw [call, Effect.outcome_bind_pure]
    refine tallied_addEncrypted (fun key iv input out hiv h => ?_) c.fieldId c.serialized hx
    exact EncryptedCertificateBuilder.take_encryptDataOn hV broken hiv h
  | addEncryptedSharedSecret s =>
    exact hquiet (.bind (keeps_addEncryptedSharedSecret C s) fun _ => .pure _)
  | emit =>
    exact hquiet (.bind keeps_get fun _ => .bind (keeps_lift _) fun _ => .pure _)

/-- **A whole run**, from a builder whose counter is at zero. -/
theorem tallied_run (hV : V.VectorInFront) (b : EncryptedCertificateBuilder V) (hb : b.iv = 0)
    (steps : List BuilderStep) :
    Tallied b.fields b.secretKey
      ((steps.filterMap BuilderStep.encrypted).map EncryptedAdd.serialized)
      (Effect.trace (call C) steps (b, [])).2 := by
  refine Effect.trace_induction (P := fun done x => Tallied b.fields b.secretKey
    ((done.filterMap BuilderStep.encrypted).map EncryptedAdd.serialized) x) ?_ ?_ steps
    (List.prefix_refl steps)
  · exact ⟨rfl, (List.append_nil _).symm, hb, rfl, by rintro e ⟨⟩, rfl, by rintro e ⟨⟩⟩
  · intro done step _ hdone
    have hstep := tallied_call C hV step hdone
    have hone : (step.encrypted.map EncryptedAdd.serialized).toList =
        ([step].filterMap BuilderStep.encrypted).map EncryptedAdd.serialized := by
      cases h : step.encrypted <;> simp [h]
    rwa [hone, ← List.map_append, ← List.filterMap_append] at hstep

end Noted

/-! ## Every value has its own vector -/

/-- Fields in the order of their encryptions begin with their vectors. -/
theorem fronts_sublist {es : List Encryption}
    (hfront : ∀ e ∈ es, ∀ field, e.stored = some field → field.2.take IV_SIZE = e.iv) :
    ((es.filterMap Encryption.stored).map fun field => field.2.take IV_SIZE).Sublist
      (es.map Encryption.iv) := by
  induction es with
  | nil => exact .slnil
  | cons e es ih =>
    have hrest := ih fun e' he' => hfront e' (List.mem_cons_of_mem e he')
    cases h : e.stored with
    | none =>
      rw [List.filterMap_cons_none h]
      exact hrest.cons _
    | some field =>
      rw [List.filterMap_cons_some h, List.map_cons, List.map_cons,
        hfront e List.mem_cons_self field h]
      exact hrest.cons_cons _

namespace Tallied

variable {fields : List (JInt × Bytes)} {secretKey : Bytes} {values : List Bytes}
  {x : EncryptedCertificateBuilder V × List Note}

theorem nodup_ivs (hx : Tallied fields secretKey values x) (hfew : values.length ≤ 2 ^ 64) :
    ((encryptions x.2).map Encryption.iv).Nodup := by
  rw [hx.ivs]
  refine List.Nodup.map_on (fun m hm n hn h => ?_) List.nodup_range
  exact vector_injOn ((List.mem_range.mp hm).trans_le hfew) ((List.mem_range.mp hn).trans_le hfew) h

/-- **No key and vector twice.** -/
theorem nodup_pairs (hx : Tallied fields secretKey values x) (hfew : values.length ≤ 2 ^ 64) :
    ((encryptions x.2).map fun e => (e.secretKey, e.iv)).Nodup := by
  refine List.Nodup.of_map Prod.snd ?_
  rw [List.map_map]
  exact hx.nodup_ivs hfew

theorem nodup_fronts (hx : Tallied fields secretKey values x) (hfew : values.length ≤ 2 ^ 64) :
    (((encryptions x.2).filterMap Encryption.stored).map fun field => field.2.take IV_SIZE).Nodup :=
  (hx.nodup_ivs hfew).sublist (fronts_sublist hx.front)

theorem length_iv (hx : Tallied fields secretKey values x) :
    ∀ e ∈ encryptions x.2, e.iv.length = 8 := by
  intro e he
  have hmem : e.iv ∈ (List.range values.length).map vector := hx.ivs ▸ List.mem_map_of_mem he
  obtain ⟨n, -, hn⟩ := List.mem_map.mp hmem
  rw [← hn]
  exact length_toBE ..

end Tallied

/-- **No two encrypted fields share a keystream.** Take any program that makes
a builder and runs on it fewer than `2 ^ 64` encrypted adds, in any order and
between any plain adds, shared secrets and `emit`s, whichever of them throw,
`encryptData` at will. Every encrypted add hands its value to `encryptData`
once, and no key and vector are handed over twice. The fields of the builder
are the default ones and those noted; one that was encrypted begins with the
eight octets of its vector, and no two begin alike. -/
theorem one_vector_each (hV : V.VectorInFront) (keyPair : EncryptionKeyPair V)
    (certificateType : UUID) {secretKey : Bytes} (hkey : secretKey.length = 32)
    (steps : List BuilderStep) (hfew : (steps.filterMap BuilderStep.encrypted).length < 2 ^ 64) :
    let start := EncryptedCertificateBuilder.createCertificateBuilder keyPair certificateType
      secretKey hkey
    ∃ (outcomes : List (Except Fault (Option Certificate))) (b : EncryptedCertificateBuilder V)
        (notes : List Note),
      Effect.trace (BuilderStep.call C) steps start = (outcomes, b) ∧
      Effect.trace (Noted.call C) steps (start, []) = (outcomes, b, notes) ∧
      (encryptions notes).map Encryption.value =
        (steps.filterMap BuilderStep.encrypted).map EncryptedAdd.serialized ∧
      ((encryptions notes).map fun e => (e.secretKey, e.iv)).Nodup ∧
      b.fields = start.fields ++ notes.filterMap Note.stored ∧
      (∀ e ∈ encryptions notes, e.iv.length = 8 ∧
        ∀ field, e.stored = some field → field.2.take 8 = e.iv) ∧
      (((encryptions notes).filterMap Encryption.stored).map
        fun field => field.2.take 8).Nodup := by
  intro start
  have hx := Noted.tallied_run C hV start rfl steps
  have hcount : ((steps.filterMap BuilderStep.encrypted).map EncryptedAdd.serialized).length ≤
      2 ^ 64 := by
    rw [List.length_map]
    exact hfew.le
  refine ⟨_, _, _, (Effect.Erases.trace (Noted.erases_call C) steps start []).symm, rfl, hx.handed,
    hx.nodup_pairs hcount, hx.stored, ?_, hx.nodup_fronts hcount⟩
  exact fun e he => ⟨hx.length_iv e he, hx.front e he⟩

/-- One value added three times; the second time there is no buffer for the
key. -/
def interrupted : List BuilderStep :=
  [.addEncrypted (.addEncryptedInt 0x0400 7) none,
    .addEncrypted (.addEncryptedInt 0x0400 7) (some (.illegalState "key buffer create failure.")),
    .emit,
    .add (.addInt 0x0401 7),
    .addEncryptedSharedSecret firstRecipient,
    .addEncrypted (.addEncryptedInt 0x0400 7) none]

def interruptedRun : List (Except Fault (Option Certificate)) ×
    EncryptedCertificateBuilder XorSuite.suite × List Note :=
  Effect.trace (Noted.call BufferCert.lib) interrupted (freshBuilder, [])

/-- In the open: three vectors for two fields. -/
theorem one_vector_each_interrupted :
    (encryptions interruptedRun.2.2).length = 3 ∧
      ((encryptions interruptedRun.2.2).map fun e => (e.secretKey, e.iv)).Nodup ∧
      ((encryptions interruptedRun.2.2).filterMap Encryption.stored).length = 2 ∧
      (((encryptions interruptedRun.2.2).filterMap Encryption.stored).map
        fun field => field.2.take 8).Nodup := by
  have hkey : (List.replicate 32 (9 : UInt8)).length = 32 := rfl
  obtain ⟨outcomes, b, notes, -, hrun, -, hpairs, -, -, hfronts⟩ := one_vector_each BufferCert.lib
    XorSuite.suite_lawful.vectorInFront (XorSuite.keyPair 0) ⟨0, 0⟩ hkey interrupted (by decide)
  have hinterrupted : interruptedRun = (outcomes, b, notes) := hrun
  have hthree : (encryptions interruptedRun.2.2).length = 3 := by decide +kernel
  have htwo : ((encryptions interruptedRun.2.2).filterMap Encryption.stored).length = 2 := by
    decide +kernel
  rw [hinterrupted] at hthree htwo ⊢
  exact ⟨hthree, hpairs, htwo, hfronts⟩

end VjBlockchain
