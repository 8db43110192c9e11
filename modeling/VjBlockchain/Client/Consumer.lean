import VjBlockchain.Agentd.Invariants
import VjBlockchain.Cert.FieldReader
import VjBlockchain.Common.Follow
import VjBlockchain.Common.Simulation
/-!
# The consumer of a chain

The example client that reads a blockchain: it asks for the block behind the
one it read last, reads that block and the transactions wrapped in it, and
prints a line for each. When there is no next block yet it sleeps and asks
again; only an exception ends it. (Its `run`, which would make the connection,
is commented out in the source; `readCerts` takes any connection.)

The connection is a parameter with two of its methods. The simplest one is a
`ledger`, which answers out of a chain that may grow between any two calls.
Over a ledger the consumer reads every block once and in order, and stops for
good at the first one that is no certificate.
-/

namespace VjBlockchain

open Common Common.Bytes Common.Throwing

/-! ## The program -/

/-- What the consumer uses of a connection. -/
structure VelochainConnection (σ : Type) where
  getNextBlockId : UUID → EStateM Fault σ (Option UUID)
  getBlockById : UUID → EStateM Fault σ (Option Certificate)

/-- `CertificateType.ROOT_BLOCK`. -/
def ROOT_BLOCK : UUID := ⟨0xa231383da63d4743, 0x86aa61fb03a38f39⟩

def Field.WRAPPED_TRANSACTION_TUPLE : JInt := 0x0084

/-- The string of a literal. -/
def JString.ofString (s : String) : JString := utf16All (s.toList.map Char.toNat)

/-- A method of the consumer: a connection's state, and the lines printed. -/
abbrev Consumer (σ : Type) := EStateM Fault (σ × List JString)

namespace Consumer

variable {σ : Type} (conn : VelochainConnection σ) (C : Vccert)

/-- `System.out.println`. -/
def println (line : JString) : Consumer σ Unit :=
  modify fun s => (s.1, s.2 ++ [line])

/-- The line of a transaction: its identifier and its message. -/
def transactionLine (transaction : Bytes) : Except Fault JString := do
  let reader ← CertificateReader.new C (.new ⟨transaction⟩)
  let transactionId ← (← reader.getFirst Field.CERTIFICATE_ID).asUUID
  let message ← (Effect.outcome FieldReader.asString (← reader.getFirst 0x0401)).1
  .ok (.ofString (transactionId.toString ++ ": ") ++ message)

/-- Whatever is thrown is caught; memory is no exception. -/
def readTransaction (transaction : Bytes) : Consumer σ Unit :=
  match transactionLine C transaction with
  | .ok line => println line
  | .error (.thrown _) => println (.ofString "Could not parse transaction.")
  | .error .outOfBounds => throw .outOfBounds

/-- The `i`-th transaction of a block. -/
def readWrapped (reader : CertificateReader) (i : ℕ) : Consumer σ Unit :=
  match reader.get Field.WRAPPED_TRANSACTION_TUPLE i with
  | .ok field => readTransaction C field.asByteArray
  | .error (.thrown ⟨.missingFieldException, _⟩) =>
    println (.ofString ("Missing transaction " ++ toString i))
  | .error f => throw f

/-- The loop over the transactions, from the `i`-th on. -/
def readTransactions (reader : CertificateReader) : ℕ → ℕ → Consumer σ Unit
  | _, 0 => pure ()
  | i, n + 1 => do
    readWrapped C reader i
    readTransactions reader (i + 1) n

def readBlock (blockId : UUID) : Consumer σ Unit := do
  match ← Effect.unwatched (conn.getBlockById blockId) with
  | none => throw (.java .ioException ("Could not read block " ++ blockId.toString))
  | some cert =>
    let reader ← Effect.lift (CertificateReader.new C (.new cert))
    readTransactions C reader 0 (reader.count Field.WRAPPED_TRANSACTION_TUPLE)

/-- One turn of the endless loop: the block reached when it ends. -/
def poll (lastBlockId : UUID) : Consumer σ UUID := do
  match ← Effect.unwatched (conn.getNextBlockId lastBlockId) with
  | some nextBlockId => do
    readBlock conn C nextBlockId
    pure nextBlockId
  | none => pure lastBlockId

/-- `readCerts`, for its first `n` turns. -/
def readCerts : ℕ → UUID → Consumer σ UUID
  | 0, lastBlockId => pure lastBlockId
  | n + 1, lastBlockId => do
    let lastBlockId ← poll conn C lastBlockId
    readCerts n lastBlockId

end Consumer

/-! ## What is printed of a block -/

/-- A block of a chain. -/
structure Block where
  id : UUID
  certificate : Certificate
  deriving DecidableEq, Repr

namespace Consumer

variable {σ : Type} {conn : VelochainConnection σ} {C : Vccert}

/-- What is printed for a transaction. -/
def lineOf (C : Vccert) (transaction : Bytes) : JString :=
  match transactionLine C transaction with
  | .ok line => line
  | .error _ => .ofString "Could not parse transaction."

/-- What is printed for a block: a line for each transaction wrapped in it, if
it is a certificate. -/
def linesOf (C : Vccert) (b : Block) : Except Fault (List JString) := do
  let reader ← CertificateReader.new C (.new b.certificate)
  .ok (((reader.certFields Field.WRAPPED_TRANSACTION_TUPLE).getD []).map (lineOf C))

/-- What is printed for some blocks, up to the first that is no certificate. -/
def print (C : Vccert) (blocks : List Block) : List JString :=
  (blocks.map fun b => (linesOf C b).toOption.getD []).flatten

theorem asString_inBounds (r : CertificateFieldReader) :
    InBounds (Effect.outcome FieldReader.asString r).1 := by
  by_cases hempty : r.remaining = 0
  · rw [Effect.outcome_ok (FieldReader.asString_empty hempty)]
    exact .ok _
  · by_cases hwalk : (utf8Format.walk (r.array.drop r.position)).2 = []
    · rw [Effect.outcome_ok (FieldReader.asString_ok hempty hwalk)]
      exact .ok _
    · rw [Effect.outcome_error (FieldReader.asString_error hempty hwalk)]
      exact ⟨fun h => by cases h⟩

theorem certificateReader_inBounds (C : Vccert) (parser : CertificateParser) :
    InBounds (CertificateReader.new C parser) := .bind (parse_inBounds ..) fun _ _ => .ok _

theorem transactionLine_inBounds (transaction : Bytes) :
    InBounds (transactionLine C transaction) :=
  .bind (certificateReader_inBounds ..) fun _ _ =>
    .bind (get_inBounds ..) fun id _ => .bind (asUUID_inBounds id) fun _ _ =>
      .bind (get_inBounds ..) fun field _ => .bind (asString_inBounds field) fun _ _ => .ok _

/-- **Every transaction gets its line**, be it that it cannot be read. -/
theorem readTransaction_eq (transaction : Bytes) (s : σ × List JString) :
    readTransaction C transaction s = .ok () (s.1, s.2 ++ [lineOf C transaction]) := by
  unfold readTransaction lineOf
  cases h : transactionLine C transaction with
  | ok line => rfl
  | error f =>
    obtain ⟨e, rfl⟩ := (transactionLine_inBounds transaction).thrown h
    rfl

/-- The loop prints the lines of the transactions left; none is missing. -/
theorem readTransactions_eq {reader : CertificateReader} {values left : List Bytes}
    (hvalues : reader.certFields Field.WRAPPED_TRANSACTION_TUPLE = some values) (done : List Bytes)
    (hsplit : values = done ++ left) (s : σ × List JString) :
    readTransactions C reader done.length left.length s =
      .ok () (s.1, s.2 ++ left.map (lineOf C)) := by
  induction left generalizing done s with
  | nil =>
    rw [List.map_nil, List.append_nil]
    rfl
  | cons transaction left ih =>
    have hget : reader.get Field.WRAPPED_TRANSACTION_TUPLE done.length =
        .ok (.new transaction) := by
      simp [CertificateReader.get, hvalues, hsplit]
    have hwrapped : readWrapped C reader done.length s =
        .ok () (s.1, s.2 ++ [lineOf C transaction]) := by
      rw [readWrapped, hget]
      exact readTransaction_eq transaction s
    have hrest := ih (done ++ [transaction]) (by simp [hsplit])
      (s.1, s.2 ++ [lineOf C transaction])
    rw [List.length_append] at hrest
    refine (Effect.bind_ok hwrapped).trans (hrest.trans ?_)
    simp

/-- **A block is printed in whole**: the loop runs over all its transactions. -/
theorem readTransactions_all (reader : CertificateReader) (s : σ × List JString) :
    readTransactions C reader 0 (reader.count Field.WRAPPED_TRANSACTION_TUPLE) s = .ok () (s.1,
      s.2 ++ ((reader.certFields Field.WRAPPED_TRANSACTION_TUPLE).getD []).map (lineOf C)) := by
  cases hvalues : reader.certFields Field.WRAPPED_TRANSACTION_TUPLE with
  | none =>
    rw [CertificateReader.count, hvalues, Option.getD_none, List.map_nil, List.append_nil]
    rfl
  | some values =>
    have hall := readTransactions_eq (C := C) hvalues [] rfl s
    rw [CertificateReader.count, hvalues]
    exact hall

end Consumer

/-! ## A chain, and a connection that answers out of it -/

/-- **A chain**: blocks behind the root block, no two alike. -/
structure Chain where
  blocks : List Block
  nodup : (ROOT_BLOCK :: blocks.map Block.id).Nodup

namespace Chain

variable (c : Chain)

/-- The identifiers of its blocks behind that of the root. -/
def ids : List UUID := ROOT_BLOCK :: c.blocks.map Block.id

/-- The block behind a block. -/
def nextId (blockId : UUID) : Option UUID := after blockId c.ids

/-- The certificate of a block. -/
def certificate (blockId : UUID) : Option Certificate :=
  (c.blocks.find? fun b => b.id = blockId).map Block.certificate

variable {c}

/-- What comes behind the `n`-th block, the root being the first. -/
theorem nextId_eq {n : ℕ} {u : UUID} (h : c.ids[n]? = some u) :
    c.nextId u = c.blocks[n]?.map Block.id := by
  have hnext : c.ids[n + 1]? = c.blocks[n]?.map Block.id := List.getElem?_map ..
  exact (after_eq c.nodup h).trans hnext

theorem certificate_eq {b : Block} (h : b ∈ c.blocks) :
    c.certificate b.id = some b.certificate := by
  obtain ⟨front, rest, hsplit⟩ := List.append_of_mem h
  have hnodup := (List.nodup_cons.mp c.nodup).2
  rw [hsplit, List.map_append, List.map_cons] at hnodup
  have hfind : c.blocks.find? (fun b' => b'.id = b.id) = some b := by
    refine List.find?_eq_some_iff_append.mpr ⟨by simp, front, rest, hsplit, fun a ha => ?_⟩
    have hne : a.id ≠ b.id :=
      (List.nodup_append.mp hnodup).2.2 _ (List.mem_map_of_mem ha) _ List.mem_cons_self
    simpa using hne
  rw [certificate, hfind]
  rfl

end Chain

/-- A connection that answers out of a chain, which may grow with every
request. Its state are the requests made. -/
def ledger (chain : List Request → Chain) : VelochainConnection (List Request) where
  getNextBlockId blockId served :=
    .ok ((chain served).nextId blockId) (served ++ [.getNextBlockId blockId])
  getBlockById blockId served :=
    .ok ((chain served).certificate blockId) (served ++ [.getBlockById blockId])

/-- Blocks are only ever added at the end. -/
def Grows (chain : List Request → Chain) : Prop :=
  ∀ served r, (chain served).blocks <+: (chain (served ++ [r])).blocks

namespace Consumer

variable {C : Vccert}

/-- **The consumer stands behind the `k`-th block**: it has reached that block
and printed what there is to print of the first `k`. -/
structure Reached (C : Vccert) (c : Chain) (k : ℕ) (lastBlockId : UUID) (out : List JString) :
    Prop where
  last : c.ids[k]? = some lastBlockId
  readable : ∀ b ∈ c.blocks.take k, ∃ lines, linesOf C b = .ok lines
  printed : out = print C (c.blocks.take k)

/-- It starts at the root. -/
theorem Reached.root (c : Chain) : Reached C c 0 ROOT_BLOCK [] :=
  ⟨rfl, fun _ hb => absurd hb List.not_mem_nil, rfl⟩

theorem Reached.le {c : Chain} {k : ℕ} {u : UUID} {out : List JString} (h : Reached C c k u out) :
    k ≤ c.blocks.length := by
  have hlt := (List.getElem?_eq_some_iff.mp h.last).1
  rw [Chain.ids, List.length_cons, List.length_map] at hlt
  omega

/-- It stands there in a longer chain as well. -/
theorem Reached.grow {c c' : Chain} {k : ℕ} {u : UUID} {out : List JString}
    (h : Reached C c k u out) (hgrow : c.blocks <+: c'.blocks) : Reached C c' k u out := by
  obtain ⟨more, hmore⟩ := hgrow
  have htake : c'.blocks.take k = c.blocks.take k := by
    rw [← hmore, List.take_append_of_le_length h.le]
  have hids : c'.ids = c.ids ++ more.map Block.id := by
    rw [Chain.ids, ← hmore, List.map_append]
    rfl
  refine ⟨?_, htake ▸ h.readable, htake ▸ h.printed⟩
  rw [hids, List.getElem?_append_left (List.getElem?_eq_some_iff.mp h.last).1]
  exact h.last

/-- One block further. -/
theorem Reached.next {c : Chain} {k : ℕ} {u : UUID} {out lines : List JString} {b : Block}
    (h : Reached C c k u out) (hb : c.blocks[k]? = some b) (hlines : linesOf C b = .ok lines) :
    Reached C c (k + 1) b.id (out ++ lines) := by
  have htake : c.blocks.take (k + 1) = c.blocks.take k ++ [b] := by
    rw [List.take_add_one, hb, Option.toList_some]
  refine ⟨?_, ?_, ?_⟩
  · rw [Chain.ids, List.getElem?_cons_succ, List.getElem?_map, hb, Option.map_some]
  · rw [htake]
    refine List.forall_mem_append.mpr ⟨h.readable, List.forall_mem_singleton.mpr ⟨lines, hlines⟩⟩
  · rw [htake, h.printed, print, print, List.map_append, List.flatten_append]
    simp [hlines, Except.toOption]

section Ledger

variable {chain : List Request → Chain} {served : List Request} {k : ℕ} {u : UUID}
  {out : List JString}

/-- Reading a block that is there. -/
theorem readBlock_eq (out : List JString) {b : Block} (hb : b ∈ (chain served).blocks) :
    readBlock (ledger chain) C b.id (served, out) =
      match linesOf C b with
      | .ok lines => .ok () (served ++ [.getBlockById b.id], out ++ lines)
      | .error f => .error f (served ++ [.getBlockById b.id], out) := by
  have hget : (Effect.unwatched ((ledger chain).getBlockById b.id) : Consumer (List Request) _)
      (served, out) = .ok (some b.certificate) (served ++ [.getBlockById b.id], out) :=
    Effect.unwatched_ok (congrArg (EStateM.Result.ok · _) (Chain.certificate_eq hb))
  refine (Effect.bind_ok hget).trans ?_
  dsimp only
  unfold linesOf
  cases hreader : CertificateReader.new C (.new b.certificate) with
  | error f => exact Effect.bind_error (Effect.lift_error ..)
  | ok reader => exact (Effect.bind_ok (Effect.lift_ok ..)).trans (readTransactions_all reader _)

/-- **One turn over a ledger**: nothing new, a block more, or the end at a
block that is no certificate. -/
theorem poll_cases (hgrow : Grows chain) (h : Reached C (chain served) k u out) :
    ((chain served).blocks.length = k ∧
      poll (ledger chain) C u (served, out) = .ok u (served ++ [.getNextBlockId u], out)) ∨
    ∃ b, (chain served).blocks[k]? = some b ∧
      poll (ledger chain) C u (served, out) =
        match linesOf C b with
        | .ok lines =>
          .ok b.id (served ++ [.getNextBlockId u] ++ [.getBlockById b.id], out ++ lines)
        | .error f => .error f (served ++ [.getNextBlockId u] ++ [.getBlockById b.id], out) := by
  have hnext : (Effect.unwatched ((ledger chain).getNextBlockId u) : Consumer (List Request) _)
      (served, out) = .ok ((chain served).blocks[k]?.map Block.id)
        (served ++ [.getNextBlockId u], out) :=
    Effect.unwatched_ok (congrArg (EStateM.Result.ok · _) (Chain.nextId_eq h.last))
  cases hb : (chain served).blocks[k]? with
  | none =>
    rw [hb] at hnext
    have hlen := List.getElem?_eq_none_iff.mp hb
    exact .inl ⟨le_antisymm hlen h.le, Effect.bind_ok hnext⟩
  | some b =>
    rw [hb] at hnext
    have hmem : b ∈ (chain (served ++ [.getNextBlockId u])).blocks :=
      (hgrow served _).subset (List.mem_of_getElem? hb)
    have hread := readBlock_eq (C := C) out hmem
    refine .inr ⟨b, rfl, (Effect.bind_ok hnext).trans ?_⟩
    cases hlines : linesOf C b with
    | ok lines =>
      rw [hlines] at hread
      exact Effect.bind_ok hread
    | error f =>
      rw [hlines] at hread
      exact Effect.bind_error hread

end Ledger

/-- **What became of a run of turns**: it stands behind the `k`-th block, or it
has stopped at the one behind, which is no certificate. -/
inductive Followed (C : Vccert) (c : Chain) (k : ℕ) : Except Fault UUID → List JString → Prop
  | reached {u : UUID} {out : List JString} (h : Reached C c k u out) : Followed C c k (.ok u) out
  | stopped {u : UUID} {out : List JString} {b : Block} {f : Fault} (h : Reached C c k u out)
      (hb : c.blocks[k]? = some b) (hf : linesOf C b = .error f) : Followed C c k (.error f) out

/-- **Over a ledger.** After any number of turns the consumer has read the
blocks of the chain from the first on, each once and in order. It is as far as
the turns allow, or further than the chain went at the start; only a block that
is no certificate stops it. -/
theorem ledger_followed {chain : List Request → Chain} (hgrow : Grows chain) (n : ℕ)
    {served : List Request} {k : ℕ} {u : UUID} {out : List JString}
    (h : Reached C (chain served) k u out) :
    ∃ k' served' r out', Effect.outcome (readCerts (ledger chain) C n u) (served, out) =
        (r, (served', out')) ∧ k' ≤ k + n ∧ Followed C (chain served') k' r out' ∧
      ((∃ last, r = .ok last) → min (k + n) (chain served).blocks.length ≤ k') := by
  induction n generalizing served k u out with
  | zero =>
    exact ⟨k, served, .ok u, out, rfl, le_rfl, .reached h, fun _ => min_le_left ..⟩
  | succ n ih =>
    have hlonger : ∀ r, (chain served).blocks.length ≤ (chain (served ++ [r])).blocks.length :=
      fun r => (hgrow served r).length_le
    rcases poll_cases hgrow h with ⟨hlen, hpoll⟩ | ⟨b, hb, hpoll⟩
    · obtain ⟨k', served', r, out', hrun, hk', hfollowed, hfar⟩ :=
        ih (h.grow (hgrow served (.getNextBlockId u)))
      refine ⟨k', served', r, out', (Effect.outcome_bind_ok hpoll).trans hrun, by omega, hfollowed,
        fun hok => ?_⟩
      have hfar := hfar hok
      have hlonger := hlonger (.getNextBlockId u)
      omega
    · have hgrown := (hgrow served (.getNextBlockId u)).trans
        (hgrow (served ++ [.getNextBlockId u]) (.getBlockById b.id))
      have hb' : (chain (served ++ [.getNextBlockId u] ++ [.getBlockById b.id])).blocks[k]? =
          some b := by
        obtain ⟨hlt, hval⟩ := List.getElem?_eq_some_iff.mp hb
        exact List.getElem?_eq_some_iff.mpr
          ⟨hlt.trans_le hgrown.length_le, (hgrown.getElem hlt).symm.trans hval⟩
      cases hlines : linesOf C b with
      | ok lines =>
        rw [hlines] at hpoll
        obtain ⟨k', served', r, out', hrun, hk', hfollowed, hfar⟩ :=
          ih ((h.grow hgrown).next hb' hlines)
        refine ⟨k', served', r, out', (Effect.outcome_bind_ok hpoll).trans hrun, by omega,
          hfollowed, fun hok => ?_⟩
        have hfar := hfar hok
        have hlen := hgrown.length_le
        omega
      | error f =>
        rw [hlines] at hpoll
        refine ⟨k, _, .error f, out, Effect.outcome_error (Effect.bind_error hpoll), by omega,
          .stopped (h.grow hgrown) hb' hlines, ?_⟩
        rintro ⟨_, hok⟩
        cases hok

end Consumer

end VjBlockchain
