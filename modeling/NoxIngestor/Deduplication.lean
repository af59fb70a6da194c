/-
What JetStream's deduplication can see.

Every message handed over is the chain's message of its transaction, whatever
run and whatever batch it comes from.  Equal identifiers therefore mean equal
requests.
-/

import NoxIngestor.NoLoss
import NoxIngestor.Lib.ScanOrder
import NoxIngestor.Payload

namespace NoxIngestor

open Scanning DedupStream

/-! ### What a step does to the stream -/

inductive StreamStep (deployment : Deployment) (s : State) (label : Label) (after : State) :
    Prop
  | unchanged (same : after.jetstream = s.jetstream)
  | sent (message : TransactionMessage) (inPlay : s.InPlay message)
      (same : after.jetstream = s.jetstream.send message)
  | received (request : Nat) (labelled : label = .receive request)
      (received : s.jetstream.receive deployment.natsMsgId deployment.recent s.clock request =
        some after.jetstream)

theorem StreamStep.of_transition {deployment : Deployment} {s after : State} {label : Label}
    (moved : Transition deployment s label after) : StreamStep deployment s label after := by
  cases moved with
  | receive request jetstream received => exact .received request rfl received
  | resumed here connected nothing => exact .unchanged (State.settleCursor_jetstream _)
  | paused here disconnected => exact .unchanged (State.settleCursor_jetstream _)
  | persisted success here => exact .unchanged (s.writeFile_jetstream success)
  | finalPersisted success here => exact .unchanged (s.writeFile_jetstream success)
  | flushStarted caller message later here connected buffered labelled =>
      exact .sent message (.of_buffer (here ▸ caller.site_up) buffered) rfl
  | flushAcked caller message request next later here received =>
      exact .sent next (.of_flush here List.mem_cons_self) rfl
  | flushDone caller message request here received =>
      exact .unchanged (State.settleCursor_jetstream _)
  | flushFailedResumed message request later here =>
      exact .unchanged (State.settleCursor_jetstream _)
  | batchEmpty latest batch here empty => exact .unchanged (State.pace_jetstream _ _)
  | batchDelivered latest batch here nonempty nothing =>
      exact .unchanged (State.pace_jetstream _ _)
  | batchHeld latest batch here nonempty waiting =>
      exact .unchanged (State.pace_jetstream _ _)
  | handed latest batch transaction later here room connected =>
      exact .sent transaction (.of_publishing here) rfl
  | _ => exact .unchanged rfl

/-! ### Hand-overs and their times -/

/-- A state and the requests handed over so far, in this session and before. -/
abbrev Observed := State × List (Sending TransactionMessage)

def handOvers (s : State) (_label : Label) (after : State) :
    List (Sending TransactionMessage) :=
  sendings s.clock s.jetstream after.jetstream

def observe (deployment : Deployment) : Observed → Label → Option Observed :=
  Runs.logged (step deployment) handOvers

def Observed.initial (deployment : Deployment) : Observed :=
  (State.initial deployment, [])

/-- The labels lead to this state, with these hand-overs on the way. -/
abbrev Observes (deployment : Deployment) (labels : List Label) (observed : Observed) : Prop :=
  Runs.run (observe deployment) (Observed.initial deployment) labels = some observed

theorem Observes.reaches {deployment : Deployment} {labels : List Label} {s : State}
    {log : List (Sending TransactionMessage)} (observes : Observes deployment labels (s, log)) :
    Reaches deployment labels s :=
  Runs.run_of_logged observes

theorem Reaches.observes {deployment : Deployment} {labels : List Label} {s : State}
    (reached : Reaches deployment labels s) : ∃ log, Observes deployment labels (s, log) :=
  Runs.run_logged reached []

/-- Time passes only where the stream stays as it is, and the log grows only where a
message is sent. -/
inductive ObservedStep (deployment : Deployment) (observed : Observed) (label : Label)
    (later : Observed) : Prop
  | unchanged (passed : observed.1.clock ≤ later.1.clock)
      (same : later.1.jetstream = observed.1.jetstream) (log : later.2 = observed.2)
  | sent (message : TransactionMessage) (inPlay : observed.1.InPlay message)
      (clock : later.1.clock = observed.1.clock)
      (same : later.1.jetstream = observed.1.jetstream.send message)
      (log : later.2 =
        ⟨observed.1.clock, observed.1.jetstream.nextRequest, message⟩ :: observed.2)
  | received (request : Nat) (labelled : label = .receive request)
      (clock : later.1.clock = observed.1.clock)
      (received : observed.1.jetstream.receive deployment.natsMsgId deployment.recent
        observed.1.clock request = some later.1.jetstream)
      (log : later.2 = observed.2)

theorem ObservedStep.of_taken {deployment : Deployment} {observed later : Observed}
    {label : Label} (numbered : observed.1.jetstream.Numbered)
    (taken : observe deployment observed label = some later) :
    ObservedStep deployment observed label later := by
  obtain ⟨stepped, log⟩ := Runs.logged_eq_some.mp taken
  have moved := step_transition stepped
  have still (timeless : label.passesTime = false) : later.1.clock = observed.1.clock :=
    (LedgerStep.of_transition moved).clock_kept timeless
  have clock : later.1.clock = observed.1.clock ∨
      observed.1.clock ≤ later.1.clock ∧ later.1.jetstream = observed.1.jetstream := by
    cases label with
    | elapse millis =>
        rw [← Option.some.inj stepped]
        exact .inr ⟨Nat.le_add_right _ _, rfl⟩
    | _ => exact .inl (still rfl)
  cases StreamStep.of_transition moved with
  | unchanged same =>
      refine .unchanged ?_ same ?_
      · rcases clock with stands | ⟨passed, _⟩
        · exact Nat.le_of_eq stands.symm
        · exact passed
      · rw [log, handOvers, same, numbered.sendings_nil _ fun _sent member => member]
        rfl
  | sent message inPlay same =>
      refine .sent message inPlay ?_ same ?_
      · rcases clock with stands | ⟨_, unsent⟩
        · exact stands
        · have numbers := congrArg DedupStream.nextRequest (same.symm.trans unsent)
          exact absurd numbers (Nat.succ_ne_self _)
      · rw [log, handOvers, same, numbered.sendings_send]
        rfl
  | received request labelled received =>
      refine .received request labelled (still (labelled ▸ rfl)) received ?_
      rw [log, handOvers, numbered.sendings_nil _ (receive_wire received)]
      rfl

/-- The log of a run holds every request, each from no later than its message was stored. -/
theorem ObservedStep.recorded {deployment : Deployment} {observed later : Observed}
    {label : Label} (stepped : ObservedStep deployment observed label later)
    (recorded : Recorded observed.2 observed.1.clock observed.1.jetstream) :
    Recorded later.2 later.1.clock later.1.jetstream := by
  cases stepped with
  | unchanged passed same log =>
      rw [same, log]
      exact recorded.later passed
  | sent message inPlay clock same log =>
      rw [clock, same, log]
      exact recorded.send message
  | received request labelled clock received log =>
      rw [clock, log]
      exact recorded.receive received

theorem Observes.recorded {deployment : Deployment} {observed : Observed}
    {labels : List Label} (observes : Observes deployment labels observed) :
    Recorded observed.2 observed.1.clock observed.1.jetstream := by
  have preserved : ∀ before label later, True →
      Recorded before.2 before.1.clock before.1.jetstream →
        observe deployment before label = some later →
          Recorded later.2 later.1.clock later.1.jetstream := by
    intro before label later _ recorded taken
    exact (ObservedStep.of_taken recorded.numbered taken).recorded recorded
  exact Runs.run_invariant preserved (Runs.guarded_of_labels fun _label _member => trivial)
    .empty observes

/-! ### Messages are the chain's -/

/-- The chain's message of one of its transactions. -/
def Deployment.Genuine (deployment : Deployment) (chain : List Log)
    (message : TransactionMessage) : Prop :=
  ∃ event ∈ deployment.parser.chainEvents chain,
    message = deployment.parser.chainMessage deployment.config.chainId chain
      event.transactionHash

theorem reads_genuine {deployment : Deployment} {chain : List Log} {ends : Nat → Prop}
    (wellFormed : WellFormedChain chain) (fromBlock : Nat) (batch : ReadBatch)
    (contents : List TransactionMessage)
    (contained : Reads deployment chain ends fromBlock batch contents) :
    ∀ message ∈ contents, deployment.Genuine chain message := by
  obtain ⟨_, rfl, batchSize, fetch, order, honest, success⟩ := contained
  intro message member
  obtain ⟨event, located, _, _, same⟩ := (@BlockReader.mem_readBatch_iff
    (deployment.reader batchSize) chain wellFormed fetch honest _ _ _ _ success message).mp member
  exact ⟨event, located, same⟩

/-- What was handed to JetStream, is on its way to it or is stored there. -/
def State.published (s : State) : List TransactionMessage :=
  handedIn s.trace ++ (s.jetstream.wire.map Prod.snd ++
    s.jetstream.stored.map StoredMessage.message)

structure Faithful (deployment : Deployment) (chain : List Log) (s : State) : Prop where
  scanned : Scanned deployment chain (fun _block => True) s
  line : ∀ scan, s.scan = some scan → ∀ message ∈ scan.line, deployment.Genuine chain message
  handed : ∀ message ∈ handedIn s.trace, deployment.Genuine chain message
  wire : ∀ sent ∈ s.jetstream.wire, deployment.Genuine chain sent.2
  stored : ∀ entry ∈ s.jetstream.stored, deployment.Genuine chain entry.message

namespace Faithful

variable {deployment : Deployment} {chain : List Log} {s after : State} {label : Label}

theorem inPlay (faithful : Faithful deployment chain s) {message : TransactionMessage}
    (inPlay : s.InPlay message) : deployment.Genuine chain message := by
  obtain ⟨up, place⟩ := inPlay
  apply faithful.line _ (State.scan_of_up up) message
  rcases place with held | ⟨batch, remaining, current, member⟩
  · exact List.mem_append_left _ (List.mem_append_right _ held)
  · have pending : s.scanning.pending = remaining := pending_of_batch current
    rw [Scan.line, pending]
    exact List.mem_append_right _ member

private theorem handed_step (faithful : Faithful deployment chain s)
    (recorded : LedgerStep deployment s label after) :
    ∀ message ∈ handedIn after.trace, deployment.Genuine chain message := by
  have logged {events : List Event} (quiet : Quiet s events) :
      ∀ message ∈ handedIn (s.stamped events ++ s.trace), deployment.Genuine chain message := by
    intro message member
    rw [handedIn, List.filterMap_append] at member
    rcases List.mem_append.mp member with new | old
    · obtain ⟨entry, stamped, isHanded⟩ := List.mem_filterMap.mp new
      obtain ⟨event, present, rfl⟩ := List.mem_map.mp stamped
      cases event with
      | handed handed =>
          cases isHanded
          exact faithful.inPlay (quiet.handed message present)
      | _ => cases isHanded
    · exact faithful.handed message old
  cases recorded with
  | unchanged same =>
      rw [show after.trace = s.trace from congrArg Ledger.trace same]
      exact faithful.handed
  | elapsed millis labelled same =>
      rw [show after.trace = s.trace from congrArg Ledger.trace same]
      exact faithful.handed
  | logged events quiet same =>
      rw [show after.trace = _ from congrArg Ledger.trace same]
      exact logged quiet
  | succeeded event success same =>
      rw [show after.trace = (s.clock, event) :: s.trace from congrArg Ledger.trace same]
      cases event with
      | fetched endBlock => exact faithful.handed
      | caughtUp => exact faithful.handed
      | _ => cases success
  | updated events quiet block reason same =>
      rw [show after.trace = (s.clock, .updated block) :: (s.stamped events ++ s.trace) from
        congrArg Ledger.trace same]
      exact logged quiet
  | written persists same =>
      rw [show after.trace = s.trace from congrArg Ledger.trace same]
      exact faithful.handed
  | restarted readable store startBlock stallThreshold loaded determined next same =>
      rw [show after.trace = [(s.clock, .started startBlock)] from congrArg Ledger.trace same]
      exact nofun

theorem initial : Faithful deployment chain (State.initial deployment) :=
  { scanned := .initial
    line := nofun
    handed := nofun
    wire := nofun
    stored := nofun }

theorem step (wellFormed : WellFormedChain chain) (faithful : Faithful deployment chain s)
    (moved : Transition deployment s label after)
    (honest : label.Honest deployment.parser chain) : Faithful deployment chain after := by
  have ending := readsTo_any deployment s label
  obtain ⟨move, stepped, _⟩ := faithful.scanned.refines moved honest ending
  have line := genuine_step (reads_genuine wellFormed) faithful.line stepped
  have handed := faithful.handed_step (.of_transition moved)
  refine ⟨faithful.scanned.step moved honest ending, line, handed, ?_, ?_⟩
  · cases StreamStep.of_transition moved with
    | unchanged same =>
        rw [same]
        exact faithful.wire
    | sent message inPlay same =>
        rw [same]
        exact List.forall_mem_cons.mpr ⟨faithful.inPlay inPlay, faithful.wire⟩
    | received request labelled received =>
        intro sent member
        exact faithful.wire sent (DedupStream.receive_wire received sent member)
  · cases StreamStep.of_transition moved with
    | unchanged same =>
        rw [same]
        exact faithful.stored
    | sent message inPlay same =>
        rw [same]
        exact faithful.stored
    | received request labelled received =>
        obtain ⟨message, onWire, storedEq⟩ := DedupStream.receive_stored received
        rw [storedEq]
        split
        · exact faithful.stored
        · exact List.forall_mem_cons.mpr ⟨faithful.wire _ onWire, faithful.stored⟩

theorem of_run (wellFormed : WellFormedChain chain) {labels : List Label}
    (reached : Reaches deployment labels s)
    (honest : ∀ label ∈ labels, label.Honest deployment.parser chain) :
    ∀ message ∈ s.published, deployment.Genuine chain message := by
  have faithful : Faithful deployment chain s :=
    reached.invariant_of_labels .initial
      (fun _s _label _next honest faithful moved => faithful.step wellFormed moved honest) honest
  intro message member
  rcases List.mem_append.mp member with handed | inStream
  · exact faithful.handed message handed
  · rcases List.mem_append.mp inStream with onWire | isStored
    · obtain ⟨sent, present, rfl⟩ := List.mem_map.mp onWire
      exact faithful.wire sent present
    · obtain ⟨entry, present, rfl⟩ := List.mem_map.mp isStored
      exact faithful.stored entry present

end Faithful

/-! ### Equal identifiers -/

/-- No two messages of the kind have different identifier texts with one digest. -/
def NoCollision (keccak256 : ByteArray → B256) (genuine : TransactionMessage → Prop) : Prop :=
  ∀ left right, genuine left → genuine right →
    keccak256 left.checksumInput = keccak256 right.checksumInput →
      left.checksumInput = right.checksumInput

def TransactionMessage.key (message : TransactionMessage) : Nat × String :=
  (message.chainId, message.transactionHash)

private theorem TransactionMessage.checksumInput_of_key {left right : TransactionMessage}
    (same : left.key = right.key) : left.checksumInput = right.checksumInput := by
  obtain ⟨chainIds, hashes⟩ := Prod.mk.inj same
  rw [checksumInput, checksumInput, chainIds, hashes]

theorem TransactionMessage.key_of_checksumInput {left right : TransactionMessage}
    (same : left.checksumInput = right.checksumInput) : left.key = right.key := by
  obtain ⟨chainIds, hashes⟩ := checksumInput_injective same
  exact Prod.ext chainIds hashes

theorem Deployment.Genuine.eq_of_key {left right : Deployment} {chain : List Log}
    (sameParser : right.parser = left.parser) {first second : TransactionMessage}
    (firstGenuine : left.Genuine chain first) (secondGenuine : right.Genuine chain second)
    (same : first.key = second.key) : first = second := by
  obtain ⟨firstEvent, _, rfl⟩ := firstGenuine
  obtain ⟨secondEvent, _, rfl⟩ := secondGenuine
  obtain ⟨chainIds, hashes⟩ := Prod.mk.inj same
  have hash : firstEvent.transactionHash = secondEvent.transactionHash := hashes
  have chainId : left.config.chainId = right.config.chainId := chainIds
  rw [sameParser, hash, chainId]

private theorem Publisher.publishRequest_natsMsgId (publisher : Publisher) (deployment : Deployment)
    (message : TransactionMessage) :
    (publisher.publishRequest deployment.keccak256 message).natsMsgId =
      deployment.natsMsgId message := rfl

/-- Of any two requests made for messages published in any two runs over one chain, the
`Nats-Msg-Id` headers are equal exactly when chain id and transaction hash are.  Then
the messages are equal, and so are the payloads and, under one prefix, the subjects; and
the payload of the one is read as the events of the other. -/
theorem deduplication_hides_nothing {left right : Deployment} {chain : List Log}
    (wellFormed : WellFormedChain chain) (sameParser : right.parser = left.parser)
    (sameHash : right.keccak256 = left.keccak256)
    (noCollision : NoCollision left.keccak256
      (fun message => left.Genuine chain message ∨ right.Genuine chain message))
    {leftLabels rightLabels : List Label} {leftState rightState : State}
    (leftReached : Reaches left leftLabels leftState)
    (rightReached : Reaches right rightLabels rightState)
    (leftHonest : ∀ label ∈ leftLabels, label.Honest left.parser chain)
    (rightHonest : ∀ label ∈ rightLabels, label.Honest right.parser chain)
    {first second : TransactionMessage} (firstPublished : first ∈ leftState.published)
    (secondPublished : second ∈ rightState.published)
    (leftPublisher rightPublisher : Publisher) :
    ((leftPublisher.publishRequest left.keccak256 first).natsMsgId =
          (rightPublisher.publishRequest right.keccak256 second).natsMsgId ↔
        first.chainId = second.chainId ∧ first.transactionHash = second.transactionHash) ∧
      ((leftPublisher.publishRequest left.keccak256 first).natsMsgId =
          (rightPublisher.publishRequest right.keccak256 second).natsMsgId →
        first = second ∧
          (leftPublisher.publishRequest left.keccak256 first).payload =
            (rightPublisher.publishRequest right.keccak256 second).payload ∧
          (leftPublisher.subjectPrefix = rightPublisher.subjectPrefix →
            (leftPublisher.publishRequest left.keccak256 first).subject =
              (rightPublisher.publishRequest right.keccak256 second).subject) ∧
          (second.InRange →
            (TransactionMessage.fromBytes
              (leftPublisher.publishRequest left.keccak256 first).payload).map
                TransactionMessage.events = some second.events)) := by
  have firstGenuine := Faithful.of_run wellFormed leftReached leftHonest first firstPublished
  have secondGenuine :=
    Faithful.of_run wellFormed rightReached rightHonest second secondPublished
  rw [leftPublisher.publishRequest_natsMsgId, rightPublisher.publishRequest_natsMsgId]
  have keys : left.natsMsgId first = right.natsMsgId second → first.key = second.key := by
    intro same
    rw [Deployment.natsMsgId, Deployment.natsMsgId, sameHash] at same
    have digests := B256.toHex_injective same
    exact TransactionMessage.key_of_checksumInput
      (noCollision first second (.inl firstGenuine) (.inr secondGenuine) digests)
  refine ⟨⟨fun same => Prod.mk.inj (keys same), ?_⟩, ?_⟩
  · rintro ⟨chainIds, hashes⟩
    have inputs := TransactionMessage.checksumInput_of_key (Prod.ext chainIds hashes)
    rw [Deployment.natsMsgId, Deployment.natsMsgId, sameHash,
      TransactionMessage.computeChecksum, TransactionMessage.computeChecksum, inputs]
  · intro same
    have equal := firstGenuine.eq_of_key sameParser secondGenuine (keys same)
    refine ⟨equal, ?_, fun samePrefix => ?_, fun inRange => ?_⟩
    · rw [Publisher.publishRequest, Publisher.publishRequest, equal]
    · rw [Publisher.publishRequest, Publisher.publishRequest, equal, samePrefix]
    · have payload : (leftPublisher.publishRequest left.keccak256 first).payload =
          second.toBytes := by
        rw [Publisher.publishRequest, equal]
      rw [payload, second.fromBytes_toBytes inRange]
      rfl

theorem Sample.noCollision :
    NoCollision Sample.deployment.keccak256 (Sample.deployment.Genuine Sample.chain) := by
  have table : ∀ left ∈ Sample.deployment.parser.chainEvents Sample.chain,
      ∀ right ∈ Sample.deployment.parser.chainEvents Sample.chain,
        Sample.keccak256 (toString 421614 ++ ":" ++ left.transactionHash).toByteArray =
            Sample.keccak256 (toString 421614 ++ ":" ++ right.transactionHash).toByteArray →
          left.transactionHash = right.transactionHash := by
    decide +kernel
  rintro left right ⟨leftEvent, leftIn, rfl⟩ ⟨rightEvent, rightIn, rfl⟩ same
  have hashes := table leftEvent leftIn rightEvent rightIn same
  exact TransactionMessage.checksumInput_of_key (Prod.ext rfl hashes)

/-- The first transaction is handed over, cut, read again and handed over again. -/
def Sample.handedAgain : List Label :=
  Sample.start ++ Sample.cutBatch 0 ++ [Sample.read, .nextTransaction]

theorem Sample.handedAgain_honest :
    ∀ label ∈ Sample.handedAgain, label.Honest Sample.deployment.parser Sample.chain := by
  refine List.forall_mem_append.mpr ⟨List.forall_mem_append.mpr
    ⟨Sample.start_honest, Sample.cutBatch_honest 0⟩, ?_⟩
  simp only [List.forall_mem_cons, Label.Honest, List.not_mem_nil, IsEmpty.forall_iff,
    implies_true, and_true]
  exact Sample.read_honest

/-- One run delivers the transaction once, another hands it over a second time, with the
same request. -/
theorem deduplication_hides_nothing_handedAgain :
    ∃ leftState rightState first second,
      Reaches Sample.deployment Sample.delivery leftState ∧
        Reaches Sample.deployment Sample.handedAgain rightState ∧
          first ∈ leftState.published ∧ second ∈ rightState.published ∧
            (leftState.publisher.publishRequest Sample.keccak256 first).natsMsgId =
              (rightState.publisher.publishRequest Sample.keccak256 second).natsMsgId ∧
            (leftState.publisher.publishRequest Sample.keccak256 first).payload =
              (rightState.publisher.publishRequest Sample.keccak256 second).payload ∧
            (leftState.publisher.publishRequest Sample.keccak256 first).subject =
              (rightState.publisher.publishRequest Sample.keccak256 second).subject := by
  have leftEnds : ((Runs.run (step Sample.deployment) (State.initial Sample.deployment)
      Sample.delivery).bind fun s => s.published.getLast?.map fun message =>
        (message.key, s.publisher.subjectPrefix)) =
        some ((421614, Sample.firstHash.toHex), "nox_ingestor") := by
    decide +kernel
  have rightEnds : ((Runs.run (step Sample.deployment) (State.initial Sample.deployment)
      Sample.handedAgain).bind fun s => s.published.head?.map fun message =>
        (message.key, s.publisher.subjectPrefix)) =
        some ((421614, Sample.firstHash.toHex), "nox_ingestor") := by
    decide +kernel
  obtain ⟨leftState, leftReached, leftLast⟩ := Option.bind_eq_some_iff.mp leftEnds
  obtain ⟨first, firstLast, firstValues⟩ := Option.map_eq_some_iff.mp leftLast
  obtain ⟨rightState, rightReached, rightHead⟩ := Option.bind_eq_some_iff.mp rightEnds
  obtain ⟨second, secondHead, secondValues⟩ := Option.map_eq_some_iff.mp rightHead
  obtain ⟨keys, prefixes⟩ := Prod.mk.inj (firstValues.trans secondValues.symm)
  have firstIn := List.mem_of_getLast? firstLast
  have secondIn := List.mem_of_mem_head? secondHead
  have noCollision : NoCollision Sample.deployment.keccak256 (fun message =>
      Sample.deployment.Genuine Sample.chain message ∨
        Sample.deployment.Genuine Sample.chain message) := by
    intro left right leftGenuine rightGenuine
    exact Sample.noCollision left right (or_self_iff.mp leftGenuine)
      (or_self_iff.mp rightGenuine)
  obtain ⟨identifiers, equal⟩ := deduplication_hides_nothing Sample.chain_wellFormed rfl rfl
    noCollision leftReached rightReached Sample.delivery_honest Sample.handedAgain_honest
    firstIn secondIn leftState.publisher rightState.publisher
  have same := identifiers.mpr (Prod.mk.inj keys)
  obtain ⟨_, payloads, subjects, _⟩ := equal same
  exact ⟨leftState, rightState, first, second, leftReached, rightReached, firstIn, secondIn,
    same, payloads, subjects prefixes⟩

end NoxIngestor
