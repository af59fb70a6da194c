/-
The order of first acknowledgements.

A flush and the batch loop both acknowledge in the order of the scan, but the
direct path does not look at the buffer.  As long as it overtakes nothing that
waits there, transactions are first acknowledged in the order of the chain.
-/

import NoxIngestor.Deduplication

namespace NoxIngestor

open Scanning SortedGroups

/-! ### Batches list the chain in order -/

def TransactionMessage.Precedes (first second : TransactionMessage) : Prop :=
  first.position < second.position

instance (first second : TransactionMessage) : Decidable (first.Precedes second) :=
  inferInstanceAs (Decidable (_ < _))

private theorem precedes_compatible :
    Compatible TransactionMessage.blockNumber TransactionMessage.Precedes := by
  constructor
  · intro first second earlier later
    exact lt_asymm earlier later
  · intro first second earlier
    rcases Prod.Lex.toLex_lt_toLex.mp earlier with block | ⟨same, _⟩
    · exact Nat.le_of_lt block
    · exact Nat.le_of_eq same
  · intro first second earlier
    exact Prod.Lex.toLex_lt_toLex.mpr (.inl earlier)

section Listing

variable {deployment : Deployment} {chain : List Log} {ends : Nat → Prop}

theorem chainMessage_blockNumber (deployment : Deployment) (wellFormed : WellFormedChain chain)
    {event : LocatedEvent}
    (member : event ∈ deployment.parser.chainEvents chain) :
    (deployment.parser.chainMessage deployment.config.chainId chain
      event.transactionHash).blockNumber = event.blockNumber :=
  @BlockReader.chainMessage_blockNumber (deployment.reader 0) chain wellFormed event member

theorem Deployment.Genuine.eq_of_position (wellFormed : WellFormedChain chain)
    {first second : TransactionMessage} (firstGenuine : deployment.Genuine chain first)
    (secondGenuine : deployment.Genuine chain second) (same : first.position = second.position) :
    first = second := by
  obtain ⟨firstEvent, firstIn, rfl⟩ := firstGenuine
  obtain ⟨secondEvent, secondIn, rfl⟩ := secondGenuine
  have indexed : ∀ event ∈ sortBy LocatedEvent.position (deployment.parser.chainEvents chain),
      event.event.logIndex = event.logIndex := fun event member =>
    deployment.parser.chainEvents_index (mem_sortBy.mp member)
  obtain ⟨left, leftIn, leftText, leftAt⟩ :=
    (deployment.reader 0).messageFor_position indexed (mem_sortBy.mpr firstIn)
  obtain ⟨right, rightIn, rightText, rightAt⟩ :=
    (deployment.reader 0).messageFor_position indexed (mem_sortBy.mpr secondIn)
  have positions : left.position = right.position := leftAt.symm.trans (same.trans rightAt)
  have one := List.inj_on_of_nodup_map (deployment.parser.chainEvents_distinct wellFormed)
    (mem_sortBy.mp leftIn) (mem_sortBy.mp rightIn) positions
  rw [← leftText, ← rightText, one]

theorem mem_reads_iff (wellFormed : WellFormedChain chain) {fromBlock : Nat}
    {batch : ReadBatch} {contents : List TransactionMessage}
    (contained : Reads deployment chain ends fromBlock batch contents)
    (message : TransactionMessage) :
    message ∈ contents ↔ deployment.Genuine chain message ∧
      fromBlock ≤ message.blockNumber ∧ message.blockNumber ≤ lastBlock batch := by
  obtain ⟨_, rfl, batchSize, fetch, order, honest, success⟩ := contained
  rw [@BlockReader.mem_readBatch_iff (deployment.reader batchSize) chain wellFormed fetch
    honest _ _ _ _ success message]
  constructor
  · rintro ⟨event, member, lower, upper, rfl⟩
    have block := chainMessage_blockNumber deployment wellFormed member
    exact ⟨⟨event, member, rfl⟩, block.symm ▸ lower, block.symm ▸ upper⟩
  · rintro ⟨⟨event, member, rfl⟩, lower, upper⟩
    rw [chainMessage_blockNumber deployment wellFormed member] at lower upper
    exact ⟨event, member, lower, upper, rfl⟩

theorem reads_listed (deployment : Deployment) (ends : Nat → Prop)
    (wellFormed : WellFormedChain chain) :
    Listed lastBlock (Reads deployment chain ends) (deployment.Genuine chain)
      TransactionMessage.blockNumber TransactionMessage.Precedes := by
  constructor
  · exact precedes_compatible
  · intro fromBlock batch contents contained message member
    exact ((mem_reads_iff wellFormed contained message).mp member).2
  · intro fromBlock batch contents contained
    obtain ⟨_, rfl, batchSize, fetch, order, honest, success⟩ := contained
    exact @BlockReader.readBatch_increasing (deployment.reader batchSize) chain wellFormed
      fetch honest _ _ _ _ success
  · intro fromBlock batch contents contained message genuine lower upper
    exact ⟨message, (mem_reads_iff wellFormed contained message).mpr ⟨genuine, lower, upper⟩,
      rfl⟩

end Listing

/-! ### What a step must not do -/

/-- Below the last block number, so that the next one does not wrap around. -/
def belowLast (block : Nat) : Prop := block + 1 < u64Modulus

instance : DecidablePred belowLast :=
  fun _block => inferInstanceAs (Decidable (_ < _))

def Label.acks : Label → Bool
  | .published success => success
  | _ => false

def Task.publishing : Task → Option TransactionMessage
  | .select (.publish _latest _batch message _request _rest) => some message
  | _ => none

/-- A direct publish is acknowledged with nothing earlier in the buffer. -/
def OvertakesNothing (s : State) (label : Label) : Prop :=
  label.acks = true → ∀ message ∈ s.task.publishing,
    ∀ waiting ∈ s.publisher.buffer.buffer, ¬ waiting.Precedes message

instance (deployment : Deployment) (ends : Nat → Prop) [DecidablePred ends] (s : State)
    (label : Label) : Decidable (ReadsTo deployment ends s label) :=
  inferInstanceAs (Decidable (_ → ∀ latest ∈ s.task.readingFor, ends _))

instance (s : State) (label : Label) : Decidable (OvertakesNothing s label) :=
  inferInstanceAs (Decidable (_ → ∀ message ∈ s.task.publishing, ∀ waiting ∈ _, ¬ _))

def KeepsOrder (deployment : Deployment) (s : State) (label : Label) : Prop :=
  OvertakesNothing s label ∧ ReadsTo deployment belowLast s label

instance (deployment : Deployment) (s : State) (label : Label) :
    Decidable (KeepsOrder deployment s label) :=
  inferInstanceAs (Decidable (_ ∧ _))

theorem Reads.endBlock_succ {deployment : Deployment} {chain : List Log} {next : Nat}
    {batch : ReadBatch} {contents : List TransactionMessage}
    (contained : Reads deployment chain belowLast next batch contents)
    (forward : next ≤ lastBlock batch) :
    u64Add batch.2.endBlock 1 = batch.2.endBlock + 1 :=
  Nat.mod_eq_of_lt (contained.1 forward)

/-- A completed batch is followed by the block the loop computes. -/
def Advances : Move ReadBatch → Prop
  | .complete batch next => next = u64Add batch.2.endBlock 1
  | _ => True

theorem Reflects.advances {s : State} {label : Label} {move : Move ReadBatch}
    (reflects : Reflects s label move) : Advances move := by
  cases move with
  | complete batch next => exact reflects
  | _ => trivial

theorem exact_below {deployment : Deployment} {chain : List Log}
    {before after : Option (Scan ReadBatch TransactionMessage)} {move : Move ReadBatch}
    (inHand : ∀ scan, before = some scan → InHand (Reads deployment chain belowLast) scan)
    (stepped : Step lastBlock (Reads deployment chain belowLast) before move after)
    (advances : Advances move) : Exact lastBlock move := by
  cases stepped with
  | complete scan batch next current forward bound =>
      obtain ⟨contents, contained, _⟩ := inHand scan rfl _ _ current
      exact advances.trans (contained.endBlock_succ forward)
  | _ => trivial

/-! ### The invariant -/

structure Sequenced (deployment : Deployment) (chain : List Log) (s : State) : Prop where
  scanned : Scanned deployment chain belowLast s
  genuine : ∀ scan, s.scan = some scan →
    ∀ message ∈ scan.line, deployment.Genuine chain message
  onwards : ∀ scan, s.scan = some scan →
    Onwards TransactionMessage.blockNumber scan.first [] scan
  inOrder : ∀ scan, s.scan = some scan →
    InOrder lastBlock (deployment.Genuine chain) TransactionMessage.blockNumber
      TransactionMessage.Precedes scan

namespace Sequenced

variable {deployment : Deployment} {chain : List Log} {s after : State} {label : Label}

theorem initial : Sequenced deployment chain (State.initial deployment) :=
  { scanned := .initial
    genuine := nofun
    onwards := nofun
    inOrder := nofun }

private theorem overtakesNothing (allowed : OvertakesNothing s label) {move : Move ReadBatch}
    (reflects : Reflects s label move) :
    move = .deliver → ∀ scan batch message later, s.scan = some scan →
      scan.batch = some (batch, message :: later) →
        ∀ waiting ∈ scan.queue, ¬ waiting.Precedes message := by
  rintro rfl scan batch message later found current waiting queued
  obtain ⟨rfl, latest, result, published, request, rest, here⟩ := reflects
  obtain ⟨_, rfl⟩ := State.up_of_scan found
  have idle : s.task.drained = [] := by
    rw [here]
    rfl
  have buffered : waiting ∈ s.publisher.buffer.buffer := State.held_of_idle idle ▸ queued
  have same : s.task.batch = some ((latest, result), published :: rest) := by
    rw [here]
    rfl
  rw [show s.task.batch = _ from current] at same
  cases same
  exact allowed rfl message (congrArg Task.publishing here) waiting buffered

theorem step (wellFormed : WellFormedChain chain) (sequenced : Sequenced deployment chain s)
    (moved : Transition deployment s label after)
    (honest : label.Honest deployment.parser chain)
    (allowed : KeepsOrder deployment s label) : Sequenced deployment chain after := by
  obtain ⟨inTurn, ending⟩ := allowed
  obtain ⟨move, stepped, reflects⟩ := sequenced.scanned.refines moved honest ending
  have listed := reads_listed deployment belowLast wellFormed
  constructor
  · exact sequenced.scanned.step moved honest ending
  · exact genuine_step (reads_genuine wellFormed) sequenced.genuine stepped
  · exact onwards_step listed.bounded sequenced.onwards stepped
      (exact_below sequenced.scanned.inHand stepped reflects.advances)
  · exact InOrder.step listed sequenced.inOrder stepped (overtakesNothing inTurn reflects)

theorem of_run (wellFormed : WellFormedChain chain) {labels : List Label}
    (reached : Reaches deployment labels s)
    (honest : ∀ label ∈ labels, label.Honest deployment.parser chain)
    (throughout : Throughout deployment (KeepsOrder deployment) labels) :
    Sequenced deployment chain s := by
  apply Reaches.invariant .initial _ reached ((Runs.guarded_of_labels honest).and throughout)
  rintro state label next ⟨honestly, allowed⟩ sequenced moved
  exact sequenced.step wellFormed moved honestly allowed

end Sequenced

/-! ### First acknowledgements -/

/-- What is acknowledged for the first time comes after everything acknowledged
before, in the order of block number and first log index. -/
def AcknowledgedInOrder (s : State) : Prop :=
  ∀ earlier message later, (ackedIn s.trace).reverse = earlier ++ message :: later →
    message ∉ earlier → ∀ other ∈ earlier, other.Precedes message

/-- What waits behind an acknowledged message has itself been acknowledged before. -/
def NoneOvertaken (s : State) : Prop :=
  ∀ waiting ∈ s.held, ∀ message ∈ ackedIn s.trace, waiting.Precedes message →
    waiting ∈ ackedIn s.trace

/-- As long as direct publishes overtake nothing in the buffer, the session's first
acknowledgements happen in the order of the chain. -/
theorem first_acks_in_order {deployment : Deployment} {chain : List Log}
    (wellFormed : WellFormedChain chain) {labels : List Label} {s : State}
    (reached : Reaches deployment labels s)
    (honest : ∀ label ∈ labels, label.Honest deployment.parser chain)
    (throughout : Throughout deployment (KeepsOrder deployment) labels) (up : s.task ≠ .down) :
    AcknowledgedInOrder s ∧ NoneOvertaken s := by
  have sequenced := Sequenced.of_run wellFormed reached honest throughout
  have scan := State.scan_of_up up
  have genuine := sequenced.genuine _ scan
  have inOrder := sequenced.inOrder _ scan
  obtain ⟨_, queue, _, new, acked, since⟩ := sequenced.onwards _ scan
  rw [List.append_nil] at acked
  constructor
  · intro earlier message later split first other member
    have listed (found : TransactionMessage) (present : found ∈ earlier ++ message :: later) :
        found ∈ (ackedIn s.trace).reverse := split ▸ present
    have messageIn := listed message (List.mem_append_right earlier List.mem_cons_self)
    have otherIn := listed other (List.mem_append_left _ member)
    have needed : s.scanning.Requires (deployment.Genuine chain)
        TransactionMessage.blockNumber message := by
      refine ⟨genuine message ?_, since message ?_⟩
      · exact List.mem_append_left _ (List.mem_append_left _ messageIn)
      · exact acked ▸ List.mem_reverse.mp messageIn
    have notAfter := inOrder.first_after split needed first other member
    rcases lt_trichotomy other.position message.position with before | same | after
    · exact before
    · have equal := Deployment.Genuine.eq_of_position wellFormed
        (genuine other (List.mem_append_left _ (List.mem_append_left _ otherIn))) needed.1 same
      exact absurd (equal ▸ member) first
    · exact absurd after notAfter
  · intro waiting held message delivered earlier
    refine inOrder.none_overtaken delivered ⟨genuine waiting ?_, queue waiting held⟩ earlier
    exact List.mem_append_left _ (List.mem_append_right _ held)

theorem first_acks_in_order_delivery :
    ∃ s, Reaches Sample.deployment Sample.delivery s ∧
      (ackedIn s.trace).map TransactionMessage.blockNumber = [101, 100] ∧
        AcknowledgedInOrder s ∧ NoneOvertaken s := by
  have ends : (Runs.run (step Sample.deployment) (State.initial Sample.deployment)
      Sample.delivery).map (fun s =>
        (s.task.settled, (ackedIn s.trace).map TransactionMessage.blockNumber)) =
          some (true, [101, 100]) := by
    decide +kernel
  obtain ⟨s, reached, values⟩ := Option.map_eq_some_iff.mp ends
  obtain ⟨settled, blocks⟩ := Prod.mk.inj values
  exact ⟨s, reached, blocks, first_acks_in_order Sample.chain_wellFormed reached
    Sample.delivery_honest (by decide +kernel) (Task.up_of_settled settled)⟩

/-- The first publish fails, the second succeeds, and the next tick drains the
buffer. -/
def Sample.overtaking : List Label :=
  Sample.start ++ [Sample.read, .nextTransaction, .published false, .nextTransaction,
    .receive 1, .published true, .nextTransaction, .delayElapsed, .flushTick,
    .persisted true, .tryResumeIfConnected, .receive 2, .published true]

/-- Block 101 is acknowledged before block 100. -/
theorem direct_publish_overtakes_buffer :
    ¬ ∀ s, Reaches Sample.deployment Sample.overtaking s → AcknowledgedInOrder s := by
  intro claimed
  have ends : (Runs.run (step Sample.deployment) (State.initial Sample.deployment)
      Sample.overtaking).map
        (fun s => (ackedIn s.trace).reverse.map TransactionMessage.position) =
          some [toLex (101, 2), toLex (100, 0)] := by
    decide +kernel
  obtain ⟨s, reached, positions⟩ := Option.map_eq_some_iff.mp ends
  obtain ⟨second, rest, acked, secondAt, restAt⟩ := List.map_eq_cons_iff.mp positions
  obtain ⟨first, none, split, firstAt, nothing⟩ := List.map_eq_cons_iff.mp restAt
  have listed : (ackedIn s.trace).reverse = [second] ++ first :: none := by
    rw [acked, split]
    rfl
  have ordered := claimed s reached [second] first none listed
  have fresh : first ∉ [second] := by
    intro member
    rw [List.mem_singleton.mp member, secondAt] at firstAt
    exact absurd firstAt (by decide)
  have wrong := ordered fresh second (List.mem_singleton_self second)
  rw [TransactionMessage.Precedes, secondAt, firstAt] at wrong
  exact absurd wrong (by decide)

end NoxIngestor
