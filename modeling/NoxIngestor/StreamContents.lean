/-
What is on the stream.

An acknowledgement means that the message is stored, or one with its identifier,
which is the same message.  So whatever the cursor covers can be read back from
the stream until it is older than the stream's retention, and nothing else can.
-/

import NoxIngestor.Cursor
import NoxIngestor.Payload
import NoxIngestor.Regrouping
import NoxIngestor.StreamOrder

namespace NoxIngestor

open Scanning DedupStream

/-! ### Acknowledged messages are stored -/

/-- The request whose answer the task waits for. -/
def Task.inFlight : Task → Option (Nat × TransactionMessage)
  | .flush _caller message request _rest => some (request, message)
  | .select (.publish _latest _batch message request _rest) => some (request, message)
  | _ => none

private theorem State.loopTop_inFlight (s : State) : s.loopTop.task.inFlight = none :=
  s.loopTop_cases (motive := fun task => task.inFlight = none) rfl rfl

private theorem State.signalled_delivered (s : State) (pause : Bool) :
    (s.sendPause pause).settleCursor.loopTop.delivered = s.delivered := by
  rcases (s.sendPause pause).settleCursor_cases with same | ⟨_, _, same⟩
  · rw [same]
    rfl
  · rw [same]
    rfl

structure Landed (deployment : Deployment) (s : State) : Prop where
  numbered : s.jetstream.Numbered
  inFlight : ∀ request message, s.task.inFlight = some (request, message) →
    s.jetstream.Tracks deployment.natsMsgId request message
  delivered : ∀ message ∈ s.delivered, s.jetstream.Stores deployment.natsMsgId message

namespace Landed

variable {deployment : Deployment} {s after : State} {label : Label}

theorem kept (landed : Landed deployment s) (jetstream : after.jetstream = s.jetstream)
    (inFlight : after.task.inFlight = none) (delivered : after.delivered = s.delivered) :
    Landed deployment after := by
  constructor
  · exact jetstream ▸ landed.numbered
  · intro request message found
    rw [inFlight] at found
    cases found
  · rw [jetstream, delivered]
    exact landed.delivered

theorem sent (landed : Landed deployment s) {message : TransactionMessage}
    (jetstream : after.jetstream = s.jetstream.send message)
    (inFlight : after.task.inFlight = some (s.jetstream.nextRequest, message))
    (delivered : ∀ other ∈ after.delivered,
      s.jetstream.Stores deployment.natsMsgId other) : Landed deployment after := by
  constructor
  · exact jetstream ▸ landed.numbered.send message
  · intro request other found
    rw [inFlight] at found
    cases found
    exact jetstream ▸ landed.numbered.tracks deployment.natsMsgId message
  · rw [jetstream]
    exact delivered

theorem stored (landed : Landed deployment s) {request : Nat} {message : TransactionMessage}
    (inFlight : s.task.inFlight = some (request, message))
    (received : request ∈ s.jetstream.received) :
    ∀ other ∈ message :: s.delivered, s.jetstream.Stores deployment.natsMsgId other :=
  List.forall_mem_cons.mpr
    ⟨(landed.inFlight request message inFlight).received received, landed.delivered⟩

theorem acked (landed : Landed deployment s) {request : Nat} {message : TransactionMessage}
    (waiting : s.task.inFlight = some (request, message))
    (received : request ∈ s.jetstream.received) (jetstream : after.jetstream = s.jetstream)
    (inFlight : after.task.inFlight = none) (delivered : after.delivered = message :: s.delivered) :
    Landed deployment after := by
  constructor
  · exact jetstream ▸ landed.numbered
  · intro request message found
    rw [inFlight] at found
    cases found
  · rw [jetstream, delivered]
    exact landed.stored waiting received

theorem step (landed : Landed deployment s) (moved : Transition deployment s label after) :
    Landed deployment after := by
  have paced (finished : State) (jetstream : finished.jetstream = s.jetstream)
      (delivered : finished.delivered = s.delivered) (gap : Nat) :
      Landed deployment (finished.pace gap) := by
    obtain ⟨needsDelay, same⟩ := finished.pace_eq gap
    rw [same]
    exact landed.kept jetstream (State.loopTop_inFlight _) delivered
  have written (success : Bool) (task : Task) (idle : task.inFlight = none) :
      Landed deployment ((s.writeFile success).goto task) := by
    obtain ⟨file, same⟩ := s.writeFile_eq success
    rw [same]
    exact landed.kept rfl idle rfl
  cases moved with
  | elapse millis => exact ⟨landed.numbered, landed.inFlight, landed.delivered⟩
  | natsEvent state up => exact ⟨landed.numbered, landed.inFlight, landed.delivered⟩
  | shutdownSignal up => exact ⟨landed.numbered, landed.inFlight, landed.delivered⟩
  | retried label reading here retry => exact landed
  | receive request jetstream received =>
      exact
        { numbered := landed.numbered.receive received
          inFlight := fun other message found =>
            (landed.inFlight other message found).receive received
          delivered := fun message member =>
            (landed.delivered message member).receive received }
  | start settings readable events store startBlock here loaded determined =>
      exact landed.kept rfl (State.loopTop_inFlight _) rfl
  | delayElapsed here running => exact landed.kept rfl (State.loopTop_inFlight _) rfl
  | resumed here connected nothing =>
      exact landed.kept (State.settleCursor_jetstream _) (State.loopTop_inFlight _)
        (s.signalled_delivered false)
  | paused here disconnected =>
      exact landed.kept (State.settleCursor_jetstream _) (State.loopTop_inFlight _)
        (s.signalled_delivered true)
  | persisted success here => exact written success .tryResume rfl
  | finalPersisted success here => exact written success .down rfl
  | resumeSkipped here skipped => exact landed.kept rfl (State.loopTop_inFlight _) rfl
  | flushStarted caller message later here connected buffered labelled =>
      exact landed.sent rfl rfl landed.delivered
  | flushAcked caller message request next later here received =>
      exact landed.sent rfl rfl (landed.stored (congrArg Task.inFlight here) received)
  | flushDone caller message request here received =>
      exact landed.acked (congrArg Task.inFlight here) received
        (State.settleCursor_jetstream _) (State.loopTop_inFlight _)
        ((s.record (.acked message)).signalled_delivered false)
  | flushFailedResumed message request later here =>
      exact landed.kept (State.settleCursor_jetstream _) (State.loopTop_inFlight _)
        ((s.returnBuffer (message :: later)).signalled_delivered false)
  | flushFailedHeld message request later here =>
      exact landed.kept rfl (State.loopTop_inFlight _) rfl
  | caughtUp latest here ahead => exact landed.kept rfl (State.loopTop_inFlight _) rfl
  | batchEmpty latest batch here empty => exact paced s rfl rfl _
  | batchDelivered latest batch here nonempty nothing =>
      exact paced ((s.advance batch.endBlock).updateStore batch.endBlock) rfl rfl _
  | batchHeld latest batch here nonempty waiting =>
      exact paced (s.advance batch.endBlock) rfl rfl _
  | handed latest batch transaction later here room connected =>
      exact landed.sent rfl rfl landed.delivered
  | publishAcked latest batch message request later here received =>
      exact landed.acked (congrArg Task.inFlight here) received rfl rfl rfl
  | waitCancelled latest batch later here cancelled =>
      exact landed.kept rfl (State.loopTop_inFlight _) rfl
  | _ => exact landed.kept rfl rfl rfl

theorem initial : Landed deployment (State.initial deployment) :=
  { numbered := .empty
    inFlight := fun _request _message found => nomatch found
    delivered := fun _message member => absurd member List.not_mem_nil }

theorem of_run {labels : List Label} (reached : Reaches deployment labels s) :
    Landed deployment s :=
  reached.always .initial fun _s _label _next landed moved => landed.step moved

end Landed

/-! ### The messages of the stream -/

/-- The stream drops what is older than its retention. -/
def State.streamed (s : State) (deployment : Deployment) : List TransactionMessage :=
  (s.jetstream.retained deployment.retains s.clock).map StoredMessage.message

theorem Transition.delivered_of_down {deployment : Deployment} {s after : State} {label : Label}
    (moved : Transition deployment s label after) (down : after.task = .down) :
    after.delivered = s.delivered := by
  have running (head : State) : head.loopTop.task ≠ .down := head.loopTop_up
  have paced (finished : State) (gap : Nat) : (finished.pace gap).task ≠ .down := by
    obtain ⟨needsDelay, same⟩ := finished.pace_eq gap
    rw [same]
    exact State.loopTop_up _
  cases moved with
  | elapse millis => rfl
  | natsEvent state up => rfl
  | receive request jetstream received => rfl
  | shutdownSignal up => rfl
  | crash up => rfl
  | finalPersisted success here =>
      obtain ⟨file, same⟩ := s.writeFile_eq success
      rw [same]
      rfl
  | retried label reading here retry => rfl
  | start settings readable events store startBlock here loaded determined =>
      exact absurd down (running _)
  | delayElapsed here going => exact absurd down (running _)
  | resumed here connected nothing => exact absurd down (running _)
  | paused here disconnected => exact absurd down (running _)
  | resumeSkipped here skipped => exact absurd down (running _)
  | flushDone caller message request here received => exact absurd down (running _)
  | flushFailedResumed message request later here => exact absurd down (running _)
  | flushFailedHeld message request later here => exact absurd down (running _)
  | caughtUp latest here ahead => exact absurd down (running _)
  | batchEmpty latest batch here empty => exact absurd down (paced _ _)
  | batchDelivered latest batch here nonempty nothing => exact absurd down (paced _ _)
  | batchHeld latest batch here nonempty waiting => exact absurd down (paced _ _)
  | waitCancelled latest batch later here cancelled => exact absurd down (running _)
  | _ => cases down

theorem LedgerStep.past {deployment : Deployment} {s after : State} {label : Label}
    (recorded : LedgerStep deployment s label after) :
    after.past = s.past ∨ after.past = s.delivered := by
  cases recorded with
  | unchanged same => exact .inl (congrArg Ledger.past same)
  | elapsed millis labelled same => exact .inl (congrArg Ledger.past same)
  | logged events quiet same => exact .inl (congrArg Ledger.past same)
  | succeeded event success same => exact .inl (congrArg Ledger.past same)
  | updated events quiet block reason same => exact .inl (congrArg Ledger.past same)
  | written persists same => exact .inl (congrArg Ledger.past same)
  | restarted readable store startBlock stallThreshold loaded determined next same =>
      exact .inr (congrArg Ledger.past same)

structure Authentic (deployment : Deployment) (chain : List Log) (s : State) : Prop where
  faithful : Faithful deployment chain s
  delivered : ∀ message ∈ s.delivered, deployment.Genuine chain message

theorem Authentic.step {deployment : Deployment} {chain : List Log} {s after : State}
    {label : Label} (wellFormed : WellFormedChain chain) (authentic : Authentic deployment chain s)
    (moved : Transition deployment s label after)
    (honest : label.Honest deployment.parser chain) : Authentic deployment chain after := by
  have faithful := authentic.faithful.step wellFormed moved honest
  refine ⟨faithful, ?_⟩
  by_cases down : after.task = .down
  · rw [moved.delivered_of_down down]
    exact authentic.delivered
  · intro message member
    rcases List.mem_append.mp member with acked | past
    · apply faithful.line _ (State.scan_of_up down)
      apply List.mem_append_left
      exact List.mem_append_left _ (List.mem_reverse.mpr acked)
    · apply authentic.delivered
      rcases LedgerStep.past (.of_transition moved) with same | same
      · exact List.mem_append_right _ (same ▸ past)
      · exact same ▸ past

section Contents

variable {deployment : Deployment} {chain : List Log} {labels : List Label} {s : State}
  (wellFormed : WellFormedChain chain)
  (noCollision : NoCollision deployment.keccak256 (deployment.Genuine chain))
  (reached : Reaches deployment labels s)
  (honest : ∀ label ∈ labels, label.Honest deployment.parser chain)

include wellFormed reached honest

private theorem authentic_of_run : Authentic deployment chain s :=
  reached.invariant_of_labels ⟨.initial, fun _message member => absurd member List.not_mem_nil⟩
    (fun _s _label _next honest authentic moved => authentic.step wellFormed moved honest) honest

private theorem streamed_genuine :
    ∀ message ∈ s.streamed deployment, deployment.Genuine chain message := by
  intro message member
  obtain ⟨entry, held, rfl⟩ := List.mem_map.mp member
  have stored := List.mem_of_mem_filter held
  exact (authentic_of_run wellFormed reached honest).faithful.stored entry stored

include noCollision

private theorem delivered_stored :
    ∀ message ∈ s.delivered, ∃ entry ∈ s.jetstream.stored, entry.message = message := by
  intro message member
  have authentic := authentic_of_run wellFormed reached honest
  have genuine := authentic.delivered message member
  obtain ⟨entry, stored, same⟩ := (Landed.of_run reached).delivered message member
  have kept := authentic.faithful.stored entry stored
  have digests := B256.toHex_injective same
  have keys := TransactionMessage.key_of_checksumInput
    (noCollision entry.message message kept genuine digests)
  exact ⟨entry, stored, kept.eq_of_key rfl genuine keys⟩

end Contents

/-! ### What the stream still holds -/

/-- What JetStream received of the transaction was handed over within the retention. -/
def WithinRetention (deployment : Deployment) (observed : Observed) (transactionHash : String) :
    Prop :=
  ∀ sending ∈ observed.2, sending.request ∈ observed.1.jetstream.received →
    sending.message.transactionHash = transactionHash →
      deployment.retains (observed.1.clock - sending.time) = true

instance (deployment : Deployment) (observed : Observed) (transactionHash : String) :
    Decidable (WithinRetention deployment observed transactionHash) :=
  inferInstanceAs (Decidable (∀ sending ∈ observed.2, _ → _ → _))

private theorem Deployment.retains_shorter (deployment : Deployment) {age older : Nat}
    (shorter : age ≤ older) (retained : deployment.retains older = true) :
    deployment.retains age = true := by
  unfold Deployment.retains at retained ⊢
  rw [Bool.or_eq_true] at retained ⊢
  apply retained.imp_right
  intro within
  have bound := Nat.mul_le_mul_left 1000000 shorter
  exact decide_eq_true (Nat.lt_of_le_of_lt bound (of_decide_eq_true within))

private theorem Observes.streamed {deployment : Deployment} {labels : List Label} {s : State}
    {log : List (Sending TransactionMessage)} (observes : Observes deployment labels (s, log))
    {entry : StoredMessage TransactionMessage} (stored : entry ∈ s.jetstream.stored)
    (young : WithinRetention deployment (s, log) entry.message.transactionHash) :
    entry.message ∈ s.streamed deployment := by
  obtain ⟨sending, logged, same, before, received⟩ := observes.recorded.stored entry stored
  have retained := young sending logged received
    (congrArg TransactionMessage.transactionHash same)
  refine List.mem_map_of_mem (List.mem_filter.mpr ⟨stored, ?_⟩)
  exact deployment.retains_shorter (Nat.sub_le_sub_left before _) retained

/-! ### What a consumer reads -/

/-- The located events a consumer gets from the payloads on the stream. -/
def State.consumed (s : State) (deployment : Deployment) : List LocatedEvent :=
  ((s.streamed deployment).filterMap fun message =>
    TransactionMessage.fromBytes message.toBytes).flatMap TransactionMessage.located

/-- Block numbers and log indices are those of the numeric types. -/
def NumbersInRange (chain : List Log) : Prop :=
  ∀ log ∈ chain, (∀ block ∈ log.blockNumber, block < 2 ^ 64) ∧
    ∀ index ∈ log.logIndex, index < 2 ^ 64

section Reading

variable {deployment : Deployment} {chain : List Log}

private theorem chainEvents_inRange (inRange : NumbersInRange chain) {event : LocatedEvent}
    (member : event ∈ deployment.parser.chainEvents chain) :
    event.blockNumber < 2 ^ 64 ∧ event.logIndex < 2 ^ 64 := by
  obtain ⟨log, watched, located⟩ := List.mem_filterMap.mp member
  obtain ⟨block, index, _, _⟩ := NoxEventParser.locate_eq_some located
  obtain ⟨blocks, indices⟩ := inRange log (List.mem_of_mem_filter watched)
  exact ⟨blocks event.blockNumber block, indices event.logIndex index⟩

theorem Deployment.Genuine.located (wellFormed : WellFormedChain chain)
    {message : TransactionMessage} (genuine : deployment.Genuine chain message)
    (event : LocatedEvent) :
    event ∈ message.located ↔ event ∈ deployment.parser.chainEvents chain ∧
      event.transactionHash = message.transactionHash := by
  obtain ⟨source, _, rfl⟩ := genuine
  have sorted {found : LocatedEvent}
      (member : found ∈ SortedGroups.sortBy LocatedEvent.position
        (deployment.parser.chainEvents chain)) :
      found ∈ deployment.parser.chainEvents chain := SortedGroups.mem_sortBy.mp member
  unfold NoxEventParser.chainMessage
  rw [messageFor_located
    (fun found member => deployment.parser.chainEvents_index (sorted member))
    (fun left leftIn right rightIn same =>
      deployment.parser.chainEvents_oneBlock wellFormed (sorted leftIn) (sorted rightIn) same),
    mem_eventsOf, SortedGroups.mem_sortBy]
  rfl

theorem Deployment.Genuine.inRange (wellFormed : WellFormedChain chain)
    (numbers : NumbersInRange chain) (chainId : deployment.config.chainId < 2 ^ 32)
    {message : TransactionMessage} (genuine : deployment.Genuine chain message) :
    message.InRange := by
  have held := genuine.located wellFormed
  obtain ⟨source, sourceIn, same⟩ := genuine
  constructor
  · rw [same]
    exact chainId
  · rw [same, chainMessage_blockNumber deployment wellFormed sourceIn]
    exact (chainEvents_inRange numbers sourceIn).1
  · intro event member
    have located : { blockNumber := message.blockNumber
                     logIndex := event.logIndex
                     transactionHash := message.transactionHash
                     event := event } ∈ message.located :=
      List.mem_map_of_mem member
    exact (chainEvents_inRange numbers ((held _).mp located).1).2

variable {labels : List Label} {s : State}
  (wellFormed : WellFormedChain chain) (numbers : NumbersInRange chain)
  (chainId : deployment.config.chainId < 2 ^ 32)
  (reached : Reaches deployment labels s)
  (honest : ∀ label ∈ labels, label.Honest deployment.parser chain)

include wellFormed numbers chainId reached honest

theorem mem_consumed_iff (event : LocatedEvent) :
    event ∈ s.consumed deployment ↔ event ∈ deployment.parser.chainEvents chain ∧
      ∃ message ∈ s.streamed deployment,
        message.transactionHash = event.transactionHash := by
  have genuine := streamed_genuine wellFormed reached honest
  have payload {message : TransactionMessage} (member : message ∈ s.streamed deployment) :
      TransactionMessage.fromBytes message.toBytes =
        some { message with firstLogIndex := 0 } :=
    message.fromBytes_toBytes ((genuine message member).inRange wellFormed numbers chainId)
  unfold State.consumed
  rw [List.mem_flatMap]
  constructor
  · rintro ⟨decoded, read, located⟩
    obtain ⟨message, member, same⟩ := List.mem_filterMap.mp read
    rw [payload member] at same
    cases same
    obtain ⟨inChain, hash⟩ := ((genuine message member).located wellFormed event).mp located
    exact ⟨inChain, message, member, hash.symm⟩
  · rintro ⟨inChain, message, member, hash⟩
    refine ⟨_, List.mem_filterMap.mpr ⟨message, member, payload member⟩, ?_⟩
    exact ((genuine message member).located wellFormed event).mpr ⟨inChain, hash.symm⟩

private theorem consumed_in_chain :
    ∀ event ∈ s.consumed deployment, event ∈ deployment.parser.chainEvents chain := by
  intro event member
  exact ((mem_consumed_iff wellFormed numbers chainId reached honest event).mp member).1

omit reached

variable {log : List (Sending TransactionMessage)}
  (observes : Observes deployment labels (s, log))
  (noCollision : NoCollision deployment.keccak256 (deployment.Genuine chain))

include observes noCollision

private theorem consumed_of_carried {fromBlock beforeBlock : Nat}
    (carried : deployment.parser.CarriedBy chain fromBlock beforeBlock s.delivered)
    (event : LocatedEvent) (inChain : event ∈ deployment.parser.chainEvents chain)
    (lower : fromBlock ≤ event.blockNumber) (upper : event.blockNumber < beforeBlock)
    (young : WithinRetention deployment (s, log) event.transactionHash) :
    event ∈ s.consumed deployment := by
  have reached := observes.reaches
  obtain ⟨message, delivered, carries⟩ := carried event inChain lower upper
  obtain ⟨entry, stored, same⟩ :=
    delivered_stored wellFormed noCollision reached honest message delivered
  have hash : entry.message.transactionHash = event.transactionHash := same ▸ carries.1
  apply (mem_consumed_iff wellFormed numbers chainId reached honest event).mpr
  exact ⟨inChain, entry.message, observes.streamed stored (hash.symm ▸ young), hash⟩

/-- A consumer reads back nothing but the chain's events; and up to any block the cursor
was updated to it reads back every event of the blocks the session scanned that was
handed over within the retention. -/
theorem consumer_rebuilds_chain {time block : Nat}
    (updated : (time, .updated block) ∈ s.trace) :
    (∀ event ∈ s.consumed deployment, event ∈ deployment.parser.chainEvents chain) ∧
      ∀ event ∈ deployment.parser.chainEvents chain, s.startBlock ≤ event.blockNumber →
        event.blockNumber ≤ block →
          WithinRetention deployment (s, log) event.transactionHash →
            event ∈ s.consumed deployment := by
  have reached := observes.reaches
  refine ⟨consumed_in_chain wellFormed numbers chainId reached honest, ?_⟩
  intro event inChain lower upper young
  obtain ⟨newer, older, split⟩ := List.append_of_mem updated
  have justified := (Accounted.of_run reached honest).updates newer time block older split
  apply consumed_of_carried wellFormed numbers chainId honest observes noCollision _ event
    inChain lower (Nat.lt_succ_of_le upper) young
  apply justified.mono
  intro message member
  apply List.mem_append_left
  rw [split, ackedIn, List.filterMap_append]
  exact List.mem_append_right _ member

/-- Whoever finds the state file later: a consumer reads back nothing but the chain's
events, and from the initial block up to the file's last one every event that was handed
over within the retention. -/
theorem persisted_cursor_streamed
    (throughout : Throughout deployment (FirstBlockDelivered deployment chain) labels)
    {state : PersistedState} (held : s.file = some state) :
    (∀ event ∈ s.consumed deployment, event ∈ deployment.parser.chainEvents chain) ∧
      ∀ event ∈ deployment.parser.chainEvents chain,
        deployment.config.initialBlock ≤ event.blockNumber →
          event.blockNumber ≤ state.lastBlock →
            WithinRetention deployment (s, log) event.transactionHash →
              event ∈ s.consumed deployment := by
  have reached := observes.reaches
  refine ⟨consumed_in_chain wellFormed numbers chainId reached honest, ?_⟩
  intro event inChain lower upper young
  have durable : Accounted deployment chain s ∧ Durable deployment chain s.ledger := by
    apply Reaches.invariant ⟨.initial, .initial⟩ _ reached
      ((Runs.guarded_of_labels honest).and throughout)
    rintro before label next ⟨honestly, allowed⟩ ⟨accounted, durable⟩ moved
    have later := accounted.step moved honestly
    exact ⟨later, durable.step (.of_transition moved) later.updates allowed⟩
  exact consumed_of_carried wellFormed numbers chainId honest observes noCollision
    (durable.2.stored state held) event inChain lower (Nat.lt_succ_of_le upper) young

end Reading

private theorem Sample.numbersInRange : NumbersInRange Sample.chain := by
  intro log member
  rcases List.mem_pair.mp member with rfl | rfl
  · exact ⟨fun block found => Option.some.inj found ▸ by decide,
      fun index found => Option.some.inj found ▸ by decide⟩
  · exact ⟨fun block found => Option.some.inj found ▸ by decide,
      fun index found => Option.some.inj found ▸ by decide⟩

/-- A day after the delivery, less a second, the stream still holds both messages. -/
theorem consumer_rebuilds_chain_delivery :
    ∃ s log, Observes Sample.deployment (Sample.delivery ++ [.elapse 86399000]) (s, log) ∧
      s.startBlock = 100 ∧ ∀ event ∈ Sample.deployment.parser.chainEvents Sample.chain,
        100 ≤ event.blockNumber → event.blockNumber ≤ 101 →
          event ∈ s.consumed Sample.deployment := by
  have ends : (Runs.run (observe Sample.deployment) (Observed.initial Sample.deployment)
      (Sample.delivery ++ [.elapse 86399000])).map (fun observed =>
        (observed.1.startBlock, decide ((0, .updated 101) ∈ observed.1.trace),
          decide (∀ event ∈ Sample.deployment.parser.chainEvents Sample.chain,
            WithinRetention Sample.deployment observed event.transactionHash))) =
        some (100, true, true) := by
    decide +kernel
  obtain ⟨⟨s, log⟩, observes, values⟩ := Option.map_eq_some_iff.mp ends
  simp only [Prod.mk.injEq, decide_eq_true_eq] at values
  obtain ⟨first, updated, young⟩ := values
  have honest : ∀ label ∈ Sample.delivery ++ [.elapse 86399000],
      label.Honest Sample.deployment.parser Sample.chain := by
    refine List.forall_mem_append.mpr ⟨Sample.delivery_honest, ?_⟩
    simp only [List.forall_mem_cons, Label.Honest, List.not_mem_nil, IsEmpty.forall_iff,
      implies_true, and_true]
  refine ⟨s, log, observes, first, fun event inChain lower upper => ?_⟩
  exact (consumer_rebuilds_chain Sample.chain_wellFormed Sample.numbersInRange (by decide) honest
    observes Sample.noCollision updated).2 event inChain (first.symm ▸ lower) upper
      (young event inChain)

theorem persisted_cursor_streamed_crashAfterDelivery :
    ∃ s log state, Observes Sample.deployment Sample.crashAfterDelivery (s, log) ∧
      s.file = some state ∧ state.lastBlock = 101 ∧
        ∀ event ∈ Sample.deployment.parser.chainEvents Sample.chain, 100 ≤ event.blockNumber →
          event.blockNumber ≤ 101 → event ∈ s.consumed Sample.deployment := by
  have ends : (Runs.run (observe Sample.deployment) (Observed.initial Sample.deployment)
      Sample.crashAfterDelivery).map (fun observed =>
        (observed.1.file.map PersistedState.lastBlock,
          decide (∀ event ∈ Sample.deployment.parser.chainEvents Sample.chain,
            WithinRetention Sample.deployment observed event.transactionHash))) =
        some (some 101, true) := by
    decide +kernel
  obtain ⟨⟨s, log⟩, observes, values⟩ := Option.map_eq_some_iff.mp ends
  obtain ⟨file, young⟩ := Prod.mk.inj values
  obtain ⟨state, held, block⟩ := Option.map_eq_some_iff.mp file
  have honest : ∀ label ∈ Sample.crashAfterDelivery,
      label.Honest Sample.deployment.parser Sample.chain := by
    refine List.forall_mem_append.mpr ⟨Sample.delivery_honest, ?_⟩
    simp only [List.forall_mem_cons, Label.Honest, List.not_mem_nil, IsEmpty.forall_iff,
      implies_true, and_true]
  refine ⟨s, log, state, observes, held, block, fun event inChain lower upper => ?_⟩
  exact (persisted_cursor_streamed Sample.chain_wellFormed Sample.numbersInRange (by decide)
    honest observes Sample.noCollision (by decide +kernel) held).2 event inChain lower
      (block.symm ▸ upper) (of_decide_eq_true young event inChain)

end NoxIngestor
