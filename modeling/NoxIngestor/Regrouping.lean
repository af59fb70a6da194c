/-
Grouping by transaction, for any list of logs.

The messages built from a list of logs hold each parseable log with complete
metadata once.  Neither the order of the logs nor the order of the hash map can
be told from them.
-/

import NoxIngestor.Reachability

namespace NoxIngestor

open SortedGroups

/-- The events of a message with the metadata it keeps for them. -/
def TransactionMessage.located (message : TransactionMessage) : List LocatedEvent :=
  message.events.map fun event =>
    { blockNumber := message.blockNumber
      logIndex := event.logIndex
      transactionHash := message.transactionHash
      event := event }

/-! ### One group -/

section Group

variable {events : List LocatedEvent} {hash : String}

/-- The events of one transaction, in the order of the list. -/
def eventsOf (events : List LocatedEvent) (hash : String) : List LocatedEvent :=
  events.filter fun event => event.transactionHash = hash

theorem mem_eventsOf {event : LocatedEvent} :
    event ∈ eventsOf events hash ↔ event ∈ events ∧ event.transactionHash = hash := by
  rw [eventsOf, List.mem_filter, decide_eq_true_iff]

theorem messageFor_eq {chainId : Nat} {first : LocatedEvent} {rest : List LocatedEvent}
    (group : eventsOf events hash = first :: rest) :
    messageFor chainId events hash =
      { chainId := chainId
        caller := first.event.caller
        blockNumber := first.blockNumber
        firstLogIndex := first.event.logIndex
        transactionHash := hash
        events := (first :: rest).map LocatedEvent.event } := by
  unfold eventsOf at group
  unfold messageFor
  rw [group]
  rfl

theorem messageFor_located {chainId : Nat}
    (indexed : ∀ event ∈ events, event.event.logIndex = event.logIndex)
    (oneBlock : ∀ left ∈ events, ∀ right ∈ events,
      left.transactionHash = right.transactionHash → left.blockNumber = right.blockNumber) :
    (messageFor chainId events hash).located = eventsOf events hash := by
  cases group : eventsOf events hash with
  | nil =>
      unfold eventsOf at group
      unfold messageFor
      rw [group]
      rfl
  | cons first rest =>
      have members : ∀ event ∈ first :: rest, event ∈ events ∧ event.transactionHash = hash := by
        intro event member
        rw [← group] at member
        exact mem_eventsOf.mp member
      have firstIn := members first List.mem_cons_self
      rw [messageFor_eq group, TransactionMessage.located, List.map_map]
      have same : ∀ event ∈ first :: rest,
          ({ blockNumber := first.blockNumber
             logIndex := event.event.logIndex
             transactionHash := hash
             event := event.event } : LocatedEvent) = event := by
        intro event member
        have here := members event member
        have block : first.blockNumber = event.blockNumber := by
          apply oneBlock first firstIn.1 event here.1
          rw [firstIn.2, here.2]
        rw [block, indexed event here.1, ← here.2]
      exact (List.map_congr_left (g := id) same).trans (List.map_id _)

private theorem eventsOf_increasing (increasing : Increasing LocatedEvent.position events)
    (oneBlock : ∀ left ∈ events, ∀ right ∈ events,
      left.transactionHash = right.transactionHash → left.blockNumber = right.blockNumber) :
    (eventsOf events hash).Pairwise (fun left right => left.logIndex < right.logIndex) := by
  have ordered : Increasing LocatedEvent.position (eventsOf events hash) :=
    increasing.filter _
  apply (List.Pairwise.and_mem.mp ordered).imp
  intro left right both
  obtain ⟨leftIn, rightIn, before⟩ := both
  have leftHere := mem_eventsOf.mp leftIn
  have rightHere := mem_eventsOf.mp rightIn
  have block : left.blockNumber = right.blockNumber := by
    apply oneBlock left leftHere.1 right rightHere.1
    rw [leftHere.2, rightHere.2]
  rcases Prod.Lex.toLex_lt_toLex.mp before with earlier | ⟨_, lower⟩
  · exact absurd earlier (block ▸ lt_irrefl _)
  · exact lower

end Group

/-! ### All groups -/

/-- What a message says about its events. -/
structure GroupOf (message : TransactionMessage) : Prop where
  ordered : message.events.Pairwise (fun left right => left.logIndex < right.logIndex)
  first : ∃ first rest, message.events = first :: rest ∧
    message.firstLogIndex = first.logIndex ∧ message.caller = first.caller
  least : ∀ event ∈ message.events, message.firstLogIndex ≤ event.logIndex

/-- The messages hold every located event once and nothing else, one message for
each transaction, in order. -/
structure Regroups (located : List LocatedEvent) (messages : List TransactionMessage) :
    Prop where
  complete : (messages.flatMap TransactionMessage.located).Perm located
  oneEach : (messages.map TransactionMessage.transactionHash).Nodup
  increasing : Increasing TransactionMessage.position messages
  groups : ∀ message ∈ messages, GroupOf message

namespace BlockReader

variable (reader : BlockReader) {events : List LocatedEvent}

private theorem groupByTransaction_oneEach (order : HashOrder) (events : List LocatedEvent) :
    ((reader.groupByTransaction order events).map
      TransactionMessage.transactionHash).Nodup := by
  have keys : ((order.reorder (transactionMap events)).map Prod.fst).Nodup :=
    ((order.perm _).map Prod.fst).nodup_iff.mpr (collect_nodup _ _ _ events)
  have sorted := (sortBy_perm TransactionMessage.position
    ((order.reorder (transactionMap events)).map (toMessage reader.chainId))).map
      TransactionMessage.transactionHash
  rw [List.map_map] at sorted
  exact sorted.nodup_iff.mpr keys

private theorem groupByTransaction_group (order : HashOrder)
    (increasing : Increasing LocatedEvent.position events)
    (indexed : ∀ event ∈ events, event.event.logIndex = event.logIndex)
    (oneBlock : ∀ left ∈ events, ∀ right ∈ events,
      left.transactionHash = right.transactionHash → left.blockNumber = right.blockNumber) :
    ∀ message ∈ reader.groupByTransaction order events, GroupOf message := by
  intro message member
  obtain ⟨event, inEvents, same⟩ := reader.mem_groupByTransaction.mp member
  have ordered : (eventsOf events event.transactionHash).Pairwise
      (fun left right => left.logIndex < right.logIndex) :=
    eventsOf_increasing increasing oneBlock
  cases group : eventsOf events event.transactionHash with
  | nil =>
      have mine := mem_eventsOf.mpr ⟨inEvents, rfl⟩
      rw [group] at mine
      cases mine
  | cons first rest =>
      have index : ∀ other ∈ first :: rest, other.event.logIndex = other.logIndex := by
        intro other member
        rw [← group] at member
        exact indexed other (mem_eventsOf.mp member).1
      rw [group] at ordered
      rw [same, messageFor_eq group]
      have later : ∀ other ∈ first :: rest, first.event.logIndex ≤ other.event.logIndex := by
        intro other member
        rw [index first List.mem_cons_self, index other member]
        rcases List.mem_cons.mp member with same | inRest
        · exact Nat.le_of_eq (congrArg LocatedEvent.logIndex same.symm)
        · exact Nat.le_of_lt (List.rel_of_pairwise_cons ordered inRest)
      constructor
      · apply List.pairwise_map.mpr
        apply (List.Pairwise.and_mem.mp ordered).imp
        intro left right both
        rw [index left both.1, index right both.2.1]
        exact both.2.2
      · exact ⟨first.event, rest.map LocatedEvent.event, rfl, rfl, rfl⟩
      · intro other member
        obtain ⟨located, inGroup, same⟩ := List.mem_map.mp member
        exact same ▸ later located inGroup

private theorem groupByTransaction_complete (order : HashOrder) (distinct : events.Nodup)
    (indexed : ∀ event ∈ events, event.event.logIndex = event.logIndex)
    (oneBlock : ∀ left ∈ events, ∀ right ∈ events,
      left.transactionHash = right.transactionHash → left.blockNumber = right.blockNumber) :
    ((reader.groupByTransaction order events).flatMap TransactionMessage.located).Perm
      events := by
  have groups {message : TransactionMessage}
      (member : message ∈ reader.groupByTransaction order events) :
      message.located = eventsOf events message.transactionHash := by
    obtain ⟨event, inEvents, same⟩ := reader.mem_groupByTransaction.mp member
    rw [same, messageFor_located indexed oneBlock]
    rfl
  have once : ((reader.groupByTransaction order events).flatMap
      TransactionMessage.located).Nodup := by
    apply List.nodup_flatMap.mpr
    constructor
    · intro message member
      rw [groups member]
      exact distinct.filter _
    · have keys := List.pairwise_map.mp (reader.groupByTransaction_oneEach order events)
      apply (List.Pairwise.and_mem.mp keys).imp
      intro left right both event inLeft inRight
      rw [groups both.1] at inLeft
      rw [groups both.2.1] at inRight
      exact both.2.2 ((mem_eventsOf.mp inLeft).2.symm.trans (mem_eventsOf.mp inRight).2)
  apply (List.perm_ext_iff_of_nodup once distinct).mpr
  intro event
  rw [List.mem_flatMap]
  constructor
  · intro held
    obtain ⟨message, member, inMessage⟩ := held
    rw [groups member] at inMessage
    exact (mem_eventsOf.mp inMessage).1
  · intro inEvents
    have member : messageFor reader.chainId events event.transactionHash ∈
        reader.groupByTransaction order events :=
      reader.mem_groupByTransaction.mpr ⟨event, inEvents, rfl⟩
    refine ⟨_, member, ?_⟩
    rw [groups member]
    exact mem_eventsOf.mpr ⟨inEvents, rfl⟩

private theorem transactionsOf_eq_of_perm {left right : List Log} (separate : SeparateLogs left)
    (same : left.Perm right) (leftOrder rightOrder : HashOrder) :
    reader.transactionsOf leftOrder left = reader.transactionsOf rightOrder right := by
  have distinct := reader.parser.located_distinct separate
  have sorted := sortBy_eq_of_perm distinct (same.filterMap reader.parser.locate)
  have indexed : ∀ event ∈ sortBy LocatedEvent.position (left.filterMap reader.parser.locate),
      event.event.logIndex = event.logIndex := by
    intro event member
    exact reader.parser.located_index (mem_sortBy.mp member)
  have increasing (order : HashOrder) :=
    reader.groupByTransaction_increasing order (sortBy_increasing distinct) indexed
  unfold transactionsOf
  rw [← sorted]
  apply (increasing leftOrder).eq_of_mem_iff (increasing rightOrder)
  intro message
  rw [mem_groupByTransaction, mem_groupByTransaction]

theorem transactionsOf_regroups {logs : List Log} (separate : SeparateLogs logs)
    (order : HashOrder) :
    Regroups (logs.filterMap reader.parser.locate) (reader.transactionsOf order logs) := by
  have distinct := reader.parser.located_distinct separate
  have increasing := sortBy_increasing distinct
  have sorted := sortBy_perm LocatedEvent.position (logs.filterMap reader.parser.locate)
  have indexed : ∀ event ∈ sortBy LocatedEvent.position (logs.filterMap reader.parser.locate),
      event.event.logIndex = event.logIndex := by
    intro event member
    exact reader.parser.located_index (mem_sortBy.mp member)
  have oneBlock : ∀ left ∈ sortBy LocatedEvent.position (logs.filterMap reader.parser.locate),
      ∀ right ∈ sortBy LocatedEvent.position (logs.filterMap reader.parser.locate),
        left.transactionHash = right.transactionHash →
          left.blockNumber = right.blockNumber := by
    intro left leftIn right rightIn
    exact reader.parser.located_oneBlock separate (mem_sortBy.mp leftIn) (mem_sortBy.mp rightIn)
  constructor
  · have once := List.Nodup.of_map LocatedEvent.position distinct
    exact (reader.groupByTransaction_complete order (sorted.nodup_iff.mpr once) indexed
      oneBlock).trans sorted
  · exact reader.groupByTransaction_oneEach order _
  · exact reader.groupByTransaction_increasing order increasing indexed
  · exact reader.groupByTransaction_group order increasing indexed oneBlock

end BlockReader

/-- A batch regroups the logs gathered for its range faithfully, and is the same batch
for any order of the same logs and any order of the hash map. -/
theorem read_batch_regroups {reader : BlockReader} {logs : List Log}
    (separate : SeparateLogs logs) {startBlock latestBlock : Nat}
    (available : startBlock ≤ latestBlock) {fetch : Fetch}
    (gathered : splitLogsOnError startBlock (reader.batchEnd startBlock latestBlock) fetch =
      .ok logs) (order : HashOrder) :
    ∃ batch, reader.readBatch startBlock latestBlock fetch order = .ok batch ∧
      Regroups (logs.filterMap reader.parser.locate) batch.transactions ∧
        ∀ otherFetch otherLogs otherOrder, otherLogs.Perm logs →
          splitLogsOnError startBlock (reader.batchEnd startBlock latestBlock) otherFetch =
            .ok otherLogs →
              reader.readBatch startBlock latestBlock otherFetch otherOrder = .ok batch := by
  have built {someFetch : Fetch} {someLogs : List Log} (someOrder : HashOrder)
      (success : splitLogsOnError startBlock (reader.batchEnd startBlock latestBlock)
        someFetch = .ok someLogs) :
      reader.readBatch startBlock latestBlock someFetch someOrder =
        .ok { transactions := reader.transactionsOf someOrder someLogs
              startBlock := startBlock
              endBlock := reader.batchEnd startBlock latestBlock } := by
    unfold BlockReader.readBatch
    rw [if_neg (Nat.not_lt.mpr available)]
    simp only [success]
  refine ⟨_, built order gathered, reader.transactionsOf_regroups separate order, ?_⟩
  intro otherFetch otherLogs otherOrder same success
  rw [built otherOrder success,
    reader.transactionsOf_eq_of_perm separate same.symm order otherOrder]

theorem read_batch_regroups_sample :
    ∃ batch, (Sample.deployment.reader 50).readBatch 100 101
        (fun _calls _fromBlock _toBlock => .ok Sample.chain) Sample.order = .ok batch ∧
      Regroups (Sample.chain.filterMap Sample.deployment.parser.locate) batch.transactions := by
  have gathered : splitLogsOnError 100 ((Sample.deployment.reader 50).batchEnd 100 101)
      (fun _calls _fromBlock _toBlock => .ok Sample.chain) = .ok Sample.chain := by
    unfold splitLogsOnError
    rw [splitLoop]
    exact splitLoop.eq_1 _ _ _
  obtain ⟨batch, success, regroups, _⟩ :=
    read_batch_regroups Sample.chain_wellFormed.separate (by decide) gathered Sample.order
  exact ⟨batch, success, regroups⟩

end NoxIngestor
