/-
What a successful batch contains, as a function of the chain alone.

A provider is honest when every successful answer to a range is a
rearrangement of the chain's matching logs of that range.  Under an honest
provider the bisection, the order of the answers, the order of the hash map and
the position of the batch boundaries cannot be told from the messages.
-/

import NoxIngestor.Chain.Reader

namespace NoxIngestor

open SortedGroups

/-- Logs of a chain: one log per block and index, one block per transaction. -/
structure WellFormedChain (chain : List Log) : Prop where
  distinct : chain.Pairwise (fun left right => ∀ block index,
    left.blockNumber = some block → left.logIndex = some index →
      ¬ (right.blockNumber = some block ∧ right.logIndex = some index))
  oneBlock : ∀ left ∈ chain, ∀ right ∈ chain, ∀ hash,
    left.transactionHash = some hash → right.transactionHash = some hash →
      left.blockNumber = right.blockNumber

/-- No two logs at one place of the chain, and no transaction in two blocks. -/
structure SeparateLogs (logs : List Log) : Prop where
  distinct : logs.Pairwise (fun left right => ∀ block index,
    left.blockNumber = some block → left.logIndex = some index →
      ¬ (right.blockNumber = some block ∧ right.logIndex = some index))
  oneBlock : ∀ left ∈ logs, ∀ right ∈ logs, ∀ hash leftBlock rightBlock,
    left.transactionHash = some hash → right.transactionHash = some hash →
      left.blockNumber = some leftBlock → right.blockNumber = some rightBlock →
        leftBlock = rightBlock

theorem WellFormedChain.separate {chain : List Log} (wellFormed : WellFormedChain chain) :
    SeparateLogs chain := by
  refine ⟨wellFormed.distinct, ?_⟩
  intro left leftIn right rightIn hash leftBlock rightBlock leftHash rightHash leftAt rightAt
  have blocks := wellFormed.oneBlock left leftIn right rightIn hash leftHash rightHash
  rw [leftAt, rightAt] at blocks
  exact Option.some.inj blocks

theorem SeparateLogs.sublist {logs part : List Log} (separate : SeparateLogs logs)
    (sublist : part.Sublist logs) : SeparateLogs part := by
  refine ⟨separate.distinct.sublist sublist, ?_⟩
  intro left leftIn right rightIn
  exact separate.oneBlock left (sublist.subset leftIn) right (sublist.subset rightIn)

/-! ### Located events of the chain -/

def within (fromBlock toBlock : Nat) (event : LocatedEvent) : Bool :=
  decide (fromBlock ≤ event.blockNumber ∧ event.blockNumber ≤ toBlock)

theorem NoxEventParser.locate_eq_some {parser : NoxEventParser} {log : Log}
    {event : LocatedEvent} (located : parser.locate log = some event) :
    log.blockNumber = some event.blockNumber ∧ log.logIndex = some event.logIndex ∧
      (∃ hash, log.transactionHash = some hash ∧ event.transactionHash = hash.toHex) ∧
      event.event.logIndex = event.logIndex := by
  unfold NoxEventParser.locate toTransactionEvent at located
  cases parsed : parser.parse log with
  | none => simp only [parsed, Option.bind_none, reduceCtorEq] at located
  | some decoded =>
      cases hHash : log.transactionHash with
      | none => simp [parsed, hHash] at located
      | some hash =>
          cases hBlock : log.blockNumber with
          | none => simp [parsed, hHash, hBlock] at located
          | some block =>
              cases hIndex : log.logIndex with
              | none => simp [parsed, hHash, hBlock, hIndex] at located
              | some index =>
                  simp only [parsed, hHash, hBlock, hIndex, Option.bind_some,
                    Option.bind_eq_bind, Option.pure_def, Option.some.injEq] at located
                  subst event
                  exact ⟨rfl, rfl, ⟨hash, rfl, rfl⟩, rfl⟩

namespace NoxEventParser

variable (parser : NoxEventParser)

section Located

variable {logs : List Log}

theorem located_distinct (separate : SeparateLogs logs) :
    ((logs.filterMap parser.locate).map LocatedEvent.position).Nodup := by
  apply List.pairwise_map.mpr
  apply List.pairwise_filterMap.mpr
  apply separate.distinct.imp
  intro left right apart leftEvent leftLocated rightEvent rightLocated same
  have leftMeta := NoxEventParser.locate_eq_some leftLocated
  have rightMeta := NoxEventParser.locate_eq_some rightLocated
  have coordinates := congrArg ofLex same
  simp only [LocatedEvent.position, ofLex_toLex, Prod.mk.injEq] at coordinates
  apply apart leftEvent.blockNumber leftEvent.logIndex leftMeta.1 leftMeta.2.1
  rw [coordinates.1, coordinates.2]
  exact ⟨rightMeta.1, rightMeta.2.1⟩

theorem located_oneBlock (separate : SeparateLogs logs) {left right : LocatedEvent}
    (leftMember : left ∈ logs.filterMap parser.locate)
    (rightMember : right ∈ logs.filterMap parser.locate)
    (same : left.transactionHash = right.transactionHash) :
    left.blockNumber = right.blockNumber := by
  obtain ⟨leftLog, leftIn, leftLocated⟩ := List.mem_filterMap.mp leftMember
  obtain ⟨rightLog, rightIn, rightLocated⟩ := List.mem_filterMap.mp rightMember
  obtain ⟨leftBlock, _, ⟨leftHash, leftHashAt, leftText⟩, _⟩ :=
    NoxEventParser.locate_eq_some leftLocated
  obtain ⟨rightBlock, _, ⟨rightHash, rightHashAt, rightText⟩, _⟩ :=
    NoxEventParser.locate_eq_some rightLocated
  have hashes : leftHash = rightHash := by
    apply B256.toHex_injective
    rw [← leftText, ← rightText, same]
  subst rightHash
  exact separate.oneBlock leftLog leftIn rightLog rightIn leftHash _ _ leftHashAt rightHashAt
    leftBlock rightBlock

theorem located_index {event : LocatedEvent} (member : event ∈ logs.filterMap parser.locate) :
    event.event.logIndex = event.logIndex := by
  obtain ⟨log, _, located⟩ := List.mem_filterMap.mp member
  exact (NoxEventParser.locate_eq_some located).2.2.2

end Located

/-- The contract emitted the log under one of the known signatures. -/
def watches (log : Log) : Bool :=
  decide (log.address = parser.contractAddress) &&
    (match log.topics with
      | [] => false
      | topic0 :: _ => parser.eventSignatures.contains topic0)

/-- All parseable logs of the contract with complete metadata. -/
def chainEvents (chain : List Log) : List LocatedEvent :=
  (chain.filter parser.watches).filterMap parser.locate

theorem accepts_eq (fromBlock toBlock : Nat) (log : Log) :
    (parser.logFilter fromBlock toBlock).accepts log =
      (parser.watches log &&
        (match log.blockNumber with
          | none => false
          | some block => decide (fromBlock ≤ block ∧ block ≤ toBlock))) := rfl

private theorem filterMap_accepts (chain : List Log) (fromBlock toBlock : Nat) :
    (chain.filter (parser.logFilter fromBlock toBlock).accepts).filterMap
        parser.locate =
      (parser.chainEvents chain).filter (within fromBlock toBlock) := by
  unfold chainEvents
  induction chain with
  | nil => rfl
  | cons log rest ih =>
      cases watched : parser.watches log with
      | false =>
          have rejected : (parser.logFilter fromBlock toBlock).accepts log = false := by
            rw [accepts_eq, watched, Bool.false_and]
          simp only [List.filter_cons, rejected, watched, Bool.false_eq_true, if_false, ih]
      | true =>
          cases located : parser.locate log with
          | none =>
              have tail : (List.filter parser.watches (log :: rest)).filterMap
                  parser.locate =
                  (List.filter parser.watches rest).filterMap parser.locate := by
                simp only [List.filter_cons, watched, if_true, List.filterMap_cons, located]
              rw [tail, ← ih, List.filter_cons]
              split
              · simp only [List.filterMap_cons, located]
              · rfl
          | some event =>
              have block := (NoxEventParser.locate_eq_some located).1
              have accepted : (parser.logFilter fromBlock toBlock).accepts log =
                  within fromBlock toBlock event := by
                rw [accepts_eq, watched, block, Bool.true_and]
                rfl
              simp only [List.filter_cons, accepted, watched, if_true,
                List.filterMap_cons, located]
              split
              · simp only [List.filterMap_cons, located, ih]
              · exact ih

theorem chainEvents_index {chain : List Log} {event : LocatedEvent}
    (member : event ∈ parser.chainEvents chain) :
    event.event.logIndex = event.logIndex :=
  parser.located_index member

theorem chainEvents_distinct {chain : List Log} (wellFormed : WellFormedChain chain) :
    ((parser.chainEvents chain).map LocatedEvent.position).Nodup :=
  parser.located_distinct (wellFormed.separate.sublist List.filter_sublist)

theorem chainEvents_oneBlock {chain : List Log} (wellFormed : WellFormedChain chain)
    {left right : LocatedEvent} (leftMember : left ∈ parser.chainEvents chain)
    (rightMember : right ∈ parser.chainEvents chain)
    (same : left.transactionHash = right.transactionHash) :
    left.blockNumber = right.blockNumber :=
  parser.located_oneBlock (wellFormed.separate.sublist List.filter_sublist) leftMember
    rightMember same

/-! ### Honest providers and the bisection -/

/-- Successful answers list exactly the matching logs, in any order. -/
def Honest (chain : List Log) (fetch : Fetch) : Prop :=
  ∀ calls fromBlock toBlock logs, fetch calls fromBlock toBlock = .ok logs →
    logs.Perm (chain.filter (parser.logFilter fromBlock toBlock).accepts)

theorem filter_split (chain : List Log) {fromBlock mid toBlock : Nat}
    (lower : fromBlock ≤ mid + 1) (upper : mid ≤ toBlock) :
    (chain.filter (parser.logFilter fromBlock mid).accepts ++
        chain.filter (parser.logFilter (mid + 1) toBlock).accepts).Perm
      (chain.filter (parser.logFilter fromBlock toBlock).accepts) := by
  have right : chain.filter (parser.logFilter (mid + 1) toBlock).accepts =
      (chain.filter (parser.logFilter fromBlock toBlock).accepts).filter
        (fun log => !(parser.logFilter fromBlock mid).accepts log) := by
    rw [List.filter_filter]
    apply List.filter_congr
    intro log _
    simp only [accepts_eq]
    cases parser.watches log
    · rfl
    · cases log.blockNumber
      · rfl
      · simp only [Bool.true_and]
        grind
  have left : chain.filter (parser.logFilter fromBlock mid).accepts =
      (chain.filter (parser.logFilter fromBlock toBlock).accepts).filter
        (parser.logFilter fromBlock mid).accepts := by
    rw [List.filter_filter]
    apply List.filter_congr
    intro log _
    simp only [accepts_eq]
    cases parser.watches log
    · rfl
    · cases log.blockNumber
      · rfl
      · simp only [Bool.true_and]
        grind
  rw [left, right]
  exact List.filter_append_perm _ _

private theorem splitLoop_perm {chain : List Log} {fetch : Fetch}
    (honest : parser.Honest chain fetch) (calls : Nat) (logs : List Log)
    (stack : List (Nat × Nat)) (result : List Log)
    (success : splitLoop fetch calls logs stack = .ok result) :
    result.Perm (logs ++ stack.flatMap (fun range =>
      chain.filter (parser.logFilter range.1 range.2).accepts)) := by
  fun_induction splitLoop fetch calls logs stack with
  | case1 calls logs =>
      cases success
      simp only [List.flatMap_nil, List.append_nil, List.Perm.refl]
  | case2 calls logs fromBlock toBlock stack batch answered ih =>
      have fetched := honest calls fromBlock toBlock batch answered
      refine (ih success).trans ?_
      rw [List.append_assoc, List.flatMap_cons]
      exact ((fetched.append_right _).append_left logs)
  | case3 calls logs fromBlock toBlock stack error answered tooLarge mid ih =>
      refine (ih success).trans ?_
      apply List.Perm.append_left
      simp only [List.flatMap_cons]
      rw [← List.append_assoc]
      apply List.Perm.append_right
      apply parser.filter_split
      · omega
      · omega
  | case4 calls logs fromBlock toBlock stack error answered other =>
      cases success

theorem splitLogsOnError_perm {chain : List Log} {fetch : Fetch}
    (honest : parser.Honest chain fetch) {fromBlock toBlock : Nat} {logs : List Log}
    (success : splitLogsOnError fromBlock toBlock fetch = .ok logs) :
    logs.Perm (chain.filter (parser.logFilter fromBlock toBlock).accepts) := by
  have collected := parser.splitLoop_perm honest 0 [] _ logs success
  simpa only [List.flatMap_cons, List.flatMap_nil, List.append_nil, List.nil_append]
    using collected

end NoxEventParser

/-! ### Grouping -/

/-- The message of one transaction, from events listed in scan order. -/
def messageFor (chainId : Nat) (events : List LocatedEvent) (hash : String) :
    TransactionMessage :=
  let group := events.filter (fun event => event.transactionHash = hash)
  toMessage chainId
    (hash, (group.head?.map LocatedEvent.blockNumber).getD 0, group.map LocatedEvent.event)

/-- The message of a transaction, from all of the chain's events. -/
def NoxEventParser.chainMessage (parser : NoxEventParser) (chainId : Nat) (chain : List Log)
    (hash : String) : TransactionMessage :=
  messageFor chainId (sortBy LocatedEvent.position (parser.chainEvents chain)) hash

namespace BlockReader

variable (reader : BlockReader)

private theorem push_events (group : List LocatedEvent) (block : Nat)
    (held : List TransactionEvent) :
    group.foldl (fun entry event =>
        some ((entry.getD (event.blockNumber, [])).1,
          (entry.getD (event.blockNumber, [])).2 ++ [event.event]))
        (some (block, held)) =
      some (block, held ++ group.map LocatedEvent.event) := by
  induction group generalizing held with
  | nil => simp only [List.foldl_nil, List.map_nil, List.append_nil]
  | cons event rest ih =>
      rw [List.foldl_cons]
      simp only [Option.getD_some]
      rw [ih, List.map_cons, List.append_assoc]
      rfl

private theorem mem_transactionMap {events : List LocatedEvent} {hash : String}
    {value : Nat × List TransactionEvent} :
    (hash, value) ∈ transactionMap events ↔
      (∃ event ∈ events, event.transactionHash = hash) ∧
        toMessage reader.chainId (hash, value) = messageFor reader.chainId events hash := by
  unfold transactionMap
  rw [mem_collect]
  unfold gather messageFor
  cases found : events.filter (fun event => event.transactionHash = hash) with
  | nil =>
      have absent : ¬ ∃ event ∈ events, event.transactionHash = hash := by
        rintro ⟨event, member, same⟩
        have inGroup : event ∈ events.filter (fun event => event.transactionHash = hash) :=
          List.mem_filter.mpr ⟨member, decide_eq_true same⟩
        rw [found] at inGroup
        cases inGroup
      simp only [List.foldl_nil, reduceCtorEq, absent, false_and]
  | cons first rest =>
      have present : ∃ event ∈ events, event.transactionHash = hash := by
        have inGroup : first ∈ events.filter (fun event => event.transactionHash = hash) := by
          rw [found]
          exact List.mem_cons_self
        have parts := List.mem_filter.mp inGroup
        exact ⟨first, parts.1, of_decide_eq_true parts.2⟩
      rw [List.foldl_cons]
      simp only [Option.getD_none, List.nil_append]
      rw [push_events, Option.some.injEq]
      simp only [present, true_and, List.head?_cons, Option.map_some, Option.getD_some,
        List.map_cons, List.singleton_append]
      constructor
      · intro same
        subst value
        rfl
      · intro same
        have block := congrArg TransactionMessage.blockNumber same
        have contents := congrArg TransactionMessage.events same
        exact Prod.ext block.symm contents.symm

theorem mem_groupByTransaction {order : HashOrder} {events : List LocatedEvent}
    {message : TransactionMessage} :
    message ∈ reader.groupByTransaction order events ↔
      ∃ event ∈ events, message = messageFor reader.chainId events event.transactionHash := by
  unfold groupByTransaction
  rw [mem_sortBy, List.mem_map]
  constructor
  · rintro ⟨⟨hash, value⟩, member, rfl⟩
    have entry := (order.perm _).mem_iff.mp member
    obtain ⟨⟨event, inEvents, rfl⟩, same⟩ := reader.mem_transactionMap.mp entry
    exact ⟨event, inEvents, same⟩
  · rintro ⟨event, inEvents, rfl⟩
    obtain ⟨value, same⟩ : ∃ value, toMessage reader.chainId
        (event.transactionHash, value) = messageFor reader.chainId events event.transactionHash :=
      ⟨_, rfl⟩
    refine ⟨(event.transactionHash, value), ?_, same⟩
    apply (order.perm _).mem_iff.mpr
    exact reader.mem_transactionMap.mpr ⟨⟨event, inEvents, rfl⟩, same⟩

theorem groupByTransaction_covers (order : HashOrder) {events : List LocatedEvent}
    {event : LocatedEvent} (member : event ∈ events) :
    ∃ message ∈ reader.groupByTransaction order events,
      message.transactionHash = event.transactionHash ∧ event.event ∈ message.events := by
  refine ⟨messageFor reader.chainId events event.transactionHash, ?_, rfl, ?_⟩
  · exact reader.mem_groupByTransaction.mpr ⟨event, member, rfl⟩
  · apply List.mem_map_of_mem
    exact List.mem_filter.mpr ⟨member, decide_eq_true rfl⟩

theorem messageFor_position {events : List LocatedEvent}
    (indexed : ∀ event ∈ events, event.event.logIndex = event.logIndex)
    {event : LocatedEvent} (member : event ∈ events) :
    ∃ first ∈ events, first.transactionHash = event.transactionHash ∧
      (messageFor reader.chainId events event.transactionHash).position = first.position := by
  cases found : events.filter
      (fun other => other.transactionHash = event.transactionHash) with
  | nil =>
      have inGroup : event ∈ events.filter
          (fun other => other.transactionHash = event.transactionHash) :=
        List.mem_filter.mpr ⟨member, decide_eq_true rfl⟩
      rw [found] at inGroup
      cases inGroup
  | cons first rest =>
      have inGroup : first ∈ events.filter
          (fun other => other.transactionHash = event.transactionHash) := by
        rw [found]
        exact List.mem_cons_self
      have parts := List.mem_filter.mp inGroup
      refine ⟨first, parts.1, of_decide_eq_true parts.2, ?_⟩
      unfold messageFor TransactionMessage.position LocatedEvent.position
      simp only [found, toMessage, List.head?_cons, Option.map_some, Option.getD_some,
        List.map_cons, indexed first parts.1]

theorem groupByTransaction_increasing (order : HashOrder) {events : List LocatedEvent}
    (increasing : Increasing LocatedEvent.position events)
    (indexed : ∀ event ∈ events, event.event.logIndex = event.logIndex) :
    Increasing TransactionMessage.position (reader.groupByTransaction order events) := by
  apply sortBy_increasing
  rw [List.map_map]
  have keys : ((order.reorder (transactionMap events)).map Prod.fst).Nodup :=
    ((order.perm _).map Prod.fst).nodup_iff.mpr (collect_nodup _ _ _ events)
  apply List.pairwise_map.mpr
  apply (List.Pairwise.and_mem.mp (List.pairwise_map.mp keys)).imp
  rintro ⟨leftHash, leftValue⟩ ⟨rightHash, rightValue⟩ ⟨leftMember, rightMember, differ⟩ same
  obtain ⟨⟨leftEvent, leftIn, rfl⟩, leftSame⟩ :=
    reader.mem_transactionMap.mp ((order.perm _).mem_iff.mp leftMember)
  obtain ⟨⟨rightEvent, rightIn, rfl⟩, rightSame⟩ :=
    reader.mem_transactionMap.mp ((order.perm _).mem_iff.mp rightMember)
  obtain ⟨leftFirst, leftFirstIn, leftText, leftAt⟩ :=
    reader.messageFor_position indexed leftIn
  obtain ⟨rightFirst, rightFirstIn, rightText, rightAt⟩ :=
    reader.messageFor_position indexed rightIn
  have positions : leftFirst.position = rightFirst.position := by
    rw [← leftAt, ← rightAt, ← leftSame, ← rightSame]
    exact same
  have distinct : (events.map LocatedEvent.position).Nodup :=
    List.pairwise_map.mpr (increasing.imp ne_of_lt)
  have one := List.inj_on_of_nodup_map distinct leftFirstIn rightFirstIn positions
  apply differ
  rw [← leftText, ← rightText, one]

/-! ### The messages of a chain -/

/-- A successful read found no block to read, or read the range up to `batchEnd`. -/
theorem readBatch_cases {reader : BlockReader} {startBlock latestBlock : Nat} {fetch : Fetch}
    {order : HashOrder} {batch : BatchResult}
    (success : reader.readBatch startBlock latestBlock fetch order = .ok batch) :
    (startBlock > latestBlock ∧
        batch =
          { transactions := []
            startBlock := startBlock
            endBlock := startBlock - 1 }) ∨
      (startBlock ≤ latestBlock ∧ ∃ logs,
        splitLogsOnError startBlock (reader.batchEnd startBlock latestBlock) fetch = .ok logs ∧
          batch =
            { transactions := reader.transactionsOf order logs
              startBlock := startBlock
              endBlock := reader.batchEnd startBlock latestBlock }) := by
  unfold readBatch at success
  by_cases ahead : startBlock > latestBlock
  · rw [if_pos ahead] at success
    cases success
    exact .inl ⟨ahead, rfl⟩
  · rw [if_neg ahead] at success
    simp only at success
    cases answered : splitLogsOnError startBlock (reader.batchEnd startBlock latestBlock)
        fetch with
    | error error =>
        rw [answered] at success
        cases success
    | ok logs =>
        rw [answered] at success
        cases success
        exact .inr ⟨Nat.le_of_not_lt ahead, logs, rfl, rfl⟩

theorem readBatch_located {chain : List Log} {fetch : Fetch}
    (honest : reader.parser.Honest chain fetch) {startBlock latestBlock : Nat}
    {order : HashOrder} {batch : BatchResult}
    (success : reader.readBatch startBlock latestBlock fetch order = .ok batch) :
    batch.startBlock = startBlock ∧ ∃ located : List LocatedEvent,
      located.Perm ((reader.parser.chainEvents chain).filter
        (within startBlock batch.endBlock)) ∧
      batch.transactions = reader.groupByTransaction order
        (sortBy LocatedEvent.position located) := by
  rcases readBatch_cases success with ⟨_ahead, rfl⟩ | ⟨_available, logs, answered, rfl⟩
  · refine ⟨rfl, [], ?_, ?_⟩
    · have empty : (reader.parser.chainEvents chain).filter
          (within startBlock (startBlock - 1)) = [] := by
        rw [List.filter_eq_nil_iff]
        intro event _ inside
        have bounds := of_decide_eq_true inside
        omega
      rw [empty]
    · have noEntries : order.reorder (transactionMap []) = [] :=
        (order.perm []).eq_nil
      have sortedNil : sortBy LocatedEvent.position [] = [] := rfl
      rw [sortedNil]
      unfold groupByTransaction
      rw [noEntries]
      rfl
  · refine ⟨rfl, logs.filterMap reader.parser.locate, ?_, rfl⟩
    rw [← reader.parser.filterMap_accepts]
    exact (reader.parser.splitLogsOnError_perm honest answered).filterMap _

/-- A batch that reaches its first block ends where its range does. -/
theorem readBatch_endBlock {fetch : Fetch} {startBlock latestBlock : Nat}
    {order : HashOrder} {batch : BatchResult}
    (success : reader.readBatch startBlock latestBlock fetch order = .ok batch)
    (nonempty : startBlock ≤ batch.endBlock) :
    batch.endBlock = reader.batchEnd startBlock latestBlock := by
  rcases readBatch_cases success with ⟨_ahead, rfl⟩ | ⟨_available, logs, _answered, rfl⟩
  · simp only at nonempty
    omega
  · rfl

theorem readBatch_covers {chain : List Log} {fetch : Fetch}
    (honest : reader.parser.Honest chain fetch) {startBlock latestBlock : Nat}
    {order : HashOrder} {batch : BatchResult}
    (success : reader.readBatch startBlock latestBlock fetch order = .ok batch)
    {event : LocatedEvent} (member : event ∈ reader.parser.chainEvents chain)
    (lower : startBlock ≤ event.blockNumber) (upper : event.blockNumber ≤ batch.endBlock) :
    ∃ message ∈ batch.transactions,
      message.transactionHash = event.transactionHash ∧ event.event ∈ message.events := by
  obtain ⟨_, located, same, contents⟩ := reader.readBatch_located honest success
  rw [contents]
  apply reader.groupByTransaction_covers
  rw [mem_sortBy, same.mem_iff]
  exact List.mem_filter.mpr ⟨member, decide_eq_true ⟨lower, upper⟩⟩

section Canonical

variable {reader} {chain : List Log} (wellFormed : WellFormedChain chain)

include wellFormed

private theorem sorted_range_group {located : List LocatedEvent} {fromBlock toBlock : Nat}
    (same : located.Perm ((reader.parser.chainEvents chain).filter (within fromBlock toBlock)))
    {event : LocatedEvent} (member : event ∈ reader.parser.chainEvents chain)
    (inside : within fromBlock toBlock event = true) :
    (sortBy LocatedEvent.position located).filter
        (fun other => other.transactionHash = event.transactionHash) =
      (sortBy LocatedEvent.position (reader.parser.chainEvents chain)).filter
        (fun other => other.transactionHash = event.transactionHash) := by
  have distinct := reader.parser.chainEvents_distinct wellFormed
  have rangeDistinct : (((reader.parser.chainEvents chain).filter
      (within fromBlock toBlock)).map LocatedEvent.position).Nodup :=
    distinct.sublist (List.filter_sublist.map _)
  rw [sortBy_eq_of_perm ((same.map _).nodup_iff.mpr rangeDistinct) same,
    ← filter_sortBy distinct, List.filter_filter]
  apply List.filter_congr
  intro other otherMember
  by_cases mine : other.transactionHash = event.transactionHash
  · have blocks := reader.parser.chainEvents_oneBlock wellFormed
      (mem_sortBy.mp otherMember) member mine
    have otherInside : within fromBlock toBlock other = true := by
      unfold within at inside ⊢
      rw [blocks]
      exact inside
    simp only [otherInside, Bool.and_true]
  · simp only [mine, decide_false, Bool.false_and]

/-- The messages of a batch are the chain's messages of the transactions with
an event in the range. -/
theorem mem_readBatch_iff {fetch : Fetch} (honest : reader.parser.Honest chain fetch)
    {startBlock latestBlock : Nat} {order : HashOrder} {batch : BatchResult}
    (success : reader.readBatch startBlock latestBlock fetch order = .ok batch)
    (message : TransactionMessage) :
    message ∈ batch.transactions ↔
      ∃ event ∈ reader.parser.chainEvents chain,
        startBlock ≤ event.blockNumber ∧ event.blockNumber ≤ batch.endBlock ∧
          message = reader.parser.chainMessage reader.chainId chain event.transactionHash := by
  obtain ⟨_, located, same, contents⟩ := reader.readBatch_located honest success
  have messages {event : LocatedEvent} (member : event ∈ reader.parser.chainEvents chain)
      (inside : within startBlock batch.endBlock event = true) :
      messageFor reader.chainId (sortBy LocatedEvent.position located) event.transactionHash =
        reader.parser.chainMessage reader.chainId chain event.transactionHash := by
    unfold NoxEventParser.chainMessage messageFor
    rw [sorted_range_group wellFormed same member inside]
  rw [contents, reader.mem_groupByTransaction]
  constructor
  · rintro ⟨event, inLocated, rfl⟩
    rw [mem_sortBy, same.mem_iff] at inLocated
    obtain ⟨member, inside⟩ := List.mem_filter.mp inLocated
    have bounds := of_decide_eq_true inside
    exact ⟨event, member, bounds.1, bounds.2, messages member inside⟩
  · rintro ⟨event, member, lower, upper, rfl⟩
    have inside : within startBlock batch.endBlock event = true :=
      decide_eq_true ⟨lower, upper⟩
    refine ⟨event, ?_, (messages member inside).symm⟩
    rw [mem_sortBy, same.mem_iff]
    exact List.mem_filter.mpr ⟨member, inside⟩

theorem readBatch_increasing {fetch : Fetch} (honest : reader.parser.Honest chain fetch)
    {startBlock latestBlock : Nat} {order : HashOrder} {batch : BatchResult}
    (success : reader.readBatch startBlock latestBlock fetch order = .ok batch) :
    Increasing TransactionMessage.position batch.transactions := by
  obtain ⟨_, located, same, contents⟩ := reader.readBatch_located honest success
  rw [contents]
  have rangeDistinct : (((reader.parser.chainEvents chain).filter
      (within startBlock batch.endBlock)).map LocatedEvent.position).Nodup :=
    (reader.parser.chainEvents_distinct wellFormed).sublist (List.filter_sublist.map _)
  apply reader.groupByTransaction_increasing
  · exact sortBy_increasing ((same.map _).nodup_iff.mpr rangeDistinct)
  · intro event member
    have inRange := same.mem_iff.mp (mem_sortBy.mp member)
    exact reader.parser.chainEvents_index (List.mem_filter.mp inRange).1

theorem chainMessage_blockNumber {event : LocatedEvent}
    (member : event ∈ reader.parser.chainEvents chain) :
    (reader.parser.chainMessage reader.chainId chain event.transactionHash).blockNumber =
      event.blockNumber := by
  have sortedMember : event ∈ sortBy LocatedEvent.position (reader.parser.chainEvents chain) :=
    mem_sortBy.mpr member
  obtain ⟨first, firstIn, text, position⟩ := reader.messageFor_position
    (fun other otherIn => reader.parser.chainEvents_index (mem_sortBy.mp otherIn)) sortedMember
  have blocks := reader.parser.chainEvents_oneBlock wellFormed (mem_sortBy.mp firstIn) member text
  have coordinates := congrArg (fun place => (ofLex place).1) position
  rw [← blocks]
  exact coordinates

end Canonical

end BlockReader

end NoxIngestor
