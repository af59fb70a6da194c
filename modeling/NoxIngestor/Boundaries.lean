/-
Where one batch ends and the next begins cannot be told from the messages.

Successive successful reads, however large, under whatever heads and however
often bisected, deliver what one read of the whole range delivers.
-/

import NoxIngestor.Reachability

namespace NoxIngestor

open SortedGroups

/-- Where the loop reads on after a batch read from `next`. -/
def BatchResult.following (batch : BatchResult) (next : Nat) : Nat :=
  if batch.endBlock ≥ batch.startBlock then u64Add batch.endBlock 1 else next

theorem State.finishBatch_nextBlock (s : State) (latest : Nat) (batch : BatchResult) :
    (s.finishBatch latest batch).nextBlock = batch.following s.nextBlock := by
  have paced (ended : State) (gap : Nat) : (ended.pace gap).nextBlock = ended.nextBlock := by
    obtain ⟨needsDelay, same⟩ := ended.pace_eq gap
    rw [same]
    rfl
  unfold State.finishBatch
  simp only [paced]
  unfold BatchResult.following
  split
  · split
    · rfl
    · rfl
  · rfl

/-- A successful read from a block, for any batch size, head, bisection, order of
the answers and order of the hash map. -/
def BlockReader.Obtains (reader : BlockReader) (chain : List Log) (fromBlock : Nat)
    (batch : BatchResult) : Prop :=
  ∃ batchSize latest fetch order, reader.parser.Honest chain fetch ∧
    { reader with batchSize := batchSize }.readBatch fromBlock latest fetch order = .ok batch

/-- Batches read one after the other, the last of which ends the range. -/
inductive Cut (reader : BlockReader) (chain : List Log) : Nat → Nat → List BatchResult → Prop
  | last {fromBlock toBlock : Nat} (batch : BatchResult)
      (obtained : reader.Obtains chain fromBlock batch) (ends : batch.endBlock = toBlock) :
      Cut reader chain fromBlock toBlock [batch]
  | more {fromBlock toBlock : Nat} (batch : BatchResult) (rest : List BatchResult)
      (obtained : reader.Obtains chain fromBlock batch) (inside : batch.endBlock < toBlock)
      (later : Cut reader chain (batch.following fromBlock) toBlock rest) :
      Cut reader chain fromBlock toBlock (batch :: rest)

/-- Exactly the chain's messages of a range, in the order of the scan. -/
structure ExactlyFor (reader : BlockReader) (chain : List Log) (fromBlock toBlock : Nat)
    (messages : List TransactionMessage) : Prop where
  increasing : Increasing TransactionMessage.position messages
  members : ∀ message, message ∈ messages ↔
    ∃ event ∈ reader.parser.chainEvents chain,
      fromBlock ≤ event.blockNumber ∧ event.blockNumber ≤ toBlock ∧
        message = reader.parser.chainMessage reader.chainId chain event.transactionHash

namespace ExactlyFor

variable {reader : BlockReader} {chain : List Log}
variable {fromBlock middle toBlock : Nat} {messages later : List TransactionMessage}

private theorem unique (first : ExactlyFor reader chain fromBlock toBlock messages)
    (second : ExactlyFor reader chain fromBlock toBlock later) : messages = later := by
  apply Increasing.eq_of_mem_iff first.increasing second.increasing
  intro message
  rw [first.members, second.members]

private theorem of_obtains (wellFormed : WellFormedChain chain) {batch : BatchResult}
    (obtained : reader.Obtains chain fromBlock batch) :
    ExactlyFor reader chain fromBlock batch.endBlock batch.transactions := by
  obtain ⟨batchSize, latest, fetch, order, honest, success⟩ := obtained
  constructor
  · exact @BlockReader.readBatch_increasing { reader with batchSize := batchSize } chain
      wellFormed fetch honest _ _ _ _ success
  · exact @BlockReader.mem_readBatch_iff { reader with batchSize := batchSize } chain
      wellFormed fetch honest _ _ _ _ success

theorem eq_nil (exactly : ExactlyFor reader chain fromBlock toBlock messages)
    (empty : toBlock < fromBlock) : messages = [] := by
  apply List.eq_nil_iff_forall_not_mem.mpr
  intro message member
  obtain ⟨event, _, lower, upper, _⟩ := (exactly.members message).mp member
  omega

theorem blockNumber (wellFormed : WellFormedChain chain)
    (exactly : ExactlyFor reader chain fromBlock toBlock messages)
    {message : TransactionMessage} (member : message ∈ messages) :
    fromBlock ≤ message.blockNumber ∧ message.blockNumber ≤ toBlock := by
  obtain ⟨event, located, lower, upper, rfl⟩ := (exactly.members message).mp member
  rw [BlockReader.chainMessage_blockNumber wellFormed located]
  exact ⟨lower, upper⟩

theorem append (wellFormed : WellFormedChain chain) (lower : fromBlock ≤ middle + 1)
    (upper : middle ≤ toBlock) (first : ExactlyFor reader chain fromBlock middle messages)
    (second : ExactlyFor reader chain (middle + 1) toBlock later) :
    ExactlyFor reader chain fromBlock toBlock (messages ++ later) := by
  constructor
  · apply first.increasing.append second.increasing
    intro left inLeft right inRight
    have leftBlock := (first.blockNumber wellFormed inLeft).2
    have rightBlock := (second.blockNumber wellFormed inRight).1
    apply Prod.Lex.toLex_lt_toLex.mpr
    exact .inl (Nat.lt_of_le_of_lt leftBlock rightBlock)
  · intro message
    rw [List.mem_append, first.members, second.members]
    constructor
    · rintro (⟨event, located, low, high, same⟩ | ⟨event, located, low, high, same⟩)
      · exact ⟨event, located, low, Nat.le_trans high upper, same⟩
      · exact ⟨event, located, Nat.le_trans lower low, high, same⟩
    · rintro ⟨event, located, low, high, same⟩
      rcases Nat.lt_or_ge middle event.blockNumber with behind | before
      · exact .inr ⟨event, located, behind, high, same⟩
      · exact .inl ⟨event, located, low, before, same⟩

end ExactlyFor

section Concatenation

variable {reader : BlockReader} {chain : List Log} {fromBlock toBlock : Nat}

/-- However a range is cut, together the batches hold exactly its messages. -/
theorem Cut.exactly (wellFormed : WellFormedChain chain) (bound : toBlock < u64Modulus)
    {batches : List BatchResult} (cut : Cut reader chain fromBlock toBlock batches) :
    ExactlyFor reader chain fromBlock toBlock (batches.flatMap BatchResult.transactions) := by
  induction cut with
  | last batch obtained ends =>
      rw [List.flatMap_cons, List.flatMap_nil, List.append_nil, ← ends]
      exact .of_obtains wellFormed obtained
  | @more fromBlock toBlock batch rest obtained inside later ih =>
      have first := ExactlyFor.of_obtains wellFormed obtained
      obtain ⟨batchSize, latest, fetch, order, honest, success⟩ := obtained
      have starts := (BlockReader.readBatch_located { reader with batchSize := batchSize }
        honest success).1
      have second := ih bound
      rw [List.flatMap_cons]
      unfold BatchResult.following at second
      rw [starts] at second
      split at second
      · rename_i forward
        -- The batch ends before the range does, so the next block does not wrap.
        have next : u64Add batch.endBlock 1 = batch.endBlock + 1 :=
          Nat.mod_eq_of_lt (by omega)
        rw [next] at second
        exact first.append wellFormed (by omega) (by omega) second
      · rename_i empty
        rw [first.eq_nil (by omega), List.nil_append]
        exact second

/-- Concatenating the successive batches of a range gives the batch of the whole
range: the same messages, with the same events, in the same order. -/
theorem concatenated_batches_eq_whole (wellFormed : WellFormedChain chain)
    (bound : toBlock < u64Modulus) {batches : List BatchResult}
    (cut : Cut reader chain fromBlock toBlock batches) {whole : BatchResult}
    (obtained : reader.Obtains chain fromBlock whole) (ends : whole.endBlock = toBlock) :
    batches.flatMap BatchResult.transactions = whole.transactions := by
  apply ExactlyFor.unique (cut.exactly wellFormed bound)
  rw [← ends]
  exact .of_obtains wellFormed obtained

end Concatenation

def Sample.readFrom (batchSize fromBlock : Nat) : Except ChainError BatchResult :=
  (Sample.deployment.reader batchSize).readBatch fromBlock 101
    (Sample.deployment.parser.provider Sample.chain) Sample.order

private theorem Sample.obtains_readFrom {batchSize fromBlock : Nat} {batch : BatchResult}
    (success : Sample.readFrom batchSize fromBlock = .ok batch) :
    (Sample.deployment.reader 50).Obtains Sample.chain fromBlock batch :=
  ⟨batchSize, 101, _, Sample.order, Sample.deployment.parser.provider_honest Sample.chain,
    success⟩

theorem Sample.readFrom_endBlock (batchSize fromBlock endBlock : Nat)
    (ends : (Sample.readFrom batchSize fromBlock).toOption.map
      (fun batch => (batch.startBlock, batch.endBlock)) = some (fromBlock, endBlock)) :
    ∃ batch, Sample.readFrom batchSize fromBlock = .ok batch ∧
      batch.startBlock = fromBlock ∧ batch.endBlock = endBlock := by
  cases result : Sample.readFrom batchSize fromBlock with
  | error error =>
      rw [result] at ends
      cases ends
  | ok batch =>
      rw [result] at ends
      cases ends
      exact ⟨batch, rfl, rfl, rfl⟩

theorem concatenated_batches_eq_whole_blockByBlock :
    ∃ first second whole : BatchResult,
      Sample.readFrom 1 100 = .ok first ∧ Sample.readFrom 1 101 = .ok second ∧
        Sample.readFrom 50 100 = .ok whole ∧
          [first, second].flatMap BatchResult.transactions = whole.transactions := by
  obtain ⟨first, firstRead, firstStarts, firstEnds⟩ :=
    Sample.readFrom_endBlock 1 100 100 (by decide +kernel)
  obtain ⟨second, secondRead, _, secondEnds⟩ :=
    Sample.readFrom_endBlock 1 101 101 (by decide +kernel)
  obtain ⟨whole, wholeRead, _, wholeEnds⟩ :=
    Sample.readFrom_endBlock 50 100 101 (by decide +kernel)
  have next : first.following 100 = 101 := by
    rw [BatchResult.following, firstStarts, firstEnds]
    rfl
  refine ⟨first, second, whole, firstRead, secondRead, wholeRead, ?_⟩
  apply concatenated_batches_eq_whole Sample.chain_wellFormed (by decide) _
    (Sample.obtains_readFrom wholeRead) wholeEnds
  apply Cut.more first [second] (Sample.obtains_readFrom firstRead) (by rw [firstEnds]; decide)
  rw [next]
  exact .last second (Sample.obtains_readFrom secondRead) secondEnds

end NoxIngestor
