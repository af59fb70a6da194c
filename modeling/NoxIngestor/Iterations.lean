/-
One iteration of the block-reading branch, from the head it observes to its end.

Nothing validates the configured numbers.  An iteration that nothing cancels and
whose calls succeed advances exactly when the range of its batch is one of `u64`
and the buffer has room for what the batch may have to put there; otherwise
`next_block` wraps or stands still, or the iteration waits on a full buffer that
only a cancellation can drain.
-/

import NoxIngestor.Boundaries

namespace NoxIngestor

/-- What the outside world brings to an iteration: the answers to its requests,
and the states the connection may change to meanwhile. -/
structure Iteration where
  latest : Nat
  fetch : Fetch
  order : HashOrder
  events : List ConnectionState

def Iteration.quiet (iteration : Iteration) : Iteration := { iteration with events := [] }

/-- Steps that neither cancel the iteration nor fail a request. -/
inductive Iteration.Allows (iteration : Iteration) : Label → Prop
  | elapse (millis : Nat) : Allows iteration (.elapse millis)
  | natsEvent (state : ConnectionState) (arrives : state ∈ iteration.events) :
      Allows iteration (.natsEvent state)
  | receive (request : Nat) : Allows iteration (.receive request)
  | latestBlock : Allows iteration (.latestBlock (.ok iteration.latest))
  | batchRead : Allows iteration (.batchRead iteration.fetch iteration.order)
  | nextTransaction : Allows iteration .nextTransaction
  | published : Allows iteration (.published true)
  | waitElapsed : Allows iteration .waitElapsed

def Label.iterates : Label → Bool
  | .latestBlock _answer => true
  | .batchRead _fetch _order => true
  | .nextTransaction => true
  | .published _success => true
  | .waitElapsed => true
  | _ => false

/-- These steps of the iteration lead from one state to another. -/
structure Iteration.Leads (deployment : Deployment) (iteration : Iteration) (s : State)
    (labels : List Label) (after : State) : Prop where
  allowed : ∀ label ∈ labels, iteration.Allows label
  reached : Runs.run (step deployment) s labels = some after

theorem Iteration.Leads.louder {deployment : Deployment} {iteration : Iteration}
    {s after : State} {labels : List Label}
    (quiet : iteration.quiet.Leads deployment s labels after) :
    iteration.Leads deployment s labels after := by
  refine ⟨fun label member => ?_, quiet.reached⟩
  cases quiet.allowed label member with
  | elapse millis => exact .elapse millis
  | natsEvent state arrives => exact absurd arrives List.not_mem_nil
  | receive request => exact .receive request
  | latestBlock => exact .latestBlock
  | batchRead => exact .batchRead
  | nextTransaction => exact .nextTransaction
  | published => exact .published
  | waitElapsed => exact .waitElapsed

/-! ### The steps towards the batch -/

section Opening

variable {deployment : Deployment} {s : State} {latest : Nat}

private theorem step_latestBlock (here : s.task = .select .getLatestBlock)
    (available : s.nextBlock ≤ latest) :
    step deployment s (.latestBlock (.ok latest)) =
      some (s.goto (.select (.readBatch latest))) := by
  simp only [step, here]
  rw [if_neg (Nat.not_lt_of_le available)]

private theorem step_batchRead {fetch : Fetch} {order : HashOrder} {batch : BatchResult}
    (here : s.task = .select (.readBatch latest))
    (answered : (deployment.reader s.batchSize).readBatch s.nextBlock latest fetch order =
      .ok batch) :
    step deployment s (.batchRead fetch order) =
      some ((s.recordSuccess.record (.fetched batch.endBlock)).goto
        (.select (.publishing latest batch batch.transactions))) := by
  simp only [step, here, answered]

theorem step_nextTransaction {batch : BatchResult} {rest : List TransactionMessage}
    (here : s.task = .select (.publishing latest batch rest)) :
    step deployment s .nextTransaction = some (s.nextTransaction latest batch rest) := by
  simp only [step, here]

private theorem step_published {batch : BatchResult} {message : TransactionMessage} {request : Nat}
    {rest : List TransactionMessage}
    (here : s.task = .select (.publish latest batch message request rest))
    (received : request ∈ s.jetstream.received) :
    step deployment s (.published true) =
      some ((s.record (.acked message)).goto (.select (.publishing latest batch rest))) := by
  simp only [step, here, if_true, if_pos received]
  rfl

end Opening

/-! ### The range of a batch -/

namespace BlockReader

variable {reader : BlockReader} {startBlock latestBlock : Nat}

theorem batchEnd_eq (positive : 1 ≤ startBlock + reader.batchSize)
    (range : startBlock + reader.batchSize < u64Modulus) :
    reader.batchEnd startBlock latestBlock =
      min (startBlock + reader.batchSize - 1) latestBlock := by
  unfold batchEnd u64Add u64Sub
  rw [Nat.mod_eq_of_lt range]
  have borrowed : startBlock + reader.batchSize + u64Modulus - 1 =
      startBlock + reader.batchSize - 1 + u64Modulus := by omega
  rw [borrowed, Nat.add_mod_right, Nat.mod_eq_of_lt (by omega)]

private theorem readBatch_range {fetch : Fetch} {order : HashOrder} {batch : BatchResult}
    (success : reader.readBatch startBlock latestBlock fetch order = .ok batch)
    (available : startBlock ≤ latestBlock) :
    batch.startBlock = startBlock ∧
      batch.endBlock = reader.batchEnd startBlock latestBlock := by
  rcases readBatch_cases success with ⟨ahead, _⟩ | ⟨_, logs, _, rfl⟩
  · exact absurd available (Nat.not_le_of_gt ahead)
  · exact ⟨rfl, rfl⟩

end BlockReader

/-! ### What an iteration should do, and when it can -/

/-- The connection is down or may go down during the iteration. -/
def Iteration.MayBuffer (iteration : Iteration) (s : State) : Prop :=
  s.nats.value = .disconnected ∨ .disconnected ∈ iteration.events

instance (iteration : Iteration) (s : State) : Decidable (iteration.MayBuffer s) :=
  inferInstanceAs (Decidable (_ ∨ _))

/-- Room the buffer must have before this many messages are published. -/
def Iteration.reserve (iteration : Iteration) (s : State) (messages : Nat) : Nat :=
  if iteration.MayBuffer s then messages else 1

/-- An uncancelled iteration, from where it asks for the head of the chain: its
arithmetic stays within `u64`, it does not wait on an empty buffer, from wherever it
stands it reaches its end without a change of the connection and in a bounded number
of steps, and there `next_block` is the integer result and larger than before. -/
structure Iteration.Progresses (deployment : Deployment) (iteration : Iteration) (s : State)
    (transactions : List TransactionMessage) : Prop where
  sum : s.nextBlock + s.batchSize < u64Modulus
  difference : 1 ≤ s.nextBlock + s.batchSize
  increment : (deployment.reader s.batchSize).batchEnd s.nextBlock iteration.latest + 1 <
    u64Modulus
  waits : ∀ labels after, iteration.Leads deployment s labels after →
    ∀ latest batch rest, after.task = .select (.waitInterval latest batch rest) →
      after.publisher.buffer.buffer ≠ []
  ends : ∀ labels middle, iteration.Leads deployment s labels middle →
    ∃ rest final, iteration.quiet.Leads deployment middle rest final ∧
      final.task.atHead = true
  bounded : ∀ labels after, iteration.Leads deployment s labels after →
    labels.countP Label.iterates ≤ 2 * transactions.length + 3
  advances : ∀ labels final, iteration.Leads deployment s labels final →
    final.task.atHead = true →
      (final.nextBlock : Int) =
          min ((s.nextBlock : Int) + s.batchSize - 1) iteration.latest + 1 ∧
        s.nextBlock < final.nextBlock

structure Iteration.Fits (iteration : Iteration) (s : State)
    (transactions : List TransactionMessage) : Prop where
  batchSize : 1 ≤ s.batchSize
  range : s.nextBlock + s.batchSize < u64Modulus
  room : transactions = [] ∨
    s.publisher.buffer.len + iteration.reserve s transactions.length ≤
      s.publisher.buffer.capacity

/-! ### An iteration that fits stays on track -/

/-- Before these messages of the batch are published. -/
structure Iteration.Prepared (iteration : Iteration) (start s : State)
    (rest : List TransactionMessage) : Prop where
  nextBlock : s.nextBlock = start.nextBlock
  batchSize : s.batchSize = start.batchSize
  connection : s.nats.value = .disconnected → iteration.MayBuffer start
  room : rest = [] ∨
    s.publisher.buffer.len + iteration.reserve start rest.length ≤ s.publisher.buffer.capacity

/-- The iteration moves through its await points, never into a wait, and ends behind
the batch. -/
def Iteration.OnTrack (iteration : Iteration) (start : State) (batch : BatchResult)
    (s : State) : Prop :=
  match s.task with
  | .select .getLatestBlock => iteration.Prepared start s batch.transactions
  | .select (.readBatch latest) =>
      latest = iteration.latest ∧ iteration.Prepared start s batch.transactions
  | .select (.publishing latest current rest) =>
      latest = iteration.latest ∧ current = batch ∧ iteration.Prepared start s rest
  | .select (.publish latest current _message request rest) =>
      latest = iteration.latest ∧ current = batch ∧ iteration.Prepared start s rest ∧
        s.jetstream.Awaits request
  | .delay => s.nextBlock = batch.endBlock + 1
  | .select .waitUntilUnpaused => s.nextBlock = batch.endBlock + 1
  | _ => False

/-- Own steps an iteration on track still takes. -/
def Task.stepsLeft (transactions : Nat) : Task → Nat
  | .select .getLatestBlock => 2 * transactions + 3
  | .select (.readBatch _latest) => 2 * transactions + 2
  | .select (.publishing _latest _batch rest) => 2 * rest.length + 1
  | .select (.publish _latest _batch _message _request rest) => 2 * rest.length + 2
  | _ => 0

namespace Iteration

variable {deployment : Deployment} {iteration : Iteration} {start s after : State}
  {batch : BatchResult}

namespace Prepared

theorem handed {message : TransactionMessage} {rest : List TransactionMessage}
    (prepared : iteration.Prepared start s (message :: rest))
    (nextBlock : after.nextBlock = s.nextBlock) (batchSize : after.batchSize = s.batchSize)
    (nats : after.nats = s.nats) (publisher : after.publisher = s.publisher) :
    iteration.Prepared start after rest := by
  refine ⟨nextBlock.trans prepared.nextBlock, batchSize.trans prepared.batchSize, ?_, ?_⟩
  · rw [nats]
    exact prepared.connection
  · rw [publisher]
    have room := prepared.room.resolve_left (List.cons_ne_nil message rest)
    refine .inr (Nat.le_trans (Nat.add_le_add_left ?_ _) room)
    unfold reserve
    split
    · exact Nat.le_succ _
    · exact Nat.le_refl 1

theorem heldBack {message : TransactionMessage} {rest : List TransactionMessage}
    (prepared : iteration.Prepared start s (message :: rest))
    (disconnected : s.nats.value = .disconnected) (task : Task) :
    iteration.Prepared start ((s.holdBack message).goto task) rest := by
  refine ⟨prepared.nextBlock, prepared.batchSize, prepared.connection, .inr ?_⟩
  have room := prepared.room.resolve_left (List.cons_ne_nil message rest)
  unfold reserve at room ⊢
  rw [if_pos (prepared.connection disconnected)] at room ⊢
  have longer : ((s.holdBack message).goto task).publisher.buffer.len =
      s.publisher.buffer.len + 1 := List.length_append
  rw [List.length_cons] at room
  rw [longer]
  have same : ((s.holdBack message).goto task).publisher.buffer.capacity =
    s.publisher.buffer.capacity := rfl
  omega

private theorem not_full {message : TransactionMessage} {rest : List TransactionMessage}
    (prepared : iteration.Prepared start s (message :: rest)) :
    s.publisher.buffer.isFull = false := by
  have room := prepared.room.resolve_left (List.cons_ne_nil message rest)
  have positive : 1 ≤ iteration.reserve start (message :: rest).length := by
    unfold reserve
    split
    · exact Nat.succ_le_succ (Nat.zero_le _)
    · exact Nat.le_refl 1
  unfold MessageBuffer.isFull
  rw [decide_eq_false_iff_not]
  omega

end Prepared

namespace OnTrack

theorem outside (onTrack : iteration.OnTrack start batch s) (task : after.task = s.task)
    (nextBlock : after.nextBlock = s.nextBlock) (batchSize : after.batchSize = s.batchSize)
    (publisher : after.publisher = s.publisher)
    (connection : after.nats.value = .disconnected →
      s.nats.value = .disconnected ∨ iteration.MayBuffer start)
    (awaits : ∀ request, s.jetstream.Awaits request → after.jetstream.Awaits request) :
    iteration.OnTrack start batch after := by
  have prepared (rest : List TransactionMessage) (before : iteration.Prepared start s rest) :
      iteration.Prepared start after rest := by
    refine ⟨nextBlock.trans before.nextBlock, batchSize.trans before.batchSize, ?_, ?_⟩
    · intro disconnected
      exact (connection disconnected).elim before.connection id
    · rw [publisher]
      exact before.room
  unfold OnTrack at onTrack ⊢
  rw [task]
  split at onTrack
  · exact prepared _ onTrack
  · exact ⟨onTrack.1, prepared _ onTrack.2⟩
  · exact ⟨onTrack.1, onTrack.2.1, prepared _ onTrack.2.2⟩
  · obtain ⟨latest, current, before, awaited⟩ := onTrack
    exact ⟨latest, current, prepared _ before, awaits _ awaited⟩
  · exact nextBlock.trans onTrack
  · exact nextBlock.trans onTrack
  · exact onTrack.elim

/-- One step on the way: the steps it counts for are used up. -/
structure Continues (iteration : Iteration) (start : State) (batch : BatchResult)
    (s : State) (label : Label) (after : State) : Prop where
  onTrack : iteration.OnTrack start batch after
  steps : after.task.stepsLeft batch.transactions.length + label.iterates.toNat ≤
    s.task.stepsLeft batch.transactions.length

theorem finished {latest : Nat} (here : s.task = .select (.publishing latest batch []))
    {moved : State} (nextBlock : moved.nextBlock = batch.endBlock + 1) (gap : Nat) :
    Continues iteration start batch s .nextTransaction (moved.pace gap) := by
  obtain ⟨needsDelay, same⟩ := moved.pace_eq gap
  rw [same]
  cases needsDelay with
  | true =>
      refine ⟨nextBlock, ?_⟩
      rw [here]
      exact Nat.le_refl 1
  | false =>
      refine ⟨nextBlock, ?_⟩
      rw [here]
      exact Nat.le_refl 1

section Steps

variable (available : start.nextBlock ≤ iteration.latest)
  (answered : (deployment.reader start.batchSize).readBatch start.nextBlock iteration.latest
    iteration.fetch iteration.order = .ok batch)
  (forwards : batch.startBlock ≤ batch.endBlock) (bound : batch.endBlock + 1 < u64Modulus)

include available in
theorem latestBlock (onTrack : iteration.OnTrack start batch s)
    (taken : step deployment s (.latestBlock (.ok iteration.latest)) = some after) :
    Continues iteration start batch s (.latestBlock (.ok iteration.latest)) after := by
  unfold OnTrack at onTrack
  cases step_transition taken with
  | caughtUp latest here ahead =>
      rw [here] at onTrack
      have unmoved : s.nextBlock = start.nextBlock := onTrack.nextBlock
      omega
  | behind latest here ready =>
      rw [here] at onTrack
      refine ⟨⟨rfl, onTrack.nextBlock, onTrack.batchSize, onTrack.connection, onTrack.room⟩, ?_⟩
      rw [here]
      exact Nat.le_refl _
  | retried label reading here retry => cases retry
  | flushStarted caller message later here connected buffered labelled =>
      cases caller <;> cases labelled

include answered in
theorem batchRead (onTrack : iteration.OnTrack start batch s)
    (taken : step deployment s (.batchRead iteration.fetch iteration.order) = some after) :
    Continues iteration start batch s (.batchRead iteration.fetch iteration.order) after := by
  unfold OnTrack at onTrack
  simp only [step] at taken
  split at taken
  · rename_i latest here
    rw [here] at onTrack
    obtain ⟨rfl, prepared⟩ := onTrack
    rw [prepared.nextBlock, prepared.batchSize, answered] at taken
    cases taken
    constructor
    · exact ⟨rfl, rfl, prepared.nextBlock, prepared.batchSize, prepared.connection,
        prepared.room⟩
    · rw [here]
      exact Nat.le_refl _
  · cases taken

include forwards bound in
theorem nextTransaction (onTrack : iteration.OnTrack start batch s)
    (taken : step deployment s .nextTransaction = some after) :
    Continues iteration start batch s .nextTransaction after := by
  have next : u64Add batch.endBlock 1 = batch.endBlock + 1 := Nat.mod_eq_of_lt bound
  unfold OnTrack at onTrack
  cases step_transition taken with
  | batchEmpty latest current here empty =>
      rw [here] at onTrack
      obtain ⟨_, rfl, _⟩ := onTrack
      exact absurd forwards (Nat.not_le_of_lt empty)
  | batchDelivered latest current here nonempty nothing =>
      rw [here] at onTrack
      obtain ⟨_, rfl, _⟩ := onTrack
      exact finished here next _
  | batchHeld latest current here nonempty waiting =>
      rw [here] at onTrack
      obtain ⟨_, rfl, _⟩ := onTrack
      exact finished here next _
  | bufferFull latest current transaction later here full =>
      rw [here] at onTrack
      rw [onTrack.2.2.not_full] at full
      cases full
  | handed latest current transaction later here room connected =>
      rw [here] at onTrack
      obtain ⟨rfl, rfl, prepared⟩ := onTrack
      refine ⟨⟨rfl, rfl, prepared.handed rfl rfl rfl rfl, s.jetstream.send_awaits transaction⟩, ?_⟩
      rw [here]
      exact Nat.le_refl _
  | buffered latest current transaction later here room disconnected =>
      rw [here] at onTrack
      obtain ⟨rfl, rfl, prepared⟩ := onTrack
      refine ⟨⟨rfl, rfl, prepared.heldBack disconnected _⟩, ?_⟩
      rw [here]
      exact Nat.le_succ _
  | retried label reading here retry => cases retry
  | flushStarted caller message later here connected buffered labelled =>
      cases caller <;> cases labelled

theorem published (onTrack : iteration.OnTrack start batch s)
    (taken : step deployment s (.published true) = some after) :
    Continues iteration start batch s (.published true) after := by
  unfold OnTrack at onTrack
  cases step_transition taken with
  | publishAcked latest current message request later here received =>
      rw [here] at onTrack
      obtain ⟨rfl, rfl, prepared, _awaits⟩ := onTrack
      refine ⟨⟨rfl, rfl, prepared.nextBlock, prepared.batchSize, prepared.connection,
        prepared.room⟩, ?_⟩
      rw [here]
      exact Nat.le_refl _
  | flushAcked caller message request next later here received =>
      rw [here] at onTrack
      exact onTrack.elim
  | flushDone caller message request here received =>
      rw [here] at onTrack
      exact onTrack.elim
  | retried label reading here retry => cases retry
  | flushStarted caller message later here connected buffered labelled =>
      cases caller <;> cases labelled

theorem waitElapsed (onTrack : iteration.OnTrack start batch s) :
    step deployment s .waitElapsed = none := by
  unfold OnTrack at onTrack
  simp only [step]
  split
  · rename_i here
    rw [here] at onTrack
    exact onTrack.elim
  · rename_i here
    rw [here] at onTrack
    exact onTrack.elim
  · rfl

include available answered forwards bound in
private theorem continues (onTrack : iteration.OnTrack start batch s) {label : Label}
    (allowed : iteration.Allows label) (taken : step deployment s label = some after) :
    Continues iteration start batch s label after := by
  cases allowed with
  | elapse millis =>
      cases taken
      exact ⟨onTrack.outside rfl rfl rfl rfl .inl (fun _request awaits => awaits),
        Nat.le_refl _⟩
  | natsEvent state arrives =>
      obtain rfl := (step_transition taken).of_natsEvent
      refine ⟨onTrack.outside rfl rfl rfl rfl ?_ (fun _request awaits => awaits),
        Nat.le_refl _⟩
      intro disconnected
      cases state with
      | connected => cases disconnected
      | disconnected => exact .inr (.inr arrives)
  | receive request =>
      obtain ⟨jetstream, received, rfl⟩ := (step_transition taken).of_receive
      exact ⟨onTrack.outside rfl rfl rfl rfl .inl
        (fun _request awaits => awaits.receive received), Nat.le_refl _⟩
  | latestBlock => exact onTrack.latestBlock available taken
  | batchRead => exact onTrack.batchRead answered taken
  | nextTransaction => exact onTrack.nextTransaction forwards bound taken
  | published => exact onTrack.published taken
  | waitElapsed =>
      rw [onTrack.waitElapsed] at taken
      cases taken

include available answered forwards bound in
theorem leads (onTrack : iteration.OnTrack start batch s) {labels : List Label}
    (leads : iteration.Leads deployment s labels after) :
    iteration.OnTrack start batch after ∧
      after.task.stepsLeft batch.transactions.length + labels.countP Label.iterates ≤
        s.task.stepsLeft batch.transactions.length := by
  have preserved : ∀ state label next, iteration.Allows label →
      iteration.OnTrack start batch state → step deployment state label = some next →
        iteration.OnTrack start batch next ∧
          next.task.stepsLeft batch.transactions.length + label.iterates.toNat ≤
            state.task.stepsLeft batch.transactions.length := by
    intro state label next allowed holds taken
    obtain ⟨kept, steps⟩ := holds.continues available answered forwards bound allowed taken
    exact ⟨kept, steps⟩
  exact Runs.run_bounded preserved leads.allowed onTrack leads.reached

include available answered in
private theorem enabled (onTrack : iteration.OnTrack start batch s)
    (busy : ¬ s.task.atHead = true) :
    ∃ labels next, iteration.quiet.Leads deployment s labels next ∧
      0 < labels.countP Label.iterates := by
  have single (label : Label) (allowed : iteration.quiet.Allows label)
      (iterates : label.iterates = true) (next : State)
      (taken : step deployment s label = some next) :
      ∃ labels next, iteration.quiet.Leads deployment s labels next ∧
        0 < labels.countP Label.iterates := by
    refine ⟨[label], next, ⟨List.forall_mem_singleton.mpr allowed, ?_⟩, ?_⟩
    · rw [Runs.run_step taken]
      rfl
    · rw [List.countP_singleton, iterates]
      exact Nat.one_pos
  unfold OnTrack at onTrack
  split at onTrack
  · rename_i here
    have ready : s.nextBlock ≤ iteration.latest := onTrack.nextBlock.trans_le available
    exact single _ .latestBlock rfl _ (step_latestBlock here ready)
  · rename_i latest here
    obtain ⟨rfl, prepared⟩ := onTrack
    rw [← prepared.nextBlock, ← prepared.batchSize] at answered
    exact single _ .batchRead rfl _ (step_batchRead here answered)
  · rename_i latest current rest here
    exact single _ .nextTransaction rfl _ (step_nextTransaction here)
  · rename_i latest current message request rest here
    obtain ⟨_, _, _, awaits⟩ := onTrack
    rcases awaits.answer deployment.natsMsgId deployment.recent s.clock with
      received | ⟨jetstream, onItsWay, received⟩
    · exact single _ .published rfl _ (step_published here received)
    · have arrives : step deployment s (.receive request) =
          some { s with jetstream := jetstream } := by
        simp only [step, onItsWay, Option.map_some]
      have acked : step deployment { s with jetstream := jetstream } (.published true) = some _ :=
        step_published here received
      have both : Runs.run (step deployment) s [.receive request, .published true] = some _ :=
        (Runs.run_step arrives _).trans (Runs.run_step acked _)
      refine ⟨[.receive request, .published true], _, ⟨?_, both⟩, Nat.one_pos⟩
      exact List.forall_mem_cons.mpr
        ⟨.receive request, List.forall_mem_singleton.mpr .published⟩
  · rename_i here
    rw [here] at busy
    exact absurd rfl busy
  · rename_i here
    rw [here] at busy
    exact absurd rfl busy
  · exact onTrack.elim

include available answered forwards bound in
theorem ends (onTrack : iteration.OnTrack start batch s) :
    ∃ rest final, iteration.quiet.Leads deployment s rest final ∧
      final.task.atHead = true := by
  have advances : ∀ state, iteration.OnTrack start batch state →
      ¬ state.task.atHead = true →
        ∃ next, Runs.Leads (step deployment) (fun _state => iteration.quiet.Allows) state next ∧
          iteration.OnTrack start batch next ∧
            next.task.stepsLeft batch.transactions.length <
              state.task.stepsLeft batch.transactions.length := by
    intro state holds busy
    obtain ⟨labels, next, quiet, own⟩ := holds.enabled available answered busy
    obtain ⟨kept, steps⟩ := holds.leads available answered forwards bound quiet.louder
    exact ⟨next, .of_labels (fun _state _label allowed => allowed) quiet.allowed quiet.reached,
      kept, by omega⟩
  obtain ⟨final, leads, done⟩ := Runs.leads_to_goal advances onTrack
  obtain ⟨rest, allowed, reached⟩ := leads.labels
  exact ⟨rest, final, ⟨allowed, reached⟩, done⟩

end Steps

end OnTrack

end Iteration

/-! ### An iteration that does not fit gets stuck -/

/-- The message in hand waits for room, which only a drain can make. -/
structure Blocked (s : State) : Prop where
  running : s.shutdown = false
  full : s.publisher.buffer.isFull = true
  here : ∃ latest batch message rest,
    s.task = .select (.publishing latest batch (message :: rest)) ∨
      s.task = .select (.waitInterval latest batch (message :: rest))

namespace Blocked

variable {deployment : Deployment} {iteration : Iteration} {s after : State}

private theorem not_atHead (blocked : Blocked s) : ¬ s.task.atHead = true := by
  obtain ⟨latest, batch, message, rest, here | here⟩ := blocked.here
  · rw [here]
    exact Bool.false_ne_true
  · rw [here]
    exact Bool.false_ne_true

theorem same (blocked : Blocked s) (shutdown : after.shutdown = s.shutdown)
    (publisher : after.publisher = s.publisher) (task : after.task = s.task) :
    Blocked after := by
  refine ⟨shutdown.trans blocked.running, ?_, ?_⟩
  · rw [publisher]
    exact blocked.full
  · rw [task]
    exact blocked.here

theorem step {label : Label} (blocked : Blocked s) (allowed : iteration.Allows label)
    (taken : step deployment s label = some after) : Blocked after := by
  obtain ⟨latest, batch, message, rest, here⟩ := blocked.here
  cases allowed with
  | elapse millis =>
      cases taken
      exact blocked.same rfl rfl rfl
  | natsEvent state arrives =>
      obtain rfl := (step_transition taken).of_natsEvent
      exact blocked.same rfl rfl rfl
  | receive request =>
      obtain ⟨jetstream, received, rfl⟩ := (step_transition taken).of_receive
      exact blocked.same rfl rfl rfl
  | nextTransaction =>
      rcases here with here | here
      · rw [step_nextTransaction here] at taken
        cases taken
        have waits : s.nextTransaction latest batch (message :: rest) =
            s.goto (.select (.waitInterval latest batch (message :: rest))) := if_pos blocked.full
        rw [waits]
        exact ⟨blocked.running, blocked.full, latest, batch, message, rest, .inr rfl⟩
      · simp only [NoxIngestor.step, here, reduceCtorEq] at taken
  | waitElapsed =>
      rcases here with here | here
      · simp only [NoxIngestor.step, here, reduceCtorEq] at taken
      · simp only [NoxIngestor.step, here, blocked.running, Bool.false_eq_true, if_false] at taken
        cases taken
        exact ⟨blocked.running, blocked.full, latest, batch, message, rest, .inl rfl⟩
  | latestBlock =>
      rcases here with here | here
      · simp only [NoxIngestor.step, here, reduceCtorEq] at taken
      · simp only [NoxIngestor.step, here, reduceCtorEq] at taken
  | batchRead =>
      rcases here with here | here
      · simp only [NoxIngestor.step, here, reduceCtorEq] at taken
      · simp only [NoxIngestor.step, here, reduceCtorEq] at taken
  | published =>
      rcases here with here | here
      · simp only [NoxIngestor.step, here, reduceCtorEq] at taken
      · simp only [NoxIngestor.step, here, reduceCtorEq] at taken

theorem leads (blocked : Blocked s) {labels : List Label}
    (leads : iteration.Leads deployment s labels after) : Blocked after := by
  have preserved : ∀ state label next, iteration.Allows label → Blocked state →
      NoxIngestor.step deployment state label = some next → Blocked next := by
    intro state label next allowed holds taken
    exact holds.step allowed taken
  exact Runs.run_invariant preserved (Runs.guarded_of_labels leads.allowed) blocked leads.reached

end Blocked

namespace Iteration

variable {deployment : Deployment} {iteration : Iteration} {s : State}

theorem Leads.append {middle after : State} {first second : List Label}
    (before : iteration.Leads deployment s first middle)
    (later : iteration.Leads deployment middle second after) :
    iteration.Leads deployment s (first ++ second) after :=
  ⟨List.forall_mem_append.mpr ⟨before.allowed, later.allowed⟩,
    Runs.run_append.mpr ⟨middle, before.reached, later.reached⟩⟩

theorem Leads.cons {next after : State} {label : Label} {labels : List Label}
    (allowed : iteration.Allows label) (taken : step deployment s label = some next)
    (later : iteration.Leads deployment next labels after) :
    iteration.Leads deployment s (label :: labels) after :=
  ⟨List.forall_mem_cons.mpr ⟨allowed, later.allowed⟩,
    (Runs.run_step taken labels).trans later.reached⟩

theorem Leads.refl : iteration.Leads deployment s [] s :=
  ⟨fun _label member => absurd member List.not_mem_nil, rfl⟩

private theorem fills (iteration : Iteration) {latest : Nat} {batch : BatchResult}
    {rest : List TransactionMessage}
    (here : s.task = .select (.publishing latest batch rest)) (running : s.shutdown = false)
    (disconnected : s.nats.value = .disconnected) (remaining : rest ≠ [])
    (short : s.publisher.buffer.capacity < s.publisher.buffer.len + rest.length) :
    ∃ labels after, iteration.Leads deployment s labels after ∧ Blocked after := by
  induction rest generalizing s with
  | nil => exact absurd rfl remaining
  | cons message later ih =>
      cases full : s.publisher.buffer.isFull with
      | true => exact ⟨[], s, .refl, running, full, latest, batch, message, later, .inl here⟩
      | false =>
          have room : s.publisher.buffer.len < s.publisher.buffer.capacity :=
            Nat.lt_of_not_le (of_decide_eq_false full)
          have taken : step deployment s .nextTransaction = some
              ((s.holdBack message).goto (.select (.publishing latest batch later))) := by
            rw [step_nextTransaction here]
            simp only [State.nextTransaction, Publisher.isBufferFull, full, Bool.false_eq_true,
              if_false, disconnected, Publisher.publish, bufferMessage_of_room full]
            rfl
          have more : later ≠ [] := by
            rintro rfl
            rw [List.length_singleton] at short
            omega
          have longer : (s.publisher.buffer.buffer ++ [message]).length + later.length =
              s.publisher.buffer.len + (message :: later).length := by
            rw [List.length_append]
            change s.publisher.buffer.len + 1 + later.length =
              s.publisher.buffer.len + (later.length + 1)
            omega
          obtain ⟨labels, after, leads, blocked⟩ :=
            ih (s := (s.holdBack message).goto (.select (.publishing latest batch later))) rfl
              running disconnected more (short.trans_eq longer.symm)
          exact ⟨_, after, leads.cons .nextTransaction taken, blocked⟩

def batchInHand (s : State) (latest : Nat) (batch : BatchResult) : State :=
  (s.recordSuccess.record (.fetched batch.endBlock)).goto
    (.select (.publishing latest batch batch.transactions))

theorem Leads.opening {batch : BatchResult} (here : s.task = .select .getLatestBlock)
    (available : s.nextBlock ≤ iteration.latest)
    (answered : (deployment.reader s.batchSize).readBatch s.nextBlock iteration.latest
      iteration.fetch iteration.order = .ok batch) :
    iteration.Leads deployment s
      [.latestBlock (.ok iteration.latest), .batchRead iteration.fetch iteration.order]
      (batchInHand s iteration.latest batch) := by
  have asked : step deployment s (.latestBlock (.ok iteration.latest)) = some _ :=
    step_latestBlock here available
  have read : step deployment (s.goto (.select (.readBatch iteration.latest)))
      (.batchRead iteration.fetch iteration.order) = some _ := step_batchRead rfl answered
  exact (Leads.refl.cons .batchRead read).cons .latestBlock asked

/-- Without room for what may have to be buffered, some uncancelled run gets stuck. -/
theorem blocks {batch : BatchResult} (here : s.task = .select .getLatestBlock)
    (running : s.shutdown = false) (available : s.nextBlock ≤ iteration.latest)
    (answered : (deployment.reader s.batchSize).readBatch s.nextBlock iteration.latest
      iteration.fetch iteration.order = .ok batch) (busy : batch.transactions ≠ [])
    (short : s.publisher.buffer.capacity <
      s.publisher.buffer.len + iteration.reserve s batch.transactions.length) :
    ∃ labels after, iteration.Leads deployment s labels after ∧ Blocked after := by
  unfold reserve at short
  by_cases down : iteration.MayBuffer s
  · rw [if_pos down] at short
    -- The outage, unless it is there already, comes before the first publish.
    have outage : ∃ labels nats, iteration.Leads deployment s labels { s with nats := nats } ∧
        nats.value = .disconnected := by
      rcases down with already | arrives
      · exact ⟨[], s.nats, .refl, already⟩
      · have lost : step deployment s (.natsEvent .disconnected) =
            some { s with nats := s.nats.send .disconnected } := by
          simp only [step, here]
        exact ⟨[.natsEvent .disconnected], _, Leads.refl.cons (.natsEvent _ arrives) lost, rfl⟩
    obtain ⟨labels, nats, lost, disconnected⟩ := outage
    have opened : iteration.Leads deployment { s with nats := nats } _ _ :=
      Leads.opening here available answered
    obtain ⟨rest, after, filled, blocked⟩ :=
      iteration.fills (s := batchInHand { s with nats := nats } iteration.latest batch) rfl
        running disconnected busy short
    exact ⟨_, after, (lost.append opened).append filled, blocked⟩
  · rw [if_neg down] at short
    have opened := Leads.opening here available answered
    have full : s.publisher.buffer.isFull = true :=
      decide_eq_true (Nat.le_of_lt_succ short)
    obtain ⟨message, rest, remaining⟩ := List.exists_cons_of_ne_nil busy
    refine ⟨_, _, opened, running, full, iteration.latest, batch, message, rest, .inl ?_⟩
    rw [← remaining]
    rfl

section Equivalence

variable {batch : BatchResult} (here : s.task = .select .getLatestBlock)
  (available : s.nextBlock ≤ iteration.latest)
  (answered : (deployment.reader s.batchSize).readBatch s.nextBlock iteration.latest
    iteration.fetch iteration.order = .ok batch)

include here available answered

theorem Fits.progresses (fits : iteration.Fits s batch.transactions) :
    iteration.Progresses deployment s batch.transactions := by
  have positive := fits.batchSize
  have range := fits.range
  have target : (deployment.reader s.batchSize).batchEnd s.nextBlock iteration.latest =
      min (s.nextBlock + s.batchSize - 1) iteration.latest :=
    BlockReader.batchEnd_eq (Nat.le_add_left_of_le positive) range
  obtain ⟨first, last⟩ := BlockReader.readBatch_range answered available
  rw [target] at last
  have forwards : batch.startBlock ≤ batch.endBlock := by omega
  have bound : batch.endBlock + 1 < u64Modulus := by omega
  have onTrack : iteration.OnTrack s batch s := by
    unfold OnTrack
    rw [here]
    exact ⟨rfl, rfl, .inl, fits.room⟩
  have leads (labels : List Label) (after : State)
      (led : iteration.Leads deployment s labels after) :=
    onTrack.leads available answered forwards bound led
  constructor
  · exact range
  · exact Nat.le_add_left_of_le positive
  · rw [target]
    omega
  · intro labels after led latest batch rest waiting
    have kept := (leads labels after led).1
    unfold OnTrack at kept
    rw [waiting] at kept
    exact kept.elim
  · intro labels middle led
    exact (leads labels middle led).1.ends available answered forwards bound
  · intro labels after led
    have steps := (leads labels after led).2
    rw [here] at steps
    exact (Nat.le_add_left _ _).trans steps
  · intro labels final led done
    have kept := (leads labels final led).1
    have advanced : final.nextBlock = batch.endBlock + 1 := by
      unfold OnTrack at kept
      rcases Task.cases_of_atHead done with delayed | waiting
      · rw [delayed] at kept
        exact kept
      · rw [waiting] at kept
        exact kept
    omega

theorem Progresses.fits (running : s.shutdown = false)
    (progresses : iteration.Progresses deployment s batch.transactions) :
    iteration.Fits s batch.transactions := by
  constructor
  · obtain ⟨rest, final, led, done⟩ := progresses.ends [] s .refl
    obtain ⟨value, larger⟩ := progresses.advances rest final led.louder done
    omega
  · exact progresses.sum
  · by_contra short
    obtain ⟨busy, full⟩ := not_or.mp short
    obtain ⟨labels, after, led, blocked⟩ :=
      blocks here running available answered busy (Nat.lt_of_not_le full)
    obtain ⟨rest, final, later, done⟩ := progresses.ends labels after led
    exact (blocked.leads later).not_atHead done

end Equivalence

end Iteration

/-! ### Sessions -/

theorem Transition.settings_kept {deployment : Deployment} {s after : State} {label : Label}
    (moved : Transition deployment s label after) (session : label.isStart = false) :
    after.batchSize = s.batchSize ∧
      after.publisher.buffer.capacity = s.publisher.buffer.capacity := by
  have settled (handled : State) : handled.settleCursor.loopTop.batchSize = handled.batchSize ∧
      handled.settleCursor.loopTop.publisher.buffer.capacity =
        handled.publisher.buffer.capacity := by
    constructor
    · exact handled.settleCursor_batchSize
    · exact congrArg (fun publisher => publisher.buffer.capacity) handled.settleCursor_publisher
  have paced (finished : State) (gap : Nat) : (finished.pace gap).batchSize = finished.batchSize ∧
      (finished.pace gap).publisher.buffer.capacity = finished.publisher.buffer.capacity := by
    obtain ⟨needsDelay, same⟩ := finished.pace_eq gap
    rw [same]
    exact ⟨rfl, rfl⟩
  have written (success : Bool) (task : Task) :
      ((s.writeFile success).goto task).batchSize = s.batchSize ∧
        ((s.writeFile success).goto task).publisher.buffer.capacity =
          s.publisher.buffer.capacity := by
    obtain ⟨file, same⟩ := s.writeFile_eq success
    rw [same]
    exact ⟨rfl, rfl⟩
  cases moved with
  | start settings readable events store startBlock here loaded determined => cases session
  | resumed here connected nothing => exact settled (s.sendPause false)
  | paused here disconnected => exact settled (s.sendPause true)
  | flushDone caller message request here received =>
      exact settled ((s.record (.acked message)).sendPause false)
  | flushFailedResumed message request later here =>
      obtain ⟨batchSize, capacity⟩ := settled ((s.returnBuffer (message :: later)).sendPause false)
      exact ⟨batchSize, capacity.trans (MessageBuffer.extendFront_capacity _ _)⟩
  | flushFailedHeld message request later here =>
      exact ⟨rfl, MessageBuffer.extendFront_capacity _ _⟩
  | persisted success here => exact written success .tryResume
  | finalPersisted success here => exact written success .down
  | batchEmpty latest batch here empty => exact paced s _
  | batchDelivered latest batch here nonempty nothing =>
      exact paced ((s.advance batch.endBlock).updateStore batch.endBlock) _
  | batchHeld latest batch here nonempty waiting => exact paced (s.advance batch.endBlock) _
  | _ => exact ⟨rfl, rfl⟩

section Session

variable {deployment : Deployment} {settings : Settings} {readable : Bool}
  {events : List ConnectionState} {stopped started s : State} {session : List Label}

theorem started_from (taken : step deployment stopped (.start settings readable events) =
    some started) :
    started.batchSize = settings.batchSize ∧
      started.publisher.buffer.capacity = min settings.bufferCapacity maxCapacity ∧
        (∀ state, stopped.fileContent readable = .parsed state →
          started.nextBlock = u64Add state.lastBlock 1) ∧
          ((∀ state, stopped.fileContent readable ≠ .parsed state) →
            started.nextBlock = deployment.config.initialBlock) := by
  obtain ⟨store, startBlock, loaded, determined, rfl⟩ := (step_transition taken).of_start
  refine ⟨rfl, rfl, ?_, ?_⟩
  · intro state content
    rw [content] at loaded
    obtain ⟨lastSynced, fromFile⟩ := StateStore.load_parsed loaded
    rw [← lastSynced]
    exact StateStore.determineStartBlock_of_file fromFile determined
  · intro absent
    rcases StateStore.load_cases loaded with ⟨state, content, _, _⟩ | rfl
    · exact absurd content (absent state)
    · exact StateStore.determineStartBlock_of_fresh rfl determined

end Session

/-- The connection may go down while the batch is published. -/
def Sample.iteration : Iteration :=
  { latest := 101
    fetch := Sample.deployment.parser.provider Sample.chain
    order := Sample.order
    events := [.disconnected] }

end NoxIngestor
