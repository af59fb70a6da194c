/-
How often a session hands a message over.

Delivery is at least once.  A message is handed over once for being read, and
once more for each publish of it that fails and for each time a batch is dropped
that it had already been taken from.
-/

import NoxIngestor.FaultFree
import NoxIngestor.StreamContents

namespace NoxIngestor

open Scanning

/-! ### What is still to be handed over -/

namespace Task

/-- What a suspended flush has still to hand over, behind the message in flight. -/
def behind : Task → List TransactionMessage
  | .flush _caller _message _request rest => rest
  | _ => []

/-- What is left to hand over of the batch in hand. -/
def toSend (task : Task) : List TransactionMessage :=
  match task.unsent with
  | some (_batch, rest) => rest
  | none => []

private theorem unsent_of_over {task : Task} (ended : task.active = false) :
    task.unsent = none := by
  cases task with
  | down => rfl
  | finalPersist => rfl
  | _ => cases ended

end Task

namespace State

/-- Every copy that will be handed over unless the batch in hand is dropped. -/
def waiting (s : State) : List TransactionMessage :=
  s.task.toSend ++ (s.task.behind ++ s.publisher.buffer.buffer)

/-- The first block that is still to be read: behind the batch in hand. -/
def frontier (s : State) : Nat :=
  match s.task.unsent with
  | some (batch, _rest) => max s.nextBlock (lastBlock batch + 1)
  | none => s.nextBlock

/-- How often the message has been handed over, or will be if nothing more fails. -/
def charge (message : TransactionMessage) (s : State) : Nat :=
  (handedIn s.trace).count message +
    if s.task.active then
      s.waiting.count message + (decide (s.frontier ≤ message.blockNumber)).toNat
    else 0

/-! ### What makes a message be handed over again -/

/-- The message lies in the batch in hand and has been taken from it. -/
def took (s : State) (message : TransactionMessage) : Bool :=
  match s.task.unsent with
  | some (batch, rest) =>
      decide (s.nextBlock ≤ message.blockNumber ∧ message.blockNumber ≤ lastBlock batch ∧
        message ∉ rest)
  | none => false

/-- The session goes on without the batch in hand. -/
def dropsBatch (s : State) (label : Label) : Bool :=
  match label, s.task with
  | .stateChanged, _ => true
  | .flushTick, _ => true
  | .waitElapsed, .select (.waitInterval _latest _batch _rest) => s.shutdown
  | _, _ => false

/-- The publish of the message fails, or a batch is dropped that it was taken from. -/
def repeats (message : TransactionMessage) (s : State) (label : Label) : Bool :=
  match label with
  | .published false => decide (s.task.inFlight.map Prod.snd = some message)
  | _ => s.dropsBatch label && s.took message

def repeatCost (message : TransactionMessage) (s : State) (label : Label) : Nat :=
  (s.repeats message label).toNat

private theorem loopTop_behind (s : State) : s.loopTop.task.behind = [] :=
  s.loopTop_cases (motive := fun task => task.behind = []) rfl rfl

private theorem frontier_of_free {s : State} (free : s.task.unsent = none) :
    s.frontier = s.nextBlock := by
  unfold frontier
  rw [free]

private theorem frontier_of_batch {s : State} {batch : ReadBatch} {rest : List TransactionMessage}
    (current : s.task.unsent = some (batch, rest)) :
    s.frontier = max s.nextBlock (lastBlock batch + 1) := by
  unfold frontier
  rw [current]

private theorem waiting_of_free {s : State} (free : s.task.unsent = none) :
    s.waiting = s.task.behind ++ s.publisher.buffer.buffer := by
  unfold waiting Task.toSend
  rw [free]
  rfl

private theorem waiting_of_batch {s : State} {batch : ReadBatch} {rest : List TransactionMessage}
    (current : s.task.unsent = some (batch, rest)) (idle : s.task.behind = []) :
    s.waiting = rest ++ s.publisher.buffer.buffer := by
  unfold waiting Task.toSend
  rw [current, idle]
  rfl

private theorem charge_of_active {s : State} (active : s.task.active = true)
    (message : TransactionMessage) :
    s.charge message = (handedIn s.trace).count message +
      (s.waiting.count message + (decide (s.frontier ≤ message.blockNumber)).toNat) := by
  unfold charge
  rw [if_pos active]

private theorem handed_le_charge (s : State) (message : TransactionMessage) :
    (handedIn s.trace).count message ≤ s.charge message :=
  Nat.le_add_right _ _

end State

/-! ### One step -/

/-- The step raises the charge by no more than it costs, and what is left of the batch
in hand is still an end of what was read. -/
structure Charged (deployment : Deployment) (chain : List Log) (message : TransactionMessage)
    (s : State) (label : Label) (after : State) : Prop where
  inHand : InHand (Reads deployment chain belowLast) after.handing
  charge : after.charge message ≤ s.charge message + s.repeatCost message label

namespace Charged

variable {deployment : Deployment} {chain : List Log} {message : TransactionMessage}
variable {s after : State} {label : Label}

theorem free (unsent : after.task.unsent = none) :
    InHand (Reads deployment chain belowLast) after.handing := by
  intro batch remaining current
  rw [show after.handing.batch = none from unsent] at current
  cases current

theorem stopped (ended : after.task.active = false)
    (handed : handedIn after.trace = handedIn s.trace) :
    Charged deployment chain message s label after := by
  refine ⟨free (Task.unsent_of_over ended), ?_⟩
  unfold State.charge
  rw [ended, handed]
  exact Nat.le_trans (Nat.le_add_right _ _) (Nat.le_add_right _ _)

theorem shifted (sent again : List TransactionMessage)
    (inHand : InHand (Reads deployment chain belowLast) after.handing)
    (active : s.task.active = true) (frontier : after.frontier = s.frontier)
    (handed : handedIn after.trace = sent ++ handedIn s.trace)
    (waiting : (sent ++ after.waiting).Perm (again ++ s.waiting))
    (paid : again.count message ≤ s.repeatCost message label) :
    Charged deployment chain message s label after := by
  refine ⟨inHand, ?_⟩
  rw [State.charge_of_active active]
  have counts := waiting.count_eq message
  rw [List.count_append, List.count_append] at counts
  unfold State.charge
  rw [handed, List.count_append, frontier]
  split <;> omega

theorem stays (inHand : InHand (Reads deployment chain belowLast) s.handing)
    (active : s.task.active = true) (unsent : after.task.unsent = s.task.unsent)
    (behind : after.task.behind = s.task.behind)
    (buffer : after.publisher.buffer.buffer = s.publisher.buffer.buffer)
    (next : after.nextBlock = s.nextBlock)
    (handed : handedIn after.trace = handedIn s.trace) :
    Charged deployment chain message s label after := by
  have kept : InHand (Reads deployment chain belowLast) after.handing := by
    intro batch remaining current
    rw [show after.handing.batch = s.handing.batch from unsent] at current
    rw [show after.handing.next = s.handing.next from next]
    exact inHand batch remaining current
  have frontier : after.frontier = s.frontier := by
    unfold State.frontier
    rw [unsent, next]
  have waiting : after.waiting = s.waiting := by
    unfold State.waiting Task.toSend
    rw [unsent, behind, buffer]
  apply shifted [] [] kept active frontier handed
  · rw [waiting]
  · exact Nat.zero_le _

theorem elsewhere {task : Task} (here : s.task = task) (active : task.active = true)
    (unsent : task.unsent = none) (behind : task.behind = [])
    (stillFree : after.task.unsent = none) (stillIdle : after.task.behind = [])
    (buffer : after.publisher.buffer.buffer = s.publisher.buffer.buffer)
    (next : after.nextBlock = s.nextBlock)
    (handed : handedIn after.trace = handedIn s.trace) :
    Charged deployment chain message s label after := by
  apply stays
  · exact free (here ▸ unsent)
  · exact here ▸ active
  · rw [stillFree, here, unsent]
  · rw [stillIdle, here, behind]
  · exact buffer
  · exact next
  · exact handed

/-- What is dropped with a batch is read again; of that, what had been taken from the
batch is paid for. -/
private theorem drops {reading : Reading} (here : s.task = .select reading)
    (stillFree : after.task.unsent = none) (stillIdle : after.task.behind = [])
    (buffer : after.publisher.buffer.buffer = s.publisher.buffer.buffer)
    (next : after.nextBlock = s.nextBlock)
    (handed : handedIn after.trace = handedIn s.trace)
    (dropped : s.task.unsent.isSome = true → s.dropsBatch label = true)
    (noPublish : ∀ success, label ≠ .published success) :
    Charged deployment chain message s label after := by
  have idle : s.task.behind = [] := by
    rw [here]
    rfl
  cases current : s.task.unsent with
  | none =>
      exact elsewhere here rfl (here ▸ current) (here ▸ idle) stillFree stillIdle buffer next
        handed
  | some inHand =>
      obtain ⟨batch, rest⟩ := inHand
      have drop : s.dropsBatch label = true := dropped (by rw [current]; rfl)
      have cost : s.repeatCost message label = (s.took message).toNat := by
        unfold State.repeatCost State.repeats
        split
        · exact absurd rfl (noPublish false)
        · rw [drop, Bool.true_and]
      refine ⟨free stillFree, ?_⟩
      have active : s.task.active = true := congrArg Task.active here
      rw [State.charge_of_active active, State.waiting_of_batch current idle,
        State.frontier_of_batch current, cost]
      unfold State.charge
      rw [State.waiting_of_free stillFree, State.frontier_of_free stillFree, stillIdle, buffer,
        handed, next, List.nil_append, List.count_append]
      suffices again : (decide (s.nextBlock ≤ message.blockNumber)).toNat ≤
          rest.count message +
            (decide (max s.nextBlock (lastBlock batch + 1) ≤ message.blockNumber)).toNat +
              (s.took message).toNat by
        split <;> omega
      by_cases inside : s.nextBlock ≤ message.blockNumber ∧ message.blockNumber ≤ lastBlock batch
      · by_cases left : message ∈ rest
        · have listed := List.count_pos_iff.mpr left
          have atMost := Bool.toNat_le (decide (s.nextBlock ≤ message.blockNumber))
          omega
        · have taken : s.took message = true := by
            unfold State.took
            rw [current]
            exact decide_eq_true ⟨inside.1, inside.2, left⟩
          rw [taken]
          exact Nat.le_trans (Bool.toNat_le _) (Nat.le_add_left _ _)
      · by_cases lower : s.nextBlock ≤ message.blockNumber
        · have past : max s.nextBlock (lastBlock batch + 1) ≤ message.blockNumber := by omega
          rw [decide_eq_true past]
          exact Nat.le_trans (Bool.toNat_le _)
            (Nat.le_trans (Nat.le_add_left _ _) (Nat.le_add_right _ _))
        · rw [decide_eq_false lower]
          exact Nat.zero_le _

theorem reads (wellFormed : WellFormedChain chain) {task : Task} (here : s.task = task)
    (active : task.active = true) (unsent : task.unsent = none) (behind : task.behind = [])
    {batch : ReadBatch} {contents : List TransactionMessage}
    (contained : Reads deployment chain belowLast s.nextBlock batch contents)
    (current : after.task.unsent = some (batch, contents)) (stillIdle : after.task.behind = [])
    (buffer : after.publisher.buffer.buffer = s.publisher.buffer.buffer)
    (next : after.nextBlock = s.nextBlock)
    (handed : handedIn after.trace = handedIn s.trace) :
    Charged deployment chain message s label after := by
  constructor
  · intro found remaining same
    rw [show after.handing.batch = _ from current] at same
    cases same
    rw [show after.handing.next = s.nextBlock from next]
    exact ⟨contents, contained, List.suffix_refl contents⟩
  · have free : s.task.unsent = none := here ▸ unsent
    have running : s.task.active = true := here ▸ active
    rw [State.charge_of_active running, State.waiting_of_free free,
      State.frontier_of_free free, here, behind, List.nil_append]
    unfold State.charge
    rw [State.waiting_of_batch current stillIdle, State.frontier_of_batch current, buffer,
      handed, next, List.count_append]
    have distinct : contents.Nodup := by
      have ordered := (reads_listed deployment belowLast wellFormed).ordered _ _ _ contained
      exact ordered.imp fun earlier same => absurd (same ▸ earlier) (lt_irrefl _)
    have once : contents.count message +
        (decide (max s.nextBlock (lastBlock batch + 1) ≤ message.blockNumber)).toNat ≤
          (decide (s.nextBlock ≤ message.blockNumber)).toNat := by
      by_cases listed : message ∈ contents
      · obtain ⟨_, lower, upper⟩ := (mem_reads_iff wellFormed contained message).mp listed
        have inside : ¬ max s.nextBlock (lastBlock batch + 1) ≤ message.blockNumber := by omega
        rw [decide_eq_false inside, decide_eq_true lower]
        exact List.nodup_iff_count_le_one.mp distinct message
      · rw [List.count_eq_zero_of_not_mem listed, Nat.zero_add]
        by_cases past : max s.nextBlock (lastBlock batch + 1) ≤ message.blockNumber
        · have lower : s.nextBlock ≤ message.blockNumber := by omega
          rw [decide_eq_true past, decide_eq_true lower]
        · rw [decide_eq_false past]
          exact Nat.zero_le _
    split <;> omega

private theorem completes {latest : Nat} {batch : BatchResult}
    (here : s.task = .select (.publishing latest batch []))
    (next : after.nextBlock = s.frontier) (stillFree : after.task.unsent = none)
    (stillIdle : after.task.behind = [])
    (buffer : after.publisher.buffer.buffer = s.publisher.buffer.buffer)
    (handed : handedIn after.trace = handedIn s.trace) :
    Charged deployment chain message s label after := by
  have current : s.task.unsent = some ((latest, batch), []) := congrArg Task.unsent here
  apply shifted [] [] (free stillFree) (congrArg Task.active here) _ handed
  · rw [State.waiting_of_batch current (here ▸ rfl), State.waiting_of_free stillFree, stillIdle,
      buffer]
  · exact Nat.zero_le _
  · rw [State.frontier_of_free stillFree]
    exact next

private theorem takes (sent again : List TransactionMessage)
    (inHand : InHand (Reads deployment chain belowLast) s.handing)
    (active : s.task.active = true) {batch : ReadBatch} {taken : TransactionMessage}
    {rest : List TransactionMessage}
    (current : s.task.unsent = some (batch, taken :: rest))
    (left : after.task.unsent = some (batch, rest)) (next : after.nextBlock = s.nextBlock)
    (handed : handedIn after.trace = sent ++ handedIn s.trace)
    (waiting : (sent ++ after.waiting).Perm (again ++ s.waiting))
    (paid : again.count message ≤ s.repeatCost message label) :
    Charged deployment chain message s label after := by
  apply shifted sent again _ active _ handed waiting paid
  · intro found remaining same
    rw [show after.handing.batch = _ from left] at same
    cases same
    obtain ⟨contents, contained, suffix⟩ := inHand _ _ current
    rw [show after.handing.next = s.handing.next from next]
    exact ⟨contents, contained, (List.suffix_cons taken rest).trans suffix⟩
  · rw [State.frontier_of_batch left, State.frontier_of_batch current, next]

/-- A publish fails: the message in flight waits again, and that is paid for. -/
private theorem bounces {request : Nat} {flying : TransactionMessage}
    (inFlight : s.task.inFlight = some (request, flying))
    (inHand : InHand (Reads deployment chain belowLast) after.handing)
    (active : s.task.active = true) (frontier : after.frontier = s.frontier)
    (handed : handedIn after.trace = handedIn s.trace)
    (waiting : after.waiting.Perm (flying :: s.waiting)) :
    Charged deployment chain message s (.published false) after := by
  apply shifted [] [flying] inHand active frontier handed waiting
  unfold State.repeatCost State.repeats
  simp only [inFlight, Option.map_some, Option.some.injEq]
  by_cases same : flying = message
  · rw [same, decide_eq_true rfl, List.count_singleton_self]
    exact Nat.le_refl 1
  · rw [List.count_eq_zero_of_not_mem fun member => same (List.mem_singleton.mp member).symm]
    exact Nat.zero_le _

theorem settled (handled : State) {task : Task} (pause : Bool) (here : s.task = task)
    (active : task.active = true) (unsent : task.unsent = none) (behind : task.behind = [])
    (buffer : handled.publisher.buffer.buffer = s.publisher.buffer.buffer)
    (next : handled.nextBlock = s.nextBlock)
    (handed : handedIn handled.trace = handedIn s.trace) :
    Charged deployment chain message s label
      (handled.sendPause pause).settleCursor.loopTop := by
  apply elsewhere here active unsent behind (State.loopTop_unsent _) (State.loopTop_behind _)
  · rw [State.signalled_publisher]
    exact buffer
  · exact (State.settleCursor_nextBlock _).trans next
  · exact (State.settleCursor_handed _).trans handed

theorem of_transition (wellFormed : WellFormedChain chain)
    (inHand : InHand (Reads deployment chain belowLast) s.handing)
    (moved : Transition deployment s label after) (session : label.isStart = false)
    (honest : label.Honest deployment.parser chain)
    (ending : ReadsTo deployment belowLast s label) :
    Charged deployment chain message s label after := by
  have outside (up : after.task = s.task) (publisher : after.publisher = s.publisher)
      (next : after.nextBlock = s.nextBlock) (trace : after.trace = s.trace) :
      Charged deployment chain message s label after := by
    cases active : s.task.active with
    | false => exact stopped (up ▸ active) (congrArg handedIn trace)
    | true =>
        exact stays inHand active (congrArg Task.unsent up) (congrArg Task.behind up)
          (congrArg (fun publisher => publisher.buffer.buffer) publisher) next
          (congrArg handedIn trace)
  have finished {latest : Nat} {batch : BatchResult} (moved : State)
      (here : s.task = .select (.publishing latest batch []))
      (next : moved.nextBlock = s.frontier) (publisher : moved.publisher = s.publisher)
      (handed : handedIn moved.trace = handedIn s.trace) (gap : Nat) :
      Charged deployment chain message s label (moved.pace gap) := by
    obtain ⟨needsDelay, same⟩ := moved.pace_eq gap
    rw [same]
    exact completes here next (State.loopTop_unsent _) (State.loopTop_behind _)
      (congrArg (fun publisher => publisher.buffer.buffer) publisher) handed
  have behind {latest : Nat} {batch : BatchResult}
      (here : s.task = .select (.publishing latest batch []))
      (nonempty : batch.startBlock ≤ batch.endBlock) :
      u64Add batch.endBlock 1 = s.frontier := by
    have current : s.task.unsent = some ((latest, batch), []) := congrArg Task.unsent here
    have starts := startBlock_of_inHand inHand current
    obtain ⟨contents, contained, _⟩ := inHand _ _ current
    rw [State.frontier_of_batch current]
    have forward : s.nextBlock ≤ batch.endBlock := starts ▸ nonempty
    rw [contained.endBlock_succ forward]
    exact (Nat.max_eq_right (Nat.le_succ_of_le forward)).symm
  -- From the front of one list to the end of the other.
  have toBuffer (moved : TransactionMessage) (rest buffer : List TransactionMessage) :
      (rest ++ (buffer ++ [moved])).Perm (moved :: rest ++ buffer) := by
    rw [← List.append_assoc]
    exact List.perm_append_singleton moved (rest ++ buffer)
  cases moved with
  | elapse millis => exact outside rfl rfl rfl rfl
  | natsEvent state up => exact outside rfl rfl rfl rfl
  | receive request jetstream received => exact outside rfl rfl rfl rfl
  | shutdownSignal up => exact outside rfl rfl rfl rfl
  | crash up => exact stopped rfl rfl
  | start settings readable events store startBlock here loaded determined => cases session
  | delayElapsed here running =>
      exact elsewhere here rfl rfl rfl (State.loopTop_unsent _) (State.loopTop_behind _) rfl rfl
        rfl
  | delayCancelled here cancelled => exact stopped rfl rfl
  | delayBroken here cancelled => exact stopped rfl rfl
  | selectBroken reading here awaits cancelled => exact stopped rfl rfl
  | stateChanged reading here awaits changed =>
      exact drops here rfl rfl rfl rfl rfl (fun _some => rfl) nofun
  | resumed here connected nothing => exact settled s false here rfl rfl rfl rfl rfl rfl
  | paused here disconnected => exact settled s true here rfl rfl rfl rfl rfl rfl
  | flushTick reading here awaits =>
      exact drops here rfl rfl rfl rfl rfl (fun _some => rfl) nofun
  | persisted success here =>
      obtain ⟨file, same⟩ := s.writeFile_eq success
      rw [same]
      exact elsewhere here rfl rfl rfl rfl rfl rfl rfl rfl
  | finalPersisted success here =>
      obtain ⟨file, same⟩ := s.writeFile_eq success
      rw [same]
      exact stopped rfl rfl
  | resumeSkipped here skipped =>
      exact elsewhere here rfl rfl rfl (State.loopTop_unsent _) (State.loopTop_behind _) rfl rfl
        rfl
  | flushStarted caller message later here connected buffered labelled =>
      have unsent : s.task.unsent = none := by
        rw [here]
        cases caller <;> rfl
      have idle : s.task.behind = [] := by
        rw [here]
        cases caller <;> rfl
      have active : s.task.active = true := by
        rw [here]
        cases caller <;> rfl
      refine shifted [message] [] (free rfl) active ?_ rfl ?_ (Nat.zero_le _)
      · rw [State.frontier_of_free unsent]
        rfl
      · rw [State.waiting_of_free unsent, idle, buffered]
        exact List.Perm.of_eq (congrArg (List.cons message) (List.append_nil later))
  | flushAcked caller message request next later here received =>
      have unsent : s.task.unsent = none := congrArg Task.unsent here
      refine shifted [next] [] (free rfl) (congrArg Task.active here) ?_ rfl ?_ (Nat.zero_le _)
      · rw [State.frontier_of_free unsent]
        rfl
      · rw [State.waiting_of_free unsent, here]
        exact List.Perm.refl _
  | flushDone caller message request here received =>
      exact settled (s.record (.acked message)) false here rfl rfl rfl rfl rfl rfl
  | flushFailedResumed message request later here =>
      have unsent : s.task.unsent = none := congrArg Task.unsent here
      apply bounces (congrArg Task.inFlight here) (free (State.loopTop_unsent _))
        (congrArg Task.active here)
      · rw [State.frontier_of_free unsent, State.frontier_of_free (State.loopTop_unsent _)]
        exact State.settleCursor_nextBlock _
      · exact State.settleCursor_handed _
      · rw [State.waiting_of_free unsent, State.waiting_of_free (State.loopTop_unsent _),
          State.loopTop_behind, State.signalled_publisher, here]
        exact List.Perm.of_eq (MessageBuffer.extendFront_buffer _ _)
  | flushFailedHeld message request later here =>
      have unsent : s.task.unsent = none := congrArg Task.unsent here
      apply bounces (congrArg Task.inFlight here) (free (State.loopTop_unsent _))
        (congrArg Task.active here)
      · rw [State.frontier_of_free unsent, State.frontier_of_free (State.loopTop_unsent _)]
        rfl
      · rfl
      · rw [State.waiting_of_free unsent, State.waiting_of_free (State.loopTop_unsent _),
          State.loopTop_behind, here]
        exact List.Perm.of_eq (MessageBuffer.extendFront_buffer _ _)
  | unpaused here flowing => exact elsewhere here rfl rfl rfl rfl rfl rfl rfl rfl
  | retried label reading here retry => exact outside rfl rfl rfl rfl
  | caughtUp latest here ahead =>
      exact elsewhere here rfl rfl rfl (State.loopTop_unsent _) (State.loopTop_behind _) rfl rfl
        rfl
  | behind latest here available => exact elsewhere here rfl rfl rfl rfl rfl rfl rfl rfl
  | batchRead latest fetch order batch here success =>
      exact reads wellFormed here rfl rfl rfl (.of_success here honest ending success) rfl rfl
        rfl rfl rfl
  | batchEmpty latest batch here empty =>
      have starts := startBlock_of_inHand inHand (congrArg Task.unsent here)
      refine finished s here ?_ rfl rfl _
      rw [State.frontier_of_batch (congrArg Task.unsent here)]
      show s.nextBlock = max s.nextBlock (batch.endBlock + 1)
      omega
  | batchDelivered latest batch here nonempty nothing =>
      exact finished ((s.advance batch.endBlock).updateStore batch.endBlock) here
        (behind here nonempty) rfl rfl _
  | batchHeld latest batch here nonempty waiting =>
      exact finished (s.advance batch.endBlock) here (behind here nonempty) rfl rfl _
  | bufferFull latest batch transaction later here full =>
      exact stays inHand (congrArg Task.active here) (congrArg Task.unsent here).symm
        (congrArg Task.behind here).symm rfl rfl rfl
  | handed latest batch transaction later here room connected =>
      refine takes [transaction] [] inHand (congrArg Task.active here)
        (congrArg Task.unsent here) rfl rfl rfl ?_ (Nat.zero_le _)
      rw [State.waiting_of_batch (congrArg Task.unsent here) (congrArg Task.behind here)]
      exact List.Perm.refl _
  | buffered latest batch transaction later here room disconnected =>
      refine takes [] [] inHand (congrArg Task.active here)
        (congrArg Task.unsent here) rfl rfl rfl ?_ (Nat.zero_le _)
      rw [State.waiting_of_batch (congrArg Task.unsent here) (congrArg Task.behind here)]
      exact toBuffer transaction later s.publisher.buffer.buffer
  | publishAcked latest batch message request later here received =>
      exact stays inHand (congrArg Task.active here) (congrArg Task.unsent here).symm
        (congrArg Task.behind here).symm rfl rfl rfl
  | publishFailed latest batch failed request later here room =>
      have current : s.task.unsent = some ((latest, batch), later) := congrArg Task.unsent here
      have kept : InHand (Reads deployment chain belowLast)
          ((s.holdBack failed).goto (.select (.publishing latest batch later))).handing := by
        intro found remaining same
        exact inHand found remaining (current.trans same)
      apply bounces (congrArg Task.inFlight here) kept (congrArg Task.active here)
      · rw [State.frontier_of_batch current]
        rfl
      · rfl
      · rw [State.waiting_of_batch current (congrArg Task.behind here)]
        exact toBuffer failed later s.publisher.buffer.buffer
  | publishRejected latest batch message request later here full =>
      exact stays inHand (congrArg Task.active here) (congrArg Task.unsent here).symm
        (congrArg Task.behind here).symm rfl rfl rfl
  | waitElapsed latest batch later here running =>
      exact stays inHand (congrArg Task.active here) (congrArg Task.unsent here).symm
        (congrArg Task.behind here).symm rfl rfl rfl
  | waitCancelled latest batch later here cancelled =>
      refine drops here (State.loopTop_unsent _) (State.loopTop_behind _) rfl rfl rfl ?_ nofun
      intro _some
      unfold State.dropsBatch
      rw [here]
      exact cancelled
  | errorSlept latest batch later here =>
      exact stays inHand (congrArg Task.active here) (congrArg Task.unsent here).symm
        (congrArg Task.behind here).symm rfl rfl rfl

end Charged

/-! ### A whole session -/

private theorem State.startSession_charge (s : State) (settings : Settings)
    (events : List ConnectionState) (store : StateStore) (startBlock : Nat)
    (message : TransactionMessage) :
    (s.startSession settings events store startBlock).charge message ≤ 1 := by
  have free : (s.startSession settings events store startBlock).task.unsent = none :=
    State.loopTop_unsent _
  have active : (s.startSession settings events store startBlock).task.active = true :=
    State.loopTop_active _
  have nothing : (s.startSession settings events store startBlock).waiting = [] := by
    rw [State.waiting_of_free free]
    exact congrArg (fun idle => idle ++ []) (State.loopTop_behind _)
  rw [State.charge_of_active active, nothing, List.count_nil, Nat.zero_add]
  exact Nat.le_trans (Nat.le_of_eq (Nat.zero_add _)) (Bool.toNat_le _)

/-- A session hands a message over at most once, and once more for each publish of it
that fails and for each batch it drops after taking the message from it. -/
theorem handed_once_and_for_repeats {deployment : Deployment} {chain : List Log}
    (wellFormed : WellFormedChain chain) {stopped started s : State} {settings : Settings}
    {readable : Bool} {events : List ConnectionState} {session : List Label}
    (taken : step deployment stopped (.start settings readable events) = some started)
    (sameSession : ∀ label ∈ session, label.isStart = false)
    (honest : ∀ label ∈ session, label.Honest deployment.parser chain)
    (below : Runs.Guarded (step deployment) (ReadsTo deployment belowLast) started session)
    (reached : Runs.run (step deployment) started session = some s)
    (message : TransactionMessage) :
    (handedIn s.trace).count message ≤
      1 + Runs.total (step deployment) (State.repeatCost message) started session := by
  obtain ⟨store, startBlock, _, _, rfl⟩ := (step_transition taken).of_start
  have opening := stopped.startSession_charge settings events store startBlock message
  have guarded := ((Runs.guarded_of_labels sameSession).and
    (Runs.guarded_of_labels honest)).and below
  have preserved : ∀ state label next,
      ((label.isStart = false ∧ label.Honest deployment.parser chain) ∧
        ReadsTo deployment belowLast state label) →
      InHand (Reads deployment chain belowLast) state.handing →
      step deployment state label = some next →
        InHand (Reads deployment chain belowLast) next.handing ∧
          next.charge message ≤ state.charge message + state.repeatCost message label := by
    rintro state label next ⟨⟨going, honestly⟩, ending⟩ inHand stepped
    have one : Charged deployment chain message state label next :=
      .of_transition wellFormed inHand (step_transition stepped) going honestly ending
    exact ⟨one.inHand, one.charge⟩
  have charged := Runs.run_charged preserved guarded
    (Charged.free (State.loopTop_unsent _)) reached
  calc (handedIn s.trace).count message
      ≤ s.charge message := s.handed_le_charge message
    _ ≤ _ := charged
    _ ≤ _ := Nat.add_le_add_right opening _

/-- The first publish fails, the batch is dropped while the second is in flight, the
flush delivers the first message, and the batch is read again. -/
def Sample.troubledSession : List Label :=
  [.stateChanged, .handleStateChange, .unpaused, .latestBlock (.ok 101), Sample.read,
    .nextTransaction, .published false, .nextTransaction, .flushTick, .persisted true,
    .tryResumeIfConnected, .receive 2, .published true, .unpaused, .latestBlock (.ok 101),
    Sample.read, .nextTransaction]

/-- The first message is handed over three times, and the bound is three. -/
theorem handed_once_and_for_repeats_troubledSession :
    ∃ started s message,
      step Sample.deployment (State.initial Sample.deployment)
          (.start Sample.settings true [.connected]) = some started ∧
        Runs.run (step Sample.deployment) started Sample.troubledSession = some s ∧
          (handedIn s.trace).count message = 3 ∧
            Runs.total (step Sample.deployment) (State.repeatCost message) started
              Sample.troubledSession = 2 ∧
                (handedIn s.trace).count message ≤ 1 +
                  Runs.total (step Sample.deployment) (State.repeatCost message) started
                    Sample.troubledSession := by
  have ends : (step Sample.deployment (State.initial Sample.deployment)
      (.start Sample.settings true [.connected])).bind (fun started =>
        (Runs.run (step Sample.deployment) started Sample.troubledSession).bind fun s =>
          (handedIn s.trace).head?.map fun message =>
            ((handedIn s.trace).count message,
              Runs.total (step Sample.deployment) (State.repeatCost message) started
                Sample.troubledSession,
              decide (Runs.Guarded (step Sample.deployment)
                (ReadsTo Sample.deployment belowLast) started
                  Sample.troubledSession))) = some (3, 2, true) := by
    decide +kernel
  obtain ⟨started, taken, later⟩ := Option.bind_eq_some_iff.mp ends
  obtain ⟨s, reached, found⟩ := Option.bind_eq_some_iff.mp later
  obtain ⟨message, _, values⟩ := Option.map_eq_some_iff.mp found
  simp only [Prod.mk.injEq, decide_eq_true_eq] at values
  obtain ⟨count, cost, below⟩ := values
  refine ⟨started, s, message, taken, reached, count, cost, ?_⟩
  apply handed_once_and_for_repeats Sample.chain_wellFormed taken (by decide) _ below reached
  simp only [Sample.troubledSession, List.forall_mem_cons, Label.Honest, List.not_mem_nil,
    IsEmpty.forall_iff, implies_true, and_true, true_and]
  exact ⟨Sample.read_honest, Sample.read_honest⟩

end NoxIngestor
