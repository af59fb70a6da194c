/-
The main loop refines a scan that delivers what it reads.

Whatever a step does to the state file, the stream, the connection or the pause
flag, to the scan it is one of a few moves: reading a batch, dropping it,
delivering or buffering its next transaction, draining the buffer, or moving on.
What holds of every such scan then holds of the loop.
-/

import NoxIngestor.Pausing
import NoxIngestor.Lib.Scan

namespace NoxIngestor

open Scanning

/-! ### The scan of a state -/

abbrev ReadBatch := Nat × BatchResult

def lastBlock (batch : ReadBatch) : Nat := batch.2.endBlock

/-- A batch can be read when an honest provider answers so.  One that reaches its first
block ends at a block of the kind. -/
def Reads (deployment : Deployment) (chain : List Log) (ends : Nat → Prop) (next : Nat)
    (batch : ReadBatch) (contents : List TransactionMessage) : Prop :=
  (next ≤ batch.2.endBlock → ends batch.2.endBlock) ∧ contents = batch.2.transactions ∧
    ∃ batchSize fetch order, deployment.parser.Honest chain fetch ∧
      (deployment.reader batchSize).readBatch next batch.1 fetch order = .ok batch.2

def Label.reads : Label → Bool
  | .batchRead _fetch _order => true
  | _ => false

def Task.readingFor : Task → Option Nat
  | .select (.readBatch latest) => some latest
  | _ => none

/-- A batch is read only if its range ends at a block of the kind. -/
def ReadsTo (deployment : Deployment) (ends : Nat → Prop) (s : State) (label : Label) : Prop :=
  label.reads = true → ∀ latest ∈ s.task.readingFor,
    ends ((deployment.reader s.batchSize).batchEnd s.nextBlock latest)

theorem readsTo_any (deployment : Deployment) (s : State) (label : Label) :
    ReadsTo deployment (fun _block => True) s label :=
  fun _reads _latest _here => trivial

theorem Reads.of_success {deployment : Deployment} {chain : List Log} {ends : Nat → Prop}
    {s : State} {latest : Nat} {fetch : Fetch} {order : HashOrder} {batch : BatchResult}
    (here : s.task = .select (.readBatch latest))
    (honest : deployment.parser.Honest chain fetch)
    (ending : ReadsTo deployment ends s (.batchRead fetch order))
    (success : (deployment.reader s.batchSize).readBatch s.nextBlock latest fetch order =
      .ok batch) :
    Reads deployment chain ends s.nextBlock (latest, batch) batch.transactions := by
  refine ⟨fun forward => ?_, rfl, s.batchSize, fetch, order, honest, success⟩
  rw [BlockReader.readBatch_endBlock _ success forward]
  exact ending rfl latest (congrArg Task.readingFor here)

namespace State

def scanning (s : State) : Scan ReadBatch TransactionMessage :=
  { first := s.startBlock
    next := s.nextBlock
    batch := s.task.batch
    queue := s.held
    acked := ackedIn s.trace }

def scan (s : State) : Option (Scan ReadBatch TransactionMessage) :=
  match s.task with
  | .down => none
  | _ => some s.scanning

theorem scan_of_up {s : State} (up : s.task ≠ .down) : s.scan = some s.scanning := by
  unfold scan
  split
  · rename_i down
    exact absurd down up
  · rfl

theorem scan_of_down {s : State} (down : s.task = .down) : s.scan = none := by
  unfold scan
  rw [down]

theorem held_of_idle {s : State} (idle : s.task.drained = []) :
    s.held = s.publisher.buffer.buffer := by
  unfold held
  rw [idle, List.nil_append]

theorem loopTop_held (s : State) : s.loopTop.held = s.publisher.buffer.buffer :=
  held_of_idle s.loopTop_drained

private theorem scan_eq {s : State} {scan : Scan ReadBatch TransactionMessage}
    (up : s.task ≠ .down) (first : s.startBlock = scan.first) (next : s.nextBlock = scan.next)
    (batch : s.task.batch = scan.batch) (queue : s.held = scan.queue)
    (acked : ackedIn s.trace = scan.acked) : s.scan = some scan := by
  rw [scan_of_up up]
  unfold scanning
  rw [first, next, batch, queue, acked]

theorem up_of_scan {s : State} {held : Scan ReadBatch TransactionMessage}
    (found : s.scan = some held) : s.task ≠ .down ∧ held = s.scanning := by
  by_cases up : s.task = .down
  · rw [scan_of_down up] at found
    cases found
  · rw [scan_of_up up] at found
    cases found
    exact ⟨up, rfl⟩

end State

/-- What a step was, when it was one of the two moves that depend on more than
the scan. -/
def Reflects (s : State) (label : Label) : Move ReadBatch → Prop
  | .deliver => label = .published true ∧ ∃ latest batch message request later,
      s.task = .select (.publish latest batch message request later)
  | .complete batch next => next = u64Add batch.2.endBlock 1
  | _ => True

/-- The scan stands where it stood, with the same messages held and acknowledged. -/
structure Aligned (s after : State) : Prop where
  up : s.task ≠ .down
  stillUp : after.task ≠ .down
  first : after.startBlock = s.startBlock
  next : after.nextBlock = s.nextBlock
  held : after.held = s.held
  acked : ackedIn after.trace = ackedIn s.trace

namespace Aligned

variable {reads : Nat → ReadBatch → List TransactionMessage → Prop} {s after : State}

theorem idle (aligned : Aligned s after) (batch : after.task.batch = s.task.batch) :
    Step lastBlock reads s.scan .idle after.scan := by
  have same : after.scanning = s.scanning := by
    simp only [State.scanning, aligned.first, aligned.next, aligned.held, aligned.acked,
      batch]
  rw [State.scan_of_up aligned.up, State.scan_of_up aligned.stillUp, same]
  exact .idle _

theorem abandon (aligned : Aligned s after) (dropped : after.task.batch = none) :
    Step lastBlock reads s.scan .abandon after.scan := by
  have same : after.scanning = { s.scanning with batch := none } := by
    simp only [State.scanning, aligned.first, aligned.next, aligned.held, aligned.acked,
      dropped]
  rw [State.scan_of_up aligned.up, State.scan_of_up aligned.stillUp, same]
  exact .abandon _

theorem elsewhere {task : Task} (here : s.task = task) (up : task ≠ .down)
    (idle : task.drained = []) (stillUp : after.task ≠ .down)
    (stillIdle : after.task.drained = []) (publisher : after.publisher = s.publisher)
    (first : after.startBlock = s.startBlock) (next : after.nextBlock = s.nextBlock)
    (acked : ackedIn after.trace = ackedIn s.trace) : Aligned s after := by
  refine ⟨here ▸ up, stillUp, first, next, ?_, acked⟩
  unfold State.held
  rw [here, idle, stillIdle, publisher]

private theorem toLoopTop {task : Task} (here : s.task = task) (up : task ≠ .down)
    (idle : task.drained = []) {ended : State} (publisher : ended.publisher = s.publisher)
    (first : ended.startBlock = s.startBlock) (next : ended.nextBlock = s.nextBlock)
    (acked : ackedIn ended.trace = ackedIn s.trace) : Aligned s ended.loopTop :=
  elsewhere here up idle (State.loopTop_up _) (State.loopTop_drained _) publisher first next
    acked

theorem signalled {handled : State} {pause : Bool} {task : Task} (here : s.task = task)
    (up : task ≠ .down) (held : handled.publisher.buffer.buffer = s.held)
    (first : handled.startBlock = s.startBlock) (next : handled.nextBlock = s.nextBlock)
    (acked : ackedIn handled.trace = ackedIn s.trace) :
    Aligned s (handled.sendPause pause).settleCursor.loopTop := by
  refine ⟨here ▸ up, State.loopTop_up _, ?_, ?_, ?_, ?_⟩
  · exact (State.settleCursor_startBlock _).trans first
  · exact (State.settleCursor_nextBlock _).trans next
  · unfold State.held
    rw [State.loopTop_drained, State.signalled_publisher]
    exact held
  · exact (State.settleCursor_acked _).trans acked

end Aligned

/-! ### The refinement -/

section Refinement

variable {deployment : Deployment} {chain : List Log} {ends : Nat → Prop}
variable {s after : State} {label : Label}

/-- The move of the scan that a step of the loop makes. -/
def Refined (deployment : Deployment) (chain : List Log) (ends : Nat → Prop)
    (s : State) (label : Label) (after : State) : Prop :=
  ∃ move, Step lastBlock (Reads deployment chain ends) s.scan move after.scan ∧
    Reflects s label move

theorem Refined.idle (aligned : Aligned s after) (batch : after.task.batch = s.task.batch) :
    Refined deployment chain ends s label after :=
  ⟨.idle, aligned.idle batch, trivial⟩

theorem Refined.abandon (aligned : Aligned s after) (dropped : after.task.batch = none) :
    Refined deployment chain ends s label after :=
  ⟨.abandon, aligned.abandon dropped, trivial⟩

private theorem Refined.leaveSelect {reading : Reading} (here : s.task = .select reading)
    (task : Task) (up : task ≠ .down) (idle : task.drained = []) (empty : task.batch = none)
    {left : State} (publisher : left.publisher = s.publisher)
    (first : left.startBlock = s.startBlock) (next : left.nextBlock = s.nextBlock)
    (acked : ackedIn left.trace = ackedIn s.trace) :
    Refined deployment chain ends s label (left.goto task) :=
  .abandon (.elsewhere here nofun rfl up idle publisher first next acked) empty

private theorem Refined.bufferNext {latest : Nat} {batch : BatchResult}
    {message : TransactionMessage}
    {later : List TransactionMessage} (up : s.task ≠ .down)
    (current : s.task.batch = some ((latest, batch), message :: later))
    (idle : s.task.drained = []) :
    Refined deployment chain ends s label
      ((s.holdBack message).goto (.select (.publishing latest batch later))) := by
  refine ⟨.enqueue, ?_, trivial⟩
  have same : State.scan
      ((s.holdBack message).goto (.select (.publishing latest batch later))) =
      some { s.scanning with
        batch := some ((latest, batch), later)
        queue := s.scanning.queue ++ [message] } :=
    State.scan_eq nofun rfl rfl rfl
      (congrArg (fun held => held ++ [message]) (State.held_of_idle idle).symm) rfl
  rw [State.scan_of_up up, same]
  exact .enqueue s.scanning (latest, batch) message later current

theorem Refined.drain {caller : FlushCaller} {message : TransactionMessage} {request : Nat}
    {later : List TransactionMessage} (here : s.task = .flush caller message request later)
    (stillUp : after.task ≠ .down) (first : after.startBlock = s.startBlock)
    (next : after.nextBlock = s.nextBlock) (empty : after.task.batch = none)
    (held : after.held = later ++ s.publisher.buffer.buffer)
    (acked : ackedIn after.trace = message :: ackedIn s.trace) :
    Refined deployment chain ends s label after := by
  refine ⟨.drain, ?_, trivial⟩
  have waiting : s.scanning.queue = message :: (later ++ s.publisher.buffer.buffer) := by
    simp only [State.scanning, State.held, here, Task.drained, List.cons_append]
  have same : after.scan = some { s.scanning with
      queue := later ++ s.publisher.buffer.buffer
      acked := message :: s.scanning.acked } :=
    State.scan_eq stillUp first next (empty.trans (congrArg Task.batch here).symm) held acked
  rw [State.scan_of_up (here ▸ nofun), same]
  exact .drain s.scanning message _ waiting

theorem Refined.moveOn {latest : Nat} {batch : BatchResult}
    (here : s.task = .select (.publishing latest batch []))
    (inHand : InHand (Reads deployment chain ends) s.scanning)
    (nonempty : batch.startBlock ≤ batch.endBlock) (moved : State)
    (publisher : moved.publisher = s.publisher) (first : moved.startBlock = s.startBlock)
    (next : moved.nextBlock = u64Add batch.endBlock 1)
    (acked : ackedIn moved.trace = ackedIn s.trace) (gap : Nat) :
    Refined deployment chain ends s label (moved.pace gap) := by
  have current : s.scanning.batch = some ((latest, batch), []) := by
    simp only [State.scanning, here, Task.batch]
  obtain ⟨contents, ⟨_, _, batchSize, fetch, order, honest, success⟩, _⟩ :=
    inHand _ _ current
  have starts := ((deployment.reader batchSize).readBatch_located honest success).1
  obtain ⟨needsDelay, paced⟩ := moved.pace_eq gap
  refine ⟨.complete (latest, batch) (u64Add batch.endBlock 1), ?_, rfl⟩
  have same : State.scan (moved.pace gap) =
      some { s.scanning with next := u64Add batch.endBlock 1, batch := none } := by
    rw [paced]
    refine State.scan_eq (State.loopTop_up _) first next (State.loopTop_batch _) ?_ acked
    exact (State.loopTop_held _).trans ((congrArg (fun publisher => publisher.buffer.buffer)
      publisher).trans (State.held_of_idle (here ▸ rfl)).symm)
  rw [State.scan_of_up (by rw [here]; exact nofun), same]
  apply Step.complete s.scanning (latest, batch) _ current
  · exact starts ▸ nonempty
  · exact Nat.mod_le _ _

/-- Every transition is a move of the scan. -/
theorem Transition.refines (moved : Transition deployment s label after)
    (resumable : Resumable s)
    (inHand : ∀ scan, s.scan = some scan →
      InHand (Reads deployment chain ends) scan)
    (honest : label.Honest deployment.parser chain)
    (ending : ReadsTo deployment ends s label) :
    Refined deployment chain ends s label after := by
  cases moved with
  | elapse millis => exact ⟨.idle, .idle _, trivial⟩
  | natsEvent state up => exact ⟨.idle, .idle _, trivial⟩
  | receive request jetstream received => exact ⟨.idle, .idle _, trivial⟩
  | shutdownSignal up => exact ⟨.idle, .idle _, trivial⟩
  | crash up => exact ⟨.halt, .halt _, trivial⟩
  | start settings readable events store startBlock here loaded determined =>
      refine ⟨.begin, ?_, trivial⟩
      have fresh : State.scan (s.startSession settings events store startBlock) =
          some (Scan.fresh startBlock) :=
        State.scan_of_up (State.loopTop_up _)
      rw [State.scan_of_down here, fresh]
      exact .begin startBlock
  | delayElapsed here running =>
      exact .idle (.toLoopTop here nofun rfl rfl rfl rfl rfl)
        ((State.loopTop_batch _).trans (here ▸ rfl))
  | delayCancelled here cancelled =>
      exact .idle (.elsewhere here nofun rfl nofun rfl rfl rfl rfl rfl) (here ▸ rfl)
  | delayBroken here cancelled =>
      exact .idle (.elsewhere here nofun rfl nofun rfl rfl rfl rfl rfl) (here ▸ rfl)
  | selectBroken reading here awaits cancelled =>
      exact .leaveSelect here .finalPersist nofun rfl rfl rfl rfl rfl rfl
  | stateChanged reading here awaits changed =>
      exact .leaveSelect here .stateChanged nofun rfl rfl rfl rfl rfl rfl
  | resumed here connected nothing =>
      refine .idle (.signalled here nofun ?_ rfl rfl rfl)
        ((State.loopTop_batch _).trans (here ▸ rfl))
      simp only [State.held, here, Task.drained, List.nil_append]
  | paused here disconnected =>
      refine .idle (.signalled here nofun ?_ rfl rfl rfl)
        ((State.loopTop_batch _).trans (here ▸ rfl))
      simp only [State.held, here, Task.drained, List.nil_append]
  | flushTick reading here awaits =>
      exact .leaveSelect here .persist nofun rfl rfl rfl rfl rfl rfl
  | persisted success here =>
      obtain ⟨file, same⟩ := s.writeFile_eq success
      rw [same]
      exact .idle (.elsewhere here nofun rfl nofun rfl rfl rfl rfl rfl) (here ▸ rfl)
  | finalPersisted success here => exact ⟨.halt, .halt _, trivial⟩
  | resumeSkipped here skipped =>
      exact .idle (.toLoopTop here nofun rfl rfl rfl rfl rfl)
        ((State.loopTop_batch _).trans (here ▸ rfl))
  | flushStarted caller message later here connected buffered labelled =>
      have up : s.task ≠ .down := here ▸ caller.site_up
      have idle : s.task.drained = [] := here ▸ caller.site_drained
      have empty : s.task.batch = none := here ▸ caller.site_batch
      refine .idle ⟨up, nofun, rfl, rfl, ?_, rfl⟩ empty.symm
      simp only [State.held, idle, buffered, List.nil_append]
      exact List.append_nil (message :: later)
  | flushAcked caller message request next later here received =>
      exact .drain here nofun rfl rfl rfl rfl rfl
  | flushDone caller message request here received =>
      refine .drain here (State.loopTop_up _) (State.settleCursor_startBlock _)
        (State.settleCursor_nextBlock _) (State.loopTop_batch _) ?_
        (State.settleCursor_acked _)
      rw [State.loopTop_held]
      exact congrArg (fun publisher => publisher.buffer.buffer)
        (State.settleCursor_publisher _)
  | flushFailedResumed message request later here =>
      refine .idle (.signalled here nofun ?_ rfl rfl rfl)
        ((State.loopTop_batch _).trans (here ▸ rfl))
      simp only [State.held, here, Task.drained]
      exact MessageBuffer.extendFront_buffer _ _
  | flushFailedHeld message request later here =>
      refine .idle ⟨by rw [here]; exact nofun, State.loopTop_up _, rfl, rfl, ?_, rfl⟩
        ((State.loopTop_batch _).trans (here ▸ rfl))
      rw [State.loopTop_held, State.held, here]
      exact MessageBuffer.extendFront_buffer _ _
  | unpaused here flowing =>
      exact .idle (.elsewhere here nofun rfl nofun rfl rfl rfl rfl rfl) (here ▸ rfl)
  | retried label reading here retry => exact ⟨.idle, .idle _, trivial⟩
  | caughtUp latest here ahead =>
      exact .idle (.toLoopTop here nofun rfl rfl rfl rfl rfl)
        ((State.loopTop_batch _).trans (here ▸ rfl))
  | behind latest here available =>
      exact .idle (.elsewhere here nofun rfl nofun rfl rfl rfl rfl rfl) (here ▸ rfl)
  | batchRead latest fetch order batch here success =>
      refine ⟨.fetch, ?_, trivial⟩
      have idle : s.task.drained = [] := by
        rw [here]
        rfl
      have same : State.scan ((s.recordSuccess.record (.fetched batch.endBlock)).goto
          (.select (.publishing latest batch batch.transactions))) =
          some { s.scanning with
            batch := some ((latest, batch), batch.transactions) } :=
        State.scan_eq nofun rfl rfl rfl (State.held_of_idle idle).symm rfl
      rw [State.scan_of_up (by rw [here]; exact nofun), same]
      exact .fetch s.scanning (latest, batch) _ (congrArg Task.batch here)
        (.of_success here honest ending success)
  | batchEmpty latest batch here empty =>
      obtain ⟨needsDelay, same⟩ := s.pace_eq (latest - batch.endBlock)
      rw [same]
      exact .abandon (.toLoopTop here nofun rfl rfl rfl rfl rfl) (State.loopTop_batch _)
  | batchDelivered latest batch here nonempty nothing =>
      have current := inHand _ (State.scan_of_up (by rw [here]; exact nofun))
      exact .moveOn here current nonempty
        ((s.advance batch.endBlock).updateStore batch.endBlock) rfl rfl rfl rfl _
  | batchHeld latest batch here nonempty waiting =>
      have current := inHand _ (State.scan_of_up (by rw [here]; exact nofun))
      exact .moveOn here current nonempty (s.advance batch.endBlock) rfl rfl rfl rfl _
  | bufferFull latest batch transaction later here full =>
      exact .idle (.elsewhere here nofun rfl nofun rfl rfl rfl rfl rfl) (here ▸ rfl)
  | handed latest batch transaction later here room connected =>
      exact .idle (.elsewhere here nofun rfl nofun rfl rfl rfl rfl rfl) (here ▸ rfl)
  | buffered latest batch transaction later here room disconnected =>
      apply Refined.bufferNext
      · rw [here]
        exact nofun
      · rw [here]
        rfl
      · rw [here]
        rfl
  | publishAcked latest batch message request later here received =>
      refine ⟨.deliver, ?_, rfl, latest, batch, message, request, later, here⟩
      have current : s.scanning.batch = some ((latest, batch), message :: later) := by
        simp only [State.scanning, here, Task.batch]
      have idle : s.task.drained = [] := by
        rw [here]
        rfl
      have same : State.scan
          ((s.record (.acked message)).goto (.select (.publishing latest batch later))) =
          some { s.scanning with
            batch := some ((latest, batch), later)
            acked := message :: s.scanning.acked } :=
        State.scan_eq nofun rfl rfl rfl (State.held_of_idle idle).symm rfl
      rw [State.scan_of_up (by rw [here]; exact nofun), same]
      exact .deliver s.scanning (latest, batch) message later current
  | publishFailed latest batch message request later here room =>
      apply Refined.bufferNext
      · rw [here]
        exact nofun
      · rw [here]
        rfl
      · rw [here]
        rfl
  | publishRejected latest batch message request later here full =>
      rw [resumable.room latest batch message request later here] at full
      cases full
  | waitElapsed latest batch later here running =>
      exact .idle (.elsewhere here nofun rfl nofun rfl rfl rfl rfl rfl) (here ▸ rfl)
  | waitCancelled latest batch later here cancelled =>
      exact .abandon (.toLoopTop here nofun rfl rfl rfl rfl rfl) (State.loopTop_batch _)
  | errorSlept latest batch later here =>
      exact .idle (.elsewhere here nofun rfl nofun rfl rfl rfl rfl rfl) (here ▸ rfl)

end Refinement

/-! ### Along a run -/

structure Scanned (deployment : Deployment) (chain : List Log) (ends : Nat → Prop)
    (s : State) : Prop where
  resumable : Resumable s
  inHand : ∀ scan, s.scan = some scan → InHand (Reads deployment chain ends) scan

namespace Scanned

variable {deployment : Deployment} {chain : List Log} {ends : Nat → Prop}
variable {s after : State} {label : Label}

theorem initial : Scanned deployment chain ends (State.initial deployment) :=
  ⟨Resumable.initial deployment, fun _scan found => nomatch found⟩

theorem refines (scanned : Scanned deployment chain ends s)
    (moved : Transition deployment s label after)
    (honest : label.Honest deployment.parser chain)
    (ending : ReadsTo deployment ends s label) :
    Refined deployment chain ends s label after :=
  moved.refines scanned.resumable scanned.inHand honest ending

theorem step (scanned : Scanned deployment chain ends s)
    (moved : Transition deployment s label after)
    (honest : label.Honest deployment.parser chain)
    (ending : ReadsTo deployment ends s label) :
    Scanned deployment chain ends after := by
  obtain ⟨move, stepped, _⟩ := scanned.refines moved honest ending
  exact ⟨scanned.resumable.step moved, InHand.step scanned.inHand stepped⟩

end Scanned

end NoxIngestor
