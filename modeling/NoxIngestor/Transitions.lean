/-
The steps of the main loop as rules.

`step` computes; a transition says what one step can do, with the guards under
which it does it, so that an invariant is a case analysis over the rules and no
later proof unfolds `step`.
-/

import NoxIngestor.Application

namespace NoxIngestor

namespace State

/-- The state file as the next process finds it. -/
def fileContent (s : State) (readable : Bool) : StateFile :=
  if readable then
    match s.file with
    | some state => .parsed state
    | none => .notFound
  else .unreadable

theorem file_of_parsed {s : State} {readable : Bool} {state : PersistedState}
    (content : s.fileContent readable = .parsed state) : s.file = some state := by
  unfold fileContent at content
  cases readable with
  | false => cases content
  | true =>
      cases held : s.file with
      | none =>
          rw [held] at content
          cases content
      | some kept =>
          rw [held] at content
          cases content
          rfl

def writeFile (s : State) (success : Bool) : State :=
  if success then { s with file := some (s.stateStore.persistedState s.clock) } else s

/-- The message goes to the end of the buffer and the reader is told to pause. -/
def holdBack (s : State) (message : TransactionMessage) : State :=
  { s with publisher :=
    { s.publisher.sendPause true with
      buffer := { s.publisher.buffer with
        buffer := s.publisher.buffer.buffer ++ [message] } } }

def takeBuffer (s : State) : State :=
  { s with publisher := { s.publisher with
      buffer := { s.publisher.buffer with buffer := [] } } }

def returnBuffer (s : State) (messages : List TransactionMessage) : State :=
  { s with publisher := s.publisher.rebuffer messages }

/-! ### What the pieces leave alone -/

/-- The cursor is settled on an empty buffer only, and then one block behind. -/
theorem settleCursor_cases (s : State) :
    s.settleCursor = s ∨
      (s.publisher.buffer.buffer = [] ∧ 0 < s.nextBlock ∧
        s.settleCursor = s.updateStore (s.nextBlock - 1)) := by
  unfold settleCursor
  split
  · rename_i both
    obtain ⟨empty, positive⟩ := Bool.and_eq_true_iff.mp both
    exact .inr ⟨s.publisher.buffer.isEmpty_iff.mp empty, of_decide_eq_true positive, rfl⟩
  · exact .inl rfl

@[simp] theorem settleCursor_jetstream (s : State) :
    s.settleCursor.jetstream = s.jetstream := by
  unfold settleCursor
  split <;> rfl

@[simp] theorem settleCursor_nats (s : State) : s.settleCursor.nats = s.nats := by
  unfold settleCursor
  split <;> rfl

@[simp] theorem settleCursor_seen (s : State) : s.settleCursor.seen = s.seen := by
  unfold settleCursor
  split <;> rfl

@[simp] theorem settleCursor_publisher (s : State) :
    s.settleCursor.publisher = s.publisher := by
  unfold settleCursor
  split <;> rfl

@[simp] theorem settleCursor_nextBlock (s : State) :
    s.settleCursor.nextBlock = s.nextBlock := by
  unfold settleCursor
  split <;> rfl

@[simp] theorem settleCursor_batchSize (s : State) :
    s.settleCursor.batchSize = s.batchSize := by
  unfold settleCursor
  split <;> rfl

@[simp] theorem settleCursor_startBlock (s : State) :
    s.settleCursor.startBlock = s.startBlock := by
  unfold settleCursor
  split <;> rfl

@[simp] theorem settleCursor_shutdown (s : State) :
    s.settleCursor.shutdown = s.shutdown := by
  unfold settleCursor
  split <;> rfl

@[simp] theorem settleCursor_acked (s : State) :
    ackedIn s.settleCursor.trace = ackedIn s.trace := by
  unfold settleCursor
  split <;> rfl

@[simp] theorem settleCursor_handed (s : State) :
    handedIn s.settleCursor.trace = handedIn s.trace := by
  unfold settleCursor
  split <;> rfl

theorem pace_eq (s : State) (gap : Nat) :
    ∃ needsDelay, s.pace gap = { s with needsDelay := needsDelay }.loopTop := by
  unfold pace
  split
  · exact ⟨true, rfl⟩
  · exact ⟨s.needsDelay, rfl⟩

theorem writeFile_eq (s : State) (success : Bool) :
    ∃ file, s.writeFile success = { s with file := file } := by
  unfold writeFile
  split
  · exact ⟨some (s.stateStore.persistedState s.clock), rfl⟩
  · exact ⟨s.file, rfl⟩

theorem loopTop_task (s : State) :
    s.loopTop.task = .delay ∨ s.loopTop.task = .select .waitUntilUnpaused := by
  unfold loopTop goto
  cases s.needsDelay with
  | true => exact .inl rfl
  | false => exact .inr rfl

theorem loopTop_cases {motive : Task → Prop} (s : State) (delay : motive .delay)
    (select : motive (.select .waitUntilUnpaused)) : motive s.loopTop.task := by
  rcases s.loopTop_task with here | here
  · rw [here]
    exact delay
  · rw [here]
    exact select

end State

/-! ### Where messages are -/

/-- Messages a suspended flush has taken out of the buffer and not yet seen
acknowledged. -/
def Task.drained : Task → List TransactionMessage
  | .flush _caller message _request rest => message :: rest
  | _ => []

/-- The batch the reader works on and the messages of it still to be published. -/
def Task.batch : Task → Option ((Nat × BatchResult) × List TransactionMessage)
  | .select (.publishing latest batch rest) => some ((latest, batch), rest)
  | .select (.waitInterval latest batch rest) => some ((latest, batch), rest)
  | .select (.publish latest batch message _request rest) =>
      some ((latest, batch), message :: rest)
  | .select (.errorSleep latest batch rest) => some ((latest, batch), rest)
  | _ => none

/-- Where a pass through the loop can begin. -/
def Task.atHead : Task → Bool
  | .delay => true
  | .select .waitUntilUnpaused => true
  | _ => false

theorem Task.cases_of_atHead {task : Task} (head : task.atHead = true) :
    task = .delay ∨ task = .select .waitUntilUnpaused := by
  unfold atHead at head
  split at head
  · exact .inl rfl
  · exact .inr rfl
  · cases head

/-- Messages that wait: in a flush and in the buffer. -/
def State.held (s : State) : List TransactionMessage :=
  s.task.drained ++ s.publisher.buffer.buffer

@[simp] theorem State.loopTop_drained (s : State) : s.loopTop.task.drained = [] :=
  s.loopTop_cases (motive := fun task => task.drained = []) rfl rfl

@[simp] theorem State.loopTop_batch (s : State) : s.loopTop.task.batch = none :=
  s.loopTop_cases (motive := fun task => task.batch = none) rfl rfl

theorem State.loopTop_up (s : State) : s.loopTop.task ≠ .down :=
  s.loopTop_cases (motive := fun task => task ≠ .down) nofun nofun

@[simp] theorem State.pace_publisher (s : State) (gap : Nat) :
    (s.pace gap).publisher = s.publisher := by
  obtain ⟨needsDelay, same⟩ := s.pace_eq gap
  rw [same]
  rfl

@[simp] theorem State.writeFile_publisher (s : State) (success : Bool) :
    (s.writeFile success).publisher = s.publisher := by
  obtain ⟨file, same⟩ := s.writeFile_eq success
  rw [same]

@[simp] theorem State.pace_jetstream (s : State) (gap : Nat) :
    (s.pace gap).jetstream = s.jetstream := by
  obtain ⟨needsDelay, same⟩ := s.pace_eq gap
  rw [same]
  rfl

@[simp] theorem State.writeFile_jetstream (s : State) (success : Bool) :
    (s.writeFile success).jetstream = s.jetstream := by
  obtain ⟨file, same⟩ := s.writeFile_eq success
  rw [same]

theorem State.signalled_publisher (s : State) (pause : Bool) :
    (s.sendPause pause).settleCursor.loopTop.publisher = s.publisher.sendPause pause :=
  (s.sendPause pause).settleCursor_publisher

/-- Where `flush_buffer` is called from. -/
def FlushCaller.site : FlushCaller → Task
  | .handleStateChange => .stateChanged
  | .tryResumeIfConnected => .tryResume

theorem FlushCaller.site_up (caller : FlushCaller) : caller.site ≠ .down := by
  cases caller <;> exact nofun

theorem FlushCaller.site_drained (caller : FlushCaller) : caller.site.drained = [] := by
  cases caller <;> rfl

theorem FlushCaller.site_batch (caller : FlushCaller) : caller.site.batch = none := by
  cases caller <;> rfl

def FlushCaller.label : FlushCaller → Label
  | .handleStateChange => .handleStateChange
  | .tryResumeIfConnected => .tryResumeIfConnected

/-- Answers after which the reader tries the same request again. -/
inductive Retried : Label → Reading → Prop
  | latestBlock (error : ChainError) : Retried (.latestBlock (.error error)) .getLatestBlock
  | batchRead (fetch : Fetch) (order : HashOrder) (latest : Nat) :
      Retried (.batchRead fetch order) (.readBatch latest)

inductive Transition (deployment : Deployment) : State → Label → State → Prop
  | elapse {s : State} (millis : Nat) :
      Transition deployment s (.elapse millis) { s with clock := s.clock + millis }
  | natsEvent {s : State} (state : ConnectionState) (up : s.task ≠ .down) :
      Transition deployment s (.natsEvent state) { s with nats := s.nats.send state }
  | receive {s : State} (request : Nat) (jetstream : DedupStream TransactionMessage)
      (received : s.jetstream.receive deployment.natsMsgId deployment.recent s.clock
        request = some jetstream) :
      Transition deployment s (.receive request) { s with jetstream := jetstream }
  | shutdownSignal {s : State} (up : s.task ≠ .down) :
      Transition deployment s .shutdownSignal { s with shutdown := true }
  | crash {s : State} (up : s.task ≠ .down) :
      Transition deployment s .crash (s.goto .down)
  | start {s : State} (settings : Settings) (readable : Bool)
      (events : List ConnectionState) (store : StateStore) (startBlock : Nat)
      (here : s.task = .down)
      (loaded : StateStore.load (s.fileContent readable) deployment.config.chainId
        deployment.config.initialBlock = .ok store)
      (determined : store.determineStartBlock = .ok startBlock) :
      Transition deployment s (.start settings readable events)
        (s.startSession settings events store startBlock)
  | delayElapsed {s : State} (here : s.task = .delay) (running : s.shutdown = false) :
      Transition deployment s .delayElapsed { s with needsDelay := false }.loopTop
  | delayCancelled {s : State} (here : s.task = .delay) (cancelled : s.shutdown = true) :
      Transition deployment s .delayElapsed
        ({ s with needsDelay := false }.goto .finalPersist)
  | delayBroken {s : State} (here : s.task = .delay) (cancelled : s.shutdown = true) :
      Transition deployment s .breakLoop (s.goto .finalPersist)
  | selectBroken {s : State} (reading : Reading) (here : s.task = .select reading)
      (awaits : reading.isAwait = true) (cancelled : s.shutdown = true) :
      Transition deployment s .breakLoop (s.goto .finalPersist)
  | stateChanged {s : State} (reading : Reading) (here : s.task = .select reading)
      (awaits : reading.isAwait = true) (changed : s.nats.hasChanged s.seen = true) :
      Transition deployment s .stateChanged
        ({ s with seen := s.nats.version }.goto .stateChanged)
  | resumed {s : State} (here : s.task = .stateChanged) (connected : s.nats.value = .connected)
      (nothing : s.publisher.buffer.buffer = []) :
      Transition deployment s .handleStateChange
        (s.sendPause false).settleCursor.loopTop
  | paused {s : State} (here : s.task = .stateChanged)
      (disconnected : s.nats.value = .disconnected) :
      Transition deployment s .handleStateChange (s.sendPause true).settleCursor.loopTop
  | flushTick {s : State} (reading : Reading) (here : s.task = .select reading)
      (awaits : reading.isAwait = true) :
      Transition deployment s .flushTick (s.goto .persist)
  | persisted {s : State} (success : Bool) (here : s.task = .persist) :
      Transition deployment s (.persisted success) ((s.writeFile success).goto .tryResume)
  | finalPersisted {s : State} (success : Bool) (here : s.task = .finalPersist) :
      Transition deployment s (.persisted success) ((s.writeFile success).goto .down)
  | resumeSkipped {s : State} (here : s.task = .tryResume)
      (skipped : s.nats.value = .disconnected ∨ s.publisher.buffer.buffer = []) :
      Transition deployment s .tryResumeIfConnected s.loopTop
  | flushStarted {s : State} (caller : FlushCaller) (message : TransactionMessage)
      (later : List TransactionMessage) (here : s.task = caller.site)
      (connected : s.nats.value = .connected)
      (buffered : s.publisher.buffer.buffer = message :: later) {label : Label}
      (labelled : label = caller.label) :
      Transition deployment s label (s.takeBuffer.flushNext caller message later)
  | flushAcked {s : State} (caller : FlushCaller) (message : TransactionMessage)
      (request : Nat) (next : TransactionMessage) (later : List TransactionMessage)
      (here : s.task = .flush caller message request (next :: later))
      (received : request ∈ s.jetstream.received) :
      Transition deployment s (.published true)
        ((s.record (.acked message)).flushNext caller next later)
  | flushDone {s : State} (caller : FlushCaller) (message : TransactionMessage)
      (request : Nat) (here : s.task = .flush caller message request [])
      (received : request ∈ s.jetstream.received) :
      Transition deployment s (.published true)
        ((s.record (.acked message)).sendPause false).settleCursor.loopTop
  | flushFailedResumed {s : State} (message : TransactionMessage) (request : Nat)
      (later : List TransactionMessage)
      (here : s.task = .flush .handleStateChange message request later) :
      Transition deployment s (.published false)
        ((s.returnBuffer (message :: later)).sendPause false).settleCursor.loopTop
  | flushFailedHeld {s : State} (message : TransactionMessage) (request : Nat)
      (later : List TransactionMessage)
      (here : s.task = .flush .tryResumeIfConnected message request later) :
      Transition deployment s (.published false) (s.returnBuffer (message :: later)).loopTop
  | unpaused {s : State} (here : s.task = .select .waitUntilUnpaused)
      (flowing : s.publisher.pause = false) :
      Transition deployment s .unpaused (s.goto (.select .getLatestBlock))
  | retried {s : State} (label : Label) (reading : Reading) (here : s.task = .select reading)
      (retry : Retried label reading) :
      Transition deployment s label s
  | caughtUp {s : State} (latest : Nat) (here : s.task = .select .getLatestBlock)
      (ahead : s.nextBlock > latest) :
      Transition deployment s (.latestBlock (.ok latest))
        ({ s.recordSuccess with needsDelay := true }.record .caughtUp).loopTop
  | behind {s : State} (latest : Nat) (here : s.task = .select .getLatestBlock)
      (available : s.nextBlock ≤ latest) :
      Transition deployment s (.latestBlock (.ok latest))
        (s.goto (.select (.readBatch latest)))
  | batchRead {s : State} (latest : Nat) (fetch : Fetch) (order : HashOrder)
      (batch : BatchResult) (here : s.task = .select (.readBatch latest))
      (success : (deployment.reader s.batchSize).readBatch s.nextBlock latest fetch order =
        .ok batch) :
      Transition deployment s (.batchRead fetch order)
        ((s.recordSuccess.record (.fetched batch.endBlock)).goto
          (.select (.publishing latest batch batch.transactions)))
  | batchEmpty {s : State} (latest : Nat) (batch : BatchResult)
      (here : s.task = .select (.publishing latest batch []))
      (empty : batch.endBlock < batch.startBlock) :
      Transition deployment s .nextTransaction (s.pace (latest - batch.endBlock))
  | batchDelivered {s : State} (latest : Nat) (batch : BatchResult)
      (here : s.task = .select (.publishing latest batch []))
      (nonempty : batch.startBlock ≤ batch.endBlock)
      (nothing : s.publisher.buffer.buffer = []) :
      Transition deployment s .nextTransaction
        (((s.advance batch.endBlock).updateStore batch.endBlock).pace
          (latest - batch.endBlock))
  | batchHeld {s : State} (latest : Nat) (batch : BatchResult)
      (here : s.task = .select (.publishing latest batch []))
      (nonempty : batch.startBlock ≤ batch.endBlock)
      (waiting : s.publisher.buffer.buffer ≠ []) :
      Transition deployment s .nextTransaction
        ((s.advance batch.endBlock).pace (latest - batch.endBlock))
  | bufferFull {s : State} (latest : Nat) (batch : BatchResult)
      (transaction : TransactionMessage) (later : List TransactionMessage)
      (here : s.task = .select (.publishing latest batch (transaction :: later)))
      (full : s.publisher.buffer.isFull = true) :
      Transition deployment s .nextTransaction
        (s.goto (.select (.waitInterval latest batch (transaction :: later))))
  | handed {s : State} (latest : Nat) (batch : BatchResult)
      (transaction : TransactionMessage) (later : List TransactionMessage)
      (here : s.task = .select (.publishing latest batch (transaction :: later)))
      (room : s.publisher.buffer.isFull = false) (connected : s.nats.value = .connected) :
      Transition deployment s .nextTransaction
        ((s.doPublish transaction).goto
          (.select (.publish latest batch transaction s.jetstream.nextRequest later)))
  | buffered {s : State} (latest : Nat) (batch : BatchResult)
      (transaction : TransactionMessage) (later : List TransactionMessage)
      (here : s.task = .select (.publishing latest batch (transaction :: later)))
      (room : s.publisher.buffer.isFull = false)
      (disconnected : s.nats.value = .disconnected) :
      Transition deployment s .nextTransaction
        ((s.holdBack transaction).goto (.select (.publishing latest batch later)))
  | publishAcked {s : State} (latest : Nat) (batch : BatchResult)
      (message : TransactionMessage) (request : Nat) (later : List TransactionMessage)
      (here : s.task = .select (.publish latest batch message request later))
      (received : request ∈ s.jetstream.received) :
      Transition deployment s (.published true)
        ((s.record (.acked message)).goto (.select (.publishing latest batch later)))
  | publishFailed {s : State} (latest : Nat) (batch : BatchResult)
      (message : TransactionMessage) (request : Nat) (later : List TransactionMessage)
      (here : s.task = .select (.publish latest batch message request later))
      (room : s.publisher.buffer.isFull = false) :
      Transition deployment s (.published false)
        ((s.holdBack message).goto (.select (.publishing latest batch later)))
  | publishRejected {s : State} (latest : Nat) (batch : BatchResult)
      (message : TransactionMessage) (request : Nat) (later : List TransactionMessage)
      (here : s.task = .select (.publish latest batch message request later))
      (full : s.publisher.buffer.isFull = true) :
      Transition deployment s (.published false)
        ((s.sendPause true).goto (.select (.errorSleep latest batch later)))
  | waitElapsed {s : State} (latest : Nat) (batch : BatchResult)
      (later : List TransactionMessage)
      (here : s.task = .select (.waitInterval latest batch later))
      (running : s.shutdown = false) :
      Transition deployment s .waitElapsed (s.goto (.select (.publishing latest batch later)))
  | waitCancelled {s : State} (latest : Nat) (batch : BatchResult)
      (later : List TransactionMessage)
      (here : s.task = .select (.waitInterval latest batch later))
      (cancelled : s.shutdown = true) :
      Transition deployment s .waitElapsed s.loopTop
  | errorSlept {s : State} (latest : Nat) (batch : BatchResult)
      (later : List TransactionMessage)
      (here : s.task = .select (.errorSleep latest batch later)) :
      Transition deployment s .waitElapsed (s.goto (.select (.publishing latest batch later)))

/-! ### Every step is a transition -/

section Steps

variable {deployment : Deployment} {s after : State}

theorem isBufferEmpty_iff {publisher : Publisher} :
    publisher.isBufferEmpty = true ↔ publisher.buffer.buffer = [] :=
  publisher.buffer.isEmpty_iff

theorem bufferMessage_of_room {publisher : Publisher} (room : publisher.buffer.isFull = false)
    (message : TransactionMessage) :
    publisher.bufferMessage message =
      ({ publisher.sendPause true with
          buffer := { publisher.buffer with
            buffer := publisher.buffer.buffer ++ [message] } }, .ok ()) := by
  unfold Publisher.bufferMessage
  rw [MessageBuffer.push_eq_ok room]

private theorem bufferMessage_of_full {publisher : Publisher}
    (full : publisher.buffer.isFull = true)
    (message : TransactionMessage) :
    publisher.bufferMessage message =
      (publisher.sendPause true, .error (.bufferFull publisher.buffer.capacity)) := by
  unfold Publisher.bufferMessage MessageBuffer.push
  rw [full]
  rfl

/-- Without messages there is nothing to flush; otherwise the first one is handed over. -/
theorem State.flushBuffer_nil (nothing : s.publisher.buffer.buffer = []) (caller : FlushCaller) :
    s.flushBuffer caller = s.flushSucceeded := by
  unfold State.flushBuffer Publisher.drainBuffer MessageBuffer.drain
  rw [nothing]

theorem State.flushBuffer_cons {message : TransactionMessage} {later : List TransactionMessage}
    (buffered : s.publisher.buffer.buffer = message :: later) (caller : FlushCaller) :
    s.flushBuffer caller = s.takeBuffer.flushNext caller message later := by
  unfold State.flushBuffer Publisher.drainBuffer MessageBuffer.drain
  rw [buffered]
  rfl

private theorem handleStateChange_transition (here : s.task = .stateChanged) :
    Transition deployment s .handleStateChange s.handleStateChange := by
  unfold State.handleStateChange
  cases value : s.nats.value with
  | disconnected => exact .paused here value
  | connected =>
      cases buffered : s.publisher.buffer.buffer with
      | nil =>
          rw [State.flushBuffer_nil buffered]
          exact .resumed here value buffered
      | cons message later =>
          rw [State.flushBuffer_cons buffered]
          exact .flushStarted .handleStateChange message later here value buffered rfl

private theorem tryResume_transition (here : s.task = .tryResume) :
    Transition deployment s .tryResumeIfConnected s.tryResumeIfConnected := by
  unfold State.tryResumeIfConnected
  cases value : s.nats.value with
  | disconnected =>
      rw [if_pos (by decide)]
      exact .resumeSkipped here (.inl value)
  | connected =>
      rw [if_neg (by decide)]
      cases buffered : s.publisher.buffer.buffer with
      | nil =>
          rw [if_pos (isBufferEmpty_iff.mpr buffered)]
          exact .resumeSkipped here (.inr buffered)
      | cons message later =>
          have waiting : ¬ s.publisher.isBufferEmpty = true := by
            rw [isBufferEmpty_iff, buffered]
            exact List.cons_ne_nil _ _
          rw [if_neg waiting, State.flushBuffer_cons buffered]
          exact .flushStarted .tryResumeIfConnected message later here value buffered rfl

private theorem finishBatch_transition {latest : Nat} {batch : BatchResult}
    (here : s.task = .select (.publishing latest batch [])) :
    Transition deployment s .nextTransaction (s.finishBatch latest batch) := by
  unfold State.finishBatch
  by_cases nonempty : batch.endBlock ≥ batch.startBlock
  · simp only [if_pos nonempty]
    by_cases nothing : s.publisher.buffer.buffer = []
    · have empty : (s.advance batch.endBlock).publisher.isBufferEmpty = true :=
        isBufferEmpty_iff.mpr nothing
      rw [if_pos empty]
      exact .batchDelivered latest batch here nonempty nothing
    · have waiting : ¬ (s.advance batch.endBlock).publisher.isBufferEmpty = true :=
        mt isBufferEmpty_iff.mp nothing
      rw [if_neg waiting]
      exact .batchHeld latest batch here nonempty nothing
  · simp only [if_neg nonempty]
    exact .batchEmpty latest batch here (Nat.lt_of_not_le nonempty)

private theorem nextTransaction_transition {latest : Nat} {batch : BatchResult}
    {remaining : List TransactionMessage}
    (here : s.task = .select (.publishing latest batch remaining)) :
    Transition deployment s .nextTransaction
      (s.nextTransaction latest batch remaining) := by
  cases remaining with
  | nil => exact finishBatch_transition here
  | cons transaction later =>
      cases room : s.publisher.buffer.isFull with
      | true =>
          simp only [State.nextTransaction, Publisher.isBufferFull, room, if_true]
          exact .bufferFull latest batch transaction later here room
      | false =>
          simp only [State.nextTransaction, Publisher.isBufferFull, room,
            Bool.false_eq_true, if_false]
          cases value : s.nats.value with
          | connected => exact .handed latest batch transaction later here room value
          | disconnected =>
              simp only [Publisher.publish, bufferMessage_of_room room]
              exact .buffered latest batch transaction later here room value

private theorem published_transition {success : Bool}
    (taken : step deployment s (.published success) = some after) :
    Transition deployment s (.published success) after := by
  simp only [step] at taken
  split at taken
  · rename_i caller message request remaining here
    cases success with
    | false =>
        cases taken
        cases caller with
        | handleStateChange => exact .flushFailedResumed message request remaining here
        | tryResumeIfConnected => exact .flushFailedHeld message request remaining here
    | true =>
        by_cases received : request ∈ s.jetstream.received
        · simp only [if_true, received] at taken
          cases remaining with
          | nil =>
              cases taken
              exact .flushDone caller message request here received
          | cons next later =>
              cases taken
              exact .flushAcked caller message request next later here received
        · simp only [if_true, received, if_false, reduceCtorEq] at taken
  · rename_i latest batch message request later here
    cases success with
    | false =>
        cases taken
        cases room : s.publisher.buffer.isFull with
        | false =>
            simp only [Publisher.publish, bufferMessage_of_room room]
            exact .publishFailed latest batch message request later here room
        | true =>
            simp only [Publisher.publish, bufferMessage_of_full room]
            exact .publishRejected latest batch message request later here room
    | true =>
        by_cases received : request ∈ s.jetstream.received
        · simp only [if_true, received] at taken
          cases taken
          exact .publishAcked latest batch message request later here received
        · simp only [if_true, received, if_false, reduceCtorEq] at taken
  · cases taken

theorem step_transition {label : Label} (taken : step deployment s label = some after) :
    Transition deployment s label after := by
  cases label with
  | elapse millis =>
      cases taken
      exact .elapse millis
  | natsEvent state =>
      simp only [step] at taken
      split at taken
      · cases taken
      · rename_i up
        cases taken
        exact .natsEvent state up
  | receive request =>
      simp only [step, Option.map_eq_some_iff] at taken
      obtain ⟨jetstream, received, rfl⟩ := taken
      exact .receive request jetstream received
  | shutdownSignal =>
      simp only [step] at taken
      split at taken
      · cases taken
      · rename_i up
        cases taken
        exact .shutdownSignal up
  | crash =>
      simp only [step] at taken
      split at taken
      · cases taken
      · rename_i up
        cases taken
        exact .crash up
  | start settings readable events =>
      simp only [step] at taken
      split at taken
      · rename_i here
        split at taken
        · cases taken
        · rename_i store loaded
          split at taken
          · cases taken
          · rename_i startBlock determined
            cases taken
            exact .start settings readable events store startBlock here loaded determined
      · cases taken
  | delayElapsed =>
      simp only [step] at taken
      split at taken
      · rename_i here
        cases taken
        by_cases cancelled : s.shutdown = true
        · rw [if_pos cancelled]
          exact .delayCancelled here cancelled
        · rw [if_neg cancelled]
          exact .delayElapsed here (Bool.eq_false_of_not_eq_true cancelled)
      · cases taken
  | breakLoop =>
      simp only [step] at taken
      split at taken
      · rename_i here
        split at taken
        · rename_i cancelled
          cases taken
          exact .delayBroken here cancelled
        · cases taken
      · rename_i reading here
        split at taken
        · rename_i both
          obtain ⟨cancelled, awaits⟩ := Bool.and_eq_true_iff.mp both
          cases taken
          exact .selectBroken reading here awaits cancelled
        · cases taken
      · cases taken
  | stateChanged =>
      simp only [step] at taken
      split at taken
      · rename_i reading here
        split at taken
        · rename_i both
          obtain ⟨awaits, changed⟩ := Bool.and_eq_true_iff.mp both
          cases taken
          exact .stateChanged reading here awaits changed
        · cases taken
      · cases taken
  | handleStateChange =>
      simp only [step] at taken
      split at taken
      · rename_i here
        cases taken
        exact handleStateChange_transition here
      · cases taken
  | flushTick =>
      simp only [step] at taken
      split at taken
      · rename_i reading here
        split at taken
        · rename_i awaits
          cases taken
          exact .flushTick reading here awaits
        · cases taken
      · cases taken
  | persisted success =>
      simp only [step] at taken
      split at taken
      · rename_i here
        cases taken
        exact .persisted success here
      · rename_i here
        cases taken
        exact .finalPersisted success here
      · cases taken
  | tryResumeIfConnected =>
      simp only [step] at taken
      split at taken
      · rename_i here
        cases taken
        exact tryResume_transition here
      · cases taken
  | published success => exact published_transition taken
  | unpaused =>
      simp only [step] at taken
      split at taken
      · rename_i here
        cases pause : s.publisher.pause with
        | true => simp only [pause, if_true, reduceCtorEq] at taken
        | false =>
            simp only [pause, Bool.false_eq_true, if_false] at taken
            cases taken
            exact .unpaused here pause
      · cases taken
  | latestBlock answer =>
      simp only [step] at taken
      split at taken
      · rename_i here
        split at taken
        · rename_i error
          cases taken
          exact .retried _ _ here (.latestBlock error)
        · rename_i latest
          split at taken
          · rename_i ahead
            cases taken
            exact .caughtUp latest here ahead
          · rename_i available
            cases taken
            exact .behind latest here (Nat.le_of_not_lt available)
      · cases taken
  | batchRead fetch order =>
      simp only [step] at taken
      split at taken
      · rename_i latest here
        split at taken
        · cases taken
          exact .retried _ _ here (.batchRead fetch order latest)
        · rename_i batch success
          cases taken
          exact .batchRead latest fetch order batch here success
      · cases taken
  | nextTransaction =>
      simp only [step] at taken
      split at taken
      · rename_i latest batch remaining here
        cases taken
        exact nextTransaction_transition here
      · cases taken
  | waitElapsed =>
      simp only [step] at taken
      split at taken
      · rename_i latest batch later here
        cases taken
        by_cases cancelled : s.shutdown = true
        · rw [if_pos cancelled]
          exact .waitCancelled latest batch later here cancelled
        · rw [if_neg cancelled]
          exact .waitElapsed latest batch later here
            (Bool.eq_false_of_not_eq_true cancelled)
      · rename_i latest batch later here
        cases taken
        exact .errorSlept latest batch later here
      · cases taken

theorem step_start (down : s.task = .down) {readable : Bool} {store : StateStore}
    {startBlock : Nat}
    (loaded : StateStore.load (s.fileContent readable) deployment.config.chainId
      deployment.config.initialBlock = .ok store)
    (determined : store.determineStartBlock = .ok startBlock) (settings : Settings)
    (events : List ConnectionState) :
    step deployment s (.start settings readable events) =
      some (s.startSession settings events store startBlock) := by
  simp only [step, down]
  split
  · rename_i error failed
    cases failed.symm.trans loaded
  · rename_i found same
    cases same.symm.trans loaded
    simp only [determined]

/-! ### Labels with one transition -/

namespace Transition

theorem of_start {settings : Settings} {readable : Bool} {events : List ConnectionState}
    (moved : Transition deployment s (.start settings readable events) after) :
    ∃ store startBlock,
      StateStore.load (s.fileContent readable) deployment.config.chainId
          deployment.config.initialBlock = .ok store ∧
        store.determineStartBlock = .ok startBlock ∧
          after = s.startSession settings events store startBlock := by
  cases moved with
  | start _ _ _ store startBlock here loaded determined =>
      exact ⟨store, startBlock, loaded, determined, rfl⟩
  | flushStarted caller message later here connected buffered labelled =>
      cases caller <;> cases labelled
  | retried _ reading here retry => cases retry

theorem of_natsEvent {state : ConnectionState}
    (moved : Transition deployment s (.natsEvent state) after) :
    after = { s with nats := s.nats.send state } := by
  cases moved with
  | natsEvent _ up => rfl
  | flushStarted caller message later here connected buffered labelled =>
      cases caller <;> cases labelled
  | retried _ reading here retry => cases retry

theorem of_receive {request : Nat}
    (moved : Transition deployment s (.receive request) after) :
    ∃ jetstream, s.jetstream.receive deployment.natsMsgId deployment.recent s.clock request =
        some jetstream ∧
      after = { s with jetstream := jetstream } := by
  cases moved with
  | receive _ jetstream received => exact ⟨jetstream, received, rfl⟩
  | flushStarted caller message later here connected buffered labelled =>
      cases caller <;> cases labelled
  | retried _ reading here retry => cases retry

end Transition

end Steps

end NoxIngestor
