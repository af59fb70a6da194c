/-
The main loop as a labelled step function.

A state holds what outlives the process (the state file, the stream, the clock),
what the process holds in memory, and where its task is suspended.  One step runs
the task from one await point to the next, or is a move of the outside world.
The block-reading branch of the `select!` may be dropped at each of its await
points; the handlers of the other branches run to their end unless the process
crashes.  Every order of the branches is allowed here; the bias of the `select!`
only removes schedules, and `Shutdown` adds it.  The loop also keeps a log of what
it did; no decision reads it.
-/

import NoxIngestor.Chain.Reader
import NoxIngestor.Nats.Publisher
import NoxIngestor.StateStore
import NoxIngestor.Handlers
import NoxIngestor.Lib.DedupStream
import NoxIngestor.Lib.Runs

namespace NoxIngestor

/-- The settings every session on one state file and one stream has in common. -/
structure Config where
  chainId : Nat
  contractAddress : Address
  initialBlock : Nat
  duplicateWindow : Duration
  /-- `max_age` of the stream. -/
  retention : Duration

/-- The settings that may differ from one session to the next. -/
structure Settings where
  batchSize : Nat
  healthStallThreshold : Duration
  subject : String
  bufferCapacity : Nat

/-- A configuration together with the library functions the code calls. -/
structure Deployment where
  config : Config
  sol : SolEvents
  keccak256 : ByteArray → B256

namespace Deployment

def parser (self : Deployment) : NoxEventParser :=
  { sol := self.sol
    contractAddress := self.config.contractAddress }

def reader (self : Deployment) (batchSize : Nat) : BlockReader :=
  { parser := self.parser
    batchSize := batchSize
    chainId := self.config.chainId }

def natsMsgId (self : Deployment) (message : TransactionMessage) : String :=
  message.computeChecksum self.keccak256

/-- Ages within the stream's duplicate window. -/
def recent (self : Deployment) (age : Nat) : Bool :=
  decide (Duration.fromMillis age < self.config.duplicateWindow)

/-- Ages at which the stream still holds a message; no retention is no limit. -/
def retains (self : Deployment) (age : Nat) : Bool :=
  decide (self.config.retention = 0) || decide (Duration.fromMillis age < self.config.retention)

end Deployment

/-! ### States -/

/-- Where the block-reading branch stands.  `publishing` is the head of the
publish loop, between two await points; all others are await points. -/
inductive Reading
  | waitUntilUnpaused
  | getLatestBlock
  | readBatch (latest : Nat)
  | publishing (latest : Nat) (batch : BatchResult) (rest : List TransactionMessage)
  | waitInterval (latest : Nat) (batch : BatchResult) (rest : List TransactionMessage)
  | publish (latest : Nat) (batch : BatchResult) (message : TransactionMessage)
      (request : Nat) (rest : List TransactionMessage)
  | errorSleep (latest : Nat) (batch : BatchResult) (rest : List TransactionMessage)

def Reading.isAwait : Reading → Bool
  | .publishing _ _ _ => false
  | _ => true

inductive FlushCaller
  | handleStateChange
  | tryResumeIfConnected
deriving DecidableEq

inductive Task
  | down
  | delay
  | select (reading : Reading)
  | stateChanged
  | persist
  | tryResume
  | flush (caller : FlushCaller) (message : TransactionMessage) (request : Nat)
      (rest : List TransactionMessage)
  | finalPersist

inductive Event
  | started (block : Nat)
  | fetched (endBlock : Nat)
  | caughtUp
  | handed (message : TransactionMessage)
  | acked (message : TransactionMessage)
  | advanced (endBlock : Nat)
  | updated (block : Nat)
deriving DecidableEq

structure State where
  file : Option PersistedState
  jetstream : DedupStream TransactionMessage
  clock : Nat
  task : Task
  nats : Watch ConnectionState
  /-- The version `nats_state_rx.changed()` last returned for. -/
  seen : Nat
  publisher : Publisher
  stateStore : StateStore
  batchSize : Nat
  nextBlock : Nat
  needsDelay : Bool
  shutdown : Bool
  liveness : IngestionLiveness
  /-- The block the session started from. -/
  startBlock : Nat
  /-- What the session did, newest first, with the time. -/
  trace : List (Nat × Event)
  /-- What earlier sessions saw acknowledged. -/
  past : List TransactionMessage

def State.initial (deployment : Deployment) : State :=
  { file := none
    jetstream := DedupStream.empty
    clock := 0
    task := .down
    nats := Watch.channel .disconnected
    seen := 0
    publisher := Publisher.new 0 ""
    stateStore := StateStore.newFresh deployment.config.chainId deployment.config.initialBlock
    batchSize := 0
    nextBlock := 0
    needsDelay := false
    shutdown := false
    liveness := IngestionLiveness.new 0 0
    startBlock := 0
    trace := []
    past := [] }

def Event.ackedMessage : Event → Option TransactionMessage
  | .acked message => some message
  | _ => none

def Event.handedMessage : Event → Option TransactionMessage
  | .handed message => some message
  | _ => none

/-- Messages acknowledged according to a log, newest first. -/
def ackedIn (trace : List (Nat × Event)) : List TransactionMessage :=
  trace.filterMap fun entry => entry.2.ackedMessage

def handedIn (trace : List (Nat × Event)) : List TransactionMessage :=
  trace.filterMap fun entry => entry.2.handedMessage

namespace State

/-- Everything JetStream acknowledged, in this session or before. -/
def delivered (s : State) : List TransactionMessage := ackedIn s.trace ++ s.past

/-! ### Pieces of the loop -/

def record (s : State) (event : Event) : State :=
  { s with trace := (s.clock, event) :: s.trace }

def goto (s : State) (task : Task) : State := { s with task := task }

/-- Head of the loop: the delay first, if one is due. -/
def loopTop (s : State) : State :=
  s.goto (if s.needsDelay then .delay else .select .waitUntilUnpaused)

def sendPause (s : State) (pause : Bool) : State :=
  { s with publisher := s.publisher.sendPause pause }

def updateStore (s : State) (block : Nat) : State :=
  { s with stateStore := s.stateStore.update block }.record (.updated block)

/-- After a state change or a drain: the cursor catches up with `next_block`. -/
def settleCursor (s : State) : State :=
  if s.publisher.isBufferEmpty && decide (s.nextBlock > 0) then
    s.updateStore (s.nextBlock - 1)
  else s

def recordSuccess (s : State) : State :=
  { s with liveness := s.liveness.recordSuccess s.clock }

/-- Start of `do_publish`: the request is on its way. -/
def doPublish (s : State) (message : TransactionMessage) : State :=
  { s with jetstream := s.jetstream.send message }.record (.handed message)

/-- Suspend in `flush_buffer` on the first of the remaining messages. -/
def flushNext (s : State) (caller : FlushCaller) (message : TransactionMessage)
    (rest : List TransactionMessage) : State :=
  (s.doPublish message).goto (.flush caller message s.jetstream.nextRequest rest)

/-- The flush went through: resume the reader and catch up. -/
def flushSucceeded (s : State) : State :=
  (s.sendPause false).settleCursor.loopTop

/-- The flush failed.  `handle_state_change` only logs the error and resumes;
`try_resume_if_connected` returns it. -/
def flushFailed (s : State) : FlushCaller → State
  | .handleStateChange => (s.sendPause false).settleCursor.loopTop
  | .tryResumeIfConnected => s.loopTop

def flushBuffer (s : State) (caller : FlushCaller) : State :=
  match s.publisher.drainBuffer with
  | ([], _publisher) => s.flushSucceeded
  | (message :: rest, publisher) =>
      { s with publisher := publisher }.flushNext caller message rest

/-- `handle_state_change` and the rest of the branch. -/
def handleStateChange (s : State) : State :=
  match s.nats.value with
  | .connected => s.flushBuffer .handleStateChange
  | .disconnected => (s.sendPause true).settleCursor.loopTop

/-- `try_resume_if_connected` and the rest of the branch. -/
def tryResumeIfConnected (s : State) : State :=
  if s.nats.value ≠ .connected then s.loopTop
  else if s.publisher.isBufferEmpty then s.loopTop
  else s.flushBuffer .tryResumeIfConnected

/-- `next_block` always moves, so that the session does not read the batch again. -/
def advance (s : State) (endBlock : Nat) : State :=
  { s with nextBlock := u64Add endBlock 1 }.record (.advanced endBlock)

/-- Delay only near the head of the chain. -/
def pace (s : State) (gap : Nat) : State :=
  (if gap ≤ 1 then { s with needsDelay := true } else s).loopTop

/-- The end of a batch. -/
def finishBatch (s : State) (latest : Nat) (batch : BatchResult) : State :=
  let finished :=
    if batch.endBlock ≥ batch.startBlock then
      let moved := s.advance batch.endBlock
      if moved.publisher.isBufferEmpty then moved.updateStore batch.endBlock else moved
    else s
  finished.pace (latest - batch.endBlock)

def afterPublish (s : State) (latest : Nat) (batch : BatchResult)
    (rest : List TransactionMessage) (result : Publisher × Except NatsError Unit) : State :=
  match result with
  | (publisher, .ok ()) =>
      { s with publisher := publisher }.goto (.select (.publishing latest batch rest))
  | (publisher, .error _error) =>
      { s with publisher := publisher }.goto (.select (.errorSleep latest batch rest))

/-- The next transaction of the batch, or its end. -/
def nextTransaction (s : State) (latest : Nat) (batch : BatchResult) :
    List TransactionMessage → State
  | [] => s.finishBatch latest batch
  | transaction :: rest =>
      if s.publisher.isBufferFull then
        s.goto (.select (.waitInterval latest batch (transaction :: rest)))
      else
        match s.nats.value with
        | .connected =>
            (s.doPublish transaction).goto
              (.select (.publish latest batch transaction s.jetstream.nextRequest rest))
        | .disconnected =>
            s.afterPublish latest batch rest
              (s.publisher.publish .disconnected (.ok ()) transaction)

/-- Steps 3 to 10 of `run`: a new process, up to the head of the loop. -/
def startSession (s : State) (settings : Settings) (events : List ConnectionState)
    (store : StateStore) (startBlock : Nat) : State :=
  loopTop
    { s with
      nats := events.foldl Watch.send (Watch.channel .disconnected)
      seen := 0
      publisher := Publisher.new settings.bufferCapacity settings.subject
      stateStore := store
      batchSize := settings.batchSize
      nextBlock := startBlock
      needsDelay := false
      shutdown := false
      liveness := IngestionLiveness.new s.clock settings.healthStallThreshold
      startBlock := startBlock
      trace := [(s.clock, .started startBlock)]
      past := s.delivered }

end State

/-! ### Steps -/

inductive Label
  /-- Time passes. -/
  | elapse (millis : Nat)
  /-- The connection callback sends a state. -/
  | natsEvent (state : ConnectionState)
  /-- JetStream receives a request. -/
  | receive (request : Nat)
  | shutdownSignal
  | crash
  /-- A new process: its settings, whether the state file could be read, and the
  connection events up to the head of the loop. -/
  | start (settings : Settings) (readable : Bool) (events : List ConnectionState)
  | delayElapsed
  | breakLoop
  | stateChanged
  | handleStateChange
  | flushTick
  | persisted (success : Bool)
  | tryResumeIfConnected
  /-- The awaited `do_publish` returns. -/
  | published (success : Bool)
  | unpaused
  | latestBlock (answer : Except ChainError Nat)
  | batchRead (fetch : Fetch) (order : HashOrder)
  | nextTransaction
  | waitElapsed

def step (deployment : Deployment) (s : State) : Label → Option State
  | .elapse millis => some { s with clock := s.clock + millis }
  | .natsEvent state =>
      match s.task with
      | .down => none
      | _ => some { s with nats := s.nats.send state }
  | .receive request =>
      (s.jetstream.receive deployment.natsMsgId deployment.recent s.clock request).map
        fun jetstream => { s with jetstream := jetstream }
  | .shutdownSignal =>
      match s.task with
      | .down => none
      | _ => some { s with shutdown := true }
  | .crash =>
      match s.task with
      | .down => none
      | _ => some (s.goto .down)
  | .start settings readable events =>
      match s.task with
      | .down =>
          let file : StateFile :=
            if readable then
              match s.file with
              | some state => .parsed state
              | none => .notFound
            else .unreadable
          match StateStore.load file deployment.config.chainId
              deployment.config.initialBlock with
          | .error _error => none
          | .ok store =>
              match store.determineStartBlock with
              | .error _error => none
              | .ok startBlock =>
                  some (s.startSession settings events store startBlock)
      | _ => none
  | .delayElapsed =>
      match s.task with
      | .delay =>
          let rested := { s with needsDelay := false }
          some (if s.shutdown then rested.goto .finalPersist else rested.loopTop)
      | _ => none
  | .breakLoop =>
      match s.task with
      | .delay => if s.shutdown then some (s.goto .finalPersist) else none
      | .select reading =>
          if s.shutdown && reading.isAwait then some (s.goto .finalPersist) else none
      | _ => none
  | .stateChanged =>
      match s.task with
      | .select reading =>
          if reading.isAwait && s.nats.hasChanged s.seen then
            some ({ s with seen := s.nats.version }.goto .stateChanged)
          else none
      | _ => none
  | .handleStateChange =>
      match s.task with
      | .stateChanged => some s.handleStateChange
      | _ => none
  | .flushTick =>
      match s.task with
      | .select reading => if reading.isAwait then some (s.goto .persist) else none
      | _ => none
  | .persisted success =>
      let written :=
        if success then { s with file := some (s.stateStore.persistedState s.clock) } else s
      match s.task with
      | .persist => some (written.goto .tryResume)
      | .finalPersist => some (written.goto .down)
      | _ => none
  | .tryResumeIfConnected =>
      match s.task with
      | .tryResume => some s.tryResumeIfConnected
      | _ => none
  | .published success =>
      match s.task with
      | .flush caller message request rest =>
          if success then
            if request ∈ s.jetstream.received then
              let acked := s.record (.acked message)
              match rest with
              | [] => some acked.flushSucceeded
              | next :: later => some (acked.flushNext caller next later)
            else none
          else
            some ({ s with publisher := s.publisher.rebuffer (message :: rest) }.flushFailed
              caller)
      | .select (.publish latest batch message request rest) =>
          if success then
            if request ∈ s.jetstream.received then
              some ((s.record (.acked message)).afterPublish latest batch rest
                (s.publisher.publish .connected (.ok ()) message))
            else none
          else
            some (s.afterPublish latest batch rest
              (s.publisher.publish .connected (.error (.publish "Ack error")) message))
      | _ => none
  | .unpaused =>
      match s.task with
      | .select .waitUntilUnpaused =>
          if s.publisher.pause then none else some (s.goto (.select .getLatestBlock))
      | _ => none
  | .latestBlock answer =>
      match s.task with
      | .select .getLatestBlock =>
          match answer with
          | .error _error => some s
          | .ok latest =>
              if s.nextBlock > latest then
                some ({ s.recordSuccess with needsDelay := true }.record .caughtUp).loopTop
              else some (s.goto (.select (.readBatch latest)))
      | _ => none
  | .batchRead fetch order =>
      match s.task with
      | .select (.readBatch latest) =>
          match (deployment.reader s.batchSize).readBatch s.nextBlock latest fetch order with
          | .error _error => some s
          | .ok batch =>
              some ((s.recordSuccess.record (.fetched batch.endBlock)).goto
                (.select (.publishing latest batch batch.transactions)))
      | _ => none
  | .nextTransaction =>
      match s.task with
      | .select (.publishing latest batch rest) => some (s.nextTransaction latest batch rest)
      | _ => none
  | .waitElapsed =>
      match s.task with
      | .select (.waitInterval latest batch rest) =>
          some (if s.shutdown then s.loopTop
            else s.goto (.select (.publishing latest batch rest)))
      | .select (.errorSleep latest batch rest) =>
          some (s.goto (.select (.publishing latest batch rest)))
      | _ => none

end NoxIngestor
