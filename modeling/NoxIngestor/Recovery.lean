/-
Every state can recover.

No failure leads to a state from which the loop cannot catch up.  Once the calls
succeed again, steps of the running session itself drain what waits and read up
to the head of the chain; a session that is being stopped, or has ended, is
followed by one that does.
-/

import NoxIngestor.FaultFree
import NoxIngestor.Iterations
import NoxIngestor.Resumption
import NoxIngestor.StreamContents

namespace NoxIngestor

open Runs (Leads)

/-! ### Steps of a healthy world -/

/-- Calls succeed, this is the head of the chain, and a connection that is lost comes
back.  One that is up stays up, without an event. -/
inductive Label.Heals (deployment : Deployment) (chain : List Log) (head : Nat) (s : State) :
    Label → Prop
  | elapse (millis : Nat) : Heals deployment chain head s (.elapse millis)
  | connected (lost : s.nats.value = .disconnected) :
      Heals deployment chain head s (.natsEvent .connected)
  | receive (request : Nat) : Heals deployment chain head s (.receive request)
  | delayElapsed : Heals deployment chain head s .delayElapsed
  | stateChanged : Heals deployment chain head s .stateChanged
  | handleStateChange : Heals deployment chain head s .handleStateChange
  | flushTick : Heals deployment chain head s .flushTick
  | persisted : Heals deployment chain head s (.persisted true)
  | tryResumeIfConnected : Heals deployment chain head s .tryResumeIfConnected
  | published : Heals deployment chain head s (.published true)
  | unpaused : Heals deployment chain head s .unpaused
  | latestBlock : Heals deployment chain head s (.latestBlock (.ok head))
  | batchRead (order : HashOrder) :
      Heals deployment chain head s (.batchRead (deployment.parser.provider chain) order)
  | nextTransaction : Heals deployment chain head s .nextTransaction
  | waitElapsed : Heals deployment chain head s .waitElapsed

/-- A session that is being stopped ends, and the next one finds the connection. -/
inductive Label.Restarts (settings : Settings) : Label → Prop
  | breakLoop : Restarts settings .breakLoop
  | persisted : Restarts settings (.persisted true)
  | start : Restarts settings (.start settings true [.connected])

theorem Label.Heals.session {deployment : Deployment} {chain : List Log} {head : Nat}
    {s : State} {label : Label} (heals : label.Heals deployment chain head s) :
    label.isStart = false := by
  cases heals <;> rfl

theorem Label.Heals.honest {deployment : Deployment} {chain : List Log} {head : Nat}
    {s : State} {label : Label} (heals : label.Heals deployment chain head s) :
    label.Honest deployment.parser chain := by
  cases heals with
  | batchRead order => exact deployment.parser.provider_honest chain
  | _ => trivial

theorem Label.Restarts.honest {deployment : Deployment} {chain : List Log} {settings : Settings}
    {label : Label} (restarts : label.Restarts settings) :
    label.Honest deployment.parser chain := by
  cases restarts <;> trivial

/-- The steps of a healthy world lead from the one state to the other. -/
abbrev HealsTo (deployment : Deployment) (chain : List Log) (head : Nat) (s after : State) :
    Prop :=
  Leads (step deployment) (Label.Heals deployment chain head) s after

/-- An iteration against this head and this provider, without a change of the
connection. -/
def healthyIteration (deployment : Deployment) (chain : List Log) (head : Nat)
    (order : HashOrder) : Iteration :=
  { latest := head
    fetch := deployment.parser.provider chain
    order := order
    events := [] }

private theorem Iteration.Leads.heals {deployment : Deployment} {chain : List Log} {head : Nat}
    {order : HashOrder} {s after : State} {labels : List Label}
    (leads : (healthyIteration deployment chain head order).quiet.Leads deployment s labels after) :
    HealsTo deployment chain head s after := by
  refine .of_labels (fun state label allowed => ?_) leads.allowed leads.reached
  cases allowed with
  | elapse millis => exact .elapse millis
  | natsEvent state arrives => exact absurd arrives List.not_mem_nil
  | receive request => exact .receive request
  | latestBlock => exact .latestBlock
  | batchRead => exact .batchRead order
  | nextTransaction => exact .nextTransaction
  | published => exact .published
  | waitElapsed => exact .waitElapsed

/-! ### Every batch can be read -/

private theorem NoxEventParser.splitLogsOnError_provider (parser : NoxEventParser)
    (chain : List Log)
    (fromBlock toBlock : Nat) :
    splitLogsOnError fromBlock toBlock (parser.provider chain) =
      .ok (chain.filter (parser.logFilter fromBlock toBlock).accepts) := by
  rw [splitLogsOnError, splitLoop, NoxEventParser.provider]
  simp only [List.nil_append]
  rw [splitLoop]

private theorem BlockReader.readBatch_provider (reader : BlockReader) (chain : List Log)
    (startBlock latestBlock : Nat) (order : HashOrder) :
    ∃ batch, reader.readBatch startBlock latestBlock (reader.parser.provider chain) order =
      .ok batch := by
  unfold readBatch
  split
  · exact ⟨_, rfl⟩
  · simp only [NoxEventParser.splitLogsOnError_provider]
    exact ⟨_, rfl⟩

/-! ### What every state of an honest run satisfies -/

structure Sound (deployment : Deployment) (chain : List Log) (s : State) : Prop where
  landed : Landed deployment s
  accounted : Accounted deployment chain s
  ownChain : s.ledger.OwnChain deployment
  close : s.CursorClose

namespace Sound

variable {deployment : Deployment} {chain : List Log} {head : Nat} {s after : State}

theorem resumable (sound : Sound deployment chain s) : Resumable s :=
  sound.accounted.scanned.resumable

theorem step {label : Label} (sound : Sound deployment chain s)
    (moved : Transition deployment s label after)
    (honest : label.Honest deployment.parser chain) : Sound deployment chain after :=
  { landed := sound.landed.step moved
    accounted := sound.accounted.step moved honest
    ownChain := (LedgerStep.of_transition moved).ownChain sound.ownChain
    close := sound.close.step moved }

theorem initial : Sound deployment chain (State.initial deployment) :=
  { landed := .initial
    accounted := .initial
    ownChain := ⟨rfl, fun _state held => nomatch held⟩
    close := fun up => absurd rfl up }

theorem of_run {labels : List Label} (reached : Reaches deployment labels s)
    (honest : ∀ label ∈ labels, label.Honest deployment.parser chain) :
    Sound deployment chain s :=
  reached.invariant_of_labels .initial
    (fun _s _label _next honest sound moved => sound.step moved honest) honest

theorem healed (sound : Sound deployment chain s) (heals : HealsTo deployment chain head s after) :
    Sound deployment chain after :=
  heals.invariant (Sound deployment chain) (fun _state _label _next may holds taken =>
    holds.step (step_transition taken) may.honest) sound

end Sound

/-! ### A flush goes through -/

/-- Back at the head of the loop, with the reader resumed and the rest untouched. -/
structure Released (s after : State) : Prop where
  atHead : after.task.atHead = true
  flowing : after.publisher.pause = false
  buffer : after.publisher.buffer.buffer = s.publisher.buffer.buffer
  nats : after.nats = s.nats
  nextBlock : after.nextBlock = s.nextBlock
  shutdown : after.shutdown = s.shutdown
  cursor : s.publisher.buffer.buffer = [] →
    after.nextBlock ≤ after.stateStore.lastSynced + 1

private theorem State.loopTop_atHead (s : State) : s.loopTop.task.atHead = true :=
  s.loopTop_cases (motive := fun task => task.atHead = true) rfl rfl

private theorem State.flushSucceeded_released (s : State) : Released s s.flushSucceeded := by
  unfold State.flushSucceeded
  constructor
  · exact State.loopTop_atHead _
  · rw [State.signalled_publisher]
    rfl
  · rw [State.signalled_publisher]
    rfl
  · exact State.settleCursor_nats _
  · exact State.settleCursor_nextBlock _
  · exact State.settleCursor_shutdown _
  · intro nothing
    have reached : (s.sendPause false).nextBlock ≤
        (s.sendPause false).settleCursor.stateStore.lastSynced + 1 :=
      State.settleCursor_reached nothing
    exact Nat.le_trans (Nat.le_of_eq (State.settleCursor_nextBlock _)) reached

private theorem Released.of_same {s middle after : State} (released : Released middle after)
    (buffer : middle.publisher.buffer.buffer = s.publisher.buffer.buffer)
    (nats : middle.nats = s.nats) (nextBlock : middle.nextBlock = s.nextBlock)
    (shutdown : middle.shutdown = s.shutdown) : Released s after where
  atHead := released.atHead
  flowing := released.flowing
  buffer := released.buffer.trans buffer
  nats := released.nats.trans nats
  nextBlock := released.nextBlock.trans nextBlock
  shutdown := released.shutdown.trans shutdown
  cursor nothing := released.cursor (buffer.trans nothing)

section Steps

variable {deployment : Deployment} {chain : List Log} {head : Nat} {s : State}

private theorem receives {request : Nat} (awaits : s.jetstream.Awaits request) :
    ∃ jetstream, HealsTo deployment chain head s { s with jetstream := jetstream } ∧
      request ∈ jetstream.received := by
  rcases awaits.answer deployment.natsMsgId deployment.recent s.clock with
    received | ⟨jetstream, onItsWay, received⟩
  · exact ⟨s.jetstream, .refl, received⟩
  · have arrives : step deployment s (.receive request) =
        some { s with jetstream := jetstream } := by
      simp only [step, onItsWay, Option.map_some]
    exact ⟨jetstream, .one arrives (.receive request), received⟩

private theorem flush_drains {caller : FlushCaller} {message : TransactionMessage} {request : Nat}
    {rest : List TransactionMessage} (here : s.task = .flush caller message request rest)
    (awaits : s.jetstream.Awaits request) :
    ∃ after, HealsTo deployment chain head s after ∧ Released s after := by
  induction rest generalizing s message request with
  | nil =>
      obtain ⟨jetstream, arrives, received⟩ := receives awaits
      have acked : step deployment { s with jetstream := jetstream } (.published true) =
          some ({ s with jetstream := jetstream }.record (.acked message)).flushSucceeded := by
        simp only [step, here, if_true, if_pos received]
      refine ⟨_, arrives.trans (.one acked .published), ?_⟩
      exact (State.flushSucceeded_released _).of_same rfl rfl rfl rfl
  | cons next later ih =>
      obtain ⟨jetstream, arrives, received⟩ := receives awaits
      have acked : step deployment { s with jetstream := jetstream } (.published true) =
          some (({ s with jetstream := jetstream }.record (.acked message)).flushNext caller next
            later) := by
        simp only [step, here, if_true, if_pos received]
      obtain ⟨after, heals, released⟩ :=
        ih (s := ({ s with jetstream := jetstream }.record (.acked message)).flushNext caller next
          later) rfl (jetstream.send_awaits next)
      exact ⟨after, arrives.trans (.after acked .published heals),
        released.of_same rfl rfl rfl rfl⟩

private theorem flushes (caller : FlushCaller)
    (taken : step deployment s caller.label = some (s.flushBuffer caller))
    (may : caller.label.Heals deployment chain head s) :
    ∃ after, HealsTo deployment chain head s after ∧
      Released { s with publisher := s.publisher.drainBuffer.2 } after := by
  cases buffered : s.publisher.buffer.buffer with
  | nil =>
      rw [State.flushBuffer_nil buffered] at taken
      refine ⟨_, .one taken may, s.flushSucceeded_released.of_same ?_ rfl rfl rfl⟩
      exact buffered
  | cons message later =>
      rw [State.flushBuffer_cons buffered] at taken
      obtain ⟨after, heals, released⟩ :=
        flush_drains (s := s.takeBuffer.flushNext caller message later) rfl
          (s.jetstream.send_awaits message)
      exact ⟨after, .after taken may heals, released.of_same rfl rfl rfl rfl⟩

/-! ### To a place where the loop rests -/

/-- Before the select, or at an await point of it. -/
def Task.rests : Task → Bool
  | .delay => true
  | .select reading => reading.isAwait
  | _ => false

theorem step_breakLoop {deployment : Deployment} {s : State} (rests : s.task.rests = true)
    (stopping : s.shutdown = true) :
    step deployment s .breakLoop = some (s.goto .finalPersist) := by
  cases here : s.task with
  | delay => simp only [step, here, stopping, if_true]
  | select reading =>
      rw [here] at rests
      have awaits : reading.isAwait = true := rests
      simp only [step, here, stopping, awaits, Bool.and_self, if_true]
  | _ =>
      rw [here] at rests
      cases rests

private theorem Task.rests_of_atHead {task : Task} (atHead : task.atHead = true) :
    task.rests = true := by
  rcases Task.cases_of_atHead atHead with here | here
  · rw [here]
    rfl
  · rw [here]
    rfl

private theorem step_connected (up : s.task ≠ .down) :
    step deployment s (.natsEvent .connected) =
      some { s with nats := s.nats.send .connected } := by
  simp only [step]

variable (deployment chain head) in
private theorem connects (up : s.task ≠ .down) :
    ∃ nats, HealsTo deployment chain head s { s with nats := nats } ∧
      nats.value = .connected := by
  cases value : s.nats.value with
  | connected => exact ⟨s.nats, .refl, value⟩
  | disconnected =>
      exact ⟨s.nats.send .connected, .one (step_connected up) (.connected value), rfl⟩

private theorem nextTransaction_rests {after : State} (connected : s.nats.value = .connected)
    (taken : step deployment s .nextTransaction = some after) :
    after.task.rests = true ∧ after.shutdown = s.shutdown := by
  have paced (moved : State) (shutdown : moved.shutdown = s.shutdown) (gap : Nat) :
      (moved.pace gap).task.rests = true ∧ (moved.pace gap).shutdown = s.shutdown := by
    obtain ⟨needsDelay, same⟩ := moved.pace_eq gap
    rw [same]
    exact ⟨Task.rests_of_atHead (State.loopTop_atHead _), shutdown⟩
  cases step_transition taken with
  | batchEmpty latest batch here empty => exact paced s rfl _
  | batchDelivered latest batch here nonempty nothing =>
      exact paced ((s.advance batch.endBlock).updateStore batch.endBlock) rfl _
  | batchHeld latest batch here nonempty waiting => exact paced (s.advance batch.endBlock) rfl _
  | bufferFull latest batch transaction later here full => exact ⟨rfl, rfl⟩
  | handed latest batch transaction later here room connected => exact ⟨rfl, rfl⟩
  | buffered latest batch transaction later here room disconnected =>
      rw [connected] at disconnected
      cases disconnected
  | retried label reading here retry => cases retry
  | flushStarted caller message later here connected buffered labelled =>
      cases caller <;> cases labelled

private theorem tryResume_rests (here : s.task = .tryResume) :
    ∃ after, HealsTo deployment chain head s after ∧ after.task.rests = true ∧
      after.shutdown = s.shutdown := by
  have taken : step deployment s .tryResumeIfConnected = some s.tryResumeIfConnected := by
    simp only [step, here]
  unfold State.tryResumeIfConnected at taken
  split at taken
  · exact ⟨_, .one taken .tryResumeIfConnected,
      Task.rests_of_atHead (State.loopTop_atHead _), rfl⟩
  · split at taken
    · exact ⟨_, .one taken .tryResumeIfConnected,
        Task.rests_of_atHead (State.loopTop_atHead _), rfl⟩
    · obtain ⟨after, heals, released⟩ :=
        flushes .tryResumeIfConnected taken .tryResumeIfConnected
      exact ⟨after, heals, Task.rests_of_atHead released.atHead, released.shutdown⟩

private theorem handles (here : s.task = .stateChanged) (connected : s.nats.value = .connected) :
    ∃ after, HealsTo deployment chain head s after ∧
      Released { s with publisher := s.publisher.drainBuffer.2 } after := by
  have taken : step deployment s .handleStateChange =
      some (s.flushBuffer .handleStateChange) := by
    simp only [step, here, State.handleStateChange, connected]
  exact flushes .handleStateChange taken .handleStateChange

private theorem reaches_rest (sound : Sound deployment chain s) (active : s.task.active = true) :
    ∃ after, HealsTo deployment chain head s after ∧ after.task.rests = true ∧
      after.shutdown = s.shutdown := by
  cases here : s.task with
  | down =>
      rw [here] at active
      cases active
  | finalPersist =>
      rw [here] at active
      cases active
  | delay => exact ⟨s, .refl, by rw [here]; rfl, rfl⟩
  | select reading =>
      cases awaits : reading.isAwait with
      | true => exact ⟨s, .refl, by rw [here]; exact awaits, rfl⟩
      | false =>
          cases reading with
          | publishing latest batch rest =>
              obtain ⟨nats, back, connected⟩ :=
                connects (s := s) deployment chain head (here ▸ Task.up_of_live rfl)
              have taken : step deployment { s with nats := nats } .nextTransaction = some _ :=
                step_nextTransaction here
              obtain ⟨rests, shutdown⟩ :=
                nextTransaction_rests (s := { s with nats := nats }) connected taken
              exact ⟨_, back.trans (.one taken .nextTransaction), rests, shutdown⟩
          | _ => cases awaits
  | stateChanged =>
      obtain ⟨nats, back, connected⟩ :=
        connects (s := s) deployment chain head (here ▸ Task.up_of_live rfl)
      obtain ⟨after, heals, released⟩ := handles (s := { s with nats := nats }) here connected
      exact ⟨after, back.trans heals, Task.rests_of_atHead released.atHead, released.shutdown⟩
  | persist =>
      have taken : step deployment s (.persisted true) =
          some ((s.writeFile true).goto .tryResume) := by
        simp only [step, here]
        rfl
      obtain ⟨after, heals, rests, shutdown⟩ :=
        tryResume_rests (s := (s.writeFile true).goto .tryResume) rfl
      exact ⟨after, .after taken .persisted heals, rests, shutdown⟩
  | tryResume => exact tryResume_rests here
  | flush caller message request rest =>
      have awaits := (sound.landed.inFlight request message (congrArg Task.inFlight here)).awaits
      obtain ⟨after, heals, released⟩ := flush_drains here awaits
      exact ⟨after, heals, Task.rests_of_atHead released.atHead, released.shutdown⟩

/-! ### Ready to read -/

/-- At the head of the loop with a connection, nothing waiting, and the cursor right
behind `next_block`. -/
structure Ready (s : State) : Prop where
  atHead : s.task.atHead = true
  running : s.shutdown = false
  connected : s.nats.value = .connected
  flowing : s.publisher.pause = false
  nothing : s.publisher.buffer.buffer = []
  cursor : s.nextBlock ≤ s.stateStore.lastSynced + 1

theorem Released.ready {drained after : State} (released : Released drained after)
    (nothing : drained.publisher.buffer.buffer = []) (running : drained.shutdown = false)
    (connected : drained.nats.value = .connected) : Ready after where
  atHead := released.atHead
  running := released.shutdown.trans running
  connected := (congrArg Watch.value released.nats).trans connected
  flowing := released.flowing
  nothing := released.buffer.trans nothing
  cursor := released.cursor nothing

private theorem resumes_on_change {reading : Reading} (here : s.task = .select reading)
    (awaits : reading.isAwait = true) (running : s.shutdown = false)
    (connected : s.nats.value = .connected) (changed : s.nats.hasChanged s.seen = true) :
    ∃ after, HealsTo deployment chain head s after ∧ Ready after ∧
      after.nextBlock = s.nextBlock := by
  have noticed : step deployment s .stateChanged =
      some ({ s with seen := s.nats.version }.goto .stateChanged) := by
    simp only [step, here, awaits, changed, Bool.and_self, if_true]
  obtain ⟨after, heals, released⟩ :=
    handles (s := { s with seen := s.nats.version }.goto .stateChanged) rfl connected
  exact ⟨after, .after noticed .stateChanged heals, released.ready rfl running connected,
    released.nextBlock⟩

private theorem flows (resumable : Resumable s) (settled : s.task.settled = true)
    (nothing : s.publisher.buffer.buffer = []) (connected : s.nats.value = .connected)
    (unchanged : s.nats.hasChanged s.seen = false) : s.publisher.pause = false := by
  apply Bool.eq_false_of_not_eq_true
  intro paused
  rcases resumable.due settled paused with waiting | lost | changed
  · exact waiting nothing
  · rw [connected] at lost
    cases lost
  · rw [unchanged] at changed
    cases changed

private theorem drains (sound : Sound deployment chain s) (here : s.task = .tryResume)
    (running : s.shutdown = false) (connected : s.nats.value = .connected)
    (unchanged : s.nats.hasChanged s.seen = false) :
    ∃ after, HealsTo deployment chain head s after ∧ Ready after ∧
      after.nextBlock = s.nextBlock := by
  have taken : step deployment s .tryResumeIfConnected = some s.tryResumeIfConnected := by
    simp only [step, here]
  unfold State.tryResumeIfConnected at taken
  rw [if_neg (not_not_intro connected)] at taken
  split at taken
  · rename_i empty
    have nothing : s.publisher.buffer.buffer = [] := isBufferEmpty_iff.mp empty
    have held : s.held = [] := (State.held_of_idle (here ▸ rfl)).trans nothing
    have flowing := flows sound.resumable (here ▸ rfl) nothing connected unchanged
    refine ⟨_, .one taken .tryResumeIfConnected, ?_, rfl⟩
    constructor
    · exact State.loopTop_atHead _
    · exact running
    · exact connected
    · exact flowing
    · exact nothing
    · exact sound.close (here ▸ Task.up_of_live rfl) held
  · obtain ⟨after, heals, released⟩ :=
      flushes .tryResumeIfConnected taken .tryResumeIfConnected
    exact ⟨after, heals, released.ready rfl running connected, released.nextBlock⟩

private theorem resumes_on_tick {reading : Reading} (sound : Sound deployment chain s)
    (here : s.task = .select reading) (awaits : reading.isAwait = true)
    (running : s.shutdown = false) (connected : s.nats.value = .connected)
    (unchanged : s.nats.hasChanged s.seen = false) :
    ∃ after, HealsTo deployment chain head s after ∧ Ready after ∧
      after.nextBlock = s.nextBlock := by
  have ticked : step deployment s .flushTick = some (s.goto .persist) := by
    simp only [step, here, awaits, if_true]
  have written : step deployment (s.goto .persist) (.persisted true) =
      some (((s.goto .persist).writeFile true).goto .tryResume) := rfl
  have persists : HealsTo deployment chain head s
      (((s.goto .persist).writeFile true).goto .tryResume) :=
    .after ticked .flushTick (.one written .persisted)
  obtain ⟨after, heals, ready, next⟩ :=
    drains (sound.healed persists) rfl running connected unchanged
  exact ⟨after, persists.trans heals, ready, next⟩

/-- From any await point the loop gets ready: by the handler if the connection was lost
or a change of it has not been seen, and otherwise by the flush tick. -/
theorem resumes {reading : Reading} (sound : Sound deployment chain s)
    (here : s.task = .select reading) (awaits : reading.isAwait = true)
    (running : s.shutdown = false) :
    ∃ after, HealsTo deployment chain head s after ∧ Ready after ∧
      after.nextBlock = s.nextBlock := by
  cases value : s.nats.value with
  | connected =>
      cases changed : s.nats.hasChanged s.seen with
      | true => exact resumes_on_change here awaits running value changed
      | false => exact resumes_on_tick sound here awaits running value changed
  | disconnected =>
      have up : s.task ≠ .down := here ▸ Task.up_of_live rfl
      have changed : (s.nats.send .connected).hasChanged s.seen = true := by
        apply bne_iff_ne.mpr
        exact Nat.ne_of_gt (Nat.lt_succ_of_le sound.resumable.seenSent)
      obtain ⟨after, heals, ready, next⟩ :=
        resumes_on_change (s := { s with nats := s.nats.send .connected }) here awaits running
          rfl changed
      exact ⟨after, .after (step_connected up) (.connected value) heals, ready, next⟩

variable (deployment chain head) in
private theorem reaches_select (rests : s.task.rests = true) (running : s.shutdown = false) :
    ∃ after reading, HealsTo deployment chain head s after ∧ after.task = .select reading ∧
      reading.isAwait = true ∧
        after = { s with task := after.task, needsDelay := after.needsDelay } ∧
          (s.task.atHead = true → reading = .waitUntilUnpaused) := by
  cases here : s.task with
  | delay =>
      have rested : step deployment s .delayElapsed =
          some { s with needsDelay := false, task := .select .waitUntilUnpaused } := by
        simp only [step, here, running, Bool.false_eq_true, if_false]
        rfl
      exact ⟨_, _, .one rested .delayElapsed, rfl, rfl, rfl, fun _atHead => rfl⟩
  | select reading =>
      rw [here] at rests
      refine ⟨s, reading, .refl, here, rests, rfl, fun atHead => ?_⟩
      cases reading with
      | waitUntilUnpaused => rfl
      | _ => cases atHead
  | _ =>
      rw [here] at rests
      cases rests

theorem becomes_ready (sound : Sound deployment chain s) (rests : s.task.rests = true)
    (running : s.shutdown = false) :
    ∃ after, HealsTo deployment chain head s after ∧ Ready after ∧
      after.nextBlock = s.nextBlock := by
  obtain ⟨middle, reading, heals, here, awaits, same, _⟩ :=
    reaches_select deployment chain head rests running
  have unmoved : middle.nextBlock = s.nextBlock := by rw [same]
  have still : middle.shutdown = false := by
    rw [same]
    exact running
  obtain ⟨after, later, ready, next⟩ := resumes (sound.healed heals) here awaits still
  exact ⟨after, heals.trans later, ready, next.trans unmoved⟩

end Steps

/-! ### Up to the head of the chain -/

/-- Values under which batches up to this head are neither empty nor out of range,
and can be published. -/
structure State.Suited (head : Nat) (s : State) : Prop where
  batchSize : 1 ≤ s.batchSize
  range : head + s.batchSize < u64Modulus
  capacity : 1 ≤ s.publisher.buffer.capacity

section CatchingUp

variable {deployment : Deployment} {chain : List Log} {head : Nat} {s after : State}

theorem Label.Heals.shutdown {label : Label} (heals : label.Heals deployment chain head s)
    (moved : Transition deployment s label after) : after.shutdown = s.shutdown :=
  moved.shutdown_kept heals.session (by rintro rfl; cases heals)

theorem HealsTo.shutdown (heals : HealsTo deployment chain head s after) :
    after.shutdown = s.shutdown := by
  have preserved : ∀ state label next, label.Heals deployment chain head state →
      state.shutdown = s.shutdown → step deployment state label = some next →
        next.shutdown = s.shutdown := by
    intro state label next may same taken
    exact (may.shutdown (step_transition taken)).trans same
  exact heals.invariant (fun state => state.shutdown = s.shutdown) preserved rfl

theorem HealsTo.suited (heals : HealsTo deployment chain head s after)
    (suited : s.Suited head) : after.Suited head := by
  apply heals.invariant (State.Suited head) _ suited
  intro state label next may holds taken
  obtain ⟨batchSize, capacity⟩ := (step_transition taken).settings_kept may.session
  exact ⟨batchSize ▸ holds.batchSize, batchSize ▸ holds.range, capacity ▸ holds.capacity⟩

def HashOrder.asFilled : HashOrder :=
  { reorder := id
    perm := List.Perm.refl }

private theorem reads_on (sound : Sound deployment chain s) (ready : Ready s)
    (suited : s.Suited head)
    (available : s.nextBlock ≤ head) :
    ∃ after, HealsTo deployment chain head s after ∧ Ready after ∧
      s.nextBlock < after.nextBlock := by
  obtain ⟨waiting, reading, heals, here, _, same, atSelect⟩ :=
    reaches_select deployment chain head (Task.rests_of_atHead ready.atHead) ready.running
  rw [atSelect ready.atHead] at here
  have flowing : waiting.publisher.pause = false := by
    rw [same]
    exact ready.flowing
  have asked : step deployment waiting .unpaused =
      some (waiting.goto (.select .getLatestBlock)) := by
    simp only [step, here, flowing, Bool.false_eq_true, if_false]
  have opened : HealsTo deployment chain head s (waiting.goto (.select .getLatestBlock)) :=
    heals.trans (.one asked .unpaused)
  have next : (waiting.goto (.select .getLatestBlock)).nextBlock = s.nextBlock := by
    rw [same]
    rfl
  have nothing : (waiting.goto (.select .getLatestBlock)).publisher.buffer.buffer = [] := by
    rw [same]
    exact ready.nothing
  have connected : (waiting.goto (.select .getLatestBlock)).nats.value = .connected := by
    rw [same]
    exact ready.connected
  have fitting := opened.suited suited
  obtain ⟨batch, answered⟩ := (deployment.reader
    (waiting.goto (.select .getLatestBlock)).batchSize).readBatch_provider chain
      (waiting.goto (.select .getLatestBlock)).nextBlock head .asFilled
  have fits : (healthyIteration deployment chain head .asFilled).Fits
      (waiting.goto (.select .getLatestBlock)) batch.transactions := by
    constructor
    · exact fitting.batchSize
    · have range := fitting.range
      omega
    · right
      have quiet : ¬ (healthyIteration deployment chain head .asFilled).MayBuffer
          (waiting.goto (.select .getLatestBlock)) := by
        rintro (disconnected | event)
        · rw [connected] at disconnected
          cases disconnected
        · cases event
      unfold Iteration.reserve MessageBuffer.len
      rw [if_neg quiet, nothing]
      exact fitting.capacity
  have forward : (waiting.goto (.select .getLatestBlock)).nextBlock ≤ head := by
    rw [next]
    exact available
  have progresses := fits.progresses rfl forward answered
  obtain ⟨rest, final, led, atHead⟩ := progresses.ends [] _ .refl
  have further := (progresses.advances rest final led.louder atHead).2
  have read : HealsTo deployment chain head s final := opened.trans led.heals
  obtain ⟨after, later, again, unmoved⟩ :=
    becomes_ready (sound.healed read) (Task.rests_of_atHead atHead)
      (read.shutdown.trans ready.running)
  exact ⟨after, read.trans later, again, by omega⟩

theorem catches_up (sound : Sound deployment chain s) (ready : Ready s)
    (suited : s.Suited head) :
    ∃ final, HealsTo deployment chain head s final ∧ Sound deployment chain final ∧
      Ready final ∧ head < final.nextBlock := by
  have advances : ∀ state, (Sound deployment chain state ∧ Ready state ∧ state.Suited head) →
      ¬ (Sound deployment chain state ∧ Ready state ∧ head < state.nextBlock) →
        ∃ next, HealsTo deployment chain head state next ∧
          (Sound deployment chain next ∧ Ready next ∧ next.Suited head) ∧
            head + 1 - next.nextBlock < head + 1 - state.nextBlock := by
    rintro state ⟨stillSound, stillReady, stillSuited⟩ short
    have available : state.nextBlock ≤ head := by
      by_contra beyond
      exact short ⟨stillSound, stillReady, Nat.lt_of_not_le beyond⟩
    obtain ⟨next, heals, readyAgain, further⟩ :=
      reads_on stillSound stillReady stillSuited available
    exact ⟨next, heals,
      ⟨stillSound.healed heals, readyAgain, heals.suited stillSuited⟩, by omega⟩
  exact Runs.leads_to_goal advances ⟨sound, ready, suited⟩

end CatchingUp

/-! ### Stopping and starting -/

/-- Settings under which a session can read up to this head. -/
structure Settings.Suits (settings : Settings) (head : Nat) : Prop where
  batchSize : 1 ≤ settings.batchSize
  range : head + settings.batchSize < u64Modulus
  capacity : 1 ≤ settings.bufferCapacity

/-- Every session is started with such settings. -/
def Label.Suits (head : Nat) : Label → Prop
  | .start settings _readable _events => settings.Suits head
  | _ => True

section Restarting

variable {deployment : Deployment} {chain : List Log} {head : Nat} {s after : State}
  {settings : Settings}

private theorem startSession_suited (suits : settings.Suits head) (events : List ConnectionState)
    (store : StateStore) (startBlock : Nat) :
    (s.startSession settings events store startBlock).Suited head where
  batchSize := suits.batchSize
  range := suits.range
  capacity := by
    have room : 1 ≤ min settings.bufferCapacity maxCapacity :=
      Nat.le_min.mpr ⟨suits.capacity, by decide⟩
    exact room

private theorem suited_of_run {labels : List Label} (reached : Reaches deployment labels s)
    (suits : ∀ label ∈ labels, label.Suits head) (up : s.task ≠ .down) : s.Suited head := by
  have preserved : ∀ state label next, label.Suits head →
      (state.task ≠ .down → state.Suited head) → Transition deployment state label next →
        next.task ≠ .down → next.Suited head := by
    intro state label next suited holds moved stillUp
    cases session : label.isStart with
    | true =>
        cases label with
        | start settings readable events =>
            obtain ⟨store, startBlock, _, _, rfl⟩ := moved.of_start
            exact startSession_suited suited events store startBlock
        | _ => cases session
    | false =>
        have wasUp : state.task ≠ .down := fun down =>
          stillUp (moved.stays_down down session).1
        obtain ⟨batchSize, capacity⟩ := moved.settings_kept session
        have before := holds wasUp
        exact ⟨batchSize ▸ before.batchSize, batchSize ▸ before.range,
          capacity ▸ before.capacity⟩
  exact reached.invariant_of_labels (fun up => absurd rfl up) preserved suits up

theorem starts (sound : Sound deployment chain s) (down : s.task = .down)
    (initial : deployment.config.initialBlock ≠ 0) (settings : Settings) :
    ∃ store startBlock, step deployment s (.start settings true [.connected]) =
      some (s.startSession settings [.connected] store startBlock) := by
  have own (state : PersistedState) (content : s.fileContent true = .parsed state) :
      state.chainId = deployment.config.chainId :=
    sound.ownChain.file state (State.file_of_parsed content)
  obtain ⟨store, startBlock, loaded, determined⟩ :=
    StateStore.load_starts own (Nat.pos_of_ne_zero initial)
  exact ⟨store, startBlock, step_start down loaded determined settings [.connected]⟩

private theorem stops (rests : s.task.rests = true) (stopping : s.shutdown = true) :
    Leads (step deployment) (fun _state => Label.Restarts settings) s
      (((s.goto .finalPersist).writeFile true).goto .down) := by
  have ended : step deployment (s.goto .finalPersist) (.persisted true) =
      some (((s.goto .finalPersist).writeFile true).goto .down) := rfl
  exact .after (step_breakLoop rests stopping) .breakLoop (.one ended .persisted)

end Restarting

/-! ### Recovery -/

/-- Everything up to the head has been delivered in this session, and the cursor says so. -/
structure CaughtUp (deployment : Deployment) (chain : List Log) (head : Nat) (s : State) :
    Prop where
  atHead : s.task.atHead = true
  flowing : s.publisher.pause = false
  nothing : s.held = []
  beyond : head < s.nextBlock
  cursor : s.nextBlock ≤ s.stateStore.lastSynced + 1
  delivered : deployment.parser.CarriedBy chain s.startBlock s.nextBlock (ackedIn s.trace)

section Recovering

variable {deployment : Deployment} {chain : List Log} {head : Nat} {s : State}

theorem session_recovers (sound : Sound deployment chain s) (rests : s.task.rests = true)
    (running : s.shutdown = false) (suited : s.Suited head) :
    ∃ final, HealsTo deployment chain head s final ∧ CaughtUp deployment chain head final := by
  obtain ⟨middle, heals, ready, _⟩ := becomes_ready sound rests running
  obtain ⟨final, later, stillSound, stillReady, beyond⟩ :=
    catches_up (sound.healed heals) ready (heals.suited suited)
  have idle : final.held = [] := by
    rcases Task.cases_of_atHead stillReady.atHead with here | here
    · exact (State.held_of_idle (here ▸ rfl)).trans stillReady.nothing
    · exact (State.held_of_idle (here ▸ rfl)).trans stillReady.nothing
  have up : final.task ≠ .down := by
    intro down
    have atHead := stillReady.atHead
    rw [down] at atHead
    cases atHead
  have carried := stillSound.accounted.carried up
  rw [idle, List.append_nil] at carried
  exact ⟨final, heals.trans later,
    { atHead := stillReady.atHead
      flowing := stillReady.flowing
      nothing := idle
      beyond := beyond
      cursor := stillReady.cursor
      delivered := carried }⟩

theorem restart_recovers (sound : Sound deployment chain s) (down : s.task = .down)
    (initial : deployment.config.initialBlock ≠ 0) {settings : Settings}
    (suits : settings.Suits head) :
    ∃ final, Leads (step deployment)
        (fun state label => label.Heals deployment chain head state ∨ label.Restarts settings)
        s final ∧
      CaughtUp deployment chain head final := by
  obtain ⟨store, startBlock, taken⟩ := starts sound down initial settings
  have again : Sound deployment chain
      (s.startSession settings [.connected] store startBlock) :=
    sound.step (step_transition taken) trivial
  obtain ⟨final, heals, caughtUp⟩ := session_recovers again
    (Task.rests_of_atHead (State.loopTop_atHead _)) rfl
      (startSession_suited suits [.connected] store startBlock)
  exact ⟨final, .after taken (.inr .start) (heals.mono fun _state _label => .inl), caughtUp⟩

/-- From every state of every run, whatever has failed in it, steps of a healthy world
lead to where everything up to the head is delivered.  A session that has not been asked
to stop gets there by its own steps, without a restart. -/
theorem always_recovers {labels : List Label} (reached : Reaches deployment labels s)
    (honest : ∀ label ∈ labels, label.Honest deployment.parser chain)
    (sized : ∀ label ∈ labels, label.Suits head)
    (initial : deployment.config.initialBlock ≠ 0) {settings : Settings}
    (suits : settings.Suits head) :
    (∃ final, Leads (step deployment)
        (fun state label => label.Heals deployment chain head state ∨ label.Restarts settings)
        s final ∧
      CaughtUp deployment chain head final) ∧
    (s.task.active = true → s.shutdown = false →
      ∃ final, HealsTo deployment chain head s final ∧
        CaughtUp deployment chain head final) := by
  have sound := Sound.of_run reached honest
  have inSession : s.task.active = true → s.shutdown = false →
      ∃ final, HealsTo deployment chain head s final ∧
        CaughtUp deployment chain head final := by
    intro active running
    have up : s.task ≠ .down := by
      intro down
      rw [down] at active
      cases active
    obtain ⟨middle, heals, rests, shutdown⟩ := reaches_rest sound active
    obtain ⟨final, later, caughtUp⟩ := session_recovers (sound.healed heals) rests
      (shutdown.trans running) (heals.suited (suited_of_run reached sized up))
    exact ⟨final, heals.trans later, caughtUp⟩
  refine ⟨?_, inSession⟩
  cases active : s.task.active with
  | true =>
      cases stopping : s.shutdown with
      | false =>
          obtain ⟨final, heals, caughtUp⟩ := inSession active stopping
          exact ⟨final, heals.mono fun _state _label => .inl, caughtUp⟩
      | true =>
          obtain ⟨middle, heals, rests, shutdown⟩ := reaches_rest sound active
          have stopped : Leads (step deployment) (fun _state => Label.Restarts settings) middle
              _ :=
            stops rests (shutdown.trans stopping)
          have ended : Sound deployment chain
              (((middle.goto .finalPersist).writeFile true).goto .down) :=
            stopped.invariant (Sound deployment chain) (fun _state _label _next may holds taken =>
              holds.step (step_transition taken) may.honest) (sound.healed heals)
          obtain ⟨final, later, caughtUp⟩ := restart_recovers ended rfl initial suits
          exact ⟨final, (heals.mono fun _state _label => .inl).trans
            ((stopped.mono fun _state _label => .inr).trans later), caughtUp⟩
  | false =>
      cases here : s.task with
      | down => exact restart_recovers sound here initial suits
      | finalPersist =>
          have taken : step deployment s (.persisted true) =
              some ((s.writeFile true).goto .down) := by
            simp only [step, here]
            rfl
          obtain ⟨final, later, caughtUp⟩ := restart_recovers
            (sound.step (step_transition taken) trivial) rfl initial suits
          exact ⟨final, .after taken (.inr .persisted) later, caughtUp⟩
      | _ =>
          rw [here] at active
          cases active

end Recovering

/-- Both publishes fail while the connection is up, and the reader stays paused with no
change of the connection to come. -/
def Sample.pausedOnConnection : List Label :=
  Sample.start ++ [Sample.read, .nextTransaction, .published false, .nextTransaction,
    .published false, .nextTransaction, .delayElapsed]

theorem always_recovers_pausedOnConnection :
    ∃ s, Reaches Sample.deployment Sample.pausedOnConnection s ∧ s.held.length = 2 ∧
      s.publisher.pause = true ∧ s.nats.value = .connected ∧
        s.nats.hasChanged s.seen = false ∧
          ∃ final, HealsTo Sample.deployment Sample.chain 200 s final ∧
            CaughtUp Sample.deployment Sample.chain 200 final := by
  have ends : (Runs.run (step Sample.deployment) (State.initial Sample.deployment)
      Sample.pausedOnConnection).map (fun s => (s.task.active, s.shutdown, s.held.length,
        s.publisher.pause, s.nats.value, s.nats.hasChanged s.seen)) =
          some (true, false, 2, true, .connected, false) := by
    decide +kernel
  obtain ⟨s, reached, values⟩ := Option.map_eq_some_iff.mp ends
  simp only [Prod.mk.injEq] at values
  obtain ⟨active, running, waiting, paused, connected, unchanged⟩ := values
  have suits : Sample.settings.Suits 200 := ⟨by decide, by decide, by decide⟩
  have honest : ∀ label ∈ Sample.pausedOnConnection,
      label.Honest Sample.deployment.parser Sample.chain := by
    refine List.forall_mem_append.mpr ⟨Sample.start_honest, ?_⟩
    simp only [List.forall_mem_cons, Label.Honest, List.not_mem_nil, IsEmpty.forall_iff,
      implies_true, and_true]
    exact Sample.read_honest
  have sized : ∀ label ∈ Sample.pausedOnConnection, label.Suits 200 := by
    simp only [Sample.pausedOnConnection, Sample.start, Sample.read, List.cons_append,
      List.nil_append, List.forall_mem_cons, Label.Suits, List.not_mem_nil, IsEmpty.forall_iff,
      implies_true, and_true]
    exact suits
  exact ⟨s, reached, waiting, paused, connected, unchanged,
    (always_recovers reached honest sized (by decide) suits).2 active running⟩

end NoxIngestor
