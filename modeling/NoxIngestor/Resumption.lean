/-
Where a session resumes.

As long as the state file can be read, the record in it never moves back.  While
nothing waits the cursor stands right behind `next_block`, and otherwise before
the first message that waits: a clean stop resumes where the session stopped, or
reads again what still waited.
-/

import NoxIngestor.Cursor
import NoxIngestor.Iterations
import NoxIngestor.StreamOrder

namespace NoxIngestor

open Scanning

/-! ### The record never moves back -/

/-- A start finds the state file readable. -/
def Label.readsFile : Label → Bool
  | .start _settings readable _events => readable
  | _ => true

/-- The record in the file is not past the cursor. -/
def State.FileBehind (s : State) : Prop :=
  ∀ state, s.file = some state → state.lastBlock ≤ s.stateStore.lastSynced

/-- The file holds this block or a later one, and so does the cursor. -/
def State.Past (block : Nat) (s : State) : Prop :=
  (∃ state, s.file = some state ∧ block ≤ state.lastBlock) ∧ block ≤ s.stateStore.lastSynced

section Monotone

variable {deployment : Deployment} {s after : State} {label : Label}

private theorem cursor_of_readable {store : StateStore} {state : PersistedState}
    (held : s.file = some state)
    (loaded : StateStore.load (s.fileContent true) deployment.config.chainId
      deployment.config.initialBlock = .ok store) :
    store.lastSynced = state.lastBlock ∧ store.fromFile = true := by
  have content : s.fileContent true = .parsed state := by
    unfold State.fileContent
    rw [if_pos rfl, held]
  rw [content] at loaded
  exact StateStore.load_parsed loaded

private theorem settled_cursor (handled : State) (pause : Bool) :
    (handled.sendPause pause).settleCursor.loopTop.file = handled.file ∧
      handled.stateStore.lastSynced ≤
        (handled.sendPause pause).settleCursor.loopTop.stateStore.lastSynced := by
  rcases (handled.sendPause pause).settleCursor_cases with kept | ⟨_, _, settled⟩
  · rw [kept]
    exact ⟨rfl, Nat.le_refl _⟩
  · rw [settled]
    exact ⟨rfl, Nat.le_max_left _ _⟩

/-- Each step keeps the file and moves the cursor on, writes the cursor to the file,
or takes it from there. -/
theorem Transition.cursor_cases (moved : Transition deployment s label after)
    (readable : label.readsFile = true) :
    (after.file = s.file ∧ s.stateStore.lastSynced ≤ after.stateStore.lastSynced) ∨
      (after.file = some (s.stateStore.persistedState s.clock) ∧
        after.stateStore = s.stateStore) ∨
      (after.file = s.file ∧ ∀ state, s.file = some state →
        after.stateStore.lastSynced = state.lastBlock) := by
  have paced (finished : State) (gap : Nat) : (finished.pace gap).file = finished.file ∧
      (finished.pace gap).stateStore = finished.stateStore := by
    obtain ⟨needsDelay, same⟩ := finished.pace_eq gap
    rw [same]
    exact ⟨rfl, rfl⟩
  cases moved with
  | start settings readFile events store startBlock here loaded determined =>
      right; right
      refine ⟨rfl, fun state held => ?_⟩
      rw [show readFile = true from readable] at loaded
      exact (cursor_of_readable held loaded).1
  | persisted success here =>
      cases success with
      | false => exact .inl ⟨rfl, Nat.le_refl _⟩
      | true => exact .inr (.inl ⟨rfl, rfl⟩)
  | finalPersisted success here =>
      cases success with
      | false => exact .inl ⟨rfl, Nat.le_refl _⟩
      | true => exact .inr (.inl ⟨rfl, rfl⟩)
  | resumed here connected nothing => exact .inl (settled_cursor s false)
  | paused here disconnected => exact .inl (settled_cursor s true)
  | flushDone caller message request here received =>
      exact .inl (settled_cursor (s.record (.acked message)) false)
  | flushFailedResumed message request later here =>
      exact .inl (settled_cursor (s.returnBuffer (message :: later)) false)
  | batchEmpty latest batch here empty =>
      obtain ⟨file, store⟩ := paced s (latest - batch.endBlock)
      exact .inl ⟨file, store ▸ Nat.le_refl _⟩
  | batchDelivered latest batch here nonempty nothing =>
      obtain ⟨file, store⟩ := paced ((s.advance batch.endBlock).updateStore batch.endBlock)
        (latest - batch.endBlock)
      exact .inl ⟨file, store ▸ Nat.le_max_left _ _⟩
  | batchHeld latest batch here nonempty waiting =>
      obtain ⟨file, store⟩ := paced (s.advance batch.endBlock) (latest - batch.endBlock)
      exact .inl ⟨file, store ▸ Nat.le_refl _⟩
  | _ => exact .inl ⟨rfl, Nat.le_refl _⟩

theorem State.FileBehind.step (behind : s.FileBehind)
    (moved : Transition deployment s label after) (readable : label.readsFile = true) :
    after.FileBehind := by
  intro state held
  rcases moved.cursor_cases readable with ⟨file, grown⟩ | ⟨file, store⟩ | ⟨file, store⟩
  · exact Nat.le_trans (behind state (file.symm.trans held)) grown
  · cases file.symm.trans held
    exact store ▸ Nat.le_refl _
  · exact Nat.le_of_eq (store state (file.symm.trans held)).symm

theorem State.Past.step {block : Nat} (past : s.Past block)
    (moved : Transition deployment s label after) (readable : label.readsFile = true) :
    after.Past block := by
  obtain ⟨⟨state, held, reached⟩, cursor⟩ := past
  rcases moved.cursor_cases readable with ⟨file, grown⟩ | ⟨file, store⟩ | ⟨file, store⟩
  · exact ⟨⟨state, file.trans held, reached⟩, Nat.le_trans cursor grown⟩
  · exact ⟨⟨_, file, cursor⟩, by rw [store]; exact cursor⟩
  · exact ⟨⟨state, file.trans held, reached⟩, by rw [store state held]; exact reached⟩

/-- While every start can read the state file, the record in it never moves back, and
every later session starts right behind the record it finds. -/
theorem persisted_cursor_monotone {labels more : List Label}
    (reached : Reaches deployment labels s)
    (later : Runs.run (step deployment) s more = some after)
    (readable : ∀ label ∈ labels ++ more, label.readsFile = true) {old : PersistedState}
    (held : s.file = some old) :
    ∃ new, after.file = some new ∧ old.lastBlock ≤ new.lastBlock ∧
      ∀ settings events restarted,
        step deployment after (.start settings true events) = some restarted →
          restarted.nextBlock = u64Add new.lastBlock 1 := by
  have behind : s.FileBehind :=
    reached.invariant_of_labels (fun _state absent => nomatch absent)
      (fun _s _label _next read behind moved => State.FileBehind.step behind moved read)
      fun label member => readable label (List.mem_append_left more member)
  have past : after.Past old.lastBlock := by
    apply Runs.run_invariant _ (Runs.guarded_of_labels fun label member =>
      readable label (List.mem_append_right labels member))
      ⟨⟨old, held, Nat.le_refl _⟩, behind old held⟩ later
    intro state label next read past taken
    exact State.Past.step past (step_transition taken) read
  obtain ⟨⟨new, found, grown⟩, _⟩ := past
  refine ⟨new, found, grown, fun settings events restarted taken => ?_⟩
  have content : after.fileContent true = .parsed new := by
    unfold State.fileContent
    rw [if_pos rfl, show after.file = some new from found]
  exact (started_from taken).2.2.1 new content

end Monotone

/-- The cursor is persisted after the delivery, and the process crashes. -/
def Sample.persistedDelivery : List Label :=
  Sample.delivery ++ [.delayElapsed, .flushTick, .persisted true]

def Sample.crashAndRestart : List Label :=
  [.crash, .start Sample.settings true []]

theorem persisted_cursor_monotone_crashAndRestart :
    ∃ s after old new, Reaches Sample.deployment Sample.persistedDelivery s ∧
      Runs.run (step Sample.deployment) s Sample.crashAndRestart = some after ∧
        s.file = some old ∧ after.file = some new ∧ old.lastBlock = 101 ∧
          old.lastBlock ≤ new.lastBlock := by
  have ends : (Runs.run (step Sample.deployment) (State.initial Sample.deployment)
      Sample.persistedDelivery).bind (fun s =>
        (Runs.run (step Sample.deployment) s Sample.crashAndRestart).map fun _after =>
          s.file.map PersistedState.lastBlock) = some (some 101) := by
    decide +kernel
  obtain ⟨s, reached, later⟩ := Option.bind_eq_some_iff.mp ends
  obtain ⟨after, restarted, last⟩ := Option.map_eq_some_iff.mp later
  obtain ⟨old, held, block⟩ := Option.map_eq_some_iff.mp last
  have readable : (Sample.persistedDelivery ++ Sample.crashAndRestart).all Label.readsFile =
      true := rfl
  obtain ⟨new, found, grown, _⟩ :=
    persisted_cursor_monotone reached restarted (List.all_eq_true.mp readable) held
  exact ⟨s, after, old, new, reached, restarted, held, found, block, grown⟩

def Task.live : Task → Bool
  | .down => false
  | _ => true

theorem Task.up_of_live {task : Task} (live : task.live = true) : task ≠ .down := by
  rintro rfl
  cases live

/-! ### The cursor where nothing waits -/

private theorem State.settleCursor_of_empty {s : State} (nothing : s.publisher.buffer.buffer = [])
    (positive : 0 < s.nextBlock) : s.settleCursor = s.updateStore (s.nextBlock - 1) := by
  unfold settleCursor
  rw [isBufferEmpty_iff.mpr nothing, decide_eq_true positive]
  rfl

theorem State.settleCursor_reached {s : State} (nothing : s.publisher.buffer.buffer = []) :
    s.nextBlock ≤ s.settleCursor.stateStore.lastSynced + 1 := by
  rcases Nat.eq_zero_or_pos s.nextBlock with zero | positive
  · rw [zero]
    exact Nat.zero_le _
  · have raised : s.nextBlock - 1 ≤ max s.stateStore.lastSynced (s.nextBlock - 1) :=
      Nat.le_max_right _ _
    rw [State.settleCursor_of_empty nothing positive]
    exact Nat.le_add_of_sub_le raised

/-- While nothing waits, the cursor of a running session is not left behind. -/
def State.CursorClose (s : State) : Prop :=
  s.task ≠ .down → s.held = [] → s.nextBlock ≤ s.stateStore.lastSynced + 1

namespace State.CursorClose

variable {deployment : Deployment} {s after : State} {label : Label}

theorem kept (close : s.CursorClose) (up : s.task ≠ .down)
    (next : after.nextBlock = s.nextBlock) (store : after.stateStore = s.stateStore)
    (held : after.held = [] → s.held = []) : after.CursorClose := by
  intro _stillUp nothing
  rw [next, store]
  exact close up (held nothing)

private theorem elsewhere (close : s.CursorClose) {task : Task} (here : s.task = task)
    (running : task.live = true) (idle : task.drained = [])
    (buffer : after.publisher.buffer.buffer = s.publisher.buffer.buffer)
    (next : after.nextBlock = s.nextBlock) (store : after.stateStore = s.stateStore) :
    after.CursorClose := by
  refine close.kept (here ▸ Task.up_of_live running) next store fun nothing => ?_
  rw [State.held_of_idle (here ▸ idle), ← buffer]
  exact (List.append_eq_nil_iff.mp nothing).2

private theorem of_settled (handled : State) (pause : Bool) :
    (handled.sendPause pause).settleCursor.loopTop.CursorClose := by
  intro _up nothing
  have empty : (handled.sendPause pause).publisher.buffer.buffer = [] := by
    rw [← State.settleCursor_publisher]
    exact (List.append_eq_nil_iff.mp nothing).2
  exact Nat.le_trans (Nat.le_of_eq (State.settleCursor_nextBlock _))
    (State.settleCursor_reached empty)

private theorem of_waiting {message : TransactionMessage} (waits : message ∈ after.held) :
    after.CursorClose := by
  intro _up nothing
  rw [nothing] at waits
  cases waits

private theorem started {settings : Settings} {events : List ConnectionState}
    {store : StateStore} {startBlock : Nat}
    (determined : store.determineStartBlock = .ok startBlock) :
    (s.startSession settings events store startBlock).CursorClose := by
  intro _up _nothing
  show startBlock ≤ store.lastSynced + 1
  cases fromFile : store.fromFile with
  | true =>
      rw [StateStore.determineStartBlock_of_file fromFile determined]
      exact Nat.mod_le _ _
  | false =>
      rw [StateStore.determineStartBlock_of_fresh fromFile determined]
      exact Nat.le_succ _

theorem step (close : s.CursorClose) (moved : Transition deployment s label after) :
    after.CursorClose := by
  have returned (messages : List TransactionMessage) (message : TransactionMessage)
      (task : Task) : message ∈ ((s.returnBuffer (message :: messages)).goto task).held := by
    apply List.mem_append_right
    rw [show ((s.returnBuffer (message :: messages)).goto task).publisher.buffer.buffer = _ from
      s.publisher.buffer.extendFront_buffer (message :: messages)]
    exact List.mem_append_left _ List.mem_cons_self
  have joined (message : TransactionMessage) (task : Task) :
      message ∈ ((s.holdBack message).goto task).held :=
    List.mem_append_right _ (List.mem_append_right _ List.mem_cons_self)
  cases moved with
  | elapse millis => exact close
  | natsEvent state up => exact close
  | receive request jetstream received => exact close
  | shutdownSignal up => exact close
  | crash up => exact fun up => absurd rfl up
  | start settings readable events store startBlock here loaded determined =>
      exact started determined
  | delayElapsed here running => exact close.elsewhere here rfl rfl rfl rfl rfl
  | delayCancelled here cancelled => exact close.elsewhere here rfl rfl rfl rfl rfl
  | delayBroken here cancelled => exact close.elsewhere here rfl rfl rfl rfl rfl
  | selectBroken reading here awaits cancelled =>
      exact close.elsewhere here rfl rfl rfl rfl rfl
  | stateChanged reading here awaits changed => exact close.elsewhere here rfl rfl rfl rfl rfl
  | resumed here connected nothing => exact of_settled s false
  | paused here disconnected => exact of_settled s true
  | flushTick reading here awaits => exact close.elsewhere here rfl rfl rfl rfl rfl
  | persisted success here =>
      obtain ⟨file, same⟩ := s.writeFile_eq success
      rw [same]
      exact close.elsewhere here rfl rfl rfl rfl rfl
  | finalPersisted success here => exact fun up => absurd rfl up
  | resumeSkipped here skipped => exact close.elsewhere here rfl rfl rfl rfl rfl
  | flushStarted caller message later here connected buffered labelled =>
      exact of_waiting (List.mem_append_left _ List.mem_cons_self)
  | flushAcked caller message request next later here received =>
      exact of_waiting (List.mem_append_left _ List.mem_cons_self)
  | flushDone caller message request here received =>
      exact of_settled (s.record (.acked message)) false
  | flushFailedResumed message request later here =>
      exact of_settled (s.returnBuffer (message :: later)) false
  | flushFailedHeld message request later here => exact of_waiting (returned later message _)
  | unpaused here flowing => exact close.elsewhere here rfl rfl rfl rfl rfl
  | retried label reading here retry => exact close
  | caughtUp latest here ahead => exact close.elsewhere here rfl rfl rfl rfl rfl
  | behind latest here available => exact close.elsewhere here rfl rfl rfl rfl rfl
  | batchRead latest fetch order batch here success =>
      exact close.elsewhere here rfl rfl rfl rfl rfl
  | batchEmpty latest batch here empty =>
      obtain ⟨needsDelay, same⟩ := s.pace_eq (latest - batch.endBlock)
      rw [same]
      exact close.elsewhere here rfl rfl rfl rfl rfl
  | batchDelivered latest batch here nonempty nothing =>
      obtain ⟨needsDelay, same⟩ := ((s.advance batch.endBlock).updateStore
        batch.endBlock).pace_eq (latest - batch.endBlock)
      rw [same]
      intro _up _nothing
      have exceeds : u64Add batch.endBlock 1 ≤ batch.endBlock + 1 := Nat.mod_le _ _
      exact Nat.le_trans exceeds (Nat.succ_le_succ (Nat.le_max_right _ _))
  | batchHeld latest batch here nonempty waiting =>
      obtain ⟨needsDelay, same⟩ := (s.advance batch.endBlock).pace_eq
        (latest - batch.endBlock)
      rw [same]
      intro _up nothing
      exact absurd (List.append_eq_nil_iff.mp nothing).2 waiting
  | bufferFull latest batch transaction later here full =>
      exact close.elsewhere here rfl rfl rfl rfl rfl
  | handed latest batch transaction later here room connected =>
      exact close.elsewhere here rfl rfl rfl rfl rfl
  | buffered latest batch transaction later here room disconnected =>
      exact of_waiting (joined transaction _)
  | publishAcked latest batch message request later here received =>
      exact close.elsewhere here rfl rfl rfl rfl rfl
  | publishFailed latest batch message request later here room =>
      exact of_waiting (joined message _)
  | publishRejected latest batch message request later here full =>
      exact close.elsewhere here rfl rfl rfl rfl rfl
  | waitElapsed latest batch later here running =>
      exact close.elsewhere here rfl rfl rfl rfl rfl
  | waitCancelled latest batch later here cancelled =>
      exact close.elsewhere here rfl rfl rfl rfl rfl
  | errorSlept latest batch later here => exact close.elsewhere here rfl rfl rfl rfl rfl

theorem of_run {labels : List Label} (reached : Reaches deployment labels s) :
    s.CursorClose :=
  reached.always (fun up => absurd rfl up) fun _s _label _next close moved => step close moved

end State.CursorClose

/-! ### The cursor and what waits -/

/-- The cursor is a block that was worked off, not the first one to work on. -/
def State.Processed (deployment : Deployment) (s : State) : Prop :=
  s.stateStore.fromFile = true ∨ deployment.config.initialBlock < s.stateStore.lastSynced

/-- How the cursor of a running session stands to `next_block` and to what waits. -/
structure Follows (deployment : Deployment) (s : State) : Prop where
  positive : 0 < s.nextBlock
  below : s.nextBlock < u64Modulus
  fresh : s.stateStore.fromFile = false →
    deployment.config.initialBlock ≤ s.stateStore.lastSynced
  reached : s.stateStore.lastSynced ≤ s.nextBlock
  behind : s.Processed deployment → s.stateStore.lastSynced < s.nextBlock ∧
    ∀ message ∈ s.held, s.stateStore.lastSynced < message.blockNumber

private theorem State.settleCursor_of_waiting {s : State}
    (waiting : s.publisher.buffer.buffer ≠ []) :
    s.settleCursor = s := by
  unfold settleCursor
  rw [Bool.eq_false_of_not_eq_true (mt isBufferEmpty_iff.mp waiting)]
  rfl

namespace Follows

variable {deployment : Deployment} {s after : State}

theorem kept (follows : Follows deployment s) (next : after.nextBlock = s.nextBlock)
    (store : after.stateStore = s.stateStore) (held : after.held = s.held) :
    Follows deployment after := by
  constructor
  · exact next ▸ follows.positive
  · exact next ▸ follows.below
  · rw [store]
    exact follows.fresh
  · rw [store, next]
    exact follows.reached
  · unfold State.Processed
    rw [store, next, held]
    exact follows.behind

theorem update (follows : Follows deployment s) (block : Nat)
    (onwards : s.nextBlock ≤ block + 1) (below : block + 1 < u64Modulus)
    (next : after.nextBlock = block + 1) (store : after.stateStore = s.stateStore.update block)
    (nothing : after.held = []) : Follows deployment after := by
  have fromFile : after.stateStore.fromFile = s.stateStore.fromFile := by
    rw [store]
    rfl
  have cursor : after.stateStore.lastSynced = max s.stateStore.lastSynced block := by
    rw [store]
    rfl
  have reached := follows.reached
  constructor
  · omega
  · omega
  · intro fresh
    have started := follows.fresh (fromFile.symm.trans fresh)
    omega
  · omega
  · intro processed
    refine ⟨?_, fun message waits => ?_⟩
    · by_contra ahead
      -- Then the cursor was on `next_block` before, which only a fresh one can be.
      have before : s.Processed deployment := by
        rcases processed with loaded | moved
        · exact .inl (fromFile.symm.trans loaded)
        · exact .inr (by omega)
      have strictly := (follows.behind before).1
      omega
    · rw [nothing] at waits
      cases waits

theorem drained (follows : Follows deployment s) (next : after.nextBlock = s.nextBlock)
    (store : after.stateStore = s.stateStore)
    (held : ∀ message ∈ after.held, message ∈ s.held) : Follows deployment after := by
  constructor
  · exact next ▸ follows.positive
  · exact next ▸ follows.below
  · rw [store]
    exact follows.fresh
  · rw [store, next]
    exact follows.reached
  · unfold State.Processed
    rw [store, next]
    intro processed
    obtain ⟨strictly, beyond⟩ := follows.behind processed
    exact ⟨strictly, fun message member => beyond message (held message member)⟩

theorem settled (follows : Follows deployment s) {handled : State} (pause : Bool)
    (next : handled.nextBlock = s.nextBlock) (store : handled.stateStore = s.stateStore)
    (held : ∀ message ∈ handled.publisher.buffer.buffer, message ∈ s.held) :
    Follows deployment (handled.sendPause pause).settleCursor.loopTop := by
  have positive := follows.positive
  have below := follows.below
  by_cases nothing : handled.publisher.buffer.buffer = []
  · have settles : (handled.sendPause pause).settleCursor =
        (handled.sendPause pause).updateStore (handled.nextBlock - 1) :=
      State.settleCursor_of_empty nothing (next.symm ▸ positive)
    rw [settles]
    apply follows.update (handled.nextBlock - 1)
    · omega
    · omega
    · exact (Nat.sub_add_cancel (next.symm ▸ positive)).symm
    · exact congrArg (fun store => store.update (handled.nextBlock - 1)) store
    · exact (State.loopTop_held _).trans nothing
  · have keeps : (handled.sendPause pause).settleCursor = handled.sendPause pause :=
      State.settleCursor_of_waiting nothing
    have waits : (handled.sendPause pause).loopTop.held = handled.publisher.buffer.buffer :=
      State.loopTop_held _
    rw [keeps]
    refine follows.drained ?_ ?_ ?_
    · exact next
    · exact store
    · exact waits.symm ▸ held

theorem heldBack (follows : Follows deployment s) (idle : s.task.drained = [])
    {message : TransactionMessage} (later : s.nextBlock ≤ message.blockNumber) {task : Task}
    (stillIdle : task.drained = []) :
    Follows deployment ((s.holdBack message).goto task) := by
  have waits : ((s.holdBack message).goto task).held = s.held ++ [message] := by
    rw [State.held_of_idle stillIdle, State.held_of_idle idle]
    rfl
  constructor
  · exact follows.positive
  · exact follows.below
  · exact follows.fresh
  · exact follows.reached
  · intro processed
    obtain ⟨strictly, beyond⟩ := follows.behind processed
    refine ⟨strictly, fun waiting member => ?_⟩
    rw [waits] at member
    rcases List.mem_append.mp member with earlier | new
    · exact beyond waiting earlier
    · rw [List.mem_singleton.mp new]
      exact Nat.lt_of_lt_of_le strictly later

theorem moveOn (follows : Follows deployment s) (block : Nat) (onwards : s.nextBlock ≤ block)
    (below : block + 1 < u64Modulus) (next : after.nextBlock = block + 1)
    (store : after.stateStore = s.stateStore) (held : after.held = s.held) :
    Follows deployment after := by
  have reached := follows.reached
  constructor
  · omega
  · omega
  · rw [store]
    exact follows.fresh
  · rw [store]
    omega
  · unfold State.Processed
    rw [store, held]
    intro processed
    obtain ⟨strictly, beyond⟩ := follows.behind processed
    exact ⟨by omega, beyond⟩

end Follows

/-! ### Along a run -/

structure Resumes (deployment : Deployment) (chain : List Log) (s : State) : Prop where
  scanned : Scanned deployment chain belowLast s
  follows : s.task ≠ .down → Follows deployment s
  storable : ∀ state, s.file = some state → belowLast state.lastBlock

namespace Resumes

variable {deployment : Deployment} {chain : List Log} {s after : State} {label : Label}

/-- What is left of the batch in hand lies at or past `next_block`, and the batch
ends below the last block number. -/
theorem inHand (resumes : Resumes deployment chain s) (wellFormed : WellFormedChain chain)
    {latest : Nat} {batch : BatchResult} {remaining : List TransactionMessage}
    (up : s.task ≠ .down) (current : s.task.batch = some ((latest, batch), remaining)) :
    batch.startBlock = s.nextBlock ∧
      (s.nextBlock ≤ batch.endBlock → u64Add batch.endBlock 1 = batch.endBlock + 1 ∧
        batch.endBlock + 1 < u64Modulus) ∧
      ∀ message ∈ remaining, s.nextBlock ≤ message.blockNumber := by
  obtain ⟨contents, contained, suffix⟩ :=
    resumes.scanned.inHand _ (State.scan_of_up up) _ _ current
  refine ⟨?_, fun forward => ?_, fun message member => ?_⟩
  · obtain ⟨_, _, batchSize, fetch, order, honest, success⟩ := contained
    exact ((deployment.reader batchSize).readBatch_located honest success).1
  · have exactly := contained.endBlock_succ forward
    refine ⟨exactly, ?_⟩
    rw [← exactly]
    exact Nat.mod_lt _ (by decide)
  · exact ((mem_reads_iff wellFormed contained message).mp (suffix.subset member)).2.1

theorem started (resumes : Resumes deployment chain s)
    (bound : belowLast deployment.config.initialBlock)
    {settings : Settings} {readable : Bool} {events : List ConnectionState}
    {store : StateStore} {startBlock : Nat}
    (loaded : StateStore.load (s.fileContent readable) deployment.config.chainId
      deployment.config.initialBlock = .ok store)
    (determined : store.determineStartBlock = .ok startBlock) :
    Follows deployment (s.startSession settings events store startBlock) := by
  have nothing : (s.startSession settings events store startBlock).held = [] :=
    State.loopTop_held _
  rcases StateStore.load_cases loaded with ⟨state, content, synced, fromFile⟩ | rfl
  · have below : state.lastBlock + 1 < u64Modulus :=
      resumes.storable state (State.file_of_parsed content)
    have block : startBlock = store.lastSynced + 1 := by
      rw [StateStore.determineStartBlock_of_file fromFile determined, synced]
      exact Nat.mod_eq_of_lt below
    rw [← synced] at below
    subst block
    constructor
    · exact Nat.succ_pos _
    · exact below
    · exact fun fresh => absurd (fromFile.symm.trans fresh) Bool.noConfusion
    · exact Nat.le_succ _
    · intro _processed
      refine ⟨Nat.lt_succ_self _, fun message member => ?_⟩
      rw [nothing] at member
      cases member
  · have block := StateStore.determineStartBlock_of_fresh rfl determined
    subst block
    constructor
    · exact StateStore.determineStartBlock_pos rfl determined
    · exact Nat.lt_of_succ_lt bound
    · exact fun _fresh => Nat.le_refl _
    · exact Nat.le_refl _
    · rintro (loaded | moved)
      · cases loaded
      · exact absurd moved (Nat.lt_irrefl _)

private theorem cursor_below (resumes : Resumes deployment chain s)
    (bound : belowLast deployment.config.initialBlock) (up : s.task ≠ .down) :
    belowLast s.stateStore.lastSynced := by
  have follows := resumes.follows up
  have initial : deployment.config.initialBlock + 1 < u64Modulus := bound
  unfold belowLast
  by_cases processed : s.Processed deployment
  · have strictly := (follows.behind processed).1
    have below := follows.below
    omega
  · obtain ⟨_, notMoved⟩ := not_or.mp processed
    omega

private theorem storable_step (resumes : Resumes deployment chain s)
    (bound : belowLast deployment.config.initialBlock)
    (moved : Transition deployment s label after) :
    ∀ state, after.file = some state → belowLast state.lastBlock := by
  have written (up : s.task ≠ .down) (success : Bool) : ∀ state,
      (s.writeFile success).file = some state → belowLast state.lastBlock := by
    intro state held
    cases success with
    | false => exact resumes.storable state held
    | true =>
        cases held
        exact resumes.cursor_below bound up
  have settled (handled : State) (same : handled.file = s.file) (pause : Bool) : ∀ state,
      (handled.sendPause pause).settleCursor.loopTop.file = some state →
        belowLast state.lastBlock := by
    rw [(settled_cursor handled pause).1, same]
    exact resumes.storable
  have paced (finished : State) (same : finished.file = s.file) (gap : Nat) : ∀ state,
      (finished.pace gap).file = some state → belowLast state.lastBlock := by
    obtain ⟨needsDelay, eq⟩ := finished.pace_eq gap
    rw [eq]
    exact same ▸ resumes.storable
  cases moved with
  | persisted success here => exact written (here ▸ nofun) success
  | finalPersisted success here => exact written (here ▸ nofun) success
  | resumed here connected nothing => exact settled s rfl false
  | paused here disconnected => exact settled s rfl true
  | flushDone caller message request here received =>
      exact settled (s.record (.acked message)) rfl false
  | flushFailedResumed message request later here =>
      exact settled (s.returnBuffer (message :: later)) rfl false
  | batchEmpty latest batch here empty => exact paced s rfl _
  | batchDelivered latest batch here nonempty nothing =>
      exact paced ((s.advance batch.endBlock).updateStore batch.endBlock) rfl _
  | batchHeld latest batch here nonempty waiting => exact paced (s.advance batch.endBlock) rfl _
  | _ => exact resumes.storable

theorem elsewhere (resumes : Resumes deployment chain s) {task : Task} (here : s.task = task)
    (running : task.live = true) (idle : task.drained = []) (stillIdle : after.task.drained = [])
    (publisher : after.publisher = s.publisher) (next : after.nextBlock = s.nextBlock)
    (store : after.stateStore = s.stateStore) : Follows deployment after := by
  have up : s.task ≠ .down := here ▸ Task.up_of_live running
  apply (resumes.follows up).kept next store
  rw [State.held_of_idle stillIdle, State.held_of_idle (here ▸ idle), publisher]

private theorem follows_step (resumes : Resumes deployment chain s)
    (wellFormed : WellFormedChain chain)
    (bound : belowLast deployment.config.initialBlock)
    (moved : Transition deployment s label after)
    (up : after.task ≠ .down) : Follows deployment after := by
  have before {task : Task} (here : s.task = task) (running : task.live = true) :
      Follows deployment s := resumes.follows (here ▸ Task.up_of_live running)
  cases moved with
  | elapse millis => exact (resumes.follows up).kept rfl rfl rfl
  | natsEvent state running => exact (resumes.follows up).kept rfl rfl rfl
  | receive request jetstream received => exact (resumes.follows up).kept rfl rfl rfl
  | shutdownSignal running => exact (resumes.follows up).kept rfl rfl rfl
  | crash running => exact absurd rfl up
  | start settings readable events store startBlock here loaded determined =>
      exact resumes.started bound loaded determined
  | delayElapsed here running =>
      exact resumes.elsewhere here rfl rfl (State.loopTop_drained _) rfl rfl rfl
  | delayCancelled here cancelled =>
      exact resumes.elsewhere here rfl rfl rfl rfl rfl rfl
  | delayBroken here cancelled =>
      exact resumes.elsewhere here rfl rfl rfl rfl rfl rfl
  | selectBroken reading here awaits cancelled =>
      exact resumes.elsewhere here rfl rfl rfl rfl rfl rfl
  | stateChanged reading here awaits changed =>
      exact resumes.elsewhere here rfl rfl rfl rfl rfl rfl
  | resumed here connected nothing =>
      refine (before here rfl).settled false rfl rfl fun message member => ?_
      rw [nothing] at member
      cases member
  | paused here disconnected =>
      refine (before here rfl).settled true rfl rfl fun message member => ?_
      exact List.mem_append_right _ member
  | flushTick reading here awaits =>
      exact resumes.elsewhere here rfl rfl rfl rfl rfl rfl
  | persisted success here =>
      obtain ⟨file, same⟩ := s.writeFile_eq success
      rw [same]
      exact resumes.elsewhere here rfl rfl rfl rfl rfl rfl
  | finalPersisted success here => exact absurd rfl up
  | resumeSkipped here skipped =>
      exact resumes.elsewhere here rfl rfl (State.loopTop_drained _) rfl rfl rfl
  | flushStarted caller message later here connected buffered labelled =>
      have idle : s.task.drained = [] := here ▸ caller.site_drained
      refine (resumes.follows (here ▸ caller.site_up)).kept rfl rfl ?_
      rw [State.held_of_idle idle, buffered]
      exact List.append_nil (message :: later)
  | flushAcked caller message request next later here received =>
      refine (before here rfl).drained rfl rfl fun waiting member => ?_
      rw [State.held, here]
      exact List.mem_cons_of_mem message member
  | flushDone caller message request here received =>
      refine (before here rfl).settled false rfl rfl fun message member => ?_
      exact List.mem_append_right _ member
  | flushFailedResumed message request later here =>
      refine (before here rfl).settled false rfl rfl fun waiting member => ?_
      have returned := s.publisher.buffer.extendFront_buffer (message :: later)
      rw [State.held, here]
      exact returned ▸ member
  | flushFailedHeld message request later here =>
      refine (before here rfl).kept rfl rfl ?_
      rw [State.loopTop_held, State.held, here]
      exact MessageBuffer.extendFront_buffer _ _
  | unpaused here flowing =>
      exact resumes.elsewhere here rfl rfl rfl rfl rfl rfl
  | retried label reading here retry => exact resumes.follows up
  | caughtUp latest here ahead =>
      exact resumes.elsewhere here rfl rfl (State.loopTop_drained _) rfl rfl rfl
  | behind latest here available =>
      exact resumes.elsewhere here rfl rfl rfl rfl rfl rfl
  | batchRead latest fetch order batch here success =>
      exact resumes.elsewhere here rfl rfl rfl rfl rfl rfl
  | batchEmpty latest batch here empty =>
      obtain ⟨needsDelay, same⟩ := s.pace_eq (latest - batch.endBlock)
      rw [same]
      exact resumes.elsewhere here rfl rfl (State.loopTop_drained _) rfl rfl rfl
  | batchDelivered latest batch here nonempty nothing =>
      obtain ⟨starts, moves, _⟩ := resumes.inHand wellFormed (here ▸ Task.up_of_live rfl)
        (congrArg Task.batch here)
      rw [starts] at nonempty
      obtain ⟨exactly, below⟩ := moves nonempty
      obtain ⟨needsDelay, same⟩ := ((s.advance batch.endBlock).updateStore
        batch.endBlock).pace_eq (latest - batch.endBlock)
      rw [same]
      exact (before here rfl).update batch.endBlock (Nat.le_succ_of_le nonempty) below exactly
        rfl ((State.loopTop_held _).trans nothing)
  | batchHeld latest batch here nonempty waiting =>
      obtain ⟨starts, moves, _⟩ := resumes.inHand wellFormed (here ▸ Task.up_of_live rfl)
        (congrArg Task.batch here)
      rw [starts] at nonempty
      obtain ⟨exactly, below⟩ := moves nonempty
      obtain ⟨needsDelay, same⟩ := (s.advance batch.endBlock).pace_eq
        (latest - batch.endBlock)
      have held : s.held = s.publisher.buffer.buffer := State.held_of_idle (here ▸ rfl)
      rw [same]
      exact (before here rfl).moveOn batch.endBlock nonempty below exactly rfl
        ((State.loopTop_held _).trans held.symm)
  | bufferFull latest batch transaction later here full =>
      exact resumes.elsewhere here rfl rfl rfl rfl rfl rfl
  | handed latest batch transaction later here room connected =>
      exact resumes.elsewhere here rfl rfl rfl rfl rfl rfl
  | buffered latest batch transaction later here room disconnected =>
      have lies := (resumes.inHand wellFormed (here ▸ Task.up_of_live rfl)
        (congrArg Task.batch here)).2.2
      exact (before here rfl).heldBack (here ▸ rfl) (lies transaction List.mem_cons_self) rfl
  | publishAcked latest batch message request later here received =>
      exact resumes.elsewhere here rfl rfl rfl rfl rfl rfl
  | publishFailed latest batch message request later here room =>
      have lies := (resumes.inHand wellFormed (here ▸ Task.up_of_live rfl)
        (congrArg Task.batch here)).2.2
      exact (before here rfl).heldBack (here ▸ rfl) (lies message List.mem_cons_self) rfl
  | publishRejected latest batch message request later here full =>
      rw [resumes.scanned.resumable.room latest batch message request later here] at full
      cases full
  | waitElapsed latest batch later here running =>
      exact resumes.elsewhere here rfl rfl rfl rfl rfl rfl
  | waitCancelled latest batch later here cancelled =>
      exact resumes.elsewhere here rfl rfl (State.loopTop_drained _) rfl rfl rfl
  | errorSlept latest batch later here =>
      exact resumes.elsewhere here rfl rfl rfl rfl rfl rfl

theorem initial : Resumes deployment chain (State.initial deployment) :=
  { scanned := .initial
    follows := fun up => absurd rfl up
    storable := fun _state held => nomatch held }

theorem of_run (wellFormed : WellFormedChain chain)
    (bound : belowLast deployment.config.initialBlock)
    {labels : List Label} (reached : Reaches deployment labels s)
    (honest : ∀ label ∈ labels, label.Honest deployment.parser chain)
    (throughout : Throughout deployment (ReadsTo deployment belowLast) labels) :
    Resumes deployment chain s := by
  apply Reaches.invariant .initial _ reached ((Runs.guarded_of_labels honest).and throughout)
  rintro state label next ⟨honestly, ending⟩ resumes moved
  exact
    { scanned := resumes.scanned.step moved honestly ending
      follows := resumes.follows_step wellFormed bound moved
      storable := resumes.storable_step bound moved }

end Resumes

/-! ### A clean stop and the next start -/

/-- The loop has been left, and the cursor is about to be persisted. -/
def Task.stopping : Task → Bool
  | .finalPersist => true
  | _ => false

private theorem Task.eq_of_stopping {task : Task} (stopping : task.stopping = true) :
    task = .finalPersist := by
  unfold Task.stopping at stopping
  split at stopping
  · rfl
  · cases stopping

theorem Transition.stays_down {deployment : Deployment} {s after : State} {label : Label}
    (moved : Transition deployment s label after) (down : s.task = .down)
    (noStart : label.isStart = false) : after.task = .down ∧ after.file = s.file := by
  cases moved with
  | elapse millis => exact ⟨down, rfl⟩
  | receive request jetstream received => exact ⟨down, rfl⟩
  | crash up => exact absurd down up
  | natsEvent state up => exact absurd down up
  | shutdownSignal up => exact absurd down up
  | start settings readable events store startBlock here loaded determined => cases noStart
  | flushStarted caller message later here connected buffered labelled =>
      rw [down] at here
      cases caller <;> cases here
  | _ => simp_all only [reduceCtorEq]

theorem Transition.shutdown_kept {deployment : Deployment} {s after : State} {label : Label}
    (moved : Transition deployment s label after) (noStart : label.isStart = false)
    (noSignal : label ≠ .shutdownSignal) : after.shutdown = s.shutdown := by
  have paced (finished : State) (gap : Nat) :
      (finished.pace gap).shutdown = finished.shutdown := by
    obtain ⟨needsDelay, same⟩ := finished.pace_eq gap
    rw [same]
    rfl
  have written (success : Bool) (task : Task) :
      ((s.writeFile success).goto task).shutdown = s.shutdown := by
    obtain ⟨file, same⟩ := s.writeFile_eq success
    rw [same]
    rfl
  cases moved with
  | start settings readable events store startBlock here loaded determined => cases noStart
  | shutdownSignal up => exact absurd rfl noSignal
  | resumed here connected nothing => exact State.settleCursor_shutdown _
  | paused here disconnected => exact State.settleCursor_shutdown _
  | flushDone caller message request here received => exact State.settleCursor_shutdown _
  | flushFailedResumed message request later here => exact State.settleCursor_shutdown _
  | persisted success here => exact written success .tryResume
  | finalPersisted success here => exact written success .down
  | batchEmpty latest batch here empty => exact paced s _
  | batchDelivered latest batch here nonempty nothing =>
      exact paced ((s.advance batch.endBlock).updateStore batch.endBlock) _
  | batchHeld latest batch here nonempty waiting => exact paced (s.advance batch.endBlock) _
  | _ => rfl

/-- How a session that was started after a clean stop goes on from the session before. -/
structure GoesOn (s started : State) : Prop where
  cursor : started.nextBlock = s.stateStore.lastSynced + 1
  notAhead : started.nextBlock ≤ s.nextBlock
  exact : s.held = [] → started.nextBlock = s.nextBlock
  /-- What still waited is read again. -/
  waiting : ∀ message ∈ s.held, started.nextBlock ≤ message.blockNumber

/-- A session whose cursor is a processed block and that is stopped with its cursor
written resumes exactly where it was if nothing waited, and otherwise at the first
block of which something may still wait. -/
theorem clean_restart_resumes {deployment : Deployment} {chain : List Log}
    (wellFormed : WellFormedChain chain) (bound : belowLast deployment.config.initialBlock)
    {labels idle : List Label} {s started : State} {settings : Settings}
    {events : List ConnectionState} (reached : Reaches deployment labels s)
    (honest : ∀ label ∈ labels, label.Honest deployment.parser chain)
    (throughout : Throughout deployment (ReadsTo deployment belowLast) labels)
    (here : s.task.stopping = true) (processed : s.Processed deployment)
    (noStart : ∀ label ∈ idle, label.isStart = false)
    (restarted : Runs.run (step deployment) s
      (.persisted true :: (idle ++ [.start settings true events])) = some started) :
    GoesOn s started := by
  have resumes := Resumes.of_run wellFormed bound reached honest throughout
  have final := Task.eq_of_stopping here
  have up : s.task ≠ .down := final ▸ nofun
  have follows := resumes.follows up
  obtain ⟨strictly, beyond⟩ := follows.behind processed
  obtain ⟨stopped, taken, rest⟩ := Runs.run_cons.mp restarted
  obtain ⟨waiting, idled, last⟩ := Runs.run_concat.mp rest
  have written : stopped.task = .down ∧
      stopped.file = some (s.stateStore.persistedState s.clock) := by
    simp only [step, final, if_true] at taken
    cases taken
    exact ⟨rfl, rfl⟩
  have kept : waiting.task = .down ∧
      waiting.file = some (s.stateStore.persistedState s.clock) := by
    have preserved : ∀ state label next, label.isStart = false →
        state.task = .down ∧ state.file = some (s.stateStore.persistedState s.clock) →
          step deployment state label = some next →
            next.task = .down ∧ next.file = some (s.stateStore.persistedState s.clock) := by
      rintro state label next quiet ⟨down, file⟩ stepped
      obtain ⟨stays, same⟩ := (step_transition stepped).stays_down down quiet
      exact ⟨stays, same.trans file⟩
    exact Runs.run_invariant preserved (Runs.guarded_of_labels noStart) written idled
  have content : waiting.fileContent true =
      .parsed (s.stateStore.persistedState s.clock) := by
    unfold State.fileContent
    rw [if_pos rfl, kept.2]
  have cursor : started.nextBlock = s.stateStore.lastSynced + 1 := by
    rw [(started_from last).2.2.1 _ content]
    exact Nat.mod_eq_of_lt (resumes.cursor_below bound up)
  constructor
  · exact cursor
  · rw [cursor]
    exact strictly
  · intro nothing
    have close := State.CursorClose.of_run reached up nothing
    omega
  · intro message member
    rw [cursor]
    exact beyond message member

/-- The second transaction is buffered in an outage; the session is then stopped, and
the next one reads its block again. -/
def Sample.stoppedInOutage : List Label :=
  [.start Sample.settings true [.connected], .stateChanged, .handleStateChange, .unpaused,
    .latestBlock (.ok 100), Sample.read, .nextTransaction, .receive 0, .published true,
    .nextTransaction, .delayElapsed, .flushTick, .persisted true, .crash,
    .start Sample.settings true [.connected], .unpaused, .latestBlock (.ok 101), Sample.read,
    .natsEvent .disconnected, .nextTransaction, .nextTransaction, .delayElapsed,
    .shutdownSignal, .breakLoop]

theorem clean_restart_resumes_stoppedInOutage :
    ∃ s started, Reaches Sample.deployment Sample.stoppedInOutage s ∧
      s.held.map TransactionMessage.blockNumber = [101] ∧ s.nextBlock = 102 ∧
        started.nextBlock = 101 ∧ GoesOn s started := by
  have ends : (Runs.run (step Sample.deployment) (State.initial Sample.deployment)
      Sample.stoppedInOutage).bind (fun s =>
        (Runs.run (step Sample.deployment) s
          (.persisted true :: ([.elapse 1000] ++ [.start Sample.settings true []]))).map
            fun started => (s.task.stopping, s.stateStore.fromFile,
              s.held.map TransactionMessage.blockNumber, s.nextBlock, started.nextBlock)) =
          some (true, true, [101], 102, 101) := by
    decide +kernel
  obtain ⟨s, reached, later⟩ := Option.bind_eq_some_iff.mp ends
  obtain ⟨started, restarted, values⟩ := Option.map_eq_some_iff.mp later
  simp only [Prod.mk.injEq] at values
  obtain ⟨here, fromFile, held, next, again⟩ := values
  refine ⟨s, started, reached, held, next, again, ?_⟩
  apply clean_restart_resumes Sample.chain_wellFormed (by decide) reached _ (by decide +kernel)
    here (.inl fromFile) (by decide) restarted
  simp only [Sample.stoppedInOutage, List.forall_mem_cons, Label.Honest, List.not_mem_nil,
    IsEmpty.forall_iff, implies_true, and_true, true_and]
  exact ⟨Sample.read_honest, Sample.read_honest⟩

end NoxIngestor
