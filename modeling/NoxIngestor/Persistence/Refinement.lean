/-
The loop with its disk does what the loop does.

As long as the machine keeps its power, a process that is killed amid a call of
`persist` has either replaced the file or not: the call was one write of the main
loop, or none.  Every run is matched by a run of the main loop, so that what was
proved of the one holds of the other.  Within a session it makes no difference to
anything but the file whether the writes succeed.
-/

import NoxIngestor.Persistence.Host

namespace NoxIngestor

/-! ### Only a start reads the file -/

namespace State

variable (s : State) (file : Option PersistedState)

@[simp] theorem withFile_publisher : (s.withFile file).publisher = s.publisher := rfl
@[simp] theorem withFile_nats : (s.withFile file).nats = s.nats := rfl

private theorem settleCursor_withFile :
    (s.withFile file).settleCursor = s.settleCursor.withFile file := by
  change (if s.publisher.isBufferEmpty && decide (s.nextBlock > 0) then _ else _) = _
  unfold settleCursor
  split <;> rfl

private theorem flushSucceeded_withFile :
    (s.withFile file).flushSucceeded = s.flushSucceeded.withFile file :=
  congrArg loopTop (settleCursor_withFile (s.sendPause false) file)

private theorem flushFailed_withFile (caller : FlushCaller) :
    (s.withFile file).flushFailed caller = (s.flushFailed caller).withFile file := by
  cases caller with
  | handleStateChange => exact s.flushSucceeded_withFile file
  | tryResumeIfConnected => rfl

private theorem flushBuffer_withFile (caller : FlushCaller) :
    (s.withFile file).flushBuffer caller = (s.flushBuffer caller).withFile file := by
  unfold flushBuffer
  rw [withFile_publisher]
  rcases s.publisher.drainBuffer with ⟨_ | ⟨message, rest⟩, publisher⟩
  · exact s.flushSucceeded_withFile file
  · rfl

private theorem handleStateChange_withFile :
    (s.withFile file).handleStateChange = s.handleStateChange.withFile file := by
  unfold handleStateChange
  rw [withFile_nats]
  cases s.nats.value with
  | connected => exact s.flushBuffer_withFile file _
  | disconnected => exact congrArg loopTop (settleCursor_withFile (s.sendPause true) file)

private theorem tryResumeIfConnected_withFile :
    (s.withFile file).tryResumeIfConnected = s.tryResumeIfConnected.withFile file := by
  unfold tryResumeIfConnected
  rw [withFile_nats, withFile_publisher, flushBuffer_withFile]
  split
  · rfl
  · split <;> rfl

private theorem pace_withFile (gap : Nat) :
    (s.withFile file).pace gap = (s.pace gap).withFile file := by
  unfold pace
  split <;> rfl

private theorem finishBatch_withFile (latest : Nat) (batch : BatchResult) :
    (s.withFile file).finishBatch latest batch = (s.finishBatch latest batch).withFile file := by
  have moved : ((s.withFile file).advance batch.endBlock).publisher.isBufferEmpty =
      (s.advance batch.endBlock).publisher.isBufferEmpty := rfl
  unfold finishBatch
  simp only [moved]
  rw [← pace_withFile]
  congr 1
  split
  · split <;> rfl
  · rfl

private theorem afterPublish_withFile (latest : Nat) (batch : BatchResult)
    (rest : List TransactionMessage) (result : Publisher × Except NatsError Unit) :
    (s.withFile file).afterPublish latest batch rest result =
      (s.afterPublish latest batch rest result).withFile file := by
  obtain ⟨publisher, outcome⟩ := result
  cases outcome <;> rfl

private theorem nextTransaction_withFile (latest : Nat) (batch : BatchResult)
    (rest : List TransactionMessage) :
    (s.withFile file).nextTransaction latest batch rest =
      (s.nextTransaction latest batch rest).withFile file := by
  cases rest with
  | nil => exact s.finishBatch_withFile file latest batch
  | cons transaction rest =>
      cases full : s.publisher.isBufferFull with
      | true =>
          simp only [nextTransaction, withFile_publisher, full, if_true]
          rfl
      | false =>
          simp only [nextTransaction, withFile_publisher, withFile_nats, full,
            Bool.false_eq_true, if_false]
          cases s.nats.value with
          | connected => rfl
          | disconnected => exact s.afterPublish_withFile file latest batch rest _

end State

private theorem step_published_withFile {deployment : Deployment} (s : State)
    (file : Option PersistedState) (success : Bool) :
    step deployment (s.withFile file) (.published success) =
      (step deployment s (.published success)).map fun next => next.withFile file := by
  have sameTask : (s.withFile file).task = s.task := rfl
  have sameStream : (s.withFile file).jetstream = s.jetstream := rfl
  cases here : s.task with
  | select reading =>
      cases reading with
      | publish latest batch message request rest =>
          simp only [step, sameTask, sameStream, here]
          cases success with
          | false => exact congrArg some (s.afterPublish_withFile file latest batch rest _)
          | true =>
              by_cases received : request ∈ s.jetstream.received
              · simp only [received, if_true]
                exact congrArg some
                  ((s.record (.acked message)).afterPublish_withFile file latest batch rest _)
              · simp only [received, if_true, if_false]
                rfl
      | _ =>
          simp only [step, sameTask, here]
          rfl
  | flush caller message request rest =>
      simp only [step, sameTask, sameStream, here]
      cases success with
      | false =>
          let returned := (s.returnBuffer (message :: rest)).goto
            (.flush caller message request rest)
          exact congrArg some (returned.flushFailed_withFile file caller)
      | true =>
          by_cases received : request ∈ s.jetstream.received
          · simp only [received, if_true]
            cases rest with
            | nil =>
                exact congrArg some ((s.record (.acked message)).flushSucceeded_withFile file)
            | cons next later => rfl
          · simp only [received, if_true, if_false]
            rfl
  | _ =>
      simp only [step, sameTask, here]
      rfl

private theorem step_withFile {deployment : Deployment} (s : State) (file : Option PersistedState)
    {label : Label} (noFile : label.usesFile = false) :
    step deployment (s.withFile file) label =
      (step deployment s label).map fun next => next.withFile file := by
  obtain ⟨_, jetstream, clock, task, nats, seen, publisher, stateStore, batchSize, nextBlock,
    needsDelay, shutdown, liveness, startBlock, trace, past⟩ := s
  cases label with
  | start settings readable events => cases noFile
  | persisted success => cases noFile
  | elapse millis => rfl
  | receive request =>
      simp only [step, State.withFile]
      cases jetstream.receive deployment.natsMsgId deployment.recent clock request <;> rfl
  | handleStateChange =>
      cases task with
      | stateChanged => exact congrArg some (State.handleStateChange_withFile _ file)
      | _ => rfl
  | tryResumeIfConnected =>
      cases task with
      | tryResume => exact congrArg some (State.tryResumeIfConnected_withFile _ file)
      | _ => rfl
  | delayElapsed =>
      cases task with
      | delay => cases shutdown <;> rfl
      | _ => rfl
  | breakLoop =>
      cases task with
      | delay => cases shutdown <;> rfl
      | select reading => cases shutdown <;> cases reading <;> rfl
      | _ => rfl
  | stateChanged =>
      cases task with
      | select reading =>
          cases changed : (reading.isAwait && nats.hasChanged seen) with
          | true =>
              simp only [step, State.withFile, changed, if_true]
              rfl
          | false =>
              simp only [step, State.withFile, changed, Bool.false_eq_true, if_false]
              rfl
      | _ => rfl
  | flushTick =>
      cases task with
      | select reading => cases reading <;> rfl
      | _ => rfl
  | published success => exact step_published_withFile _ file success
  | unpaused =>
      cases task with
      | select reading =>
          cases reading with
          | waitUntilUnpaused =>
              cases waits : publisher.pause with
              | true =>
                  simp only [step, State.withFile, waits, if_true]
                  rfl
              | false =>
                  simp only [step, State.withFile, waits, Bool.false_eq_true, if_false]
                  rfl
          | _ => rfl
      | _ => rfl
  | latestBlock answer =>
      cases task with
      | select reading =>
          cases reading with
          | getLatestBlock =>
              cases answer with
              | error error => rfl
              | ok latest =>
                  by_cases ahead : nextBlock > latest
                  · simp only [step, State.withFile, ahead, if_true]
                    rfl
                  · simp only [step, State.withFile, ahead, if_false]
                    rfl
          | _ => rfl
      | _ => rfl
  | batchRead fetch order =>
      cases task with
      | select reading =>
          cases reading with
          | readBatch latest =>
              simp only [step, State.withFile]
              cases (deployment.reader batchSize).readBatch nextBlock latest fetch order <;> rfl
          | _ => rfl
      | _ => rfl
  | nextTransaction =>
      cases task with
      | select reading =>
          cases reading with
          | publishing latest batch rest =>
              exact congrArg some (State.nextTransaction_withFile _ file latest batch rest)
          | _ => rfl
      | _ => rfl
  | waitElapsed =>
      cases task with
      | select reading =>
          cases reading with
          | waitInterval latest batch rest => cases shutdown <;> rfl
          | _ => rfl
      | _ => rfl
  | _ => cases task <;> rfl

/-! ### Records that say the same -/

/-- The records agree but for the time of writing. -/
def SameRecord (left right : Option PersistedState) : Prop :=
  left.map (fun state => (state.lastBlock, state.chainId)) =
    right.map (fun state => (state.lastBlock, state.chainId))

theorem SameRecord.load {left right : State} (same : SameRecord left.file right.file)
    (readable : Bool) (chainId initialBlock : Nat) :
    StateStore.load (left.fileContent readable) chainId initialBlock =
      StateStore.load (right.fileContent readable) chainId initialBlock := by
  cases readable with
  | false => rfl
  | true =>
      unfold State.fileContent
      cases first : left.file with
      | none =>
          rw [first] at same
          cases second : right.file with
          | none => rfl
          | some state =>
              rw [second] at same
              cases same
      | some state =>
          rw [first] at same
          cases second : right.file with
          | none =>
              rw [second] at same
              cases same
          | some other =>
              rw [second] at same
              obtain ⟨block, chain⟩ := Prod.mk.inj (Option.some.inj same)
              simp only [if_true, StateStore.load, block, chain]

private theorem recordAt_congr {disk other : StateDisk} {path : Path}
    (same : disk.content path = other.content path) :
    recordAt disk path = recordAt other path := by
  unfold recordAt
  rw [same]

private theorem recordAt_persistCall {store : StateStore} (inRange : store.InRange) {path : Path}
    {millis : Nat} {disk : StateDisk}
    (written : disk.content path = some (store.persistCall path millis).json) :
    recordAt disk path = some (store.persistedState (millis % u64Modulus)) := by
  have bound : millis % u64Modulus < 2 ^ 64 := Nat.mod_lt _ (by decide)
  unfold recordAt
  rw [written, StateStore.persistCall_json,
    StateFile.ofContent_toBytes _ (StateStore.persistedState_inRange inRange bound)]

/-! ### The relation -/

/-- The call under way writes the cursor of the loop over the file of the loop. -/
structure Host.Calls (path : Path) (h : Host) (s : State) (call : PersistCall)
    (point : PersistPoint) : Prop where
  persisting : s.task.persisting = true
  captured : ∃ millis, call = s.stateStore.persistCall path millis
  progress : ∃ before : StateDisk,
    SameRecord (recordAt before path) s.file ∧ call.Progress before point h.disk

structure Host.Refines (deployment : Deployment) (path : Path) (h : Host) (s : State) : Prop where
  loop : h.loop.withFile none = s.withFile none
  below : s.Below u64Modulus
  ownChain : s.ledger.OwnChain deployment
  idle : h.call = none → SameRecord (recordAt h.disk path) s.file
  calls : ∀ call point, h.call = some (call, point) → h.Calls path s call point

namespace Host.Calls

variable {path : Path} {h : Host} {s : State} {call : PersistCall} {point : PersistPoint}

theorem outcome (calls : h.Calls path s call point) (inRange : s.stateStore.InRange) :
    ∃ success, SameRecord (recordAt h.disk path) (s.writeFile success).file := by
  obtain ⟨millis, rfl⟩ := calls.captured
  obtain ⟨before, same, progress⟩ := calls.progress
  rcases progress.content with kept | written
  · have kept : h.disk.content path = before.content path := kept
    refine ⟨false, ?_⟩
    rw [recordAt_congr kept]
    exact same
  · have content : h.disk.content path = some (s.stateStore.persistCall path millis).json :=
      written
    refine ⟨true, ?_⟩
    rw [recordAt_persistCall inRange content]
    rfl

theorem returned {success : Bool} (calls : h.Calls path s call (.returned success))
    (inRange : s.stateStore.InRange) :
    SameRecord (recordAt h.disk path) (s.writeFile success).file := by
  obtain ⟨millis, rfl⟩ := calls.captured
  obtain ⟨before, same, progress⟩ := calls.progress
  cases success with
  | true =>
      have content : h.disk.content path = some (s.stateStore.persistCall path millis).json :=
        progress.returned
      rw [recordAt_persistCall inRange content]
      rfl
  | false =>
      have sameAt : h.disk.SameAt path before := progress
      rw [recordAt_congr sameAt.content]
      exact same

end Host.Calls

/-- Where the loop goes once `persist` has returned. -/
def Task.afterPersist : Task → Task
  | .persist => .tryResume
  | _ => .down

private theorem step_persisted {deployment : Deployment} {s : State}
    (persisting : s.task.persisting = true) (success : Bool) :
    step deployment s (.persisted success) =
      some ((s.writeFile success).goto s.task.afterPersist) := by
  cases here : s.task with
  | persist =>
      rw [step, here]
      cases success <;> rfl
  | finalPersist =>
      rw [step, here]
      cases success <;> rfl
  | _ =>
      rw [here] at persisting
      cases persisting

private theorem State.task_alike {s other : State}
    (alike : other.withFile none = s.withFile none) : other.task = s.task := by
  have sameTask : (other.withFile none).task = (s.withFile none).task := congrArg task alike
  exact sameTask

private theorem written_alike {s other : State} (alike : other.withFile none = s.withFile none)
    (left right : Bool) (task : Task) :
    ((other.writeFile left).goto task).withFile none =
      ((s.writeFile right).goto task).withFile none := by
  have kept (state : State) (success : Bool) :
      ((state.writeFile success).goto task).withFile none = (state.withFile none).goto task := by
    cases success <;> rfl
  rw [kept, kept, alike]

theorem step_alike {deployment : Deployment} {s other next : State}
    (alike : other.withFile none = s.withFile none) {label : Label}
    (noFile : label.usesFile = false) (taken : step deployment other label = some next) :
    ∃ later, step deployment s label = some later ∧
      next.withFile none = later.withFile none := by
  have both : step deployment (s.withFile none) label = some (next.withFile none) := by
    rw [← alike, step_withFile other none noFile, taken]
    rfl
  rw [step_withFile s none noFile] at both
  obtain ⟨later, stepped, same⟩ := Option.map_eq_some_iff.mp both
  exact ⟨later, stepped, same.symm⟩

theorem LedgerStep.file_kept {deployment : Deployment} {s after : State} {label : Label}
    (recorded : LedgerStep deployment s label after) (noFile : label.usesFile = false) :
    after.file = s.file := by
  have file : after.file = after.ledger.file := rfl
  rw [file]
  cases recorded with
  | unchanged same => rw [same]; rfl
  | elapsed millis _labelled same => rw [same]; rfl
  | logged events quiet same => rw [same]; rfl
  | succeeded event success same => rw [same]; rfl
  | updated events quiet block reason same => rw [same]; rfl
  | written persists same =>
      cases label with
      | persisted success => cases noFile
      | _ => cases persists
  | restarted readable store startBlock stallThreshold loaded determined next same => rw [same]

/-! ### Each step is matched -/

namespace Host.Refines

variable {deployment : Deployment} {chain : List Log} {path : Path} {h next : Host} {s : State}

/-- The steps of the main loop that an honest run allows. -/
abbrev Follows (deployment : Deployment) (chain : List Log) (s later : State) : Prop :=
  Runs.Leads (NoxIngestor.step deployment)
    (fun _state label => label.Honest deployment.parser chain) s later

theorem storeInRange (refines : h.Refines deployment path s)
    (chainFits : deployment.config.chainId < 2 ^ 32) : s.stateStore.InRange :=
  { chainId := refines.ownChain.store ▸ chainFits
    lastSynced := refines.below.cursor }

private theorem follow (refines : h.Refines deployment path s)
    (initialFits : deployment.config.initialBlock < u64Modulus) {later : State}
    (follows : Follows deployment chain s later)
    (loop : next.loop.withFile none = later.withFile none)
    (idle : next.call = none → SameRecord (recordAt next.disk path) later.file)
    (calls : ∀ call point, next.call = some (call, point) → next.Calls path later call point) :
    next.Refines deployment path later := by
  have kept : later.Below u64Modulus ∧ later.ledger.OwnChain deployment := by
    apply follows.invariant (fun s => s.Below u64Modulus ∧ s.ledger.OwnChain deployment) _
      ⟨refines.below, refines.ownChain⟩
    rintro s label after _ ⟨below, ownChain⟩ taken
    exact ⟨below.step_u64 initialFits (step_transition taken),
      (LedgerStep.of_transition (step_transition taken)).ownChain ownChain⟩
  exact ⟨loop, kept.1, kept.2, idle, calls⟩

private theorem killed (persisting : s.task.persisting = true) (success : Bool) :
    Follows deployment chain s ((s.writeFile success).goto .down) := by
  have taken : NoxIngestor.step deployment s (.persisted success) =
      some ((s.writeFile success).goto s.task.afterPersist) :=
    step_persisted persisting success
  cases here : s.task with
  | finalPersist =>
      rw [here] at taken
      exact .one taken trivial
  | persist =>
      rw [here] at taken
      have crashed : NoxIngestor.step deployment ((s.writeFile success).goto .tryResume) .crash =
          some ((s.writeFile success).goto .down) := rfl
      exact .after taken trivial (.one crashed trivial)
  | _ =>
      rw [here] at persisting
      cases persisting

theorem looped (refines : h.Refines deployment path s)
    (chainFits : deployment.config.chainId < 2 ^ 32)
    (initialFits : deployment.config.initialBlock < u64Modulus) {label : Label} {loop : State}
    (taken : NoxIngestor.step deployment h.loop label = some loop)
    (noFile : label.usesFile = false) (honest : label.Honest deployment.parser chain) :
    ∃ later, Follows deployment chain s later ∧
      Host.Refines deployment path
        { h with
          loop := loop
          call := if loop.task.persisting then h.call else none } later := by
  obtain ⟨later, stepped, alike⟩ := step_alike refines.loop noFile taken
  have moved := step_transition stepped
  have file := (LedgerStep.of_transition moved).file_kept noFile
  have follows : Follows deployment chain s later := .one stepped honest
  cases running : h.call with
  | none =>
      refine ⟨later, follows, refines.follow initialFits follows alike ?_ ?_⟩
      · intro _
        rw [file]
        exact refines.idle running
      · intro call point some
        rw [ite_self] at some
        cases some
  | some current =>
      obtain ⟨call, point⟩ := current
      have calls := refines.calls call point running
      rcases moved.while_persisting noFile calls.persisting with ⟨task, store, _⟩ | ⟨rfl, rfl⟩
      · have persisting : loop.task.persisting = true := by
          rw [State.task_alike alike, task]
          exact calls.persisting
        refine ⟨later, follows, refines.follow initialFits follows alike ?_ ?_⟩
        · intro none
          rw [if_pos persisting] at none
          cases none
        · intro other otherPoint some
          rw [if_pos persisting] at some
          cases some
          obtain ⟨before, same, progress⟩ := calls.progress
          exact ⟨task ▸ calls.persisting, store ▸ calls.captured, before, file ▸ same, progress⟩
      · obtain ⟨success, same⟩ := calls.outcome (refines.storeInRange chainFits)
        have ended : Follows deployment chain s ((s.writeFile success).goto .down) :=
          killed calls.persisting success
        have down : loop.task = .down := State.task_alike alike
        refine ⟨_, ended, refines.follow initialFits ended ?_ (fun _ => same) ?_⟩
        · rw [alike]
          exact written_alike rfl false success .down
        · intro other otherPoint some
          rw [down] at some
          cases some

theorem called (refines : h.Refines deployment path s)
    (persisting : h.loop.task.persisting = true) (free : h.call = none) (millis : Nat) :
    Host.Refines deployment path
      { h with call := some (h.loop.stateStore.persistCall path millis,
          (h.loop.stateStore.persistCall path millis).start) } s := by
  have store : (h.loop.withFile none).stateStore = (s.withFile none).stateStore :=
    congrArg State.stateStore refines.loop
  have store : h.loop.stateStore = s.stateStore := store
  refine ⟨refines.loop, refines.below, refines.ownChain, nofun, ?_⟩
  rintro call point ⟨⟩
  refine ⟨State.task_alike refines.loop ▸ persisting, ⟨millis, by rw [store]⟩, h.disk,
    refines.idle free, PersistCall.start_progress _ h.disk⟩

theorem answered (refines : h.Refines deployment path s) {name : List Char}
    (named : path.fileName = some name) {call : PersistCall} {point after : PersistPoint}
    (running : h.call = some (call, point)) {answer : Answer} {disk : StateDisk}
    (taken : call.step (point, h.disk) answer = some (after, disk)) :
    Host.Refines deployment path
      { h with
        disk := disk
        call := some (call, after) } s := by
  have calls := refines.calls call point running
  obtain ⟨before, same, progress⟩ := calls.progress
  have samePath : call.path = path := by
    obtain ⟨millis, rfl⟩ := calls.captured
    rfl
  have advanced := PersistCall.progress_move (samePath ▸ named) progress
    (PersistCall.step_move taken)
  refine ⟨refines.loop, refines.below, refines.ownChain, nofun, ?_⟩
  rintro other otherPoint ⟨⟩
  exact ⟨calls.persisting, calls.captured, before, same, advanced⟩

theorem ended (refines : h.Refines deployment path s)
    (initialFits : deployment.config.initialBlock < u64Modulus) {call : PersistCall}
    {point : PersistPoint} (running : h.call = some (call, point)) {told success : Bool}
    (same : SameRecord (recordAt h.disk path) (s.writeFile success).file) {loop : State}
    (taken : NoxIngestor.step deployment h.loop (.persisted told) = some loop) :
    ∃ later, Follows deployment chain s later ∧
      Host.Refines deployment path
        { h with
          loop := loop
          call := none } later := by
  have persisting := (refines.calls call point running).persisting
  have sameTask := State.task_alike refines.loop
  have alike := written_alike refines.loop told success s.task.afterPersist
  rw [step_persisted (sameTask ▸ persisting) told, sameTask] at taken
  cases taken
  have follows : Follows deployment chain s
      ((s.writeFile success).goto s.task.afterPersist) :=
    .one (step_persisted persisting success) trivial
  exact ⟨_, follows, refines.follow initialFits follows alike (fun _ => same) nofun⟩

theorem restarted (refines : h.Refines deployment path s)
    (initialFits : deployment.config.initialBlock < u64Modulus) {settings : Settings}
    {readable : Bool} {events : List ConnectionState} {loop : State}
    (taken : NoxIngestor.step deployment (h.loop.withFile (recordAt h.disk path))
      (.start settings readable events) = some loop) :
    ∃ later, Follows deployment chain s later ∧
      Host.Refines deployment path
        { h with
          loop := loop
          call := none } later := by
  have down : h.loop.task = .down := by
    cases step_transition taken with
    | start _ _ _ store startBlock here loaded determined => exact here
    | flushStarted caller message later here connected buffered labelled =>
        cases caller <;> cases labelled
    | retried _ reading here retry => cases retry
  have sameTask := State.task_alike refines.loop
  have free : h.call = none := by
    cases running : h.call with
    | none => rfl
    | some current =>
        have persisting := (refines.calls current.1 current.2 running).persisting
        rw [← sameTask, down] at persisting
        cases persisting
  have same := refines.idle free
  obtain ⟨store, startBlock, loaded, determined, rfl⟩ := (step_transition taken).of_start
  have alsoLoaded : StateStore.load (s.fileContent readable) deployment.config.chainId
      deployment.config.initialBlock = .ok store := by
    rw [← loaded]
    have recorded : SameRecord s.file (h.loop.withFile (recordAt h.disk path)).file := same.symm
    exact recorded.load readable _ _
  have follows : Follows deployment chain s
      (s.startSession settings events store startBlock) :=
    .one (step_start (sameTask ▸ down) alsoLoaded determined settings events) trivial
  have commutes (state : State) (file : Option PersistedState) :
      ((state.withFile file).startSession settings events store startBlock).withFile none =
        (state.withFile none).startSession settings events store startBlock := rfl
  have alike : ((h.loop.withFile (recordAt h.disk path)).startSession settings events store
      startBlock).withFile none =
        (s.startSession settings events store startBlock).withFile none := by
    rw [commutes, refines.loop]
    rfl
  exact ⟨_, follows, refines.follow initialFits follows alike (fun _ => same) nofun⟩

theorem step (refines : h.Refines deployment path s) {name : List Char}
    (named : path.fileName = some name) (chainFits : deployment.config.chainId < 2 ^ 32)
    (initialFits : deployment.config.initialBlock < u64Modulus) {label : HostLabel}
    (powered : label.isPowerFailure = false) (honest : label.Honest deployment.parser chain)
    (taken : h.step deployment path label = some next) :
    ∃ later, Follows deployment chain s later ∧ next.Refines deployment path later := by
  cases label with
  | loop label =>
      rw [Host.step, Option.ite_none_left_eq_some] at taken
      obtain ⟨noFile, taken⟩ := taken
      obtain ⟨loop, looped, rfl⟩ := Option.map_eq_some_iff.mp taken
      exact refines.looped chainFits initialFits looped (Bool.eq_false_of_not_eq_true noFile)
        honest
  | called =>
      cases running : h.call with
      | some call =>
          rw [Host.step, running] at taken
          cases taken
      | none =>
          rw [Host.step, running] at taken
          obtain ⟨persisting, same⟩ := Option.ite_none_right_eq_some.mp taken
          cases same
          exact ⟨s, .refl, refines.called persisting running h.loop.clock⟩
  | answer answer =>
      cases running : h.call with
      | none =>
          rw [Host.step, running] at taken
          cases taken
      | some current =>
          rw [Host.step, running] at taken
          obtain ⟨after, answered, rfl⟩ := Option.map_eq_some_iff.mp taken
          exact ⟨s, .refl, refines.answered named running answered⟩
  | returned =>
      rw [Host.step] at taken
      split at taken
      · rename_i call success running
        obtain ⟨loop, ended, rfl⟩ := Option.map_eq_some_iff.mp taken
        have same := (refines.calls call _ running).returned (refines.storeInRange chainFits)
        exact refines.ended initialFits running same ended
      · cases taken
  | timedOut =>
      rw [Host.step] at taken
      split at taken
      · rename_i current here running
        obtain ⟨loop, ended, rfl⟩ := Option.map_eq_some_iff.mp taken
        obtain ⟨success, same⟩ :=
          (refines.calls current.1 current.2 running).outcome (refines.storeInRange chainFits)
        exact refines.ended initialFits running same ended
      · cases taken
  | start settings readable events =>
      obtain ⟨loop, started, rfl⟩ := Option.map_eq_some_iff.mp taken
      exact refines.restarted initialFits started
  | powerFailure left => cases powered

theorem initial (initialFits : deployment.config.initialBlock < u64Modulus) {disk : StateDisk}
    (vacant : disk.content path = none) :
    (Host.initial deployment disk).Refines deployment path (State.initial deployment) := by
  refine ⟨rfl, .initial initialFits, ⟨rfl, fun _state none => nomatch none⟩, fun _ => ?_, nofun⟩
  have absent : recordAt disk path = none := by
    unfold recordAt
    rw [vacant]
    rfl
  exact congrArg (Option.map _) absent

end Host.Refines

/-- As long as the power lasts, what the loop and its disk do is what the main loop does,
with one write or none for each call; between calls they have the same record. -/
theorem host_refines_loop {deployment : Deployment} {chain : List Log} {path : Path}
    {name : List Char} (named : path.fileName = some name)
    (chainFits : deployment.config.chainId < 2 ^ 32)
    (initialFits : deployment.config.initialBlock < u64Modulus) {disk : StateDisk}
    (vacant : disk.content path = none) {labels : List HostLabel} {h : Host}
    (reached : Runs.run (Host.step deployment path) (Host.initial deployment disk) labels =
      some h)
    (powered : ∀ label ∈ labels, label.isPowerFailure = false)
    (honest : ∀ label ∈ labels, label.Honest deployment.parser chain) :
    ∃ loopLabels s, Reaches deployment loopLabels s ∧
      (∀ label ∈ loopLabels, label.Honest deployment.parser chain) ∧
      h.loop.withFile none = s.withFile none ∧
      (h.call = none → SameRecord (recordAt h.disk path) s.file) ∧
      ∃ success, SameRecord (recordAt h.disk path) (s.writeFile success).file := by
  have allowed : ∀ label ∈ labels, label.isPowerFailure = false ∧
      label.Honest deployment.parser chain :=
    fun label member => ⟨powered label member, honest label member⟩
  have start : Host.Refines deployment path (Host.initial deployment disk)
      (State.initial deployment) := .initial initialFits vacant
  obtain ⟨s, follows, refines⟩ :
      ∃ s, Host.Refines.Follows deployment chain (State.initial deployment) s ∧
        h.Refines deployment path s := by
    apply Runs.run_simulates _ allowed start reached
    rintro current label next s ⟨powered, honest⟩ refines taken
    exact refines.step named chainFits initialFits powered honest taken
  obtain ⟨loopLabels, honestly, ends⟩ := follows.labels
  refine ⟨loopLabels, s, ends, honestly, refines.loop, refines.idle, ?_⟩
  cases running : h.call with
  | none => exact ⟨false, refines.idle running⟩
  | some current =>
      exact (refines.calls current.1 current.2 running).outcome (refines.storeInRange chainFits)

/-- The process is killed between the rename and the return of the call. -/
def Sample.killedAfterRename : List HostLabel := Sample.hostRename ++ [.loop .crash]

theorem host_refines_loop_killedAfterRename :
    ∃ h loopLabels s, Runs.run (Host.step Sample.deployment Sample.statePath)
        (Host.initial Sample.deployment Sample.emptyDisk) Sample.killedAfterRename = some h ∧
      h.loop.nextBlock = 102 ∧ Reaches Sample.deployment loopLabels s ∧
      h.loop.withFile none = s.withFile none ∧
      SameRecord (recordAt h.disk Sample.statePath) s.file := by
  have ends : (Runs.run (Host.step Sample.deployment Sample.statePath)
      (Host.initial Sample.deployment Sample.emptyDisk) Sample.killedAfterRename).map
        (fun h => (h.loop.nextBlock, h.call.isNone)) = some (102, true) := by
    decide +kernel
  obtain ⟨h, reached, values⟩ := Option.map_eq_some_iff.mp ends
  obtain ⟨next, idle⟩ := Prod.mk.inj values
  have powered : Sample.killedAfterRename.all (fun label => !label.isPowerFailure) = true := rfl
  have honest : ∀ label ∈ Sample.killedAfterRename,
      label.Honest Sample.deployment.parser Sample.chain := by
    refine List.forall_mem_append.mpr ⟨Sample.hostRename_honest, ?_⟩
    simp only [List.forall_mem_cons, HostLabel.Honest, Label.Honest, List.not_mem_nil,
      IsEmpty.forall_iff, implies_true, and_true]
  obtain ⟨loopLabels, s, looped, _, same, recorded, _⟩ :=
    host_refines_loop Sample.statePath_named (by decide) (by decide) rfl reached
      (fun label member => (Bool.not_eq_true' _).mp (List.all_eq_true.mp powered label member))
      honest
  exact ⟨h, loopLabels, s, reached, next, looped, same,
    recorded (Option.isNone_iff_eq_none.mp idle)⟩

/-! ### A disk that fails -/

/-- The label without whether the file could be written. -/
def Label.unwritten : Label → Label
  | .persisted _success => .persisted false
  | label => label

private theorem Label.unwritten_cases {label other : Label}
    (alike : label.unwritten = other.unwritten)
    (session : label.isStart = false) :
    (∃ left right, label = .persisted left ∧ other = .persisted right) ∨
      (label = other ∧ label.usesFile = false) := by
  cases label with
  | start settings readable events => cases session
  | persisted left =>
      cases other with
      | persisted right => exact .inl ⟨left, right, rfl, rfl⟩
      | _ => cases alike
  | _ =>
      cases other with
      | persisted right => cases alike
      | _ => exact .inr ⟨alike, rfl⟩

private theorem persisting_of_persisted {deployment : Deployment} {s next : State} {success : Bool}
    (taken : step deployment s (.persisted success) = some next) : s.task.persisting = true := by
  cases here : s.task with
  | persist => rfl
  | finalPersist => rfl
  | _ =>
      rw [step, here] at taken
      cases taken

theorem step_unwritten {deployment : Deployment} {s other next : State}
    (alike : other.withFile none = s.withFile none) {label written : Label}
    (same : label.unwritten = written.unwritten) (session : label.isStart = false)
    (taken : step deployment s label = some next) :
    ∃ later, step deployment other written = some later ∧
      later.withFile none = next.withFile none := by
  rcases Label.unwritten_cases same session with ⟨left, right, rfl, rfl⟩ | ⟨rfl, noFile⟩
  · have persisting := persisting_of_persisted taken
    have stillPersisting : other.task.persisting = true :=
      (congrArg Task.persisting (State.task_alike alike)).trans persisting
    rw [step_persisted persisting] at taken
    cases taken
    refine ⟨_, step_persisted stillPersisting right, ?_⟩
    rw [State.task_alike alike]
    exact written_alike alike right left _
  · obtain ⟨later, stepped, kept⟩ := step_alike alike.symm noFile taken
    exact ⟨later, stepped, kept.symm⟩

/-- A session that can do its steps can do them as well when other writes of its file
succeed, and ends in the same state except for the file. -/
theorem disk_disturbs_nothing {deployment : Deployment} {s other final : State}
    (alike : other.withFile none = s.withFile none) {labels written : List Label}
    (same : labels.map Label.unwritten = written.map Label.unwritten)
    (session : ∀ label ∈ labels, label.isStart = false)
    (reached : Runs.run (step deployment) s labels = some final) :
    ∃ later, Runs.run (step deployment) other written = some later ∧
      later.withFile none = final.withFile none := by
  induction labels generalizing s other written with
  | nil =>
      cases reached
      rw [List.map_nil] at same
      rw [List.map_eq_nil_iff.mp same.symm]
      exact ⟨other, rfl, alike⟩
  | cons label rest ih =>
      obtain ⟨next, taken, ends⟩ := Runs.run_cons.mp reached
      rw [List.map_cons] at same
      obtain ⟨outcome, remaining, rfl, first, others⟩ := List.map_eq_cons_iff.mp same.symm
      obtain ⟨sameSession, laterSession⟩ := List.forall_mem_cons.mp session
      obtain ⟨middle, stepped, stillAlike⟩ := step_unwritten alike first.symm sameSession taken
      obtain ⟨later, done, kept⟩ := ih stillAlike others.symm laterSession ends
      exact ⟨later, Runs.run_cons.mpr ⟨middle, stepped, done⟩, kept⟩

/-- A flush tick comes after the first transaction of the batch. -/
def Sample.tickedSession (success : Bool) : List Label :=
  [.stateChanged, .handleStateChange, .unpaused, .latestBlock (.ok 101), Sample.read,
    .nextTransaction, .receive 0, .published true, .nextTransaction, .flushTick,
    .persisted success, .tryResumeIfConnected]

theorem disk_disturbs_nothing_tickedSession :
    ∃ s final later, Reaches Sample.deployment [.start Sample.settings true [.connected]] s ∧
      Runs.run (step Sample.deployment) s (Sample.tickedSession true) = some final ∧
        Runs.run (step Sample.deployment) s (Sample.tickedSession false) = some later ∧
          final.file.isSome = true ∧ later.withFile none = final.withFile none := by
  have ends : (Runs.run (step Sample.deployment) (State.initial Sample.deployment)
      [.start Sample.settings true [.connected]]).bind (fun s =>
        (Runs.run (step Sample.deployment) s (Sample.tickedSession true)).map fun final =>
          final.file.isSome) = some true := by
    decide +kernel
  obtain ⟨s, reached, continued⟩ := Option.bind_eq_some_iff.mp ends
  obtain ⟨final, ticked, saved⟩ := Option.map_eq_some_iff.mp continued
  have session : (Sample.tickedSession true).all (fun label => !label.isStart) = true := rfl
  have same : (Sample.tickedSession true).map Label.unwritten =
      (Sample.tickedSession false).map Label.unwritten := rfl
  obtain ⟨later, failed, alike⟩ := disk_disturbs_nothing rfl same
    (fun label member => (Bool.not_eq_true' _).mp (List.all_eq_true.mp session label member))
    ticked
  exact ⟨s, final, later, reached, ticked, failed, saved, alike⟩

end NoxIngestor
