/-
The loop together with its disk.

Persisting runs operation by operation while the rest of the world goes on.  The
process may be killed and the machine may lose power at any point of it; a power
failure leaves at the path whatever the disk may keep, and the next start reads
that.
-/

import NoxIngestor.Ceiling
import NoxIngestor.Cursor
import NoxIngestor.Persistence.Durability

namespace NoxIngestor

/-! ### The loop and its disk -/

/-- The record at the path, if there is one that can be read. -/
def recordAt (disk : StateDisk) (path : Path) : Option PersistedState :=
  match StateFile.ofContent (disk.content path) with
  | .parsed state => some state
  | _ => none

def State.withFile (s : State) (file : Option PersistedState) : State :=
  { s with file := file }

theorem load_recordAt (disk : StateDisk) (path : Path) (s : State) (readable : Bool)
    (chainId initialBlock : Nat) :
    StateStore.load ((s.withFile (recordAt disk path)).fileContent readable) chainId
        initialBlock =
      StateStore.load (if readable then StateFile.ofContent (disk.content path) else .unreadable)
        chainId initialBlock := by
  cases readable with
  | false => rfl
  | true =>
      unfold State.fileContent State.withFile recordAt
      cases StateFile.ofContent (disk.content path) <;> rfl

def Task.persisting : Task → Bool
  | .persist => true
  | .finalPersist => true
  | _ => false

/-- The loop, the disk, and the call of `persist` that is under way. -/
structure Host where
  loop : State
  disk : StateDisk
  call : Option (PersistCall × PersistPoint)

inductive HostLabel
  /-- A step of the loop that has nothing to do with the file. -/
  | loop (label : Label)
  | called
  | answer (answer : Answer)
  | returned
  /-- The final call takes too long and is dropped. -/
  | timedOut
  | start (settings : Settings) (readable : Bool) (events : List ConnectionState)
  /-- The machine goes down; the label has what is left at each path. -/
  | powerFailure (left : Path → Option ByteArray)

def HostLabel.isPowerFailure : HostLabel → Bool
  | .powerFailure _left => true
  | _ => false

/-- These steps write or read the file. -/
def Label.usesFile : Label → Bool
  | .start _settings _readable _events => true
  | .persisted _success => true
  | _ => false

/-- What a crash may leave is found out by comparing bytes. -/
instance (disk : StateDisk) (path : Path) (found : Option ByteArray) :
    Decidable (disk.FoundAfterCrash path found) :=
  @Disk.FoundAfterCrash.decidable Path ByteArray ByteArray.decEq disk path found

namespace Host

def initial (deployment : Deployment) (disk : StateDisk) : Host :=
  { loop := State.initial deployment
    disk := disk
    call := none }

def step (deployment : Deployment) (path : Path) (h : Host) : HostLabel → Option Host
  | .loop label =>
      if label.usesFile then none
      else
        (NoxIngestor.step deployment h.loop label).map fun next =>
          { h with
            loop := next
            call := if next.task.persisting then h.call else none }
  | .called =>
      match h.call with
      | some _call => none
      | none =>
          if h.loop.task.persisting then
            let call := h.loop.stateStore.persistCall path h.loop.clock
            some { h with call := some (call, call.start) }
          else none
  | .answer answer =>
      match h.call with
      | some (call, point) =>
          (call.step (point, h.disk) answer).map fun next =>
            { h with
              disk := next.2
              call := some (call, next.1) }
      | none => none
  | .returned =>
      match h.call with
      | some (_call, .returned success) =>
          (NoxIngestor.step deployment h.loop (.persisted success)).map fun next =>
            { h with
              loop := next
              call := none }
      | _ => none
  | .timedOut =>
      match h.loop.task, h.call with
      | .finalPersist, some _call =>
          (NoxIngestor.step deployment h.loop (.persisted false)).map fun next =>
            { h with
              loop := next
              call := none }
      | _, _ => none
  | .start settings readable events =>
      (NoxIngestor.step deployment (h.loop.withFile (recordAt h.disk path))
        (.start settings readable events)).map fun next =>
          { h with
            loop := next
            call := none }
  | .powerFailure left =>
      if h.disk.FoundAfterCrash path (left path) then
        some
          { loop := h.loop.goto .down
            disk := Disk.afterCrash left
            call := none }
      else none

end Host

def HostLabel.Honest (parser : NoxEventParser) (chain : List Log) : HostLabel → Prop
  | .loop label => label.Honest parser chain
  | _ => True

/-- A store that was not loaded is written only when the transactions of the
initial block have been acknowledged. -/
def Host.FirstBlockDelivered (deployment : Deployment) (chain : List Log) (h : Host) :
    HostLabel → Prop
  | .called => h.loop.stateStore.wasLoadedFromFile = false →
      deployment.parser.CarriedBy chain deployment.config.initialBlock
        (deployment.config.initialBlock + 1) h.loop.delivered
  | _ => True

instance (deployment : Deployment) (chain : List Log) (h : Host) (label : HostLabel) :
    Decidable (h.FirstBlockDelivered deployment chain label) :=
  match label with
  | .called => inferInstanceAs (Decidable (_ → NoxEventParser.CarriedBy _ _ _ _ _))
  | .loop _ | .answer _ | .returned | .timedOut | .start _ _ _ | .powerFailure _ =>
      isTrue trivial

/-! ### Records that keep their promise -/

/-- The record is one of this chain, and what it calls processed has been delivered. -/
structure PersistedState.Truthful (deployment : Deployment) (chain : List Log)
    (delivered : List TransactionMessage) (state : PersistedState) : Prop where
  chainId : state.chainId = deployment.config.chainId
  fits : state.lastBlock < u64Modulus
  carried : deployment.parser.CarriedBy chain deployment.config.initialBlock
    (state.lastBlock + 1) delivered

/-- No file at all, or a whole record that is truthful. -/
def Trustworthy (deployment : Deployment) (chain : List Log)
    (delivered : List TransactionMessage) (found : Option ByteArray) : Prop :=
  found = none ∨
    ∃ state, StateFile.ofContent found = .parsed state ∧
      state.Truthful deployment chain delivered

section Trust

variable {deployment : Deployment} {chain : List Log} {delivered more : List TransactionMessage}

theorem Trustworthy.mono {found : Option ByteArray}
    (trustworthy : Trustworthy deployment chain delivered found)
    (kept : ∀ message ∈ delivered, message ∈ more) :
    Trustworthy deployment chain more found := by
  rcases trustworthy with absent | ⟨state, parsed, truthful⟩
  · exact .inl absent
  · exact .inr ⟨state, parsed, truthful.chainId, truthful.fits, truthful.carried.mono kept⟩

theorem Trustworthy.recorded {disk : StateDisk} {path : Path}
    (trustworthy : Trustworthy deployment chain delivered (disk.content path))
    {state : PersistedState} (recorded : recordAt disk path = some state) :
    state.Truthful deployment chain delivered := by
  unfold recordAt at recorded
  rcases trustworthy with absent | ⟨found, parsed, truthful⟩
  · rw [absent] at recorded
    cases recorded
  · rw [parsed] at recorded
    cases recorded
    exact truthful

end Trust

/-! ### The invariant -/

/-- The call under way has a truthful record to write, over trustworthy files. -/
structure Host.Writes (deployment : Deployment) (chain : List Log) (path : Path) (h : Host)
    (call : PersistCall) (point : PersistPoint) : Prop where
  samePath : call.path = path
  persisting : h.loop.task.persisting = true
  allowed : h.loop.stateStore.wasLoadedFromFile = false →
    deployment.parser.CarriedBy chain deployment.config.initialBlock
      (deployment.config.initialBlock + 1) h.loop.delivered
  json : Trustworthy deployment chain h.loop.delivered (some call.json)
  progress : ∃ before : StateDisk,
    (∀ found, before.FoundAfterCrash path found →
      Trustworthy deployment chain h.loop.delivered found) ∧
    call.Progress before point h.disk

structure Host.Kept (deployment : Deployment) (chain : List Log) (path : Path) (h : Host) :
    Prop where
  accounted : Accounted deployment chain h.loop
  durable : Durable deployment chain h.loop.ledger
  below : h.loop.Below u64Modulus
  ownChain : h.loop.ledger.OwnChain deployment
  found : ∀ found, h.disk.FoundAfterCrash path found →
    Trustworthy deployment chain h.loop.delivered found
  writes : ∀ call point, h.call = some (call, point) →
    h.Writes deployment chain path call point

theorem Transition.while_persisting {deployment : Deployment} {s after : State} {label : Label}
    (moved : Transition deployment s label after) (noFile : label.usesFile = false)
    (persisting : s.task.persisting = true) :
    (after.task = s.task ∧ after.stateStore = s.stateStore ∧ after.file = s.file) ∨
      (label = .crash ∧ after = s.goto .down) := by
  cases moved with
  | elapse millis => exact .inl ⟨rfl, rfl, rfl⟩
  | natsEvent state up => exact .inl ⟨rfl, rfl, rfl⟩
  | receive request jetstream received => exact .inl ⟨rfl, rfl, rfl⟩
  | shutdownSignal up => exact .inl ⟨rfl, rfl, rfl⟩
  | retried label reading here retry => exact .inl ⟨rfl, rfl, rfl⟩
  | crash up => exact .inr ⟨rfl, rfl⟩
  | start settings readable events store startBlock here loaded determined => cases noFile
  | persisted success here => cases noFile
  | finalPersisted success here => cases noFile
  | flushStarted caller message later here connected buffered labelled =>
      rw [here] at persisting
      cases caller <;> cases persisting
  | _ => simp_all only [Task.persisting, Bool.false_eq_true]

theorem Accounted.withFile {deployment : Deployment} {chain : List Log} {s : State}
    (accounted : Accounted deployment chain s) (file : Option PersistedState) :
    Accounted deployment chain (s.withFile file) := by
  obtain ⟨⟨⟨seenSent, room, due⟩, inHand⟩, covered, updates⟩ := accounted
  exact ⟨⟨⟨seenSent, room, due⟩, inHand⟩, covered, updates⟩

theorem Host.Writes.moved {deployment : Deployment} {chain : List Log} {path : Path}
    {h next : Host} {call : PersistCall} {point : PersistPoint}
    (writes : h.Writes deployment chain path call point) (disk : next.disk = h.disk)
    (store : next.loop.stateStore = h.loop.stateStore)
    (persisting : next.loop.task.persisting = true)
    (kept : ∀ message ∈ h.loop.delivered, message ∈ next.loop.delivered) :
    next.Writes deployment chain path call point := by
  obtain ⟨before, held, progress⟩ := writes.progress
  constructor
  · exact writes.samePath
  · exact persisting
  · rw [store]
    exact fun fresh => (writes.allowed fresh).mono kept
  · exact writes.json.mono kept
  · exact ⟨before, fun found left => (held found left).mono kept, disk ▸ progress⟩

namespace Host.Kept

variable {deployment : Deployment} {chain : List Log} {path : Path} {h next : Host}

theorem storeInRange (kept : h.Kept deployment chain path)
    (chainFits : deployment.config.chainId < 2 ^ 32) : h.loop.stateStore.InRange :=
  { chainId := kept.ownChain.store ▸ chainFits
    lastSynced := kept.below.cursor }

theorem json (kept : h.Kept deployment chain path)
    (chainFits : deployment.config.chainId < 2 ^ 32)
    (allowed : h.FirstBlockDelivered deployment chain .called) (millis : Nat) :
    Trustworthy deployment chain h.loop.delivered
      (some (h.loop.stateStore.persistCall path millis).json) := by
  have bound : millis % u64Modulus < 2 ^ 64 := Nat.mod_lt _ (by decide)
  refine .inr ⟨h.loop.stateStore.persistedState (millis % u64Modulus), ?_, ?_⟩
  · rw [StateStore.persistCall_json]
    exact StateFile.ofContent_toBytes _
      (StateStore.persistedState_inRange (kept.storeInRange chainFits) bound)
  · refine ⟨kept.ownChain.store, kept.below.cursor, ?_⟩
    cases fromFile : h.loop.stateStore.fromFile with
    | true => exact kept.durable.loaded fromFile
    | false => exact NoxEventParser.CarriedBy.join (allowed fromFile) kept.durable.fresh

private theorem transition (kept : h.Kept deployment chain path)
    (initialFits : deployment.config.initialBlock < u64Modulus) {label : Label} {loop : State}
    (moved : Transition deployment h.loop label loop)
    (honest : label.Honest deployment.parser chain)
    (allowed : NoxIngestor.FirstBlockDelivered deployment chain h.loop label)
    {call : Option (PersistCall × PersistPoint)}
    (writes : ∀ current point, call = some (current, point) →
      Host.Writes deployment chain path { h with loop := loop } current point) :
    Host.Kept deployment chain path { loop := loop, disk := h.disk, call := call } := by
  have recorded := LedgerStep.of_transition moved
  have accounted := kept.accounted.step moved honest
  constructor
  · exact accounted
  · exact kept.durable.step recorded accounted.updates allowed
  · exact kept.below.step_u64 initialFits moved
  · exact recorded.ownChain kept.ownChain
  · exact fun found left => (kept.found found left).mono recorded.delivered
  · intro current point running
    obtain ⟨samePath, persisting, allowed, json, progress⟩ := writes current point running
    exact ⟨samePath, persisting, allowed, json, progress⟩

theorem looped (kept : h.Kept deployment chain path)
    (initialFits : deployment.config.initialBlock < u64Modulus) {label : Label} {loop : State}
    (moved : Transition deployment h.loop label loop) (noFile : label.usesFile = false)
    (honest : label.Honest deployment.parser chain) :
    Host.Kept deployment chain path
      { h with
        loop := loop
        call := if loop.task.persisting then h.call else none } := by
  have allowed : NoxIngestor.FirstBlockDelivered deployment chain h.loop label := by
    intro persists
    cases label with
    | persisted success => cases noFile
    | _ => cases persists
  apply kept.transition initialFits moved honest allowed
  intro call point running
  rw [Option.ite_none_right_eq_some] at running
  obtain ⟨persisting, running⟩ := running
  have writes := kept.writes call point running
  rcases moved.while_persisting noFile writes.persisting with ⟨_, store, _⟩ | ⟨_, down⟩
  · exact writes.moved rfl store persisting (LedgerStep.of_transition moved).delivered
  · rw [down] at persisting
    cases persisting

theorem called (kept : h.Kept deployment chain path)
    (chainFits : deployment.config.chainId < 2 ^ 32)
    (persisting : h.loop.task.persisting = true)
    (allowed : h.FirstBlockDelivered deployment chain .called) (millis : Nat) :
    Host.Kept deployment chain path
      { h with call := some (h.loop.stateStore.persistCall path millis,
          (h.loop.stateStore.persistCall path millis).start) } := by
  refine ⟨kept.accounted, kept.durable, kept.below, kept.ownChain, kept.found, ?_⟩
  rintro call point ⟨⟩
  exact ⟨rfl, persisting, allowed, kept.json chainFits allowed millis, h.disk, kept.found,
    PersistCall.start_progress _ h.disk⟩

theorem answered (kept : h.Kept deployment chain path) {name : List Char}
    (named : path.fileName = some name) {call : PersistCall} {point after : PersistPoint}
    (running : h.call = some (call, point)) {answer : Answer} {disk : StateDisk}
    (taken : call.step (point, h.disk) answer = some (after, disk)) :
    Host.Kept deployment chain path
      { h with
        disk := disk
        call := some (call, after) } := by
  obtain ⟨rfl, persisting, allowed, json, before, held, progress⟩ :=
    kept.writes call point running
  have advanced := PersistCall.progress_move named progress (PersistCall.step_move taken)
  refine ⟨kept.accounted, kept.durable, kept.below, kept.ownChain, ?_, ?_⟩
  · intro found left
    rcases advanced.found left with old | rfl
    · exact held found old
    · exact json
  · rintro current point ⟨⟩
    exact ⟨rfl, persisting, allowed, json, before, held, advanced⟩

theorem ended (kept : h.Kept deployment chain path)
    (initialFits : deployment.config.initialBlock < u64Modulus) {call : PersistCall}
    {point : PersistPoint} (running : h.call = some (call, point)) {success : Bool}
    {loop : State} (moved : Transition deployment h.loop (.persisted success) loop) :
    Host.Kept deployment chain path
      { h with
        loop := loop
        call := none } :=
  kept.transition initialFits moved trivial
    (fun _persists => (kept.writes call point running).allowed) nofun

theorem restarted (kept : h.Kept deployment chain path)
    (initialFits : deployment.config.initialBlock < u64Modulus) {settings : Settings}
    {readable : Bool} {events : List ConnectionState} {loop : State}
    (moved : Transition deployment (h.loop.withFile (recordAt h.disk path))
      (.start settings readable events) loop) :
    Host.Kept deployment chain path
      { h with
        loop := loop
        call := none } := by
  have truthful (state : PersistedState) (recorded : recordAt h.disk path = some state) :
      state.Truthful deployment chain h.loop.delivered :=
    (kept.found _ (h.disk.found_content path)).recorded recorded
  have reading : Host.Kept deployment chain path
      { h with
        loop := h.loop.withFile (recordAt h.disk path)
        call := none } := by
    constructor
    · exact kept.accounted.withFile _
    · exact ⟨kept.durable.started, fun state recorded => (truthful state recorded).carried,
        kept.durable.loaded, kept.durable.fresh⟩
    · exact ⟨kept.below.next, kept.below.cursor, kept.below.batch,
        fun state recorded => (truthful state recorded).fits⟩
    · exact ⟨kept.ownChain.store, fun state recorded => (truthful state recorded).chainId⟩
    · exact kept.found
    · exact nofun
  exact reading.transition initialFits moved trivial (fun persists => nomatch persists) nofun

theorem failed (kept : h.Kept deployment chain path) {left : Path → Option ByteArray}
    (possible : h.disk.FoundAfterCrash path (left path)) :
    Host.Kept deployment chain path
      { loop := h.loop.goto .down
        disk := Disk.afterCrash left
        call := none } := by
  have down : Accounted deployment chain (h.loop.goto .down) := by
    by_cases up : h.loop.task = .down
    · have same : h.loop.goto .down = h.loop := by
        rw [← up]
        rfl
      rw [same]
      exact kept.accounted
    · exact kept.accounted.step (.crash up) trivial
  constructor
  · exact down
  · exact kept.durable
  · exact kept.below.kept rfl rfl rfl (.inl rfl)
  · exact kept.ownChain
  · intro found later
    rw [Disk.found_afterCrash later]
    exact kept.found _ possible
  · exact nofun

theorem step (kept : h.Kept deployment chain path) {name : List Char}
    (named : path.fileName = some name) (chainFits : deployment.config.chainId < 2 ^ 32)
    (initialFits : deployment.config.initialBlock < u64Modulus) {label : HostLabel}
    (taken : h.step deployment path label = some next)
    (honest : label.Honest deployment.parser chain)
    (allowed : h.FirstBlockDelivered deployment chain label) :
    next.Kept deployment chain path := by
  cases label with
  | loop label =>
      rw [Host.step, Option.ite_none_left_eq_some] at taken
      obtain ⟨noFile, taken⟩ := taken
      obtain ⟨loop, moved, rfl⟩ := Option.map_eq_some_iff.mp taken
      exact kept.looped initialFits (step_transition moved) (Bool.eq_false_of_not_eq_true noFile)
        honest
  | called =>
      cases running : h.call with
      | some call =>
          rw [Host.step, running] at taken
          cases taken
      | none =>
          rw [Host.step, running] at taken
          obtain ⟨persisting, same⟩ := Option.ite_none_right_eq_some.mp taken
          cases same
          exact kept.called chainFits persisting allowed h.loop.clock
  | answer answer =>
      cases running : h.call with
      | none =>
          rw [Host.step, running] at taken
          cases taken
      | some current =>
          rw [Host.step, running] at taken
          obtain ⟨after, answered, rfl⟩ := Option.map_eq_some_iff.mp taken
          exact kept.answered named running answered
  | returned =>
      rw [Host.step] at taken
      split at taken
      · rename_i call success running
        obtain ⟨loop, moved, rfl⟩ := Option.map_eq_some_iff.mp taken
        exact kept.ended initialFits running (step_transition moved)
      · cases taken
  | timedOut =>
      rw [Host.step] at taken
      split at taken
      · rename_i call here running
        obtain ⟨loop, moved, rfl⟩ := Option.map_eq_some_iff.mp taken
        exact kept.ended initialFits running (step_transition moved)
      · cases taken
  | start settings readable events =>
      obtain ⟨loop, moved, rfl⟩ := Option.map_eq_some_iff.mp taken
      exact kept.restarted initialFits (step_transition moved)
  | powerFailure left =>
      rw [Host.step, Option.ite_none_right_eq_some] at taken
      obtain ⟨possible, same⟩ := taken
      cases same
      exact kept.failed possible

theorem initial (initialFits : deployment.config.initialBlock < u64Modulus) {disk : StateDisk}
    (vacant : disk.SameAt path (Disk.afterCrash fun _path => none)) :
    (Host.initial deployment disk).Kept deployment chain path := by
  constructor
  · exact .initial
  · exact .initial
  · exact .initial initialFits
  · exact ⟨rfl, fun _state none => nomatch none⟩
  · intro found left
    exact .inl (Disk.found_afterCrash ((vacant.found found).mp left))
  · exact nofun

theorem of_run {name : List Char} (named : path.fileName = some name)
    (chainFits : deployment.config.chainId < 2 ^ 32)
    (initialFits : deployment.config.initialBlock < u64Modulus) {disk : StateDisk}
    (vacant : disk.SameAt path (Disk.afterCrash fun _path => none)) {labels : List HostLabel}
    (reached : Runs.run (Host.step deployment path) (Host.initial deployment disk) labels =
      some h)
    (honest : ∀ label ∈ labels, label.Honest deployment.parser chain)
    (throughout : Runs.Guarded (Host.step deployment path)
      (Host.FirstBlockDelivered deployment chain) (Host.initial deployment disk) labels) :
    h.Kept deployment chain path := by
  apply Runs.run_invariant _ ((Runs.guarded_of_labels honest).and throughout)
    (initial initialFits vacant) reached
  rintro current label next ⟨honestly, allowed⟩ kept taken
  exact kept.step named chainFits initialFits taken honestly allowed

private theorem skipsNothing (kept : h.Kept deployment chain path)
    (atStart : h.loop.nextBlock = h.loop.startBlock) : SkipsNothing deployment chain h.loop := by
  intro event member lower missing
  apply Nat.le_of_not_lt
  intro skipped
  rw [atStart] at skipped
  obtain ⟨message, delivered, carries⟩ := kept.durable.started event member lower skipped
  exact missing message delivered carries

theorem starts (kept : h.Kept deployment chain path) (down : h.loop.task = .down)
    (positive : 0 < deployment.config.initialBlock) (settings : Settings) (readable : Bool)
    (events : List ConnectionState) :
    ∃ next, h.step deployment path (.start settings readable events) = some next := by
  have own (state : PersistedState)
      (content : (h.loop.withFile (recordAt h.disk path)).fileContent readable = .parsed state) :
      state.chainId = deployment.config.chainId :=
    ((kept.found _ (h.disk.found_content path)).recorded (State.file_of_parsed content)).chainId
  obtain ⟨store, startBlock, loaded, determined⟩ := StateStore.load_starts own positive
  have down : (h.loop.withFile (recordAt h.disk path)).task = .down := down
  exact ⟨_, Option.map_eq_some_iff.mpr
    ⟨_, step_start down loaded determined settings events, rfl⟩⟩

end Host.Kept

/-- Whatever a power failure leaves at the path, even amid a call, is no file or a whole
record that is truthful; and the next session starts, and past nothing undelivered. -/
theorem power_failure_skips_nothing {deployment : Deployment} {chain : List Log} {path : Path}
    {name : List Char} (named : path.fileName = some name)
    (chainFits : deployment.config.chainId < 2 ^ 32)
    (initialFits : deployment.config.initialBlock < u64Modulus) {disk : StateDisk}
    (vacant : disk.SameAt path (Disk.afterCrash fun _path => none)) {labels : List HostLabel}
    {h : Host}
    (reached : Runs.run (Host.step deployment path) (Host.initial deployment disk) labels =
      some h)
    (honest : ∀ label ∈ labels, label.Honest deployment.parser chain)
    (throughout : Runs.Guarded (Host.step deployment path)
      (Host.FirstBlockDelivered deployment chain) (Host.initial deployment disk) labels) :
    (∀ found, h.disk.FoundAfterCrash path found →
        Trustworthy deployment chain h.loop.delivered found) ∧
      ∀ settings readable events,
        (h.loop.task = .down → 0 < deployment.config.initialBlock →
          ∃ next, h.step deployment path (.start settings readable events) = some next) ∧
        ∀ next, h.step deployment path (.start settings readable events) = some next →
          SkipsNothing deployment chain next.loop := by
  have kept := Host.Kept.of_run named chainFits initialFits vacant reached honest throughout
  refine ⟨kept.found, fun settings readable events => ⟨?_, ?_⟩⟩
  · exact fun down positive => kept.starts down positive settings readable events
  · intro next taken
    have started := kept.step named chainFits initialFits taken trivial trivial
    apply started.skipsNothing
    obtain ⟨loop, moved, rfl⟩ := Option.map_eq_some_iff.mp taken
    obtain ⟨store, startBlock, loaded, determined, rfl⟩ := (step_transition moved).of_start
    rfl

/-- Both transactions are delivered, and a tick is about to persist the cursor. -/
def Sample.hostTick : List HostLabel :=
  .start Sample.settings true [.connected] ::
    (Sample.delivery.tail ++ [Label.delayElapsed, Label.flushTick]).map .loop

private theorem Sample.hostTick_honest :
    ∀ label ∈ Sample.hostTick, label.Honest Sample.deployment.parser Sample.chain := by
  refine List.forall_mem_cons.mpr ⟨trivial, fun label member => ?_⟩
  obtain ⟨inner, inside, rfl⟩ := List.mem_map.mp member
  rcases List.mem_append.mp inside with earlier | last
  · exact Sample.delivery_honest inner (List.mem_of_mem_tail earlier)
  · rcases List.mem_pair.mp last with rfl | rfl <;> exact trivial

def Sample.hostRename : List HostLabel :=
  Sample.hostTick ++ [.called, .answer .done, .answer .done, .answer (.wrote 64),
    .answer .done, .answer .done, .answer .done]

theorem Sample.hostRename_honest :
    ∀ label ∈ Sample.hostRename, label.Honest Sample.deployment.parser Sample.chain := by
  refine List.forall_mem_append.mpr ⟨Sample.hostTick_honest, ?_⟩
  simp only [List.forall_mem_cons, HostLabel.Honest, List.not_mem_nil, IsEmpty.forall_iff,
    implies_true, and_true]

/-- The call returns without having synced the directory, and the power failure undoes
the rename. -/
def Sample.renameUndone : List HostLabel :=
  Sample.hostRename ++ [.answer .failed, .returned, .powerFailure fun _path => none]

private theorem Sample.renameUndone_honest :
    ∀ label ∈ Sample.renameUndone, label.Honest Sample.deployment.parser Sample.chain := by
  refine List.forall_mem_append.mpr ⟨Sample.hostRename_honest, ?_⟩
  simp only [List.forall_mem_cons, HostLabel.Honest, List.not_mem_nil, IsEmpty.forall_iff,
    implies_true, and_true]

theorem power_failure_skips_nothing_renameUndone :
    ∃ h, Runs.run (Host.step Sample.deployment Sample.statePath)
        (Host.initial Sample.deployment Sample.emptyDisk)
        (Sample.renameUndone ++ [.start Sample.settings true []]) = some h ∧
      h.loop.nextBlock = 100 ∧ SkipsNothing Sample.deployment Sample.chain h.loop := by
  have ends : (Runs.run (Host.step Sample.deployment Sample.statePath)
      (Host.initial Sample.deployment Sample.emptyDisk)
      (Sample.renameUndone ++ [.start Sample.settings true []])).map
        (fun h => h.loop.nextBlock) = some 100 := by
    decide +kernel
  obtain ⟨h, reached, next⟩ := Option.map_eq_some_iff.mp ends
  obtain ⟨before, failed, started⟩ := Runs.run_concat.mp reached
  refine ⟨h, reached, next, ?_⟩
  exact ((power_failure_skips_nothing Sample.statePath_named (by decide) (by decide) ⟨rfl, rfl⟩
    failed Sample.renameUndone_honest (by decide +kernel)).2 Sample.settings true []).2 h started

end NoxIngestor
