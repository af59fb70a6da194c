/-
At most once on the stream.

JetStream forgets an identifier when the duplicate window has passed.  The loop
hands a transaction over again when a batch is cut, when a publish fails and when
a session resumes before its block; once it is past the transaction it does not
come back to it.  So a transaction is stored once if the loop is past it in time,
counted from the first request that reaches JetStream.
-/

import NoxIngestor.Resumption

namespace NoxIngestor

open Scanning DedupStream

/-- Chain ids and transaction hashes on the stream, newest first. -/
def State.storedKeys (s : State) : List (Nat × String) :=
  s.jetstream.stored.map fun entry => entry.message.key

/-! ### In time -/

/-- Of the window that began with the hand-over, no more than the transit time is left. -/
def Deployment.closing (deployment : Deployment) (transit now : Nat)
    (sending : Sending TransactionMessage) : Bool :=
  !deployment.recent (now - sending.time + transit)

/-- No process runs, or it is past the transaction: `next_block` is beyond its block, and
its message is neither in the buffer or a flush nor left of the batch in hand. -/
def State.DoneWith (s : State) (message : TransactionMessage) : Prop :=
  ∀ scan ∈ s.scan, Left TransactionMessage.blockNumber message scan

/-- A session started now resumes behind the block. -/
def State.ResumesBehind (s : State) (readable : Bool) (block : Nat) : Prop :=
  readable = true ∧ ∃ state ∈ s.file, block < u64Add state.lastBlock 1

/-- A request that reaches JetStream does so within the transit time.  When no more than
that is left of its window, the process that runs is past its transaction, and a
process started later resumes behind it. -/
def InTime (deployment : Deployment) (transit : Nat) (observed : Observed) : Label → Prop
  | .receive request => Arrives transit observed.1.clock request observed.2
  | .elapse millis =>
      ∀ sending ∈ observed.2,
        observed.1.jetstream.Counts transit (observed.1.clock + millis) sending →
          deployment.closing transit observed.1.clock sending = false →
            deployment.closing transit (observed.1.clock + millis) sending = true →
              observed.1.DoneWith sending.message
  | .start _settings readable _events =>
      ∀ sending ∈ observed.2,
        observed.1.jetstream.Counts transit observed.1.clock sending →
          deployment.closing transit observed.1.clock sending = true →
            observed.1.ResumesBehind readable sending.message.blockNumber
  | label => ReadsTo deployment belowLast observed.1 label

instance (s : State) (message : TransactionMessage) : Decidable (s.DoneWith message) :=
  inferInstanceAs (Decidable (∀ scan ∈ s.scan, Left _ message scan))

instance (s : State) (readable : Bool) (block : Nat) :
    Decidable (s.ResumesBehind readable block) :=
  inferInstanceAs (Decidable (_ ∧ ∃ state ∈ s.file, _))

instance (deployment : Deployment) (transit : Nat) (observed : Observed) (label : Label) :
    Decidable (InTime deployment transit observed label) := by
  cases label with
  | receive request => exact inferInstanceAs (Decidable (Arrives _ _ _ _))
  | elapse millis => exact inferInstanceAs (Decidable (∀ sending ∈ _, _ → _ → _ → _))
  | start settings readable events =>
      exact inferInstanceAs (Decidable (∀ sending ∈ _, _ → _ → _))
  | _ => exact inferInstanceAs (Decidable (ReadsTo _ _ _ _))

private theorem Deployment.recent_shorter (deployment : Deployment) (age older : Nat)
    (shorter : age ≤ older) (recent : deployment.recent older = true) :
    deployment.recent age = true := by
  have within := of_decide_eq_true recent
  exact decide_eq_true (Nat.lt_of_le_of_lt (Nat.mul_le_mul_left 1000000 shorter) within)

/-! ### Past a transaction -/

section Steps

variable {deployment : Deployment} {chain : List Log} {s after : State} {label : Label}

theorem State.DoneWith.step (wellFormed : WellFormedChain chain) {message : TransactionMessage}
    (scanned : Scanned deployment chain belowLast s) (done : s.DoneWith message)
    (moved : Transition deployment s label after)
    (honest : label.Honest deployment.parser chain)
    (ending : ReadsTo deployment belowLast s label) (noStart : label.isStart = false) :
    after.DoneWith message := by
  intro later found
  obtain ⟨move, stepped, reflects⟩ := scanned.refines moved honest ending
  by_cases down : s.task = .down
  · have stays := (moved.stays_down down noStart).1
    rw [State.scan_of_down stays] at found
    cases found
  · have exactly := exact_below scanned.inHand stepped reflects.advances
    have here := State.scan_of_up down
    rw [here, found] at stepped
    exact (done _ here).step (reads_listed deployment belowLast wellFormed).bounded stepped
      exactly

private theorem State.DoneWith.not_inPlay {message : TransactionMessage}
    (done : s.DoneWith message) :
    ¬ s.InPlay message := by
  rintro ⟨up, place⟩
  have left := done _ (State.scan_of_up up)
  rcases place with held | ⟨batch, remaining, current, member⟩
  · exact left.queue held
  · have pending : s.scanning.pending = remaining := pending_of_batch current
    exact left.pending (pending ▸ member)

end Steps

/-! ### The invariant -/

/-- What keeps every transaction from being stored twice. -/
structure Watched (deployment : Deployment) (chain : List Log) (transit : Nat)
    (observed : Observed) : Prop where
  faithful : Faithful deployment chain observed.1
  scanned : Scanned deployment chain belowLast observed.1
  recorded : Recorded observed.2 observed.1.clock observed.1.jetstream
  timely : Timely deployment.recent transit observed.2 observed.1.jetstream
  done : ∀ sending ∈ observed.2,
    observed.1.jetstream.Counts transit observed.1.clock sending →
      deployment.closing transit observed.1.clock sending = true →
        observed.1.DoneWith sending.message

namespace Watched

variable {deployment : Deployment} {chain : List Log} {transit : Nat}
variable {observed : Observed} {after : State} {label : Label}

theorem initial : Watched deployment chain transit (Observed.initial deployment) :=
  { faithful := .initial
    scanned := .initial
    recorded := .empty
    timely := .empty
    done := nofun }

private theorem readsTo (inTime : InTime deployment transit observed label) :
    ReadsTo deployment belowLast observed.1 label := by
  cases label with
  | batchRead fetch order => exact inTime
  | _ => exact nofun

theorem arrives (inTime : InTime deployment transit observed label) (request : Nat)
    (labelled : label = .receive request) :
    Arrives transit observed.1.clock request observed.2 := by
  rw [labelled] at inTime
  exact inTime

section Step

variable (taken : step deployment observed.1 label = some after)
  (inTime : InTime deployment transit observed label)

include taken inTime

theorem counted {sending : Sending TransactionMessage} (logged : sending ∈ observed.2)
    (counts : after.jetstream.Counts transit observed.1.clock sending) :
    observed.1.jetstream.Counts transit observed.1.clock sending := by
  cases StreamStep.of_transition (step_transition taken) with
  | unchanged same => exact same ▸ counts
  | sent message inPlay same =>
      rw [same] at counts
      exact counts
  | received request labelled received =>
      exact counts_of_receive received (arrives inTime request labelled) logged counts

private theorem done_started {settings : Settings} {readable : Bool} {events : List ConnectionState}
    (labelled : label = .start settings readable events) :
    ∀ sending ∈ observed.2, after.jetstream.Counts transit after.clock sending →
      deployment.closing transit after.clock sending = true →
        after.DoneWith sending.message := by
  intro sending logged counts closing
  subst labelled
  obtain ⟨store, startBlock, _, _, same⟩ := (step_transition taken).of_start
  have clock : after.clock = observed.1.clock := same ▸ rfl
  rw [clock] at counts closing
  obtain ⟨rfl, state, held, behind⟩ :=
    inTime sending logged (counted taken inTime logged counts) closing
  have content : observed.1.fileContent true = .parsed state := by
    unfold State.fileContent
    rw [if_pos rfl, held]
  have next := (started_from taken).2.2.1 state content
  rw [same] at next ⊢
  intro scan found
  cases found
  exact .fresh (Nat.lt_of_lt_of_eq behind next.symm)

private theorem done_step (watched : Watched deployment chain transit observed)
    (wellFormed : WellFormedChain chain)
    (honest : label.Honest deployment.parser chain) :
    ∀ sending ∈ observed.2, after.jetstream.Counts transit after.clock sending →
      deployment.closing transit after.clock sending = true →
        after.DoneWith sending.message := by
  intro sending logged counts closing
  have moved := step_transition taken
  have kept (noStart : label.isStart = false) (done : observed.1.DoneWith sending.message) :
      after.DoneWith sending.message :=
    done.step wellFormed watched.scanned moved honest (readsTo inTime) noStart
  have still (timeless : label.passesTime = false) (noStart : label.isStart = false) :
      after.DoneWith sending.message := by
    have clock := (LedgerStep.of_transition moved).clock_kept timeless
    rw [clock] at counts closing
    exact kept noStart (watched.done sending logged (counted taken inTime logged counts) closing)
  cases label with
  | elapse millis =>
      apply kept rfl
      cases taken
      have before : observed.1.jetstream.Counts transit observed.1.clock sending :=
        counts.imp_right (Nat.le_trans (Nat.sub_le_sub_right (Nat.le_add_right _ _) _))
      cases already : deployment.closing transit observed.1.clock sending with
      | true => exact watched.done sending logged before already
      | false => exact inTime sending logged counts already closing
  | start settings readable events =>
      exact done_started taken inTime rfl sending logged counts closing
  | _ => exact still rfl rfl

end Step

/-- What is stored is handed over again only while its window is not closing. -/
theorem young (watched : Watched deployment chain transit observed)
    {message : TransactionMessage} (inPlay : observed.1.InPlay message) :
    ∀ entry ∈ observed.1.jetstream.stored, entry.message = message →
      deployment.recent (observed.1.clock - entry.storedAt + transit) = true := by
  intro entry stored same
  obtain ⟨first, logged, carries, before, received⟩ :=
    watched.recorded.stored entry stored
  have notClosing : deployment.closing transit observed.1.clock first = false := by
    rw [Bool.eq_false_iff]
    intro closing
    have done := watched.done first logged (.inl received) closing
    rw [carries, same] at done
    exact done.not_inPlay inPlay
  apply deployment.recent_shorter _ (observed.1.clock - first.time + transit)
  · exact Nat.add_le_add_right (Nat.sub_le_sub_left before _) transit
  · rw [Deployment.closing, Bool.not_eq_false'] at notClosing
    exact notClosing

theorem step (wellFormed : WellFormedChain chain) (fits : deployment.recent transit = true)
    {later : Observed} (watched : Watched deployment chain transit observed)
    (taken : observe deployment observed label = some later)
    (honest : label.Honest deployment.parser chain)
    (inTime : InTime deployment transit observed label) :
    Watched deployment chain transit later := by
  have stepped := (Runs.logged_eq_some.mp taken).1
  have moved := step_transition stepped
  have done := watched.done_step stepped inTime wellFormed honest
  have observedStep := ObservedStep.of_taken watched.recorded.numbered taken
  constructor
  · exact watched.faithful.step wellFormed moved honest
  · exact watched.scanned.step moved honest (readsTo inTime)
  · exact observedStep.recorded watched.recorded
  · cases observedStep with
    | unchanged passed same log =>
        rw [same, log]
        exact watched.timely
    | sent message inPlay clock same log =>
        rw [same, log]
        exact watched.timely.send (watched.young inPlay)
    | received request labelled clock received log =>
        rw [log]
        exact watched.timely.receive watched.recorded received
          (arrives inTime request labelled) fits deployment.recent_shorter
  · cases observedStep with
    | unchanged passed same log =>
        rw [log]
        exact done
    | sent message inPlay clock same log =>
        rw [log]
        refine List.forall_mem_cons.mpr ⟨fun _counts closing => ?_, done⟩
        rw [clock, Deployment.closing, Nat.sub_self, Nat.zero_add, fits] at closing
        cases closing
    | received request labelled clock received log =>
        rw [log]
        exact done

end Watched

/-! ### Every run -/

private theorem storedKeys_nodup {deployment : Deployment} {chain : List Log} {s : State}
    (faithful : Faithful deployment chain s)
    (distinct : (s.jetstream.stored.map StoredMessage.message).Nodup) : s.storedKeys.Nodup := by
  have keys : s.storedKeys =
      (s.jetstream.stored.map StoredMessage.message).map TransactionMessage.key := by
    rw [State.storedKeys, List.map_map]
    rfl
  rw [keys]
  apply distinct.map_on
  intro left leftIn right rightIn same
  obtain ⟨leftEntry, leftStored, rfl⟩ := List.mem_map.mp leftIn
  obtain ⟨rightEntry, rightStored, rfl⟩ := List.mem_map.mp rightIn
  exact (faithful.stored leftEntry leftStored).eq_of_key rfl
    (faithful.stored rightEntry rightStored) same

/-- As long as the loop is past each transaction in time, every chain id and transaction
hash is stored at most once, whatever is cut, fails, crashes or is restarted. -/
theorem stored_at_most_once {deployment : Deployment} {chain : List Log}
    (wellFormed : WellFormedChain chain) {transit : Nat}
    (fits : deployment.recent transit = true) {labels : List Label} {s : State}
    (reached : Reaches deployment labels s)
    (honest : ∀ label ∈ labels, label.Honest deployment.parser chain)
    (inTime : Runs.Guarded (observe deployment) (InTime deployment transit)
      (Observed.initial deployment) labels) : s.storedKeys.Nodup := by
  obtain ⟨log, observes⟩ := reached.observes
  have watched : Watched deployment chain transit (s, log) := by
    apply Runs.run_invariant _ ((Runs.guarded_of_labels honest).and inTime) .initial observes
    rintro observed label later ⟨honestly, allowed⟩ watched taken
    exact watched.step wellFormed fits taken honestly allowed
  exact storedKeys_nodup watched.faithful watched.timely.distinct

/-- The first transaction is handed over, cut and handed over again.  When the window has
passed the batch is behind, and the next session resumes behind it. -/
def Sample.replayInTime : List Label :=
  Sample.handedAgain ++ [.receive 2, .receive 1, .published true, .nextTransaction,
    .elapse 1000, .receive 3, .published true, .nextTransaction, .delayElapsed, .flushTick,
    .persisted true, .tryResumeIfConnected, .elapse 700000, .crash,
    .start Sample.settings true [.connected], .stateChanged, .handleStateChange, .unpaused,
    .latestBlock (.ok 101)]

theorem stored_at_most_once_replayInTime :
    ∃ s, Reaches Sample.deployment Sample.replayInTime s ∧ s.storedKeys.Nodup ∧
      s.jetstream.received = [3, 1, 2, 0] ∧ s.clock = 706000 ∧
        s.storedKeys = [(421614, Sample.secondHash.toHex), (421614, Sample.firstHash.toHex)] := by
  have ends : (Runs.run (step Sample.deployment) (State.initial Sample.deployment)
      Sample.replayInTime).map (fun s => (s.jetstream.received, s.clock, s.storedKeys)) =
        some ([3, 1, 2, 0], 706000,
          [(421614, Sample.secondHash.toHex), (421614, Sample.firstHash.toHex)]) := by
    decide +kernel
  have honest : ∀ label ∈ Sample.replayInTime,
      label.Honest Sample.deployment.parser Sample.chain := by
    refine List.forall_mem_append.mpr ⟨Sample.handedAgain_honest, ?_⟩
    simp only [List.forall_mem_cons, Label.Honest, List.not_mem_nil, IsEmpty.forall_iff,
      implies_true, and_true]
  obtain ⟨s, reached, values⟩ := Option.map_eq_some_iff.mp ends
  simp only [Prod.mk.injEq] at values
  obtain ⟨received, clock, stored⟩ := values
  have fits : Sample.deployment.recent 10000 = true := by decide
  exact ⟨s, reached, stored_at_most_once Sample.chain_wellFormed fits reached honest
    (by decide +kernel), received, clock, stored⟩

/-- The connection is lost before the acknowledgement arrives, for longer than the
duplicate window; then the batch is read again. -/
def Sample.longOutage : List Label :=
  Sample.start ++ [Sample.read, .nextTransaction, .receive 0, .natsEvent .disconnected,
    .stateChanged, .handleStateChange, .elapse 700000, .natsEvent .connected, .stateChanged,
    .handleStateChange, .unpaused, .latestBlock (.ok 101), Sample.read, .nextTransaction,
    .receive 1]

theorem long_outage_stores_twice :
    ¬ ∀ s, Reaches Sample.deployment Sample.longOutage s → s.storedKeys.Nodup := by
  intro claimed
  have ends : (Runs.run (step Sample.deployment) (State.initial Sample.deployment)
      Sample.longOutage).map State.storedKeys =
        some [(421614, Sample.firstHash.toHex), (421614, Sample.firstHash.toHex)] := by
    decide +kernel
  obtain ⟨s, reached, stored⟩ := Option.map_eq_some_iff.mp ends
  have distinct := claimed s reached
  rw [stored] at distinct
  exact (List.nodup_cons.mp distinct).1 List.mem_cons_self

end NoxIngestor
