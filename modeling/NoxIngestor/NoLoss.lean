/-
No loss within a session.

Every parseable event behind the cursor is in a message that was acknowledged
or waits, whatever was cut short; and the stored cursor moves only past events
that were acknowledged.
-/

import NoxIngestor.Delivery
import NoxIngestor.Ledger

namespace NoxIngestor

open Scanning

/-- The message is the event's transaction and holds the event. -/
def Carries (message : TransactionMessage) (event : LocatedEvent) : Prop :=
  message.transactionHash = event.transactionHash ∧ event.event ∈ message.events

/-- Every parseable event of the blocks from the first up to, not including, the
last is in one of the messages. -/
def NoxEventParser.CarriedBy (parser : NoxEventParser) (chain : List Log)
    (fromBlock beforeBlock : Nat) (messages : List TransactionMessage) : Prop :=
  ∀ event ∈ parser.chainEvents chain, fromBlock ≤ event.blockNumber →
    event.blockNumber < beforeBlock → ∃ message ∈ messages, Carries message event

instance (message : TransactionMessage) (event : LocatedEvent) :
    Decidable (Carries message event) :=
  inferInstanceAs (Decidable (_ ∧ _))

instance (parser : NoxEventParser) (chain : List Log) (fromBlock beforeBlock : Nat)
    (messages : List TransactionMessage) :
    Decidable (parser.CarriedBy chain fromBlock beforeBlock messages) :=
  inferInstanceAs (Decidable (∀ event ∈ _, _ → _ → ∃ message ∈ _, Carries message event))

theorem NoxEventParser.CarriedBy.mono {parser : NoxEventParser} {chain : List Log}
    {fromBlock beforeBlock : Nat} {messages more : List TransactionMessage}
    (carried : parser.CarriedBy chain fromBlock beforeBlock messages)
    (kept : ∀ message ∈ messages, message ∈ more) :
    parser.CarriedBy chain fromBlock beforeBlock more := by
  intro event member lower upper
  obtain ⟨message, present, carries⟩ := carried event member lower upper
  exact ⟨message, kept message present, carries⟩

theorem NoxEventParser.CarriedBy.join {parser : NoxEventParser} {chain : List Log}
    {fromBlock middle beforeBlock : Nat} {messages : List TransactionMessage}
    (lowerPart : parser.CarriedBy chain fromBlock middle messages)
    (upperPart : parser.CarriedBy chain middle beforeBlock messages) :
    parser.CarriedBy chain fromBlock beforeBlock messages := by
  intro event member lower upper
  by_cases early : event.blockNumber < middle
  · exact lowerPart event member lower early
  · exact upperPart event member (Nat.le_of_not_lt early) upper

theorem NoxEventParser.CarriedBy.narrow {parser : NoxEventParser} {chain : List Log}
    {fromBlock beforeBlock first last : Nat} {messages : List TransactionMessage}
    (carried : parser.CarriedBy chain fromBlock beforeBlock messages)
    (lower : fromBlock ≤ first) (upper : last ≤ beforeBlock) :
    parser.CarriedBy chain first last messages :=
  fun event member low high =>
    carried event member (Nat.le_trans lower low) (Nat.lt_of_lt_of_le high upper)

private theorem reads_whole {deployment : Deployment} {chain : List Log} {ends : Nat → Prop}
    (fromBlock : Nat) (batch : ReadBatch) (contents : List TransactionMessage)
    (contained : Reads deployment chain ends fromBlock batch contents) (event : LocatedEvent)
    (member : event ∈ deployment.parser.chainEvents chain) (lower : fromBlock ≤ event.blockNumber)
    (upper : event.blockNumber ≤ lastBlock batch) :
    ∃ message ∈ contents, Carries message event := by
  obtain ⟨_head, rfl, batchSize, fetch, order, honest, success⟩ := contained
  exact (deployment.reader batchSize).readBatch_covers honest success member lower upper

/-! ### Updates of the cursor -/

/-- Every update in the log was allowed by what was acknowledged before it. -/
def UpdatesJustified (justified : List TransactionMessage → Nat → Prop)
    (trace : List (Nat × Event)) : Prop :=
  ∀ newer time block older, trace = newer ++ (time, .updated block) :: older →
    justified (ackedIn older) block

namespace UpdatesJustified

variable {justified : List TransactionMessage → Nat → Prop} {trace : List (Nat × Event)}

theorem record (updates : UpdatesJustified justified trace) {time : Nat} {event : Event}
    (allowed : ∀ block, event = .updated block → justified (ackedIn trace) block) :
    UpdatesJustified justified ((time, event) :: trace) := by
  intro newer at_ block older split
  cases newer with
  | nil =>
      obtain ⟨same, rfl⟩ := List.cons.inj split
      exact allowed block (congrArg Prod.snd same)
  | cons entry newer => exact updates newer at_ block older (List.cons.inj split).2

theorem log (updates : UpdatesJustified justified trace) {s : State} {events : List Event}
    (quiet : ∀ event ∈ events, event.quiet = true) :
    UpdatesJustified justified (s.stamped events ++ trace) := by
  induction events with
  | nil => exact updates
  | cons event rest ih =>
      apply (ih fun other member => quiet other (List.mem_cons_of_mem event member)).record
      intro block same
      have loud := quiet event List.mem_cons_self
      rw [same] at loud
      cases loud

end UpdatesJustified

/-! ### The invariant -/

/-- Every update of the cursor came after everything up to it was acknowledged. -/
def Ledger.Justified (deployment : Deployment) (chain : List Log) (ledger : Ledger) : Prop :=
  UpdatesJustified
    (fun acked block =>
      deployment.parser.CarriedBy chain ledger.startBlock (block + 1) acked) ledger.trace

structure Accounted (deployment : Deployment) (chain : List Log) (s : State) : Prop where
  scanned : Scanned deployment chain (fun _block => True) s
  covered : ∀ scan, s.scan = some scan →
    Covered lastBlock (fun event => event ∈ deployment.parser.chainEvents chain)
      LocatedEvent.blockNumber Carries scan
  updates : s.ledger.Justified deployment chain

namespace Accounted

variable {deployment : Deployment} {chain : List Log} {s after : State} {label : Label}

theorem carried (accounted : Accounted deployment chain s) (up : s.task ≠ .down) :
    deployment.parser.CarriedBy chain s.startBlock s.nextBlock (ackedIn s.trace ++ s.held) := by
  intro event member lower upper
  obtain ⟨message, place, carried⟩ :=
    (accounted.covered _ (State.scan_of_up up)).behind event member lower upper
  exact ⟨message, List.mem_append.mpr place, carried⟩

theorem delivered (accounted : Accounted deployment chain s) {latest : Nat}
    {batch : BatchResult} (here : s.task = .select (.publishing latest batch []))
    (nothing : s.publisher.buffer.buffer = []) :
    deployment.parser.CarriedBy chain s.startBlock (batch.endBlock + 1) (ackedIn s.trace) := by
  intro event member lower upper
  have up : s.task ≠ .down := by
    rw [here]
    exact nofun
  have covered := accounted.covered _ (State.scan_of_up up)
  have empty : s.scanning.queue = [] := by
    simp only [State.scanning, State.held, here, Task.drained, nothing, List.nil_append]
  by_cases behind : event.blockNumber < s.nextBlock
  · exact covered.acked empty member lower behind
  · have current : s.scanning.batch = some ((latest, batch), []) := by
      simp only [State.scanning, here, Task.batch]
    obtain ⟨message, place, carried⟩ := covered.inBatch _ _ current event member
      (Nat.le_of_not_lt behind) (Nat.le_of_lt_succ upper)
    rcases place with pending | acked | waiting
    · cases pending
    · exact ⟨message, acked, carried⟩
    · rw [empty] at waiting
      cases waiting

private theorem justified_of_reason (accounted : Accounted deployment chain s)
    (covered : ∀ scan, after.scan = some scan →
      Covered lastBlock (fun event => event ∈ deployment.parser.chainEvents chain)
        LocatedEvent.blockNumber Carries scan)
    {block time : Nat} {earlier : List (Nat × Event)} (reason : UpdateReason s after block)
    (trace : after.trace = (time, .updated block) :: (earlier ++ s.trace))
    (first : after.startBlock = s.startBlock) :
    deployment.parser.CarriedBy chain s.startBlock (block + 1)
      (ackedIn (earlier ++ s.trace)) := by
  cases reason with
  | settled nothing up positive same =>
      have whole := covered _ (State.scan_of_up up)
      have acked : after.scanning.acked = ackedIn (earlier ++ s.trace) := by
        show ackedIn after.trace = _
        rw [trace]
        rfl
      intro event member lower upper
      rw [same, Nat.sub_add_cancel positive] at upper
      rw [← first] at lower
      have found := whole.acked nothing member lower upper
      rw [acked] at found
      exact found
  | workedOff latest batch here nothing same =>
      rw [same]
      apply (accounted.delivered here nothing).mono
      intro message member
      rw [ackedIn, List.filterMap_append]
      exact List.mem_append_right _ member

theorem initial : Accounted deployment chain (State.initial deployment) :=
  { scanned := .initial
    covered := fun _scan found => nomatch found
    updates := fun newer _time _block _older split => by
      cases newer <;> cases split }

theorem step (accounted : Accounted deployment chain s)
    (moved : Transition deployment s label after)
    (honest : label.Honest deployment.parser chain) : Accounted deployment chain after := by
  have scanned := accounted.scanned.step moved honest (readsTo_any deployment s label)
  obtain ⟨move, stepped, _⟩ :=
    accounted.scanned.refines moved honest (readsTo_any deployment s label)
  have covered := Covered.step reads_whole accounted.covered stepped
  refine ⟨scanned, covered, ?_⟩
  have updates := accounted.updates
  cases LedgerStep.of_transition moved with
  | unchanged same =>
      rw [same]
      exact updates
  | elapsed millis labelled same =>
      rw [same]
      exact updates
  | logged events quiet same =>
      rw [same]
      exact UpdatesJustified.log updates quiet.quiet
  | succeeded event success same =>
      rw [same]
      apply UpdatesJustified.record updates
      rintro block rfl
      cases success
  | updated events quiet block reason same =>
      have justified := justified_of_reason accounted covered reason
        (congrArg Ledger.trace same) (congrArg Ledger.startBlock same)
      rw [same]
      apply UpdatesJustified.record (UpdatesJustified.log updates quiet.quiet)
      rintro other ⟨rfl⟩
      exact justified
  | written persists same =>
      rw [same]
      exact updates
  | restarted readable store startBlock stallThreshold loaded determined next same =>
      rw [same]
      intro newer time block older split
      cases newer with
      | nil => cases split
      | cons entry newer => cases newer <;> cases split

theorem of_run {labels : List Label} (reached : Reaches deployment labels s)
    (honest : ∀ label ∈ labels, label.Honest deployment.parser chain) :
    Accounted deployment chain s :=
  reached.invariant_of_labels .initial
    (fun _s _label _next honest accounted moved => accounted.step moved honest) honest

end Accounted

/-- Between the steps of the loop, every transaction behind `next_block` was
acknowledged or is in the buffer; while a flush is suspended it may also be among
the messages the flush has drained.  The cursor is updated to a block only when
everything up to it was acknowledged. -/
theorem no_loss_within_session {deployment : Deployment} {chain : List Log}
    {labels : List Label} {s : State} (reached : Reaches deployment labels s)
    (honest : ∀ label ∈ labels, label.Honest deployment.parser chain) :
    (s.task.settled = true → deployment.parser.CarriedBy chain s.startBlock s.nextBlock
        (ackedIn s.trace ++ s.publisher.buffer.buffer)) ∧
      (s.task ≠ .down → deployment.parser.CarriedBy chain s.startBlock s.nextBlock
        (ackedIn s.trace ++ (s.task.drained ++ s.publisher.buffer.buffer))) ∧
      ∀ newer time block older, s.trace = newer ++ (time, .updated block) :: older →
        deployment.parser.CarriedBy chain s.startBlock (block + 1) (ackedIn older) := by
  have accounted := Accounted.of_run reached honest
  refine ⟨fun settled => ?_, accounted.carried, accounted.updates⟩
  have carried := accounted.carried (Task.up_of_settled settled)
  rw [State.held_of_idle (Task.drained_of_settled settled)] at carried
  exact carried

def Sample.delivery : List Label :=
  Sample.start ++ [Sample.read, .nextTransaction, .receive 0, .published true,
    .nextTransaction, .receive 1, .published true, .nextTransaction]

theorem Sample.delivery_honest :
    ∀ label ∈ Sample.delivery, label.Honest Sample.deployment.parser Sample.chain := by
  refine List.forall_mem_append.mpr ⟨Sample.start_honest, ?_⟩
  simp only [List.forall_mem_cons, Label.Honest, List.not_mem_nil, IsEmpty.forall_iff,
    implies_true, and_true]
  exact Sample.read_honest

theorem no_loss_within_session_delivery :
    ∃ s, Reaches Sample.deployment Sample.delivery s ∧ s.startBlock = 100 ∧
      s.nextBlock = 102 ∧ Sample.deployment.parser.CarriedBy Sample.chain 100 102
        (ackedIn s.trace ++ s.publisher.buffer.buffer) := by
  have ends : (Runs.run (step Sample.deployment) (State.initial Sample.deployment)
      Sample.delivery).map (fun s => (s.task.settled, s.startBlock, s.nextBlock)) =
        some (true, 100, 102) := by
    decide +kernel
  obtain ⟨s, reached, values⟩ := Option.map_eq_some_iff.mp ends
  simp only [Prod.mk.injEq] at values
  obtain ⟨settled, first, next⟩ := values
  have carried := (no_loss_within_session reached Sample.delivery_honest).1 settled
  rw [first, next] at carried
  exact ⟨s, reached, first, next, carried⟩

end NoxIngestor
