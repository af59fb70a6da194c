/-
The flush of the main loop is `flush_buffer`.

Between the first publish of a flush and its return the loop only waits for
answers, while the outside world moves.  Run to its end it leaves the buffer, the
hand-overs and the acknowledgements that the whole function leaves for the
same answers.
-/

import NoxIngestor.Nats.Flush
import NoxIngestor.Transitions

namespace NoxIngestor

/-- The answer a publish returns with. -/
def Label.answer : Label → Option (Except NatsError Unit)
  | .published true => some (.ok ())
  | .published false => some (.error (.publish "Ack error"))
  | _ => none

/-- Answers to publishes, and moves of the outside world short of a crash. -/
def Label.duringFlush : Label → Bool
  | .elapse _millis => true
  | .natsEvent _state => true
  | .receive _request => true
  | .shutdownSignal => true
  | .published _success => true
  | _ => false

/-- What a flush changes, as far as its result is concerned. -/
structure SameOutput (s after : State) : Prop where
  task : after.task = s.task
  publisher : after.publisher = s.publisher
  trace : after.trace = s.trace

theorem SameOutput.trans {first second third : State} (left : SameOutput first second)
    (right : SameOutput second third) : SameOutput first third :=
  ⟨right.task.trans left.task, right.publisher.trans left.publisher,
    right.trace.trans left.trace⟩

section Steps

variable {deployment : Deployment} {s after : State} {label : Label}

private theorem unanswered_step (during : label.duringFlush = true)
    (unanswered : label.answer = none)
    (taken : step deployment s label = some after) : SameOutput s after := by
  cases label with
  | elapse millis =>
      cases taken
      exact ⟨rfl, rfl, rfl⟩
  | natsEvent state =>
      simp only [step] at taken
      split at taken
      · cases taken
      · cases taken
        exact ⟨rfl, rfl, rfl⟩
  | receive request =>
      simp only [step, Option.map_eq_some_iff] at taken
      obtain ⟨jetstream, received, rfl⟩ := taken
      exact ⟨rfl, rfl, rfl⟩
  | shutdownSignal =>
      simp only [step] at taken
      split at taken
      · cases taken
      · cases taken
        exact ⟨rfl, rfl, rfl⟩
  | published success => cases success <;> cases unanswered
  | _ => cases during

private theorem idle_run {labels : List Label} (idle : s.task = .delay ∨
      s.task = .select .waitUntilUnpaused)
    (during : ∀ label ∈ labels, label.duringFlush = true)
    (reached : Runs.run (step deployment) s labels = some after) : SameOutput s after := by
  induction labels generalizing s with
  | nil =>
      cases reached
      exact ⟨rfl, rfl, rfl⟩
  | cons label rest ih =>
      obtain ⟨next, taken, later⟩ := Runs.run_cons.mp reached
      obtain ⟨first, others⟩ := List.forall_mem_cons.mp during
      have unanswered : label.answer = none := by
        cases label with
        | published success =>
            rcases idle with here | here
            · simp only [step, here, reduceCtorEq] at taken
            · simp only [step, here, reduceCtorEq] at taken
        | _ => rfl
      have same := unanswered_step first unanswered taken
      apply same.trans
      apply ih _ others later
      rw [same.task]
      exact idle

private theorem answered_step {caller : FlushCaller} {message : TransactionMessage} {request : Nat}
    {later : List TransactionMessage} {success : Bool}
    (here : s.task = .flush caller message request later)
    (taken : step deployment s (.published success) = some after) :
    (success = true ∧ ∃ next rest, later = next :: rest ∧
        after = (s.record (.acked message)).flushNext caller next rest) ∨
      (success = true ∧ later = [] ∧ after = (s.record (.acked message)).flushSucceeded) ∨
        (success = false ∧ after = (s.returnBuffer (message :: later)).flushFailed caller) := by
  have elsewhere {task : Task} (there : s.task = task)
      (different : task ≠ .flush caller message request later) : False :=
    different (there.symm.trans here)
  cases step_transition taken with
  | flushStarted other first behind there connected buffered labelled =>
      cases other <;> cases labelled
  | flushAcked other current number next rest there received =>
      cases there.symm.trans here
      exact .inl ⟨rfl, next, rest, rfl, rfl⟩
  | flushDone other current number there received =>
      cases there.symm.trans here
      exact .inr (.inl ⟨rfl, rfl, rfl⟩)
  | flushFailedResumed current number behind there =>
      cases there.symm.trans here
      exact .inr (.inr ⟨rfl, rfl⟩)
  | flushFailedHeld current number behind there =>
      cases there.symm.trans here
      exact .inr (.inr ⟨rfl, rfl⟩)
  | retried label reading there retry => cases retry
  | publishAcked latest batch current number behind there received =>
      exact (elsewhere there nofun).elim
  | publishFailed latest batch current number behind there room =>
      exact (elsewhere there nofun).elim
  | publishRejected latest batch current number behind there full =>
      exact (elsewhere there nofun).elim

/-- What a returned flush has done since a state in which its loop stood at a message. -/
structure Flushed (s : State) (flush : Flush) (after : State) : Prop where
  buffer : after.publisher.buffer = flush.publisher.buffer
  acked : ackedIn after.trace = flush.acked.reverse ++ ackedIn s.trace
  /-- The message the loop stood at was handed over before. -/
  handed : handedIn after.trace = flush.attempts.tail.reverse ++ handedIn s.trace

theorem Flushed.of_idle {flush : Flush} {ended : State} (same : SameOutput ended after)
    (flushed : Flushed s flush ended) : Flushed s flush after := by
  constructor
  · rw [same.publisher]
    exact flushed.buffer
  · rw [same.trace]
    exact flushed.acked
  · rw [same.trace]
    exact flushed.handed

def State.AtHead (s : State) : Prop := s.task = .delay ∨ s.task = .select .waitUntilUnpaused

theorem Flushed.idle {flush : Flush} {ended : State} {labels : List Label}
    (flushed : Flushed s flush ended) (head : ended.AtHead)
    (during : ∀ label ∈ labels, label.duringFlush = true)
    (reached : Runs.run (step deployment) ended labels = some after) : Flushed s flush after :=
  flushed.of_idle (idle_run head during reached)

private theorem flushFailed_atHead (s : State) (caller : FlushCaller) :
    (s.flushFailed caller).AtHead := by
  cases caller with
  | handleStateChange => exact State.loopTop_task _
  | tryResumeIfConnected => exact State.loopTop_task _

theorem Flushed.done (s : State) (message : TransactionMessage)
    (result : Except NatsError Nat) :
    Flushed s
      { publisher := s.publisher
        result := result
        attempts := [message]
        acked := [message] }
      (s.record (.acked message)).flushSucceeded := by
  have buffer := congrArg Publisher.buffer
    ((s.record (.acked message)).signalled_publisher false)
  constructor
  · exact buffer
  · exact State.settleCursor_acked _
  · exact State.settleCursor_handed _

theorem Flushed.failed (s : State) (message : TransactionMessage)
    (remaining : List TransactionMessage) (caller : FlushCaller)
    (result : Except NatsError Nat) :
    Flushed s
      { publisher := s.publisher.rebuffer remaining
        result := result
        attempts := [message]
        acked := [] }
      ((s.returnBuffer remaining).flushFailed caller) := by
  cases caller with
  | handleStateChange =>
      have buffer := congrArg Publisher.buffer
        ((s.returnBuffer remaining).signalled_publisher false)
      constructor
      · exact buffer
      · exact State.settleCursor_acked _
      · exact State.settleCursor_handed _
  | tryResumeIfConnected => exact ⟨rfl, rfl, rfl⟩

end Steps

private theorem Publisher.flushLoop_attempts (publisher : Publisher)
    (messages : List TransactionMessage)
    (outcome : Nat → Except NatsError Unit) (index publishedCount : Nat)
    (message : TransactionMessage) (rest : List TransactionMessage) :
    (publisher.flushLoop messages outcome index publishedCount (message :: rest)).attempts =
      message :: (publisher.flushLoop messages outcome index publishedCount
        (message :: rest)).attempts.tail := by
  unfold flushLoop
  cases outcome index with
  | error error => rfl
  | ok done => rfl

/-- The outcomes are the answers the labels bring, from an index on. -/
def Answers (labels : List Label) (outcome : Nat → Except NatsError Unit) (index : Nat) : Prop :=
  ∀ offset answer, (labels.filterMap Label.answer)[offset]? = some answer →
    outcome (index + offset) = answer

namespace Answers

variable {label : Label} {rest : List Label} {outcome : Nat → Except NatsError Unit}
  {index : Nat}

private theorem of_unanswered (answers : Answers (label :: rest) outcome index)
    (unanswered : label.answer = none) : Answers rest outcome index := by
  unfold Answers at answers
  rw [List.filterMap_cons_none unanswered] at answers
  exact answers

theorem first {answer : Except NatsError Unit} (answers : Answers (label :: rest) outcome index)
    (answered : label.answer = some answer) : outcome index = answer := by
  apply answers 0
  rw [List.filterMap_cons_some answered]
  rfl

theorem later {answer : Except NatsError Unit} (answers : Answers (label :: rest) outcome index)
    (answered : label.answer = some answer) : Answers rest outcome (index + 1) := by
  intro offset other present
  have shifted := answers (offset + 1) other
  rw [List.filterMap_cons_some answered] at shifted
  rw [Nat.add_assoc, Nat.add_comm 1 offset]
  exact shifted present

end Answers

section Runs

variable {deployment : Deployment} {s after : State}

theorem Flushed.acknowledged {middle : State} {flush : Flush}
    {message following : TransactionMessage}
    (acked : ackedIn middle.trace = message :: ackedIn s.trace)
    (handed : handedIn middle.trace = following :: handedIn s.trace)
    (attempted : flush.attempts = following :: flush.attempts.tail)
    (flushed : Flushed middle flush after) :
    Flushed s { flush with
      attempts := message :: flush.attempts
      acked := message :: flush.acked } after := by
  constructor
  · exact flushed.buffer
  · rw [flushed.acked, acked, List.reverse_cons, List.append_assoc, List.singleton_append]
  · rw [flushed.handed, handed, List.tail_cons, attempted, List.tail_cons, List.reverse_cons,
      List.append_assoc, List.singleton_append]

private theorem flush_run {caller : FlushCaller} {messages : List TransactionMessage}
    {outcome : Nat → Except NatsError Unit} {index publishedCount : Nat}
    {message : TransactionMessage} {request : Nat} {later : List TransactionMessage}
    {labels : List Label} (here : s.task = .flush caller message request later)
    (emptied : s.publisher.buffer.buffer = []) (dropped : messages.drop index = message :: later)
    (during : ∀ label ∈ labels, label.duringFlush = true)
    (answers : Answers labels outcome index)
    (reached : Runs.run (step deployment) s labels = some after)
    (returned : after.task.drained = []) :
    Flushed s (s.publisher.flushLoop messages outcome index publishedCount (message :: later))
      after := by
  induction labels generalizing s index publishedCount message request later with
  | nil =>
      cases reached
      rw [here] at returned
      cases returned
  | cons label rest ih =>
      obtain ⟨next, taken, behind⟩ := Runs.run_cons.mp reached
      obtain ⟨first, others⟩ := List.forall_mem_cons.mp during
      cases answered : label.answer with
      | none =>
          have same := unanswered_step first answered taken
          have flushed : Flushed next (next.publisher.flushLoop messages outcome index
              publishedCount (message :: later)) after :=
            ih (same.task.trans here) (same.publisher ▸ emptied) dropped others
              (answers.of_unanswered answered) behind
          rw [same.publisher] at flushed
          exact ⟨flushed.buffer, same.trace ▸ flushed.acked, same.trace ▸ flushed.handed⟩
      | some answer =>
          cases label with
          | published success =>
              have outcomeHere := answers.first answered
              have following := answers.later answered
              unfold Publisher.flushLoop
              rcases answered_step here taken with ⟨acknowledged, upcoming, remaining, rfl, moved⟩ |
                ⟨acknowledged, rfl, moved⟩ | ⟨failed, moved⟩
              · rw [acknowledged, Label.answer, Option.some.injEq] at answered
                rw [outcomeHere, ← answered]
                have tail : messages.drop (index + 1) = upcoming :: remaining := by
                  rw [← List.tail_drop, dropped, List.tail_cons]
                have flushed : Flushed next (s.publisher.flushLoop messages outcome (index + 1)
                    (publishedCount + 1) (upcoming :: remaining)) after := by
                  subst moved
                  exact ih rfl emptied tail others following behind
                subst moved
                exact Flushed.acknowledged rfl rfl (Publisher.flushLoop_attempts _ _ _ _ _ _ _)
                  flushed
              · rw [acknowledged, Label.answer, Option.some.injEq] at answered
                rw [outcomeHere, ← answered]
                subst moved
                exact (Flushed.done s message _).idle (State.loopTop_task _) others behind
              · rw [failed, Label.answer, Option.some.injEq] at answered
                rw [outcomeHere, ← answered]
                rw [moved] at behind
                rw [dropped]
                exact (Flushed.failed s message (message :: later) caller _).idle
                  (flushFailed_atHead _ _) others behind
          | _ => cases answered

private theorem flush_started {caller : FlushCaller} (here : s.task = caller.site)
    (connected : s.nats.value = .connected) {message : TransactionMessage}
    {later : List TransactionMessage} (buffered : s.publisher.buffer.buffer = message :: later)
    (taken : step deployment s caller.label = some after) :
    after = s.takeBuffer.flushNext caller message later := by
  have down : s.nats.value ≠ .disconnected := by
    rw [connected]
    exact nofun
  have waiting : s.publisher.buffer.buffer ≠ [] := by
    rw [buffered]
    exact List.cons_ne_nil _ _
  have moved := step_transition taken
  cases caller with
  | handleStateChange =>
      cases moved with
      | resumed there connectedHere nothing => exact absurd nothing waiting
      | paused there disconnected => exact absurd disconnected down
      | flushStarted other first behind there connectedHere found labelled =>
          cases other with
          | handleStateChange =>
              cases buffered.symm.trans found
              rfl
          | tryResumeIfConnected => cases labelled
      | retried label reading there retry => cases retry
  | tryResumeIfConnected =>
      cases moved with
      | resumeSkipped there skipped => exact (skipped.elim down waiting).elim
      | flushStarted other first behind there connectedHere found labelled =>
          cases other with
          | handleStateChange => cases labelled
          | tryResumeIfConnected =>
              cases buffered.symm.trans found
              rfl
      | retried label reading there retry => cases retry

/-- A flush of the main loop that ran to its end did what `flush_buffer` does when
its publishes return the same answers. -/
theorem flush_refines {caller : FlushCaller} {labels : List Label}
    {outcome : Nat → Except NatsError Unit} (here : s.task = caller.site)
    (connected : s.nats.value = .connected) (waiting : s.publisher.buffer.buffer ≠ [])
    (during : ∀ label ∈ labels, label.duringFlush = true) (answers : Answers labels outcome 0)
    (reached : Runs.run (step deployment) s (caller.label :: labels) = some after)
    (returned : after.task.drained = []) :
    after.publisher.buffer = (s.publisher.flushBuffer outcome).publisher.buffer ∧
      ackedIn after.trace = (s.publisher.flushBuffer outcome).acked.reverse ++ ackedIn s.trace ∧
      handedIn after.trace =
        (s.publisher.flushBuffer outcome).attempts.reverse ++ handedIn s.trace := by
  obtain ⟨message, later, buffered⟩ := List.exists_cons_of_ne_nil waiting
  obtain ⟨started, taken, behind⟩ := Runs.run_cons.mp reached
  have started_eq := flush_started here connected buffered taken
  have flushed : s.publisher.flushBuffer outcome =
      s.takeBuffer.publisher.flushLoop (message :: later) outcome 0 0 (message :: later) := by
    unfold Publisher.flushBuffer
    rw [if_neg (mt isBufferEmpty_iff.mp waiting), ← buffered]
    rfl
  rw [flushed, Publisher.flushLoop_attempts]
  subst started_eq
  have continued : Flushed (s.takeBuffer.flushNext caller message later)
      (s.takeBuffer.publisher.flushLoop (message :: later) outcome 0 0 (message :: later))
      after :=
    flush_run rfl rfl List.drop_zero during answers behind returned
  obtain ⟨buffer, acked, handed⟩ := continued
  refine ⟨buffer, acked, ?_⟩
  rw [List.reverse_cons, List.append_assoc]
  exact handed

end Runs

end NoxIngestor
