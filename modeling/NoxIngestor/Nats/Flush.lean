/-
`flush_buffer` as one function.

The main loop takes the flush one publish at a time.  Here it is run to its end,
given the outcomes of the publishes in the order they are made, and returns with
its result what it attempted and what was acknowledged.
-/

import NoxIngestor.Nats.Publisher

namespace NoxIngestor

structure Flush where
  publisher : Publisher
  result : Except NatsError Nat
  attempts : List TransactionMessage
  acked : List TransactionMessage

namespace Publisher

/-- The loop over the drained messages, at an index into them. -/
def flushLoop (self : Publisher) (messages : List TransactionMessage)
    (outcome : Nat → Except NatsError Unit) :
    Nat → Nat → List TransactionMessage → Flush
  | _index, publishedCount, [] =>
      { publisher := self
        result := .ok publishedCount
        attempts := []
        acked := [] }
  | index, publishedCount, message :: rest =>
      match outcome index with
      | .error error =>
          { publisher := self.rebuffer (messages.drop index)
            result := .error error
            attempts := [message]
            acked := [] }
      | .ok () =>
          let later := self.flushLoop messages outcome (index + 1) (publishedCount + 1) rest
          { later with
            attempts := message :: later.attempts
            acked := message :: later.acked }

def flushBuffer (self : Publisher) (outcome : Nat → Except NatsError Unit) : Flush :=
  if self.isBufferEmpty then
    { publisher := self
      result := .ok 0
      attempts := []
      acked := [] }
  else
    match self.drainBuffer with
    | (messages, emptied) => emptied.flushLoop messages outcome 0 0 messages

end Publisher

/-- What a flush of these messages does, given the outcomes from an index on. -/
structure ExactFlush (old : List TransactionMessage) (outcome : Nat → Except NatsError Unit)
    (index publishedCount : Nat) (flush : Flush) : Prop where
  attempted : flush.attempts <+: old
  confirmed : ∀ offset, offset < flush.acked.length → outcome (index + offset) = .ok ()
  conserved : flush.acked ++ flush.publisher.buffer.buffer = old
  complete : ∀ count, flush.result = .ok count ↔
    publishedCount + flush.acked.length = count ∧ flush.acked = old ∧
      flush.publisher.buffer.buffer = []
  all : ∀ count, flush.result = .ok count → flush.attempts = flush.acked
  stopped : ∀ error, flush.result = .error error → ∃ failed behind,
    outcome (index + flush.acked.length) = .error error ∧
      flush.attempts = flush.acked ++ [failed] ∧
        flush.publisher.buffer.buffer = failed :: behind

namespace ExactFlush

variable {old : List TransactionMessage} {outcome : Nat → Except NatsError Unit}
  {index publishedCount : Nat}

theorem nothing {publisher : Publisher} (empty : publisher.buffer.buffer = []) :
    ExactFlush [] outcome index publishedCount
      { publisher := publisher
        result := .ok publishedCount
        attempts := []
        acked := [] } := by
  constructor
  · exact List.prefix_rfl
  · intro offset below
    exact absurd below (Nat.not_lt_zero offset)
  · exact empty
  · intro count
    simp only [Except.ok.injEq, List.length_nil, Nat.add_zero, empty, and_true]
  · intro _count _done
    rfl
  · intro error failed
    cases failed

theorem failed {publisher : Publisher} {message : TransactionMessage}
    {rest : List TransactionMessage} {error : NatsError} (refused : outcome index = .error error)
    (buffer : publisher.buffer.buffer = message :: rest) :
    ExactFlush (message :: rest) outcome index publishedCount
      { publisher := publisher
        result := .error error
        attempts := [message]
        acked := [] } := by
  constructor
  · exact List.prefix_append [message] rest
  · intro offset below
    exact absurd below (Nat.not_lt_zero offset)
  · exact buffer
  · intro count
    simp only [reduceCtorEq, false_and, and_false]
  · intro count done
    cases done
  · intro reported same
    cases same
    exact ⟨message, rest, refused, rfl, buffer⟩

theorem acknowledged {message : TransactionMessage} {flush : Flush}
    (answered : outcome index = .ok ())
    (later : ExactFlush old outcome (index + 1) (publishedCount + 1) flush) :
    ExactFlush (message :: old) outcome index publishedCount
      { flush with
        attempts := message :: flush.attempts
        acked := message :: flush.acked } := by
  constructor
  · exact List.cons_prefix_cons.mpr ⟨rfl, later.attempted⟩
  · intro offset below
    cases offset with
    | zero => exact answered
    | succ offset =>
        have behind := later.confirmed offset (Nat.lt_of_succ_lt_succ below)
        rwa [Nat.add_right_comm] at behind
  · exact congrArg (List.cons message) later.conserved
  · intro count
    have counted : publishedCount + 1 + flush.acked.length =
        publishedCount + (flush.acked.length + 1) := by omega
    rw [later.complete count, counted, List.length_cons, List.cons.injEq]
    simp only [true_and]
  · intro count done
    exact congrArg (List.cons message) (later.all count done)
  · intro error refused
    obtain ⟨failed, behind, answer, attempts, buffer⟩ := later.stopped error refused
    refine ⟨failed, behind, ?_, congrArg (List.cons message) attempts, buffer⟩
    rwa [Nat.add_right_comm] at answer

end ExactFlush

theorem Publisher.flushLoop_exact {self : Publisher} {messages : List TransactionMessage}
    {outcome : Nat → Except NatsError Unit} (emptied : self.buffer.buffer = [])
    {index publishedCount : Nat} {remaining : List TransactionMessage}
    (dropped : messages.drop index = remaining) :
    ExactFlush remaining outcome index publishedCount
      (self.flushLoop messages outcome index publishedCount remaining) := by
  induction remaining generalizing index publishedCount with
  | nil => exact .nothing emptied
  | cons message rest ih =>
      unfold flushLoop
      cases answer : outcome index with
      | error error =>
          apply ExactFlush.failed answer
          rw [rebuffer, MessageBuffer.extendFront_buffer, emptied, List.append_nil, dropped]
      | ok done =>
          apply ExactFlush.acknowledged answer
          apply ih
          rw [← List.tail_drop, dropped, List.tail_cons]

/-- Whatever the buffer holds and whatever the publishes return, a flush attempts
the messages in order up to the first failure, and what it saw acknowledged
followed by what the buffer holds then is what the buffer held. -/
theorem flush_exact (publisher : Publisher) (outcome : Nat → Except NatsError Unit) :
    ExactFlush publisher.buffer.buffer outcome 0 0 (publisher.flushBuffer outcome) := by
  unfold Publisher.flushBuffer
  by_cases empty : publisher.isBufferEmpty = true
  · rw [if_pos empty]
    have nothing := publisher.buffer.isEmpty_iff.mp empty
    rw [nothing]
    exact .nothing nothing
  · rw [if_neg empty]
    exact Publisher.flushLoop_exact rfl List.drop_zero

end NoxIngestor
