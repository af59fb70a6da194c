/-
A message stream that discards what it stored recently.

Requests travel on a wire and are received in any order, at any later time or
never; a received request is acknowledged.  Its message is stored unless a
message with the same identifier was stored within the window.  `stored` is all
that was ever stored; where a stream drops what is too old, it holds the part
that is `retained`.
-/

import Mathlib.Data.List.Nodup

namespace NoxIngestor

structure StoredMessage (μ : Type) where
  message : μ
  storedAt : Nat

structure DedupStream (μ : Type) where
  /-- Newest first. -/
  stored : List (StoredMessage μ)
  wire : List (Nat × μ)
  received : List Nat
  nextRequest : Nat

namespace DedupStream

variable {μ δ : Type} [DecidableEq δ]

def empty : DedupStream μ :=
  { stored := []
    wire := []
    received := []
    nextRequest := 0 }

def send (stream : DedupStream μ) (message : μ) : DedupStream μ :=
  { stream with
    wire := (stream.nextRequest, message) :: stream.wire
    nextRequest := stream.nextRequest + 1 }

/-- Some message with this identifier was stored within the window. -/
def isDuplicate (identifier : μ → δ) (recent : Nat → Bool) (now : Nat)
    (stream : DedupStream μ) (message : μ) : Bool :=
  stream.stored.any fun entry =>
    recent (now - entry.storedAt) && decide (identifier entry.message = identifier message)

def receive (identifier : μ → δ) (recent : Nat → Bool) (now request : Nat)
    (stream : DedupStream μ) : Option (DedupStream μ) :=
  match stream.wire.lookup request with
  | none => none
  | some message =>
      some
        { stream with
          wire := stream.wire.filter (fun sent => sent.1 != request)
          received := request :: stream.received
          stored :=
            if stream.isDuplicate identifier recent now message then stream.stored
            else ⟨message, now⟩ :: stream.stored }

/-- What a limit on the age leaves of the stored messages. -/
def retained (retains : Nat → Bool) (now : Nat) (stream : DedupStream μ) :
    List (StoredMessage μ) :=
  stream.stored.filter fun entry => retains (now - entry.storedAt)

variable {identifier : μ → δ} {recent : Nat → Bool}

theorem receive_stored {now request : Nat} {stream after : DedupStream μ}
    (received : stream.receive identifier recent now request = some after) :
    ∃ message, (request, message) ∈ stream.wire ∧
      after.stored =
        if stream.isDuplicate identifier recent now message then stream.stored
        else ⟨message, now⟩ :: stream.stored := by
  unfold receive at received
  cases found : stream.wire.lookup request with
  | none =>
      rw [found] at received
      cases received
  | some message =>
      rw [found] at received
      cases received
      refine ⟨message, ?_, rfl⟩
      obtain ⟨before, after, wireEq, _⟩ := List.lookup_eq_some_iff.mp found
      rw [wireEq]
      exact List.mem_append_right before List.mem_cons_self

theorem receive_wire {now request : Nat} {stream after : DedupStream μ}
    (received : stream.receive identifier recent now request = some after) :
    ∀ sent ∈ after.wire, sent ∈ stream.wire := by
  unfold receive at received
  cases found : stream.wire.lookup request with
  | none =>
      rw [found] at received
      cases received
  | some message =>
      rw [found] at received
      cases received
      exact fun sent member => List.mem_of_mem_filter member

/-! ### Requests that can be answered -/

/-- The request was received, or it is still on its way. -/
def Awaits (stream : DedupStream μ) (request : Nat) : Prop :=
  request ∈ stream.received ∨ ∃ message, (request, message) ∈ stream.wire

theorem send_awaits (stream : DedupStream μ) (message : μ) :
    (stream.send message).Awaits stream.nextRequest :=
  .inr ⟨message, List.mem_cons_self⟩

theorem Awaits.receive {now other request : Nat} {stream after : DedupStream μ}
    (awaits : stream.Awaits request)
    (received : stream.receive identifier recent now other = some after) :
    after.Awaits request := by
  unfold DedupStream.receive at received
  cases found : stream.wire.lookup other with
  | none =>
      rw [found] at received
      cases received
  | some message =>
      rw [found] at received
      cases received
      by_cases same : request = other
      · exact .inl (List.mem_cons.mpr (.inl same))
      · rcases awaits with known | ⟨sent, onWire⟩
        · exact .inl (List.mem_cons_of_mem other known)
        · refine .inr ⟨sent, List.mem_filter.mpr ⟨onWire, ?_⟩⟩
          exact bne_iff_ne.mpr same

theorem Awaits.answer {request : Nat} {stream : DedupStream μ} (awaits : stream.Awaits request)
    (identifier : μ → δ) (recent : Nat → Bool) (now : Nat) :
    request ∈ stream.received ∨ ∃ after,
      stream.receive identifier recent now request = some after ∧
        request ∈ after.received := by
  rcases awaits with known | ⟨sent, onWire⟩
  · exact .inl known
  · unfold DedupStream.receive
    cases found : stream.wire.lookup request with
    | none =>
        have absent := List.lookup_eq_none_iff.mp found (request, sent) onWire
        exact absurd rfl (bne_iff_ne.mp absent)
    | some message => exact .inr ⟨_, rfl, List.mem_cons_self⟩

/-! ### What an acknowledgement means -/

/-- A message with this identifier is stored. -/
def Stores (identifier : μ → δ) (stream : DedupStream μ) (message : μ) : Prop :=
  ∃ entry ∈ stream.stored, identifier entry.message = identifier message

/-- Every request that was sent has a number below the next one. -/
structure Numbered (stream : DedupStream μ) : Prop where
  wire : ∀ sent ∈ stream.wire, sent.1 < stream.nextRequest
  received : ∀ request ∈ stream.received, request < stream.nextRequest

/-- The request was sent with this message and can be answered, and once received the
message is stored. -/
structure Tracks (identifier : μ → δ) (stream : DedupStream μ) (request : Nat) (message : μ) :
    Prop where
  sent : request < stream.nextRequest
  awaits : stream.Awaits request
  wire : ∀ other, (request, other) ∈ stream.wire → other = message
  received : request ∈ stream.received → stream.Stores identifier message

theorem Numbered.empty : Numbered (DedupStream.empty : DedupStream μ) :=
  ⟨fun _sent member => absurd member List.not_mem_nil,
    fun _request member => absurd member List.not_mem_nil⟩

theorem Numbered.send {stream : DedupStream μ} (numbered : stream.Numbered) (message : μ) :
    (stream.send message).Numbered := by
  constructor
  · intro sent member
    rcases List.mem_cons.mp member with rfl | old
    · exact Nat.lt_succ_self _
    · exact Nat.lt_succ_of_lt (numbered.wire sent old)
  · intro request member
    exact Nat.lt_succ_of_lt (numbered.received request member)

omit [DecidableEq δ] in
theorem Numbered.tracks {stream : DedupStream μ} (numbered : stream.Numbered)
    (identifier : μ → δ) (message : μ) :
    (stream.send message).Tracks identifier stream.nextRequest message := by
  constructor
  · exact Nat.lt_succ_self _
  · exact stream.send_awaits message
  · intro other member
    rcases List.mem_cons.mp member with same | old
    · exact (Prod.mk.inj same).2
    · exact absurd (numbered.wire _ old) (Nat.lt_irrefl _)
  · intro member
    exact absurd (numbered.received _ member) (Nat.lt_irrefl _)

theorem receive_cases {now request : Nat} {stream after : DedupStream μ}
    (received : stream.receive identifier recent now request = some after) :
    ∃ message, (request, message) ∈ stream.wire ∧
      (∀ sent, sent ∈ after.wire ↔ sent ∈ stream.wire ∧ sent.1 ≠ request) ∧
        after.received = request :: stream.received ∧
          after.nextRequest = stream.nextRequest ∧ after.Stores identifier message ∧
            ∀ entry ∈ stream.stored, entry ∈ after.stored := by
  unfold receive at received
  cases found : stream.wire.lookup request with
  | none =>
      rw [found] at received
      cases received
  | some message =>
      rw [found] at received
      cases received
      obtain ⟨before, later, wireEq, _⟩ := List.lookup_eq_some_iff.mp found
      refine ⟨message, ?_, ?_, rfl, rfl, ?_, ?_⟩
      · rw [wireEq]
        exact List.mem_append_right before List.mem_cons_self
      · intro sent
        rw [List.mem_filter, bne_iff_ne]
      · unfold Stores
        simp only
        split
        · rename_i duplicate
          obtain ⟨entry, member, both⟩ := List.any_eq_true.mp duplicate
          exact ⟨entry, member, of_decide_eq_true (Bool.and_eq_true_iff.mp both).2⟩
        · exact ⟨⟨message, now⟩, List.mem_cons_self, rfl⟩
      · intro entry member
        simp only
        split
        · exact member
        · exact List.mem_cons_of_mem _ member

section Reception

variable {now other : Nat} {stream after : DedupStream μ}
  (received : stream.receive identifier recent now other = some after)

include received

theorem Numbered.receive (numbered : stream.Numbered) : after.Numbered := by
  obtain ⟨message, onWire, wire, list, next, _, _⟩ := receive_cases received
  constructor
  · intro sent member
    rw [next]
    exact numbered.wire sent ((wire sent).mp member).1
  · intro request member
    rw [list] at member
    rw [next]
    rcases List.mem_cons.mp member with rfl | old
    · exact numbered.wire _ onWire
    · exact numbered.received request old

theorem Stores.receive {message : μ} (stores : stream.Stores identifier message) :
    after.Stores identifier message := by
  obtain ⟨_, _, _, _, _, _, kept⟩ := receive_cases received
  obtain ⟨entry, member, same⟩ := stores
  exact ⟨entry, kept entry member, same⟩

theorem Tracks.receive {request : Nat} {message : μ}
    (tracks : stream.Tracks identifier request message) :
    after.Tracks identifier request message := by
  obtain ⟨sent, onWire, wire, list, next, stored, _⟩ := receive_cases received
  constructor
  · exact next ▸ tracks.sent
  · exact tracks.awaits.receive received
  · intro found member
    exact tracks.wire found ((wire _).mp member).1
  · intro member
    rw [list] at member
    rcases List.mem_cons.mp member with rfl | old
    · exact tracks.wire sent onWire ▸ stored
    · exact (tracks.received old).receive received

end Reception

/-- A message is stored at most once as long as none is received that was stored
outside the window. -/
theorem receive_nodup {now request : Nat} {stream after : DedupStream μ}
    (received : stream.receive identifier recent now request = some after)
    (inWindow : ∀ message, (request, message) ∈ stream.wire → ∀ entry ∈ stream.stored,
      entry.message = message → recent (now - entry.storedAt) = true)
    (distinct : (stream.stored.map StoredMessage.message).Nodup) :
    (after.stored.map StoredMessage.message).Nodup := by
  obtain ⟨message, onWire, storedEq⟩ := receive_stored received
  rw [storedEq]
  split
  · exact distinct
  · rename_i fresh
    rw [List.map_cons, List.nodup_cons]
    refine ⟨?_, distinct⟩
    intro present
    obtain ⟨entry, member, same⟩ := List.mem_map.mp present
    apply fresh
    apply List.any_eq_true.mpr
    refine ⟨entry, member, ?_⟩
    rw [inWindow message onWire entry member same, same]
    simp only [decide_true, Bool.and_self]

/-! ### Sends and their times -/

structure Sending (μ : Type) where
  time : Nat
  request : Nat
  message : μ

/-- The requests that are on the wire only now. -/
def sendings (now : Nat) (before after : DedupStream μ) : List (Sending μ) :=
  (after.wire.filter fun sent => decide (before.nextRequest ≤ sent.1)).map fun sent =>
    { time := now
      request := sent.1
      message := sent.2 }

theorem Numbered.sendings_nil {stream after : DedupStream μ} (numbered : stream.Numbered)
    (now : Nat) (known : ∀ sent ∈ after.wire, sent ∈ stream.wire) :
    sendings now stream after = [] := by
  unfold sendings
  rw [List.map_eq_nil_iff, List.filter_eq_nil_iff]
  intro sent member new
  exact Nat.not_lt_of_le (of_decide_eq_true new) (numbered.wire sent (known sent member))

theorem Numbered.sendings_send {stream : DedupStream μ} (numbered : stream.Numbered)
    (now : Nat) (message : μ) :
    sendings now stream (stream.send message) = [⟨now, stream.nextRequest, message⟩] := by
  have old : sendings now stream stream = [] :=
    numbered.sendings_nil now fun _sent member => member
  unfold sendings at old ⊢
  have wire : (stream.send message).wire = (stream.nextRequest, message) :: stream.wire := rfl
  have new : decide (stream.nextRequest ≤ (stream.nextRequest, message).1) = true :=
    decide_eq_true (Nat.le_refl _)
  rw [wire, List.filter_cons, if_pos new, List.map_cons, old]

/-- The request has been received, or it is not yet lost. -/
def Counts (transit now : Nat) (stream : DedupStream μ) (sending : Sending μ) : Prop :=
  sending.request ∈ stream.received ∨ now - sending.time ≤ transit

instance (transit now : Nat) (stream : DedupStream μ) (sending : Sending μ) :
    Decidable (stream.Counts transit now sending) :=
  inferInstanceAs (Decidable (_ ∨ _))

/-- Requests arrive within the transit time or not at all. -/
def Arrives (transit now request : Nat) (log : List (Sending μ)) : Prop :=
  ∀ sending ∈ log, sending.request = request → now - sending.time ≤ transit

instance (transit now request : Nat) (log : List (Sending μ)) :
    Decidable (Arrives transit now request log) :=
  inferInstanceAs (Decidable (∀ sending ∈ log, _ → _))

/-- The log holds all requests, each from no later than its message was stored. -/
structure Recorded (log : List (Sending μ)) (now : Nat) (stream : DedupStream μ) : Prop where
  numbered : stream.Numbered
  past : ∀ sending ∈ log, sending.time ≤ now
  wire : ∀ sent ∈ stream.wire, ∃ sending ∈ log,
    sending.request = sent.1 ∧ sending.message = sent.2
  stored : ∀ entry ∈ stream.stored, ∃ sending ∈ log, sending.message = entry.message ∧
    sending.time ≤ entry.storedAt ∧ sending.request ∈ stream.received

theorem Recorded.empty : Recorded [] 0 (DedupStream.empty : DedupStream μ) :=
  { numbered := .empty
    past := nofun
    wire := nofun
    stored := nofun }

theorem Recorded.later {log : List (Sending μ)} {now later : Nat} {stream : DedupStream μ}
    (recorded : Recorded log now stream) (passed : now ≤ later) : Recorded log later stream :=
  { numbered := recorded.numbered
    past := fun sending member => Nat.le_trans (recorded.past sending member) passed
    wire := recorded.wire
    stored := recorded.stored }

theorem Recorded.send {log : List (Sending μ)} {now : Nat} {stream : DedupStream μ}
    (recorded : Recorded log now stream) (message : μ) :
    Recorded (⟨now, stream.nextRequest, message⟩ :: log) now (stream.send message) := by
  constructor
  · exact recorded.numbered.send message
  · exact List.forall_mem_cons.mpr ⟨Nat.le_refl now, recorded.past⟩
  · intro sent member
    rcases List.mem_cons.mp member with rfl | old
    · exact ⟨_, List.mem_cons_self, rfl, rfl⟩
    · obtain ⟨sending, logged, same⟩ := recorded.wire sent old
      exact ⟨sending, List.mem_cons_of_mem _ logged, same⟩
  · intro entry member
    obtain ⟨sending, logged, facts⟩ := recorded.stored entry member
    exact ⟨sending, List.mem_cons_of_mem _ logged, facts⟩

section Receiving

variable {log : List (Sending μ)} {transit now request : Nat} {stream after : DedupStream μ}
  (recorded : Recorded log now stream)
  (received : stream.receive identifier recent now request = some after)

include recorded received

theorem Recorded.receive : Recorded log now after := by
  obtain ⟨message, onWire, wire, list, _, _, _⟩ := receive_cases received
  obtain ⟨held, heldOnWire, storedEq⟩ := receive_stored received
  obtain ⟨source, logged, number, same⟩ := recorded.wire _ heldOnWire
  constructor
  · exact recorded.numbered.receive received
  · exact recorded.past
  · exact fun sent member => recorded.wire sent ((wire sent).mp member).1
  · have old : ∀ entry ∈ stream.stored, ∃ sending ∈ log, sending.message = entry.message ∧
        sending.time ≤ entry.storedAt ∧ sending.request ∈ after.received := by
      intro entry member
      obtain ⟨sending, known, carries, before, arrived⟩ := recorded.stored entry member
      exact ⟨sending, known, carries, before, list ▸ List.mem_cons_of_mem request arrived⟩
    rw [storedEq]
    split
    · exact old
    · refine List.forall_mem_cons.mpr ⟨⟨source, logged, same, ?_, ?_⟩, old⟩
      · exact recorded.past source logged
      · rw [list, number]
        exact List.mem_cons_self

omit recorded in
theorem counts_of_receive (arrives : Arrives transit now request log) {sending : Sending μ}
    (logged : sending ∈ log) (counts : after.Counts transit now sending) :
    stream.Counts transit now sending := by
  obtain ⟨message, onWire, wire, list, _, _, _⟩ := receive_cases received
  rcases counts with arrived | young
  · rw [list] at arrived
    rcases List.mem_cons.mp arrived with same | before
    · exact .inr (arrives sending logged same)
    · exact .inl before
  · exact .inr young

end Receiving

/-! ### Stored once -/

/-- Where a message is stored, it is sent only while more than the transit time of the
window is left; and every message is stored once. -/
structure Timely (recent : Nat → Bool) (transit : Nat) (log : List (Sending μ))
    (stream : DedupStream μ) : Prop where
  spaced : ∀ sending ∈ log, ∀ entry ∈ stream.stored, entry.message = sending.message →
    recent (sending.time - entry.storedAt + transit) = true
  distinct : (stream.stored.map StoredMessage.message).Nodup

namespace Timely

variable {log : List (Sending μ)} {transit now request : Nat} {stream after : DedupStream μ}

theorem empty : Timely recent transit [] (DedupStream.empty : DedupStream μ) :=
  { spaced := nofun
    distinct := List.nodup_nil }

theorem send (timely : Timely recent transit log stream) {message : μ}
    (young : ∀ entry ∈ stream.stored, entry.message = message →
      recent (now - entry.storedAt + transit) = true) :
    Timely recent transit (⟨now, request, message⟩ :: log) (stream.send message) :=
  { spaced := List.forall_mem_cons.mpr ⟨young, timely.spaced⟩
    distinct := timely.distinct }

theorem receive (timely : Timely recent transit log stream)
    (recorded : Recorded log now stream)
    (received : stream.receive identifier recent now request = some after)
    (arrives : Arrives transit now request log) (fits : recent transit = true)
    (shorter : ∀ age older, age ≤ older → recent older = true → recent age = true) :
    Timely recent transit log after := by
  constructor
  · obtain ⟨message, onWire, storedEq⟩ := receive_stored received
    intro sending logged entry
    rw [storedEq]
    split
    · exact timely.spaced sending logged entry
    · intro member carries
      rcases List.mem_cons.mp member with rfl | old
      · rw [Nat.sub_eq_zero_of_le (recorded.past sending logged), Nat.zero_add]
        exact fits
      · exact timely.spaced sending logged entry old carries
  · apply receive_nodup received _ timely.distinct
    intro message onWire entry member same
    obtain ⟨sending, logged, number, carries⟩ := recorded.wire _ onWire
    have young := arrives sending logged number
    apply shorter _ _ _
      (timely.spaced sending logged entry member (same.trans carries.symm))
    omega

end Timely

end DedupStream

end NoxIngestor
