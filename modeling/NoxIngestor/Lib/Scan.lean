/-
A scan that delivers what it reads.

A scan moves through numbered places, batch by batch.  The messages of a batch
are delivered or put into a queue, and the queue is drained later.  A batch can
be abandoned at any time; the scan moves on only when it has been worked off.
Nothing the scan has moved past is then missing from what was acknowledged and
what is queued.
-/

import Mathlib.Data.List.Basic

namespace NoxIngestor.Scanning

/-- `β` identifies a batch; what is kept of it are the messages still to be sent. -/
structure Scan (β μ : Type) where
  first : Nat
  next : Nat
  batch : Option (β × List μ)
  queue : List μ
  /-- Newest first. -/
  acked : List μ

inductive Move (β : Type)
  | idle
  | begin
  | halt
  | fetch
  | abandon
  | deliver
  | enqueue
  | drain
  | complete (batch : β) (next : Nat)

variable {β μ : Type}

def Scan.fresh (first : Nat) : Scan β μ :=
  { first := first
    next := first
    batch := none
    queue := []
    acked := [] }

/-- `upTo` is the last place of a batch; `reads` says which batches can be read
from a place and what they contain. -/
inductive Step (upTo : β → Nat) (reads : Nat → β → List μ → Prop) :
    Option (Scan β μ) → Move β → Option (Scan β μ) → Prop
  | idle (state : Option (Scan β μ)) : Step upTo reads state .idle state
  | begin (first : Nat) : Step upTo reads none .begin (some (Scan.fresh first))
  | halt (state : Option (Scan β μ)) : Step upTo reads state .halt none
  | fetch (scan : Scan β μ) (batch : β) (contents : List μ) (free : scan.batch = none)
      (contained : reads scan.next batch contents) :
      Step upTo reads (some scan) .fetch (some { scan with batch := some (batch, contents) })
  | abandon (scan : Scan β μ) :
      Step upTo reads (some scan) .abandon (some { scan with batch := none })
  | deliver (scan : Scan β μ) (batch : β) (message : μ) (later : List μ)
      (current : scan.batch = some (batch, message :: later)) :
      Step upTo reads (some scan) .deliver
        (some { scan with batch := some (batch, later), acked := message :: scan.acked })
  | enqueue (scan : Scan β μ) (batch : β) (message : μ) (later : List μ)
      (current : scan.batch = some (batch, message :: later)) :
      Step upTo reads (some scan) .enqueue
        (some { scan with batch := some (batch, later), queue := scan.queue ++ [message] })
  | drain (scan : Scan β μ) (message : μ) (later : List μ)
      (waiting : scan.queue = message :: later) :
      Step upTo reads (some scan) .drain
        (some { scan with queue := later, acked := message :: scan.acked })
  | complete (scan : Scan β μ) (batch : β) (next : Nat) (current : scan.batch = some (batch, []))
      (forward : scan.next ≤ upTo batch) (bound : next ≤ upTo batch + 1) :
      Step upTo reads (some scan) (.complete batch next)
        (some { scan with next := next, batch := none })

variable {upTo : β → Nat} {reads : Nat → β → List μ → Prop}

/-- The batch in hand was read from where the scan stands, and what is left of it
is an end of its contents. -/
def InHand (reads : Nat → β → List μ → Prop) (scan : Scan β μ) : Prop :=
  ∀ batch remaining, scan.batch = some (batch, remaining) →
    ∃ contents, reads scan.next batch contents ∧ remaining <:+ contents

theorem InHand.step {before after : Option (Scan β μ)} {move : Move β}
    (inHand : ∀ scan, before = some scan → InHand reads scan)
    (moved : Step upTo reads before move after) :
    ∀ scan, after = some scan → InHand reads scan := by
  intro final reached
  cases moved with
  | idle => exact inHand final reached
  | begin first =>
      cases reached
      exact fun batch remaining current => nomatch current
  | halt => cases reached
  | fetch scan batch contents free contained =>
      cases reached
      intro batch remaining current
      cases current
      exact ⟨contents, contained, List.suffix_refl contents⟩
  | abandon scan =>
      cases reached
      exact fun batch remaining current => nomatch current
  | deliver scan batch message later current =>
      cases reached
      intro batch remaining same
      cases same
      obtain ⟨contents, contained, suffix⟩ := inHand scan rfl _ _ current
      exact ⟨contents, contained, (List.suffix_cons message later).trans suffix⟩
  | enqueue scan batch message later current =>
      cases reached
      intro batch remaining same
      cases same
      obtain ⟨contents, contained, suffix⟩ := inHand scan rfl _ _ current
      exact ⟨contents, contained, (List.suffix_cons message later).trans suffix⟩
  | drain scan message later waiting =>
      cases reached
      exact inHand scan rfl
  | complete scan batch next current forward bound =>
      cases reached
      exact fun batch remaining current => nomatch current

/-! ### Nothing is left behind -/

section Coverage

variable {ε : Type} (upTo) (required : ε → Prop) (place : ε → Nat)
  (carries : μ → ε → Prop)

structure Covered (scan : Scan β μ) : Prop where
  behind : ∀ item, required item → scan.first ≤ place item → place item < scan.next →
    ∃ message, (message ∈ scan.acked ∨ message ∈ scan.queue) ∧ carries message item
  inBatch : ∀ batch remaining, scan.batch = some (batch, remaining) →
    ∀ item, required item → scan.next ≤ place item → place item ≤ upTo batch →
      ∃ message, (message ∈ remaining ∨ message ∈ scan.acked ∨ message ∈ scan.queue) ∧
        carries message item

variable {upTo required place carries}

theorem Covered.fresh (first : Nat) :
    Covered upTo required place carries (Scan.fresh first : Scan β μ) := by
  constructor
  · intro item _needed lower upper
    exact absurd upper (Nat.not_lt_of_le lower)
  · intro batch remaining current
    cases current

theorem Covered.acked {scan : Scan β μ} (covered : Covered upTo required place carries scan)
    (nothing : scan.queue = []) {item : ε} (needed : required item)
    (lower : scan.first ≤ place item) (upper : place item < scan.next) :
    ∃ message ∈ scan.acked, carries message item := by
  obtain ⟨message, delivered | waiting, carried⟩ := covered.behind item needed lower upper
  · exact ⟨message, delivered, carried⟩
  · rw [nothing] at waiting
    cases waiting

theorem Covered.passedOn {scan later : Scan β μ}
    (covered : Covered upTo required place carries scan)
    (first : later.first = scan.first) (next : later.next = scan.next)
    (kept : ∀ message, message ∈ scan.acked ∨ message ∈ scan.queue →
      message ∈ later.acked ∨ message ∈ later.queue)
    (inBatch : ∀ batch remaining, later.batch = some (batch, remaining) →
      ∃ earlier, scan.batch = some (batch, earlier) ∧ ∀ message ∈ earlier,
        message ∈ remaining ∨ message ∈ later.acked ∨ message ∈ later.queue) :
    Covered upTo required place carries later := by
  constructor
  · intro item needed lower upper
    rw [first] at lower
    rw [next] at upper
    obtain ⟨message, held, carried⟩ := covered.behind item needed lower upper
    exact ⟨message, kept message held, carried⟩
  · intro batch remaining current item needed lower upper
    rw [next] at lower
    obtain ⟨earlier, before, passed⟩ := inBatch batch remaining current
    obtain ⟨message, pending | held, carried⟩ :=
      covered.inBatch batch earlier before item needed lower upper
    · exact ⟨message, passed message pending, carried⟩
    · exact ⟨message, .inr (kept message held), carried⟩

theorem Covered.step
    (whole : ∀ fromPlace batch contents, reads fromPlace batch contents →
      ∀ item, required item → fromPlace ≤ place item → place item ≤ upTo batch →
        ∃ message ∈ contents, carries message item)
    {before after : Option (Scan β μ)} {move : Move β}
    (covered : ∀ scan, before = some scan → Covered upTo required place carries scan)
    (moved : Step upTo reads before move after) :
    ∀ scan, after = some scan → Covered upTo required place carries scan := by
  intro final reached
  cases moved with
  | idle => exact covered final reached
  | begin first =>
      cases reached
      exact Covered.fresh first
  | halt => cases reached
  | fetch scan batch contents free contained =>
      cases reached
      refine ⟨(covered scan rfl).behind, ?_⟩
      intro batch remaining current item needed lower upper
      cases current
      obtain ⟨message, member, carried⟩ := whole _ _ _ contained item needed lower upper
      exact ⟨message, .inl member, carried⟩
  | abandon scan =>
      cases reached
      exact (covered scan rfl).passedOn rfl rfl (fun _message held => held) nofun
  | deliver scan batch message later current =>
      cases reached
      refine (covered scan rfl).passedOn rfl rfl ?_ ?_
      · intro found held
        exact held.imp_left (List.mem_cons_of_mem message)
      · intro batch remaining same
        cases same
        refine ⟨_, current, fun found pending => ?_⟩
        rcases List.mem_cons.mp pending with this | remains
        · exact .inr (.inl (List.mem_cons.mpr (.inl this)))
        · exact .inl remains
  | enqueue scan batch message later current =>
      cases reached
      refine (covered scan rfl).passedOn rfl rfl ?_ ?_
      · intro found held
        exact held.imp_right (List.mem_append_left [message])
      · intro batch remaining same
        cases same
        refine ⟨_, current, fun found pending => ?_⟩
        rcases List.mem_cons.mp pending with this | remains
        · exact .inr (.inr (List.mem_append_right scan.queue (List.mem_singleton.mpr this)))
        · exact .inl remains
  | drain scan message later waiting =>
      cases reached
      refine (covered scan rfl).passedOn rfl rfl ?_ ?_
      · rintro found (delivered | queued)
        · exact .inl (List.mem_cons_of_mem message delivered)
        · rw [waiting] at queued
          rcases List.mem_cons.mp queued with this | remains
          · exact .inl (List.mem_cons.mpr (.inl this))
          · exact .inr remains
      · intro batch remaining current
        exact ⟨remaining, current, fun _found pending => .inl pending⟩
  | complete scan batch next current forward bound =>
      cases reached
      refine ⟨?_, fun batch remaining same => nomatch same⟩
      intro item needed lower upper
      by_cases done : place item < scan.next
      · exact (covered scan rfl).behind item needed lower done
      · have within : place item ≤ upTo batch := Nat.le_of_lt_succ (Nat.lt_of_lt_of_le upper bound)
        obtain ⟨found, pending | delivered, carried⟩ := (covered scan rfl).inBatch _ _ current
          item needed (Nat.le_of_not_lt done) within
        · cases pending
        · exact ⟨found, delivered, carried⟩

end Coverage

end NoxIngestor.Scanning
