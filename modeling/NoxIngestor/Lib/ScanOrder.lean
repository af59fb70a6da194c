/-
What a scan delivers, and in which order.

The line of a scan is what it has delivered, what it has queued and what is left
of the batch in hand, in that order.  If batches list their places in order, a
message is first delivered after everything before it, except where a batch
overtakes the queue; and it is delivered once, except where a batch is abandoned
halfway.
-/

import NoxIngestor.Lib.Scan

namespace NoxIngestor.Scanning

variable {β μ : Type}

def Scan.pending (scan : Scan β μ) : List μ :=
  match scan.batch with
  | none => []
  | some (_batch, remaining) => remaining

def Scan.line (scan : Scan β μ) : List μ :=
  scan.acked.reverse ++ scan.queue ++ scan.pending

@[simp] theorem pending_of_free {scan : Scan β μ} (free : scan.batch = none) :
    scan.pending = [] := by
  unfold Scan.pending
  rw [free]

@[simp] theorem pending_of_batch {scan : Scan β μ} {batch : β} {remaining : List μ}
    (current : scan.batch = some (batch, remaining)) : scan.pending = remaining := by
  unfold Scan.pending
  rw [current]

private theorem line_enqueue {scan : Scan β μ} {batch : β} {message : μ} {later : List μ}
    (current : scan.batch = some (batch, message :: later)) :
    Scan.line
      { scan with batch := some (batch, later), queue := scan.queue ++ [message] } =
      scan.line := by
  have pending : scan.pending = message :: later := pending_of_batch current
  rw [Scan.line, Scan.line, pending]
  simp only [Scan.pending, List.append_assoc, List.singleton_append]

private theorem line_drain {scan : Scan β μ} {message : μ} {later : List μ}
    (waiting : scan.queue = message :: later) :
    Scan.line { scan with queue := later, acked := message :: scan.acked } = scan.line := by
  rw [Scan.line, Scan.line, waiting, List.reverse_cons, List.append_assoc (scan.acked.reverse)]
  rfl

private theorem line_complete {scan : Scan β μ} {batch : β}
    (current : scan.batch = some (batch, [])) (next : Nat) :
    Scan.line { scan with next := next, batch := (none : Option (β × List μ)) } =
      scan.line := by
  rw [Scan.line, Scan.line, pending_of_batch current]
  rfl

variable {upTo : β → Nat} {reads : Nat → β → List μ → Prop}

/-! ### Nothing is made up -/

theorem genuine_step {genuine : μ → Prop}
    (sound : ∀ fromPlace batch contents, reads fromPlace batch contents →
      ∀ message ∈ contents, genuine message)
    {before after : Option (Scan β μ)} {move : Move β}
    (all : ∀ scan, before = some scan → ∀ message ∈ scan.line, genuine message)
    (moved : Step upTo reads before move after) :
    ∀ scan, after = some scan → ∀ message ∈ scan.line, genuine message := by
  intro final reached
  cases moved with
  | idle => exact all final reached
  | begin first =>
      cases reached
      exact nofun
  | halt => cases reached
  | fetch scan batch contents free contained =>
      cases reached
      intro message member
      rcases List.mem_append.mp member with earlier | fresh
      · exact all scan rfl message (List.mem_append_left _ earlier)
      · exact sound _ _ _ contained message fresh
  | abandon scan =>
      cases reached
      intro message member
      rcases List.mem_append.mp member with earlier | none
      · exact all scan rfl message (List.mem_append_left _ earlier)
      · cases none
  | deliver scan batch message later current =>
      cases reached
      intro other member
      apply all scan rfl other
      simp only [Scan.line, pending_of_batch current, List.mem_append, List.mem_reverse,
        List.mem_cons] at member ⊢
      tauto
  | enqueue scan batch message later current =>
      cases reached
      rw [line_enqueue current]
      exact all scan rfl
  | drain scan message later waiting =>
      cases reached
      rw [line_drain waiting]
      exact all scan rfl
  | complete scan batch next current forward bound =>
      cases reached
      rw [line_complete current next]
      exact all scan rfl

/-! ### Batches that list a range in order -/

/-- A batch lies between the place it was read from and its last place. -/
def Bounded (upTo : β → Nat) (reads : Nat → β → List μ → Prop) (place : μ → Nat) : Prop :=
  ∀ fromPlace batch contents, reads fromPlace batch contents →
    ∀ message ∈ contents, fromPlace ≤ place message ∧ place message ≤ upTo batch

/-- An order of the messages that refines the order of their places. -/
structure Compatible (place : μ → Nat) (precedes : μ → μ → Prop) : Prop where
  asymm : ∀ first second, precedes first second → ¬ precedes second first
  near : ∀ first second, precedes first second → place first ≤ place second
  further : ∀ first second, place first < place second → precedes first second

/-- A batch lists everything required of its range, and nothing outside, in order. -/
structure Listed (upTo : β → Nat) (reads : Nat → β → List μ → Prop) (required : μ → Prop)
    (place : μ → Nat) (precedes : μ → μ → Prop) : Prop where
  compatible : Compatible place precedes
  bounded : Bounded upTo reads place
  ordered : ∀ fromPlace batch contents, reads fromPlace batch contents →
    contents.Pairwise precedes
  whole : ∀ fromPlace batch contents, reads fromPlace batch contents →
    ∀ item, required item → fromPlace ≤ place item → place item ≤ upTo batch →
      ∃ message ∈ contents, message = item

/-! ### First deliveries in order -/

section Prompt

variable {required : μ → Prop} {precedes : μ → μ → Prop}

/-- Everything required that precedes a message of the list comes before it. -/
def Prompt (required : μ → Prop) (precedes : μ → μ → Prop) : List μ → List μ → Prop
  | _seen, [] => True
  | seen, message :: rest =>
      (∀ other, required other → precedes other message → other ∈ seen) ∧
        Prompt required precedes (message :: seen) rest

namespace Prompt

theorem mono {seen more items : List μ} (prompt : Prompt required precedes seen items)
    (kept : ∀ message ∈ seen, message ∈ more) : Prompt required precedes more items := by
  induction items generalizing seen more with
  | nil => trivial
  | cons message rest ih =>
      refine ⟨?_, ih prompt.2 ?_⟩
      · intro other needed earlier
        exact kept other (prompt.1 other needed earlier)
      · intro other member
        rcases List.mem_cons.mp member with rfl | old
        · exact List.mem_cons_self
        · exact List.mem_cons_of_mem message (kept other old)

theorem append_iff {seen first second : List μ} :
    Prompt required precedes seen (first ++ second) ↔
      Prompt required precedes seen first ∧
        Prompt required precedes (first ++ seen) second := by
  induction first generalizing seen with
  | nil => simp only [List.nil_append, Prompt, true_and]
  | cons message rest ih =>
      have same : Prompt required precedes (rest ++ message :: seen) second ↔
          Prompt required precedes (message :: rest ++ seen) second := by
        constructor
        · intro prompt
          apply prompt.mono
          intro other member
          simp only [List.cons_append, List.mem_append, List.mem_cons] at member ⊢
          tauto
        · intro prompt
          apply prompt.mono
          intro other member
          simp only [List.cons_append, List.mem_append, List.mem_cons] at member ⊢
          tauto
      simp only [List.cons_append, Prompt, ih, same, and_assoc]

private theorem overtake {seen queue rest : List μ} {message : μ}
    (prompt : Prompt required precedes seen (queue ++ message :: rest))
    (behind : ∀ waiting ∈ queue, ¬ precedes waiting message) :
    Prompt required precedes seen (message :: (queue ++ rest)) := by
  obtain ⟨queued, first, later⟩ := append_iff.mp prompt
  constructor
  · intro other needed earlier
    rcases List.mem_append.mp (first other needed earlier) with waiting | old
    · exact absurd earlier (behind other waiting)
    · exact old
  · refine append_iff.mpr ⟨?_, ?_⟩
    · exact queued.mono fun other member => List.mem_cons_of_mem message member
    · apply later.mono
      intro other member
      simp only [List.mem_cons, List.mem_append] at member ⊢
      tauto

theorem of_pairwise {seen items : List μ}
    (asymm : ∀ first second, precedes first second → ¬ precedes second first)
    (ordered : items.Pairwise precedes)
    (complete : ∀ message ∈ items, ∀ other, required other → precedes other message →
      other ∈ seen ∨ other ∈ items) : Prompt required precedes seen items := by
  induction items generalizing seen with
  | nil => trivial
  | cons message rest ih =>
      obtain ⟨first, later⟩ := List.pairwise_cons.mp ordered
      constructor
      · intro other needed earlier
        rcases complete message List.mem_cons_self other needed earlier with old | listed
        · exact old
        · rcases List.mem_cons.mp listed with rfl | after
          · exact absurd earlier (asymm _ _ earlier)
          · exact absurd earlier (asymm _ _ (first other after))
      · apply ih later
        intro next member other needed earlier
        rcases complete next (List.mem_cons_of_mem message member) other needed earlier with
          old | listed
        · exact .inl (List.mem_cons_of_mem message old)
        · rcases List.mem_cons.mp listed with rfl | after
          · exact .inl List.mem_cons_self
          · exact .inr after

theorem first_after {earlier later : List μ} {message : μ}
    (prompt : Prompt required precedes [] (earlier ++ message :: later))
    (needed : required message) (first : message ∉ earlier) :
    ∀ other ∈ earlier, ¬ precedes message other := by
  intro other member overtaken
  obtain ⟨before, after, rfl⟩ := List.append_of_mem member
  have listed := (append_iff.mp prompt).1
  have seen := (append_iff.mp listed).2.1 message needed overtaken
  rw [List.append_nil] at seen
  exact first (List.mem_append_left _ seen)

end Prompt

variable {place : μ → Nat}

/-- A scan has to deliver what is required from its first place on. -/
def Scan.Requires (required : μ → Prop) (place : μ → Nat) (scan : Scan β μ) (message : μ) :
    Prop :=
  required message ∧ scan.first ≤ place message

structure InOrder (upTo : β → Nat) (required : μ → Prop) (place : μ → Nat)
    (precedes : μ → μ → Prop) (scan : Scan β μ) : Prop where
  covered : Covered upTo required place Eq scan
  prompt : Prompt (scan.Requires required place) precedes [] scan.line

theorem Listed.prompt (listed : Listed upTo reads required place precedes) {fromPlace : Nat}
    {batch : β} {contents seen : List μ} (contained : reads fromPlace batch contents)
    {needs : μ → Prop} (needed : ∀ other, needs other → required other)
    (behind : ∀ other, needs other → place other < fromPlace → other ∈ seen) :
    Prompt needs precedes seen contents := by
  apply Prompt.of_pairwise listed.compatible.asymm (listed.ordered _ _ _ contained)
  intro message member other need earlier
  rcases Nat.lt_or_ge (place other) fromPlace with before | inside
  · exact .inl (behind other need before)
  · have within : place other ≤ upTo batch :=
      Nat.le_trans (listed.compatible.near _ _ earlier)
        (listed.bounded _ _ _ contained message member).2
    obtain ⟨found, present, rfl⟩ :=
      listed.whole _ _ _ contained other (needed other need) inside within
    exact .inr present

theorem InOrder.step (listed : Listed upTo reads required place precedes)
    {before after : Option (Scan β μ)} {move : Move β}
    (inOrder : ∀ scan, before = some scan → InOrder upTo required place precedes scan)
    (moved : Step upTo reads before move after)
    (inTurn : move = .deliver → ∀ scan batch message later, before = some scan →
      scan.batch = some (batch, message :: later) →
        ∀ waiting ∈ scan.queue, ¬ precedes waiting message) :
    ∀ scan, after = some scan → InOrder upTo required place precedes scan := by
  intro final reached
  have covered := Covered.step listed.whole (fun scan same => (inOrder scan same).covered) moved
    final reached
  refine ⟨covered, ?_⟩
  cases moved with
  | idle => exact (inOrder final reached).prompt
  | begin first =>
      cases reached
      trivial
  | halt => cases reached
  | fetch scan batch contents free contained =>
      cases reached
      have prompt := (inOrder scan rfl).prompt
      rw [Scan.line, pending_of_free free, List.append_nil] at prompt
      refine Prompt.append_iff.mpr ⟨prompt, ?_⟩
      rw [List.append_nil]
      apply listed.prompt contained (fun other need => need.1)
      intro other need earlier
      obtain ⟨message, held, same⟩ :=
        (inOrder scan rfl).covered.behind other need.1 need.2 earlier
      rw [← same]
      exact List.mem_append.mpr (held.imp_left List.mem_reverse.mpr)
  | abandon scan =>
      cases reached
      refine Prompt.append_iff.mpr ⟨?_, trivial⟩
      exact (Prompt.append_iff.mp (inOrder scan rfl).prompt).1
  | deliver scan batch message later current =>
      cases reached
      have prompt := (inOrder scan rfl).prompt
      rw [Scan.line, pending_of_batch current, List.append_assoc] at prompt
      obtain ⟨delivered, rest⟩ := Prompt.append_iff.mp prompt
      have overtaken := rest.overtake (inTurn rfl scan batch message later rfl current)
      rw [Scan.line, List.reverse_cons, List.append_assoc, List.append_assoc]
      exact Prompt.append_iff.mpr ⟨delivered, overtaken⟩
  | enqueue scan batch message later current =>
      cases reached
      rw [line_enqueue current]
      exact (inOrder scan rfl).prompt
  | drain scan message later waiting =>
      cases reached
      rw [line_drain waiting]
      exact (inOrder scan rfl).prompt
  | complete scan batch next current forward bound =>
      cases reached
      rw [line_complete current next]
      exact (inOrder scan rfl).prompt

theorem InOrder.first_after {scan : Scan β μ}
    (inOrder : InOrder upTo required place precedes scan) {earlier later : List μ}
    {message : μ} (acked : scan.acked.reverse = earlier ++ message :: later)
    (needed : scan.Requires required place message) (first : message ∉ earlier) :
    ∀ other ∈ earlier, ¬ precedes message other := by
  have prompt := inOrder.prompt
  rw [Scan.line, acked, List.append_assoc] at prompt
  exact (Prompt.append_iff.mp prompt).1.first_after needed first

theorem InOrder.none_overtaken {scan : Scan β μ}
    (inOrder : InOrder upTo required place precedes scan) {message other : μ}
    (acked : message ∈ scan.acked) (needed : scan.Requires required place other)
    (earlier : precedes other message) : other ∈ scan.acked := by
  obtain ⟨front, back, split⟩ := List.append_of_mem (List.mem_reverse.mpr acked)
  have prompt := inOrder.prompt
  rw [Scan.line, split, List.append_assoc, List.append_assoc] at prompt
  have seen := (Prompt.append_iff.mp prompt).2.1 other needed earlier
  rw [List.append_nil] at seen
  rw [← List.mem_reverse, split]
  exact List.mem_append_left _ seen

end Prompt

/-! ### Moving on -/

section Onwards

variable {place : μ → Nat}

/-- Since it had delivered the old messages, the scan has been at or past a place. -/
structure Onwards (place : μ → Nat) (start : Nat) (old : List μ) (scan : Scan β μ) : Prop where
  next : start ≤ scan.next
  queue : ∀ message ∈ scan.queue, start ≤ place message
  pending : ∀ message ∈ scan.pending, start ≤ place message
  acked : ∃ new, scan.acked = new ++ old ∧ ∀ message ∈ new, start ≤ place message

/-- A completed batch is followed by the place after it. -/
def Exact (upTo : β → Nat) : Move β → Prop
  | .complete batch next => next = upTo batch + 1
  | _ => True

theorem Onwards.fresh (first : Nat) :
    Onwards place first [] (Scan.fresh first : Scan β μ) :=
  ⟨Nat.le_refl first, nofun, nofun, [], rfl, nofun⟩

theorem Onwards.step (bounded : Bounded upTo reads place) {start : Nat} {old : List μ}
    {scan later : Scan β μ} {move : Move β} (onwards : Onwards place start old scan)
    (moved : Step upTo reads (some scan) move (some later)) (exactly : Exact upTo move) :
    Onwards place start old later := by
  obtain ⟨next, queue, pending, new, acked, since⟩ := onwards
  cases moved with
  | idle => exact ⟨next, queue, pending, new, acked, since⟩
  | fetch _ batch contents free contained =>
      refine ⟨next, queue, ?_, new, acked, since⟩
      intro message member
      exact Nat.le_trans next (bounded _ _ _ contained message member).1
  | abandon => exact ⟨next, queue, nofun, new, acked, since⟩
  | deliver _ batch message rest current =>
      rw [pending_of_batch current] at pending
      obtain ⟨here, remaining⟩ := List.forall_mem_cons.mp pending
      refine ⟨next, queue, remaining, message :: new, congrArg (List.cons message) acked, ?_⟩
      exact List.forall_mem_cons.mpr ⟨here, since⟩
  | enqueue _ batch message rest current =>
      rw [pending_of_batch current] at pending
      obtain ⟨here, remaining⟩ := List.forall_mem_cons.mp pending
      refine ⟨next, ?_, remaining, new, acked, since⟩
      intro other member
      rcases List.mem_append.mp member with queued | added
      · exact queue other queued
      · rw [List.mem_singleton.mp added]
        exact here
  | drain _ message rest waiting =>
      rw [waiting] at queue
      obtain ⟨here, remaining⟩ := List.forall_mem_cons.mp queue
      refine ⟨next, remaining, pending, message :: new, congrArg (List.cons message) acked, ?_⟩
      exact List.forall_mem_cons.mpr ⟨here, since⟩
  | complete _ batch after current forward bound =>
      refine ⟨?_, queue, nofun, new, acked, since⟩
      have successor : after = upTo batch + 1 := exactly
      show start ≤ after
      omega

theorem onwards_step (bounded : Bounded upTo reads place) {before after : Option (Scan β μ)}
    {move : Move β} (onwards : ∀ scan, before = some scan → Onwards place scan.first [] scan)
    (moved : Step upTo reads before move after) (exactly : Exact upTo move) :
    ∀ scan, after = some scan → Onwards place scan.first [] scan := by
  rintro later rfl
  cases before with
  | none =>
      cases moved with
      | begin first => exact .fresh first
  | some scan =>
      have first : later.first = scan.first := by
        cases moved <;> rfl
      rw [first]
      exact (onwards scan rfl).step bounded moved exactly

/-- The scan is past the place of the message and does not hold it. -/
structure Left (place : μ → Nat) (message : μ) (scan : Scan β μ) : Prop where
  next : place message < scan.next
  queue : message ∉ scan.queue
  pending : message ∉ scan.pending

instance Left.decidable [DecidableEq μ] (message : μ) (scan : Scan β μ) :
    Decidable (Left place message scan) :=
  decidable_of_iff (place message < scan.next ∧ message ∉ scan.queue ∧ message ∉ scan.pending)
    ⟨fun all => ⟨all.1, all.2.1, all.2.2⟩, fun left => ⟨left.next, left.queue, left.pending⟩⟩

theorem Left.fresh {message : μ} {first : Nat} (past : place message < first) :
    Left place message (Scan.fresh first : Scan β μ) :=
  ⟨past, List.not_mem_nil, List.not_mem_nil⟩

theorem Left.step (bounded : Bounded upTo reads place) {message : μ} {scan later : Scan β μ}
    {move : Move β} (left : Left place message scan)
    (moved : Step upTo reads (some scan) move (some later)) (exactly : Exact upTo move) :
    Left place message later := by
  obtain ⟨next, queue, pending⟩ := left
  cases moved with
  | idle => exact ⟨next, queue, pending⟩
  | fetch _ batch contents free contained =>
      refine ⟨next, queue, fun member => ?_⟩
      have after := (bounded _ _ _ contained message member).1
      exact absurd next (Nat.not_lt_of_le after)
  | abandon => exact ⟨next, queue, List.not_mem_nil⟩
  | deliver _ batch other rest current =>
      rw [pending_of_batch current] at pending
      exact ⟨next, queue, fun member => pending (List.mem_cons_of_mem other member)⟩
  | enqueue _ batch other rest current =>
      rw [pending_of_batch current] at pending
      refine ⟨next, ?_, fun member => pending (List.mem_cons_of_mem other member)⟩
      intro member
      rcases List.mem_append.mp member with queued | added
      · exact queue queued
      · exact pending (List.mem_singleton.mp added ▸ List.mem_cons_self)
  | drain _ other rest waiting =>
      rw [waiting] at queue
      exact ⟨next, fun member => queue (List.mem_cons_of_mem other member), pending⟩
  | complete _ batch after current forward bound =>
      have successor : after = upTo batch + 1 := exactly
      refine ⟨?_, queue, List.not_mem_nil⟩
      show place message < after
      omega

end Onwards

/-! ### Delivering once -/

section Once

variable {place : μ → Nat} {precedes : μ → μ → Prop}

/-- Everything delivered so far, and what is left of the batch in hand, is in
order; between batches all of it lies behind the scan. -/
structure Once (upTo : β → Nat) (place : μ → Nat) (precedes : μ → μ → Prop)
    (scan : Scan β μ) : Prop where
  queue : scan.queue = []
  increasing : (scan.acked.reverse ++ scan.pending).Pairwise precedes
  behind : ∀ message ∈ scan.acked, place message < scan.next ∨
    ∃ batch remaining, scan.batch = some (batch, remaining) ∧ place message ≤ upTo batch

/-- A batch is abandoned only before anything of it was delivered. -/
def Spares (upTo : β → Nat) (scan : Scan β μ) : Move β → Prop
  | .enqueue => False
  | .abandon => scan.batch = none ∨ scan.acked = [] ∨
      ∃ batch remaining, scan.batch = some (batch, remaining) ∧ upTo batch < scan.next
  | _ => True

theorem Once.fresh (first : Nat) : Once upTo place precedes (Scan.fresh first : Scan β μ) :=
  ⟨rfl, .nil, nofun⟩

theorem Once.step {required : μ → Prop}
    (listed : Listed upTo reads required place precedes) {scan later : Scan β μ}
    {move : Move β} (once : Once upTo place precedes scan)
    (inHand : InHand reads scan)
    (moved : Step upTo reads (some scan) move (some later)) (exactly : Exact upTo move)
    (spares : Spares upTo scan move) : Once upTo place precedes later := by
  obtain ⟨queue, increasing, behind⟩ := once
  cases moved with
  | idle => exact ⟨queue, increasing, behind⟩
  | fetch _ batch contents free contained =>
      have all : ∀ message ∈ scan.acked, place message < scan.next := by
        intro message member
        rcases behind message member with before | ⟨batch, remaining, current, _⟩
        · exact before
        · rw [free] at current
          cases current
      refine ⟨queue, ?_, fun message member => .inl (all message member)⟩
      rw [pending_of_free free, List.append_nil] at increasing
      refine List.pairwise_append.mpr ⟨increasing, listed.ordered _ _ _ contained, ?_⟩
      intro first delivered second fresh
      apply listed.compatible.further
      exact Nat.lt_of_lt_of_le (all first (List.mem_reverse.mp delivered))
        (listed.bounded _ _ _ contained second fresh).1
  | abandon =>
      refine ⟨queue, ?_, ?_⟩
      · rw [show Scan.pending { scan with batch := (none : Option (β × List μ)) } = [] from rfl,
          List.append_nil]
        exact (List.pairwise_append.mp increasing).1
      · intro message member
        rcases behind message member with before | ⟨batch, remaining, current, within⟩
        · exact .inl before
        · rcases spares with free | nothing | ⟨other, rest, same, short⟩
          · rw [free] at current
            cases current
          · rw [show scan.acked = [] from nothing] at member
            cases member
          · rw [current] at same
            cases same
            exact .inl (Nat.lt_of_le_of_lt within short)
  | deliver _ batch message rest current =>
      rw [pending_of_batch current] at increasing
      refine ⟨queue, ?_, ?_⟩
      · rw [List.reverse_cons, List.append_assoc]
        exact increasing
      · intro other member
        rcases List.mem_cons.mp member with rfl | old
        · obtain ⟨contents, contained, suffix⟩ := inHand batch _ current
          exact .inr ⟨batch, rest, rfl,
            (listed.bounded _ _ _ contained other (suffix.subset List.mem_cons_self)).2⟩
        · rcases behind other old with before | ⟨held, remaining, same, within⟩
          · exact .inl before
          · rw [current] at same
            cases same
            exact .inr ⟨batch, rest, rfl, within⟩
  | enqueue _ batch message rest current => exact spares.elim
  | drain _ message rest waiting =>
      rw [queue] at waiting
      cases waiting
  | complete _ batch after current forward bound =>
      have successor : after = upTo batch + 1 := exactly
      rw [pending_of_batch current] at increasing
      refine ⟨queue, increasing, ?_⟩
      intro message member
      left
      show place message < after
      rcases behind message member with before | ⟨held, remaining, same, within⟩
      · omega
      · rw [current] at same
        cases same
        omega

theorem once_step {required : μ → Prop} (listed : Listed upTo reads required place precedes)
    {before after : Option (Scan β μ)} {move : Move β}
    (once : ∀ scan, before = some scan → Once upTo place precedes scan)
    (inHand : ∀ scan, before = some scan → InHand reads scan)
    (moved : Step upTo reads before move after) (exactly : Exact upTo move)
    (spares : ∀ scan, before = some scan → Spares upTo scan move) :
    ∀ scan, after = some scan → Once upTo place precedes scan := by
  rintro later rfl
  cases before with
  | none =>
      cases moved with
      | begin first => exact .fresh first
  | some scan =>
      exact (once scan rfl).step listed (inHand scan rfl) moved exactly (spares scan rfl)

end Once

end NoxIngestor.Scanning
