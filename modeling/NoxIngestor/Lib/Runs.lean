/-
Runs of a partial step function.

A run is a list of labels, each chosen by the environment or by the scheduler.
A guard restricts the labels that may be taken in a state; an invariant that
every guarded step preserves holds after every guarded run.  A measure bounds the
number of steps that lower it, and shows that a goal can be reached when allowed
steps lower it everywhere else.  Steps that another system can answer make runs that
it can answer.  A potential that each step raises by no more than
it costs is raised by a run by no more than its steps cost together.  A log that the
step function does not see can be kept beside the state.
-/

import Mathlib.Data.List.Basic

namespace NoxIngestor.Runs

variable {σ ι : Type}

def run (step : σ → ι → Option σ) : σ → List ι → Option σ
  | state, [] => some state
  | state, label :: rest => (step state label).bind (fun next => run step next rest)

/-- Every label of the run is allowed in the state it is taken in. -/
def Guarded (step : σ → ι → Option σ) (guard : σ → ι → Prop) : σ → List ι → Prop
  | _state, [] => True
  | state, label :: rest =>
      guard state label ∧
        ∀ next, step state label = some next → Guarded step guard next rest

variable {step : σ → ι → Option σ} {guard other : σ → ι → Prop}

/-- Whether a given run is guarded can be found out by taking its steps. -/
instance Guarded.decidable [∀ state label, Decidable (guard state label)] :
    (state : σ) → (labels : List ι) → Decidable (Guarded step guard state labels)
  | _state, [] => isTrue trivial
  | state, label :: rest =>
      match taken : step state label with
      | none =>
          decidable_of_iff (guard state label)
            ⟨fun allowed => ⟨allowed, fun next reached => by
                rw [taken] at reached
                cases reached⟩,
              fun guarded => guarded.1⟩
      | some next =>
          have : Decidable (Guarded step guard next rest) := Guarded.decidable next rest
          decidable_of_iff (guard state label ∧ Guarded step guard next rest)
            ⟨fun both => ⟨both.1, fun other reached => by
                rw [taken] at reached
                cases reached
                exact both.2⟩,
              fun guarded => ⟨guarded.1, guarded.2 next taken⟩⟩

theorem run_cons {state final : σ} {label : ι} {rest : List ι} :
    run step state (label :: rest) = some final ↔
      ∃ next, step state label = some next ∧ run step next rest = some final := by
  simp only [run, Option.bind_eq_some_iff]

theorem run_step {state next : σ} {label : ι} (taken : step state label = some next)
    (rest : List ι) : run step state (label :: rest) = run step next rest := by
  rw [run, taken]
  rfl

theorem run_append {state final : σ} {first second : List ι} :
    run step state (first ++ second) = some final ↔
      ∃ middle, run step state first = some middle ∧ run step middle second = some final := by
  induction first generalizing state with
  | nil =>
      simp only [List.nil_append, run, Option.some.injEq, exists_eq_left']
  | cons label rest ih =>
      rw [List.cons_append, run_cons]
      simp only [ih, run_cons]
      constructor
      · rintro ⟨next, taken, middle, reached, ends⟩
        exact ⟨middle, ⟨next, taken, reached⟩, ends⟩
      · rintro ⟨middle, ⟨next, taken, reached⟩, ends⟩
        exact ⟨next, taken, middle, reached, ends⟩

theorem run_concat {state final : σ} {label : ι} {labels : List ι} :
    run step state (labels ++ [label]) = some final ↔
      ∃ middle, run step state labels = some middle ∧ step middle label = some final := by
  rw [run_append]
  simp only [run, Option.bind_fun_some]

theorem Guarded.mono (implied : ∀ state label, guard state label → other state label)
    {state : σ} {labels : List ι} (guarded : Guarded step guard state labels) :
    Guarded step other state labels := by
  induction labels generalizing state with
  | nil => trivial
  | cons label rest ih =>
      exact ⟨implied state label guarded.1, fun next taken => ih (guarded.2 next taken)⟩

theorem Guarded.append {state middle : σ} {first second : List ι}
    (guarded : Guarded step guard state (first ++ second))
    (reached : run step state first = some middle) :
    Guarded step guard state first ∧ Guarded step guard middle second := by
  induction first generalizing state with
  | nil =>
      cases reached
      exact ⟨trivial, guarded⟩
  | cons label rest ih =>
      obtain ⟨next, taken, later⟩ := run_cons.mp reached
      have tail := ih (guarded.2 next taken) later
      refine ⟨⟨guarded.1, ?_⟩, tail.2⟩
      intro other otherTaken
      rw [taken] at otherTaken
      cases otherTaken
      exact tail.1

theorem Guarded.join {state middle : σ} {first second : List ι}
    (before : Guarded step guard state first) (reached : run step state first = some middle)
    (later : Guarded step guard middle second) :
    Guarded step guard state (first ++ second) := by
  induction first generalizing state with
  | nil =>
      cases reached
      exact later
  | cons label rest ih =>
      obtain ⟨next, taken, ends⟩ := run_cons.mp reached
      refine ⟨before.1, fun other otherTaken => ?_⟩
      rw [taken] at otherTaken
      cases otherTaken
      exact ih (before.2 next taken) ends

theorem Guarded.and {state : σ} {labels : List ι} (first : Guarded step guard state labels)
    (second : Guarded step other state labels) :
    Guarded step (fun state label => guard state label ∧ other state label) state labels := by
  induction labels generalizing state with
  | nil => trivial
  | cons label rest ih =>
      exact ⟨⟨first.1, second.1⟩, fun next taken => ih (first.2 next taken) (second.2 next taken)⟩

theorem guarded_of_labels {allowed : ι → Prop} {state : σ} {labels : List ι}
    (all : ∀ label ∈ labels, allowed label) :
    Guarded step (fun _ label => allowed label) state labels := by
  induction labels generalizing state with
  | nil => trivial
  | cons label rest ih =>
      refine ⟨all label List.mem_cons_self, fun next _taken => ih ?_⟩
      intro later member
      exact all later (List.mem_cons_of_mem label member)

/-- An invariant of every guarded step holds after every guarded run. -/
theorem run_invariant {invariant : σ → Prop}
    (preserved : ∀ state label next, guard state label → invariant state →
      step state label = some next → invariant next)
    {state final : σ} {labels : List ι} (guarded : Guarded step guard state labels)
    (initial : invariant state) (reached : run step state labels = some final) :
    invariant final := by
  induction labels generalizing state with
  | nil =>
      cases reached
      exact initial
  | cons label rest ih =>
      obtain ⟨next, taken, later⟩ := run_cons.mp reached
      exact ih (guarded.2 next taken)
        (preserved state label next guarded.1 initial taken) later

/-! ### Keeping a log -/

section Logging

variable {ρ : Type} {entries : σ → ι → σ → List ρ}

/-- Each step adds its entries to a log, newest first. -/
def logged (step : σ → ι → Option σ) (entries : σ → ι → σ → List ρ) :
    σ × List ρ → ι → Option (σ × List ρ)
  | (state, log), label =>
      (step state label).map fun next => (next, entries state label next ++ log)

theorem logged_eq_some {before after : σ × List ρ} {label : ι} :
    logged step entries before label = some after ↔
      step before.1 label = some after.1 ∧
        after.2 = entries before.1 label after.1 ++ before.2 := by
  unfold logged
  rw [Option.map_eq_some_iff]
  constructor
  · rintro ⟨next, taken, rfl⟩
    exact ⟨taken, rfl⟩
  · rintro ⟨taken, log⟩
    exact ⟨after.1, taken, Prod.ext rfl log.symm⟩

theorem run_logged {state final : σ} {labels : List ι}
    (reached : run step state labels = some final) (log : List ρ) :
    ∃ later, run (logged step entries) (state, log) labels = some (final, later) := by
  induction labels generalizing state log with
  | nil =>
      cases reached
      exact ⟨log, rfl⟩
  | cons label rest ih =>
      obtain ⟨next, taken, ends⟩ := run_cons.mp reached
      obtain ⟨later, kept⟩ := ih ends (entries state label next ++ log)
      exact ⟨later, run_cons.mpr ⟨_, logged_eq_some.mpr ⟨taken, rfl⟩, kept⟩⟩

theorem run_of_logged {state final : σ} {log later : List ρ} {labels : List ι}
    (reached : run (logged step entries) (state, log) labels = some (final, later)) :
    run step state labels = some final := by
  induction labels generalizing state log with
  | nil =>
      cases reached
      rfl
  | cons label rest ih =>
      obtain ⟨⟨next, entered⟩, taken, ends⟩ := run_cons.mp reached
      exact run_cons.mpr ⟨next, (logged_eq_some.mp taken).1, ih ends⟩

end Logging

/-! ### Reaching a state by allowed steps -/

/-- Some steps, each allowed where it is taken, lead from the one state to the other. -/
def Leads (step : σ → ι → Option σ) (guard : σ → ι → Prop) (state final : σ) : Prop :=
  ∃ labels, Guarded step guard state labels ∧ run step state labels = some final

section Leading

variable {state middle final : σ}

theorem Leads.refl : Leads step guard state state := ⟨[], trivial, rfl⟩

theorem Leads.trans (first : Leads step guard state middle)
    (second : Leads step guard middle final) : Leads step guard state final := by
  obtain ⟨labels, before, reached⟩ := first
  obtain ⟨rest, later, ends⟩ := second
  exact ⟨labels ++ rest, before.join reached later, run_append.mpr ⟨middle, reached, ends⟩⟩

theorem Leads.one {label : ι} (taken : step state label = some final)
    (may : guard state label) : Leads step guard state final :=
  ⟨[label], ⟨may, fun _next _taken => trivial⟩, (run_step taken []).trans rfl⟩

theorem Leads.after {label : ι} (taken : step state label = some middle)
    (may : guard state label) (later : Leads step guard middle final) :
    Leads step guard state final :=
  (Leads.one taken may).trans later

theorem Leads.mono (implied : ∀ state label, guard state label → other state label)
    (leads : Leads step guard state final) : Leads step other state final := by
  obtain ⟨labels, guarded, reached⟩ := leads
  exact ⟨labels, guarded.mono implied, reached⟩

theorem Leads.invariant (leads : Leads step guard state final) (invariant : σ → Prop)
    (preserved : ∀ state label next, guard state label → invariant state →
      step state label = some next → invariant next)
    (initial : invariant state) : invariant final := by
  obtain ⟨labels, guarded, reached⟩ := leads
  exact run_invariant preserved guarded initial reached

theorem Leads.of_labels {allowed : ι → Prop} {labels : List ι}
    (implied : ∀ state label, allowed label → guard state label)
    (all : ∀ label ∈ labels, allowed label) (reached : run step state labels = some final) :
    Leads step guard state final :=
  ⟨labels, (guarded_of_labels all).mono implied, reached⟩

theorem Leads.labels {allowed : ι → Prop}
    (leads : Leads step (fun _state label => allowed label) state final) :
    ∃ labels, (∀ label ∈ labels, allowed label) ∧ run step state labels = some final := by
  obtain ⟨labels, guarded, reached⟩ := leads
  refine ⟨labels, ?_, reached⟩
  induction labels generalizing state with
  | nil => exact fun _label member => absurd member List.not_mem_nil
  | cons label rest ih =>
      obtain ⟨next, taken, ends⟩ := run_cons.mp reached
      exact List.forall_mem_cons.mpr ⟨guarded.1, ih (guarded.2 next taken) ends⟩

end Leading

/-! ### Simulations -/

/-- Where each step is answered by steps of another system, so is each run. -/
theorem run_simulates {τ κ : Type} {coarse : τ → κ → Option τ} {allowed : ι → Prop}
    {may : τ → κ → Prop} {related : σ → τ → Prop}
    (answered : ∀ state label next other, allowed label → related state other →
      step state label = some next →
        ∃ later, Leads coarse may other later ∧ related next later)
    {state final : σ} {labels : List ι} (all : ∀ label ∈ labels, allowed label) {other : τ}
    (initial : related state other) (reached : run step state labels = some final) :
    ∃ later, Leads coarse may other later ∧ related final later := by
  induction labels generalizing state other with
  | nil =>
      cases reached
      exact ⟨other, .refl, initial⟩
  | cons label rest ih =>
      obtain ⟨next, taken, ends⟩ := run_cons.mp reached
      obtain ⟨middle, first, kept⟩ :=
        answered state label next other (all label List.mem_cons_self) initial taken
      obtain ⟨later, second, related⟩ :=
        ih (fun label member => all label (List.mem_cons_of_mem _ member)) kept ends
      exact ⟨later, first.trans second, related⟩

/-! ### Measures -/

section Measures

variable {allowed : ι → Prop} {invariant goal : σ → Prop} {measure : σ → Nat}

theorem run_spends {counted : ι → Bool}
    (preserved : ∀ state label next, guard state label → invariant state →
      step state label = some next →
        invariant next ∧ measure next + (counted label).toNat ≤ measure state)
    {state final : σ} {labels : List ι} (guarded : Guarded step guard state labels)
    (initial : invariant state) (reached : run step state labels = some final) :
    invariant final ∧ measure final + labels.countP counted ≤ measure state := by
  induction labels generalizing state with
  | nil =>
      cases reached
      exact ⟨initial, Nat.le_refl _⟩
  | cons label rest ih =>
      obtain ⟨next, taken, later⟩ := run_cons.mp reached
      obtain ⟨kept, used⟩ := preserved state label next guarded.1 initial taken
      obtain ⟨holds, bound⟩ := ih (guarded.2 next taken) kept later
      refine ⟨holds, ?_⟩
      have counts : (label :: rest).countP counted =
          rest.countP counted + (counted label).toNat := by
        rw [List.countP_cons]
        cases counted label with
        | true => rfl
        | false => rfl
      omega

theorem run_bounded {counted : ι → Bool}
    (preserved : ∀ state label next, allowed label → invariant state →
      step state label = some next →
        invariant next ∧ measure next + (counted label).toNat ≤ measure state)
    {state final : σ} {labels : List ι} (all : ∀ label ∈ labels, allowed label)
    (initial : invariant state) (reached : run step state labels = some final) :
    invariant final ∧ measure final + labels.countP counted ≤ measure state :=
  run_spends preserved (guarded_of_labels all) initial reached

/-- Where the goal is not reached, some allowed steps use up part of the measure:
then the goal can be reached. -/
theorem leads_to_goal
    (advances : ∀ state, invariant state → ¬ goal state →
      ∃ next, Leads step guard state next ∧ invariant next ∧ measure next < measure state)
    {state : σ} (initial : invariant state) :
    ∃ final, Leads step guard state final ∧ goal final := by
  induction bound : measure state using Nat.strongRecOn generalizing state with
  | ind size ih =>
      by_cases done : goal state
      · exact ⟨state, .refl, done⟩
      · obtain ⟨next, first, holds, less⟩ := advances state initial done
        rw [bound] at less
        obtain ⟨final, later, attained⟩ := ih (measure next) less holds rfl
        exact ⟨final, first.trans later, attained⟩

end Measures

/-! ### Charges -/

/-- What the steps of a run cost together. -/
def total (step : σ → ι → Option σ) (cost : σ → ι → Nat) : σ → List ι → Nat
  | _state, [] => 0
  | state, label :: rest =>
      cost state label +
        match step state label with
        | none => 0
        | some next => total step cost next rest

theorem total_cons {state next : σ} {label : ι} (taken : step state label = some next)
    (cost : σ → ι → Nat) (rest : List ι) :
    total step cost state (label :: rest) = cost state label + total step cost next rest := by
  rw [total, taken]

/-- Steps that each raise the potential by at most their cost raise it together by
at most what they cost together. -/
theorem run_charged {invariant : σ → Prop} {potential : σ → Nat} {cost : σ → ι → Nat}
    (preserved : ∀ state label next, guard state label → invariant state →
      step state label = some next →
        invariant next ∧ potential next ≤ potential state + cost state label)
    {state final : σ} {labels : List ι} (guarded : Guarded step guard state labels)
    (initial : invariant state) (reached : run step state labels = some final) :
    potential final ≤ potential state + total step cost state labels := by
  induction labels generalizing state with
  | nil =>
      cases reached
      exact Nat.le_add_right _ _
  | cons label rest ih =>
      obtain ⟨next, taken, later⟩ := run_cons.mp reached
      obtain ⟨kept, raised⟩ := preserved state label next guarded.1 initial taken
      have remaining := ih (guarded.2 next taken) kept later
      rw [total_cons taken]
      omega

end NoxIngestor.Runs
