/-
Ingestion liveness and the health endpoint.

The clock is read in whole milliseconds since the liveness record was created.
-/

import NoxIngestor.Primitives

namespace NoxIngestor

structure IngestionLiveness where
  createdAt : Nat
  lastSuccessMillis : Nat
  stallThreshold : Duration

namespace IngestionLiveness

def new (now : Nat) (stallThreshold : Duration) : IngestionLiveness :=
  { createdAt := now
    lastSuccessMillis := 0
    stallThreshold := stallThreshold }

def recordSuccess (self : IngestionLiveness) (now : Nat) : IngestionLiveness :=
  { self with lastSuccessMillis := now - self.createdAt }

def elapsed (self : IngestionLiveness) (now : Nat) : Duration :=
  Duration.fromMillis ((now - self.createdAt) - self.lastSuccessMillis)

/-- The time since the last recorded success, when it exceeds the threshold. -/
def staleFor (self : IngestionLiveness) (now : Nat) : Option Duration :=
  if self.elapsed now > self.stallThreshold then some (self.elapsed now) else none

theorem staleFor_eq_none_iff (self : IngestionLiveness) (now : Nat) :
    self.staleFor now = none ↔ self.elapsed now ≤ self.stallThreshold := by
  unfold staleFor
  simp only [gt_iff_lt, ite_eq_right_iff, reduceCtorEq, imp_false, Nat.not_lt]

end IngestionLiveness

inductive HealthResponse
  | ok
  | unhealthy (secondsSinceLastBatch : Nat)
deriving DecidableEq

def HealthResponse.status : HealthResponse → Nat
  | .ok => 200
  | .unhealthy _ => 503

def healthCheck (liveness : IngestionLiveness) (now : Nat) : HealthResponse :=
  match liveness.staleFor now with
  | none => .ok
  | some elapsed => .unhealthy elapsed.asSecs

theorem healthCheck_status_iff (liveness : IngestionLiveness) (now : Nat) :
    (healthCheck liveness now).status = 200 ↔
      liveness.elapsed now ≤ liveness.stallThreshold := by
  by_cases recent : liveness.elapsed now ≤ liveness.stallThreshold
  · have fresh := (liveness.staleFor_eq_none_iff now).mpr recent
    have answer : healthCheck liveness now = .ok := by
      rw [healthCheck, fresh]
    rw [answer]
    exact iff_of_true rfl recent
  · have stale : liveness.staleFor now = some (liveness.elapsed now) :=
      if_pos (Nat.lt_of_not_le recent)
    have answer : healthCheck liveness now =
        .unhealthy (Duration.asSecs (liveness.elapsed now)) := by
      rw [healthCheck, stale]
    rw [answer]
    exact iff_of_false (fun wrong => nomatch wrong) recent

end NoxIngestor
