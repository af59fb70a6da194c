/-
The bisection of a block range, call by call.

The provider is arbitrary: it may answer the same range differently each time.
-/

import NoxIngestor.Chain.Client
import NoxIngestor.Lib.Tiling

namespace NoxIngestor

open Tiling

structure FetchCall where
  fromBlock : Nat
  toBlock : Nat
  answer : Except ChainError (List Log)

namespace FetchCall

def range (call : FetchCall) : Nat × Nat := (call.fromBlock, call.toBlock)

/-- The range of a call that succeeded, with the logs it gave. -/
def fetched? (call : FetchCall) : Option ((Nat × Nat) × List Log) :=
  match call.answer with
  | .ok batch => some (call.range, batch)
  | .error _error => none

/-- The call fails in a way the loop goes on after. -/
def splits (call : FetchCall) : Prop :=
  ∃ error, call.answer = .error error ∧ error.isLogResponseTooLarge = true ∧
    call.fromBlock < call.toBlock

/-- The midpoint of the range and the block after it are `u64` values, and so is
every number on the way there. -/
def InRange (call : FetchCall) : Prop :=
  call.fromBlock ≤ call.toBlock ∧ call.toBlock < u64Modulus ∧
    (call.fromBlock < call.toBlock →
      call.fromBlock + (call.toBlock - call.fromBlock) / 2 + 1 < u64Modulus)

end FetchCall

/-- The calls `splitLoop` makes, in order, with their answers. -/
def splitCalls (fetch : Fetch) (calls : Nat) : List (Nat × Nat) → List FetchCall
  | [] => []
  | (fromBlock, toBlock) :: stack =>
      { fromBlock := fromBlock
        toBlock := toBlock
        answer := fetch calls fromBlock toBlock } ::
      match fetch calls fromBlock toBlock with
      | .ok _batch => splitCalls fetch (calls + 1) stack
      | .error error =>
          if error.isLogResponseTooLarge = true ∧ fromBlock < toBlock then
            let mid := fromBlock + (toBlock - fromBlock) / 2
            splitCalls fetch (calls + 1) ((fromBlock, mid) :: (mid + 1, toBlock) :: stack)
          else []
termination_by stack => (stack.map fun range => 2 * (range.2 - range.1) + 1).sum
decreasing_by
  all_goals simp only [List.map_cons, List.sum_cons]
  all_goals omega

def fetchedBy (calls : List FetchCall) : List ((Nat × Nat) × List Log) :=
  calls.filterMap FetchCall.fetched?

/-! ### Along the loop -/

section Loop

variable {fetch : Fetch} {fromBlock toBlock : Nat} {stack : List (Nat × Nat)}

theorem splitCalls_ok {calls : Nat} {batch : List Log}
    (answered : fetch calls fromBlock toBlock = .ok batch) :
    splitCalls fetch calls ((fromBlock, toBlock) :: stack) =
      { fromBlock := fromBlock, toBlock := toBlock, answer := .ok batch } ::
        splitCalls fetch (calls + 1) stack := by
  rw [splitCalls]
  simp only [answered]

theorem splitCalls_split {calls : Nat} {error : ChainError}
    (answered : fetch calls fromBlock toBlock = .error error)
    (tooLarge : error.isLogResponseTooLarge = true ∧ fromBlock < toBlock) :
    splitCalls fetch calls ((fromBlock, toBlock) :: stack) =
      { fromBlock := fromBlock, toBlock := toBlock, answer := .error error } ::
        splitCalls fetch (calls + 1) ((fromBlock, fromBlock + (toBlock - fromBlock) / 2) ::
          (fromBlock + (toBlock - fromBlock) / 2 + 1, toBlock) :: stack) := by
  rw [splitCalls]
  simp only [answered, if_pos tooLarge]

theorem splitCalls_fail {calls : Nat} {error : ChainError}
    (answered : fetch calls fromBlock toBlock = .error error)
    (final : ¬ (error.isLogResponseTooLarge = true ∧ fromBlock < toBlock)) :
    splitCalls fetch calls ((fromBlock, toBlock) :: stack) =
      [{ fromBlock := fromBlock, toBlock := toBlock, answer := .error error }] := by
  rw [splitCalls]
  simp only [answered, if_neg final]

private theorem tiles_split {lower upper : Nat} (wide : fromBlock < toBlock)
    (tiles : Tiles lower ((fromBlock, toBlock) :: stack) upper) :
    Tiles lower ((fromBlock, fromBlock + (toBlock - fromBlock) / 2) ::
      (fromBlock + (toBlock - fromBlock) / 2 + 1, toBlock) :: stack) upper := by
  obtain ⟨starts, ordered, later⟩ := tiles_cons.mp tiles
  refine tiles_cons.mpr ⟨starts, ?_, tiles_cons.mpr ⟨rfl, ?_, later⟩⟩
  · omega
  · omega

/-- Each call takes a range off the stack for which at most twice its blocks less
one calls are made. -/
private theorem splitCalls_length (fetch : Fetch) (calls : Nat) (stack : List (Nat × Nat)) :
    (splitCalls fetch calls stack).length ≤
      (stack.map fun range => 2 * (range.2 - range.1) + 1).sum := by
  fun_induction splitLoop fetch calls [] stack with
  | case1 calls logs =>
      rw [splitCalls]
      exact Nat.zero_le _
  | case2 calls logs fromBlock toBlock stack batch answered ih =>
      rw [splitCalls_ok answered, List.length_cons, List.map_cons, List.sum_cons]
      omega
  | case3 calls logs fromBlock toBlock stack error answered tooLarge mid ih =>
      rw [splitCalls_split answered tooLarge, List.length_cons, List.map_cons, List.sum_cons]
      simp only [List.map_cons, List.sum_cons] at ih
      simp only [mid] at ih
      omega
  | case4 calls logs fromBlock toBlock stack error answered final =>
      rw [splitCalls_fail answered final, List.length_singleton, List.map_cons, List.sum_cons]
      omega

private theorem splitCalls_answer (fetch : Fetch) (calls : Nat) (stack : List (Nat × Nat)) :
    ∀ number call, (splitCalls fetch calls stack)[number]? = some call →
      call.answer = fetch (calls + number) call.fromBlock call.toBlock := by
  have step {calls : Nat} {first : FetchCall} {rest : List FetchCall}
      (here : first.answer = fetch calls first.fromBlock first.toBlock)
      (later : ∀ number call, rest[number]? = some call →
        call.answer = fetch (calls + 1 + number) call.fromBlock call.toBlock) :
      ∀ number call, (first :: rest)[number]? = some call →
        call.answer = fetch (calls + number) call.fromBlock call.toBlock := by
    intro number call found
    cases number with
    | zero =>
        cases found
        exact here
    | succ number =>
        have tail := later number call found
        rw [Nat.add_right_comm] at tail
        exact tail
  fun_induction splitLoop fetch calls [] stack with
  | case1 calls logs =>
      intro number call found
      rw [splitCalls] at found
      cases found
  | case2 calls logs fromBlock toBlock stack batch answered ih =>
      rw [splitCalls_ok answered]
      exact step answered.symm ih
  | case3 calls logs fromBlock toBlock stack error answered tooLarge mid ih =>
      rw [splitCalls_split answered tooLarge]
      exact step answered.symm ih
  | case4 calls logs fromBlock toBlock stack error answered final =>
      rw [splitCalls_fail answered final]
      exact step answered.symm (fun number call found => nomatch found)

private theorem splitCalls_inside (fetch : Fetch) (calls upper : Nat) (stack : List (Nat × Nat)) :
    ∀ lower, Tiles lower stack upper → ∀ call ∈ splitCalls fetch calls stack,
      lower ≤ call.fromBlock ∧ call.fromBlock ≤ call.toBlock ∧ call.toBlock < upper := by
  fun_induction splitLoop fetch calls [] stack with
  | case1 calls logs =>
      intro lower tiles call member
      rw [splitCalls] at member
      cases member
  | case2 calls logs fromBlock toBlock stack batch answered ih =>
      intro lower tiles call member
      obtain ⟨starts, ordered, later⟩ := tiles_cons.mp tiles
      have bounds := later.le
      rw [splitCalls_ok answered] at member
      rcases List.mem_cons.mp member with same | inRest
      · subst call
        exact ⟨Nat.le_of_eq starts.symm, ordered, bounds⟩
      · have further := ih _ later call inRest
        omega
  | case3 calls logs fromBlock toBlock stack error answered tooLarge mid ih =>
      intro lower tiles call member
      obtain ⟨starts, ordered, later⟩ := tiles_cons.mp tiles
      rw [splitCalls_split answered tooLarge] at member
      rcases List.mem_cons.mp member with same | inRest
      · subst call
        exact ⟨Nat.le_of_eq starts.symm, ordered, later.le⟩
      · exact ih lower (tiles_split tooLarge.2 tiles) call inRest
  | case4 calls logs fromBlock toBlock stack error answered final =>
      intro lower tiles call member
      obtain ⟨starts, ordered, later⟩ := tiles_cons.mp tiles
      rw [splitCalls_fail answered final] at member
      rw [List.mem_singleton.mp member]
      exact ⟨Nat.le_of_eq starts.symm, ordered, later.le⟩

/-- A loop that ends well has fetched ranges that tile what its stack tiled, and
appended their logs in this order. -/
theorem splitLoop_ok {calls : Nat} {logs result : List Log}
    (success : splitLoop fetch calls logs stack = .ok result) {lower upper : Nat}
    (tiles : Tiles lower stack upper) :
    Tiles lower ((fetchedBy (splitCalls fetch calls stack)).map Prod.fst) upper ∧
      result = logs ++ (fetchedBy (splitCalls fetch calls stack)).flatMap Prod.snd := by
  fun_induction splitLoop fetch calls logs stack generalizing lower with
  | case1 calls logs =>
      cases success
      rw [splitCalls]
      exact ⟨tiles, (List.append_nil _).symm⟩
  | case2 calls logs fromBlock toBlock stack batch answered ih =>
      obtain ⟨starts, ordered, later⟩ := tiles_cons.mp tiles
      obtain ⟨tiled, joined⟩ := ih success later
      rw [splitCalls_ok answered]
      constructor
      · exact tiles_cons.mpr ⟨starts, ordered, tiled⟩
      · rw [joined, List.append_assoc]
        rfl
  | case3 calls logs fromBlock toBlock stack error answered tooLarge mid ih =>
      rw [splitCalls_split answered tooLarge]
      exact ih success (tiles_split tooLarge.2 tiles)
  | case4 calls logs fromBlock toBlock stack error answered final => cases success

theorem splitLoop_error {calls : Nat} {logs : List Log} {error : ChainError}
    (failure : splitLoop fetch calls logs stack = .error error) :
    ∃ earlier last, splitCalls fetch calls stack = earlier ++ [last] ∧
      last.answer = .error error ∧
      ¬ (error.isLogResponseTooLarge = true ∧ last.fromBlock < last.toBlock) ∧
      ∀ call ∈ earlier, (∃ batch, call.answer = .ok batch) ∨ call.splits := by
  fun_induction splitLoop fetch calls logs stack with
  | case1 calls logs => cases failure
  | case2 calls logs fromBlock toBlock stack batch answered ih =>
      obtain ⟨earlier, last, split, failed, final, before⟩ := ih failure
      rw [splitCalls_ok answered, split]
      refine ⟨_ :: earlier, last, rfl, failed, final, ?_⟩
      exact List.forall_mem_cons.mpr ⟨.inl ⟨batch, rfl⟩, before⟩
  | case3 calls logs fromBlock toBlock stack other answered tooLarge mid ih =>
      obtain ⟨earlier, last, split, failed, final, before⟩ := ih failure
      rw [splitCalls_split answered tooLarge, split]
      refine ⟨_ :: earlier, last, rfl, failed, final, ?_⟩
      exact List.forall_mem_cons.mpr ⟨.inr ⟨other, rfl, tooLarge⟩, before⟩
  | case4 calls logs fromBlock toBlock stack other answered final =>
      cases failure
      rw [splitCalls_fail answered final]
      exact ⟨[], _, rfl, rfl, final, fun _call member => absurd member List.not_mem_nil⟩

/-- The loop reads no other answer: a provider that gives these calls the same
answers leads to the same result. -/
theorem splitLoop_congr (fetch other : Fetch) (calls : Nat) (logs : List Log)
    (stack : List (Nat × Nat))
    (same : ∀ number call, (splitCalls fetch calls stack)[number]? = some call →
      other (calls + number) call.fromBlock call.toBlock = call.answer) :
    splitLoop other calls logs stack = splitLoop fetch calls logs stack := by
  fun_induction splitLoop fetch calls logs stack with
  | case1 calls logs => rw [splitLoop]
  | case2 calls logs fromBlock toBlock stack batch answered ih =>
      rw [splitCalls_ok answered] at same
      have here : other calls fromBlock toBlock = .ok batch := same 0 _ rfl
      rw [splitLoop]
      simp only [here]
      apply ih
      intro number call found
      rw [Nat.add_assoc, Nat.add_comm 1]
      exact same (number + 1) call found
  | case3 calls logs fromBlock toBlock stack error answered tooLarge mid ih =>
      rw [splitCalls_split answered tooLarge] at same
      have here : other calls fromBlock toBlock = .error error := same 0 _ rfl
      rw [splitLoop]
      simp only [here, if_pos tooLarge]
      apply ih
      intro number call found
      rw [Nat.add_assoc, Nat.add_comm 1]
      exact same (number + 1) call found
  | case4 calls logs fromBlock toBlock stack error answered final =>
      rw [splitCalls_fail answered final] at same
      have here : other calls fromBlock toBlock = .error error := same 0 _ rfl
      rw [splitLoop]
      simp only [here, if_neg final]

end Loop

/-! ### The whole range -/

/-- What `split_logs_on_error` does with a range, for a provider that answers as it
likes. -/
structure ExactSplit (fetch : Fetch) (fromBlock toBlock : Nat) (calls : List FetchCall)
    (result : Except ChainError (List Log)) : Prop where
  bounded : calls.length ≤ 2 * (toBlock - fromBlock + 1) - 1
  answered : ∀ number call, calls[number]? = some call →
    call.answer = fetch number call.fromBlock call.toBlock
  inRange : ∀ call ∈ calls, call.InRange
  /-- The ranges fetched partition the whole one, in ascending order. -/
  partitioned : ∀ logs, result = .ok logs →
    Tiles fromBlock ((fetchedBy calls).map Prod.fst) (toBlock + 1) ∧
      logs = (fetchedBy calls).flatMap Prod.snd
  /-- As one fetch of the whole range would have answered. -/
  unsplit : ∀ logs, result = .ok logs → ∀ whole, Joins whole →
    (∀ fetched ∈ fetchedBy calls, fetched.2 = whole fetched.1.1 fetched.1.2) →
      logs = whole fromBlock toBlock
  /-- The last call failed for good, and no call before it. -/
  failed : ∀ error, result = .error error → ∃ earlier last, calls = earlier ++ [last] ∧
    last.answer = .error error ∧
    ((error.isLogResponseTooLarge = true ∧ last.fromBlock = last.toBlock) ∨
      error.isLogResponseTooLarge = false) ∧
    ∀ call ∈ earlier, (∃ batch, call.answer = .ok batch) ∨ call.splits

/-- The bisection is exact and makes fewer than two calls a block. -/
theorem split_logs_exact (fetch : Fetch) {fromBlock toBlock : Nat}
    (ordered : fromBlock ≤ toBlock) (bound : toBlock < u64Modulus) :
    ExactSplit fetch fromBlock toBlock (splitCalls fetch 0 [(fromBlock, toBlock)])
      (splitLogsOnError fromBlock toBlock fetch) := by
  have tiles : Tiles fromBlock [(fromBlock, toBlock)] (toBlock + 1) :=
    tiles_cons.mpr ⟨rfl, ordered, rfl⟩
  have inside := splitCalls_inside fetch 0 _ _ fromBlock tiles
  constructor
  · have counted := splitCalls_length fetch 0 [(fromBlock, toBlock)]
    simp only [List.map_cons, List.map_nil, List.sum_cons, List.sum_nil] at counted
    omega
  · intro number call found
    have answer := splitCalls_answer fetch 0 _ number call found
    rw [Nat.zero_add] at answer
    exact answer
  · intro call member
    have bounds := inside call member
    refine ⟨bounds.2.1, by omega, ?_⟩
    intro wide
    omega
  · intro logs success
    obtain ⟨tiled, joined⟩ := splitLoop_ok success tiles
    exact ⟨tiled, joined⟩
  · intro logs success whole additive honest
    obtain ⟨tiled, joined⟩ := splitLoop_ok success tiles
    have same : (fetchedBy (splitCalls fetch 0 [(fromBlock, toBlock)])).flatMap Prod.snd =
        ((fetchedBy (splitCalls fetch 0 [(fromBlock, toBlock)])).map Prod.fst).flatMap
          (fun range => whole range.1 range.2) := by
      rw [List.flatMap_map]
      exact List.flatMap_congr honest
    rw [joined, List.nil_append, same]
    exact tiled.flatMap_eq additive ordered
  · intro error failure
    obtain ⟨earlier, last, split, failed, final, before⟩ := splitLoop_error failure
    have member : last ∈ splitCalls fetch 0 [(fromBlock, toBlock)] := by
      rw [split]
      exact List.mem_append_right earlier (List.mem_singleton_self last)
    have bounds := inside last member
    refine ⟨earlier, last, split, failed, ?_, before⟩
    cases large : error.isLogResponseTooLarge with
    | false => exact .inr rfl
    | true =>
        have narrow : ¬ last.fromBlock < last.toBlock := fun wide => final ⟨large, wide⟩
        exact .inl ⟨rfl, by omega⟩

/-- A provider that rejects every range of more than one block. -/
def Sample.oneBlockOnly : Fetch := fun _calls fromBlock toBlock =>
  if fromBlock < toBlock then
    .error (.provider (.errorResp (-32005) "query returned more than 10000 results"))
  else .ok []

theorem split_logs_exact_oneBlockOnly :
    ExactSplit Sample.oneBlockOnly 100 103 (splitCalls Sample.oneBlockOnly 0 [(100, 103)])
      (splitLogsOnError 100 103 Sample.oneBlockOnly) :=
  split_logs_exact Sample.oneBlockOnly (by decide) (by decide)

end NoxIngestor
