/-
The bisection against a provider with a cap.

A provider that rejects what holds more logs than it allows is asked a number of times
that grows with the logs and only with the logarithm of the range, and the range is
fetched unless a single block of it is over the cap.
-/

import NoxIngestor.Chain.Abi
import NoxIngestor.Chain.Batches
import NoxIngestor.Chain.Bisection
import NoxIngestor.Lib.Halving

namespace NoxIngestor

open Halving

namespace NoxEventParser

variable (parser : NoxEventParser)

/-- How many logs of the chain a request for the range asks for. -/
def logsIn (chain : List Log) (fromBlock toBlock : Nat) : Nat :=
  (chain.filter (parser.logFilter fromBlock toBlock).accepts).length

private theorem logsIn_halves (chain : List Log) {fromBlock mid toBlock : Nat}
    (lower : fromBlock ≤ mid + 1) (upper : mid ≤ toBlock) :
    parser.logsIn chain fromBlock mid + parser.logsIn chain (mid + 1) toBlock =
      parser.logsIn chain fromBlock toBlock := by
  have whole := (parser.filter_split chain lower upper).length_eq
  rw [List.length_append] at whole
  exact whole

private theorem logsIn_mono (chain : List Log) {fromBlock first last toBlock : Nat}
    (lower : fromBlock ≤ first) (upper : last ≤ toBlock) :
    parser.logsIn chain first last ≤ parser.logsIn chain fromBlock toBlock := by
  apply List.Sublist.length_le
  apply List.monotone_filter_right
  intro log accepted
  rw [accepts_eq, Bool.and_eq_true] at accepted ⊢
  obtain ⟨watched, inside⟩ := accepted
  refine ⟨watched, ?_⟩
  cases block : log.blockNumber with
  | none =>
      rw [block] at inside
      cases inside
  | some block =>
      rw [block] at inside
      have bounds := of_decide_eq_true inside
      exact decide_eq_true ⟨lower.trans bounds.1, bounds.2.trans upper⟩

/-- The provider answers what is within its cap and rejects the rest for its size. -/
structure Capped (chain : List Log) (cap : Nat) (fetch : Fetch) : Prop where
  answers : ∀ calls fromBlock toBlock, parser.logsIn chain fromBlock toBlock ≤ cap →
    ∃ logs, fetch calls fromBlock toBlock = .ok logs
  rejects : ∀ calls fromBlock toBlock, cap < parser.logsIn chain fromBlock toBlock →
    ∃ error, fetch calls fromBlock toBlock = .error error ∧
      error.isLogResponseTooLarge = true

/-- No answer lists more than the cap; any request may fail. -/
def Limited (chain : List Log) (cap : Nat) (fetch : Fetch) : Prop :=
  ∀ calls fromBlock toBlock logs, fetch calls fromBlock toBlock = .ok logs →
    parser.logsIn chain fromBlock toBlock ≤ cap

/-- No rejection for the size but over the cap; other errors may occur at any time. -/
def Spares (chain : List Log) (cap : Nat) (fetch : Fetch) : Prop :=
  ∀ calls fromBlock toBlock error, fetch calls fromBlock toBlock = .error error →
    error.isLogResponseTooLarge = true → cap < parser.logsIn chain fromBlock toBlock

end NoxEventParser

section Cost

variable {parser : NoxEventParser} {chain : List Log} {cap : Nat} {fetch : Fetch}

theorem NoxEventParser.Capped.spares (capped : parser.Capped chain cap fetch) :
    parser.Spares chain cap fetch := by
  intro calls fromBlock toBlock error failed _
  apply Nat.lt_of_not_le
  intro within
  obtain ⟨logs, answered⟩ := capped.answers calls fromBlock toBlock within
  rw [failed] at answered
  cases answered

theorem NoxEventParser.Capped.limited (capped : parser.Capped chain cap fetch) :
    parser.Limited chain cap fetch := by
  intro calls fromBlock toBlock logs answered
  apply Nat.le_of_not_lt
  intro beyond
  obtain ⟨error, failed, _⟩ := capped.rejects calls fromBlock toBlock beyond
  rw [answered] at failed
  cases failed

theorem NoxEventParser.Capped.rejected (capped : parser.Capped chain cap fetch)
    {calls fromBlock toBlock : Nat} {error : ChainError}
    (failed : fetch calls fromBlock toBlock = .error error) :
    error.isLogResponseTooLarge = true ∧ cap < parser.logsIn chain fromBlock toBlock := by
  by_cases within : parser.logsIn chain fromBlock toBlock ≤ cap
  · obtain ⟨logs, answered⟩ := capped.answers calls fromBlock toBlock within
    rw [failed] at answered
    cases answered
  · obtain ⟨other, alsoFailed, tooLarge⟩ :=
      capped.rejects calls fromBlock toBlock (Nat.lt_of_not_le within)
    rw [failed] at alsoFailed
    cases alsoFailed
    exact ⟨tooLarge, Nat.lt_of_not_le within⟩

private theorem NoxEventParser.ordered_of_logsIn (parser : NoxEventParser) (chain : List Log)
    {fromBlock toBlock : Nat} (some : 0 < parser.logsIn chain fromBlock toBlock) :
    fromBlock ≤ toBlock := by
  obtain ⟨log, member⟩ := List.exists_mem_of_length_pos some
  have accepted := List.of_mem_filter member
  rw [accepts_eq, Bool.and_eq_true] at accepted
  cases block : log.blockNumber with
  | none =>
      rw [block] at accepted
      cases accepted.2
  | some block =>
      rw [block] at accepted
      have bounds := of_decide_eq_true accepted.2
      exact bounds.1.trans bounds.2

/-- Each range on the stack costs a call, and two more for each time it is halved. -/
private theorem splitCalls_cost (spares : parser.Spares chain cap fetch) (calls : Nat)
    (stack : List (Nat × Nat)) :
    (splitCalls fetch calls stack).length ≤
      (stack.map fun range => 2 * halvings cap (parser.logsIn chain) range + 1).sum := by
  fun_induction splitLoop fetch calls [] stack with
  | case1 calls logs =>
      rw [splitCalls]
      exact Nat.zero_le _
  | case2 calls logs fromBlock toBlock stack batch answered ih =>
      rw [splitCalls_ok answered, List.length_cons, List.map_cons, List.sum_cons]
      omega
  | case3 calls logs fromBlock toBlock stack error answered tooLarge mid ih =>
      have heavy := spares calls fromBlock toBlock error answered tooLarge.1
      have halves : parser.logsIn chain fromBlock mid + parser.logsIn chain (mid + 1) toBlock =
          parser.logsIn chain fromBlock toBlock :=
        parser.logsIn_halves chain (by omega) (by omega)
      have paid := halvings_halved tooLarge.2 heavy halves.le
      rw [splitCalls_split answered tooLarge, List.length_cons, List.map_cons, List.sum_cons]
      simp only [List.map_cons, List.sum_cons] at ih
      simp only [mid] at ih
      omega
  | case4 calls logs fromBlock toBlock stack error answered final =>
      rw [splitCalls_fail answered final, List.length_singleton, List.map_cons, List.sum_cons]
      omega

/-- No single block of the range is over the cap. -/
def NoxEventParser.Fetchable (parser : NoxEventParser) (chain : List Log) (cap : Nat)
    (range : Nat × Nat) : Prop :=
  ∀ block, range.1 ≤ block → block ≤ range.2 → parser.logsIn chain block block ≤ cap

private theorem fetchable_halves {fromBlock mid toBlock : Nat} (lower : fromBlock ≤ mid + 1)
    (upper : mid ≤ toBlock) :
    parser.Fetchable chain cap (fromBlock, toBlock) ↔
      parser.Fetchable chain cap (fromBlock, mid) ∧
        parser.Fetchable chain cap (mid + 1, toBlock) := by
  constructor
  · intro whole
    exact ⟨fun block low high => whole block low (high.trans upper),
      fun block low high => whole block (lower.trans low) high⟩
  · rintro ⟨left, right⟩ block low high
    by_cases early : block ≤ mid
    · exact left block low early
    · exact right block (Nat.lt_of_not_le early) high

theorem fetchable_of_success (limited : parser.Limited chain cap fetch) (calls : Nat)
    (logs : List Log) (stack : List (Nat × Nat)) {result : List Log}
    (success : splitLoop fetch calls logs stack = .ok result) :
    ∀ range ∈ stack, parser.Fetchable chain cap range := by
  fun_induction splitLoop fetch calls logs stack with
  | case1 calls logs => exact fun range member => absurd member List.not_mem_nil
  | case2 calls logs fromBlock toBlock stack batch answered ih =>
      have within := limited calls fromBlock toBlock batch answered
      refine List.forall_mem_cons.mpr ⟨fun block low high => ?_, ih success⟩
      exact (parser.logsIn_mono chain low high).trans within
  | case3 calls logs fromBlock toBlock stack error answered tooLarge mid ih =>
      obtain ⟨left, others⟩ := List.forall_mem_cons.mp (ih success)
      obtain ⟨right, later⟩ := List.forall_mem_cons.mp others
      refine List.forall_mem_cons.mpr ⟨?_, later⟩
      exact (fetchable_halves (by omega) (by omega)).mpr ⟨left, right⟩
  | case4 calls logs fromBlock toBlock stack error answered final => cases success

private theorem success_of_fetchable (capped : parser.Capped chain cap fetch) (calls : Nat)
    (logs : List Log) (stack : List (Nat × Nat))
    (fetchable : ∀ range ∈ stack, parser.Fetchable chain cap range) :
    ∃ result, splitLoop fetch calls logs stack = .ok result := by
  fun_induction splitLoop fetch calls logs stack with
  | case1 calls logs => exact ⟨logs, rfl⟩
  | case2 calls logs fromBlock toBlock stack batch answered ih =>
      exact ih (List.forall_mem_cons.mp fetchable).2
  | case3 calls logs fromBlock toBlock stack error answered tooLarge mid ih =>
      obtain ⟨whole, later⟩ := List.forall_mem_cons.mp fetchable
      obtain ⟨left, right⟩ : parser.Fetchable chain cap (fromBlock, mid) ∧
          parser.Fetchable chain cap (mid + 1, toBlock) :=
        (fetchable_halves (by omega) (by omega)).mp whole
      exact ih (List.forall_mem_cons.mpr ⟨left, List.forall_mem_cons.mpr ⟨right, later⟩⟩)
  | case4 calls logs fromBlock toBlock stack error answered final =>
      obtain ⟨tooLarge, beyond⟩ := capped.rejected answered
      have ordered := parser.ordered_of_logsIn chain (Nat.zero_lt_of_lt beyond)
      have narrow : ¬ fromBlock < toBlock := fun wide => final ⟨tooLarge, wide⟩
      have single : fromBlock = toBlock := by omega
      subst single
      have within := fetchable _ List.mem_cons_self fromBlock le_rfl le_rfl
      exact absurd within (Nat.not_le_of_lt beyond)

end Cost

/-- Against a cap the range is fetched exactly if no single block of it is over the cap,
and at most two calls are made for each cap's worth of logs and each halving of the range. -/
theorem capped_bisection {parser : NoxEventParser} {chain : List Log} {cap : Nat} {fetch : Fetch}
    (capped : parser.Capped chain cap fetch) (fromBlock toBlock : Nat) :
    ((∃ logs, splitLogsOnError fromBlock toBlock fetch = .ok logs) ↔
        ∀ block, fromBlock ≤ block → block ≤ toBlock → parser.logsIn chain block block ≤ cap) ∧
      (splitCalls fetch 0 [(fromBlock, toBlock)]).length ≤
        2 * (Nat.clog 2 (toBlock - fromBlock + 1) *
          (parser.logsIn chain fromBlock toBlock / (cap + 1))) + 1 := by
  refine ⟨⟨?_, ?_⟩, ?_⟩
  · rintro ⟨logs, success⟩
    exact fetchable_of_success capped.limited 0 [] _ success _ (List.mem_singleton_self _)
  · intro fetchable
    exact success_of_fetchable capped 0 [] _ (List.forall_mem_singleton.mpr fetchable)
  · have cost := splitCalls_cost capped.spares 0 [(fromBlock, toBlock)]
    rw [List.map_singleton, List.sum_singleton] at cost
    exact cost

def NoxEventParser.cappedProvider (parser : NoxEventParser) (chain : List Log) (cap : Nat) :
    Fetch := fun _calls fromBlock toBlock =>
  if parser.logsIn chain fromBlock toBlock ≤ cap then
    .ok (chain.filter (parser.logFilter fromBlock toBlock).accepts)
  else .error (.provider (.errorResp (-32005) "query returned more than 10000 results"))

theorem NoxEventParser.cappedProvider_capped (parser : NoxEventParser) (chain : List Log)
    (cap : Nat) : parser.Capped chain cap (parser.cappedProvider chain cap) := by
  constructor
  · intro calls fromBlock toBlock within
    exact ⟨_, if_pos within⟩
  · intro calls fromBlock toBlock beyond
    exact ⟨_, if_neg (Nat.not_le_of_lt beyond), by decide⟩

namespace Sample

def busyParser : NoxEventParser :=
  { sol := Abi.events
    contractAddress := 0x00000000000000000000000000000000000a11ce }

/-- One addition in each of the blocks 100 and 101. -/
def busyChain : List Log :=
  [Abi.addLog busyParser.contractAddress 0xb0b 3 4 5 100 1 0,
    Abi.addLog busyParser.contractAddress 0xb0b 5 4 6 101 2 2]

end Sample

/-- With one log a request allowed, four blocks with two logs take the five calls. -/
theorem capped_bisection_busyChain :
    (∃ logs, splitLogsOnError 100 103 (Sample.busyParser.cappedProvider Sample.busyChain 1) =
        .ok logs) ∧
      (splitCalls (Sample.busyParser.cappedProvider Sample.busyChain 1) 0 [(100, 103)]).length ≤
        5 := by
  have bisection := capped_bisection (Sample.busyParser.cappedProvider_capped Sample.busyChain 1)
    100 103
  have single : ∀ block, 100 ≤ block → block ≤ 103 →
      Sample.busyParser.logsIn Sample.busyChain block block ≤ 1 := by
    intro block low high
    have one : block = 100 ∨ block = 101 ∨ block = 102 ∨ block = 103 := by omega
    rcases one with rfl | rfl | rfl | rfl <;> decide +kernel
  have bound : 2 * (Nat.clog 2 (103 - 100 + 1) *
      (Sample.busyParser.logsIn Sample.busyChain 100 103 / (1 + 1))) + 1 = 5 := by
    decide +kernel
  exact ⟨bisection.1.mpr single, bound ▸ bisection.2⟩

end NoxIngestor
