/-
The RPC client: provider errors, the log filter, and the bisection of a block
range that the provider rejects for its size.
-/

import NoxIngestor.Chain.Parser
import Mathlib.Data.List.Infix

namespace NoxIngestor

/-! ### Provider errors -/

/-- Provider errors, distinguished as far as the classifier looks at them. -/
inductive TransportError
  | errorResp (code : Int) (message : String)
  | httpError (status : Nat) (body : String)
  | other (description : String)
deriving DecidableEq

inductive ChainError
  | invalidEndpoint (description : String)
  | provider (error : TransportError)
deriving DecidableEq

def logRangeTooLargeMarkers : List String :=
  ["try with this block range",
    "block range is too wide",
    "this block range should work",
    "range too large",
    "exceeds the range",
    "max block range",
    "max range",
    "logs over more",
    "response size should not",
    "returned more than",
    "exceeds max results",
    "range is too large",
    "too large, max is",
    "response too large",
    "query exceeds limit",
    "limit the query to",
    "maximum block range",
    "range limit exceeded",
    "too many results",
    "try paginating",
    "eth_getlogs is limited"]

def toAsciiLowercase (text : String) : List Char :=
  text.toList.map fun char =>
    if 'A' ≤ char ∧ char ≤ 'Z' then Char.ofNat (char.toNat + 32) else char

def containsLogRangeMarker (text : String) : Bool :=
  let lower := toAsciiLowercase text
  logRangeTooLargeMarkers.any (fun marker => decide (marker.toList <:+: lower)) ||
    (decide ("maximum".toList <:+: lower) && decide ("blocks distance".toList <:+: lower))

/-- Status 429 is a rate limit whatever the body says; 413 is a size rejection. -/
def ChainError.isLogResponseTooLarge : ChainError → Bool
  | .invalidEndpoint _ => false
  | .provider (.errorResp _ message) => containsLogRangeMarker message
  | .provider (.httpError status body) =>
      if status = 429 then false
      else status == 413 || containsLogRangeMarker body
  | .provider (.other _) => false

/-! ### Fetching logs -/

structure Filter where
  address : Address
  eventSignatures : List B256
  fromBlock : Nat
  toBlock : Nat

/-- The logs a filter selects: the contract's, with one of the signatures as
first topic, of a block in the range. -/
def Filter.accepts (filter : Filter) (log : Log) : Bool :=
  decide (log.address = filter.address) &&
    (match log.topics with
      | [] => false
      | topic0 :: _ => filter.eventSignatures.contains topic0) &&
    (match log.blockNumber with
      | none => false
      | some block => decide (filter.fromBlock ≤ block ∧ block ≤ filter.toBlock))

/-- `get_logs` as a caller sees it: the answer to a range may depend on how
many calls were made before. -/
abbrev Fetch := Nat → Nat → Nat → Except ChainError (List Log)

/-- The work stack of `split_logs_on_error`.  The left half is pushed last, so
it is fetched first. -/
def splitLoop (fetch : Fetch) (calls : Nat) (logs : List Log) :
    List (Nat × Nat) → Except ChainError (List Log)
  | [] => .ok logs
  | (fromBlock, toBlock) :: stack =>
      match fetch calls fromBlock toBlock with
      | .ok batch => splitLoop fetch (calls + 1) (logs ++ batch) stack
      | .error error =>
          if error.isLogResponseTooLarge = true ∧ fromBlock < toBlock then
            let mid := fromBlock + (toBlock - fromBlock) / 2
            splitLoop fetch (calls + 1) logs
              ((fromBlock, mid) :: (mid + 1, toBlock) :: stack)
          else .error error
termination_by stack => (stack.map fun range => 2 * (range.2 - range.1) + 1).sum
decreasing_by
  all_goals simp only [List.map_cons, List.sum_cons]
  all_goals omega

def splitLogsOnError (fromBlock toBlock : Nat) (fetch : Fetch) :
    Except ChainError (List Log) :=
  splitLoop fetch 0 [] [(fromBlock, toBlock)]

end NoxIngestor
