/-
Runs of the main loop from before the first start.

The environment of a run is a chain: a provider that answers honestly lists the
chain's matching logs, whatever else it does.
-/

import NoxIngestor.Chain.Abi
import NoxIngestor.Chain.Batches
import NoxIngestor.Transitions

namespace NoxIngestor

/-- The labels lead from before the first start to this state. -/
abbrev Reaches (deployment : Deployment) (labels : List Label) (s : State) : Prop :=
  Runs.run (step deployment) (State.initial deployment) labels = some s

/-- Every label satisfies the condition in the state it is taken in. -/
abbrev Throughout (deployment : Deployment) (condition : State → Label → Prop)
    (labels : List Label) : Prop :=
  Runs.Guarded (step deployment) condition (State.initial deployment) labels

/-- Successful answers are those of an honest provider of the chain. -/
def Label.Honest (parser : NoxEventParser) (chain : List Log) : Label → Prop
  | .batchRead fetch _order => parser.Honest chain fetch
  | _ => True

def Label.isStart : Label → Bool
  | .start _settings _readable _events => true
  | _ => false

theorem Reaches.invariant {deployment : Deployment} {condition : State → Label → Prop}
    {invariant : State → Prop} (initial : invariant (State.initial deployment))
    (preserved : ∀ s label next, condition s label → invariant s →
      Transition deployment s label next → invariant next)
    {labels : List Label} {s : State} (reached : Reaches deployment labels s)
    (throughout : Throughout deployment condition labels) : invariant s := by
  apply Runs.run_invariant _ throughout initial reached
  intro state label next allowed holds taken
  exact preserved state label next allowed holds (step_transition taken)

theorem Reaches.invariant_of_labels {deployment : Deployment} {allowed : Label → Prop}
    {invariant : State → Prop} (initial : invariant (State.initial deployment))
    (preserved : ∀ s label next, allowed label → invariant s →
      Transition deployment s label next → invariant next)
    {labels : List Label} {s : State} (reached : Reaches deployment labels s)
    (all : ∀ label ∈ labels, allowed label) : invariant s :=
  reached.invariant initial preserved (Runs.guarded_of_labels all)

theorem Reaches.always {deployment : Deployment} {invariant : State → Prop}
    (initial : invariant (State.initial deployment))
    (preserved : ∀ s label next, invariant s →
      Transition deployment s label next → invariant next)
    {labels : List Label} {s : State} (reached : Reaches deployment labels s) :
    invariant s :=
  reached.invariant initial
    (fun s label next (_allowed : True) => preserved s label next)
    (Runs.guarded_of_labels fun _label _member => trivial)

/-- A provider that answers every request with exactly the matching logs. -/
def NoxEventParser.provider (parser : NoxEventParser) (chain : List Log) : Fetch :=
  fun _calls fromBlock toBlock =>
    .ok (chain.filter (parser.logFilter fromBlock toBlock).accepts)

theorem NoxEventParser.provider_honest (parser : NoxEventParser) (chain : List Log) :
    parser.Honest chain (parser.provider chain) := by
  intro calls fromBlock toBlock logs answered
  cases answered
  exact List.Perm.refl _

/-! ### A small deployment

Two additions, in two transactions of consecutive blocks. -/

namespace Sample

def contract : Address := 0x00000000000000000000000000000000000a11ce

def firstHash : B256 := 1

def secondHash : B256 := 2

def chain : List Log :=
  [Abi.addLog contract 0xb0b 3 4 5 100 firstHash 0,
    Abi.addLog contract 0xb0b 5 4 6 101 secondHash 2]

theorem chain_wellFormed : WellFormedChain chain := by
  constructor
  · apply List.pairwise_pair.mpr
    rintro block index ⟨rfl⟩ _index ⟨next, _⟩
    cases next
  · intro left leftIn right rightIn hash leftHash rightHash
    rcases List.mem_pair.mp leftIn with rfl | rfl
    · rcases List.mem_pair.mp rightIn with rfl | rfl
      · rfl
      · rw [← rightHash] at leftHash
        exact absurd (Option.some.inj leftHash) (by decide)
    · rcases List.mem_pair.mp rightIn with rfl | rfl
      · rw [← rightHash] at leftHash
        exact absurd (Option.some.inj leftHash) (by decide)
      · rfl

def keccak256 (input : ByteArray) : B256 :=
  if input.data = (s!"421614:{firstHash.toHex}").toByteArray.data then
    0x6d6abb1d68be3cf5ce4f1a968931b2f95067eab52096f3a20ae0340b45556f26
  else if input.data = (s!"421614:{secondHash.toHex}").toByteArray.data then
    0x254e302ce0f896cd4d2817751b29aaeb2990ce40231d2a4e394a57bbfcf9880f
  else 0

/-- The default configuration, from block 100 on. -/
def deployment : Deployment :=
  { config :=
      { chainId := 421614
        contractAddress := contract
        initialBlock := 100
        duplicateWindow := Duration.fromMillis 600000
        retention := Duration.fromMillis 86400000 }
    sol := Abi.events
    keccak256 := keccak256 }

def settings : Settings :=
  { batchSize := 50
    healthStallThreshold := Duration.fromMillis 300000
    subject := "nox_ingestor"
    bufferCapacity := 1000 }

def order : HashOrder :=
  { reorder := id
    perm := List.Perm.refl }

/-- Start with a connection, take note of it, and see block 101 as the head. -/
def start : List Label :=
  [.start settings true [.connected], .stateChanged, .handleStateChange, .unpaused,
    .latestBlock (.ok 101)]

def read : Label := .batchRead (deployment.parser.provider chain) order

/-- The first transaction is delivered, and a flush tick cuts the second: back to
where the batch was about to be read. -/
def cutBatch (request : Nat) : List Label :=
  [read, .nextTransaction, .elapse 3000, .receive request, .published true,
    .nextTransaction, .elapse 2000, .flushTick, .persisted true, .tryResumeIfConnected,
    .unpaused, .latestBlock (.ok 101)]

theorem read_honest : read.Honest deployment.parser chain :=
  deployment.parser.provider_honest chain

theorem start_honest : ∀ label ∈ start, label.Honest deployment.parser chain := by
  simp only [start, List.forall_mem_cons, Label.Honest, List.not_mem_nil, IsEmpty.forall_iff,
    implies_true, true_and]

theorem cutBatch_honest (request : Nat) :
    ∀ label ∈ cutBatch request, label.Honest deployment.parser chain := by
  simp only [cutBatch, List.forall_mem_cons, Label.Honest, List.not_mem_nil,
    IsEmpty.forall_iff, implies_true, and_true]
  exact read_honest

end Sample

end NoxIngestor
