/-
The cursor store: loading, the monotone update, the persisted record, and the
block a session starts from.
-/

import NoxIngestor.Primitives

namespace NoxIngestor

structure PersistedState where
  lastBlock : Nat
  chainId : Nat
  updatedAt : Nat
deriving DecidableEq

inductive StateFile
  | parsed (state : PersistedState)
  | malformed
  | notFound
  | unreadable

inductive StateError
  | chainIdMismatch (expected actual : Nat)
deriving DecidableEq

inductive NoxError
  | state (error : StateError)
  | noInitialBlock
deriving DecidableEq

structure StateStore where
  chainId : Nat
  lastSynced : Nat
  fromFile : Bool

namespace StateStore

def newFresh (chainId initialBlock : Nat) : StateStore :=
  { chainId := chainId
    lastSynced := initialBlock
    fromFile := false }

/-- Anything but a readable record starts fresh. -/
def load (file : StateFile) (chainId initialBlock : Nat) :
    Except StateError StateStore :=
  match file with
  | .parsed state =>
      if state.chainId ≠ chainId then .error (.chainIdMismatch chainId state.chainId)
      else
        .ok { chainId := chainId
              lastSynced := state.lastBlock
              fromFile := true }
  | .malformed => .ok (newFresh chainId initialBlock)
  | .notFound => .ok (newFresh chainId initialBlock)
  | .unreadable => .ok (newFresh chainId initialBlock)

/-- `fetch_max`. -/
def update (self : StateStore) (block : Nat) : StateStore :=
  { self with lastSynced := max self.lastSynced block }

def get (self : StateStore) : Nat := self.lastSynced

def wasLoadedFromFile (self : StateStore) : Bool := self.fromFile

/-- The record a successful `persist` leaves in the file. -/
def persistedState (self : StateStore) (now : Nat) : PersistedState :=
  { lastBlock := self.get
    chainId := self.chainId
    updatedAt := now }

/-- The last processed block plus one after a load, the initial block itself on
a fresh start. -/
def determineStartBlock (self : StateStore) : Except NoxError Nat :=
  if self.get = 0 ∧ self.wasLoadedFromFile = false then .error .noInitialBlock
  else if self.wasLoadedFromFile then .ok (u64Add self.get 1)
  else .ok self.get

theorem load_parsed {state : PersistedState} {chainId initialBlock : Nat} {store : StateStore}
    (loaded : load (.parsed state) chainId initialBlock = .ok store) :
    store.lastSynced = state.lastBlock ∧ store.fromFile = true := by
  unfold load at loaded
  simp only at loaded
  split at loaded
  · cases loaded
  · cases loaded
    exact ⟨rfl, rfl⟩

theorem load_cases {file : StateFile} {chainId initialBlock : Nat} {store : StateStore}
    (loaded : load file chainId initialBlock = .ok store) :
    (∃ state, file = .parsed state ∧ store.lastSynced = state.lastBlock ∧
        store.fromFile = true) ∨
      store = newFresh chainId initialBlock := by
  cases file with
  | parsed state =>
      obtain ⟨lastSynced, fromFile⟩ := load_parsed loaded
      exact .inl ⟨state, rfl, lastSynced, fromFile⟩
  | malformed =>
      cases loaded
      exact .inr rfl
  | notFound =>
      cases loaded
      exact .inr rfl
  | unreadable =>
      cases loaded
      exact .inr rfl

theorem load_chainId {file : StateFile} {chainId initialBlock : Nat} {store : StateStore}
    (loaded : load file chainId initialBlock = .ok store) : store.chainId = chainId := by
  cases file with
  | parsed state =>
      unfold load at loaded
      simp only at loaded
      split at loaded
      · cases loaded
      · cases loaded
        rfl
  | _ =>
      cases loaded
      rfl

theorem determineStartBlock_of_file {self : StateStore} {startBlock : Nat}
    (loaded : self.fromFile = true) (determined : self.determineStartBlock = .ok startBlock) :
    startBlock = u64Add self.lastSynced 1 := by
  unfold determineStartBlock wasLoadedFromFile get at determined
  rw [loaded] at determined
  simp only [Bool.true_eq_false, and_false, if_false, if_true, Except.ok.injEq] at determined
  exact determined.symm

theorem determineStartBlock_of_fresh {self : StateStore} {startBlock : Nat}
    (fresh : self.fromFile = false) (determined : self.determineStartBlock = .ok startBlock) :
    startBlock = self.lastSynced := by
  unfold determineStartBlock wasLoadedFromFile get at determined
  rw [fresh] at determined
  split at determined
  · cases determined
  · simp only [Bool.false_eq_true, if_false, Except.ok.injEq] at determined
    exact determined.symm

theorem determineStartBlock_pos {self : StateStore} {startBlock : Nat}
    (fresh : self.fromFile = false) (determined : self.determineStartBlock = .ok startBlock) :
    0 < startBlock := by
  have same := determineStartBlock_of_fresh fresh determined
  apply Nat.pos_of_ne_zero
  intro zero
  unfold determineStartBlock at determined
  rw [if_pos ⟨same.symm.trans zero, fresh⟩] at determined
  cases determined

/-- Only a record of another chain keeps a session from starting, or no block to start from. -/
theorem load_starts {file : StateFile} {chainId initialBlock : Nat}
    (own : ∀ state, file = .parsed state → state.chainId = chainId)
    (positive : 0 < initialBlock) :
    ∃ store startBlock, load file chainId initialBlock = .ok store ∧
      store.determineStartBlock = .ok startBlock := by
  have fresh : (newFresh chainId initialBlock).determineStartBlock = .ok initialBlock := by
    rw [determineStartBlock, if_neg fun both => absurd both.1 (Nat.pos_iff_ne_zero.mp positive)]
    exact if_neg Bool.false_ne_true
  cases file with
  | parsed state =>
      refine ⟨{ chainId := chainId
                lastSynced := state.lastBlock
                fromFile := true }, u64Add state.lastBlock 1, ?_, ?_⟩
      · exact if_neg (not_not.mpr (own state rfl))
      · rw [determineStartBlock, if_neg fun both => Bool.noConfusion both.2]
        exact if_pos rfl
  | _ => exact ⟨newFresh chainId initialBlock, initialBlock, rfl, fresh⟩

end StateStore

end NoxIngestor
