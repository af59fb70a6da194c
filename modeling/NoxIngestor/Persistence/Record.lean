/-
The text of the state file.

The persisted record is written as pretty JSON; a file is read as UTF-8 text
first, then as a record.  A record that was written is the one that is loaded.
-/

import NoxIngestor.Lib.JsonReader
import NoxIngestor.StateStore

namespace NoxIngestor

open Json

namespace PersistedState

def toJson (state : PersistedState) : Json :=
  .object
    [("last_block", .number state.lastBlock),
      ("chain_id", .number state.chainId),
      ("updated_at", .number state.updatedAt)]

def ofJson : Json → Option PersistedState
  | .object fields => do
      let lastBlock ← unsignedField (2 ^ 64) "last_block" fields
      let chainId ← unsignedField (2 ^ 32) "chain_id" fields
      let updatedAt ← unsignedField (2 ^ 64) "updated_at" fields
      return { lastBlock := lastBlock
               chainId := chainId
               updatedAt := updatedAt }
  | _ => none

def toBytes (state : PersistedState) : ByteArray :=
  (String.ofList (state.toJson.layout .pretty 0)).toByteArray

structure InRange (state : PersistedState) : Prop where
  lastBlock : state.lastBlock < 2 ^ 64
  chainId : state.chainId < 2 ^ 32
  updatedAt : state.updatedAt < 2 ^ 64

theorem ofJson_toJson (state : PersistedState) (inRange : state.InRange) :
    ofJson state.toJson = some state := by
  let fields : List (String × Json) :=
    [("last_block", .number state.lastBlock),
      ("chain_id", .number state.chainId),
      ("updated_at", .number state.updatedAt)]
  have lastBlock : unsignedField (2 ^ 64) "last_block" fields = some state.lastBlock :=
    if_pos inRange.lastBlock
  have chainId : unsignedField (2 ^ 32) "chain_id" fields = some state.chainId :=
    if_pos inRange.chainId
  have updatedAt : unsignedField (2 ^ 64) "updated_at" fields = some state.updatedAt :=
    if_pos inRange.updatedAt
  change ofJson (.object fields) = _
  simp only [ofJson, lastBlock, chainId, updatedAt, Option.pure_def, Option.bind_eq_bind,
    Option.bind_some]

end PersistedState

namespace StateFile

/-- What reading the file gives; bytes that are no text are an I/O error. -/
def ofContent : Option ByteArray → StateFile
  | none => .notFound
  | some content =>
      match String.fromUTF8? content with
      | none => .unreadable
      | some text =>
          match (Json.read text.toList).bind PersistedState.ofJson with
          | some state => .parsed state
          | none => .malformed

theorem ofContent_toBytes (state : PersistedState) (inRange : state.InRange) :
    ofContent (some state.toBytes) = .parsed state := by
  have text : String.fromUTF8? state.toBytes =
      some (String.ofList (state.toJson.layout .pretty 0)) := by
    rw [PersistedState.toBytes, fromUTF8_toByteArray]
  have record : (Json.read (String.ofList (state.toJson.layout .pretty 0)).toList).bind
      PersistedState.ofJson = some state := by
    rw [String.toList_ofList, Json.read_layout]
    exact state.ofJson_toJson inRange
  rw [ofContent]
  simp only [text, record]

end StateFile

namespace StateStore

/-- The values a store can hold. -/
structure InRange (store : StateStore) : Prop where
  chainId : store.chainId < 2 ^ 32
  lastSynced : store.lastSynced < 2 ^ 64

theorem persistedState_inRange {self : StateStore} (inRange : self.InRange) {now : Nat}
    (nowBound : now < 2 ^ 64) : (self.persistedState now).InRange :=
  { lastBlock := inRange.lastSynced
    chainId := inRange.chainId
    updatedAt := nowBound }

/-- Loading what was persisted resumes from it on the same chain and refuses another. -/
theorem load_persisted {self : StateStore} (inRange : self.InRange) {now : Nat}
    (nowBound : now < 2 ^ 64) (chainId initialBlock : Nat) :
    load (StateFile.ofContent (some (self.persistedState now).toBytes)) chainId initialBlock =
      if chainId = self.chainId then
        .ok { chainId := chainId
              lastSynced := self.get
              fromFile := true }
      else .error (.chainIdMismatch chainId self.chainId) := by
  rw [StateFile.ofContent_toBytes _ (persistedState_inRange inRange nowBound), load]
  change (if self.chainId ≠ chainId then _ else _) = _
  by_cases same : chainId = self.chainId
  · rw [if_neg (not_not.mpr same.symm), if_pos same]
    rfl
  · rw [if_pos (Ne.symm same), if_neg same]
    rfl

end StateStore

end NoxIngestor
