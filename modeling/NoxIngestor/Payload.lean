/-
Reading the payload of a message back.

The record types derive their readers: a field is found by its name and occurs
once, unknown fields are ignored, the variant is chosen by the `type` field, and
the flattened operator gets every field of the object that is not one of the
event's own.  Only the object form of a record is read, not the array form.
-/

import NoxIngestor.Events
import NoxIngestor.Lib.JsonReader

namespace NoxIngestor

open Json

/-! ### Addresses -/

/-- The prefix is optional. -/
def Address.ofHex (text : String) : Option Address :=
  let digits := match text.toList with
    | '0' :: 'x' :: rest => rest
    | chars => chars
  if digits.length = 40 then (hexNumber 0 digits).map (BitVec.ofNat 160) else none

theorem Address.ofHex_toHex (address : Address) :
    Address.ofHex address.toHex = some address := by
  have value : hexNumber 0 (hexDigits 40 address.toNat) = some address.toNat := by
    rw [hexNumber_hexDigits, Nat.zero_mul, Nat.zero_add]
    exact congrArg some (Nat.mod_eq_of_lt address.isLt)
  rw [Address.ofHex, Address.toHex, lowerHex, String.toList_ofList]
  simp only [hexDigits_length, if_true, value, Option.map_some, BitVec.ofNat_toNat,
    BitVec.setWidth_eq]

def addressField (name : String) (fields : List (String × Json)) : Option Address :=
  (stringField name fields).bind Address.ofHex

/-! ### Operations -/

def ArithmeticOperation.ofFields (fields : List (String × Json)) :
    Option ArithmeticOperation := do
  let leftHandOperand ← stringField "leftHandOperand" fields
  let rightHandOperand ← stringField "rightHandOperand" fields
  let result ← stringField "result" fields
  return { leftHandOperand := leftHandOperand
           rightHandOperand := rightHandOperand
           result := result }

def SafeArithmeticOperation.ofFields (fields : List (String × Json)) :
    Option SafeArithmeticOperation := do
  let leftHandOperand ← stringField "leftHandOperand" fields
  let rightHandOperand ← stringField "rightHandOperand" fields
  let success ← stringField "success" fields
  let result ← stringField "result" fields
  return { leftHandOperand := leftHandOperand
           rightHandOperand := rightHandOperand
           success := success
           result := result }

def BooleanOperation.ofFields (fields : List (String × Json)) :
    Option BooleanOperation := do
  let leftHandOperand ← stringField "leftHandOperand" fields
  let rightHandOperand ← stringField "rightHandOperand" fields
  let result ← stringField "result" fields
  return { leftHandOperand := leftHandOperand
           rightHandOperand := rightHandOperand
           result := result }

def SelectOperation.ofFields (fields : List (String × Json)) :
    Option SelectOperation := do
  let condition ← stringField "condition" fields
  let ifTrue ← stringField "ifTrue" fields
  let ifFalse ← stringField "ifFalse" fields
  let result ← stringField "result" fields
  return { condition := condition
           ifTrue := ifTrue
           ifFalse := ifFalse
           result := result }

def EncryptionOperation.ofFields (fields : List (String × Json)) :
    Option EncryptionOperation := do
  let value ← stringField "value" fields
  let teeType ← unsignedField (2 ^ 8) "teeType" fields
  let handle ← stringField "handle" fields
  return { value := value
           teeType := UInt8.ofNat teeType
           handle := handle }

def TransferOperation.ofFields (fields : List (String × Json)) :
    Option TransferOperation := do
  let balanceFrom ← stringField "balanceFrom" fields
  let balanceTo ← stringField "balanceTo" fields
  let amount ← stringField "amount" fields
  let success ← stringField "success" fields
  let newBalanceFrom ← stringField "newBalanceFrom" fields
  let newBalanceTo ← stringField "newBalanceTo" fields
  return { balanceFrom := balanceFrom
           balanceTo := balanceTo
           amount := amount
           success := success
           newBalanceFrom := newBalanceFrom
           newBalanceTo := newBalanceTo }

def MintOperation.ofFields (fields : List (String × Json)) :
    Option MintOperation := do
  let balanceTo ← stringField "balanceTo" fields
  let amount ← stringField "amount" fields
  let totalSupply ← stringField "totalSupply" fields
  let success ← stringField "success" fields
  let newBalanceTo ← stringField "newBalanceTo" fields
  let newTotalSupply ← stringField "newTotalSupply" fields
  return { balanceTo := balanceTo
           amount := amount
           totalSupply := totalSupply
           success := success
           newBalanceTo := newBalanceTo
           newTotalSupply := newTotalSupply }

def BurnOperation.ofFields (fields : List (String × Json)) :
    Option BurnOperation := do
  let balanceFrom ← stringField "balanceFrom" fields
  let amount ← stringField "amount" fields
  let totalSupply ← stringField "totalSupply" fields
  let success ← stringField "success" fields
  let newBalanceFrom ← stringField "newBalanceFrom" fields
  let newTotalSupply ← stringField "newTotalSupply" fields
  return { balanceFrom := balanceFrom
           amount := amount
           totalSupply := totalSupply
           success := success
           newBalanceFrom := newBalanceFrom
           newTotalSupply := newTotalSupply }

section Operations

theorem ArithmeticOperation.ofFields_fields (op : ArithmeticOperation) :
    ArithmeticOperation.ofFields op.fields = some op := rfl

theorem SafeArithmeticOperation.ofFields_fields (op : SafeArithmeticOperation) :
    SafeArithmeticOperation.ofFields op.fields = some op := rfl

theorem BooleanOperation.ofFields_fields (op : BooleanOperation) :
    BooleanOperation.ofFields op.fields = some op := rfl

theorem SelectOperation.ofFields_fields (op : SelectOperation) :
    SelectOperation.ofFields op.fields = some op := rfl

theorem TransferOperation.ofFields_fields (op : TransferOperation) :
    TransferOperation.ofFields op.fields = some op := rfl

theorem MintOperation.ofFields_fields (op : MintOperation) :
    MintOperation.ofFields op.fields = some op := rfl

theorem BurnOperation.ofFields_fields (op : BurnOperation) :
    BurnOperation.ofFields op.fields = some op := rfl

theorem EncryptionOperation.ofFields_fields (op : EncryptionOperation) :
    EncryptionOperation.ofFields op.fields = some op := by
  have teeType : unsignedField (2 ^ 8) "teeType" op.fields = some op.teeType.toNat :=
    if_pos op.teeType.toNat_lt
  have value : stringField "value" op.fields = some op.value := rfl
  have handle : stringField "handle" op.fields = some op.handle := rfl
  simp only [ofFields, value, teeType, handle, Option.pure_def, Option.bind_eq_bind,
    Option.bind_some, UInt8.ofNat_toNat]

end Operations

/-! ### The operator -/

/-- In declaration order; a tag may also be the index of its variant. -/
def Operator.variants : List String :=
  ["wrap_as_public_handle", "add", "sub", "mul", "div", "safe_add", "safe_sub", "safe_mul",
    "safe_div", "eq", "ne", "ge", "gt", "le", "lt", "select", "transfer", "mint", "burn"]

def Operator.variantOf : Json → Option String
  | .string name => some name
  | .number index => Operator.variants[index]?
  | _ => none

def Operator.ofVariant (variant : String) (fields : List (String × Json)) :
    Option Operator :=
  match variant with
  | "wrap_as_public_handle" =>
      (EncryptionOperation.ofFields fields).map .wrapAsPublicHandle
  | "add" => (ArithmeticOperation.ofFields fields).map .add
  | "sub" => (ArithmeticOperation.ofFields fields).map .sub
  | "mul" => (ArithmeticOperation.ofFields fields).map .mul
  | "div" => (ArithmeticOperation.ofFields fields).map .div
  | "safe_add" => (SafeArithmeticOperation.ofFields fields).map .safeAdd
  | "safe_sub" => (SafeArithmeticOperation.ofFields fields).map .safeSub
  | "safe_mul" => (SafeArithmeticOperation.ofFields fields).map .safeMul
  | "safe_div" => (SafeArithmeticOperation.ofFields fields).map .safeDiv
  | "eq" => (BooleanOperation.ofFields fields).map .eq
  | "ne" => (BooleanOperation.ofFields fields).map .ne
  | "ge" => (BooleanOperation.ofFields fields).map .ge
  | "gt" => (BooleanOperation.ofFields fields).map .gt
  | "le" => (BooleanOperation.ofFields fields).map .le
  | "lt" => (BooleanOperation.ofFields fields).map .lt
  | "select" => (SelectOperation.ofFields fields).map .select
  | "transfer" => (TransferOperation.ofFields fields).map .transfer
  | "mint" => (MintOperation.ofFields fields).map .mint
  | "burn" => (BurnOperation.ofFields fields).map .burn
  | _ => none

/-- The variant reads the fields other than the tag. -/
def Operator.ofFields (fields : List (String × Json)) : Option Operator :=
  ((uniqueField "type" fields).bind Operator.variantOf).bind fun variant =>
    Operator.ofVariant variant (fields.filter fun field => field.1 ≠ "type")

theorem Operator.ofFields_fields (op : Operator) : Operator.ofFields op.fields = some op := by
  cases op with
  | wrapAsPublicHandle op =>
      exact congrArg (Option.map Operator.wrapAsPublicHandle) op.ofFields_fields
  | add op => rfl
  | sub op => rfl
  | mul op => rfl
  | div op => rfl
  | safeAdd op => rfl
  | safeSub op => rfl
  | safeMul op => rfl
  | safeDiv op => rfl
  | eq op => rfl
  | ne op => rfl
  | ge op => rfl
  | gt op => rfl
  | le op => rfl
  | lt op => rfl
  | select op => rfl
  | transfer op => rfl
  | mint op => rfl
  | burn op => rfl

/-! ### Events and messages -/

/-- The fields the flattened operator may read. -/
def TransactionEvent.flattened (fields : List (String × Json)) : List (String × Json) :=
  fields.filter fun field => field.1 ≠ "logIndex" ∧ field.1 ≠ "caller"

def TransactionEvent.ofJson : Json → Option TransactionEvent
  | .object fields => do
      let logIndex ← unsignedField (2 ^ 64) "logIndex" fields
      let caller ← addressField "caller" fields
      let operator ← Operator.ofFields (TransactionEvent.flattened fields)
      return { logIndex := logIndex
               caller := caller
               operator := operator }
  | _ => none

namespace TransactionMessage

/-- The skipped field gets its default. -/
def ofJson : Json → Option TransactionMessage
  | .object fields => do
      let chainId ← unsignedField (2 ^ 32) "chainId" fields
      let caller ← addressField "caller" fields
      let blockNumber ← unsignedField (2 ^ 64) "blockNumber" fields
      let transactionHash ← stringField "transactionHash" fields
      let items ← (uniqueField "events" fields).bind asArray
      let events ← items.mapM TransactionEvent.ofJson
      return { chainId := chainId
               caller := caller
               blockNumber := blockNumber
               firstLogIndex := 0
               transactionHash := transactionHash
               events := events }
  | _ => none

def fromBytes (payload : ByteArray) : Option TransactionMessage :=
  (String.fromUTF8? payload).bind fun text =>
    (Json.read text.toList).bind TransactionMessage.ofJson

/-- The bounds of the numeric types. -/
structure InRange (message : TransactionMessage) : Prop where
  chainId : message.chainId < 2 ^ 32
  blockNumber : message.blockNumber < 2 ^ 64
  logIndex : ∀ event ∈ message.events, event.logIndex < 2 ^ 64

end TransactionMessage

theorem Operator.keys_nodup (op : Operator) :
    ("logIndex" :: "caller" :: op.fields.map Prod.fst).Nodup := by
  cases op <;> exact of_decide_eq_true rfl

private theorem TransactionEvent.flattened_fields (event : TransactionEvent) :
    TransactionEvent.flattened (("logIndex", .number event.logIndex) ::
      ("caller", .string event.caller.toHex) :: event.operator.fields) =
      event.operator.fields := by
  have distinct := event.operator.keys_nodup
  simp only [List.nodup_cons, List.mem_cons, not_or] at distinct
  have kept : ∀ field ∈ event.operator.fields,
      decide (field.1 ≠ "logIndex" ∧ field.1 ≠ "caller") = true := by
    intro field member
    have present : field.1 ∈ event.operator.fields.map Prod.fst := List.mem_map_of_mem member
    have notIndex : field.1 ≠ "logIndex" := fun same => distinct.1.2 (same ▸ present)
    have notCaller : field.1 ≠ "caller" := fun same => distinct.2.1 (same ▸ present)
    exact decide_eq_true ⟨notIndex, notCaller⟩
  rw [TransactionEvent.flattened, List.filter_cons_of_neg (by simp),
    List.filter_cons_of_neg (by simp)]
  exact List.filter_eq_self.mpr kept

theorem TransactionEvent.ofJson_toJson (event : TransactionEvent)
    (bound : event.logIndex < 2 ^ 64) :
    TransactionEvent.ofJson event.toJson = some event := by
  have distinct := event.operator.keys_nodup
  let fields : List (String × Json) := ("logIndex", .number event.logIndex) ::
    ("caller", .string event.caller.toHex) :: event.operator.fields
  have logIndex : unsignedField (2 ^ 64) "logIndex" fields = some event.logIndex :=
    unsignedField_of_mem bound distinct List.mem_cons_self
  have callerText : stringField "caller" fields = some event.caller.toHex :=
    stringField_of_mem distinct (List.mem_cons_of_mem _ List.mem_cons_self)
  have caller : addressField "caller" fields = some event.caller := by
    rw [addressField, callerText]
    exact event.caller.ofHex_toHex
  have operator : Operator.ofFields (TransactionEvent.flattened fields) =
      some event.operator := by
    rw [event.flattened_fields]
    exact event.operator.ofFields_fields
  change TransactionEvent.ofJson (.object fields) = some event
  simp only [TransactionEvent.ofJson, logIndex, caller, operator, Option.pure_def,
    Option.bind_eq_bind, Option.bind_some]

private theorem TransactionEvent.mapM_ofJson_toJson (events : List TransactionEvent)
    (bounds : ∀ event ∈ events, event.logIndex < 2 ^ 64) :
    (events.map TransactionEvent.toJson).mapM TransactionEvent.ofJson = some events := by
  induction events with
  | nil => rfl
  | cons event events ih =>
      have first := event.ofJson_toJson (bounds event List.mem_cons_self)
      have later := ih fun other member => bounds other (List.mem_cons_of_mem event member)
      rw [List.map_cons, List.mapM_cons, first, later]
      rfl

namespace TransactionMessage

theorem ofJson_toJson (message : TransactionMessage) (inRange : message.InRange) :
    ofJson message.toJson = some { message with firstLogIndex := 0 } := by
  let fields : List (String × Json) :=
    [("chainId", .number message.chainId),
      ("caller", .string message.caller.toHex),
      ("blockNumber", .number message.blockNumber),
      ("transactionHash", .string message.transactionHash),
      ("events", .array (message.events.map TransactionEvent.toJson))]
  have chainId : unsignedField (2 ^ 32) "chainId" fields = some message.chainId :=
    if_pos inRange.chainId
  have caller : addressField "caller" fields = some message.caller :=
    message.caller.ofHex_toHex
  have blockNumber : unsignedField (2 ^ 64) "blockNumber" fields = some message.blockNumber :=
    if_pos inRange.blockNumber
  have transactionHash : stringField "transactionHash" fields =
      some message.transactionHash := rfl
  have items : (uniqueField "events" fields).bind asArray =
      some (message.events.map TransactionEvent.toJson) := rfl
  have events := TransactionEvent.mapM_ofJson_toJson message.events inRange.logIndex
  change ofJson (.object fields) = _
  simp only [ofJson, chainId, caller, blockNumber, transactionHash, items, events,
    Option.pure_def, Option.bind_eq_bind, Option.bind_some]

/-- A message is read back from its payload, but for the field that is skipped. -/
theorem fromBytes_toBytes (message : TransactionMessage) (inRange : message.InRange) :
    fromBytes message.toBytes = some { message with firstLogIndex := 0 } := by
  have decoded : String.fromUTF8? message.toBytes =
      some (String.ofList message.toJson.render) := by
    rw [toBytes, fromUTF8_toByteArray]
  rw [fromBytes, decoded, Option.bind_some, String.toList_ofList, Json.read_render,
    Option.bind_some]
  exact message.ofJson_toJson inRange

/-- The payload determines the events. -/
theorem events_eq_of_toBytes_eq {left right : TransactionMessage} (leftRange : left.InRange)
    (rightRange : right.InRange) (same : left.toBytes = right.toBytes) :
    left.events = right.events := by
  have read := left.fromBytes_toBytes leftRange
  rw [same, right.fromBytes_toBytes rightRange] at read
  exact (congrArg TransactionMessage.events (Option.some.inj read)).symm

end TransactionMessage

end NoxIngestor
