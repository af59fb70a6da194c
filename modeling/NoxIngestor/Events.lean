/-
Event payloads and the message published for one transaction.

The record types, their serialized keys and the variant tags are those of the
message format.  Serialization goes through a small JSON tree, rendered the way
the payload writer does: no blanks, keys in declaration order, short escapes.
-/

import NoxIngestor.Lib.Json
import NoxIngestor.Primitives

namespace NoxIngestor

/-- Encrypted values are referred to by the hex text of 32 bytes. -/
abbrev Handle := String

structure ArithmeticOperation where
  leftHandOperand : Handle
  rightHandOperand : Handle
  result : Handle
deriving DecidableEq

structure SafeArithmeticOperation where
  leftHandOperand : Handle
  rightHandOperand : Handle
  success : Handle
  result : Handle
deriving DecidableEq

structure BooleanOperation where
  leftHandOperand : Handle
  rightHandOperand : Handle
  result : Handle
deriving DecidableEq

structure SelectOperation where
  condition : Handle
  ifTrue : Handle
  ifFalse : Handle
  result : Handle
deriving DecidableEq

structure EncryptionOperation where
  value : String
  teeType : UInt8
  handle : Handle
deriving DecidableEq

structure TransferOperation where
  balanceFrom : Handle
  balanceTo : Handle
  amount : Handle
  success : Handle
  newBalanceFrom : Handle
  newBalanceTo : Handle
deriving DecidableEq

structure MintOperation where
  balanceTo : Handle
  amount : Handle
  totalSupply : Handle
  success : Handle
  newBalanceTo : Handle
  newTotalSupply : Handle
deriving DecidableEq

structure BurnOperation where
  balanceFrom : Handle
  amount : Handle
  totalSupply : Handle
  success : Handle
  newBalanceFrom : Handle
  newTotalSupply : Handle
deriving DecidableEq

inductive Operator
  | wrapAsPublicHandle (operation : EncryptionOperation)
  | add (operation : ArithmeticOperation)
  | sub (operation : ArithmeticOperation)
  | mul (operation : ArithmeticOperation)
  | div (operation : ArithmeticOperation)
  | safeAdd (operation : SafeArithmeticOperation)
  | safeSub (operation : SafeArithmeticOperation)
  | safeMul (operation : SafeArithmeticOperation)
  | safeDiv (operation : SafeArithmeticOperation)
  | eq (operation : BooleanOperation)
  | ne (operation : BooleanOperation)
  | ge (operation : BooleanOperation)
  | gt (operation : BooleanOperation)
  | le (operation : BooleanOperation)
  | lt (operation : BooleanOperation)
  | select (operation : SelectOperation)
  | transfer (operation : TransferOperation)
  | mint (operation : MintOperation)
  | burn (operation : BurnOperation)
deriving DecidableEq

structure TransactionEvent where
  logIndex : Nat
  caller : Address
  operator : Operator
deriving DecidableEq

structure TransactionMessage where
  chainId : Nat
  caller : Address
  blockNumber : Nat
  /-- Used for ordering only; it is not serialized. -/
  firstLogIndex : Nat
  transactionHash : String
  events : List TransactionEvent
deriving DecidableEq

/-! ### Serialized form of the payload -/

def ArithmeticOperation.fields (op : ArithmeticOperation) : List (String × Json) :=
  [("leftHandOperand", .string op.leftHandOperand),
    ("rightHandOperand", .string op.rightHandOperand),
    ("result", .string op.result)]

def SafeArithmeticOperation.fields (op : SafeArithmeticOperation) :
    List (String × Json) :=
  [("leftHandOperand", .string op.leftHandOperand),
    ("rightHandOperand", .string op.rightHandOperand),
    ("success", .string op.success),
    ("result", .string op.result)]

def BooleanOperation.fields (op : BooleanOperation) : List (String × Json) :=
  [("leftHandOperand", .string op.leftHandOperand),
    ("rightHandOperand", .string op.rightHandOperand),
    ("result", .string op.result)]

def SelectOperation.fields (op : SelectOperation) : List (String × Json) :=
  [("condition", .string op.condition),
    ("ifTrue", .string op.ifTrue),
    ("ifFalse", .string op.ifFalse),
    ("result", .string op.result)]

def EncryptionOperation.fields (op : EncryptionOperation) : List (String × Json) :=
  [("value", .string op.value),
    ("teeType", .number op.teeType.toNat),
    ("handle", .string op.handle)]

def TransferOperation.fields (op : TransferOperation) : List (String × Json) :=
  [("balanceFrom", .string op.balanceFrom),
    ("balanceTo", .string op.balanceTo),
    ("amount", .string op.amount),
    ("success", .string op.success),
    ("newBalanceFrom", .string op.newBalanceFrom),
    ("newBalanceTo", .string op.newBalanceTo)]

def MintOperation.fields (op : MintOperation) : List (String × Json) :=
  [("balanceTo", .string op.balanceTo),
    ("amount", .string op.amount),
    ("totalSupply", .string op.totalSupply),
    ("success", .string op.success),
    ("newBalanceTo", .string op.newBalanceTo),
    ("newTotalSupply", .string op.newTotalSupply)]

def BurnOperation.fields (op : BurnOperation) : List (String × Json) :=
  [("balanceFrom", .string op.balanceFrom),
    ("amount", .string op.amount),
    ("totalSupply", .string op.totalSupply),
    ("success", .string op.success),
    ("newBalanceFrom", .string op.newBalanceFrom),
    ("newTotalSupply", .string op.newTotalSupply)]

/-- The `type` tag is the snake_case name of the variant and comes first. -/
def Operator.fields : Operator → List (String × Json)
  | .wrapAsPublicHandle op => ("type", .string "wrap_as_public_handle") :: op.fields
  | .add op => ("type", .string "add") :: op.fields
  | .sub op => ("type", .string "sub") :: op.fields
  | .mul op => ("type", .string "mul") :: op.fields
  | .div op => ("type", .string "div") :: op.fields
  | .safeAdd op => ("type", .string "safe_add") :: op.fields
  | .safeSub op => ("type", .string "safe_sub") :: op.fields
  | .safeMul op => ("type", .string "safe_mul") :: op.fields
  | .safeDiv op => ("type", .string "safe_div") :: op.fields
  | .eq op => ("type", .string "eq") :: op.fields
  | .ne op => ("type", .string "ne") :: op.fields
  | .ge op => ("type", .string "ge") :: op.fields
  | .gt op => ("type", .string "gt") :: op.fields
  | .le op => ("type", .string "le") :: op.fields
  | .lt op => ("type", .string "lt") :: op.fields
  | .select op => ("type", .string "select") :: op.fields
  | .transfer op => ("type", .string "transfer") :: op.fields
  | .mint op => ("type", .string "mint") :: op.fields
  | .burn op => ("type", .string "burn") :: op.fields

/-- The operator is flattened into the object of its event. -/
def TransactionEvent.toJson (event : TransactionEvent) : Json :=
  .object (("logIndex", .number event.logIndex) ::
    ("caller", .string event.caller.toHex) :: event.operator.fields)

namespace TransactionMessage

def toJson (message : TransactionMessage) : Json :=
  .object
    [("chainId", .number message.chainId),
      ("caller", .string message.caller.toHex),
      ("blockNumber", .number message.blockNumber),
      ("transactionHash", .string message.transactionHash),
      ("events", .array (message.events.map TransactionEvent.toJson))]

/-- These types have no value that fails to serialize, so the error case of
the code's conversion never occurs. -/
def toBytes (message : TransactionMessage) : ByteArray :=
  (String.ofList message.toJson.render).toByteArray

def subject (message : TransactionMessage) (baseSubject : String) : String :=
  baseSubject ++ "." ++ message.transactionHash

def checksumInput (message : TransactionMessage) : ByteArray :=
  (toString message.chainId ++ ":" ++ message.transactionHash).toByteArray

/-- Hex text of the hash of the chain id and the transaction hash; the events
do not enter it. -/
def computeChecksum (keccak256 : ByteArray → B256)
    (message : TransactionMessage) : String :=
  (keccak256 message.checksumInput).toHex

/-- The hashed text determines the chain id and the transaction hash. -/
theorem checksumInput_injective {left right : TransactionMessage}
    (same : left.checksumInput = right.checksumInput) :
    left.chainId = right.chainId ∧
      left.transactionHash = right.transactionHash := by
  have texts := congrArg String.toList (String.toByteArray_inj.mp same)
  simp only [String.toList_append, List.append_assoc] at texts
  have parts := decimal_colon_injective texts
  exact ⟨parts.1, String.toList_injective parts.2⟩

end TransactionMessage

end NoxIngestor
