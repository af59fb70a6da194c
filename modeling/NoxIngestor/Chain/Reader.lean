/-
The block reader: conversion of logs, grouping by transaction, one batch.

The iteration order of the hash map is an argument of the grouping: any
rearrangement of the entries.  The first section follows the source; the second
says what a grouped list contains, whatever the order was.
-/

import NoxIngestor.Events
import NoxIngestor.Chain.Client
import NoxIngestor.Lib.SortedGroups
import Mathlib.Data.Prod.Lex

namespace NoxIngestor

open SortedGroups

structure LocatedEvent where
  blockNumber : Nat
  logIndex : Nat
  transactionHash : String
  event : TransactionEvent
deriving DecidableEq

structure BatchResult where
  transactions : List TransactionMessage
  startBlock : Nat
  endBlock : Nat

abbrev TransactionEntry := String × (Nat × List TransactionEvent)

/-- The order in which a hash map hands out its entries. -/
structure HashOrder where
  reorder : List TransactionEntry → List TransactionEntry
  perm : ∀ entries, (reorder entries).Perm entries

structure BlockReader where
  parser : NoxEventParser
  batchSize : Nat
  chainId : Nat

def toHandle (bytes : B256) : Handle := bytes.toHex

def Sol.Encryption.toOperation (e : Sol.Encryption) : EncryptionOperation :=
  { value := toHandle e.value
    teeType := e.teeType
    handle := toHandle e.handle }

def Sol.Binary.toArithmetic (e : Sol.Binary) : ArithmeticOperation :=
  { leftHandOperand := toHandle e.leftHandOperand
    rightHandOperand := toHandle e.rightHandOperand
    result := toHandle e.result }

def Sol.Binary.toBoolean (e : Sol.Binary) : BooleanOperation :=
  { leftHandOperand := toHandle e.leftHandOperand
    rightHandOperand := toHandle e.rightHandOperand
    result := toHandle e.result }

def Sol.SafeBinary.toOperation (e : Sol.SafeBinary) : SafeArithmeticOperation :=
  { leftHandOperand := toHandle e.leftHandOperand
    rightHandOperand := toHandle e.rightHandOperand
    success := toHandle e.success
    result := toHandle e.result }

def Sol.Select.toOperation (e : Sol.Select) : SelectOperation :=
  { condition := toHandle e.condition
    ifTrue := toHandle e.ifTrue
    ifFalse := toHandle e.ifFalse
    result := toHandle e.result }

def Sol.Transfer.toOperation (e : Sol.Transfer) : TransferOperation :=
  { balanceFrom := toHandle e.balanceFrom
    balanceTo := toHandle e.balanceTo
    amount := toHandle e.amount
    success := toHandle e.success
    newBalanceFrom := toHandle e.newBalanceFrom
    newBalanceTo := toHandle e.newBalanceTo }

def Sol.Mint.toOperation (e : Sol.Mint) : MintOperation :=
  { balanceTo := toHandle e.balanceTo
    amount := toHandle e.amount
    totalSupply := toHandle e.totalSupply
    success := toHandle e.success
    newBalanceTo := toHandle e.newBalanceTo
    newTotalSupply := toHandle e.newTotalSupply }

def Sol.Burn.toOperation (e : Sol.Burn) : BurnOperation :=
  { balanceFrom := toHandle e.balanceFrom
    amount := toHandle e.amount
    totalSupply := toHandle e.totalSupply
    success := toHandle e.success
    newBalanceFrom := toHandle e.newBalanceFrom
    newTotalSupply := toHandle e.newTotalSupply }

def NoxEvent.toOperator : NoxEvent → Operator
  | .wrapAsPublicHandle e => .wrapAsPublicHandle e.toOperation
  | .add e => .add e.toArithmetic
  | .sub e => .sub e.toArithmetic
  | .mul e => .mul e.toArithmetic
  | .div e => .div e.toArithmetic
  | .safeAdd e => .safeAdd e.toOperation
  | .safeSub e => .safeSub e.toOperation
  | .safeMul e => .safeMul e.toOperation
  | .safeDiv e => .safeDiv e.toOperation
  | .eq e => .eq e.toBoolean
  | .ne e => .ne e.toBoolean
  | .ge e => .ge e.toBoolean
  | .gt e => .gt e.toBoolean
  | .le e => .le e.toBoolean
  | .lt e => .lt e.toBoolean
  | .select e => .select e.toOperation
  | .transfer e => .transfer e.toOperation
  | .mint e => .mint e.toOperation
  | .burn e => .burn e.toOperation

/-- Nothing when a piece of the log's metadata is missing. -/
def toTransactionEvent (event : NoxEvent) (log : Log) : Option LocatedEvent := do
  let txHash ← log.transactionHash
  let blockNumber ← log.blockNumber
  let logIndex ← log.logIndex
  return {
    blockNumber := blockNumber
    logIndex := logIndex
    transactionHash := txHash.toHex
    event := { logIndex := logIndex, caller := event.caller, operator := event.toOperator } }

def NoxEventParser.locate (parser : NoxEventParser) (log : Log) : Option LocatedEvent :=
  (parser.parse log).bind fun event => toTransactionEvent event log

/-- Order of the scan: by block, then by log index. -/
def LocatedEvent.position (event : LocatedEvent) : Nat ×ₗ Nat :=
  toLex (event.blockNumber, event.logIndex)

/-- Order of the messages: by block, then by first log index. -/
def TransactionMessage.position (message : TransactionMessage) : Nat ×ₗ Nat :=
  toLex (message.blockNumber, message.firstLogIndex)

/-- The map of `group_by_transaction`: an entry keeps the block of the event
that created it and the events in the order they were pushed. -/
def transactionMap (events : List LocatedEvent) : List TransactionEntry :=
  collect LocatedEvent.transactionHash
    (fun event => (event.blockNumber, []))
    (fun event entry => (entry.1, entry.2 ++ [event.event])) events

def toMessage (chainId : Nat) (entry : TransactionEntry) : TransactionMessage :=
  { chainId := chainId
    caller := (entry.2.2.head?.map TransactionEvent.caller).getD 0
    blockNumber := entry.2.1
    firstLogIndex := (entry.2.2.head?.map TransactionEvent.logIndex).getD 0
    transactionHash := entry.1
    events := entry.2.2 }

def NoxEventParser.logFilter (parser : NoxEventParser) (fromBlock toBlock : Nat) : Filter :=
  { address := parser.contractAddress
    eventSignatures := parser.eventSignatures
    fromBlock := fromBlock
    toBlock := toBlock }

namespace BlockReader

def groupByTransaction (reader : BlockReader) (order : HashOrder)
    (events : List LocatedEvent) : List TransactionMessage :=
  sortBy TransactionMessage.position
    ((order.reorder (transactionMap events)).map (toMessage reader.chainId))

/-- Clamped to the head and to the batch size, in `u64` arithmetic. -/
def batchEnd (reader : BlockReader) (startBlock latestBlock : Nat) : Nat :=
  min (u64Sub (u64Add startBlock reader.batchSize) 1) latestBlock

def transactionsOf (reader : BlockReader) (order : HashOrder) (logs : List Log) :
    List TransactionMessage :=
  reader.groupByTransaction order
    (sortBy LocatedEvent.position (logs.filterMap reader.parser.locate))

def readBatch (reader : BlockReader) (startBlock latestBlock : Nat) (fetch : Fetch)
    (order : HashOrder) : Except ChainError BatchResult :=
  if startBlock > latestBlock then
    .ok { transactions := []
          startBlock := startBlock
          endBlock := startBlock - 1 }
  else
    let endBlock := reader.batchEnd startBlock latestBlock
    match splitLogsOnError startBlock endBlock fetch with
    | .error error => .error error
    | .ok logs =>
        .ok { transactions := reader.transactionsOf order logs
              startBlock := startBlock
              endBlock := endBlock }

end BlockReader

end NoxIngestor
