/-
Logs and the event parser.

The generated decoders of the nineteen contract events belong to the ABI
library: their signature hashes and decoding functions are the parameter
`SolEvents`.  What the parser does with them is written out as in the source.
-/

import NoxIngestor.Primitives

namespace NoxIngestor

/-- The part of an RPC log record that is read. -/
structure Log where
  address : Address
  topics : List B256
  data : ByteArray
  blockNumber : Option Nat
  transactionHash : Option B256
  logIndex : Option Nat

/-! ### Decoded events -/

namespace Sol

structure Encryption where
  caller : Address
  value : B256
  teeType : UInt8
  handle : B256

structure Binary where
  caller : Address
  leftHandOperand : B256
  rightHandOperand : B256
  result : B256

structure SafeBinary where
  caller : Address
  leftHandOperand : B256
  rightHandOperand : B256
  success : B256
  result : B256

structure Select where
  caller : Address
  condition : B256
  ifTrue : B256
  ifFalse : B256
  result : B256

structure Transfer where
  caller : Address
  balanceFrom : B256
  balanceTo : B256
  amount : B256
  success : B256
  newBalanceFrom : B256
  newBalanceTo : B256

structure Mint where
  caller : Address
  balanceTo : B256
  amount : B256
  totalSupply : B256
  success : B256
  newBalanceTo : B256
  newTotalSupply : B256

structure Burn where
  caller : Address
  balanceFrom : B256
  amount : B256
  totalSupply : B256
  success : B256
  newBalanceFrom : B256
  newTotalSupply : B256

end Sol

inductive SolEvent
  | wrapAsPublicHandle
  | add
  | sub
  | mul
  | div
  | safeAdd
  | safeSub
  | safeMul
  | safeDiv
  | eq
  | ne
  | ge
  | gt
  | le
  | lt
  | select
  | transfer
  | mint
  | burn
deriving DecidableEq

/-- The decoded body of each event; events of one shape share it. -/
@[reducible] def SolEvent.Body : SolEvent → Type
  | .wrapAsPublicHandle => Sol.Encryption
  | .add | .sub | .mul | .div => Sol.Binary
  | .safeAdd | .safeSub | .safeMul | .safeDiv => Sol.SafeBinary
  | .eq | .ne | .ge | .gt | .le | .lt => Sol.Binary
  | .select => Sol.Select
  | .transfer => Sol.Transfer
  | .mint => Sol.Mint
  | .burn => Sol.Burn

/-- What the ABI library generates for the declarations. -/
structure SolEvents where
  signatureHash : SolEvent → B256
  decodeLog : (event : SolEvent) → Log → Option event.Body

inductive NoxEvent
  | wrapAsPublicHandle (event : Sol.Encryption)
  | add (event : Sol.Binary)
  | sub (event : Sol.Binary)
  | mul (event : Sol.Binary)
  | div (event : Sol.Binary)
  | safeAdd (event : Sol.SafeBinary)
  | safeSub (event : Sol.SafeBinary)
  | safeMul (event : Sol.SafeBinary)
  | safeDiv (event : Sol.SafeBinary)
  | eq (event : Sol.Binary)
  | ne (event : Sol.Binary)
  | ge (event : Sol.Binary)
  | gt (event : Sol.Binary)
  | le (event : Sol.Binary)
  | lt (event : Sol.Binary)
  | select (event : Sol.Select)
  | transfer (event : Sol.Transfer)
  | mint (event : Sol.Mint)
  | burn (event : Sol.Burn)

def NoxEvent.caller : NoxEvent → Address
  | .wrapAsPublicHandle event => event.caller
  | .add event => event.caller
  | .sub event => event.caller
  | .mul event => event.caller
  | .div event => event.caller
  | .safeAdd event => event.caller
  | .safeSub event => event.caller
  | .safeMul event => event.caller
  | .safeDiv event => event.caller
  | .eq event => event.caller
  | .ne event => event.caller
  | .ge event => event.caller
  | .gt event => event.caller
  | .le event => event.caller
  | .lt event => event.caller
  | .select event => event.caller
  | .transfer event => event.caller
  | .mint event => event.caller
  | .burn event => event.caller

/-! ### The parser -/

structure NoxEventParser where
  sol : SolEvents
  contractAddress : Address

namespace NoxEventParser

def eventSignatures (parser : NoxEventParser) : List B256 :=
  [parser.sol.signatureHash .wrapAsPublicHandle,
    parser.sol.signatureHash .add,
    parser.sol.signatureHash .sub,
    parser.sol.signatureHash .mul,
    parser.sol.signatureHash .div,
    parser.sol.signatureHash .safeAdd,
    parser.sol.signatureHash .safeSub,
    parser.sol.signatureHash .safeMul,
    parser.sol.signatureHash .safeDiv,
    parser.sol.signatureHash .eq,
    parser.sol.signatureHash .ne,
    parser.sol.signatureHash .ge,
    parser.sol.signatureHash .gt,
    parser.sol.signatureHash .le,
    parser.sol.signatureHash .lt,
    parser.sol.signatureHash .select,
    parser.sol.signatureHash .transfer,
    parser.sol.signatureHash .mint,
    parser.sol.signatureHash .burn]

/-- The first signature equal to `topic0` selects the decoder; a log without
topics, with another signature or with an undecodable body gives nothing. -/
def parse (parser : NoxEventParser) (log : Log) : Option NoxEvent :=
  let sol := parser.sol
  match log.topics with
  | [] => none
  | topic0 :: _ =>
      if topic0 = sol.signatureHash .wrapAsPublicHandle then
        (sol.decodeLog .wrapAsPublicHandle log).map .wrapAsPublicHandle
      else if topic0 = sol.signatureHash .add then
        (sol.decodeLog .add log).map .add
      else if topic0 = sol.signatureHash .sub then
        (sol.decodeLog .sub log).map .sub
      else if topic0 = sol.signatureHash .mul then
        (sol.decodeLog .mul log).map .mul
      else if topic0 = sol.signatureHash .div then
        (sol.decodeLog .div log).map .div
      else if topic0 = sol.signatureHash .safeAdd then
        (sol.decodeLog .safeAdd log).map .safeAdd
      else if topic0 = sol.signatureHash .safeSub then
        (sol.decodeLog .safeSub log).map .safeSub
      else if topic0 = sol.signatureHash .safeMul then
        (sol.decodeLog .safeMul log).map .safeMul
      else if topic0 = sol.signatureHash .safeDiv then
        (sol.decodeLog .safeDiv log).map .safeDiv
      else if topic0 = sol.signatureHash .eq then
        (sol.decodeLog .eq log).map .eq
      else if topic0 = sol.signatureHash .ne then
        (sol.decodeLog .ne log).map .ne
      else if topic0 = sol.signatureHash .ge then
        (sol.decodeLog .ge log).map .ge
      else if topic0 = sol.signatureHash .gt then
        (sol.decodeLog .gt log).map .gt
      else if topic0 = sol.signatureHash .le then
        (sol.decodeLog .le log).map .le
      else if topic0 = sol.signatureHash .lt then
        (sol.decodeLog .lt log).map .lt
      else if topic0 = sol.signatureHash .select then
        (sol.decodeLog .select log).map .select
      else if topic0 = sol.signatureHash .transfer then
        (sol.decodeLog .transfer log).map .transfer
      else if topic0 = sol.signatureHash .mint then
        (sol.decodeLog .mint log).map .mint
      else if topic0 = sol.signatureHash .burn then
        (sol.decodeLog .burn log).map .burn
      else none

end NoxEventParser

end NoxIngestor
