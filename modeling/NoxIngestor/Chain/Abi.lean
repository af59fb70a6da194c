/-
The contract's event encoding, as one instance of the decoders.

The caller is indexed: the second topic holds it in its low twenty bytes.  All
other fields are static words of the data, in declaration order.  Every theorem
is about an arbitrary `SolEvents`; this instance is the one its examples run on.
-/

import NoxIngestor.Chain.Parser

namespace NoxIngestor.Abi

def signatureHash : SolEvent → B256
  | .wrapAsPublicHandle => 0x1370d6672cb4a1914b5298673259e17877c7ebf58dc47c47efccb757187c1f4d
  | .add => 0x39e9fe4ef5775b41f10d058c793455cec69e7f83b0f806228a43907cc9791839
  | .sub => 0x07fac87f278e536872057346d5204a1ee81edcb56a4eab88f027bc354ba12342
  | .mul => 0xf58aa3915d4aa885128394d9f7f9c798291e8bb2120e5bffab9119dd8c7a38b6
  | .div => 0x11ca51c9cc5c2666d096fe216bc8ced70b95b29de7e023fe93b9e246d4f5bd57
  | .safeAdd => 0xa3f1e3dc067c6ea13ee29fa088eacd4be5fdf42a000e0ce06b084117479fbf82
  | .safeSub => 0x68ed827646a45b3b79650d59a3d988a3ca57d8c7d551bae8e93e114e9bc6be21
  | .safeMul => 0x67db0d27549a04974c93723c0f1ade3480d305a8d3ed91b83d09b817bc27c2b9
  | .safeDiv => 0x2dabc4b37169e7fc65814699f7849bfdd0391ec641e4f53efbf2077428928ec5
  | .eq => 0x6ee26563b43387f86c354e34301f94a23571ab1ace56b10d0f7d3ab64c5eafcd
  | .ne => 0x0f33343f234cd09065311262990a6019fa0c421f5242f60bc414e4583f012749
  | .ge => 0xae2be09df15121983b1d41a2a7247643f0a0d25b3906e50827bfa10295e25b01
  | .gt => 0x914e0104956a1f6e65c562db56add7f3735e2badc127756e0531c0992ca57b09
  | .le => 0x46314c01be675ae168daf399eade5ec333ca96cd392fef4e77a2fbc7ca07a935
  | .lt => 0x60e29c31d5acaf9537691eea9f08f22168cad76d3b854c099af8c840d13b19b1
  | .select => 0xa452dd2476c4fc88c32a757db9ee8a8c320b13c923775830798e75ff9e652b53
  | .transfer => 0xdd42b3f1048c79e541c02a9d330faae62f281c8d1230ff82bc9bcea240d318a3
  | .mint => 0x8ba8689392554435fc74f26295740e476b61a8ccc3932ab0a7ae20618336e3ce
  | .burn => 0xeb9e2cc624056c52e83ec40b1f663837d10a4b19b2ff6903313d317204b4e641

theorem signatureHash_injective (left right : SolEvent)
    (same : signatureHash left = signatureHash right) : left = right := by
  revert same
  cases left <;> cases right <;> decide +kernel

def wordOfBytes (bytes : List UInt8) : B256 :=
  BitVec.ofNat 256 (bytes.foldl (fun value byte => 256 * value + byte.toNat) 0)

/-- The data as words, when it has at least that many. -/
def dataWords (count : Nat) (data : ByteArray) : Option (List B256) :=
  if 32 * count ≤ data.size then
    some ((List.range count).map fun index =>
      wordOfBytes ((data.data.toList.drop (32 * index)).take 32))
  else none

def indexedCaller (log : Log) : Option Address :=
  match log.topics with
  | [_signature, topic1] => some (topic1.setWidth 160)
  | _ => none

def decodeBinary (log : Log) : Option Sol.Binary :=
  match indexedCaller log, dataWords 3 log.data with
  | some caller, some [left, right, result] =>
      some { caller := caller
             leftHandOperand := left
             rightHandOperand := right
             result := result }
  | _, _ => none

def decodeSafeBinary (log : Log) : Option Sol.SafeBinary :=
  match indexedCaller log, dataWords 4 log.data with
  | some caller, some [left, right, success, result] =>
      some { caller := caller
             leftHandOperand := left
             rightHandOperand := right
             success := success
             result := result }
  | _, _ => none

def decodeEncryption (log : Log) : Option Sol.Encryption :=
  match indexedCaller log, dataWords 3 log.data with
  | some caller, some [value, teeType, handle] =>
      some { caller := caller
             value := value
             teeType := UInt8.ofNat teeType.toNat
             handle := handle }
  | _, _ => none

def decodeSelect (log : Log) : Option Sol.Select :=
  match indexedCaller log, dataWords 4 log.data with
  | some caller, some [condition, ifTrue, ifFalse, result] =>
      some { caller := caller
             condition := condition
             ifTrue := ifTrue
             ifFalse := ifFalse
             result := result }
  | _, _ => none

def decodeTransfer (log : Log) : Option Sol.Transfer :=
  match indexedCaller log, dataWords 6 log.data with
  | some caller, some [balanceFrom, balanceTo, amount, success, newFrom, newTo] =>
      some { caller := caller
             balanceFrom := balanceFrom
             balanceTo := balanceTo
             amount := amount
             success := success
             newBalanceFrom := newFrom
             newBalanceTo := newTo }
  | _, _ => none

def decodeMint (log : Log) : Option Sol.Mint :=
  match indexedCaller log, dataWords 6 log.data with
  | some caller, some [balanceTo, amount, supply, success, newTo, newSupply] =>
      some { caller := caller
             balanceTo := balanceTo
             amount := amount
             totalSupply := supply
             success := success
             newBalanceTo := newTo
             newTotalSupply := newSupply }
  | _, _ => none

def decodeBurn (log : Log) : Option Sol.Burn :=
  match indexedCaller log, dataWords 6 log.data with
  | some caller, some [balanceFrom, amount, supply, success, newFrom, newSupply] =>
      some { caller := caller
             balanceFrom := balanceFrom
             amount := amount
             totalSupply := supply
             success := success
             newBalanceFrom := newFrom
             newTotalSupply := newSupply }
  | _, _ => none

def decodeBody (event : SolEvent) (log : Log) : Option event.Body :=
  match event with
  | .wrapAsPublicHandle => decodeEncryption log
  | .add | .sub | .mul | .div => decodeBinary log
  | .safeAdd | .safeSub | .safeMul | .safeDiv => decodeSafeBinary log
  | .eq | .ne | .ge | .gt | .le | .lt => decodeBinary log
  | .select => decodeSelect log
  | .transfer => decodeTransfer log
  | .mint => decodeMint log
  | .burn => decodeBurn log

/-- The decoders check that the first topic is their signature. -/
def events : SolEvents :=
  { signatureHash := signatureHash
    decodeLog := fun event log =>
      if log.topics.head? = some (signatureHash event) then decodeBody event log
      else none }

/-! ### A log of the contract -/

def wordBytes (word : B256) : List UInt8 :=
  (List.range 32).map fun index => UInt8.ofNat (word.toNat / 256 ^ (31 - index))

def addLog (contract caller : Address) (leftHandOperand rightHandOperand result : B256)
    (blockNumber : Nat) (transactionHash : B256) (logIndex : Nat) : Log :=
  { address := contract
    topics := [signatureHash .add, caller.setWidth 256]
    data := ⟨(wordBytes leftHandOperand ++ wordBytes rightHandOperand ++
      wordBytes result).toArray⟩
    blockNumber := some blockNumber
    transactionHash := some transactionHash
    logIndex := some logIndex }

end NoxIngestor.Abi
