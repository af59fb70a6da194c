/-
From a log of the contract to the payload of a message and back.

The first section restates the declarations of the nineteen events: the fields
each of them has and the `type` the message format documents for it.  The tables
of the source agree with it: the signature list, the decoder chosen for a
signature, the conversion field by field and the serialized keys.
-/

import NoxIngestor.Payload
import NoxIngestor.Regrouping

namespace NoxIngestor

open Json SortedGroups

/-! ### The declared events -/

inductive AbiValue
  | address (value : Address)
  | bytes32 (value : B256)
  | uint8 (value : UInt8)

def AbiValue.toJson : AbiValue → Json
  | .address value => .string value.toHex
  | .bytes32 value => .string value.toHex
  | .uint8 value => .number value.toNat

def Sol.Encryption.abiFields (e : Sol.Encryption) : List (String × AbiValue) :=
  [("caller", .address e.caller),
    ("value", .bytes32 e.value),
    ("teeType", .uint8 e.teeType),
    ("handle", .bytes32 e.handle)]

def Sol.Binary.abiFields (e : Sol.Binary) : List (String × AbiValue) :=
  [("caller", .address e.caller),
    ("leftHandOperand", .bytes32 e.leftHandOperand),
    ("rightHandOperand", .bytes32 e.rightHandOperand),
    ("result", .bytes32 e.result)]

def Sol.SafeBinary.abiFields (e : Sol.SafeBinary) : List (String × AbiValue) :=
  [("caller", .address e.caller),
    ("leftHandOperand", .bytes32 e.leftHandOperand),
    ("rightHandOperand", .bytes32 e.rightHandOperand),
    ("success", .bytes32 e.success),
    ("result", .bytes32 e.result)]

def Sol.Select.abiFields (e : Sol.Select) : List (String × AbiValue) :=
  [("caller", .address e.caller),
    ("condition", .bytes32 e.condition),
    ("ifTrue", .bytes32 e.ifTrue),
    ("ifFalse", .bytes32 e.ifFalse),
    ("result", .bytes32 e.result)]

def Sol.Transfer.abiFields (e : Sol.Transfer) : List (String × AbiValue) :=
  [("caller", .address e.caller),
    ("balanceFrom", .bytes32 e.balanceFrom),
    ("balanceTo", .bytes32 e.balanceTo),
    ("amount", .bytes32 e.amount),
    ("success", .bytes32 e.success),
    ("newBalanceFrom", .bytes32 e.newBalanceFrom),
    ("newBalanceTo", .bytes32 e.newBalanceTo)]

def Sol.Mint.abiFields (e : Sol.Mint) : List (String × AbiValue) :=
  [("caller", .address e.caller),
    ("balanceTo", .bytes32 e.balanceTo),
    ("amount", .bytes32 e.amount),
    ("totalSupply", .bytes32 e.totalSupply),
    ("success", .bytes32 e.success),
    ("newBalanceTo", .bytes32 e.newBalanceTo),
    ("newTotalSupply", .bytes32 e.newTotalSupply)]

def Sol.Burn.abiFields (e : Sol.Burn) : List (String × AbiValue) :=
  [("caller", .address e.caller),
    ("balanceFrom", .bytes32 e.balanceFrom),
    ("amount", .bytes32 e.amount),
    ("totalSupply", .bytes32 e.totalSupply),
    ("success", .bytes32 e.success),
    ("newBalanceFrom", .bytes32 e.newBalanceFrom),
    ("newTotalSupply", .bytes32 e.newTotalSupply)]

/-- The `type` column of the message format's table. -/
def SolEvent.documentedType : SolEvent → String
  | .wrapAsPublicHandle => "wrap_as_public_handle"
  | .add => "add"
  | .sub => "sub"
  | .mul => "mul"
  | .div => "div"
  | .safeAdd => "safe_add"
  | .safeSub => "safe_sub"
  | .safeMul => "safe_mul"
  | .safeDiv => "safe_div"
  | .eq => "eq"
  | .ne => "ne"
  | .ge => "ge"
  | .gt => "gt"
  | .le => "le"
  | .lt => "lt"
  | .select => "select"
  | .transfer => "transfer"
  | .mint => "mint"
  | .burn => "burn"

namespace SolEvent

def abiFields : (event : SolEvent) → event.Body → List (String × AbiValue)
  | .wrapAsPublicHandle, body => Sol.Encryption.abiFields body
  | .add, body => Sol.Binary.abiFields body
  | .sub, body => Sol.Binary.abiFields body
  | .mul, body => Sol.Binary.abiFields body
  | .div, body => Sol.Binary.abiFields body
  | .safeAdd, body => Sol.SafeBinary.abiFields body
  | .safeSub, body => Sol.SafeBinary.abiFields body
  | .safeMul, body => Sol.SafeBinary.abiFields body
  | .safeDiv, body => Sol.SafeBinary.abiFields body
  | .eq, body => Sol.Binary.abiFields body
  | .ne, body => Sol.Binary.abiFields body
  | .ge, body => Sol.Binary.abiFields body
  | .gt, body => Sol.Binary.abiFields body
  | .le, body => Sol.Binary.abiFields body
  | .lt, body => Sol.Binary.abiFields body
  | .select, body => Sol.Select.abiFields body
  | .transfer, body => Sol.Transfer.abiFields body
  | .mint, body => Sol.Mint.abiFields body
  | .burn, body => Sol.Burn.abiFields body

def variant : (event : SolEvent) → event.Body → NoxEvent
  | .wrapAsPublicHandle, body => .wrapAsPublicHandle body
  | .add, body => .add body
  | .sub, body => .sub body
  | .mul, body => .mul body
  | .div, body => .div body
  | .safeAdd, body => .safeAdd body
  | .safeSub, body => .safeSub body
  | .safeMul, body => .safeMul body
  | .safeDiv, body => .safeDiv body
  | .eq, body => .eq body
  | .ne, body => .ne body
  | .ge, body => .ge body
  | .gt, body => .gt body
  | .le, body => .le body
  | .lt, body => .lt body
  | .select, body => .select body
  | .transfer, body => .transfer body
  | .mint, body => .mint body
  | .burn, body => .burn body

end SolEvent

/-! ### Parsing -/

namespace NoxEventParser

variable {parser : NoxEventParser} {log : Log}

private theorem mem_eventSignatures {topic0 : B256} :
    topic0 ∈ parser.eventSignatures ↔ ∃ event, topic0 = parser.sol.signatureHash event := by
  constructor
  · intro member
    simp only [eventSignatures, List.mem_cons, List.not_mem_nil, or_false] at member
    rcases member with same | same | same | same | same | same | same | same | same | same |
      same | same | same | same | same | same | same | same | same <;> exact ⟨_, same⟩
  · rintro ⟨event, rfl⟩
    cases event <;> simp only [eventSignatures, List.mem_cons, true_or, or_true]

theorem parse_signature (distinct : Function.Injective parser.sol.signatureHash)
    {event : SolEvent} {rest : List B256}
    (topics : log.topics = parser.sol.signatureHash event :: rest) :
    parser.parse log = (parser.sol.decodeLog event log).map event.variant := by
  rw [parse, topics]
  simp only [distinct.eq_iff]
  cases event <;> rfl

theorem parse_unknown {topic0 : B256} {rest : List B256}
    (topics : log.topics = topic0 :: rest) (unknown : topic0 ∉ parser.eventSignatures) :
    parser.parse log = none := by
  have other : ∀ event, topic0 ≠ parser.sol.signatureHash event :=
    fun event same => unknown (mem_eventSignatures.mpr ⟨event, same⟩)
  rw [parse, topics]
  simp only [other, if_false]

end NoxEventParser

/-! ### Conversion -/

def serialized (field : String × AbiValue) : String × Json := (field.1, field.2.toJson)

/-- What the object of an event tells of the log it was made from. -/
structure Describes (event : SolEvent) (body : event.Body) (logIndex : Nat)
    (fields : List (String × Json)) : Prop where
  /-- The operator's keys, `logIndex`, `caller` and `type` do not collide. -/
  distinct : (fields.map Prod.fst).Nodup
  index : ("logIndex", .number logIndex) ∈ fields
  type : ("type", .string event.documentedType) ∈ fields
  held : ∀ field ∈ event.abiFields body, serialized field ∈ fields

private theorem abiFields_caller (event : SolEvent) (body : event.Body) :
    event.abiFields body =
      ("caller", .address (event.variant body).caller) :: (event.abiFields body).tail := by
  cases event <;> rfl

private theorem operator_fields (event : SolEvent) (body : event.Body) :
    (event.variant body).toOperator.fields =
      ("type", .string event.documentedType) ::
        (event.abiFields body).tail.map serialized := by
  cases event <;> rfl

theorem toTransactionEvent_describes {log : Log} (event : SolEvent) (body : event.Body)
    {hash : B256} {block index : Nat} (hasHash : log.transactionHash = some hash)
    (hasBlock : log.blockNumber = some block) (hasIndex : log.logIndex = some index) :
    ∃ located fields, toTransactionEvent (event.variant body) log = some located ∧
      located.blockNumber = block ∧ located.logIndex = index ∧
      located.transactionHash = hash.toHex ∧ located.event.toJson = .object fields ∧
      Describes event body index fields := by
  let converted : TransactionEvent :=
    { logIndex := index
      caller := (event.variant body).caller
      operator := (event.variant body).toOperator }
  let fields : List (String × Json) := ("logIndex", .number index) ::
    ("caller", .string (event.variant body).caller.toHex) ::
      (event.variant body).toOperator.fields
  have built : toTransactionEvent (event.variant body) log =
      some { blockNumber := block
             logIndex := index
             transactionHash := hash.toHex
             event := converted } := by
    rw [toTransactionEvent, hasHash, hasBlock, hasIndex]
    rfl
  refine ⟨_, fields, built, rfl, rfl, rfl, rfl, ?_⟩
  have inOperator {field : String × Json} (member : field ∈
      ("type", .string event.documentedType) ::
        (event.abiFields body).tail.map serialized) : field ∈ fields := by
    rw [← operator_fields] at member
    exact List.mem_cons_of_mem _ (List.mem_cons_of_mem _ member)
  constructor
  · exact (event.variant body).toOperator.keys_nodup
  · exact List.mem_cons_self
  · exact inOperator List.mem_cons_self
  · intro field member
    rw [abiFields_caller] at member
    rcases List.mem_cons.mp member with rfl | inOthers
    · exact List.mem_cons_of_mem _ List.mem_cons_self
    · exact inOperator (List.mem_cons_of_mem _ (List.mem_map_of_mem inOthers))

theorem BlockReader.transactionsOf_firstLogIndex (reader : BlockReader) (order : HashOrder)
    (logs : List Log) : ∀ message ∈ reader.transactionsOf order logs,
      ∃ first, message.events.head? = some first ∧ message.firstLogIndex = first.logIndex := by
  intro message member
  obtain ⟨event, inEvents, same⟩ := reader.mem_groupByTransaction.mp member
  cases group : eventsOf (sortBy LocatedEvent.position (logs.filterMap reader.parser.locate))
      event.transactionHash with
  | nil =>
      have mine := mem_eventsOf.mpr ⟨inEvents, rfl⟩
      rw [group] at mine
      cases mine
  | cons first rest =>
      rw [same, messageFor_eq group]
      exact ⟨first.event, rfl, rfl⟩

/-- With distinct signature hashes, logs are translated without loss: each signature to
its own variant, each field under its own key, and each message to a payload that is read
back as the message. -/
theorem event_translation_lossless {parser : NoxEventParser}
    (distinct : Function.Injective parser.sol.signatureHash) :
    (∀ (log : Log) topic0 rest, log.topics = topic0 :: rest →
      topic0 ∈ parser.eventSignatures →
        ∃ event, parser.sol.signatureHash event = topic0 ∧
          ∀ body, parser.sol.decodeLog event log = some body →
            parser.parse log = some (event.variant body) ∧
              ∀ hash block index, log.transactionHash = some hash →
                log.blockNumber = some block → log.logIndex = some index →
                  ∃ located fields,
                    toTransactionEvent (event.variant body) log = some located ∧
                      located.blockNumber = block ∧ located.logIndex = index ∧
                        located.transactionHash = hash.toHex ∧
                          located.event.toJson = .object fields ∧
                            Describes event body index fields) ∧
    (∀ (log : Log) topic0 rest, log.topics = topic0 :: rest →
      topic0 ∉ parser.eventSignatures → parser.parse log = none) ∧
    (∀ message : TransactionMessage, message.InRange →
      TransactionMessage.fromBytes message.toBytes =
        some { message with firstLogIndex := 0 }) ∧
    (∀ (reader : BlockReader) order logs, ∀ message ∈ reader.transactionsOf order logs,
      ∃ first, message.events.head? = some first ∧
        message.firstLogIndex = first.logIndex) ∧
    (∀ left right : TransactionMessage, left.InRange → right.InRange →
      left.events ≠ right.events → left.toBytes ≠ right.toBytes) := by
  refine ⟨?_, ?_, ?_, ?_, ?_⟩
  · intro log topic0 rest topics signature
    obtain ⟨event, rfl⟩ := NoxEventParser.mem_eventSignatures.mp signature
    refine ⟨event, rfl, fun body decoded => ⟨?_, ?_⟩⟩
    · rw [NoxEventParser.parse_signature distinct topics, decoded]
      rfl
    · intro hash block index hasHash hasBlock hasIndex
      exact toTransactionEvent_describes event body hasHash hasBlock hasIndex
  · intro log topic0 rest topics unknown
    exact NoxEventParser.parse_unknown topics unknown
  · exact TransactionMessage.fromBytes_toBytes
  · exact BlockReader.transactionsOf_firstLogIndex
  · intro left right leftRange rightRange different same
    exact different (TransactionMessage.events_eq_of_toBytes_eq leftRange rightRange same)

/-- The first addition of the sample chain. -/
theorem event_translation_lossless_addition :
    ∃ located fields, toTransactionEvent
          (.add { caller := 0xb0b
                  leftHandOperand := 3
                  rightHandOperand := 4
                  result := 5 })
          (Abi.addLog Sample.contract 0xb0b 3 4 5 100 Sample.firstHash 0) = some located ∧
      located.event.toJson = .object fields ∧ ("type", .string "add") ∈ fields ∧
        ("result", .string (B256.toHex 5)) ∈ fields := by
  have distinct : Function.Injective Sample.deployment.parser.sol.signatureHash :=
    fun left right same => Abi.signatureHash_injective left right same
  have translation := event_translation_lossless distinct
  let log : Log := Abi.addLog Sample.contract 0xb0b 3 4 5 100 Sample.firstHash 0
  have signature : Abi.signatureHash .add ∈ Sample.deployment.parser.eventSignatures :=
    NoxEventParser.mem_eventSignatures.mpr ⟨.add, rfl⟩
  obtain ⟨event, same, translated⟩ := translation.1 log _ _ rfl signature
  obtain rfl := Abi.signatureHash_injective _ _ same
  have decoded : Sample.deployment.parser.sol.decodeLog .add log =
      some { caller := 0xb0b
             leftHandOperand := 3
             rightHandOperand := 4
             result := 5 } := by
    rfl
  obtain ⟨located, fields, built, _, _, _, object, describes⟩ :=
    (translated _ decoded).2 _ _ _ rfl rfl rfl
  refine ⟨located, fields, built, object, describes.type, ?_⟩
  exact describes.held ("result", .bytes32 5) (by simp [SolEvent.abiFields, Sol.Binary.abiFields])

end NoxIngestor
