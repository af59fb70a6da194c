/-
The message buffer and the publisher.

`publish` and the flush change nothing before the acknowledgement they wait
for, so each function takes the outcome of that wait as an argument.  The
connection state is read by the caller of the model at the point where the
source borrows the watch channel.
-/

import NoxIngestor.Events

namespace NoxIngestor

inductive ConnectionState
  | connected
  | disconnected
deriving DecidableEq

/-- A watch channel: the last value sent and how often one was sent. -/
structure Watch (α : Type) where
  value : α
  version : Nat

namespace Watch

variable {α : Type}

def channel (value : α) : Watch α :=
  { value := value
    version := 0 }

def send (watch : Watch α) (value : α) : Watch α :=
  { value := value
    version := watch.version + 1 }

/-- `changed()` is ready for any version newer than the last one it returned for. -/
def hasChanged (watch : Watch α) (seen : Nat) : Bool := watch.version != seen

end Watch

inductive NatsError
  | publish (description : String)
  | bufferFull (capacity : Nat)
deriving DecidableEq

/-! ### The buffer -/

def maxCapacity : Nat := 1000

structure MessageBuffer where
  buffer : List TransactionMessage
  capacity : Nat

namespace MessageBuffer

def new (capacity : Nat) : MessageBuffer :=
  { buffer := []
    capacity := min capacity maxCapacity }

def len (self : MessageBuffer) : Nat := self.buffer.length

def isEmpty (self : MessageBuffer) : Bool := self.buffer.isEmpty

def isFull (self : MessageBuffer) : Bool := decide (self.len ≥ self.capacity)

def push (self : MessageBuffer) (message : TransactionMessage) :
    Except NatsError MessageBuffer :=
  if self.isFull then .error (.bufferFull self.capacity)
  else .ok { self with buffer := self.buffer ++ [message] }

/-- Bypasses the capacity check. -/
def pushFront (self : MessageBuffer) (message : TransactionMessage) : MessageBuffer :=
  { self with buffer := message :: self.buffer }

/-- Pushes in reverse, so that the first message ends up at the front. -/
def extendFront (self : MessageBuffer) (messages : List TransactionMessage) :
    MessageBuffer :=
  messages.reverse.foldl pushFront self

def drain (self : MessageBuffer) : List TransactionMessage × MessageBuffer :=
  (self.buffer, { self with buffer := [] })

@[simp] theorem extendFront_buffer (self : MessageBuffer)
    (messages : List TransactionMessage) :
    (self.extendFront messages).buffer = messages ++ self.buffer := by
  unfold extendFront
  induction messages with
  | nil => rfl
  | cons message rest ih =>
      rw [List.reverse_cons, List.foldl_append, List.foldl_cons, List.foldl_nil]
      exact congrArg (List.cons message) ih

@[simp] theorem extendFront_capacity (self : MessageBuffer)
    (messages : List TransactionMessage) :
    (self.extendFront messages).capacity = self.capacity := by
  unfold extendFront
  induction messages with
  | nil => rfl
  | cons message rest ih =>
      rw [List.reverse_cons, List.foldl_append, List.foldl_cons, List.foldl_nil]
      exact ih

theorem push_eq_ok {self : MessageBuffer} (room : self.isFull = false)
    (message : TransactionMessage) :
    self.push message = .ok { self with buffer := self.buffer ++ [message] } := by
  unfold push
  rw [room]
  rfl

@[simp] theorem isEmpty_iff (self : MessageBuffer) :
    self.isEmpty = true ↔ self.buffer = [] :=
  List.isEmpty_iff

end MessageBuffer

/-! ### The publisher -/

structure Publisher where
  buffer : MessageBuffer
  /-- The value the pause channel carries. -/
  pause : Bool
  subjectPrefix : String

namespace Publisher

def new (bufferCapacity : Nat) (subject : String) : Publisher :=
  { buffer := MessageBuffer.new bufferCapacity
    pause := false
    subjectPrefix := subject }

def sendPause (self : Publisher) (pause : Bool) : Publisher :=
  { self with pause := pause }

def isBufferFull (self : Publisher) : Bool := self.buffer.isFull

def isBufferEmpty (self : Publisher) : Bool := self.buffer.isEmpty

/-- Signals pause and buffers the message. -/
def bufferMessage (self : Publisher) (message : TransactionMessage) :
    Publisher × Except NatsError Unit :=
  match self.buffer.push message with
  | .ok buffer => ({ self.sendPause true with buffer := buffer }, .ok ())
  | .error error => (self.sendPause true, .error error)

/-- `publish` for the connection state it read and the outcome of `do_publish`,
which only the connected branch awaits. -/
def publish (self : Publisher) (state : ConnectionState)
    (outcome : Except NatsError Unit) (message : TransactionMessage) :
    Publisher × Except NatsError Unit :=
  match state with
  | .connected =>
      match outcome with
      | .ok () => (self, .ok ())
      | .error _error => self.bufferMessage message
  | .disconnected => self.bufferMessage message

/-- Start of `flush_buffer`: the buffer is emptied into a local list. -/
def drainBuffer (self : Publisher) : List TransactionMessage × Publisher :=
  (self.buffer.drain.1, { self with buffer := self.buffer.drain.2 })

/-- A failed message and those behind it go back to the front. -/
def rebuffer (self : Publisher) (messages : List TransactionMessage) : Publisher :=
  { self with buffer := self.buffer.extendFront messages }

end Publisher

/-- What `do_publish` hands to JetStream. -/
structure PublishRequest where
  subject : String
  natsMsgId : String
  payload : ByteArray

def Publisher.publishRequest (keccak256 : ByteArray → B256) (self : Publisher)
    (message : TransactionMessage) : PublishRequest :=
  { subject := message.subject self.subjectPrefix
    natsMsgId := message.computeChecksum keccak256
    payload := message.toBytes }

end NoxIngestor
