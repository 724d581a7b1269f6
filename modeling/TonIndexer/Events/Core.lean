import TonIndexer.Python.Basic

/-!
# What the serializer reads of the event graph

The serializer consumes blocks built by the classifier of `indexer.events.blocks`, whose
sources are not part of this repository. This file models, from the spec's data model, the
attributes the serializer reads of them and nothing more:

* `AccountId`, `Asset` and `Amount`, the values a payload holds;
* `Transaction`, `Message` and `EventNode`: a node is either a tick-tock transaction or
  carries an inbound message, executed or not;
* the node's `get_lt`, `get_tx_hash` and the account the base converter reads of it.
-/

namespace TonIndexer

/-- Modelled from the spec: `AccountId` of `indexer.events.blocks.utils`, of which the
serializer only uses the canonical string form `as_str()`. -/
structure AccountId where
  as_str : String
  deriving DecidableEq, Repr

/-- Modelled from the spec: `Asset` of `indexer.events.blocks.utils`: the native coin
(`is_ton`) or a jetton with the address of its master contract. -/
structure Asset where
  is_ton : Bool
  jetton_address : Option AccountId
  deriving DecidableEq, Repr

/-- Modelled from the spec: `Amount`, an integer amount read through `.value`. -/
structure Amount where
  value : Int
  deriving DecidableEq, Repr

/-- Modelled from the spec: the transaction of a node, with its hash and its account. -/
structure Transaction where
  hash : String
  account : String
  deriving DecidableEq, Repr

/-- Modelled from the spec: an inbound message, with its hash and the transaction that
executed it (`None` while it is not executed). -/
structure Message where
  msg_hash : String
  transaction : Option Transaction
  deriving DecidableEq, Repr

/-- Modelled from the spec: an event node, a tick-tock transaction (no inbound message) or
a transaction triggered by an inbound message; `lt` is its logical time. -/
inductive EventNode where
  | tickTock (lt : Nat) (tick_tock_tx : Transaction)
  | message (lt : Nat) (message : Message)
  deriving DecidableEq, Repr

namespace EventNode

/-- `n.get_lt()`. -/
def get_lt : EventNode → Nat
  | tickTock lt _ => lt
  | message lt _ => lt

/-- `n.is_tick_tock`. -/
def is_tick_tock : EventNode → Bool
  | tickTock .. => true
  | message .. => false

/-- `n.get_tx_hash()`: the hash of the node's transaction, `None` for an unexecuted message. -/
def get_tx_hash : EventNode → Option String
  | tickTock _ tx => some tx.hash
  | message _ m => m.transaction.map Transaction.hash

/-- The account the base converter reads: `n.tick_tock_tx.account` for a tick-tock node,
`n.message.transaction.account` otherwise, which raises on an unexecuted message. -/
def account : EventNode → Except PyError String
  | tickTock _ tx => pure tx.account
  | message _ m =>
    match m.transaction with
    | some tx => pure tx.account
    | none => throw (noneAttr "account")

/-- The node's account when it has one. -/
def account? : EventNode → Option String
  | tickTock _ tx => some tx.account
  | message _ m => m.transaction.map Transaction.account

/-- Reading the account raises exactly on the nodes with no account. -/
theorem account_eq (n : EventNode) :
    n.account = match n.account? with
      | some a => .ok a
      | none => .error (noneAttr "account") := by
  rcases n with _ | ⟨_, _, _ | _⟩ <;> rfl

end EventNode

end TonIndexer
