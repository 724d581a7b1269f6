import TonIndexer.Python.Codecs
import TonIndexer.Python.Sha256
import TonIndexer.Events.Blocks
import TonIndexer.Serializer.Action

/-!
# Address resolution, identity and the base converter

The leaf functions of `block_tree_serializer.py`:

* `addr` (`_addr`) and the attribute reads a normalizer makes on payload values that may be
  `None`: `x.as_str()`, `x.value`, `x.jetton_address`, one `getAttr` with the attribute's name;
* `calcActionId` (`_calc_action_id`): the base64 text of the SHA-256 of the root node's key
  followed by the block type, the root being the first node of least logical time;
* `baseBlockToAction` (`_base_block_to_action`): the record before any normalizer runs;
* `convertPeerSwap` (`_convert_peer_swap`), which `block_to_action` does not call.
-/

namespace TonIndexer

/-! ## Reading payload values -/

/-- `_addr(addr)`: `None` for `None`, an account's address, an asset's jetton master address
(`None` for the native coin). -/
def addr : Option Addressable → Option String
  | none => none
  | some (.asset a) => a.jetton_address.map AccountId.as_str
  | some (.account a) => some a.as_str

/-- `x.<attr>` on a payload value that may be `None`: `f x`, or the `AttributeError` of
`None`. -/
def getAttr {α β : Type} (attr : String) (f : α → β) : Option α → Except PyError β
  | some a => pure (f a)
  | none => throw (noneAttr attr)

/-- `x.as_str()`. -/
def asStr : Option AccountId → Except PyError String := getAttr "as_str" AccountId.as_str

/-- `x.value`. -/
def amountValue : Option Amount → Except PyError Int := getAttr "value" Amount.value

/-- `x.jetton_address`. -/
def jettonAddress : Option Asset → Except PyError (Option AccountId) :=
  getAttr "jetton_address" Asset.jetton_address

/-- `block.data["key"]` of a key that may be missing. -/
def getItem {α : Type} (key : String) : Option (Option α) → Except PyError (Option α)
  | some v => pure v
  | none => throw (.keyError key)

@[simp] theorem getAttr_some {α β : Type} (attr : String) (f : α → β) (a : α) :
    getAttr attr f (some a) = .ok (f a) := rfl

@[simp] theorem getAttr_none {α β : Type} (attr : String) (f : α → β) :
    getAttr attr f none = .error (noneAttr attr) := rfl

/-- A guarded attribute read that returned read the attribute of a value. -/
theorem getAttr_eq_ok {α β : Type} {attr : String} {f : α → β} {o : Option α} {b : β}
    (h : getAttr attr f o = .ok b) : ∃ a, o = some a ∧ f a = b := by
  cases o
  · cases h
  · exact ⟨_, rfl, Except.ok.inj h⟩

@[simp] theorem getItem_some {α : Type} (key : String) (v : Option α) :
    getItem key (some v) = .ok v := rfl

@[simp] theorem addr_none : addr none = none := rfl

/-! ## Identity -/

/-- One step of `min`: the next node replaces the current minimum only when it is strictly
smaller, so the first of several least nodes wins. -/
def minStep (m k : EventNode) : EventNode := if k.get_lt < m.get_lt then k else m

/-- `min(block.event_nodes, key=lambda n: n.get_lt())`: the first node of least logical
time, `ValueError` for no nodes. -/
def rootEventNode : List EventNode → Except PyError EventNode
  | [] => throw .valueError
  | n :: ns => pure (ns.foldl minStep n)

/-- The key `_calc_action_id` builds before appending the block type: the root's message
hash, or its transaction hash (`""` when it has none). -/
def rootKey (root : EventNode) : String :=
  match root with
  | .message _ m => m.msg_hash
  | .tickTock .. => root.get_tx_hash.getD ""

/-- `_calc_action_id(block)`. -/
def calcActionId (block : Block) : Except PyError String := do
  let root ← rootEventNode block.event_nodes
  decodeUtf8 (b64encode (sha256 (encodeUtf8 (rootKey root ++ block.btype))))

/-! ## The base converter -/

/-- `_base_block_to_action(block, trace_id)`. -/
def baseBlockToAction (block : Block) (trace_id : String) : Except PyError Action := do
  let action_id ← calcActionId block
  let tx_hashes := listSet (block.event_nodes.map EventNode.get_tx_hash)
  let accounts ← block.event_nodes.mapM EventNode.account
  pure
    { trace_id := trace_id
      action_id := action_id
      tx_hashes := tx_hashes
      start_lt := block.min_lt
      end_lt := block.max_lt
      start_utime := block.min_utime
      end_utime := block.max_utime
      accounts := accounts.map some
      extended_tx_hashes := []
      fields := ActionFields.init block.btype !block.failed }

/-! ## `_convert_peer_swap` -/

/-- The `in` or `out` dict of a peer swap. -/
structure PeerSwapLeg where
  amount : Option Amount
  asset : Option Asset

/-- A peer swap dict. -/
structure PeerSwap where
  «in» : PeerSwapLeg
  out : PeerSwapLeg

/-- The dict `_convert_peer_swap` returns. -/
structure PeerSwapDetails where
  amount_in : Int
  asset_in : Option String
  amount_out : Int
  asset_out : Option String
  deriving DecidableEq, Repr

/-- `_convert_peer_swap(peer_swap)`. -/
def convertPeerSwap (peer_swap : PeerSwap) : Except PyError PeerSwapDetails := do
  let in_obj := peer_swap.in
  let out_obj := peer_swap.out
  let amount_in ← amountValue in_obj.amount
  let asset_in ← jettonAddress in_obj.asset
  let amount_out ← amountValue out_obj.amount
  let asset_out ← jettonAddress out_obj.asset
  pure
    { amount_in := amount_in
      asset_in := asset_in.map AccountId.as_str
      amount_out := amount_out
      asset_out := asset_out.map AccountId.as_str }

end TonIndexer
