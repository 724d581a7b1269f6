import TonIndexer.Theorems.Aggregates

/-!
# Reordering a block's event nodes

`_calc_action_id` roots the action at `min(block.event_nodes, key=get_lt)`, the *first* node
of least logical time in list order. When every node of least logical time has the same root
key (its message hash, or its transaction hash), the order of the nodes is invisible:
`blockToAction_perm` shows that a reordered block gives the same action up to the order of
its hash and account lists, and the same log, or raises as the original does. When two such
nodes have different keys the order decides the action id, as `tiedRoots_actionIds` shows.

The proof follows the pipeline: the root (`rootEventNode_least`), the action id
(`calcActionId_perm`), the base record (`baseBlockToAction_perm`), the one normalizer that
reads the nodes (`dispatch_nodes`), and the initiating step (`addInitiatingAccount_congr`).
-/

namespace TonIndexer

/-- Two actions that differ at most in the order of their hash and account lists. -/
def Action.SameUpToOrder (A A' : Action) : Prop :=
  { A with tx_hashes := [], accounts := [], extended_tx_hashes := [] } =
      { A' with tx_hashes := [], accounts := [], extended_tx_hashes := [] } ∧
    (∀ x, x ∈ A.tx_hashes ↔ x ∈ A'.tx_hashes) ∧
    (∀ x, x ∈ A.extended_tx_hashes ↔ x ∈ A'.extended_tx_hashes) ∧
    (∀ x, x ∈ A.accounts ↔ x ∈ A'.accounts)

/-- Two runs of `block_to_action` that agree up to list order: both raise, or both return
actions that are the same up to order, with the same log. -/
inductive RunsAgree : Except PyError (Action × List LogRecord) →
    Except PyError (Action × List LogRecord) → Prop
  | ok {A A' : Action} {log : List LogRecord} :
      A.SameUpToOrder A' → RunsAgree (.ok (A, log)) (.ok (A', log))
  | error {e e' : PyError} : RunsAgree (.error e) (.error e')

/-- Every two nodes of least logical time have the same root key. -/
def LeastLtKeysAgree (ns : List EventNode) : Prop :=
  ∀ n ∈ ns, ∀ m ∈ ns, (∀ k ∈ ns, n.get_lt ≤ k.get_lt) → (∀ k ∈ ns, m.get_lt ≤ k.get_lt) →
    rootKey n = rootKey m

instance (ns : List EventNode) : Decidable (LeastLtKeysAgree ns) := by
  unfold LeastLtKeysAgree; infer_instance

theorem Action.SameUpToOrder.symm {A A' : Action} (h : A.SameUpToOrder A') :
    A'.SameUpToOrder A :=
  ⟨h.1.symm, fun x => (h.2.1 x).symm, fun x => (h.2.2.1 x).symm, fun x => (h.2.2.2 x).symm⟩

theorem LeastLtKeysAgree.perm {ns ns' : List EventNode} (hp : ns.Perm ns')
    (h : LeastLtKeysAgree ns) : LeastLtKeysAgree ns' := by
  intro n hn m hm hln hlm
  simp only [← hp.mem_iff] at hn hm hln hlm
  exact h n hn m hm hln hlm

/-! ## The action id -/

/-- Under agreeing keys the action id does not depend on the order of the nodes. -/
theorem calcActionId_perm {b : Block} {ns : List EventNode} (hp : ns.Perm b.event_nodes)
    (hkey : LeastLtKeysAgree b.event_nodes) :
    calcActionId { b with event_nodes := ns } = calcActionId b := by
  by_cases h0 : b.event_nodes = []
  · have hns : ns = [] := (h0 ▸ hp).eq_nil
    simp [calcActionId, h0, hns, rootEventNode]
  · have hns : ns ≠ [] := fun h => h0 (h ▸ hp).symm.eq_nil
    obtain ⟨r, hr⟩ := rootEventNode_ok_of_ne_nil h0
    obtain ⟨r', hr'⟩ := rootEventNode_ok_of_ne_nil hns
    obtain ⟨hmem, hleast⟩ := rootEventNode_least hr
    obtain ⟨hmem', hleast'⟩ := rootEventNode_least hr'
    have hk : rootKey r' = rootKey r :=
      hkey r' (hp.subset hmem') r hmem (fun k hk => hleast' k (hp.mem_iff.mpr hk)) hleast
    simp only [calcActionId, hr, hr', except_ok_bind, hk]

/-! ## The pipeline -/

/-- The base record of a reordered block: the same, with the lists of the new order. -/
theorem baseBlockToAction_perm {b : Block} {ns : List EventNode} {t : String} {A : Action}
    (hp : ns.Perm b.event_nodes) (hkey : LeastLtKeysAgree b.event_nodes)
    (h : baseBlockToAction b t = .ok A) :
    baseBlockToAction { b with event_nodes := ns } t =
      .ok { A with
        tx_hashes := listSet (ns.map EventNode.get_tx_hash)
        accounts := (ns.filterMap EventNode.account?).map some } := by
  obtain ⟨id, hid, hacc, rfl⟩ := baseBlockToAction_eq_ok.mp h
  exact baseBlockToAction_eq_ok.mpr
    ⟨id, (calcActionId_perm hp hkey).trans hid, fun n hn => hacc n (hp.subset hn), rfl⟩

/-- The TON transfer normalizer reads the nodes only on a path that raises. -/
theorem fillTonTransferAction_nodes {d : TonTransferData} {nodes : List EventNode}
    {f r : ActionFields} (ns : List EventNode) (h : fillTonTransferAction d nodes f = .ok r) :
    fillTonTransferAction d ns f = .ok r := by
  cases hd : d.destination with
  | none => simp [fillTonTransferAction, hd, asStr, except_bind_eq_ok] at h
  | some dst => simpa [fillTonTransferAction, hd] using h

/-- Only the TON transfer normalizer reads the nodes, and only on a path that raises. -/
theorem dispatch_nodes {b : Block} {t : String} {f : ActionFields}
    {r : ActionFields × List LogRecord} (ns : List EventNode) (h : dispatch b t f = .ok r) :
    dispatch { b with event_nodes := ns } t f = .ok r := by
  rcases b with ⟨btype, nodes, data, _, _, _, _, _, _⟩
  cases data <;> try exact h
  simp only [dispatch, normalizer] at h ⊢
  obtain ⟨f', hf', rfl⟩ := except_map_eq_ok.mp h
  exact except_map_eq_ok.mpr ⟨f', fillTonTransferAction_nodes ns hf', rfl⟩

/-- The initiating step reads the accounts only through membership. -/
theorem addInitiatingAccount_congr {t id : String} {accs accs' : List (Option String)}
    {init : Option EventNode} {r : List (Option String) × List LogRecord}
    (hmem : ∀ x, x ∈ accs ↔ x ∈ accs') (h : addInitiatingAccount t id accs init = .ok r) :
    ∃ r', addInitiatingAccount t id accs' init = .ok r' ∧
      (∀ x, x ∈ r.1 ↔ x ∈ r'.1) ∧ r.2 = r'.2 := by
  rcases init with _ | n
  · cases h
    exact ⟨_, rfl, hmem, rfl⟩
  · simp only [addInitiatingAccount] at h ⊢
    split_ifs at h ⊢
    · cases h
      exact ⟨_, rfl, hmem, rfl⟩
    · obtain ⟨acc, hacc, he⟩ := except_bind_eq_ok.mp h
      cases he
      refine ⟨_, by rw [hacc]; rfl, by simp [hmem], by simp [hmem]⟩

/-- A run of a block whose nodes are reordered returns what the original returns, up to the
order of the lists. -/
theorem blockToAction_perm_ok {b : Block} {ns : List EventNode} {t : String} {A : Action}
    {log : List LogRecord} (hp : ns.Perm b.event_nodes) (hkey : LeastLtKeysAgree b.event_nodes)
    (h : blockToAction b t = .ok (A, log)) :
    ∃ A', blockToAction { b with event_nodes := ns } t = .ok (A', log) ∧ A.SameUpToOrder A' := by
  obtain ⟨base, filled, initiated, hbase, hfill, hinit, rfl, rfl⟩ := blockToAction_eq_ok.mp h
  have hbase' := baseBlockToAction_perm hp hkey hbase
  obtain ⟨id, -, -, rfl⟩ := baseBlockToAction_eq_ok.mp hbase
  have hmem : ∀ x, x ∈ (b.event_nodes.filterMap EventNode.account?).map some ++
      [filled.1.source, filled.1.source_secondary, filled.1.destination,
        filled.1.destination_secondary] ↔
      x ∈ (ns.filterMap EventNode.account?).map some ++
      [filled.1.source, filled.1.source_secondary, filled.1.destination,
        filled.1.destination_secondary] := by
    intro x
    simp only [List.mem_append, ((hp.filterMap _).map _).mem_iff]
  obtain ⟨initiated', hinit', hsame, hlog⟩ := addInitiatingAccount_congr hmem hinit
  refine ⟨_, blockToAction_eq_ok.mpr ⟨_, filled, initiated', hbase', dispatch_nodes ns hfill,
    hinit', rfl, by rw [hlog]⟩, rfl, fun x => ?_, fun x => ?_, fun x => ?_⟩
  · simp [hp.mem_iff]
  · simp [hp.mem_iff]
  · simp [hsame]

theorem Block.with_event_nodes_self (b : Block) (ns : List EventNode) :
    { { b with event_nodes := ns } with event_nodes := b.event_nodes } = b := rfl

/-- When the nodes of least logical time share their root key, reordering a block's nodes
changes at most the order of the action's hash and account lists: both runs raise, or both
return the same columns, the same lists read as sets, and the same log. -/
theorem blockToAction_perm (b : Block) (ns : List EventNode) (t : String)
    (hp : ns.Perm b.event_nodes) (hkey : LeastLtKeysAgree b.event_nodes) :
    RunsAgree (blockToAction b t) (blockToAction { b with event_nodes := ns } t) := by
  have back : ∀ {A : Action} {log : List LogRecord},
      blockToAction { b with event_nodes := ns } t = .ok (A, log) →
      ∃ A', blockToAction b t = .ok (A', log) ∧ A.SameUpToOrder A' := fun h =>
    Block.with_event_nodes_self b ns ▸ blockToAction_perm_ok hp.symm (hkey.perm hp.symm) h
  rcases h : blockToAction b t with e | ⟨A, log⟩ <;>
    rcases h' : blockToAction { b with event_nodes := ns } t with e' | ⟨A', log'⟩
  · exact .error
  · obtain ⟨_, h'', -⟩ := back h'
    rw [h] at h''
    cases h''
  · obtain ⟨_, h'', -⟩ := blockToAction_perm_ok hp hkey h
    rw [h'] at h''
    cases h''
  · obtain ⟨_, h'', hsame⟩ := blockToAction_perm_ok hp hkey h
    rw [h'] at h''
    cases h''
    exact .ok hsame

/-- A TON transfer from `A` to `B` seen at two logical times. -/
def twoTimes : Block where
  btype := "ton_transfer"
  event_nodes := [.message 7 ⟨"m1", some ⟨"h1", "A"⟩⟩, .message 9 ⟨"m2", some ⟨"h2", "B"⟩⟩]
  data := .tonTransfer
    { value := some 5, source := some ⟨"A"⟩, destination := some ⟨"B"⟩, comment := none,
      encrypted := false }
  min_lt := 7
  max_lt := 9
  min_utime := 1
  max_utime := 1
  failed := false
  initiating_event_node := none

/-- `twoTimes` with a second node at its least logical time, on the same message `m1` in
another transaction. -/
def twoTimesTied : Block := { twoTimes with
  event_nodes := [.message 5 ⟨"m1", some ⟨"h1", "A"⟩⟩, .message 9 ⟨"m2", some ⟨"h2", "B"⟩⟩,
    .message 5 ⟨"m1", some ⟨"h3", "A"⟩⟩]
  min_lt := 5 }

/-- Reversing `twoTimesTied` moves its root from the node of `h1` to the node of `h3`; both have
the key `m1`, so the two runs return and agree. -/
theorem twoTimesTied_reverse_agrees :
    twoTimesTied.event_nodes.reverse.Perm twoTimesTied.event_nodes ∧
      LeastLtKeysAgree twoTimesTied.event_nodes ∧ (∃ r, blockToAction twoTimesTied "t" = .ok r) ∧
      RunsAgree (blockToAction twoTimesTied "t")
        (blockToAction { twoTimesTied with event_nodes := twoTimesTied.event_nodes.reverse } "t") :=
  have hp := List.reverse_perm twoTimesTied.event_nodes
  have hkey : LeastLtKeysAgree twoTimesTied.event_nodes := by decide
  have ⟨A, log, h, _⟩ := blockToAction_ok twoTimesTied "t" (by decide) rfl rfl rfl
  ⟨hp, hkey, ⟨_, h⟩, blockToAction_perm _ _ "t" hp hkey⟩

/-- Two nodes at the same logical time with different messages: each order roots the action
at its own first node. -/
def tiedRoots : Block := { twoTimes with
  event_nodes := [.message 5 ⟨"m1", some ⟨"h1", "A"⟩⟩, .message 5 ⟨"m2", some ⟨"h2", "B"⟩⟩]
  min_lt := 5
  max_lt := 5 }

set_option maxRecDepth 10000 in
theorem tiedRoots_actionIds :
    [EventNode.message 5 ⟨"m2", some ⟨"h2", "B"⟩⟩, .message 5 ⟨"m1", some ⟨"h1", "A"⟩⟩].Perm
        tiedRoots.event_nodes ∧
      (·.1.action_id) <$> blockToAction tiedRoots "t" =
        .ok "eOzJ2260zix/HNlRVFzRGoxHdNEt2A1FcnZnwQ6lXzA=" ∧
      (·.1.action_id) <$> blockToAction { tiedRoots with event_nodes :=
        [.message 5 ⟨"m2", some ⟨"h2", "B"⟩⟩, .message 5 ⟨"m1", some ⟨"h1", "A"⟩⟩] } "t" =
        .ok "TjkEJ3Bxy4CsD25wscDpDdj4KSlOdJxVNaf9tkr2Caw=" :=
  ⟨.swap _ _ [], by decide, by decide⟩

end TonIndexer
