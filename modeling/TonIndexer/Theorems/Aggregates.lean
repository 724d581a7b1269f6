import TonIndexer.Theorems.Pipeline

/-!
# The account and hash aggregates

What `block_to_action` leaves in `accounts`, `tx_hashes` and `extended_tx_hashes`, for every
block of every class. The normalizers cannot touch these columns (they only see
`ActionFields`), so the result follows from the base converter and the assembler alone:

* `blockToAction_aggregates`: the accounts are duplicate-free and null-free and are exactly
  the nodes' accounts, the four generic address columns and the initiating account; the
  hashes are the nodes' hashes; the extended hashes add the initiating node's hash;
* `blockToAction_identity`: the trace id, the time bounds and the action id are those of
  the base converter, the id being `actionIdOf` the first node of least logical time;
* `blockToAction_initiatingInfo`: the account of an initiating node that is not tick-tock is
  always kept, and the diagnostic is logged exactly when neither a node nor a generic address
  column brought it.
-/

namespace TonIndexer

/-! ## The aggregates -/

theorem some_getD_of_isSome {o : Option String} (h : o.isSome) (d : String) :
    some (o.getD d) = o := by
  cases o <;> simp_all

/-- The account and hash lists of an action of block `b` are exact: the accounts are
duplicate-free and null-free and are the nodes' accounts, the generic address columns and the
account of an initiating node that is not tick-tock; the hashes are the nodes' hashes, and the
extended hashes add the initiating node's hash. -/
structure AggregatesExact (b : Block) (A : Action) : Prop where
  accounts_nodup : A.accounts.Nodup
  none_not_mem_accounts : none ∉ A.accounts
  mem_accounts : ∀ a, some a ∈ A.accounts ↔
    (∃ n ∈ b.event_nodes, n.account? = some a) ∨
    some a ∈ [A.fields.source, A.fields.source_secondary, A.fields.destination,
      A.fields.destination_secondary] ∨
    (∃ n, b.initiating_event_node = some n ∧ n.is_tick_tock = false ∧ n.account? = some a)
  tx_hashes_nodup : A.tx_hashes.Nodup
  mem_tx_hashes : ∀ x, x ∈ A.tx_hashes ↔ ∃ n ∈ b.event_nodes, n.get_tx_hash = x
  extended_tx_hashes_nodup : A.extended_tx_hashes.Nodup
  mem_extended_tx_hashes : ∀ x, x ∈ A.extended_tx_hashes ↔
    x ∈ A.tx_hashes ∨ ∃ n, b.initiating_event_node = some n ∧ x = n.get_tx_hash
  tx_hashes_subset : ∀ x, x ∈ A.tx_hashes → x ∈ A.extended_tx_hashes

/-- Whenever `block_to_action` returns, its account and hash lists are exact. -/
theorem blockToAction_aggregates {b : Block} {t : String} {A : Action} {log : List LogRecord}
    (h : blockToAction b t = .ok (A, log)) : AggregatesExact b A := by
  obtain ⟨base, filled, initiated, hbase, -, hinit, rfl, -⟩ := blockToAction_eq_ok.mp h
  obtain ⟨id, -, -, rfl⟩ := baseBlockToAction_eq_ok.mp hbase
  obtain ⟨hhash, hmem⟩ := addInitiatingAccount_eq_ok hinit
  have hext : ∀ x, x ∈ listSet (listSet (b.event_nodes.map EventNode.get_tx_hash) ++
      (b.initiating_event_node.map fun n => some (n.get_tx_hash.getD "")).toList) ↔
      x ∈ listSet (b.event_nodes.map EventNode.get_tx_hash) ∨
        ∃ n, b.initiating_event_node = some n ∧ x = n.get_tx_hash := by
    intro x
    rcases hi : b.initiating_event_node with _ | n
    · simp
    · simp [some_getD_of_isSome (hhash n hi), eq_comm]
  exact
    { accounts_nodup := nodup_listSet _
      none_not_mem_accounts := by simp [listSet]
      mem_accounts := fun a => by simp [hmem, or_assoc]
      tx_hashes_nodup := nodup_listSet _
      mem_tx_hashes := by simp
      extended_tx_hashes_nodup := nodup_listSet _
      mem_extended_tx_hashes := hext
      tx_hashes_subset := fun x hx => (hext x).mpr (.inl hx) }

/-- A TON transfer from `A` to `B` whose initiating message was executed on a third account. -/
def transferFromW : Block where
  btype := "ton_transfer"
  event_nodes := [.message 7 ⟨"m1", some ⟨"h1", "A"⟩⟩]
  data := .tonTransfer
    { value := some 5, source := some ⟨"A"⟩, destination := some ⟨"B"⟩, comment := some "hi",
      encrypted := false }
  min_lt := 7
  max_lt := 7
  min_utime := 1
  max_utime := 1
  failed := false
  initiating_event_node := some (.message 3 ⟨"m0", some ⟨"h0", "W"⟩⟩)

/-- The action of `transferFromW`: `W` joins the accounts and `h0` the extended hashes. -/
def transferFromWAction : Action where
  trace_id := "t"
  action_id := "eOzJ2260zix/HNlRVFzRGoxHdNEt2A1FcnZnwQ6lXzA="
  tx_hashes := [some "h1"]
  start_lt := 7
  end_lt := 7
  start_utime := 1
  end_utime := 1
  accounts := [some "A", some "B", some "W"]
  extended_tx_hashes := [some "h1", some "h0"]
  fields := { ActionFields.init "ton_transfer" true with
    value := some 5
    source := some "A"
    destination := some "B"
    ton_transfer_data := some { content := some "hi", encrypted := false } }

set_option maxRecDepth 10000 in
theorem transferFromW_aggregates :
    blockToAction transferFromW "t" =
        .ok (transferFromWAction, [initiatingAccountInfo (.message 3 ⟨"m0", some ⟨"h0", "W"⟩⟩)
          "t" "eOzJ2260zix/HNlRVFzRGoxHdNEt2A1FcnZnwQ6lXzA="]) ∧
      AggregatesExact transferFromW transferFromWAction := by
  refine ⟨?run, blockToAction_aggregates ?run⟩
  decide

/-! ## The base columns -/

/-- The action id of a root key, as the spec describes it: the base64 text of the SHA-256
digest of the key's UTF-8 form. -/
def actionIdOf (key : String) : String :=
  ⟨(b64encode (sha256 (encodeUtf8 key))).map fun x => Char.ofNat x.toNat⟩

/-- A returned action carries the trace id, the block's time bounds, and the action id of its
root: the first event node of least logical time, keyed by its message hash (its transaction
hash for a tick-tock node) followed by the block's type. -/
theorem blockToAction_identity {b : Block} {t : String} {A : Action} {log : List LogRecord}
    (h : blockToAction b t = .ok (A, log)) :
    A.trace_id = t ∧ A.start_lt = b.min_lt ∧ A.end_lt = b.max_lt ∧
      A.start_utime = b.min_utime ∧ A.end_utime = b.max_utime ∧
      ∃ pre r post, b.event_nodes = pre ++ r :: post ∧ (∀ k ∈ pre, r.get_lt < k.get_lt) ∧
        (∀ k ∈ post, r.get_lt ≤ k.get_lt) ∧ A.action_id = actionIdOf (rootKey r ++ b.btype) := by
  obtain ⟨base, filled, initiated, hbase, -, -, rfl, -⟩ := blockToAction_eq_ok.mp h
  obtain ⟨id, hid, -, rfl⟩ := baseBlockToAction_eq_ok.mp hbase
  simp only [calcActionId, except_bind_eq_ok, decodeUtf8_b64encode, Except.ok.injEq] at hid
  obtain ⟨r, hr, rfl⟩ := hid
  obtain ⟨pre, post, hns, hpre, hpost⟩ := rootEventNode_first hr
  exact ⟨rfl, rfl, rfl, rfl, rfl, pre, r, post, hns, hpre, hpost, rfl⟩

/-- `transferFromW` seen first at a later message: its nodes run at logical times 9, 7, 7. -/
def transferLateFirst : Block := { transferFromW with
  event_nodes := [.message 9 ⟨"m2", some ⟨"h2", "B"⟩⟩, .message 7 ⟨"m1", some ⟨"h1", "A"⟩⟩,
    .message 7 ⟨"m3", some ⟨"h3", "A"⟩⟩]
  max_lt := 9 }

/-- The action of `transferLateFirst` is rooted neither at its first node nor at the last of
least logical time, but at the first of least logical time, keyed by its message hash `m1`. -/
theorem transferLateFirst_identity :
    ∃ A log, blockToAction transferLateFirst "t" = .ok (A, log) ∧ A.start_lt = 7 ∧
      A.end_lt = 9 ∧ A.action_id = actionIdOf ("m1" ++ "ton_transfer") := by
  obtain ⟨A, log, h, -⟩ := blockToAction_ok transferLateFirst "t" (by decide) rfl rfl rfl
  obtain ⟨-, hstart, hend, -, -, pre, r, post, hns, hpre, hpost, hid⟩ := blockToAction_identity h
  have hr : r = .message 7 ⟨"m1", some ⟨"h1", "A"⟩⟩ := by
    simp only [transferLateFirst] at hns
    rcases pre with _ | ⟨_, _ | ⟨_, _ | ⟨_, pre⟩⟩⟩ <;>
      simp only [List.nil_append, List.cons_append, List.cons.injEq] at hns
    · -- the node at time 9 is not least
      obtain ⟨rfl, -, rfl⟩ := hns
      simp [EventNode.get_lt] at hpost
    · exact hns.2.1.symm
    · -- the second node at time 7 comes after the first
      obtain ⟨rfl, rfl, rfl, -⟩ := hns
      simp [EventNode.get_lt] at hpre
    · simp at hns
  exact ⟨A, log, h, hstart, hend, by rw [hid, hr]; rfl⟩

/-! ## The initiating account -/

/-- The account of an initiating node that is not tick-tock is always in the action, and the
diagnostic is logged exactly when neither a node nor a generic address column brought it. -/
theorem blockToAction_initiatingInfo {b : Block} {t : String} {A : Action}
    {log : List LogRecord} {n : EventNode} {a : String} (h : blockToAction b t = .ok (A, log))
    (hi : b.initiating_event_node = some n) (htt : n.is_tick_tock = false)
    (ha : n.account? = some a) :
    some a ∈ A.accounts ∧
      (initiatingAccountInfo n t A.action_id ∈ log ↔
        ¬((∃ k ∈ b.event_nodes, k.account? = some a) ∨
          some a ∈ [A.fields.source, A.fields.source_secondary, A.fields.destination,
            A.fields.destination_secondary])) := by
  obtain ⟨base, filled, initiated, hbase, hfill, hinit, rfl, rfl⟩ := blockToAction_eq_ok.mp h
  obtain ⟨id, -, -, rfl⟩ := baseBlockToAction_eq_ok.mp hbase
  rw [hi, addInitiatingAccount_some htt ha, Except.ok.injEq] at hinit
  subst hinit
  have hwarn : initiatingAccountInfo n t id ∉ filled.2 := fun hx =>
    LogRecord.noConfusion (dispatch_log hfill _ hx)
  refine ⟨by simp, ?_⟩
  split_ifs with hnew <;> simp_all [List.mem_filterMap]

/-- In `transferFromW` no node and no address column has `W`, so it is appended and logged. -/
theorem transferFromW_logsInitiator :
    ∃ A log, blockToAction transferFromW "t" = .ok (A, log) ∧ some "W" ∈ A.accounts ∧
      initiatingAccountInfo (.message 3 ⟨"m0", some ⟨"h0", "W"⟩⟩) "t" A.action_id ∈ log := by
  obtain ⟨A, log, h, hA⟩ := blockToAction_ok transferFromW "t" (by decide) rfl rfl rfl
  obtain ⟨hmem, hlog⟩ := blockToAction_initiatingInfo h rfl rfl rfl
  exact ⟨A, log, h, hmem, hlog.mpr (by rw [hA]; decide)⟩

end TonIndexer
