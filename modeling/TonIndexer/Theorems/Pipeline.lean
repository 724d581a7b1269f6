import TonIndexer.Serializer.BlockToAction

/-!
# The steps of `block_to_action`

One lemma per step of the pipeline, saying when it returns and what it returns, so that the
theorems about whole runs peel a run apart with `obtain` and never unfold a step:

* `rootEventNode_least`: the root is a node of least logical time;
* `calcActionId_ok_of_ne_nil`: a block with nodes has an action id;
* `mapM_account` and `baseBlockToAction_eq_ok` give the base converter in closed form;
* `dispatch_log`, `addInitiatingAccount_eq_ok`, `addInitiatingAccount_some` and
  `blockToAction_eq_ok` invert the dispatcher's and the assembler's steps;
* `blockToAction_ok`: a block whose nodes have accounts returns whenever its normalizer does.
-/

namespace TonIndexer

/-! ## The root and the action id -/

/-- A step of `min` keeps one of its two nodes, no later than either. -/
theorem minStep_spec (m k : EventNode) :
    (minStep m k = k ∨ minStep m k = m) ∧ (minStep m k).get_lt ≤ m.get_lt ∧
      (minStep m k).get_lt ≤ k.get_lt := by
  unfold minStep
  split_ifs <;> simp <;> omega

/-- The `min` loop keeps the running minimum: a node it has seen, of least logical time. -/
theorem foldl_minStep (ns : List EventNode) (m : EventNode) :
    (ns.foldl minStep m = m ∨ ns.foldl minStep m ∈ ns) ∧
      (ns.foldl minStep m).get_lt ≤ m.get_lt ∧ ∀ k ∈ ns, (ns.foldl minStep m).get_lt ≤ k.get_lt := by
  induction ns generalizing m with
  | nil => simp
  | cons k ks ih =>
    obtain ⟨hmem, hle, hall⟩ := ih (minStep m k)
    obtain ⟨hstep, hm, hk⟩ := minStep_spec m k
    simp only [List.foldl_cons, List.mem_cons, forall_eq_or_imp]
    refine ⟨?_, by omega, by omega, hall⟩
    rcases hstep with h | h <;> rw [h] at hmem ⊢ <;> tauto

/-- The root is a node of least logical time. -/
theorem rootEventNode_least {ns : List EventNode} {r : EventNode}
    (h : rootEventNode ns = .ok r) : r ∈ ns ∧ ∀ k ∈ ns, r.get_lt ≤ k.get_lt := by
  cases ns with
  | nil => cases h
  | cons n ns =>
    cases h
    obtain ⟨hmem, hle, hall⟩ := foldl_minStep ns n
    refine ⟨?_, by simp only [List.mem_cons, forall_eq_or_imp]; exact ⟨hle, hall⟩⟩
    rcases hmem with h | h
    · rw [h]; exact List.mem_cons_self n ns
    · exact List.mem_cons_of_mem n h

/-- The `min` loop returns its start when nothing is earlier, and otherwise the first node of
least logical time, which is earlier than the start. -/
theorem foldl_minStep_first (ks : List EventNode) (m : EventNode) :
    (ks.foldl minStep m = m ∧ ∀ k ∈ ks, m.get_lt ≤ k.get_lt) ∨
      ∃ pre post, ks = pre ++ ks.foldl minStep m :: post ∧
        (ks.foldl minStep m).get_lt < m.get_lt ∧
        (∀ k ∈ pre, (ks.foldl minStep m).get_lt < k.get_lt) ∧
        ∀ k ∈ post, (ks.foldl minStep m).get_lt ≤ k.get_lt := by
  induction ks generalizing m with
  | nil => simp
  | cons k ks ih =>
    simp only [List.foldl_cons, minStep]
    split_ifs with hk
    · rcases ih k with ⟨hr, hall⟩ | ⟨pre, post, hks, hlt, hpre, hpost⟩
      · exact .inr ⟨[], ks, by rw [hr]; rfl, by rw [hr]; exact hk, by simp, by rwa [hr]⟩
      · refine .inr ⟨k :: pre, post, congrArg (k :: ·) hks, by omega, ?_, hpost⟩
        simp only [List.mem_cons, forall_eq_or_imp]
        exact ⟨hlt, hpre⟩
    · rcases ih m with ⟨hr, hall⟩ | ⟨pre, post, hks, hlt, hpre, hpost⟩
      · exact .inl ⟨hr, by simp only [List.mem_cons, forall_eq_or_imp]; exact ⟨by omega, hall⟩⟩
      · refine .inr ⟨k :: pre, post, congrArg (k :: ·) hks, hlt, ?_, hpost⟩
        simp only [List.mem_cons, forall_eq_or_imp]
        exact ⟨by omega, hpre⟩

/-- The root is the first node of least logical time, as Python's `min` returns. -/
theorem rootEventNode_first {ns : List EventNode} {r : EventNode}
    (h : rootEventNode ns = .ok r) :
    ∃ pre post, ns = pre ++ r :: post ∧ (∀ k ∈ pre, r.get_lt < k.get_lt) ∧
      ∀ k ∈ post, r.get_lt ≤ k.get_lt := by
  cases ns with
  | nil => cases h
  | cons n ns =>
    cases h
    rcases foldl_minStep_first ns n with ⟨hr, hall⟩ | ⟨pre, post, hns, hlt, hpre, hpost⟩
    · exact ⟨[], ns, by rw [hr]; rfl, by simp, by rwa [hr]⟩
    · refine ⟨n :: pre, post, congrArg (n :: ·) hns, ?_, hpost⟩
      simp only [List.mem_cons, forall_eq_or_imp]
      exact ⟨hlt, hpre⟩

theorem rootEventNode_ok_of_ne_nil {ns : List EventNode} (h : ns ≠ []) :
    ∃ r, rootEventNode ns = .ok r := by
  cases ns with
  | nil => exact absurd rfl h
  | cons n ns => exact ⟨_, rfl⟩

/-- A block with nodes has an action id: the base64 text always decodes. -/
theorem calcActionId_ok_of_ne_nil {b : Block} (h : b.event_nodes ≠ []) :
    ∃ id, calcActionId b = .ok id := by
  obtain ⟨r, hr⟩ := rootEventNode_ok_of_ne_nil h
  simp only [calcActionId, hr, except_ok_bind, decodeUtf8_b64encode, Except.ok.injEq, exists_eq']

/-! ## The base converter -/

/-- The base converter's account loop: every node's account, or the error of the first node
whose message was never executed. -/
theorem mapM_account (ns : List EventNode) :
    ns.mapM EventNode.account =
      if ∀ n ∈ ns, n.account?.isSome then .ok (ns.filterMap EventNode.account?)
      else .error (noneAttr "account") := by
  induction ns with
  | nil => rfl
  | cons n ns ih =>
    rw [List.mapM_cons, EventNode.account_eq, ih]
    cases h : n.account? with
    | none => simp [h]
    | some a =>
      simp only [List.forall_mem_cons, h, Option.isSome_some, true_and, List.filterMap_cons]
      split_ifs <;> rfl

/-- `_base_block_to_action` returns exactly when the action id is computed and every node has
an account, and then returns the base record. -/
theorem baseBlockToAction_eq_ok {b : Block} {t : String} {A : Action} :
    baseBlockToAction b t = .ok A ↔
      ∃ id, calcActionId b = .ok id ∧ (∀ n ∈ b.event_nodes, n.account?.isSome) ∧
        A = { trace_id := t
              action_id := id
              tx_hashes := listSet (b.event_nodes.map EventNode.get_tx_hash)
              start_lt := b.min_lt
              end_lt := b.max_lt
              start_utime := b.min_utime
              end_utime := b.max_utime
              accounts := (b.event_nodes.filterMap EventNode.account?).map some
              extended_tx_hashes := []
              fields := .init b.btype !b.failed } := by
  simp only [baseBlockToAction, except_bind_eq_ok, mapM_account]
  constructor
  · rintro ⟨id, hid, accs, hacc, he⟩
    split_ifs at hacc with h
    cases hacc
    cases he
    exact ⟨id, hid, h, rfl⟩
  · rintro ⟨id, hid, h, rfl⟩
    exact ⟨id, hid, _, if_pos h, rfl⟩

/-! ## The assembler -/

/-- The initiating node's step returns exactly when that node has an account (or is
tick-tock), and appends the account of a node that is not tick-tock. -/
theorem addInitiatingAccount_eq_ok {t id : String} {accs : List (Option String)}
    {init : Option EventNode} {r : List (Option String) × List LogRecord}
    (h : addInitiatingAccount t id accs init = .ok r) :
    (∀ n, init = some n → n.get_tx_hash.isSome) ∧
      ∀ a, some a ∈ r.1 ↔ some a ∈ accs ∨
        ∃ n, init = some n ∧ n.is_tick_tock = false ∧ n.account? = some a := by
  rcases init with _ | (⟨lt, tx⟩ | ⟨lt, m⟩)
  · cases h
    simp
  · cases h
    simp [EventNode.get_tx_hash, EventNode.is_tick_tock]
  · cases hm : m.transaction with
    | none => simp [addInitiatingAccount, EventNode.is_tick_tock, EventNode.account, hm] at h
    | some tx =>
      simp only [addInitiatingAccount, EventNode.is_tick_tock, EventNode.account, hm] at h
      cases h
      simp only [EventNode.get_tx_hash, EventNode.account?, EventNode.is_tick_tock]
      simp [hm, or_comm, @eq_comm _ tx.account]

/-- `block_to_action` returns exactly when its three steps do, and then assembles their
results. -/
theorem blockToAction_eq_ok {b : Block} {t : String} {A : Action} {log : List LogRecord} :
    blockToAction b t = .ok (A, log) ↔
      ∃ base filled initiated,
        baseBlockToAction b t = .ok base ∧
        dispatch b t base.fields = .ok filled ∧
        addInitiatingAccount t base.action_id (base.accounts ++
          [filled.1.source, filled.1.source_secondary, filled.1.destination,
            filled.1.destination_secondary]) b.initiating_event_node = .ok initiated ∧
        A = { base with
              fields := filled.1
              extended_tx_hashes := listSet (base.tx_hashes ++
                (b.initiating_event_node.map fun n => some (n.get_tx_hash.getD "")).toList)
              accounts := listSet (initiated.1.filter Option.isSome) } ∧
        log = filled.2 ++ initiated.2 := by
  simp only [blockToAction, except_bind_eq_ok]
  constructor
  · rintro ⟨base, hb, filled, hf, initiated, hi, he⟩
    cases he
    exact ⟨base, filled, initiated, hb, hf, hi, rfl, rfl⟩
  · rintro ⟨base, filled, initiated, hb, hf, hi, rfl, rfl⟩
    exact ⟨base, hb, filled, hf, initiated, hi, rfl⟩

/-- The dispatcher logs nothing but the unknown-type warning. -/
theorem dispatch_log {b : Block} {t : String} {f : ActionFields}
    {r : ActionFields × List LogRecord} (h : dispatch b t f = .ok r) :
    ∀ x ∈ r.2, x = unknownBlockWarning b.btype t := by
  unfold dispatch at h
  split at h
  · obtain ⟨_, -, rfl⟩ := except_map_eq_ok.mp h
    simp
  · cases h
    simp

/-- For an initiating node that is not tick-tock, the step appends its account and logs the
diagnostic exactly when the account is new. -/
theorem addInitiatingAccount_some {t id a : String} {accs : List (Option String)} {n : EventNode}
    (htt : n.is_tick_tock = false) (ha : n.account? = some a) :
    addInitiatingAccount t id accs (some n) =
      .ok (accs ++ [some a], if some a ∈ accs then [] else [initiatingAccountInfo n t id]) := by
  simp [addInitiatingAccount, htt, EventNode.account_eq, ha]

/-- Once the base record is built, a normalizer that raises makes the whole run raise. -/
theorem blockToAction_eq_error {b : Block} {t : String} {base : Action} {e : PyError}
    (hb : baseBlockToAction b t = .ok base) (hd : dispatch b t base.fields = .error e) :
    blockToAction b t = .error e := by
  simp [blockToAction, hb, hd]

/-- The initiating step returns when the initiating node has an account. -/
theorem addInitiatingAccount_total (t id : String) {init : Option EventNode}
    (h : init.all fun n => n.account?.isSome) (accs : List (Option String)) :
    ∃ r, addInitiatingAccount t id accs init = .ok r := by
  rcases init with _ | n
  · exact ⟨_, rfl⟩
  obtain ⟨a, ha⟩ := Option.isSome_iff_exists.mp (by simpa using h)
  by_cases htt : n.is_tick_tock <;> simp [addInitiatingAccount, htt, EventNode.account_eq, ha]

/-- A block whose nodes (and initiating node) all have accounts returns as soon as its
normalizer does, with the columns the normalizer wrote. -/
theorem blockToAction_ok (b : Block) (t : String) (hnodes : b.event_nodes ≠ [])
    (haccounts : b.event_nodes.all fun n => n.account?.isSome)
    (hinit : b.initiating_event_node.all fun n => n.account?.isSome)
    {filled : ActionFields × List LogRecord}
    (hfill : dispatch b t (.init b.btype !b.failed) = .ok filled) :
    ∃ A log, blockToAction b t = .ok (A, log) ∧ A.fields = filled.1 := by
  obtain ⟨id, hid⟩ := calcActionId_ok_of_ne_nil hnodes
  have hbase : baseBlockToAction b t = .ok _ := baseBlockToAction_eq_ok.mpr
    ⟨id, hid, fun n hn => List.all_eq_true.mp haccounts n hn, rfl⟩
  have hinitiated := addInitiatingAccount_total t id hinit
  exact ⟨_, _, blockToAction_eq_ok.mpr
    ⟨_, filled, _, hbase, hfill, (hinitiated _).choose_spec, rfl, rfl⟩, rfl⟩

end TonIndexer
