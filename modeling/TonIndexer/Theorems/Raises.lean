import TonIndexer.Theorems.Totality

/-!
# When `block_to_action` raises

The totality results give the blocks on which `block_to_action` returns. This file proves the
converse: a block it returns on has event nodes, each with an account, an initiating node with
one, and a payload holding every value its normalizer reads without a guard. Together the two
directions say exactly which blocks make `block_to_action` raise.

* `fill*_required`: one lemma per normalizer with an unguarded read: if it returns, the value
  was there and of the kind it reads;
* `dispatch_required`: the dispatcher returns only on payloads whose required reads succeed;
* `blockToAction_returns_iff`: `block_to_action` returns exactly on the blocks whose nodes and
  initiating node have accounts and whose payload meets `BlockData.required`.
-/

namespace TonIndexer

/-! ## Reads that returned -/

/-- A guarded attribute read that returned found a value. -/
theorem getAttr_isSome {α β : Type} {attr : String} {f : α → β} {o : Option α} {b : β}
    (h : getAttr attr f o = .ok b) : o.isSome := by
  obtain ⟨a, rfl, -⟩ := getAttr_eq_ok h
  rfl

/-- A dict read that returned found its key. -/
theorem getItem_isSome {α : Type} {key : String} {o : Option (Option α)} {v : Option α}
    (h : getItem key o = .ok v) : o.isSome := by
  cases o
  · cases h
  · rfl

/-- `list(map(_addr, xs))` that returned was given a list. -/
theorem mapAddr_isSome {o : Option (List (Option Addressable))} {x : List (Option String)}
    (h : mapAddr o = .ok x) : o.isSome := by
  cases o
  · cases h
  · rfl

/-- An unencrypted jetton comment that decoded is UTF-8. -/
theorem jettonComment_utf8 {c : Option Bytes} {e : Bool} {r : Option String}
    (h : jettonComment c e = .ok r) : c.all fun c => e || (decodeUtf8 c).toBool := by
  rcases c with _ | c
  · rfl
  cases e
  · obtain ⟨s, hs, -⟩ := except_map_eq_ok.mp h
    simp [hs, Except.toBool]
  · rfl

/-- The DeDust deposit payload that was built had both assets and both amounts. -/
theorem dedustDepositDetails_required {d : DedustDepositLiquidityPartialData}
    {r : DexDepositLiquidityDetails} (h : dedustDepositDetails d = .ok r) :
    d.asset_1.isSome && d.amount_1.isSome && d.asset_2.isSome && d.amount_2.isSome := by
  simp only [dedustDepositDetails, except_bind_eq_ok] at h
  obtain ⟨_, h1, _, h2, _, h3, _, h4, -⟩ := h
  simp [getAttr_isSome h1, getAttr_isSome h2, getAttr_isSome h3, getAttr_isSome h4]

/-! ## The normalizers -/

section Normalizers

variable {action r : ActionFields}

theorem fillCallContractAction_required {d : CallContractData}
    (h : fillCallContractAction d action = .ok r) : (BlockData.callContract d).required := by
  obtain ⟨_, h1, -⟩ := except_bind_eq_ok.mp h
  exact getAttr_isSome h1

theorem fillTonTransferAction_required {d : TonTransferData} {nodes : List EventNode}
    (h : fillTonTransferAction d nodes action = .ok r) : (BlockData.tonTransfer d).required := by
  obtain ⟨_, h1, h⟩ := except_bind_eq_ok.mp h
  rcases hd : d.destination with _ | dst
  · simp [hd, asStr, except_bind_eq_ok] at h
  · simp [BlockData.required, getAttr_isSome h1, hd]

theorem fillNominatorPoolDepositAction_required {d : NominatorPoolDepositData}
    (h : fillNominatorPoolDepositAction d action = .ok r) :
    (BlockData.nominatorPoolDeposit d).required := by
  simp only [fillNominatorPoolDepositAction, except_bind_eq_ok] at h
  obtain ⟨_, h1, _, h2, _, h3, -⟩ := h
  simp [BlockData.required, getAttr_isSome h1, getAttr_isSome h2, getAttr_isSome h3]

theorem fillNominatorPoolWithdrawRequestAction_required {d : NominatorPoolWithdrawRequestData}
    (h : fillNominatorPoolWithdrawRequestAction d action = .ok r) :
    (BlockData.nominatorPoolWithdrawRequest d).required := by
  simp only [fillNominatorPoolWithdrawRequestAction, except_bind_eq_ok] at h
  obtain ⟨_, h1, _, h2, -⟩ := h
  simp [BlockData.required, getAttr_isSome h1, getAttr_isSome h2]

theorem fillDedustDepositLiquidityAction_required {d : DedustDepositLiquidityData}
    (h : fillDedustDepositLiquidityAction d action = .ok r) :
    (BlockData.dedustDepositLiquidity d).required := by
  simp only [fillDedustDepositLiquidityAction, except_bind_eq_ok] at h
  obtain ⟨_, h1, _, h2, -⟩ := h
  simp only [BlockData.required, dedustDepositDetails_required h1, getAttr_isSome h2,
    Bool.and_self]

theorem fillDedustDepositLiquidityPartialAction_required {d : DedustDepositLiquidityPartialData}
    (h : fillDedustDepositLiquidityPartialAction d action = .ok r) :
    (BlockData.dedustDepositLiquidityPartial d).required := by
  obtain ⟨_, h1, -⟩ := except_bind_eq_ok.mp h
  exact dedustDepositDetails_required h1

theorem fillJettonTransferAction_required {d : JettonTransferData}
    (h : fillJettonTransferAction d action = .ok r) : (BlockData.jettonTransfer d).required := by
  simp only [fillJettonTransferAction, except_bind_eq_ok] at h
  obtain ⟨_, h1, _, h2, _, h3, _, hw, _, h4, _, ha, _, hc, _, h5, -⟩ := h
  have hwallet : d.receiver_wallet.all Option.isSome := by
    rcases hrw : d.receiver_wallet with _ | w
    · rfl
    · rw [hrw] at hw
      obtain ⟨_, hw, -⟩ := except_map_eq_ok.mp hw
      simpa using getAttr_isSome hw
  have hasset : d.asset.all fun a => a.is_ton || a.jetton_address.isSome := by
    rcases hda : d.asset with _ | ⟨_ | _, j⟩
    · rfl
    · rw [hda] at ha
      obtain ⟨_, ha, -⟩ := except_map_eq_ok.mp ha
      simpa using getAttr_isSome ha
    · rfl
  simp [BlockData.required, getAttr_isSome h1, getAttr_isSome h2, getAttr_isSome h3,
    getAttr_isSome h4, getAttr_isSome h5, hwallet, hasset, jettonComment_utf8 hc]

theorem fillNftTransferAction_required {d : NftTransferData}
    (h : fillNftTransferAction d action = .ok r) : (BlockData.nftTransfer d).required := by
  simp only [fillNftTransferAction, except_bind_eq_ok] at h
  obtain ⟨_, h1, _, h2, _, hc, _, hp, -⟩ := h
  have hcoll : d.nft.collection.all (·.address.isSome) := by
    rcases hdc : d.nft.collection with _ | c
    · rfl
    · rw [hdc] at hc
      obtain ⟨_, hc, -⟩ := except_map_eq_ok.mp hc
      simpa using getAttr_isSome hc
  have hprice : !d.is_purchase || d.price.all Option.isSome := by
    rcases hdp : d.price with _ | p <;> cases hpur : d.is_purchase
    all_goals simp only [Bool.not_false, Bool.true_or, Bool.not_true, Bool.false_or,
      Option.all_none, Option.all_some]
    rw [hdp, hpur] at hp
    obtain ⟨_, hp, -⟩ := except_map_eq_ok.mp hp
    exact getAttr_isSome hp
  simp [BlockData.required, getAttr_isSome h1, getAttr_isSome h2, hcoll, hprice]

theorem fillNftDiscoveryAction_required {d : NftDiscoveryData}
    (h : fillNftDiscoveryAction d action = .ok r) : (BlockData.nftDiscovery d).required := by
  simp only [fillNftDiscoveryAction, except_bind_eq_ok] at h
  obtain ⟨_, h1, _, h2, _, h3, -⟩ := h
  simp [BlockData.required, getAttr_isSome h1, getAttr_isSome h2, getAttr_isSome h3]

theorem fillNftMintAction_required {d : NftMintData}
    (h : fillNftMintAction d action = .ok r) : (BlockData.nftMint d).required := by
  obtain ⟨_, h1, -⟩ := except_bind_eq_ok.mp h
  exact getAttr_isSome h1

theorem fillJettonBurnAction_required {d : JettonBurnData}
    (h : fillJettonBurnAction d action = .ok r) : (BlockData.jettonBurn d).required := by
  simp only [fillJettonBurnAction, except_bind_eq_ok] at h
  obtain ⟨_, h1, _, h2, _, ⟨j, hj, ha⟩, _, h3, -⟩ := h
  rcases hda : d.asset with _ | a
  · simp [jettonAddress, hda] at hj
  · rw [hda] at hj
    cases hj
    simp [BlockData.required, getAttr_isSome h1, getAttr_isSome h2, getAttr_isSome h3, hda,
      getAttr_isSome ha]

theorem fillJettonMintAction_required {d : JettonMintData}
    (h : fillJettonMintAction d action = .ok r) : (BlockData.jettonMint d).required := by
  obtain ⟨_, h1, -⟩ := except_bind_eq_ok.mp h
  exact getAttr_isSome h1

theorem fillJettonSwapAction_required {d : JettonSwapData}
    (h : fillJettonSwapAction d action = .ok r) : (BlockData.jettonSwap d).required := by
  simp only [fillJettonSwapAction, dexTransfer, except_bind_eq_ok] at h
  obtain ⟨_, ⟨_, h1, -⟩, _, ⟨_, h2, -⟩, _, hs, -⟩ := h
  have hstonfi : d.dex != "stonfi_v2" || d.source_asset.isSome && d.destination_asset.isSome := by
    by_cases hdex : d.dex = "stonfi_v2"
    · rw [if_pos hdex] at hs
      simp only [except_bind_eq_ok] at hs
      obtain ⟨_, hsa, _, hda, -⟩ := hs
      simp [hdex, getItem_isSome hsa, getItem_isSome hda]
    · simp [hdex]
  simp [BlockData.required, getAttr_isSome h1, getAttr_isSome h2, hstonfi]

theorem fillChangeDnsRecordAction_required {d : DnsChangeRecordData}
    (h : fillChangeDnsRecordAction d action = .ok r) : (BlockData.dnsChangeRecord d).required := by
  simp only [fillChangeDnsRecordAction, except_bind_eq_ok] at h
  obtain ⟨_, h1, _, h2, _, ha, -⟩ := h
  have hfits : d.value.addressFits := by
    unfold DnsRecordValue.addressFits
    split_ifs at ha ⊢ with hn hadnl
    · obtain ⟨_, ha, -⟩ := except_bind_eq_ok.mp ha
      rcases hv : d.value.address with _ | _ | _ <;> rw [hv] at ha <;> first | rfl | cases ha
    · obtain ⟨_, ha, -⟩ := except_bind_eq_ok.mp ha
      rcases hv : d.value.address with _ | _ | _ <;> rw [hv] at ha <;> first | rfl | cases ha
    · rfl
  simp [BlockData.required, getAttr_isSome h1, getAttr_isSome h2, hfits]

theorem fillDeleteDnsRecordAction_required {d : DnsDeleteRecordData}
    (h : fillDeleteDnsRecordAction d action = .ok r) : (BlockData.dnsDeleteRecord d).required := by
  simp only [fillDeleteDnsRecordAction, except_bind_eq_ok] at h
  obtain ⟨_, h1, _, h2, -⟩ := h
  simp [BlockData.required, getAttr_isSome h1, getAttr_isSome h2]

theorem fillTonstakersDepositAction_required {d : TonStakersDepositData}
    (h : fillTonstakersDepositAction d action = .ok r) :
    (BlockData.tonStakersDeposit d).required := by
  obtain ⟨_, h1, -⟩ := except_bind_eq_ok.mp h
  exact getAttr_isSome h1

theorem fillTonstakersWithdrawRequestAction_required {d : TonStakersWithdrawRequestData}
    (h : fillTonstakersWithdrawRequestAction d action = .ok r) :
    (BlockData.tonStakersWithdrawRequest d).required := by
  obtain ⟨_, h1, -⟩ := except_bind_eq_ok.mp h
  exact getAttr_isSome h1

theorem fillTonstakersWithdrawAction_required {d : TonStakersWithdrawData}
    (h : fillTonstakersWithdrawAction d action = .ok r) :
    (BlockData.tonStakersWithdraw d).required := by
  obtain ⟨_, h1, -⟩ := except_bind_eq_ok.mp h
  exact getAttr_isSome h1

theorem fillSubscribeAction_required {d : SubscribeData}
    (h : fillSubscribeAction d action = .ok r) : (BlockData.subscribe d).required := by
  simp only [fillSubscribeAction, except_bind_eq_ok] at h
  obtain ⟨_, h1, _, h2, _, h3, -⟩ := h
  simp [BlockData.required, getAttr_isSome h1, getAttr_isSome h2, getAttr_isSome h3]

theorem fillJVaultClaim_required {d : JVaultClaimData}
    (h : fillJVaultClaim d action = .ok r) : (BlockData.jvaultClaim d).required := by
  obtain ⟨_, h1, -⟩ := except_bind_eq_ok.mp h
  exact mapAddr_isSome h1

theorem fillVestingSendMessage_required {d : VestingSendMessageData}
    (h : fillVestingSendMessage d action = .ok r) : (BlockData.vestingSendMessage d).required := by
  obtain ⟨_, h1, -⟩ := except_bind_eq_ok.mp h
  exact getAttr_isSome h1

theorem fillVestingAddWhitelist_required {d : VestingAddWhiteListData}
    (h : fillVestingAddWhitelist d action = .ok r) : (BlockData.vestingAddWhiteList d).required := by
  obtain ⟨_, h1, -⟩ := except_bind_eq_ok.mp h
  exact mapAddr_isSome h1

theorem fillUnsubscribeAction_required {d : UnsubscribeData}
    (h : fillUnsubscribeAction d action = .ok r) : (BlockData.unsubscribe d).required := by
  simp only [fillUnsubscribeAction, except_bind_eq_ok] at h
  obtain ⟨_, h1, _, h2, -⟩ := h
  simp [BlockData.required, getAttr_isSome h1, getAttr_isSome h2]

theorem fillElectionAction_required {d : ElectionData}
    (h : fillElectionAction d action = .ok r) : (BlockData.electionDepositStake d).required := by
  simp only [fillElectionAction, except_bind_eq_ok] at h
  obtain ⟨_, h1, _, ha, -⟩ := h
  have hamount : d.amount.all Option.isSome := by
    rcases hda : d.amount with _ | a
    · rfl
    · rw [hda] at ha
      obtain ⟨_, ha, -⟩ := except_map_eq_ok.mp ha
      simpa using getAttr_isSome ha
  simp [BlockData.required, getAttr_isSome h1, hamount]

theorem fillAuctionBidAction_required {d : AuctionBidData}
    (h : fillAuctionBidAction d action = .ok r) : (BlockData.auctionBid d).required := by
  simp only [fillAuctionBidAction, except_bind_eq_ok] at h
  obtain ⟨_, h1, _, h2, _, h3, _, h4, -⟩ := h
  simp [BlockData.required, getAttr_isSome h1, getAttr_isSome h2, getAttr_isSome h3,
    getAttr_isSome h4]

end Normalizers

/-! ## The dispatcher -/

/-- A dispatcher that returned ran the block's normalizer to a result. -/
theorem dispatch_fill {b : Block} {t : String} {f : ActionFields}
    {fill : ActionFields → Except PyError ActionFields} {r : ActionFields × List LogRecord}
    (h : dispatch b t f = .ok r) (hn : normalizer b = some fill) : ∃ x, fill f = .ok x := by
  simp only [dispatch, hn] at h
  obtain ⟨x, hx, -⟩ := except_map_eq_ok.mp h
  exact ⟨x, hx⟩

/-- The dispatcher returns only on a payload whose required reads succeed. -/
theorem dispatch_required {b : Block} {t : String} {f : ActionFields}
    {r : ActionFields × List LogRecord} (h : dispatch b t f = .ok r) : b.data.required := by
  rcases b with ⟨btype, nodes, data, _, _, _, _, _, _⟩
  cases data with
  | callContract d => exact (dispatch_fill h rfl).elim fun _ => fillCallContractAction_required
  | contractDeploy d => exact (dispatch_fill h rfl).elim fun _ => fillCallContractAction_required
  | tonTransfer d => exact (dispatch_fill h rfl).elim fun _ => fillTonTransferAction_required
  | nominatorPoolDeposit d =>
    exact (dispatch_fill h rfl).elim fun _ => fillNominatorPoolDepositAction_required
  | nominatorPoolWithdrawRequest d =>
    exact (dispatch_fill h rfl).elim fun _ => fillNominatorPoolWithdrawRequestAction_required
  | dedustDepositLiquidity d =>
    exact (dispatch_fill h rfl).elim fun _ => fillDedustDepositLiquidityAction_required
  | dedustDepositLiquidityPartial d =>
    exact (dispatch_fill h rfl).elim fun _ => fillDedustDepositLiquidityPartialAction_required
  | jettonTransfer d => exact (dispatch_fill h rfl).elim fun _ => fillJettonTransferAction_required
  | nftTransfer d => exact (dispatch_fill h rfl).elim fun _ => fillNftTransferAction_required
  | nftDiscovery d => exact (dispatch_fill h rfl).elim fun _ => fillNftDiscoveryAction_required
  | nftMint d => exact (dispatch_fill h rfl).elim fun _ => fillNftMintAction_required
  | jettonBurn d => exact (dispatch_fill h rfl).elim fun _ => fillJettonBurnAction_required
  | jettonMint d => exact (dispatch_fill h rfl).elim fun _ => fillJettonMintAction_required
  | jettonSwap d => exact (dispatch_fill h rfl).elim fun _ => fillJettonSwapAction_required
  | dnsChangeRecord d =>
    exact (dispatch_fill h rfl).elim fun _ => fillChangeDnsRecordAction_required
  | dnsDeleteRecord d =>
    exact (dispatch_fill h rfl).elim fun _ => fillDeleteDnsRecordAction_required
  | tonStakersDeposit d =>
    exact (dispatch_fill h rfl).elim fun _ => fillTonstakersDepositAction_required
  | tonStakersWithdrawRequest d =>
    exact (dispatch_fill h rfl).elim fun _ => fillTonstakersWithdrawRequestAction_required
  | tonStakersWithdraw d =>
    exact (dispatch_fill h rfl).elim fun _ => fillTonstakersWithdrawAction_required
  | subscribe d => exact (dispatch_fill h rfl).elim fun _ => fillSubscribeAction_required
  | jvaultClaim d => exact (dispatch_fill h rfl).elim fun _ => fillJVaultClaim_required
  | vestingSendMessage d =>
    exact (dispatch_fill h rfl).elim fun _ => fillVestingSendMessage_required
  | vestingAddWhiteList d =>
    exact (dispatch_fill h rfl).elim fun _ => fillVestingAddWhitelist_required
  | unsubscribe d => exact (dispatch_fill h rfl).elim fun _ => fillUnsubscribeAction_required
  | electionDepositStake d => exact (dispatch_fill h rfl).elim fun _ => fillElectionAction_required
  | electionRecoverStake d => exact (dispatch_fill h rfl).elim fun _ => fillElectionAction_required
  | auctionBid d => exact (dispatch_fill h rfl).elim fun _ => fillAuctionBidAction_required
  | dnsRenew _ | dexDepositLiquidity _ | dexWithdrawLiquidity _ | jvaultStake _
  | jvaultUnstake _ | multisigCreateOrder _ | multisigApprove _ | other => rfl

/-! ## The base converter and the assembler -/

/-- An action id is computed only for a block with nodes: `min` of no nodes raises. -/
theorem calcActionId_ne_nil {b : Block} {id : String} (h : calcActionId b = .ok id) :
    b.event_nodes ≠ [] := by
  intro hn
  simp [calcActionId, hn, rootEventNode] at h

/-- The initiating step returns only when the initiating node has an account. -/
theorem addInitiatingAccount_account {t id : String} {accs : List (Option String)}
    {init : Option EventNode} {r : List (Option String) × List LogRecord}
    (h : addInitiatingAccount t id accs init = .ok r) : init.all fun n => n.account?.isSome := by
  rcases init with _ | (_ | ⟨_, m⟩)
  · rfl
  · rfl
  · cases hm : m.transaction with
    | none => simp [addInitiatingAccount, EventNode.is_tick_tock, EventNode.account, hm] at h
    | some tx => simp [EventNode.account?, hm]

/-- `block_to_action` returns exactly on the blocks that have event nodes, each with an
account, whose initiating node (if any) has an account, and whose payload holds every value its
normalizer reads without a guard; on every other block it raises. -/
theorem blockToAction_returns_iff (b : Block) (t : String) :
    (∃ r, blockToAction b t = .ok r) ↔
      b.event_nodes ≠ [] ∧ (b.event_nodes.all fun n => n.account?.isSome) ∧
        (b.initiating_event_node.all fun n => n.account?.isSome) ∧ b.data.required := by
  constructor
  · rintro ⟨⟨A, log⟩, h⟩
    obtain ⟨base, filled, initiated, hbase, hfill, hinit, -, -⟩ := blockToAction_eq_ok.mp h
    obtain ⟨id, hid, haccounts, rfl⟩ := baseBlockToAction_eq_ok.mp hbase
    exact ⟨calcActionId_ne_nil hid, List.all_eq_true.mpr haccounts,
      addInitiatingAccount_account hinit, dispatch_required hfill⟩
  · rintro ⟨hnodes, haccounts, hinit, hreq⟩
    obtain ⟨filled, hfill, -⟩ := dispatch_total b t b.btype (!b.failed) hreq
    obtain ⟨A, log, h, -⟩ := blockToAction_ok b t hnodes haccounts hinit hfill
    exact ⟨_, h⟩

end TonIndexer
