import TonIndexer.Theorems.Pipeline

/-!
# When `block_to_action` returns

Each normalizer reads some payload values without a guard (`.as_str()`, `.value`,
`.jetton_address`, `.hex()`, `data["key"]`) and the rest behind `_addr`, `is not None` or an
`in` test. `BlockData.required` collects the unguarded reads of each class, and
`BlockData.NullsCarried` says, column by column, which generic address and amount columns a
`None` among the guarded values leaves `None`.

* `fill*_total`: one lemma per normalizer, from its required reads to its result;
* `blockToAction_total`: a block with nodes that all have accounts, whose required reads
  succeed, gives an action, and every `None` it carries leaves its column `None`;
* `invalidComment_raises`: an unencrypted jetton comment that is not UTF-8 raises, on a
  payload that holds every key the normalizer reads, none of them `None`;
* `nullDestination_raises`: a TON transfer without a destination raises right after the
  diagnostic `print` that detects it.
-/

namespace TonIndexer

/-! ## What each class reads -/

/-- The record's address has the kind its schema reads: a contract address for
`DNSNextResolver` and `DNSSmcAddress`, ADNL bytes for `DNSAdnlAddress`. -/
def DnsRecordValue.addressFits (v : DnsRecordValue) : Bool :=
  if v.schema = "DNSNextResolver" ∨ v.schema = "DNSSmcAddress" then
    v.address.any fun | .account _ => true | .adnl _ => false
  else if v.schema = "DNSAdnlAddress" then
    v.address.any fun | .adnl _ => true | .account _ => false
  else true

/-- The payload values the class's normalizer reads without a guard are there and of the kind
it reads; an unencrypted jetton comment is UTF-8. -/
def BlockData.required : BlockData → Bool
  | .callContract d | .contractDeploy d => d.value.isSome
  | .tonTransfer d => d.source.isSome && d.destination.isSome
  | .nominatorPoolDeposit d => d.source.isSome && d.pool.isSome && d.value.isSome
  | .nominatorPoolWithdrawRequest d => d.source.isSome && d.pool.isSome
  | .dedustDepositLiquidity d =>
    d.asset_1.isSome && d.amount_1.isSome && d.asset_2.isSome && d.amount_2.isSome &&
      d.lp_tokens_minted.isSome
  | .dedustDepositLiquidityPartial d =>
    d.asset_1.isSome && d.amount_1.isSome && d.asset_2.isSome && d.amount_2.isSome
  | .jettonTransfer d =>
    d.sender.isSome && d.sender_wallet.isSome && d.receiver.isSome &&
      d.receiver_wallet.all Option.isSome && d.amount.isSome &&
      d.asset.all (fun a => a.is_ton || a.jetton_address.isSome) &&
      d.comment.all (fun c => d.encrypted_comment || (decodeUtf8 c).toBool) &&
      d.forward_amount.isSome
  | .nftTransfer d =>
    d.new_owner.isSome && d.nft.address.isSome && d.nft.collection.all (·.address.isSome) &&
      (!d.is_purchase || d.price.all Option.isSome)
  | .nftDiscovery d => d.sender.isSome && d.nft.isSome && d.result_collection.isSome
  | .nftMint d => d.address.isSome
  | .jettonBurn d =>
    d.owner.isSome && d.jetton_wallet.isSome && (d.asset.bind Asset.jetton_address).isSome &&
      d.amount.isSome
  | .jettonMint d => d.asset.isSome
  | .jettonSwap d =>
    d.dex_incoming_transfer.amount.isSome && d.dex_outgoing_transfer.amount.isSome &&
      (d.dex != "stonfi_v2" || d.source_asset.isSome && d.destination_asset.isSome)
  | .dnsChangeRecord d => d.destination.isSome && d.key.isSome && d.value.addressFits
  | .dnsDeleteRecord d => d.destination.isSome && d.key.isSome
  | .tonStakersDeposit d => d.value.isSome
  | .tonStakersWithdrawRequest d => d.tokens_burnt.isSome
  | .tonStakersWithdraw d => d.amount.isSome
  | .subscribe d => d.subscriber.isSome && d.subscription.isSome && d.amount.isSome
  | .jvaultClaim d => d.claimed_jettons.isSome
  | .vestingSendMessage d => d.message_value.isSome
  | .vestingAddWhiteList d => d.accounts_added.isSome
  | .unsubscribe d => d.subscriber.isSome && d.subscription.isSome
  | .electionDepositStake d | .electionRecoverStake d =>
    d.stake_holder.isSome && d.amount.all Option.isSome
  | .auctionBid d =>
    d.bidder.isSome && d.auction.isSome && d.nft_address.isSome && d.amount.isSome
  | .dnsRenew _ | .dexDepositLiquidity _ | .dexWithdrawLiquidity _ | .jvaultStake _
  | .jvaultUnstake _ | .multisigCreateOrder _ | .multisigApprove _ | .other => true

/-- The generic columns that a `None` among the guarded payload values leaves `None`, class by
class: each implication reads "this value is `None`, so that column is `None`". -/
def BlockData.NullsCarried : BlockData → ActionFields → Prop
  | .callContract d, f | .contractDeploy d, f =>
    (d.source = none → f.source = none) ∧ (d.destination = none → f.destination = none)
  | .tonTransfer d, f => d.value = none → f.value = none
  | .nominatorPoolWithdrawRequest d, f => d.payout_amount = none → f.amount = none
  | .dedustDepositLiquidity d, f =>
    (d.sender = none → f.source = none) ∧ (d.pool_address = none → f.destination = none) ∧
      (d.deposit_contract = none → f.destination_secondary = none)
  | .dedustDepositLiquidityPartial d, f =>
    (d.sender = none → f.source = none) ∧
      (d.deposit_contract = none → f.destination_secondary = none)
  | .jettonTransfer d, f =>
    (d.receiver_wallet = none → f.destination_secondary = none) ∧
      (d.asset = none → f.asset = none)
  | .nftTransfer d, f =>
    (d.prev_owner.join = none → f.source = none) ∧ (d.nft.collection = none → f.asset = none)
  | .nftMint d, f => (d.source = none → f.source = none) ∧ (d.collection = none → f.asset = none)
  | .jettonMint d, f =>
    (d.«to» = none → f.destination = none) ∧
      (d.to_jetton_wallet = none → f.destination_secondary = none) ∧
      ((d.asset.bind Asset.jetton_address) = none → f.asset = none) ∧
      (d.amount = none → f.amount = none) ∧ (d.ton_amount = none → f.value = none)
  | .jettonSwap d, f =>
    (d.dex_incoming_transfer.source = none → f.source = none) ∧
      (d.dex_incoming_transfer.source_jetton_wallet = none → f.source_secondary = none) ∧
      (d.dex_outgoing_transfer.destination = none → f.destination = none) ∧
      (d.destination_wallet.join = none →
        d.dex_outgoing_transfer.destination_jetton_wallet = none →
        f.destination_secondary = none) ∧
      (d.dex ≠ "stonfi_v2" → d.dex_incoming_transfer.asset = none → f.asset = none) ∧
      (d.dex = "stonfi_v2" → d.source_asset = some none → f.asset = none) ∧
      (d.dex ≠ "stonfi_v2" → d.destination_asset.join = none →
        d.dex_outgoing_transfer.asset = none → f.asset2 = none) ∧
      (d.dex = "stonfi_v2" → d.destination_asset = some none → f.asset2 = none)
  | .dnsChangeRecord d, f => d.source = none → f.source = none
  | .dnsDeleteRecord d, f => d.source = none → f.source = none
  | .dnsRenew d, f =>
    (d.source = none → f.source = none) ∧ (d.destination = none → f.destination = none)
  | .tonStakersDeposit d, f =>
    (d.source = none → f.source = none) ∧ (d.pool = none → f.destination = none)
  | .tonStakersWithdrawRequest d, f =>
    (d.source = none → f.source = none) ∧
      (d.tsTON_wallet = none → f.source_secondary = none) ∧
      (d.pool = none → f.destination = none)
  | .tonStakersWithdraw d, f =>
    (d.stake_holder = none → f.source = none) ∧ (d.pool = none → f.destination = none)
  | .subscribe d, f => d.beneficiary = none → f.destination = none
  | .dexDepositLiquidity d, f =>
    (d.sender = none → f.source = none) ∧ (d.pool = none → f.destination = none)
  | .dexWithdrawLiquidity d, f =>
    (d.sender = none → f.source = none) ∧
      (d.sender_wallet = none → f.source_secondary = none) ∧
      (d.pool = none → f.destination = none) ∧ (d.asset = none → f.asset = none)
  | .jvaultStake d, f =>
    (d.sender = none → f.source = none) ∧
      (d.stake_wallet = none → f.source_secondary = none) ∧
      (d.staking_pool = none → f.destination = none) ∧
      (d.staked_amount = none → f.amount = none)
  | .jvaultUnstake d, f =>
    (d.sender = none → f.source = none) ∧
      (d.stake_wallet = none → f.source_secondary = none) ∧
      (d.staking_pool = none → f.destination = none) ∧
      (d.unstaked_amount = none → f.amount = none)
  | .jvaultClaim d, f =>
    (d.sender = none → f.source = none) ∧
      (d.stake_wallet = none → f.source_secondary = none) ∧
      (d.staking_pool = none → f.destination = none)
  | .multisigCreateOrder d, f =>
    (d.created_by = none → f.source = none) ∧ (d.multisig = none → f.destination = none) ∧
      (d.order_contract_address = none → f.destination_secondary = none)
  | .multisigApprove d, f =>
    (d.signer = none → f.source = none) ∧ (d.order = none → f.destination = none)
  | .vestingSendMessage d, f =>
    (d.sender = none → f.source = none) ∧ (d.vesting = none → f.destination = none) ∧
      (d.message_destination = none → f.destination_secondary = none)
  | .vestingAddWhiteList d, f =>
    (d.adder = none → f.source = none) ∧ (d.vesting = none → f.destination = none)
  | .unsubscribe d, f => d.beneficiary = none → f.destination = none
  | .electionDepositStake d, f | .electionRecoverStake d, f => d.amount = none → f.amount = none
  | .auctionBid d, f => d.nft_collection = none → f.asset = none
  | .nominatorPoolDeposit _, _ | .nftDiscovery _, _ | .jettonBurn _, _ | .other, _ => True

/-! ## The normalizers -/

section Normalizers

/-! Each normalizer is stated for any record it starts from; only the NFT transfer, the NFT mint
and the nominator withdrawal fall back on a column of that record, which must be `None`. -/

variable {action : ActionFields}

theorem fillCallContractAction_total {d : CallContractData}
    (h : (BlockData.callContract d).required) :
    ∃ r, fillCallContractAction d action = .ok r ∧ (BlockData.callContract d).NullsCarried r := by
  obtain ⟨v, hv⟩ := Option.isSome_iff_exists.mp h
  simp [fillCallContractAction, BlockData.NullsCarried, amountValue, hv]

theorem fillTonTransferAction_total {d : TonTransferData} (nodes : List EventNode)
    (h : (BlockData.tonTransfer d).required) :
    ∃ r, fillTonTransferAction d nodes action = .ok r ∧ (BlockData.tonTransfer d).NullsCarried r := by
  simp only [BlockData.required, Bool.and_eq_true, Option.isSome_iff_exists] at h
  obtain ⟨⟨src, hsrc⟩, ⟨dst, hdst⟩⟩ := h
  simp [fillTonTransferAction, BlockData.NullsCarried, asStr, hsrc, hdst]

theorem fillNominatorPoolDepositAction_total {d : NominatorPoolDepositData}
    (h : (BlockData.nominatorPoolDeposit d).required) :
    ∃ r, fillNominatorPoolDepositAction d action = .ok r ∧
      (BlockData.nominatorPoolDeposit d).NullsCarried r := by
  simp only [BlockData.required, Bool.and_eq_true, Option.isSome_iff_exists] at h
  obtain ⟨⟨⟨src, hsrc⟩, ⟨pool, hpool⟩⟩, ⟨v, hv⟩⟩ := h
  simp [fillNominatorPoolDepositAction, BlockData.NullsCarried, asStr, amountValue, hsrc, hpool,
    hv]

theorem fillNominatorPoolWithdrawRequestAction_total {d : NominatorPoolWithdrawRequestData}
    (hamount : action.amount = none) (h : (BlockData.nominatorPoolWithdrawRequest d).required) :
    ∃ r, fillNominatorPoolWithdrawRequestAction d action = .ok r ∧
      (BlockData.nominatorPoolWithdrawRequest d).NullsCarried r := by
  simp only [BlockData.required, Bool.and_eq_true, Option.isSome_iff_exists] at h
  obtain ⟨⟨src, hsrc⟩, ⟨pool, hpool⟩⟩ := h
  simp +contextual [fillNominatorPoolWithdrawRequestAction, BlockData.NullsCarried, asStr, hsrc,
    hpool, hamount]

/-- Both DeDust deposits read the two assets and amounts unguarded. -/
theorem dedustDepositDetails_total {d : DedustDepositLiquidityPartialData}
    (h : d.asset_1.isSome && d.amount_1.isSome && d.asset_2.isSome && d.amount_2.isSome) :
    ∃ r, dedustDepositDetails d = .ok r := by
  simp only [Bool.and_eq_true, Option.isSome_iff_exists] at h
  obtain ⟨⟨⟨⟨a1, h1⟩, m1, h2⟩, a2, h3⟩, m2, h4⟩ := h
  simp [dedustDepositDetails, jettonAddress, amountValue, h1, h2, h3, h4]

theorem fillDedustDepositLiquidityAction_total {d : DedustDepositLiquidityData}
    (h : (BlockData.dedustDepositLiquidity d).required) :
    ∃ r, fillDedustDepositLiquidityAction d action = .ok r ∧
      (BlockData.dedustDepositLiquidity d).NullsCarried r := by
  simp only [BlockData.required, Bool.and_eq_true] at h
  obtain ⟨r, hr⟩ := dedustDepositDetails_total (by simpa only [Bool.and_eq_true] using h.1)
  obtain ⟨lp, hlp⟩ := Option.isSome_iff_exists.mp h.2
  simp +contextual [fillDedustDepositLiquidityAction, BlockData.NullsCarried, amountValue, hr, hlp]

theorem fillDedustDepositLiquidityPartialAction_total {d : DedustDepositLiquidityPartialData}
    (h : (BlockData.dedustDepositLiquidityPartial d).required) :
    ∃ r, fillDedustDepositLiquidityPartialAction d action = .ok r ∧
      (BlockData.dedustDepositLiquidityPartial d).NullsCarried r := by
  obtain ⟨r, hr⟩ := dedustDepositDetails_total h
  simp +contextual [fillDedustDepositLiquidityPartialAction, BlockData.NullsCarried, hr]

/-- The comment of a jetton transfer decodes when it is encrypted or UTF-8. -/
theorem jettonComment_total {c : Option Bytes} {e : Bool}
    (h : c.all fun c => e || (decodeUtf8 c).toBool) : ∃ r, jettonComment c e = .ok r := by
  rcases c with _ | c
  · exact ⟨_, rfl⟩
  cases e
  · rcases hd : decodeUtf8 c with _ | t
    · simp [hd, Except.toBool] at h
    · simp [jettonComment, hd]
  · simp [jettonComment, decodeUtf8_b64encode]

theorem fillJettonTransferAction_total {d : JettonTransferData}
    (h : (BlockData.jettonTransfer d).required) :
    ∃ r, fillJettonTransferAction d action = .ok r ∧ (BlockData.jettonTransfer d).NullsCarried r := by
  simp only [BlockData.required, Bool.and_eq_true, Option.isSome_iff_exists, and_assoc] at h
  obtain ⟨⟨src, hsrc⟩, ⟨sw, hsw⟩, ⟨rcv, hrcv⟩, hrw, ⟨amt, hamt⟩, hasset, hcomment, ⟨fwd, hfwd⟩⟩ := h
  obtain ⟨c, hc⟩ := jettonComment_total hcomment
  rcases hw : d.receiver_wallet with _ | _ | w <;> rcases ha : d.asset with _ | ⟨_ | _, _ | j⟩ <;>
    simp [fillJettonTransferAction, BlockData.NullsCarried, asStr, amountValue, hsrc, hsw, hrcv,
      hamt, hc, hfwd, hw, ha] at hrw hasset ⊢

/-- Every payload value the NFT transfer branches on is split; the required reads rule out the
cases that raise, and each remaining case computes. -/
theorem fillNftTransferAction_total {d : NftTransferData} (hsource : action.source = none)
    (hasset : action.asset = none) (h : (BlockData.nftTransfer d).required) :
    ∃ r, fillNftTransferAction d action = .ok r ∧ (BlockData.nftTransfer d).NullsCarried r := by
  rcases d with ⟨prev, _ | dst, ⟨_ | item, _ | ⟨_ | c⟩, idx⟩, qid, _ | _, _ | _ | p, fwd, cp, fp, rd⟩ <;>
    cases h <;>
    exact ⟨_, rfl, by dsimp only [BlockData.NullsCarried]; simp +contextual [hsource, hasset]⟩

theorem fillNftDiscoveryAction_total {d : NftDiscoveryData}
    (h : (BlockData.nftDiscovery d).required) :
    ∃ r, fillNftDiscoveryAction d action = .ok r ∧ (BlockData.nftDiscovery d).NullsCarried r := by
  simp only [BlockData.required, Bool.and_eq_true, Option.isSome_iff_exists] at h
  obtain ⟨⟨⟨src, hsrc⟩, ⟨nft, hnft⟩⟩, ⟨coll, hcoll⟩⟩ := h
  simp [fillNftDiscoveryAction, BlockData.NullsCarried, asStr, hsrc, hnft, hcoll]

theorem fillNftMintAction_total {d : NftMintData} (hsource : action.source = none)
    (hasset : action.asset = none) (h : (BlockData.nftMint d).required) :
    ∃ r, fillNftMintAction d action = .ok r ∧ (BlockData.nftMint d).NullsCarried r := by
  obtain ⟨a, ha⟩ := Option.isSome_iff_exists.mp h
  simp +contextual [fillNftMintAction, BlockData.NullsCarried, asStr, ha, hsource, hasset]

theorem fillJettonBurnAction_total {d : JettonBurnData} (h : (BlockData.jettonBurn d).required) :
    ∃ r, fillJettonBurnAction d action = .ok r ∧ (BlockData.jettonBurn d).NullsCarried r := by
  simp only [BlockData.required, Bool.and_eq_true, Option.isSome_iff_exists, and_assoc,
    Option.bind_eq_some] at h
  obtain ⟨⟨o, ho⟩, ⟨w, hw⟩, ⟨j, a, ha, hj⟩, ⟨m, hm⟩⟩ := h
  simp [fillJettonBurnAction, BlockData.NullsCarried, asStr, amountValue, jettonAddress, ho, hw,
    ha, hj, hm]

theorem fillJettonMintAction_total {d : JettonMintData} (h : (BlockData.jettonMint d).required) :
    ∃ r, fillJettonMintAction d action = .ok r ∧ (BlockData.jettonMint d).NullsCarried r := by
  obtain ⟨a, ha⟩ := Option.isSome_iff_exists.mp h
  simp +contextual [fillJettonMintAction, BlockData.NullsCarried, jettonAddress, ha]

theorem fillJettonSwapAction_total {d : JettonSwapData} (h : (BlockData.jettonSwap d).required) :
    ∃ r, fillJettonSwapAction d action = .ok r ∧ (BlockData.jettonSwap d).NullsCarried r := by
  simp only [BlockData.required, Bool.and_eq_true, Bool.or_eq_true, bne_iff_ne,
    Option.isSome_iff_exists] at h
  obtain ⟨⟨⟨i, hi⟩, ⟨o, ho⟩⟩, hdex⟩ := h
  unfold fillJettonSwapAction BlockData.NullsCarried
  simp only [dexTransfer, amountValue, hi, ho, getAttr_some, except_ok_bind, except_pure]
  by_cases hs : d.dex = "stonfi_v2"
  · obtain ⟨⟨sa, hsa⟩, ⟨da, hda⟩⟩ := hdex.resolve_left (not_not.mpr hs)
    simp only [hs, hsa, hda, if_true, getItem_some, except_ok_bind, except_pure, Except.ok.injEq,
      exists_eq_left']
    rcases d.destination_wallet.join with _ | w <;> simp +contextual
  · simp only [hs, if_false, except_pure, Except.ok.injEq, exists_eq_left']
    rcases d.destination_wallet.join with _ | w <;> rcases d.destination_asset.join with _ | a <;>
      simp +contextual [hs]

theorem fillChangeDnsRecordAction_total {d : DnsChangeRecordData}
    (h : (BlockData.dnsChangeRecord d).required) :
    ∃ r, fillChangeDnsRecordAction d action = .ok r ∧
      (BlockData.dnsChangeRecord d).NullsCarried r := by
  simp only [BlockData.required, Bool.and_eq_true, Option.isSome_iff_exists] at h
  obtain ⟨⟨⟨dst, hdst⟩, ⟨k, hk⟩⟩, hfits⟩ := h
  unfold DnsRecordValue.addressFits at hfits
  rcases ha : d.value.address with _ | a | a <;> split_ifs at hfits <;>
    simp_all [fillChangeDnsRecordAction, BlockData.NullsCarried, asStr, dnsAddressAsStr,
      dnsAddressHex]

theorem fillDeleteDnsRecordAction_total {d : DnsDeleteRecordData}
    (h : (BlockData.dnsDeleteRecord d).required) :
    ∃ r, fillDeleteDnsRecordAction d action = .ok r ∧
      (BlockData.dnsDeleteRecord d).NullsCarried r := by
  simp only [BlockData.required, Bool.and_eq_true, Option.isSome_iff_exists] at h
  obtain ⟨⟨dst, hdst⟩, ⟨k, hk⟩⟩ := h
  simp [fillDeleteDnsRecordAction, BlockData.NullsCarried, asStr, hdst, hk]

theorem fillDnsRenewAction_total {d : DnsRenewData} :
    ∃ r, fillDnsRenewAction d action = .ok r ∧ (BlockData.dnsRenew d).NullsCarried r :=
  ⟨_, rfl, by simp +contextual [BlockData.NullsCarried]⟩

theorem fillTonstakersDepositAction_total {d : TonStakersDepositData}
    (h : (BlockData.tonStakersDeposit d).required) :
    ∃ r, fillTonstakersDepositAction d action = .ok r ∧
      (BlockData.tonStakersDeposit d).NullsCarried r := by
  obtain ⟨v, hv⟩ := Option.isSome_iff_exists.mp h
  simp +contextual [fillTonstakersDepositAction, BlockData.NullsCarried, amountValue, hv]

theorem fillTonstakersWithdrawRequestAction_total {d : TonStakersWithdrawRequestData}
    (h : (BlockData.tonStakersWithdrawRequest d).required) :
    ∃ r, fillTonstakersWithdrawRequestAction d action = .ok r ∧
      (BlockData.tonStakersWithdrawRequest d).NullsCarried r := by
  obtain ⟨v, hv⟩ := Option.isSome_iff_exists.mp h
  simp +contextual [fillTonstakersWithdrawRequestAction, BlockData.NullsCarried, amountValue, hv]

theorem fillTonstakersWithdrawAction_total {d : TonStakersWithdrawData}
    (h : (BlockData.tonStakersWithdraw d).required) :
    ∃ r, fillTonstakersWithdrawAction d action = .ok r ∧
      (BlockData.tonStakersWithdraw d).NullsCarried r := by
  obtain ⟨v, hv⟩ := Option.isSome_iff_exists.mp h
  simp +contextual [fillTonstakersWithdrawAction, BlockData.NullsCarried, amountValue, hv]

theorem fillSubscribeAction_total {d : SubscribeData} (h : (BlockData.subscribe d).required) :
    ∃ r, fillSubscribeAction d action = .ok r ∧ (BlockData.subscribe d).NullsCarried r := by
  simp only [BlockData.required, Bool.and_eq_true, Option.isSome_iff_exists] at h
  obtain ⟨⟨⟨src, hsrc⟩, ⟨sub, hsub⟩⟩, ⟨v, hv⟩⟩ := h
  simp [fillSubscribeAction, BlockData.NullsCarried, asStr, amountValue, hsrc, hsub, hv]

theorem fillDexDepositLiquidity_total {d : DexDepositLiquidityData} :
    ∃ r, fillDexDepositLiquidity d action = .ok r ∧
      (BlockData.dexDepositLiquidity d).NullsCarried r :=
  ⟨_, rfl, by simp +contextual [BlockData.NullsCarried]⟩

theorem fillDexWithdrawLiquidity_total {d : DexWithdrawLiquidityData} :
    ∃ r, fillDexWithdrawLiquidity d action = .ok r ∧
      (BlockData.dexWithdrawLiquidity d).NullsCarried r :=
  ⟨_, rfl, by simp +contextual [BlockData.NullsCarried]⟩

theorem fillJVaultStake_total {d : JVaultStakeData} :
    ∃ r, fillJVaultStake d action = .ok r ∧ (BlockData.jvaultStake d).NullsCarried r :=
  ⟨_, rfl, by simp +contextual [BlockData.NullsCarried]⟩

theorem fillJVaultUnstake_total {d : JVaultUnstakeData} :
    ∃ r, fillJVaultUnstake d action = .ok r ∧ (BlockData.jvaultUnstake d).NullsCarried r :=
  ⟨_, rfl, by simp +contextual [BlockData.NullsCarried]⟩

theorem fillJVaultClaim_total {d : JVaultClaimData} (h : (BlockData.jvaultClaim d).required) :
    ∃ r, fillJVaultClaim d action = .ok r ∧ (BlockData.jvaultClaim d).NullsCarried r := by
  obtain ⟨xs, hxs⟩ := Option.isSome_iff_exists.mp h
  simp +contextual [fillJVaultClaim, BlockData.NullsCarried, mapAddr, hxs]

theorem fillMultisigCreateOrder_total {d : MultisigCreateOrderData} :
    ∃ r, fillMultisigCreateOrder d action = .ok r ∧
      (BlockData.multisigCreateOrder d).NullsCarried r :=
  ⟨_, rfl, by simp +contextual [BlockData.NullsCarried]⟩

theorem fillMultisigApprove_total {d : MultisigApproveData} :
    ∃ r, fillMultisigApprove d action = .ok r ∧ (BlockData.multisigApprove d).NullsCarried r :=
  ⟨_, rfl, by simp +contextual [BlockData.NullsCarried]⟩

theorem fillVestingSendMessage_total {d : VestingSendMessageData}
    (h : (BlockData.vestingSendMessage d).required) :
    ∃ r, fillVestingSendMessage d action = .ok r ∧
      (BlockData.vestingSendMessage d).NullsCarried r := by
  obtain ⟨v, hv⟩ := Option.isSome_iff_exists.mp h
  simp +contextual [fillVestingSendMessage, BlockData.NullsCarried, amountValue, hv]

theorem fillVestingAddWhitelist_total {d : VestingAddWhiteListData}
    (h : (BlockData.vestingAddWhiteList d).required) :
    ∃ r, fillVestingAddWhitelist d action = .ok r ∧
      (BlockData.vestingAddWhiteList d).NullsCarried r := by
  obtain ⟨xs, hxs⟩ := Option.isSome_iff_exists.mp h
  simp +contextual [fillVestingAddWhitelist, BlockData.NullsCarried, mapAddr, hxs]

theorem fillUnsubscribeAction_total {d : UnsubscribeData}
    (h : (BlockData.unsubscribe d).required) :
    ∃ r, fillUnsubscribeAction d action = .ok r ∧ (BlockData.unsubscribe d).NullsCarried r := by
  simp only [BlockData.required, Bool.and_eq_true, Option.isSome_iff_exists] at h
  obtain ⟨⟨src, hsrc⟩, ⟨sub, hsub⟩⟩ := h
  simp [fillUnsubscribeAction, BlockData.NullsCarried, asStr, hsrc, hsub]

theorem fillElectionAction_total {d : ElectionData}
    (h : (BlockData.electionDepositStake d).required) :
    ∃ r, fillElectionAction d action = .ok r ∧
      (BlockData.electionDepositStake d).NullsCarried r := by
  simp only [BlockData.required, Bool.and_eq_true, Option.isSome_iff_exists] at h
  obtain ⟨⟨src, hsrc⟩, hamount⟩ := h
  rcases ha : d.amount with _ | _ | a <;>
    simp [fillElectionAction, BlockData.NullsCarried, asStr, amountValue, hsrc, ha] at hamount ⊢

theorem fillAuctionBidAction_total {d : AuctionBidData} (h : (BlockData.auctionBid d).required) :
    ∃ r, fillAuctionBidAction d action = .ok r ∧ (BlockData.auctionBid d).NullsCarried r := by
  simp only [BlockData.required, Bool.and_eq_true, Option.isSome_iff_exists] at h
  obtain ⟨⟨⟨⟨b, hb⟩, ⟨a, ha⟩⟩, ⟨n, hn⟩⟩, ⟨v, hv⟩⟩ := h
  simp +contextual [fillAuctionBidAction, BlockData.NullsCarried, asStr, amountValue, hb, ha, hn, hv]

end Normalizers

/-! ## The block -/

/-- The dispatcher returns what the block's normalizer returns. -/
theorem dispatch_of_normalizer {b : Block} {t : String} {f : ActionFields}
    {fill : ActionFields → Except PyError ActionFields} {P : ActionFields → Prop}
    (hn : normalizer b = some fill) (h : ∃ r, fill f = .ok r ∧ P r) :
    ∃ r, dispatch b t f = .ok r ∧ P r.1 := by
  obtain ⟨r, hr, hp⟩ := h
  exact ⟨(r, []), by simp [dispatch, hn, hr], hp⟩

/-- From the base record, the dispatcher returns on every block whose required reads succeed,
and carries its nulls. -/
theorem dispatch_total (b : Block) (t ty : String) (s : Bool) (h : b.data.required) :
    ∃ r, dispatch b t (.init ty s) = .ok r ∧ b.data.NullsCarried r.1 := by
  rcases b with ⟨btype, nodes, data, _, _, _, _, _, _⟩
  cases data with
  | callContract d => exact dispatch_of_normalizer rfl (fillCallContractAction_total h)
  | contractDeploy d => exact dispatch_of_normalizer rfl (fillCallContractAction_total h)
  | tonTransfer d => exact dispatch_of_normalizer rfl (fillTonTransferAction_total nodes h)
  | nominatorPoolDeposit d =>
    exact dispatch_of_normalizer rfl (fillNominatorPoolDepositAction_total h)
  | nominatorPoolWithdrawRequest d =>
    exact dispatch_of_normalizer rfl (fillNominatorPoolWithdrawRequestAction_total rfl h)
  | dedustDepositLiquidity d =>
    exact dispatch_of_normalizer rfl (fillDedustDepositLiquidityAction_total h)
  | dedustDepositLiquidityPartial d =>
    exact dispatch_of_normalizer rfl (fillDedustDepositLiquidityPartialAction_total h)
  | jettonTransfer d => exact dispatch_of_normalizer rfl (fillJettonTransferAction_total h)
  | nftTransfer d => exact dispatch_of_normalizer rfl (fillNftTransferAction_total rfl rfl h)
  | nftDiscovery d => exact dispatch_of_normalizer rfl (fillNftDiscoveryAction_total h)
  | nftMint d => exact dispatch_of_normalizer rfl (fillNftMintAction_total rfl rfl h)
  | jettonBurn d => exact dispatch_of_normalizer rfl (fillJettonBurnAction_total h)
  | jettonMint d => exact dispatch_of_normalizer rfl (fillJettonMintAction_total h)
  | jettonSwap d => exact dispatch_of_normalizer rfl (fillJettonSwapAction_total h)
  | dnsChangeRecord d => exact dispatch_of_normalizer rfl (fillChangeDnsRecordAction_total h)
  | dnsDeleteRecord d => exact dispatch_of_normalizer rfl (fillDeleteDnsRecordAction_total h)
  | dnsRenew d => exact dispatch_of_normalizer rfl fillDnsRenewAction_total
  | tonStakersDeposit d =>
    exact dispatch_of_normalizer rfl (fillTonstakersDepositAction_total h)
  | tonStakersWithdrawRequest d =>
    exact dispatch_of_normalizer rfl (fillTonstakersWithdrawRequestAction_total h)
  | tonStakersWithdraw d =>
    exact dispatch_of_normalizer rfl (fillTonstakersWithdrawAction_total h)
  | subscribe d => exact dispatch_of_normalizer rfl (fillSubscribeAction_total h)
  | dexDepositLiquidity d => exact dispatch_of_normalizer rfl fillDexDepositLiquidity_total
  | dexWithdrawLiquidity d => exact dispatch_of_normalizer rfl fillDexWithdrawLiquidity_total
  | jvaultStake d => exact dispatch_of_normalizer rfl fillJVaultStake_total
  | jvaultUnstake d => exact dispatch_of_normalizer rfl fillJVaultUnstake_total
  | jvaultClaim d => exact dispatch_of_normalizer rfl (fillJVaultClaim_total h)
  | multisigCreateOrder d => exact dispatch_of_normalizer rfl fillMultisigCreateOrder_total
  | multisigApprove d => exact dispatch_of_normalizer rfl fillMultisigApprove_total
  | vestingSendMessage d => exact dispatch_of_normalizer rfl (fillVestingSendMessage_total h)
  | vestingAddWhiteList d => exact dispatch_of_normalizer rfl (fillVestingAddWhitelist_total h)
  | unsubscribe d => exact dispatch_of_normalizer rfl (fillUnsubscribeAction_total h)
  | electionDepositStake d => exact dispatch_of_normalizer rfl (fillElectionAction_total h)
  | electionRecoverStake d => exact dispatch_of_normalizer rfl (fillElectionAction_total h)
  | auctionBid d => exact dispatch_of_normalizer rfl (fillAuctionBidAction_total h)
  | other => exact ⟨_, rfl, trivial⟩

/-- A block of any class whose nodes (and initiating node) all have accounts and whose
required reads succeed gives an action, and every `None` among its guarded payload values
leaves its generic column `None`. -/
theorem blockToAction_total (b : Block) (t : String) (hnodes : b.event_nodes ≠ [])
    (haccounts : b.event_nodes.all fun n => n.account?.isSome)
    (hinit : b.initiating_event_node.all fun n => n.account?.isSome) (hreq : b.data.required) :
    ∃ A log, blockToAction b t = .ok (A, log) ∧ b.data.NullsCarried A.fields := by
  obtain ⟨filled, hfill, hnulls⟩ := dispatch_total b t b.btype (!b.failed) hreq
  obtain ⟨A, log, h, hA⟩ := blockToAction_ok b t hnodes haccounts hinit hfill
  exact ⟨A, log, h, hA ▸ hnulls⟩

/-- A jetton transfer of 100 from `A` to `B` with the comment "hi", no `receiver_wallet` key and
no asset. -/
def jettonsToB : JettonTransferData where
  sender := some ⟨"A"⟩
  sender_wallet := some ⟨"AW"⟩
  receiver := some ⟨"B"⟩
  receiver_wallet := none
  amount := some ⟨100⟩
  asset := none
  comment := some [0x68, 0x69]
  encrypted_comment := false
  query_id := 0
  response_address := some ⟨"A"⟩
  forward_amount := some ⟨1⟩
  custom_payload := none
  forward_payload := none

/-- A jetton transfer block seen at one node, executed on `A`'s wallet. -/
def jettonBlock (d : JettonTransferData) : Block where
  btype := "jetton_transfer"
  event_nodes := [.message 5 ⟨"m1", some ⟨"h1", "AW"⟩⟩]
  data := .jettonTransfer d
  min_lt := 5
  max_lt := 5
  min_utime := 1
  max_utime := 1
  failed := false
  initiating_event_node := none

theorem jettonsToB_total :
    (jettonBlock jettonsToB).event_nodes ≠ [] ∧
      ((jettonBlock jettonsToB).event_nodes.all fun n => n.account?.isSome) ∧
      ((jettonBlock jettonsToB).initiating_event_node.all fun n => n.account?.isSome) ∧
      (jettonBlock jettonsToB).data.required ∧
      ∃ A log, blockToAction (jettonBlock jettonsToB) "t" = .ok (A, log) ∧
        (jettonBlock jettonsToB).data.NullsCarried A.fields :=
  have hnodes : (jettonBlock jettonsToB).event_nodes ≠ [] := by decide
  ⟨hnodes, rfl, rfl, rfl, blockToAction_total _ "t" hnodes rfl rfl rfl⟩

/-- `jettonsToB` with every key the normalizer reads present and not `None`: the receiver's
wallet `BW`, the jetton `J`, empty custom and forward payloads, and the comment byte `ff`, which
starts no UTF-8 sequence. -/
def nonUtf8Jettons : JettonTransferData :=
  { jettonsToB with
    receiver_wallet := some (some ⟨"BW"⟩)
    asset := some ⟨false, some ⟨"J"⟩⟩
    comment := some [0xFF]
    custom_payload := some ""
    forward_payload := some "" }

/-- A comment that is not UTF-8 raises at `block.data["comment"].decode("utf-8")`, on a block
whose nodes have accounts and whose payload holds every key, none of them `None`. -/
theorem invalidComment_raises :
    (jettonBlock nonUtf8Jettons).event_nodes ≠ [] ∧
      ((jettonBlock nonUtf8Jettons).event_nodes.all fun n => n.account?.isSome) ∧
      blockToAction (jettonBlock nonUtf8Jettons) "t" = .error (.unicodeDecodeError 0) := by
  have hnodes : (jettonBlock nonUtf8Jettons).event_nodes ≠ [] := by decide
  obtain ⟨id, hid⟩ := calcActionId_ok_of_ne_nil hnodes
  exact ⟨hnodes, rfl,
    blockToAction_eq_error (baseBlockToAction_eq_ok.mpr ⟨id, hid, by decide, rfl⟩) rfl⟩

/-- A TON transfer of 5 from `A` to `dst` with the comment "hi", seen at one message executed
on `A`. -/
def tonTransferTo (dst : Option AccountId) : Block where
  btype := "ton_transfer"
  event_nodes := [.message 5 ⟨"m1", some ⟨"h1", "A"⟩⟩]
  data := .tonTransfer
    { value := some 5, source := some ⟨"A"⟩, destination := dst, comment := some "hi",
      encrypted := false }
  min_lt := 5
  max_lt := 5
  min_utime := 1
  max_utime := 1
  failed := false
  initiating_event_node := none

/-- A TON transfer without a destination raises at `block.data["destination"].as_str()`, right
after the `print` that detects the missing destination, while the same transfer to `B`
returns: the destination is the only value missing. -/
theorem nullDestination_raises :
    (tonTransferTo none).event_nodes ≠ [] ∧
      ((tonTransferTo none).event_nodes.all fun n => n.account?.isSome) ∧
      blockToAction (tonTransferTo none) "t" = .error (noneAttr "as_str") ∧
      ∃ r, blockToAction (tonTransferTo (some ⟨"B"⟩)) "t" = .ok r := by
  have hnodes : (tonTransferTo none).event_nodes ≠ [] := by decide
  obtain ⟨id, hid⟩ := calcActionId_ok_of_ne_nil hnodes
  obtain ⟨A, log, h, -⟩ := blockToAction_ok (tonTransferTo (some ⟨"B"⟩)) "t" (by decide) rfl rfl rfl
  exact ⟨hnodes, rfl,
    blockToAction_eq_error (baseBlockToAction_eq_ok.mpr ⟨id, hid, by decide, rfl⟩) rfl, _, h⟩

end TonIndexer
