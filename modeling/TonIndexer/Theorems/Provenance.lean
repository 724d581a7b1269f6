import TonIndexer.Theorems.Payloads

/-!
# Every account an action names is one its block names

The indexer finds an account's actions through the `accounts` column. `block_to_action` fills
it with the event nodes' accounts, the four generic address columns (`source`,
`source_secondary`, `destination`, `destination_secondary`) and the initiating node's account.
This file shows that no account from outside the block gets in: every address a normalizer
writes into a generic address column is one the block's payload holds.

## Main definitions

* `BlockData.addresses`: the text of every address a payload holds, field by field: an
  account's `as_str()`, an asset's jetton master, a DNS record's contract address;
* `PartiesFrom L f`: the generic address columns of `f` hold only addresses of `L`.

## Main results

* `normalizer_parties`: every normalizer, run on the base columns, writes into the generic
  address columns only addresses of its payload;
* `blockToAction_provenance`: the generic address columns of a returned action hold only
  addresses of its payload, and each of its accounts is an event node's, the initiating
  node's, or one of those addresses.

## Implementation notes

A normalizer writes a generic address column from an `.as_str()` it read, from `_addr`, or
from `None`. `Returns.bind_asStr` keeps, past the read, the fact that the text is the field's,
so at the final record each column is closed by membership in the payload's address list.
Only the jetton transfer, which reads the receiver's wallet inside a `match`, and the swap,
which takes its columns from the legs `dexTransfer` builds, are done by hand.
-/

namespace TonIndexer

/-! ## The addresses of a payload -/

/-- The text of an account the payload may hold. -/
def accountText (o : Option AccountId) : List String := (o.map AccountId.as_str).toList

/-- The text of an account or an asset, as `_addr` gives it. -/
def addrText (o : Option Addressable) : List String := (addr o).toList

/-- The text of an asset's jetton master. -/
def assetText (o : Option Asset) : List String := accountText (o.bind Asset.jetton_address)

/-- The text of a DNS record's contract address; ADNL bytes are not an account. -/
def dnsAddressText : Option DnsAddress → List String
  | some (.account a) => [a.as_str]
  | _ => []

/-- The text of every address of one leg of a swap. -/
def DexTransferData.addresses (t : DexTransferData) : List String :=
  addrText t.source ++ addrText t.source_jetton_wallet ++ addrText t.destination ++
    addrText t.destination_jetton_wallet ++ addrText t.asset

/-- The text of every address a payload holds, field by field. -/
def BlockData.addresses : BlockData → List String
  | .callContract d | .contractDeploy d => accountText d.source ++ accountText d.destination
  | .tonTransfer d => accountText d.source ++ accountText d.destination
  | .nominatorPoolDeposit d => accountText d.source ++ accountText d.pool
  | .nominatorPoolWithdrawRequest d => accountText d.source ++ accountText d.pool
  | .dedustDepositLiquidity d =>
    addrText d.sender ++ addrText d.deposit_contract ++ assetText d.asset_1 ++
      assetText d.asset_2 ++ addrText d.user_jetton_wallet_1 ++
      addrText d.user_jetton_wallet_2 ++ addrText d.pool_address
  | .dedustDepositLiquidityPartial d =>
    addrText d.sender ++ addrText d.deposit_contract ++ assetText d.asset_1 ++
      assetText d.asset_2 ++ addrText d.user_jetton_wallet_1 ++ addrText d.user_jetton_wallet_2
  | .jettonTransfer d =>
    accountText d.sender ++ accountText d.sender_wallet ++ accountText d.receiver ++
      accountText d.receiver_wallet.join ++ assetText d.asset ++ accountText d.response_address
  | .nftTransfer d =>
    accountText d.prev_owner.join ++ accountText d.new_owner ++ accountText d.nft.address ++
      accountText (d.nft.collection.bind NftCollectionRef.address) ++
      accountText d.response_destination
  | .nftDiscovery d =>
    accountText d.sender ++ accountText d.nft ++ accountText d.result_collection
  | .nftMint d => accountText d.source ++ accountText d.address ++ accountText d.collection
  | .jettonBurn d => accountText d.owner ++ accountText d.jetton_wallet ++ assetText d.asset
  | .jettonMint d => addrText d.«to» ++ addrText d.to_jetton_wallet ++ assetText d.asset
  | .jettonSwap d =>
    addrText d.sender ++ d.dex_incoming_transfer.addresses ++ d.dex_outgoing_transfer.addresses ++
      addrText d.source_asset.join ++ addrText d.destination_asset.join ++
      addrText d.destination_wallet.join
  | .dnsChangeRecord d =>
    accountText d.source ++ accountText d.destination ++ dnsAddressText d.value.address
  | .dnsDeleteRecord d => accountText d.source ++ accountText d.destination
  | .dnsRenew d => addrText d.source ++ addrText d.destination
  | .tonStakersDeposit d => addrText d.source ++ addrText d.pool
  | .tonStakersWithdrawRequest d =>
    addrText d.source ++ addrText d.tsTON_wallet ++ addrText d.pool ++ addrText d.minted_nft
  | .tonStakersWithdraw d => addrText d.stake_holder ++ addrText d.pool ++ addrText d.burnt_nft
  | .subscribe d =>
    accountText d.subscriber ++ accountText d.beneficiary ++ accountText d.subscription
  | .dexDepositLiquidity d =>
    addrText d.sender ++ addrText d.pool ++ addrText d.asset_1 ++ addrText d.asset_2 ++
      addrText d.sender_wallet_1 ++ addrText d.sender_wallet_2
  | .dexWithdrawLiquidity d =>
    addrText d.sender ++ addrText d.sender_wallet ++ addrText d.pool ++ addrText d.asset ++
      addrText d.asset1_out ++ addrText d.asset2_out ++ addrText d.wallet1 ++
      addrText d.wallet2 ++ addrText d.dex_jetton_wallet_1 ++ addrText d.dex_wallet_1 ++
      addrText d.dex_wallet_2 ++ addrText d.dex_jetton_wallet_2
  | .jvaultStake d => addrText d.sender ++ addrText d.stake_wallet ++ addrText d.staking_pool
  | .jvaultUnstake d => addrText d.sender ++ addrText d.stake_wallet ++ addrText d.staking_pool
  | .jvaultClaim d =>
    addrText d.sender ++ addrText d.stake_wallet ++ addrText d.staking_pool ++
      (d.claimed_jettons.getD []).flatMap addrText
  | .multisigCreateOrder d =>
    addrText d.created_by ++ addrText d.multisig ++ addrText d.order_contract_address
  | .multisigApprove d => addrText d.signer ++ addrText d.order
  | .vestingSendMessage d =>
    addrText d.sender ++ addrText d.vesting ++ addrText d.message_destination
  | .vestingAddWhiteList d =>
    addrText d.adder ++ addrText d.vesting ++ (d.accounts_added.getD []).flatMap addrText
  | .unsubscribe d =>
    accountText d.subscriber ++ accountText d.beneficiary ++ accountText d.subscription
  | .electionDepositStake d | .electionRecoverStake d => accountText d.stake_holder
  | .auctionBid d =>
    accountText d.bidder ++ accountText d.auction ++ accountText d.nft_address ++
      addrText d.nft_collection
  | .other => []

theorem toList_addr (o : Option Addressable) : (addr o).toList = addrText o := rfl

theorem toList_map_asStr (o : Option AccountId) :
    (o.map AccountId.as_str).toList = accountText o := rfl

theorem mem_accountText_of_asStr {o : Option AccountId} {s : String} (h : asStr o = .ok s) :
    s ∈ accountText o := by
  obtain ⟨a, rfl, rfl⟩ := getAttr_eq_ok h
  exact List.mem_singleton_self _

/-- A leg of a swap carries the `_addr` of each of its address fields. -/
theorem dexTransfer_eq_ok {t : DexTransferData} {r : DexTransferDetails}
    (h : dexTransfer t = .ok r) :
    r.source = addr t.source ∧ r.source_jetton_wallet = addr t.source_jetton_wallet ∧
      r.destination = addr t.destination ∧
      r.destination_jetton_wallet = addr t.destination_jetton_wallet := by
  simp only [dexTransfer, except_bind_eq_ok, except_pure, Except.ok.injEq] at h
  obtain ⟨_, -, rfl⟩ := h
  exact ⟨rfl, rfl, rfl, rfl⟩

/-! ## The generic address columns -/

/-- The generic address columns hold only addresses of `L`. -/
structure PartiesFrom (L : List String) (f : ActionFields) : Prop where
  source : f.source.toList ⊆ L
  source_secondary : f.source_secondary.toList ⊆ L
  destination : f.destination.toList ⊆ L
  destination_secondary : f.destination_secondary.toList ⊆ L

/-- An address the assembler takes from a generic address column is one of `L`. -/
theorem PartiesFrom.mem {L : List String} {f : ActionFields} {a : String}
    (hp : PartiesFrom L f)
    (h : some a ∈ [f.source, f.source_secondary, f.destination, f.destination_secondary]) :
    a ∈ L := by
  have ha : a ∈ (some a).toList := List.mem_singleton_self a
  simp only [List.mem_cons, List.mem_singleton, List.not_mem_nil, or_false] at h
  rcases h with h | h | h | h <;> rw [h] at ha
  exacts [hp.source ha, hp.source_secondary ha, hp.destination ha, hp.destination_secondary ha]

section Returns

variable {α β : Type} {P : β → Prop}

/-- A bind returns what its second step returns after the first returned. -/
theorem Returns.bind_ok {x : Except PyError α} {g : α → Except PyError β}
    (h : ∀ a, x = .ok a → Returns (g a) P) : Returns (x >>= g) P := fun b hb => by
  obtain ⟨a, ha, hg⟩ := except_bind_eq_ok.mp hb
  exact h a ha b hg

/-- After `.as_str()` returns, its text is the field's. -/
theorem Returns.bind_asStr {o : Option AccountId} {g : String → Except PyError β}
    (h : ∀ s, s ∈ accountText o → Returns (g s) P) : Returns (asStr o >>= g) P :=
  Returns.bind_ok fun s hs => h s (mem_accountText_of_asStr hs)

end Returns

/-! ## The normalizers -/

/-- Every normalizer, run on the base columns, writes into the generic address columns only
addresses its payload holds. -/
theorem normalizer_parties {b : Block} {fill : ActionFields → Except PyError ActionFields}
    (hn : normalizer b = some fill) (ty : String) (s : Bool) :
    Returns (fill (.init ty s)) (PartiesFrom b.data.addresses) := by
  rcases b with ⟨_, nodes, data, _⟩
  cases data <;> simp only [normalizer, Option.some.injEq, reduceCtorEq] at hn <;> subst hn <;>
    dsimp only [fillCallContractAction, fillTonTransferAction, fillNominatorPoolDepositAction,
      fillNominatorPoolWithdrawRequestAction, fillDedustDepositLiquidityAction,
      fillDedustDepositLiquidityPartialAction, fillJettonTransferAction, fillNftTransferAction,
      fillNftDiscoveryAction, fillNftMintAction, fillJettonBurnAction, fillJettonMintAction,
      fillJettonSwapAction, fillChangeDnsRecordAction, fillDeleteDnsRecordAction,
      fillDnsRenewAction, fillTonstakersDepositAction, fillTonstakersWithdrawRequestAction,
      fillTonstakersWithdrawAction, fillSubscribeAction, fillDexDepositLiquidity,
      fillDexWithdrawLiquidity, fillJVaultStake, fillJVaultUnstake, fillJVaultClaim,
      fillMultisigCreateOrder, fillMultisigApprove, fillVestingSendMessage,
      fillVestingAddWhitelist, fillUnsubscribeAction, fillElectionAction, fillAuctionBidAction]
  case jettonTransfer d =>
    refine Returns.bind_asStr fun _ _ => Returns.bind_asStr fun _ _ =>
      Returns.bind_asStr fun _ _ => Returns.bind_ok fun w hw => ?_
    have hwallet : w.toList ⊆ accountText d.receiver_wallet.join := by
      rcases hr : d.receiver_wallet with _ | r <;> simp only [hr] at hw
      · cases hw
        exact List.nil_subset _
      · obtain ⟨s, hs, rfl⟩ := except_map_eq_ok.mp hw
        exact fun x hx => List.mem_singleton.mp hx ▸ mem_accountText_of_asStr hs
    repeat' first
      | refine Returns.of_ok ⟨?_, ?_, ?_, ?_⟩ <;> intro a ha <;>
          simp only [ActionFields.init, BlockData.addresses, List.mem_append, Option.toList_some,
            List.mem_singleton] at ha ⊢
      | refine Returns.bind_ok fun _ _ => ?_
    all_goals first
      | simp only [hwallet ha, true_or, or_true]
      | subst_vars
        simp only [*, true_or, or_true]
  case jettonSwap d =>
    refine Returns.bind_ok fun li hi => Returns.bind_ok fun lo ho =>
      Returns.bind_ok fun _ _ => Returns.of_ok ?_
    obtain ⟨h1, h2, -, -⟩ := dexTransfer_eq_ok hi
    obtain ⟨-, -, h3, h4⟩ := dexTransfer_eq_ok ho
    rcases hw : d.destination_wallet.join with _ | w <;>
      refine ⟨?_, ?_, ?_, ?_⟩ <;> intro a ha <;>
      simp only [hw, h1, h2, h3, h4, toList_addr, BlockData.addresses, DexTransferData.addresses,
        List.mem_append] at ha ⊢ <;>
      simp only [ha, true_or, or_true]
  all_goals
    repeat' first
      | refine Returns.of_ok ⟨?_, ?_, ?_, ?_⟩ <;> intro a ha <;>
          simp only [ActionFields.init, Option.or_none, BlockData.addresses, List.mem_append,
            toList_addr, toList_map_asStr, Option.toList_some, Option.toList_none,
            List.mem_singleton, List.not_mem_nil] at ha ⊢
      | refine Returns.bind_asStr fun _ _ => ?_
      | refine Returns.bind_ok fun _ _ => ?_
      | split
  all_goals
    subst_vars
    simp only [*, true_or, or_true]

/-- The dispatcher, run on the base columns, writes only addresses of the payload; the fallback
writes none. -/
theorem dispatch_parties {b : Block} {t ty : String} {s : Bool}
    {r : ActionFields × List LogRecord} (h : dispatch b t (.init ty s) = .ok r) :
    PartiesFrom b.data.addresses r.1 := by
  unfold dispatch at h
  rcases hn : normalizer b with _ | fill <;> rw [hn] at h
  · cases h
    exact ⟨List.nil_subset _, List.nil_subset _, List.nil_subset _, List.nil_subset _⟩
  · obtain ⟨r, hr, rfl⟩ := except_map_eq_ok.mp h
    exact normalizer_parties hn _ _ r hr

/-! ## The accounts -/

/-- The generic address columns of a returned action hold only addresses its block's payload
holds, and each of its accounts is the account of an event node, of an initiating node that is
not tick-tock, or one of those addresses: no account from outside the block. -/
theorem blockToAction_provenance {b : Block} {t : String} {A : Action} {log : List LogRecord}
    (h : blockToAction b t = .ok (A, log)) :
    PartiesFrom b.data.addresses A.fields ∧
      ∀ a, some a ∈ A.accounts →
        (∃ n ∈ b.event_nodes, n.account? = some a) ∨
        (∃ n, b.initiating_event_node = some n ∧ n.is_tick_tock = false ∧ n.account? = some a) ∨
        a ∈ b.data.addresses := by
  obtain ⟨base, filled, initiated, hbase, hfill, hinit, rfl, -⟩ := blockToAction_eq_ok.mp h
  obtain ⟨id, -, -, rfl⟩ := baseBlockToAction_eq_ok.mp hbase
  have hp := dispatch_parties hfill
  refine ⟨hp, fun a ha => ?_⟩
  simp only [mem_listSet, List.mem_filter] at ha
  rcases ((addInitiatingAccount_eq_ok hinit).2 a).mp ha.1 with hacc | hi
  · rcases List.mem_append.mp hacc with hnode | hcol
    · simp only [List.mem_map, List.mem_filterMap, Option.some.injEq] at hnode
      obtain ⟨_, ⟨n, hn, hna⟩, rfl⟩ := hnode
      exact .inl ⟨n, hn, hna⟩
    · exact .inr (.inr (hp.mem hcol))
  · exact .inr (.inl hi)

theorem jettonsToB_provenance :
    ∃ A log, blockToAction (jettonBlock jettonsToB) "t" = .ok (A, log) ∧
      PartiesFrom (jettonBlock jettonsToB).data.addresses A.fields ∧
      ∀ a, some a ∈ A.accounts →
        (∃ n ∈ (jettonBlock jettonsToB).event_nodes, n.account? = some a) ∨
        (∃ n, (jettonBlock jettonsToB).initiating_event_node = some n ∧
          n.is_tick_tock = false ∧ n.account? = some a) ∨
        a ∈ (jettonBlock jettonsToB).data.addresses := by
  obtain ⟨A, log, h, -⟩ := blockToAction_ok (jettonBlock jettonsToB) "t" (by decide) rfl rfl rfl
  exact ⟨A, log, h, blockToAction_provenance h⟩

end TonIndexer
