import TonIndexer.Serializer.Base

/-!
# The variant normalizers

One function per `_fill_*` of `block_tree_serializer.py`, from the block's payload and the
columns written so far to the columns after it, or the exception it raises. The source
assigns `action.<column>` line by line; here each normalizer reads its payload in the same
order, so that the first read that raises is the source's, and writes the columns at the end.
Since a raise propagates out of `block_to_action`, the source's partial writes are never seen.

A read guarded in the source by `is not None` (or by truthiness, for an `AccountId`) is an
`Option.map`; an unguarded `.as_str()` or `.value` is `asStr` or `amountValue`, which raise
on `None`. Two pieces the source writes out twice are one function here: `dexTransfer`, the
two legs of a swap, and `dedustDepositDetails`, the payload of both DeDust deposits.
-/

namespace TonIndexer

/-- `_fill_call_contract_action`. -/
def fillCallContractAction (d : CallContractData) (action : ActionFields) :
    Except PyError ActionFields := do
  let value ← amountValue d.value
  pure { action with
    opcode := d.opcode
    value := some value
    source := d.source.map AccountId.as_str
    destination := d.destination.map AccountId.as_str }

/-- The argument `block.event_nodes[0].message.trace_id` of the `print` in
`_fill_ton_transfer_action`: evaluating it raises unless the first node carries a message.
What is printed is not modelled. -/
def firstMessageTraceId : List EventNode → Except PyError Unit
  | .message .. :: _ => pure ()
  | .tickTock .. :: _ => throw (noneAttr "trace_id")
  | [] => throw .indexError

/-- `_fill_ton_transfer_action`: it prints a diagnostic when the destination is `None`, then
calls `.as_str()` on it all the same. -/
def fillTonTransferAction (d : TonTransferData) (event_nodes : List EventNode)
    (action : ActionFields) : Except PyError ActionFields := do
  let source ← asStr d.source
  if d.destination.isNone then firstMessageTraceId event_nodes
  let destination ← asStr d.destination
  pure { action with
    value := d.value
    source := some source
    destination := some destination
    ton_transfer_data := some
      { content := d.comment.map stripNul
        encrypted := d.encrypted } }

/-- The comment of a jetton transfer: the base64 text of the raw bytes when encrypted, the
bytes decoded as UTF-8 (raising on bytes that are not) with NULs stripped otherwise. -/
def jettonComment (comment : Option Bytes) (encrypted_comment : Bool) :
    Except PyError (Option String) :=
  match comment with
  | none => pure none
  | some c =>
    if encrypted_comment then some <$> decodeUtf8 (b64encode c)
    else (some ∘ stripNul) <$> decodeUtf8 c

/-- `_fill_jetton_transfer_action`. -/
def fillJettonTransferAction (d : JettonTransferData) (action : ActionFields) :
    Except PyError ActionFields := do
  let source ← asStr d.sender
  let source_secondary ← asStr d.sender_wallet
  let destination ← asStr d.receiver
  let destination_secondary ←
    (match d.receiver_wallet with
    | some w => some <$> asStr w
    | none => pure none)
  let amount ← amountValue d.amount
  let asset ←
    (match d.asset with
    | some a => if a.is_ton then pure none else some <$> asStr a.jetton_address
    | none => pure none)
  let comment ← jettonComment d.comment d.encrypted_comment
  let forward_amount ← amountValue d.forward_amount
  pure { action with
    source := some source
    source_secondary := some source_secondary
    destination := some destination
    destination_secondary := destination_secondary
    amount := some amount
    asset := asset
    jetton_transfer_data := some
      { query_id := d.query_id
        response_destination := d.response_address.map AccountId.as_str
        forward_amount := forward_amount
        custom_payload := d.custom_payload
        forward_payload := d.forward_payload
        comment := comment
        is_encrypted_comment := d.encrypted_comment } }

/-- `_fill_nft_transfer_action`. -/
def fillNftTransferAction (d : NftTransferData) (action : ActionFields) :
    Except PyError ActionFields := do
  let source := (d.prev_owner.join.map AccountId.as_str).or action.source
  let destination ← asStr d.new_owner
  let asset_secondary ← asStr d.nft.address
  let asset ←
    (match d.nft.collection with
    | some c => some <$> asStr c.address
    | none => pure action.asset)
  let price ←
    (match d.price, d.is_purchase with
    | some p, true => some <$> amountValue p
    | _, _ => pure none)
  pure { action with
    source := source
    destination := some destination
    asset_secondary := some asset_secondary
    asset := asset
    nft_transfer_data := some
      { query_id := some d.query_id
        is_purchase := some d.is_purchase
        price := price
        nft_item_index := d.nft.index
        forward_amount := d.forward_amount.map Amount.value
        custom_payload := d.custom_payload
        forward_payload := d.forward_payload
        response_destination := d.response_destination.map AccountId.as_str } }

/-- `_fill_nft_discovery_action`. -/
def fillNftDiscoveryAction (d : NftDiscoveryData) (action : ActionFields) :
    Except PyError ActionFields := do
  let source ← asStr d.sender
  let destination ← asStr d.nft
  let collection_address ← asStr d.result_collection
  pure { action with
    source := some source
    destination := some destination
    nft_discovery_data := some
      { query_id := d.query_id
        collection_address := collection_address
        nft_item_index := d.result_index } }

/-- `_fill_nft_mint_action`. -/
def fillNftMintAction (d : NftMintData) (action : ActionFields) :
    Except PyError ActionFields := do
  let destination ← asStr d.address
  pure { action with
    source := (d.source.map AccountId.as_str).or action.source
    destination := some destination
    asset_secondary := some destination
    opcode := d.opcode
    asset := (d.collection.map AccountId.as_str).or action.asset
    nft_mint_data := some { nft_item_index := d.index } }

/-- One leg of a swap, as `_fill_jetton_swap_action` builds `dex_incoming_transfer` and
`dex_outgoing_transfer` alike. -/
def dexTransfer (t : DexTransferData) : Except PyError DexTransferDetails := do
  let amount ← amountValue t.amount
  pure
    { amount := amount
      source := addr t.source
      source_jetton_wallet := addr t.source_jetton_wallet
      destination := addr t.destination
      destination_jetton_wallet := addr t.destination_jetton_wallet
      asset := addr t.asset }

/-- `_fill_jetton_swap_action`: the legs give the defaults, which `stonfi_v2` and an explicit
`destination_wallet` or `destination_asset` override. -/
def fillJettonSwapAction (d : JettonSwapData) (action : ActionFields) :
    Except PyError ActionFields := do
  let dex_incoming_transfer ← dexTransfer d.dex_incoming_transfer
  let dex_outgoing_transfer ← dexTransfer d.dex_outgoing_transfer
  let assets ←
    (if d.dex = "stonfi_v2" then do
      let source_asset ← getItem "source_asset" d.source_asset
      let destination_asset ← getItem "destination_asset" d.destination_asset
      pure (addr source_asset, addr destination_asset)
    else pure (dex_incoming_transfer.asset, dex_outgoing_transfer.asset))
  pure { action with
    asset := assets.1
    asset2 :=
      match d.destination_asset.join with
      | some a => addr (some a)
      | none => assets.2
    source := dex_incoming_transfer.source
    source_secondary := dex_incoming_transfer.source_jetton_wallet
    destination := dex_outgoing_transfer.destination
    destination_secondary :=
      match d.destination_wallet.join with
      | some w => addr (some w)
      | none => dex_outgoing_transfer.destination_jetton_wallet
    jetton_swap_data := some
      { dex := d.dex
        sender := addr d.sender
        dex_incoming_transfer := dex_incoming_transfer
        dex_outgoing_transfer := dex_outgoing_transfer } }

/-- `_fill_dex_deposit_liquidity`. -/
def fillDexDepositLiquidity (d : DexDepositLiquidityData) (action : ActionFields) :
    Except PyError ActionFields :=
  pure { action with
    source := addr d.sender
    destination := addr d.pool
    dex_deposit_liquidity_data := some
      { dex := d.dex
        amount1 := d.amount_1.map Amount.value
        amount2 := d.amount_2.map Amount.value
        asset1 := addr d.asset_1
        asset2 := addr d.asset_2
        user_jetton_wallet_1 := addr d.sender_wallet_1
        user_jetton_wallet_2 := addr d.sender_wallet_2
        lp_tokens_minted := d.lp_tokens_minted.map Amount.value } }

/-- `_fill_dex_withdraw_liquidity`. -/
def fillDexWithdrawLiquidity (d : DexWithdrawLiquidityData) (action : ActionFields) :
    Except PyError ActionFields :=
  pure { action with
    source := addr d.sender
    source_secondary := addr d.sender_wallet
    destination := addr d.pool
    asset := addr d.asset
    dex_withdraw_liquidity_data := some
      { dex := d.dex
        amount_1 := d.amount1_out.map Amount.value
        amount_2 := d.amount2_out.map Amount.value
        asset_out_1 := addr d.asset1_out
        asset_out_2 := addr d.asset2_out
        user_jetton_wallet_1 := addr d.wallet1
        user_jetton_wallet_2 := addr d.wallet2
        dex_jetton_wallet_1 := addr d.dex_jetton_wallet_1
        dex_wallet_1 := addr d.dex_wallet_1
        dex_wallet_2 := addr d.dex_wallet_2
        dex_jetton_wallet_2 := addr d.dex_jetton_wallet_2
        is_refund := d.is_refund
        lp_tokens_burnt := d.lp_tokens_burnt.map Amount.value } }

/-- `_fill_jvault_stake`. -/
def fillJVaultStake (d : JVaultStakeData) (action : ActionFields) :
    Except PyError ActionFields :=
  pure { action with
    source := addr d.sender
    source_secondary := addr d.stake_wallet
    destination := addr d.staking_pool
    amount := d.staked_amount
    jvault_stake_data := some
      { period := d.period
        minted_stake_jettons := d.minted_stake_jettons } }

/-- `_fill_jvault_unstake`. -/
def fillJVaultUnstake (d : JVaultUnstakeData) (action : ActionFields) :
    Except PyError ActionFields :=
  pure { action with
    source := addr d.sender
    source_secondary := addr d.stake_wallet
    destination := addr d.staking_pool
    amount := d.unstaked_amount }

/-- `list(map(_addr, xs))`, which raises on `None`. -/
def mapAddr : Option (List (Option Addressable)) → Except PyError (List (Option String))
  | some xs => pure (xs.map addr)
  | none => throw (.typeError "NoneType")

/-- `_fill_jvault_claim`. -/
def fillJVaultClaim (d : JVaultClaimData) (action : ActionFields) :
    Except PyError ActionFields := do
  let claimed_jettons ← mapAddr d.claimed_jettons
  pure { action with
    source := addr d.sender
    source_secondary := addr d.stake_wallet
    destination := addr d.staking_pool
    jvault_claim_data := some
      { claimed_jettons := claimed_jettons
        claimed_amounts := d.claimed_amounts } }

/-- `_fill_multisig_create_order`. -/
def fillMultisigCreateOrder (d : MultisigCreateOrderData) (action : ActionFields) :
    Except PyError ActionFields :=
  pure { action with
    source := addr d.created_by
    destination := addr d.multisig
    destination_secondary := addr d.order_contract_address
    multisig_create_order_data := some
      { query_id := d.query_id
        order_seqno := d.order_seqno
        is_created_by_signer := d.is_created_by_signer
        is_signed_by_creator := d.creator_approved
        creator_index := d.creator_index
        expiration_date := d.expiration_date
        order_boc := d.order_boc_str } }

/-- `_fill_multisig_approve`: the only normalizer that overwrites `success`. -/
def fillMultisigApprove (d : MultisigApproveData) (action : ActionFields) :
    Except PyError ActionFields :=
  pure { action with
    source := addr d.signer
    destination := addr d.order
    success := d.success
    multisig_approve_data := some
      { signer_index := d.signer_index
        exit_code := d.exit_code } }

/-- `_fill_vesting_send_message`. -/
def fillVestingSendMessage (d : VestingSendMessageData) (action : ActionFields) :
    Except PyError ActionFields := do
  let amount ← amountValue d.message_value
  pure { action with
    source := addr d.sender
    destination := addr d.vesting
    destination_secondary := addr d.message_destination
    amount := some amount
    vesting_send_message_data := some
      { query_id := d.query_id
        message_boc := d.message_boc_str } }

/-- `_fill_vesting_add_whitelist`. -/
def fillVestingAddWhitelist (d : VestingAddWhiteListData) (action : ActionFields) :
    Except PyError ActionFields := do
  let accounts_added ← mapAddr d.accounts_added
  pure { action with
    source := addr d.adder
    destination := addr d.vesting
    vesting_add_whitelist_data := some
      { query_id := d.query_id
        accounts_added := accounts_added } }

/-- `_fill_jetton_burn_action`. -/
def fillJettonBurnAction (d : JettonBurnData) (action : ActionFields) :
    Except PyError ActionFields := do
  let source ← asStr d.owner
  let source_secondary ← asStr d.jetton_wallet
  let asset ← jettonAddress d.asset >>= asStr
  let amount ← amountValue d.amount
  pure { action with
    source := some source
    source_secondary := some source_secondary
    asset := some asset
    amount := some amount }

/-- `.as_str()` of a DNS record's address: only a contract address has it. -/
def dnsAddressAsStr : Option DnsAddress → Except PyError String
  | some (.account a) => pure a.as_str
  | some (.adnl _) => throw (.attributeError "bytes" "as_str")
  | none => throw (noneAttr "as_str")

/-- `.hex()` of a DNS record's address: only ADNL bytes have it. -/
def dnsAddressHex : Option DnsAddress → Except PyError String
  | some (.adnl b) => pure (hex b)
  | some (.account _) => throw (.attributeError "AccountId" "hex")
  | none => throw (noneAttr "hex")

/-- `_fill_change_dns_record_action`: the record's address and flags as its schema gives them. -/
def fillChangeDnsRecordAction (d : DnsChangeRecordData) (action : ActionFields) :
    Except PyError ActionFields := do
  let destination ← asStr d.destination
  let v := d.value
  let key ← getAttr "hex" hex d.key
  let addressFlags ←
    (if v.schema = "DNSNextResolver" ∨ v.schema = "DNSSmcAddress" then do
      let a ← dnsAddressAsStr v.address
      pure (some a, none)
    else if v.schema = "DNSAdnlAddress" then do
      let a ← dnsAddressHex v.address
      pure (some a, v.flags)
    else pure (none, none))
  pure { action with
    source := d.source.map AccountId.as_str
    destination := some destination
    change_dns_record_data := some
      { value_schema := some v.schema
        flags := if v.schema = "DNSSmcAddress" then v.flags else addressFlags.2
        address := addressFlags.1
        key := key
        dns_text := if v.schema = "DNSText" then v.dns_text else none } }

/-- `_fill_delete_dns_record_action`. -/
def fillDeleteDnsRecordAction (d : DnsDeleteRecordData) (action : ActionFields) :
    Except PyError ActionFields := do
  let destination ← asStr d.destination
  let key ← getAttr "hex" hex d.key
  pure { action with
    source := d.source.map AccountId.as_str
    destination := some destination
    change_dns_record_data := some
      { value_schema := none
        flags := none
        address := none
        key := key
        dns_text := none } }

/-- `_fill_tonstakers_deposit_action`. -/
def fillTonstakersDepositAction (d : TonStakersDepositData) (action : ActionFields) :
    Except PyError ActionFields := do
  let amount ← amountValue d.value
  pure { action with
    type := "stake_deposit"
    source := addr d.source
    destination := addr d.pool
    amount := some amount
    staking_data := some { provider := "tonstakers", ts_nft := none } }

/-- `_fill_dns_renew_action`. -/
def fillDnsRenewAction (d : DnsRenewData) (action : ActionFields) :
    Except PyError ActionFields :=
  pure { action with
    source := addr d.source
    destination := addr d.destination }

/-- `_fill_tonstakers_withdraw_request_action`. -/
def fillTonstakersWithdrawRequestAction (d : TonStakersWithdrawRequestData)
    (action : ActionFields) : Except PyError ActionFields := do
  let amount ← amountValue d.tokens_burnt
  pure { action with
    source := addr d.source
    source_secondary := addr d.tsTON_wallet
    destination := addr d.pool
    amount := some amount
    type := "stake_withdrawal_request"
    staking_data := some { provider := "tonstakers", ts_nft := addr d.minted_nft } }

/-- `_fill_tonstakers_withdraw_action`. -/
def fillTonstakersWithdrawAction (d : TonStakersWithdrawData) (action : ActionFields) :
    Except PyError ActionFields := do
  let amount ← amountValue d.amount
  pure { action with
    source := addr d.stake_holder
    destination := addr d.pool
    amount := some amount
    type := "stake_withdrawal"
    staking_data := some { provider := "tonstakers", ts_nft := addr d.burnt_nft } }

/-- `_fill_subscribe_action`. -/
def fillSubscribeAction (d : SubscribeData) (action : ActionFields) :
    Except PyError ActionFields := do
  let source ← asStr d.subscriber
  let destination_secondary ← asStr d.subscription
  let amount ← amountValue d.amount
  pure { action with
    source := some source
    destination := d.beneficiary.map AccountId.as_str
    destination_secondary := some destination_secondary
    amount := some amount }

/-- `_fill_unsubscribe_action`: `_fill_subscribe_action` without the amount. -/
def fillUnsubscribeAction (d : UnsubscribeData) (action : ActionFields) :
    Except PyError ActionFields := do
  let source ← asStr d.subscriber
  let destination_secondary ← asStr d.subscription
  pure { action with
    source := some source
    destination := d.beneficiary.map AccountId.as_str
    destination_secondary := some destination_secondary }

/-- `_fill_election_action`, shared by deposits and recoveries. -/
def fillElectionAction (d : ElectionData) (action : ActionFields) :
    Except PyError ActionFields := do
  let source ← asStr d.stake_holder
  let amount ←
    (match d.amount with
    | some a => some <$> amountValue a
    | none => pure none)
  pure { action with
    source := some source
    amount := amount }

/-- `_fill_auction_bid_action`. -/
def fillAuctionBidAction (d : AuctionBidData) (action : ActionFields) :
    Except PyError ActionFields := do
  let source ← asStr d.bidder
  let destination ← asStr d.auction
  let asset_secondary ← asStr d.nft_address
  let value ← amountValue d.amount
  pure { action with
    source := some source
    destination := some destination
    asset_secondary := some asset_secondary
    asset := addr d.nft_collection
    nft_transfer_data := some
      { query_id := none
        is_purchase := none
        price := none
        nft_item_index := d.nft_item_index
        forward_amount := none
        custom_payload := none
        forward_payload := none
        response_destination := none }
    value := some value }

/-- The `dex_deposit_liquidity_data` of both DeDust deposits, before `lp_tokens_minted`. -/
def dedustDepositDetails (d : DedustDepositLiquidityPartialData) :
    Except PyError DexDepositLiquidityDetails := do
  let jetton1 ← jettonAddress d.asset_1
  let amount1 ← amountValue d.amount_1
  let jetton2 ← jettonAddress d.asset_2
  let amount2 ← amountValue d.amount_2
  pure
    { dex := d.dex
      asset1 := addr (jetton1.map .account)
      amount1 := some amount1
      asset2 := addr (jetton2.map .account)
      amount2 := some amount2
      user_jetton_wallet_1 := addr d.user_jetton_wallet_1
      user_jetton_wallet_2 := addr d.user_jetton_wallet_2
      lp_tokens_minted := none }

/-- `_fill_dedust_deposit_liquidity_action`. -/
def fillDedustDepositLiquidityAction (d : DedustDepositLiquidityData) (action : ActionFields) :
    Except PyError ActionFields := do
  let details ← dedustDepositDetails d.toDedustDepositLiquidityPartialData
  let lp_tokens_minted ← amountValue d.lp_tokens_minted
  pure { action with
    type := "dex_deposit_liquidity"
    source := addr d.sender
    destination := addr d.pool_address
    destination_secondary := addr d.deposit_contract
    dex_deposit_liquidity_data := some { details with lp_tokens_minted := some lp_tokens_minted } }

/-- `_fill_dedust_deposit_liquidity_partial_action`: no pool, and no minted amount yet. -/
def fillDedustDepositLiquidityPartialAction (d : DedustDepositLiquidityPartialData)
    (action : ActionFields) : Except PyError ActionFields := do
  let details ← dedustDepositDetails d
  pure { action with
    type := "dex_deposit_liquidity"
    source := addr d.sender
    destination_secondary := addr d.deposit_contract
    dex_deposit_liquidity_data := some details }

/-- `_fill_jetton_mint_action`. -/
def fillJettonMintAction (d : JettonMintData) (action : ActionFields) :
    Except PyError ActionFields := do
  let jetton ← jettonAddress d.asset
  pure { action with
    destination := addr d.«to»
    destination_secondary := addr d.to_jetton_wallet
    asset := addr (jetton.map .account)
    amount := d.amount.map Amount.value
    value := d.ton_amount.map Amount.value }

/-- `_fill_nominator_pool_deposit_action`. -/
def fillNominatorPoolDepositAction (d : NominatorPoolDepositData) (action : ActionFields) :
    Except PyError ActionFields := do
  let source ← asStr d.source
  let destination ← asStr d.pool
  let amount ← amountValue d.value
  pure { action with
    type := "stake_deposit"
    source := some source
    destination := some destination
    amount := some amount
    staking_data := some { provider := "nominator", ts_nft := none } }

/-- `_fill_nominator_pool_withdraw_request_action`: a withdrawal when a payout is present, a
withdrawal request otherwise. -/
def fillNominatorPoolWithdrawRequestAction (d : NominatorPoolWithdrawRequestData)
    (action : ActionFields) : Except PyError ActionFields := do
  let source ← asStr d.source
  let destination ← asStr d.pool
  pure { action with
    type := if d.payout_amount.isNone then "stake_withdrawal_request" else "stake_withdrawal"
    amount := match d.payout_amount with
      | some p => some p.value
      | none => action.amount
    staking_data := some { provider := "nominator", ts_nft := none }
    source := some source
    destination := some destination }

end TonIndexer
