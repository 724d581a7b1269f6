import TonIndexer.Python.Basic

/-!
# The `Action` record

`Action` is the row `block_to_action` returns, with the columns the serializer writes. Its
type-specific payloads are dicts in the source; each is a structure here, with the keys the
normalizers write. `nft_transfer_data` is written with all its keys by NFT transfers and with
`nft_item_index` alone by auction bids, so its other keys are `Option`s.

The columns split in two. The base converter fills the trace id, the action id, the hash
and account lists and the time bounds, and the assembler completes them; no normalizer
touches those. A normalizer writes only `ActionFields`: the type, the success flag, the
generic address and amount columns and the payloads. Giving the normalizers the type
`ActionFields → Except PyError ActionFields` says this once, for all of them.
-/

namespace TonIndexer

/-! ## Payloads -/

/-- `ton_transfer_data`. -/
structure TonTransferDetails where
  content : Option String
  encrypted : Bool
  deriving DecidableEq, Repr

/-- `jetton_transfer_data`. -/
structure JettonTransferDetails where
  query_id : Int
  response_destination : Option String
  forward_amount : Int
  custom_payload : Option String
  forward_payload : Option String
  comment : Option String
  is_encrypted_comment : Bool
  deriving DecidableEq, Repr

/-- `nft_transfer_data`. -/
structure NftTransferDetails where
  query_id : Option Int
  is_purchase : Option Bool
  price : Option Int
  nft_item_index : Int
  forward_amount : Option Int
  custom_payload : Option String
  forward_payload : Option String
  response_destination : Option String
  deriving DecidableEq, Repr

/-- `nft_discovery_data`. -/
structure NftDiscoveryDetails where
  query_id : Int
  collection_address : String
  nft_item_index : Int
  deriving DecidableEq, Repr

/-- `nft_mint_data`. -/
structure NftMintDetails where
  nft_item_index : Int
  deriving DecidableEq, Repr

/-- `dex_incoming_transfer` and `dex_outgoing_transfer` of `jetton_swap_data`. -/
structure DexTransferDetails where
  amount : Int
  source : Option String
  source_jetton_wallet : Option String
  destination : Option String
  destination_jetton_wallet : Option String
  asset : Option String
  deriving DecidableEq, Repr

/-- `jetton_swap_data`. -/
structure JettonSwapDetails where
  dex : String
  sender : Option String
  dex_incoming_transfer : DexTransferDetails
  dex_outgoing_transfer : DexTransferDetails
  deriving DecidableEq, Repr

/-- `dex_deposit_liquidity_data`. -/
structure DexDepositLiquidityDetails where
  dex : String
  amount1 : Option Int
  amount2 : Option Int
  asset1 : Option String
  asset2 : Option String
  user_jetton_wallet_1 : Option String
  user_jetton_wallet_2 : Option String
  lp_tokens_minted : Option Int
  deriving DecidableEq, Repr

/-- `dex_withdraw_liquidity_data`. -/
structure DexWithdrawLiquidityDetails where
  dex : String
  amount_1 : Option Int
  amount_2 : Option Int
  asset_out_1 : Option String
  asset_out_2 : Option String
  user_jetton_wallet_1 : Option String
  user_jetton_wallet_2 : Option String
  dex_jetton_wallet_1 : Option String
  dex_wallet_1 : Option String
  dex_wallet_2 : Option String
  dex_jetton_wallet_2 : Option String
  is_refund : Bool
  lp_tokens_burnt : Option Int
  deriving DecidableEq, Repr

/-- `jvault_stake_data`. -/
structure JVaultStakeDetails where
  period : Int
  minted_stake_jettons : Option Int
  deriving DecidableEq, Repr

/-- `jvault_claim_data`. -/
structure JVaultClaimDetails where
  claimed_jettons : List (Option String)
  claimed_amounts : List Int
  deriving DecidableEq, Repr

/-- `multisig_create_order_data`. -/
structure MultisigCreateOrderDetails where
  query_id : Int
  order_seqno : Int
  is_created_by_signer : Bool
  is_signed_by_creator : Bool
  creator_index : Int
  expiration_date : Int
  order_boc : String
  deriving DecidableEq, Repr

/-- `multisig_approve_data`. -/
structure MultisigApproveDetails where
  signer_index : Int
  exit_code : Int
  deriving DecidableEq, Repr

/-- `vesting_send_message_data`. -/
structure VestingSendMessageDetails where
  query_id : Int
  message_boc : String
  deriving DecidableEq, Repr

/-- `vesting_add_whitelist_data`. -/
structure VestingAddWhitelistDetails where
  query_id : Int
  accounts_added : List (Option String)
  deriving DecidableEq, Repr

/-- `change_dns_record_data`; `dns_text` is a key only `DNSText` records get. -/
structure ChangeDnsRecordDetails where
  value_schema : Option String
  flags : Option Int
  address : Option String
  key : String
  dns_text : Option String
  deriving DecidableEq, Repr

/-- `staking_data`; `ts_nft` is a key only TON Stakers withdrawals get. -/
structure StakingDetails where
  provider : String
  ts_nft : Option String
  deriving DecidableEq, Repr

/-! ## The record -/

/-- The columns a variant normalizer may write. -/
structure ActionFields where
  type : String
  success : Bool
  opcode : Option Int
  value : Option Int
  amount : Option Int
  source : Option String
  source_secondary : Option String
  destination : Option String
  destination_secondary : Option String
  asset : Option String
  asset_secondary : Option String
  asset2 : Option String
  ton_transfer_data : Option TonTransferDetails
  jetton_transfer_data : Option JettonTransferDetails
  nft_transfer_data : Option NftTransferDetails
  nft_discovery_data : Option NftDiscoveryDetails
  nft_mint_data : Option NftMintDetails
  jetton_swap_data : Option JettonSwapDetails
  dex_deposit_liquidity_data : Option DexDepositLiquidityDetails
  dex_withdraw_liquidity_data : Option DexWithdrawLiquidityDetails
  jvault_stake_data : Option JVaultStakeDetails
  jvault_claim_data : Option JVaultClaimDetails
  multisig_create_order_data : Option MultisigCreateOrderDetails
  multisig_approve_data : Option MultisigApproveDetails
  vesting_send_message_data : Option VestingSendMessageDetails
  vesting_add_whitelist_data : Option VestingAddWhitelistDetails
  change_dns_record_data : Option ChangeDnsRecordDetails
  staking_data : Option StakingDetails
  deriving DecidableEq, Repr

/-- `Action(type=..., success=...)`: every other column `None`. -/
@[simps] def ActionFields.init (type : String) (success : Bool) : ActionFields where
  type := type
  success := success
  opcode := none
  value := none
  amount := none
  source := none
  source_secondary := none
  destination := none
  destination_secondary := none
  asset := none
  asset_secondary := none
  asset2 := none
  ton_transfer_data := none
  jetton_transfer_data := none
  nft_transfer_data := none
  nft_discovery_data := none
  nft_mint_data := none
  jetton_swap_data := none
  dex_deposit_liquidity_data := none
  dex_withdraw_liquidity_data := none
  jvault_stake_data := none
  jvault_claim_data := none
  multisig_create_order_data := none
  multisig_approve_data := none
  vesting_send_message_data := none
  vesting_add_whitelist_data := none
  change_dns_record_data := none
  staking_data := none

/-- `indexer.core.database.Action`, with the columns the serializer writes. A hash list holds
`None` for a node whose message was never executed; an account list holds `None` until the
assembler strips it. -/
structure Action where
  trace_id : String
  action_id : String
  tx_hashes : List (Option String)
  start_lt : Nat
  end_lt : Nat
  start_utime : Nat
  end_utime : Nat
  accounts : List (Option String)
  /-- Unset (empty) until the assembler fills it. -/
  extended_tx_hashes : List (Option String)
  fields : ActionFields
  deriving DecidableEq, Repr

end TonIndexer
