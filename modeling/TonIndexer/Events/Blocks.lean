import TonIndexer.Events.Core

/-!
# The blocks the serializer dispatches on

One payload structure per block class that `block_to_action` lists, holding exactly the
entries of `block.data` (a dict, or a dataclass for the newer blocks) that the class's
normalizer reads, under the keys the normalizer reads them by. A value the normalizer may
find to be `None` is an `Option`; an entry it first tests with `"key" in block.data` is an
`Option (Option _)`, `none` when the key is missing. Values the normalizer only copies keep
the type of the column they are copied into.

`BlockData` has one constructor per class and `other` for any class the `match` does not
list; `Block` adds the attributes every block has. The classes are taken to be disjoint,
so the order of the `case` arms never decides which normalizer runs.
-/

namespace TonIndexer

/-- A payload value `_addr` accepts besides `None`: an account or an asset. -/
inductive Addressable where
  | account (a : AccountId)
  | asset (a : Asset)
  deriving DecidableEq, Repr

/-! ## Basic blocks -/

/-- `CallContractBlock` and `ContractDeployBlock`: the block's `opcode` and its payload. -/
structure CallContractData where
  opcode : Option Int
  value : Option Amount
  source : Option AccountId
  destination : Option AccountId

/-- `TonTransferBlock`: the block's `value` and its payload. -/
structure TonTransferData where
  value : Option Int
  source : Option AccountId
  destination : Option AccountId
  comment : Option String
  encrypted : Bool

/-! ## Jettons and NFTs -/

/-- `JettonTransferBlock`. -/
structure JettonTransferData where
  sender : Option AccountId
  sender_wallet : Option AccountId
  receiver : Option AccountId
  /-- Tested with `"receiver_wallet" in block.data`. -/
  receiver_wallet : Option (Option AccountId)
  amount : Option Amount
  asset : Option Asset
  comment : Option Bytes
  encrypted_comment : Bool
  query_id : Int
  response_address : Option AccountId
  forward_amount : Option Amount
  custom_payload : Option String
  forward_payload : Option String

/-- `JettonBurnBlock`. -/
structure JettonBurnData where
  owner : Option AccountId
  jetton_wallet : Option AccountId
  asset : Option Asset
  amount : Option Amount

/-- `JettonMintBlock`. -/
structure JettonMintData where
  «to» : Option Addressable
  to_jetton_wallet : Option Addressable
  asset : Option Asset
  amount : Option Amount
  ton_amount : Option Amount

/-- The `collection` dict of an NFT. -/
structure NftCollectionRef where
  address : Option AccountId

/-- The `nft` dict of an NFT transfer. -/
structure NftItemRef where
  address : Option AccountId
  collection : Option NftCollectionRef
  index : Int

/-- `NftTransferBlock`. -/
structure NftTransferData where
  /-- Tested with `"prev_owner" in block.data`. -/
  prev_owner : Option (Option AccountId)
  new_owner : Option AccountId
  nft : NftItemRef
  query_id : Int
  is_purchase : Bool
  /-- Tested with `"price" in block.data`. -/
  price : Option (Option Amount)
  forward_amount : Option Amount
  custom_payload : Option String
  forward_payload : Option String
  response_destination : Option AccountId

/-- `NftDiscoveryBlock`. -/
structure NftDiscoveryData where
  sender : Option AccountId
  nft : Option AccountId
  query_id : Int
  result_collection : Option AccountId
  result_index : Int

/-- `NftMintBlock`. -/
structure NftMintData where
  source : Option AccountId
  address : Option AccountId
  opcode : Option Int
  collection : Option AccountId
  index : Int

/-! ## Swaps and liquidity -/

/-- A `dex_incoming_transfer` or `dex_outgoing_transfer` dict of a swap. -/
structure DexTransferData where
  amount : Option Amount
  source : Option Addressable
  source_jetton_wallet : Option Addressable
  destination : Option Addressable
  destination_jetton_wallet : Option Addressable
  asset : Option Addressable

/-- `JettonSwapBlock`. -/
structure JettonSwapData where
  dex : String
  sender : Option Addressable
  dex_incoming_transfer : DexTransferData
  dex_outgoing_transfer : DexTransferData
  /-- Read only when `dex == "stonfi_v2"`, without an `in` test. -/
  source_asset : Option (Option Addressable)
  /-- Tested with `"destination_asset" in block.data`, but read without one on `stonfi_v2`. -/
  destination_asset : Option (Option Addressable)
  /-- Tested with `"destination_wallet" in block.data`. -/
  destination_wallet : Option (Option Addressable)

/-- `DexDepositLiquidityBlock`. -/
structure DexDepositLiquidityData where
  sender : Option Addressable
  pool : Option Addressable
  dex : String
  amount_1 : Option Amount
  amount_2 : Option Amount
  asset_1 : Option Addressable
  asset_2 : Option Addressable
  sender_wallet_1 : Option Addressable
  sender_wallet_2 : Option Addressable
  lp_tokens_minted : Option Amount

/-- `DexWithdrawLiquidityBlock`. -/
structure DexWithdrawLiquidityData where
  sender : Option Addressable
  sender_wallet : Option Addressable
  pool : Option Addressable
  asset : Option Addressable
  dex : String
  amount1_out : Option Amount
  amount2_out : Option Amount
  asset1_out : Option Addressable
  asset2_out : Option Addressable
  wallet1 : Option Addressable
  wallet2 : Option Addressable
  dex_jetton_wallet_1 : Option Addressable
  dex_wallet_1 : Option Addressable
  dex_wallet_2 : Option Addressable
  dex_jetton_wallet_2 : Option Addressable
  is_refund : Bool
  lp_tokens_burnt : Option Amount

/-- `DedustDepositLiquidityPartialBlock`. -/
structure DedustDepositLiquidityPartialData where
  sender : Option Addressable
  deposit_contract : Option Addressable
  dex : String
  asset_1 : Option Asset
  amount_1 : Option Amount
  asset_2 : Option Asset
  amount_2 : Option Amount
  user_jetton_wallet_1 : Option Addressable
  user_jetton_wallet_2 : Option Addressable

/-- `DedustDepositLiquidityBlock`: the partial deposit's payload with the pool and the minted
liquidity tokens. -/
structure DedustDepositLiquidityData extends DedustDepositLiquidityPartialData where
  pool_address : Option Addressable
  lp_tokens_minted : Option Amount

/-! ## DNS -/

/-- The `address` of a DNS record value: a contract address for `DNSNextResolver` and
`DNSSmcAddress`, raw ADNL bytes for `DNSAdnlAddress`. -/
inductive DnsAddress where
  | account (a : AccountId)
  | adnl (b : Bytes)

/-- The `value` dict of a DNS record change. -/
structure DnsRecordValue where
  schema : String
  address : Option DnsAddress
  flags : Option Int
  dns_text : Option String

/-- `DnsChangeRecordBlock`. -/
structure DnsChangeRecordData where
  source : Option AccountId
  destination : Option AccountId
  value : DnsRecordValue
  key : Option Bytes

/-- `DnsDeleteRecordBlock`. -/
structure DnsDeleteRecordData where
  source : Option AccountId
  destination : Option AccountId
  key : Option Bytes

/-- `DnsRenewBlock`. -/
structure DnsRenewData where
  source : Option Addressable
  destination : Option Addressable

/-! ## Staking -/

/-- `NominatorPoolDepositBlock`. -/
structure NominatorPoolDepositData where
  source : Option AccountId
  pool : Option AccountId
  value : Option Amount

/-- `NominatorPoolWithdrawRequestBlock`. -/
structure NominatorPoolWithdrawRequestData where
  source : Option AccountId
  pool : Option AccountId
  payout_amount : Option Amount

/-- `TONStakersDepositBlock`. -/
structure TonStakersDepositData where
  source : Option Addressable
  pool : Option Addressable
  value : Option Amount

/-- `TONStakersWithdrawRequestBlock`. -/
structure TonStakersWithdrawRequestData where
  source : Option Addressable
  tsTON_wallet : Option Addressable
  pool : Option Addressable
  tokens_burnt : Option Amount
  minted_nft : Option Addressable

/-- `TONStakersWithdrawBlock`. -/
structure TonStakersWithdrawData where
  stake_holder : Option Addressable
  pool : Option Addressable
  amount : Option Amount
  burnt_nft : Option Addressable

/-- `JVaultStakeBlock`. -/
structure JVaultStakeData where
  sender : Option Addressable
  stake_wallet : Option Addressable
  staking_pool : Option Addressable
  staked_amount : Option Int
  period : Int
  minted_stake_jettons : Option Int

/-- `JVaultUnstakeBlock`. -/
structure JVaultUnstakeData where
  sender : Option Addressable
  stake_wallet : Option Addressable
  staking_pool : Option Addressable
  unstaked_amount : Option Int

/-- `JVaultClaimBlock`. -/
structure JVaultClaimData where
  sender : Option Addressable
  stake_wallet : Option Addressable
  staking_pool : Option Addressable
  claimed_jettons : Option (List (Option Addressable))
  claimed_amounts : List Int

/-- `ElectionDepositStakeBlock` and `ElectionRecoverStakeBlock`. -/
structure ElectionData where
  stake_holder : Option AccountId
  /-- Tested with `"amount" in block.data`. -/
  amount : Option (Option Amount)

/-! ## Multisig, vesting, subscriptions, auctions -/

/-- `MultisigCreateOrderBlock`. -/
structure MultisigCreateOrderData where
  created_by : Option Addressable
  multisig : Option Addressable
  order_contract_address : Option Addressable
  query_id : Int
  order_seqno : Int
  is_created_by_signer : Bool
  creator_approved : Bool
  creator_index : Int
  expiration_date : Int
  order_boc_str : String

/-- `MultisigApproveBlock`. -/
structure MultisigApproveData where
  signer : Option Addressable
  order : Option Addressable
  success : Bool
  signer_index : Int
  exit_code : Int

/-- `VestingSendMessageBlock`. -/
structure VestingSendMessageData where
  sender : Option Addressable
  vesting : Option Addressable
  message_destination : Option Addressable
  message_value : Option Amount
  query_id : Int
  message_boc_str : String

/-- `VestingAddWhiteListBlock`. -/
structure VestingAddWhiteListData where
  adder : Option Addressable
  vesting : Option Addressable
  query_id : Int
  accounts_added : Option (List (Option Addressable))

/-- `SubscribeBlock`. -/
structure SubscribeData where
  subscriber : Option AccountId
  beneficiary : Option AccountId
  subscription : Option AccountId
  amount : Option Amount

/-- `UnsubscribeBlock`. -/
structure UnsubscribeData where
  subscriber : Option AccountId
  beneficiary : Option AccountId
  subscription : Option AccountId

/-- `AuctionBidBlock`. -/
structure AuctionBidData where
  bidder : Option AccountId
  auction : Option AccountId
  nft_address : Option AccountId
  nft_collection : Option Addressable
  nft_item_index : Int
  amount : Option Amount

/-! ## Blocks -/

/-- The class of a block with its payload. -/
inductive BlockData where
  | callContract (d : CallContractData)
  | contractDeploy (d : CallContractData)
  | tonTransfer (d : TonTransferData)
  | nominatorPoolDeposit (d : NominatorPoolDepositData)
  | nominatorPoolWithdrawRequest (d : NominatorPoolWithdrawRequestData)
  | dedustDepositLiquidity (d : DedustDepositLiquidityData)
  | dedustDepositLiquidityPartial (d : DedustDepositLiquidityPartialData)
  | jettonTransfer (d : JettonTransferData)
  | nftTransfer (d : NftTransferData)
  | nftDiscovery (d : NftDiscoveryData)
  | nftMint (d : NftMintData)
  | jettonBurn (d : JettonBurnData)
  | jettonMint (d : JettonMintData)
  | jettonSwap (d : JettonSwapData)
  | dnsChangeRecord (d : DnsChangeRecordData)
  | dnsDeleteRecord (d : DnsDeleteRecordData)
  | dnsRenew (d : DnsRenewData)
  | tonStakersDeposit (d : TonStakersDepositData)
  | tonStakersWithdrawRequest (d : TonStakersWithdrawRequestData)
  | tonStakersWithdraw (d : TonStakersWithdrawData)
  | subscribe (d : SubscribeData)
  | dexDepositLiquidity (d : DexDepositLiquidityData)
  | dexWithdrawLiquidity (d : DexWithdrawLiquidityData)
  | jvaultStake (d : JVaultStakeData)
  | jvaultUnstake (d : JVaultUnstakeData)
  | jvaultClaim (d : JVaultClaimData)
  | multisigCreateOrder (d : MultisigCreateOrderData)
  | multisigApprove (d : MultisigApproveData)
  | vestingSendMessage (d : VestingSendMessageData)
  | vestingAddWhiteList (d : VestingAddWhiteListData)
  | unsubscribe (d : UnsubscribeData)
  | electionDepositStake (d : ElectionData)
  | electionRecoverStake (d : ElectionData)
  | auctionBid (d : AuctionBidData)
  /-- A block class the `match` does not list. -/
  | other

/-- Modelled from the spec: `Block` of `indexer.events.blocks.core`, with the attributes
the serializer reads. -/
structure Block where
  btype : String
  event_nodes : List EventNode
  data : BlockData
  min_lt : Nat
  max_lt : Nat
  min_utime : Nat
  max_utime : Nat
  failed : Bool
  initiating_event_node : Option EventNode

end TonIndexer
