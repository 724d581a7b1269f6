import TonIndexer.Theorems.Normalization

/-!
# One type-specific payload per action, and the action's type

An `Action` has sixteen nested payload columns (`ton_transfer_data`, `jetton_swap_data`,
`staking_data`, ...). Each `_fill_*` function writes at most one of them, always the same one,
whatever the payload holds; `BlockData.payloadColumn` says which. A returned action therefore
has exactly that column set and no other.

## Main definitions

* `PayloadColumn`, `ActionFields.payloads`: the payload columns an action has set;
* `BlockData.payloadColumn`: the column the normalizer of a block class writes;
* `BlockData.actionType`, `BlockData.actionSuccess`: the type and success it writes, and
  `ColumnsOf`, the three together;
* `Returns`: a property of whatever an `Except` computation returns, with one rule for
  each of `pure`, bind and `if`.

## Main results

* `blockToAction_payloads`: the payload columns a returned action has set are exactly its
  block class's column;
* `blockToAction_typeSuccess`: its type and success are the base converter's, but for the
  classes whose normalizer sets its own (`BlockData.actionType`, `BlockData.actionSuccess`).

## Implementation notes

A normalizer reads its payload through a chain of binds and ends in a record update. The
`Returns` rules carry the property past each bind and into both branches of an `if`, whatever
the values read, down to that record, where it holds by evaluation. So one script covers every
class, and no normalizer is inverted by hand.
-/

namespace TonIndexer

/-! ## Payload columns -/

/-- The type-specific payload columns of `Action`. -/
inductive PayloadColumn where
  | ton_transfer_data
  | jetton_transfer_data
  | nft_transfer_data
  | nft_discovery_data
  | nft_mint_data
  | jetton_swap_data
  | dex_deposit_liquidity_data
  | dex_withdraw_liquidity_data
  | jvault_stake_data
  | jvault_claim_data
  | multisig_create_order_data
  | multisig_approve_data
  | vesting_send_message_data
  | vesting_add_whitelist_data
  | change_dns_record_data
  | staking_data
  deriving DecidableEq, Repr

/-- Every payload column, in the order `Action` declares them. -/
def PayloadColumn.all : List PayloadColumn :=
  [.ton_transfer_data, .jetton_transfer_data, .nft_transfer_data, .nft_discovery_data,
    .nft_mint_data, .jetton_swap_data, .dex_deposit_liquidity_data, .dex_withdraw_liquidity_data,
    .jvault_stake_data, .jvault_claim_data, .multisig_create_order_data,
    .multisig_approve_data, .vesting_send_message_data, .vesting_add_whitelist_data,
    .change_dns_record_data, .staking_data]

/-- Whether the payload column `p` of `f` is set. -/
def ActionFields.hasPayload (f : ActionFields) : PayloadColumn → Bool
  | .ton_transfer_data => f.ton_transfer_data.isSome
  | .jetton_transfer_data => f.jetton_transfer_data.isSome
  | .nft_transfer_data => f.nft_transfer_data.isSome
  | .nft_discovery_data => f.nft_discovery_data.isSome
  | .nft_mint_data => f.nft_mint_data.isSome
  | .jetton_swap_data => f.jetton_swap_data.isSome
  | .dex_deposit_liquidity_data => f.dex_deposit_liquidity_data.isSome
  | .dex_withdraw_liquidity_data => f.dex_withdraw_liquidity_data.isSome
  | .jvault_stake_data => f.jvault_stake_data.isSome
  | .jvault_claim_data => f.jvault_claim_data.isSome
  | .multisig_create_order_data => f.multisig_create_order_data.isSome
  | .multisig_approve_data => f.multisig_approve_data.isSome
  | .vesting_send_message_data => f.vesting_send_message_data.isSome
  | .vesting_add_whitelist_data => f.vesting_add_whitelist_data.isSome
  | .change_dns_record_data => f.change_dns_record_data.isSome
  | .staking_data => f.staking_data.isSome

/-- The payload columns `f` has set. -/
def ActionFields.payloads (f : ActionFields) : List PayloadColumn :=
  PayloadColumn.all.filter f.hasPayload

/-- The payload column the normalizer of a block class writes: `none` for the classes whose
`_fill_*` function writes only generic columns, and for the classes the `match` does not list.
The auction bid writes `nft_transfer_data` and the DNS deletion `change_dns_record_data`. -/
def BlockData.payloadColumn : BlockData → Option PayloadColumn
  | .tonTransfer _ => some .ton_transfer_data
  | .jettonTransfer _ => some .jetton_transfer_data
  | .nftTransfer _ | .auctionBid _ => some .nft_transfer_data
  | .nftDiscovery _ => some .nft_discovery_data
  | .nftMint _ => some .nft_mint_data
  | .jettonSwap _ => some .jetton_swap_data
  | .dexDepositLiquidity _ | .dedustDepositLiquidity _ | .dedustDepositLiquidityPartial _ =>
    some .dex_deposit_liquidity_data
  | .dexWithdrawLiquidity _ => some .dex_withdraw_liquidity_data
  | .jvaultStake _ => some .jvault_stake_data
  | .jvaultClaim _ => some .jvault_claim_data
  | .multisigCreateOrder _ => some .multisig_create_order_data
  | .multisigApprove _ => some .multisig_approve_data
  | .vestingSendMessage _ => some .vesting_send_message_data
  | .vestingAddWhiteList _ => some .vesting_add_whitelist_data
  | .dnsChangeRecord _ | .dnsDeleteRecord _ => some .change_dns_record_data
  | .nominatorPoolDeposit _ | .nominatorPoolWithdrawRequest _ | .tonStakersDeposit _
  | .tonStakersWithdrawRequest _ | .tonStakersWithdraw _ => some .staking_data
  | .callContract _ | .contractDeploy _ | .jettonBurn _ | .jettonMint _ | .dnsRenew _
  | .subscribe _ | .unsubscribe _ | .jvaultUnstake _ | .electionDepositStake _
  | .electionRecoverStake _ | .other => none

/-! ## What a computation returns -/

/-- `P` holds of whatever `x` returns; a raising `x` satisfies every `P`. -/
def Returns {α : Type} (x : Except PyError α) (P : α → Prop) : Prop :=
  ∀ a, x = .ok a → P a

section Returns

variable {α β : Type} {x : Except PyError α} {P : β → Prop}

theorem Returns.of_ok {b : β} (h : P b) : Returns (.ok b) P := by
  rintro a ⟨⟩
  exact h

theorem Returns.bind {g : α → Except PyError β} (h : ∀ a, Returns (g a) P) :
    Returns (x >>= g) P := fun b hb => by
  obtain ⟨a, -, hg⟩ := except_bind_eq_ok.mp hb
  exact h a b hg

theorem Returns.ite {c : Prop} [Decidable c] {y z : Except PyError β} (hy : Returns y P)
    (hz : Returns z P) : Returns (if c then y else z) P := by
  split_ifs
  exacts [hy, hz]

end Returns

/-! ## Type and success -/

/-- The `type` of the action of a block class: the block's own type, but for the classes whose
`_fill_*` function overrides it. -/
def BlockData.actionType (btype : String) : BlockData → String
  | .nominatorPoolDeposit _ | .tonStakersDeposit _ => "stake_deposit"
  | .nominatorPoolWithdrawRequest d =>
    if d.payout_amount.isNone then "stake_withdrawal_request" else "stake_withdrawal"
  | .tonStakersWithdrawRequest _ => "stake_withdrawal_request"
  | .tonStakersWithdraw _ => "stake_withdrawal"
  | .dedustDepositLiquidity _ | .dedustDepositLiquidityPartial _ => "dex_deposit_liquidity"
  | _ => btype

/-- The `success` of the action of a block class: the base converter's, but the approval's own
flag for a multisig approval. -/
def BlockData.actionSuccess (success : Bool) : BlockData → Bool
  | .multisigApprove d => d.success
  | _ => success

/-- The columns every normalizer writes the same way whatever it reads: the payload columns,
`type` and `success`. -/
def ColumnsOf (data : BlockData) (ty : String) (s : Bool) (r : ActionFields) : Prop :=
  r.payloads = data.payloadColumn.toList ∧ r.type = data.actionType ty ∧
    r.success = data.actionSuccess s

/-! ## What the normalizers write -/

/-- Every normalizer, run on the base columns, sets exactly its class's payload column, and the
type and success of its class. -/
theorem normalizer_columns {b : Block} {fill : ActionFields → Except PyError ActionFields}
    (hn : normalizer b = some fill) (ty : String) (s : Bool) :
    Returns (fill (.init ty s)) (ColumnsOf b.data ty s) := by
  rcases b with ⟨_, nodes, data, _⟩
  cases data <;> simp only [normalizer, Option.some.injEq, reduceCtorEq] at hn <;> subst hn <;>
    dsimp only [fillCallContractAction, fillTonTransferAction, fillNominatorPoolDepositAction,
      fillNominatorPoolWithdrawRequestAction, fillDedustDepositLiquidityAction,
      fillDedustDepositLiquidityPartialAction, fillJettonTransferAction, fillNftTransferAction,
      fillNftDiscoveryAction, fillNftMintAction, fillJettonBurnAction, fillJettonMintAction,
      fillJettonSwapAction, fillChangeDnsRecordAction, fillDeleteDnsRecordAction,
      fillDnsRenewAction, fillTonstakersDepositAction, fillTonstakersWithdrawRequestAction,
      fillTonstakersWithdrawAction, fillSubscribeAction, fillDexDepositLiquidity,
      fillDexWithdrawLiquidity, fillJVaultStake, fillJVaultUnstake, fillJVaultClaim,
      fillMultisigCreateOrder, fillMultisigApprove, fillVestingSendMessage,
      fillVestingAddWhitelist, fillUnsubscribeAction, fillElectionAction, fillAuctionBidAction] <;>
    repeat' first
      | exact Returns.of_ok ⟨rfl, rfl, rfl⟩
      | refine Returns.bind fun _ => ?_
      | refine Returns.ite ?_ ?_

/-- The dispatcher, run on the base columns, writes the columns of the block's class; the
fallback leaves the base record, which has no payload. -/
theorem dispatch_columns {b : Block} {t ty : String} {s : Bool}
    {r : ActionFields × List LogRecord} (h : dispatch b t (.init ty s) = .ok r) :
    ColumnsOf b.data ty s r.1 := by
  unfold dispatch at h
  rcases hn : normalizer b with _ | fill <;> rw [hn] at h
  · cases h
    rw [(normalizer_eq_none_iff b).mp hn]
    exact ⟨rfl, rfl, rfl⟩
  · obtain ⟨r, hr, rfl⟩ := except_map_eq_ok.mp h
    exact normalizer_columns hn _ _ r hr

/-- The payload columns a returned action has set are exactly its block class's column: at
most one, and none for the classes that write only generic columns or are not listed. -/
theorem blockToAction_payloads {b : Block} {t : String} {A : Action} {log : List LogRecord}
    (h : blockToAction b t = .ok (A, log)) : A.fields.payloads = b.data.payloadColumn.toList := by
  obtain ⟨filled, hf, hA, -⟩ := blockToAction_fields h
  rw [hA]
  exact (dispatch_columns hf).1

/-- A withdrawal from `A` out of pool `P`, with the given payout. -/
def poolWithdraw (payout : Option Amount) : Block :=
  oneNodeBlock "nominator_pool_withdraw"
    (.nominatorPoolWithdrawRequest { source := some ⟨"A"⟩, pool := some ⟨"P"⟩, payout_amount := payout })

theorem poolWithdraw_payloads :
    ∃ A log, blockToAction (poolWithdraw none) "t" = .ok (A, log) ∧
      A.fields.payloads = [.staking_data] := by
  obtain ⟨A, log, h, -⟩ := blockToAction_ok (poolWithdraw none) "t" (by decide) rfl rfl rfl
  exact ⟨A, log, h, blockToAction_payloads h⟩

/-- A returned action's type is the block's type, but for the staking and DeDust deposit
classes that set their own; its success is the block's, but for a multisig approval, which
reports the approval's own flag. -/
theorem blockToAction_typeSuccess {b : Block} {t : String} {A : Action} {log : List LogRecord}
    (h : blockToAction b t = .ok (A, log)) :
    A.fields.type = b.data.actionType b.btype ∧ A.fields.success = b.data.actionSuccess !b.failed := by
  obtain ⟨filled, hf, hA, -⟩ := blockToAction_fields h
  rw [hA]
  exact (dispatch_columns hf).2

theorem poolWithdraw_typeSuccess :
    ∃ A log, blockToAction (poolWithdraw (some ⟨7⟩)) "t" = .ok (A, log) ∧
      A.fields.type = "stake_withdrawal" ∧ A.fields.success = true := by
  obtain ⟨A, log, h, -⟩ :=
    blockToAction_ok (poolWithdraw (some ⟨7⟩)) "t" (by decide) rfl rfl rfl
  exact ⟨A, log, h, blockToAction_typeSuccess h⟩

end TonIndexer
