import TonIndexer.Serializer.Normalizers

/-!
# `block_to_action`

The dispatcher and the assembler. `normalizer` is the `match block:` statement, with `none`
for the `case _:` arm; `dispatch` runs the chosen normalizer on the base columns, or logs
the unknown type. The assembler then appends the four generic address columns to the
accounts, adds the initiating node's hash (and, for a node that is not tick-tock, its
account, with a diagnostic when the account is new), and strips `None` from the accounts
and deduplicates them.

`blockToAction` returns the action together with what it logged. The log is the spec's
diagnostics sink: `logger.warning` for an unknown type and `logging.info` for an initiating
account the action did not have.
-/

namespace TonIndexer

/-- A diagnostic the serializer logs. -/
inductive LogRecord where
  /-- `logger.warning(msg)`. -/
  | warning (msg : String)
  /-- `logging.info(msg)`. -/
  | info (msg : String)
  deriving DecidableEq, Repr

/-- `str(x)` of an optional string, as an f-string formats it. -/
def pyStr : Option String → String
  | some s => s
  | none => "None"

/-- The `match block:` of `block_to_action`: the normalizer of the block's class, `none` for
a class the match does not list. -/
def normalizer (block : Block) : Option (ActionFields → Except PyError ActionFields) :=
  match block.data with
  | .callContract d => some (fillCallContractAction d)
  | .contractDeploy d => some (fillCallContractAction d)
  | .tonTransfer d => some (fillTonTransferAction d block.event_nodes)
  | .nominatorPoolDeposit d => some (fillNominatorPoolDepositAction d)
  | .nominatorPoolWithdrawRequest d => some (fillNominatorPoolWithdrawRequestAction d)
  | .dedustDepositLiquidity d => some (fillDedustDepositLiquidityAction d)
  | .dedustDepositLiquidityPartial d => some (fillDedustDepositLiquidityPartialAction d)
  | .jettonTransfer d => some (fillJettonTransferAction d)
  | .nftTransfer d => some (fillNftTransferAction d)
  | .nftDiscovery d => some (fillNftDiscoveryAction d)
  | .nftMint d => some (fillNftMintAction d)
  | .jettonBurn d => some (fillJettonBurnAction d)
  | .jettonMint d => some (fillJettonMintAction d)
  | .jettonSwap d => some (fillJettonSwapAction d)
  | .dnsChangeRecord d => some (fillChangeDnsRecordAction d)
  | .dnsDeleteRecord d => some (fillDeleteDnsRecordAction d)
  | .dnsRenew d => some (fillDnsRenewAction d)
  | .tonStakersDeposit d => some (fillTonstakersDepositAction d)
  | .tonStakersWithdrawRequest d => some (fillTonstakersWithdrawRequestAction d)
  | .tonStakersWithdraw d => some (fillTonstakersWithdrawAction d)
  | .subscribe d => some (fillSubscribeAction d)
  | .dexDepositLiquidity d => some (fillDexDepositLiquidity d)
  | .dexWithdrawLiquidity d => some (fillDexWithdrawLiquidity d)
  | .jvaultStake d => some (fillJVaultStake d)
  | .jvaultUnstake d => some (fillJVaultUnstake d)
  | .jvaultClaim d => some (fillJVaultClaim d)
  | .multisigCreateOrder d => some (fillMultisigCreateOrder d)
  | .multisigApprove d => some (fillMultisigApprove d)
  | .vestingSendMessage d => some (fillVestingSendMessage d)
  | .vestingAddWhiteList d => some (fillVestingAddWhitelist d)
  | .unsubscribe d => some (fillUnsubscribeAction d)
  | .electionDepositStake d => some (fillElectionAction d)
  | .electionRecoverStake d => some (fillElectionAction d)
  | .auctionBid d => some (fillAuctionBidAction d)
  | .other => none

/-- The warning `case _:` logs. -/
def unknownBlockWarning (btype trace_id : String) : LogRecord :=
  .warning ("Unknown block type " ++ btype ++ " for trace " ++ trace_id)

/-- Run the block's normalizer on the base columns, or log the unknown type. -/
def dispatch (block : Block) (trace_id : String) (fields : ActionFields) :
    Except PyError (ActionFields × List LogRecord) :=
  match normalizer block with
  | some fill => (·, []) <$> fill fields
  | none => pure (fields, [unknownBlockWarning block.btype trace_id])

/-- The diagnostic for an initiating account the action did not have. -/
def initiatingAccountInfo (n : EventNode) (trace_id action_id : String) : LogRecord :=
  .info ("Initiating transaction (" ++ pyStr n.get_tx_hash ++
    ") account not in accounts. Trace id: " ++ trace_id ++ ". Action id: " ++ action_id)

/-- The initiating node's account step: for a node that is not tick-tock, its account is
appended (raising on an unexecuted message), with a diagnostic when it is new. -/
def addInitiatingAccount (trace_id action_id : String) (accounts : List (Option String)) :
    Option EventNode → Except PyError (List (Option String) × List LogRecord)
  | some n =>
    if n.is_tick_tock then pure (accounts, [])
    else do
      let acc ← n.account
      let log := if some acc ∈ accounts then [] else [initiatingAccountInfo n trace_id action_id]
      pure (accounts ++ [some acc], log)
  | none => pure (accounts, [])

/-- `block_to_action(block, trace_id)`, with what it logs. -/
def blockToAction (block : Block) (trace_id : String) :
    Except PyError (Action × List LogRecord) := do
  let action ← baseBlockToAction block trace_id
  let filled ← dispatch block trace_id action.fields
  let fields := filled.1
  let accounts := action.accounts ++
    [fields.source, fields.source_secondary, fields.destination, fields.destination_secondary]
  let extended_tx_hashes := action.tx_hashes ++
    (block.initiating_event_node.map fun n => some (n.get_tx_hash.getD "")).toList
  let initiated ←
    addInitiatingAccount trace_id action.action_id accounts block.initiating_event_node
  pure
    ({ action with
        fields := fields
        extended_tx_hashes := listSet extended_tx_hashes
        accounts := listSet (initiated.1.filter Option.isSome) },
     filled.2 ++ initiated.2)

end TonIndexer
