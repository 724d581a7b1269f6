import TonIndexer.Python.Utf8Errors
import TonIndexer.Theorems.Normalization
import TonIndexer.Theorems.Raises

/-!
# Which exception `block_to_action` raises, and why

When `block_to_action` raises, the exception says what was wrong with the block. A
`ValueError` comes from `min` over no event nodes, and only from there. Every other exception
is an `AttributeError` on `None`, for one of the attributes the serializer reads, or one of
four exceptions a single block class can raise for a reason of its own: a DNS record whose
address is not of its schema's kind, a `stonfi_v2` swap without an asset key, a `None` list of
claimed jettons or added accounts, and an unencrypted jetton comment that is not UTF-8. In
particular `block_to_action` never raises `IndexError`: the diagnostic `print` of a TON
transfer without destination reads `block.event_nodes[0]` only after `min` has found a node.

## Main definitions

* `RaisesOnly x E`: every exception `x` raises satisfies `E`, with one rule for each of `pure`,
  bind, map and `if`, and one for each read that can raise;
* `BlockData.MayRaise`: the exceptions a block of each class can raise once it has nodes.

## Main results

* `normalizer_raisesOnly`: every normalizer raises only what its class may raise;
* `blockToAction_raises`: `block_to_action` raises `ValueError` on a block without event
  nodes, and otherwise only what the block's class may raise;
* `blockToAction_unicodeError`: a `UnicodeDecodeError` names the first byte at which a plain
  jetton comment stops being UTF-8.
-/

namespace TonIndexer

/-! ## What a computation raises -/

/-- Every exception `x` raises satisfies `E`; a returning `x` satisfies every `E`. -/
def RaisesOnly {α : Type} (x : Except PyError α) (E : PyError → Prop) : Prop :=
  ∀ e, x = .error e → E e

section RaisesOnly

variable {α β : Type} {E : PyError → Prop}

theorem RaisesOnly.of_ok {a : α} : RaisesOnly (.ok a) E := by
  rintro e ⟨⟩

theorem RaisesOnly.mono {x : Except PyError α} {E' : PyError → Prop} (hx : RaisesOnly x E')
    (h : ∀ e, E' e → E e) : RaisesOnly x E := fun e he => h e (hx e he)

/-- A bind raises what its first step raises, or what its second raises after the first
returned. -/
theorem RaisesOnly.bind {x : Except PyError α} {g : α → Except PyError β} (hx : RaisesOnly x E)
    (hg : ∀ a, x = .ok a → RaisesOnly (g a) E) : RaisesOnly (x >>= g) E := by
  intro e he
  rcases hxa : x with e' | a <;> rw [hxa] at he
  · cases he
    exact hx e hxa
  · exact hg a hxa e he

theorem RaisesOnly.map {x : Except PyError α} {f : α → β} (hx : RaisesOnly x E) :
    RaisesOnly (f <$> x) E := by
  intro e he
  rcases hxa : x with e' | a <;> rw [hxa] at he
  · cases he
    exact hx e hxa
  · cases he

theorem RaisesOnly.ite {c : Prop} [Decidable c] {y z : Except PyError α}
    (hy : c → RaisesOnly y E) (hz : ¬c → RaisesOnly z E) : RaisesOnly (if c then y else z) E := by
  split_ifs with hc
  exacts [hy hc, hz hc]

/-! ### The reads that raise -/

theorem RaisesOnly.getAttr {γ : Type} {attr : String} {f : γ → α} {o : Option γ}
    (h : o = none → E (noneAttr attr)) : RaisesOnly (getAttr attr f o) E := by
  rintro e he
  cases o
  · cases he
    exact h rfl
  · cases he

theorem RaisesOnly.getItem {key : String} {o : Option (Option α)}
    (h : o = none → E (.keyError key)) : RaisesOnly (getItem key o) E := by
  rintro e he
  cases o
  · cases he
    exact h rfl
  · cases he

theorem RaisesOnly.mapAddr {o : Option (List (Option Addressable))}
    (h : o = none → E (.typeError "NoneType")) : RaisesOnly (mapAddr o) E := by
  rintro e he
  cases o
  · cases he
    exact h rfl
  · cases he

theorem RaisesOnly.dnsAddressAsStr {a : Option DnsAddress}
    (hadnl : ∀ b, a = some (.adnl b) → E (.attributeError "bytes" "as_str"))
    (hnone : a = none → E (noneAttr "as_str")) : RaisesOnly (dnsAddressAsStr a) E := by
  rintro e he
  rcases a with _ | _ | b
  · cases he
    exact hnone rfl
  · cases he
  · cases he
    exact hadnl b rfl

theorem RaisesOnly.dnsAddressHex {a : Option DnsAddress}
    (hacc : ∀ b, a = some (.account b) → E (.attributeError "AccountId" "hex"))
    (hnone : a = none → E (noneAttr "hex")) : RaisesOnly (dnsAddressHex a) E := by
  rintro e he
  rcases a with _ | b | _
  · cases he
    exact hnone rfl
  · cases he
    exact hacc b rfl
  · cases he

/-- The diagnostic `print` raises on a first node that is tick-tock, and on no nodes. -/
theorem RaisesOnly.firstMessageTraceId {nodes : List EventNode} (hnil : nodes = [] → E .indexError)
    (htt : E (noneAttr "trace_id")) : RaisesOnly (firstMessageTraceId nodes) E := by
  rintro e he
  rcases nodes with _ | ⟨_ | _, _⟩
  · cases he
    exact hnil rfl
  · cases he
    exact htt
  · cases he

/-- The comment of a jetton transfer raises only in the plain branch, what decoding raises. -/
theorem RaisesOnly.jettonComment {c : Option Bytes} {enc : Bool}
    (h : ∀ e c', c = some c' → enc = false → decodeUtf8 c' = .error e → E e) :
    RaisesOnly (jettonComment c enc) E := by
  rintro e he
  rcases c with _ | c'
  · cases he
  cases enc
  · rcases hd : decodeUtf8 c' with e' | s <;>
      simp only [TonIndexer.jettonComment, Bool.false_eq_true, if_false, hd, except_map_error,
        except_map_ok, reduceCtorEq, Except.error.injEq] at he
    exact h e c' rfl rfl (he ▸ hd)
  · simp [TonIndexer.jettonComment, decodeUtf8_b64encode] at he

end RaisesOnly

/-! ## What each block class may raise -/

/-- The attributes the serializer reads of a value that may be `None`. -/
def readAttrs : List String := ["account", "as_str", "value", "jetton_address", "hex", "trace_id"]

/-- The exceptions only one block class raises, each for a reason of that class. -/
def BlockData.ownErrors : BlockData → PyError → Prop
  | .dnsChangeRecord d, e =>
    d.value.addressFits = false ∧
      (e = .attributeError "bytes" "as_str" ∨ e = .attributeError "AccountId" "hex")
  | .jettonSwap d, e =>
    d.dex = "stonfi_v2" ∧ (e = .keyError "source_asset" ∧ d.source_asset = none ∨
      e = .keyError "destination_asset" ∧ d.destination_asset = none)
  | .jvaultClaim d, e => e = .typeError "NoneType" ∧ d.claimed_jettons = none
  | .vestingAddWhiteList d, e => e = .typeError "NoneType" ∧ d.accounts_added = none
  | .jettonTransfer d, e =>
    d.encrypted_comment = false ∧ ∃ c, d.comment = some c ∧ decodeUtf8 c = .error e
  | _, _ => False

/-- What a block with event nodes may raise: an `AttributeError` on `None` for an attribute
the serializer reads, or an exception of its own class. -/
def BlockData.MayRaise (data : BlockData) (e : PyError) : Prop :=
  (∃ attr ∈ readAttrs, e = noneAttr attr) ∨ data.ownErrors e

/-- An `AttributeError` on `None` for an attribute the serializer reads. -/
theorem BlockData.mayRaise_noneAttr (data : BlockData) {attr : String} (h : attr ∈ readAttrs) :
    data.MayRaise (noneAttr attr) :=
  .inl ⟨attr, h, rfl⟩

/-! ## The normalizers -/

/-- Every normalizer, run on a block with nodes, raises only what the block's class may. -/
theorem normalizer_raisesOnly {b : Block} {fill : ActionFields → Except PyError ActionFields}
    (hn : normalizer b = some fill) (hnodes : b.event_nodes ≠ []) (f : ActionFields) :
    RaisesOnly (fill f) b.data.MayRaise := by
  rcases b with ⟨_, nodes, data, _⟩
  cases data <;> simp only [normalizer, Option.some.injEq, reduceCtorEq] at hn <;> subst hn <;>
    dsimp only [fillCallContractAction, fillTonTransferAction, fillNominatorPoolDepositAction,
      fillNominatorPoolWithdrawRequestAction, fillDedustDepositLiquidityAction,
      fillDedustDepositLiquidityPartialAction, fillJettonTransferAction, fillNftTransferAction,
      fillNftDiscoveryAction, fillNftMintAction, fillJettonBurnAction, fillJettonMintAction,
      fillJettonSwapAction, fillChangeDnsRecordAction, fillDeleteDnsRecordAction,
      fillDnsRenewAction, fillTonstakersDepositAction, fillTonstakersWithdrawRequestAction,
      fillTonstakersWithdrawAction, fillSubscribeAction, fillDexDepositLiquidity,
      fillDexWithdrawLiquidity, fillJVaultStake, fillJVaultUnstake, fillJVaultClaim,
      fillMultisigCreateOrder, fillMultisigApprove, fillVestingSendMessage,
      fillVestingAddWhitelist, fillUnsubscribeAction, fillElectionAction, fillAuctionBidAction,
      dexTransfer, dedustDepositDetails] <;>
    repeat' first
      | exact RaisesOnly.of_ok
      | exact RaisesOnly.getAttr fun _ => BlockData.mayRaise_noneAttr _ (by decide)
      | refine RaisesOnly.bind ?_ fun _ _ => ?_
      | refine RaisesOnly.map ?_
      | refine RaisesOnly.ite (fun _ => ?_) fun _ => ?_
      | exact RaisesOnly.firstMessageTraceId (absurd · hnodes)
          (BlockData.mayRaise_noneAttr _ (by decide))
      | refine RaisesOnly.getItem fun _ => ?_
      | refine RaisesOnly.mapAddr fun _ => ?_
      | refine RaisesOnly.dnsAddressAsStr (fun _ _ => ?_) fun _ => ?_
      | refine RaisesOnly.dnsAddressHex (fun _ _ => ?_) fun _ => ?_
      | refine RaisesOnly.jettonComment fun _ _ _ _ _ => ?_
      | split
  all_goals simp_all [BlockData.MayRaise, BlockData.ownErrors, readAttrs, noneAttr,
    DnsRecordValue.addressFits]

/-- The dispatcher, run on a block with nodes, raises only what the block's class may. -/
theorem dispatch_raisesOnly {b : Block} (t : String) (f : ActionFields)
    (hnodes : b.event_nodes ≠ []) : RaisesOnly (dispatch b t f) b.data.MayRaise := by
  unfold dispatch
  split
  · next fill hn => exact (normalizer_raisesOnly hn hnodes f).map
  · exact RaisesOnly.of_ok

/-! ## The base converter and the assembler -/

/-- The action id raises `ValueError` on no nodes, and nothing otherwise. -/
theorem calcActionId_raisesOnly (b : Block) :
    RaisesOnly (calcActionId b) fun e => b.event_nodes = [] ∧ e = .valueError := by
  rintro e he
  rcases hn : b.event_nodes with _ | ⟨n, ns⟩ <;>
    simp [calcActionId, hn, rootEventNode, decodeUtf8_b64encode] at he
  exact ⟨rfl, he.symm⟩

/-- The base converter raises `ValueError` on no nodes, and otherwise only on a node without an
account. -/
theorem baseBlockToAction_raisesOnly (b : Block) (t : String) :
    RaisesOnly (baseBlockToAction b t) fun e =>
      (b.event_nodes = [] ∧ e = .valueError) ∨ (b.event_nodes ≠ [] ∧ e = noneAttr "account") := by
  refine RaisesOnly.bind ((calcActionId_raisesOnly b).mono fun _ => .inl) fun id hid => ?_
  refine RaisesOnly.bind ?_ fun _ _ => RaisesOnly.of_ok
  rw [mapM_account]
  split_ifs
  · exact RaisesOnly.of_ok
  · rintro e ⟨⟩
    exact .inr ⟨calcActionId_ne_nil hid, rfl⟩

/-- The initiating step raises only on an initiating message that was never executed. -/
theorem addInitiatingAccount_raisesOnly (t id : String) (accs : List (Option String))
    (init : Option EventNode) :
    RaisesOnly (addInitiatingAccount t id accs init) fun e => e = noneAttr "account" := by
  rintro e he
  rcases init with _ | (_ | ⟨_, _, _ | _⟩) <;>
    simp [addInitiatingAccount, EventNode.is_tick_tock, EventNode.account] at he
  exact he.symm

/-- The assembler raises `ValueError` on no nodes, and otherwise only what the class may. -/
theorem blockToAction_raisesOnly (b : Block) (t : String) :
    RaisesOnly (blockToAction b t) fun e =>
      (b.event_nodes = [] ∧ e = .valueError) ∨ (b.event_nodes ≠ [] ∧ b.data.MayRaise e) := by
  refine RaisesOnly.bind ((baseBlockToAction_raisesOnly b t).mono fun e he => ?_) fun base hb => ?_
  · rcases he with he | ⟨hn, rfl⟩
    exacts [.inl he, .inr ⟨hn, b.data.mayRaise_noneAttr (by decide)⟩]
  obtain ⟨id, hid, -, -⟩ := baseBlockToAction_eq_ok.mp hb
  have hnodes := calcActionId_ne_nil hid
  refine RaisesOnly.bind ((dispatch_raisesOnly t _ hnodes).mono fun e he => .inr ⟨hnodes, he⟩)
    fun filled _ => ?_
  refine RaisesOnly.bind ((addInitiatingAccount_raisesOnly _ _ _ _).mono fun e he => ?_)
    fun _ _ => RaisesOnly.of_ok
  exact .inr ⟨hnodes, he ▸ b.data.mayRaise_noneAttr (by decide)⟩

/-- `block_to_action` raises `ValueError` on a block without event nodes, and on a block with
nodes only what its class may raise: an `AttributeError` on `None` for one of the attributes
the serializer reads, or the exception of its own class. -/
theorem blockToAction_raises {b : Block} {t : String} {e : PyError}
    (h : blockToAction b t = .error e) :
    (b.event_nodes = [] ∧ e = .valueError) ∨ (b.event_nodes ≠ [] ∧ b.data.MayRaise e) :=
  blockToAction_raisesOnly b t e h

/-- A `stonfi_v2` swap of 10 of `J1` from `A` for 20 of `J2`, ending at `X` and `XW`, whose
payload has no source asset key. -/
def stonfiSwap : Block :=
  oneNodeBlock "jetton_swap" (.jettonSwap
    { dex := "stonfi_v2"
      sender := some (.account ⟨"A"⟩)
      dex_incoming_transfer := ⟨some ⟨10⟩, some (.account ⟨"A"⟩), none, none, none,
        some (.asset ⟨false, some ⟨"J1"⟩⟩)⟩
      dex_outgoing_transfer := ⟨some ⟨20⟩, none, none, some (.account ⟨"A"⟩),
        some (.account ⟨"AW"⟩), some (.asset ⟨false, some ⟨"J2"⟩⟩)⟩
      source_asset := none
      destination_asset := some (some (.account ⟨"X"⟩))
      destination_wallet := some (some (.account ⟨"XW"⟩)) })

theorem stonfiSwap_raises :
    blockToAction stonfiSwap "t" = .error (.keyError "source_asset") ∧
      stonfiSwap.event_nodes ≠ [] ∧ stonfiSwap.data.MayRaise (.keyError "source_asset") := by
  have h : blockToAction stonfiSwap "t" = .error (.keyError "source_asset") := by
    obtain ⟨id, hid⟩ := @calcActionId_ok_of_ne_nil stonfiSwap (by decide)
    exact blockToAction_eq_error (baseBlockToAction_eq_ok.mpr ⟨id, hid, by decide, rfl⟩) rfl
  exact ⟨h, (blockToAction_raises h).resolve_left fun ⟨hn, _⟩ => by simp [stonfiSwap, oneNodeBlock] at hn⟩

/-! ## Where a comment stops being UTF-8 -/

/-- A `UnicodeDecodeError` from `block_to_action` comes from the plain comment of a jetton
transfer, and names the first byte at which the comment stops being UTF-8: the bytes before it
are the UTF-8 form of a text, and no character's UTF-8 form starts there. -/
theorem blockToAction_unicodeError {b : Block} {t : String} {p : Nat}
    (h : blockToAction b t = .error (.unicodeDecodeError p)) :
    ∃ d c, b.data = .jettonTransfer d ∧ d.encrypted_comment = false ∧ d.comment = some c ∧
      p < c.length ∧ (∃ s, encodeUtf8 s = c.take p) ∧
      ∀ ch, ¬ String.utf8EncodeChar ch <+: c.drop p := by
  rcases blockToAction_raisesOnly b t _ h with ⟨-, ⟨⟩⟩ | ⟨-, ⟨_, -, ⟨⟩⟩ | hown⟩
  generalize hd : b.data = data at hown
  cases data <;> simp only [BlockData.ownErrors, reduceCtorEq, false_and, and_false, or_self]
    at hown
  obtain ⟨henc, c, hc, herr⟩ := hown
  obtain ⟨q, s, hq, hlt, hs, hno⟩ := decodeUtf8_error herr
  cases hq
  exact ⟨_, c, rfl, henc, hc, hlt, ⟨s, hs⟩, hno⟩

/-- The comment `h` followed by the byte `ff`, which starts no UTF-8 sequence, raises at
byte 1. -/
theorem truncatedComment_unicodeError :
    blockToAction (jettonBlock { jettonsToB with comment := some [0x68, 0xFF] }) "t" =
        .error (.unicodeDecodeError 1) ∧
      ∃ d c, (jettonBlock { jettonsToB with comment := some [0x68, 0xFF] }).data =
          .jettonTransfer d ∧ d.encrypted_comment = false ∧ d.comment = some c ∧
        1 < c.length ∧ (∃ s, encodeUtf8 s = c.take 1) ∧
        ∀ ch, ¬ String.utf8EncodeChar ch <+: c.drop 1 := by
  have h : blockToAction (jettonBlock { jettonsToB with comment := some [0x68, 0xFF] }) "t" =
      .error (.unicodeDecodeError 1) := by
    obtain ⟨id, hid⟩ := @calcActionId_ok_of_ne_nil
      (jettonBlock { jettonsToB with comment := some [0x68, 0xFF] }) (by decide)
    exact blockToAction_eq_error (baseBlockToAction_eq_ok.mpr ⟨id, hid, by decide, rfl⟩) rfl
  exact ⟨h, blockToAction_unicodeError h⟩

end TonIndexer
