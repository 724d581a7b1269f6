import TonIndexer.Python.Readback
import TonIndexer.Theorems.Normalization

/-!
# Binary values an action stores as text

An action holds four binary values as text: its id, the base64 text of a SHA-256 digest; an
encrypted jetton comment, the base64 text of its bytes; and a DNS record's key and ADNL
address, written by `bytes.hex()`. Each reads back to exactly the bytes the block held:

* `blockToAction_base64_readback`: the action id decodes to the digest of its root's key and
  the block type, and an encrypted comment to the comment's bytes;
* `blockToAction_hex_readback`: a DNS record's key, and the address of an ADNL record, read
  back as the payload's bytes.

The plain jetton comment is the one text column that can lose bytes: its NULs are stripped.
-/

namespace TonIndexer

/-! ## Base64 -/

/-- Text decoded from the base64 of some bytes is that base64, so it reads back to them. -/
theorem b64decode_of_decodeUtf8 {x : Bytes} {s : String} (h : decodeUtf8 (b64encode x) = .ok s) :
    b64decode (encodeUtf8 s) = some x := by
  rw [decodeUtf8_eq_ok_iff.mp h, b64decode_b64encode]

/-- An action id reads back to the digest of its root's key followed by the block type. -/
theorem calcActionId_readback {b : Block} {id : String} (h : calcActionId b = .ok id) :
    ∃ r ∈ b.event_nodes,
      b64decode (encodeUtf8 id) = some (sha256 (encodeUtf8 (rootKey r ++ b.btype))) := by
  obtain ⟨r, hr, hid⟩ := except_bind_eq_ok.mp h
  exact ⟨r, (rootEventNode_least hr).1, b64decode_of_decodeUtf8 hid⟩

/-- What an action stores as base64 text reads back: the action id to the SHA-256 digest of
its root's key followed by the block type, and an encrypted jetton comment to the comment's
bytes. -/
theorem blockToAction_base64_readback {b : Block} {t : String} {A : Action}
    {log : List LogRecord} (h : blockToAction b t = .ok (A, log)) :
    (∃ r ∈ b.event_nodes,
      b64decode (encodeUtf8 A.action_id) = some (sha256 (encodeUtf8 (rootKey r ++ b.btype)))) ∧
    ∀ d c, b.data = .jettonTransfer d → d.encrypted_comment = true → d.comment = some c →
      ∃ jd s, A.fields.jetton_transfer_data = some jd ∧ jd.comment = some s ∧
        b64decode (encodeUtf8 s) = some c := by
  refine ⟨?_, fun d c hd he hc => ?_⟩
  · obtain ⟨base, filled, initiated, hbase, -, -, rfl, -⟩ := blockToAction_eq_ok.mp h
    obtain ⟨id, hid, -, rfl⟩ := baseBlockToAction_eq_ok.mp hbase
    exact calcActionId_readback hid
  · obtain ⟨jd, hjd, -, hcomment⟩ := blockToAction_jettonTransfer_comment hd h
    rw [hc, he] at hcomment
    obtain ⟨s, hs, hjc⟩ := except_map_eq_ok.mp hcomment
    exact ⟨jd, s, hjd, hjc.symm, b64decode_of_decodeUtf8 hs⟩

theorem encryptedJettons_readback :
    ∃ A log, blockToAction (jettonBlock encryptedJettons) "t" = .ok (A, log) ∧
      ∃ jd s, A.fields.jetton_transfer_data = some jd ∧ jd.comment = some s ∧
        b64decode (encodeUtf8 s) = some [0x01, 0x02] := by
  obtain ⟨A, log, h, -⟩ :=
    blockToAction_ok (jettonBlock encryptedJettons) "t" (by decide) rfl rfl rfl
  exact ⟨A, log, h, (blockToAction_base64_readback h).2 _ _ rfl rfl rfl⟩

/-! ## Hex -/

/-- A returning DNS change stores the hex of the record's key, and for an ADNL record the hex
of its address. -/
theorem blockToAction_dnsChange_record {b : Block} {t : String} {A : Action}
    {log : List LogRecord} {d : DnsChangeRecordData} (hd : b.data = .dnsChangeRecord d)
    (h : blockToAction b t = .ok (A, log)) :
    ∃ rec k, A.fields.change_dns_record_data = some rec ∧ d.key = some k ∧ rec.key = hex k ∧
      ∀ bs, d.value.schema = "DNSAdnlAddress" → d.value.address = some (.adnl bs) →
        rec.address = some (hex bs) := by
  obtain ⟨filled, hf, hA, -⟩ := blockToAction_fields h
  obtain ⟨r, hr, rfl⟩ := dispatch_inv hf
    (show normalizer b = some (fillChangeDnsRecordAction d) by simp [normalizer, hd])
  rw [hA]
  simp only [fillChangeDnsRecordAction, except_bind_eq_ok, except_pure, Except.ok.injEq] at hr
  obtain ⟨_, -, _, hkey, af, haf, rfl⟩ := hr
  obtain ⟨k, hk, rfl⟩ := getAttr_eq_ok hkey
  refine ⟨_, k, rfl, hk, rfl, fun bs hs ha => ?_⟩
  rw [if_neg (by rw [hs]; decide), if_pos hs, ha] at haf
  cases haf
  rfl

/-- A returning DNS deletion stores the hex of the record's key. -/
theorem blockToAction_dnsDelete_record {b : Block} {t : String} {A : Action}
    {log : List LogRecord} {d : DnsDeleteRecordData} (hd : b.data = .dnsDeleteRecord d)
    (h : blockToAction b t = .ok (A, log)) :
    ∃ rec k, A.fields.change_dns_record_data = some rec ∧ d.key = some k ∧ rec.key = hex k := by
  obtain ⟨filled, hf, hA, -⟩ := blockToAction_fields h
  obtain ⟨r, hr, rfl⟩ := dispatch_inv hf
    (show normalizer b = some (fillDeleteDnsRecordAction d) by simp [normalizer, hd])
  rw [hA]
  simp only [fillDeleteDnsRecordAction, except_bind_eq_ok, except_pure, Except.ok.injEq] at hr
  obtain ⟨_, -, _, hkey, rfl⟩ := hr
  obtain ⟨k, hk, rfl⟩ := getAttr_eq_ok hkey
  exact ⟨_, k, rfl, hk, rfl⟩

/-- What an action stores as hex text reads back: the key of a changed or deleted DNS record
to the record's key bytes, and the address of an ADNL record to its bytes. -/
theorem blockToAction_hex_readback {b : Block} {t : String} {A : Action}
    {log : List LogRecord} (h : blockToAction b t = .ok (A, log)) :
    (∀ d, b.data = .dnsChangeRecord d →
      ∃ rec k, A.fields.change_dns_record_data = some rec ∧ d.key = some k ∧
        unhex rec.key = some k ∧
        ∀ bs, d.value.schema = "DNSAdnlAddress" → d.value.address = some (.adnl bs) →
          rec.address.bind unhex = some bs) ∧
    ∀ d, b.data = .dnsDeleteRecord d →
      ∃ rec k, A.fields.change_dns_record_data = some rec ∧ d.key = some k ∧
        unhex rec.key = some k := by
  refine ⟨fun d hd => ?_, fun d hd => ?_⟩
  · obtain ⟨rec, k, hrec, hk, hkey, haddr⟩ := blockToAction_dnsChange_record hd h
    refine ⟨rec, k, hrec, hk, hkey ▸ unhex_hex k, fun bs hs ha => ?_⟩
    rw [haddr bs hs ha]
    exact unhex_hex bs
  · obtain ⟨rec, k, hrec, hk, hkey⟩ := blockToAction_dnsDelete_record hd h
    exact ⟨rec, k, hrec, hk, hkey ▸ unhex_hex k⟩

/-- `A` points the record with key `ab` of `D` at the ADNL address `01`. -/
def adnlChange : Block :=
  oneNodeBlock "dns_change_record"
    (.dnsChangeRecord
      { source := some ⟨"A"⟩, destination := some ⟨"D"⟩, key := some [0xAB],
        value := ⟨"DNSAdnlAddress", some (.adnl [0x01]), some 0, none⟩ })

theorem adnlChange_readback :
    ∃ A log, blockToAction adnlChange "t" = .ok (A, log) ∧
      ∃ rec, A.fields.change_dns_record_data = some rec ∧ unhex rec.key = some [0xAB] ∧
        rec.address.bind unhex = some [0x01] := by
  obtain ⟨A, log, h, -⟩ := blockToAction_ok adnlChange "t" (by decide) rfl rfl rfl
  obtain ⟨rec, k, hrec, hk, hkey, haddr⟩ := (blockToAction_hex_readback h).1 _ rfl
  cases hk
  exact ⟨A, log, h, rec, hrec, hkey, haddr _ rfl rfl⟩

end TonIndexer
