import TonIndexer.Python.Utf8
import TonIndexer.Theorems.Totality

/-!
# What the dispatcher and the normalizers write

Facts about the columns a returning run fills, each read off the one normalizer that writes
them through `blockToAction_fields` and `dispatch_inv`:

* `normalizer_eq_none_iff`: the `match` lists every class but the fallback one;
* `blockToAction_unknown`: a block of an unlisted class gives the base record and a warning;
* `blockToAction_jettonComment`: an encrypted jetton comment becomes the base64 text of its
  bytes, a plaintext one loses its NULs;
* `blockToAction_plainComment`: a plain jetton comment that was stored came from the UTF-8 form
  of a text, and is that text;
* `length_calcActionId`: an action id is 44 base64 characters.
-/

namespace TonIndexer

/-! ## Reading a run -/

/-- A returning run's columns are those the dispatcher wrote on the base record, and its log
starts with the dispatcher's. -/
theorem blockToAction_fields {b : Block} {t : String} {A : Action} {log : List LogRecord}
    (h : blockToAction b t = .ok (A, log)) :
    ∃ filled, dispatch b t (.init b.btype !b.failed) = .ok filled ∧ A.fields = filled.1 ∧
      filled.2 <+: log := by
  obtain ⟨base, filled, initiated, hbase, hfill, -, rfl, rfl⟩ := blockToAction_eq_ok.mp h
  obtain ⟨id, -, -, rfl⟩ := baseBlockToAction_eq_ok.mp hbase
  exact ⟨filled, hfill, rfl, List.prefix_append _ _⟩

/-- The dispatcher returns what the block's normalizer returns, with nothing logged. -/
theorem dispatch_inv {b : Block} {t : String} {f : ActionFields}
    {fill : ActionFields → Except PyError ActionFields} {r : ActionFields × List LogRecord}
    (h : dispatch b t f = .ok r) (hn : normalizer b = some fill) :
    ∃ r', fill f = .ok r' ∧ r = (r', []) := by
  simp only [dispatch, hn] at h
  obtain ⟨r', hr', rfl⟩ := except_map_eq_ok.mp h
  exact ⟨r', hr', rfl⟩

/-- A block of class `btype` over one executed message of `A`, with no initiating node. -/
def oneNodeBlock (btype : String) (data : BlockData) : Block where
  btype := btype
  event_nodes := [.message 7 ⟨"m1", some ⟨"h1", "A"⟩⟩]
  data := data
  min_lt := 7
  max_lt := 7
  min_utime := 1
  max_utime := 1
  failed := false
  initiating_event_node := none

/-! ## The dispatcher -/

/-- Exhaustiveness: the dispatcher falls back only on the class the `match` does not list. -/
theorem normalizer_eq_none_iff (b : Block) : normalizer b = none ↔ b.data = .other := by
  rcases b with ⟨_, _, data, _⟩
  cases data <;> simp [normalizer]

/-- A block of a class the `match` does not list gives the base record, with the warning
first in the log; it returns whenever its nodes have accounts. -/
theorem blockToAction_unknown (b : Block) (t : String) (hd : b.data = .other)
    (hnodes : b.event_nodes ≠ []) (haccounts : b.event_nodes.all fun n => n.account?.isSome)
    (hinit : b.initiating_event_node.all fun n => n.account?.isSome) :
    ∃ A log, blockToAction b t = .ok (A, log) ∧ A.fields = .init b.btype !b.failed ∧
      log.head? = some (unknownBlockWarning b.btype t) := by
  have hn : normalizer b = none := (normalizer_eq_none_iff b).mpr hd
  obtain ⟨A, log, h, hA⟩ := blockToAction_ok b t hnodes haccounts hinit
    (show dispatch b t _ = .ok _ by simp only [dispatch, hn]; rfl)
  obtain ⟨filled, hf, -, hlog⟩ := blockToAction_fields h
  simp only [dispatch, hn, except_pure, Except.ok.injEq] at hf
  subst hf
  obtain ⟨rest, rfl⟩ := hlog
  exact ⟨A, _, h, hA, rfl⟩

theorem unknownType_warns :
    ∃ A log, blockToAction (oneNodeBlock "unknown" .other) "t" = .ok (A, log) ∧
      A.fields = .init "unknown" true ∧ log.head? = some (unknownBlockWarning "unknown" "t") :=
  blockToAction_unknown _ "t" rfl (by decide) rfl rfl

/-! ## Comments -/

/-- A returning jetton transfer stores the comment `jettonComment` returned, with the
encryption flag of the payload. -/
theorem blockToAction_jettonTransfer_comment {b : Block} {t : String} {A : Action}
    {log : List LogRecord} {d : JettonTransferData} (hd : b.data = .jettonTransfer d)
    (h : blockToAction b t = .ok (A, log)) :
    ∃ jd, A.fields.jetton_transfer_data = some jd ∧
      jd.is_encrypted_comment = d.encrypted_comment ∧
      jettonComment d.comment d.encrypted_comment = .ok jd.comment := by
  obtain ⟨filled, hf, hA, -⟩ := blockToAction_fields h
  obtain ⟨r, hr, rfl⟩ := dispatch_inv hf
    (show normalizer b = some (fillJettonTransferAction d) by simp [normalizer, hd])
  rw [hA]
  simp only [fillJettonTransferAction, except_bind_eq_ok, except_pure, Except.ok.injEq] at hr
  obtain ⟨_, _, _, _, _, _, _, _, _, _, _, _, comment, hc, _, _, rfl⟩ := hr
  exact ⟨_, rfl, rfl, hc⟩

/-- A jetton transfer's comment: the base64 text of the raw bytes when encrypted, and text
with no NUL otherwise. -/
theorem blockToAction_jettonComment {b : Block} {t : String} {A : Action}
    {log : List LogRecord} {d : JettonTransferData} (hd : b.data = .jettonTransfer d)
    (h : blockToAction b t = .ok (A, log)) :
    ∃ jd, A.fields.jetton_transfer_data = some jd ∧
      jd.is_encrypted_comment = d.encrypted_comment ∧
      (d.encrypted_comment = true →
        jd.comment = d.comment.map fun c => ⟨(b64encode c).map fun x => Char.ofNat x.toNat⟩) ∧
      (d.encrypted_comment = false → ∀ s, jd.comment = some s → '\x00' ∉ s.data) := by
  obtain ⟨jd, hjd, henc, hc⟩ := blockToAction_jettonTransfer_comment hd h
  refine ⟨jd, hjd, henc, fun he => ?_, fun he s hs => ?_⟩
  · rcases hcd : d.comment with _ | c <;>
      simp_all [jettonComment, decodeUtf8_b64encode]
  · rcases hcd : d.comment with _ | c
    · simp_all [jettonComment]
    · simp only [jettonComment, hcd, he, Bool.false_eq_true, if_false, hs] at hc
      obtain ⟨s', -, hs'⟩ := except_map_eq_ok.mp hc
      cases hs'
      exact nul_not_mem_stripNul s'

/-- The transfer `jettonsToB` with the encrypted comment of the bytes 01 02. -/
def encryptedJettons : JettonTransferData :=
  { jettonsToB with comment := some [0x01, 0x02], encrypted_comment := true }

/-- The encrypted comment is stored as the base64 text of its bytes. -/
theorem encryptedComment_base64 :
    ∃ A log, blockToAction (jettonBlock encryptedJettons) "t" = .ok (A, log) ∧
      ∃ jd, A.fields.jetton_transfer_data = some jd ∧ jd.comment = some "AQI=" := by
  obtain ⟨A, log, h, -⟩ :=
    blockToAction_ok (jettonBlock encryptedJettons) "t" (by decide) rfl rfl rfl
  obtain ⟨jd, hjd, -, henc, -⟩ := blockToAction_jettonComment rfl h
  exact ⟨A, log, h, jd, hjd, (henc rfl).trans (by decide)⟩

/-- The plain branch of the comment returns exactly on bytes that are the UTF-8 form of a
text, and then gives that text without NULs. -/
theorem jettonComment_plain_eq_ok_iff (c : Bytes) (r : Option String) :
    jettonComment (some c) false = .ok r ↔ ∃ s, encodeUtf8 s = c ∧ r = some (stripNul s) := by
  simp only [jettonComment, Bool.false_eq_true, if_false]
  rw [except_map_eq_ok]
  simp only [Function.comp_apply, decodeUtf8_eq_ok_iff]
  exact ⟨fun ⟨s, hs, hr⟩ => ⟨s, hs, hr.symm⟩, fun ⟨s, hs, hr⟩ => ⟨s, hs, hr.symm⟩⟩

/-- A returning jetton transfer with a plain comment: the comment bytes are the UTF-8 form of
a text, and the action stores that text without NULs. -/
theorem blockToAction_plainComment {b : Block} {t : String} {A : Action}
    {log : List LogRecord} {d : JettonTransferData} {c : Bytes}
    (hd : b.data = .jettonTransfer d) (hc : d.comment = some c)
    (hplain : d.encrypted_comment = false) (h : blockToAction b t = .ok (A, log)) :
    ∃ s jd, encodeUtf8 s = c ∧ A.fields.jetton_transfer_data = some jd ∧
      jd.comment = some (stripNul s) := by
  obtain ⟨jd, hjd, -, hcomment⟩ := blockToAction_jettonTransfer_comment hd h
  rw [hc, hplain, jettonComment_plain_eq_ok_iff] at hcomment
  obtain ⟨s, hs, hjc⟩ := hcomment
  exact ⟨s, jd, hs, hjd, hjc⟩

theorem jettonsToB_plainComment :
    ∃ A log, blockToAction (jettonBlock jettonsToB) "t" = .ok (A, log) ∧
      ∃ s jd, encodeUtf8 s = [0x68, 0x69] ∧ A.fields.jetton_transfer_data = some jd ∧
        jd.comment = some (stripNul s) := by
  obtain ⟨A, log, h, -⟩ := blockToAction_ok (jettonBlock jettonsToB) "t" (by decide) rfl rfl rfl
  exact ⟨A, log, h, blockToAction_plainComment rfl rfl rfl h⟩

/-! ## The action id -/

/-- Base64 writes four digits for every three bytes or part of them. -/
theorem length_b64encode (b : Bytes) : (b64encode b).length = 4 * ((b.length + 2) / 3) := by
  induction b using b64encode.induct with
  | case1 a b c rest ih =>
    simp only [b64encode, List.length_cons, List.length_append, List.length_nil, ih]
    omega
  | _ => simp [b64encode]

/-- An action id is the 44 base64 characters of a SHA-256 digest. -/
theorem length_calcActionId {b : Block} {id : String} (h : calcActionId b = .ok id) :
    id.length = 44 := by
  simp only [calcActionId, except_bind_eq_ok, decodeUtf8_b64encode, Except.ok.injEq] at h
  obtain ⟨_, -, rfl⟩ := h
  simp [String.length, length_b64encode, length_sha256]

theorem jettonsToB_actionId_length :
    ∃ id, calcActionId (jettonBlock jettonsToB) = .ok id ∧ id.length = 44 := by
  obtain ⟨id, hid⟩ := @calcActionId_ok_of_ne_nil (jettonBlock jettonsToB) (by decide)
  exact ⟨id, hid, length_calcActionId hid⟩

end TonIndexer
