/-
  GeneralisedRelayer.Store.Fields — no register call clears a field.

  A call either spreads the stored record under its own literal (`registerBountyPlaced`, where
  the stored fields win) or spreads its literal over the stored record and sets a few fields
  (the other three).  So every field that holds a value other than `null` still holds one
  afterwards, and the same one unless the call writes that field (`RegisterCall.writes`).

  The only written value that could be `null` is the status of `registerMessageDelivered` and
  `registerBountyClaimed`, `Math.max(status, k)`: it is `NaN`, written back as `null`, exactly
  when the stored status is missing.  A present, non-null status is a number on every record a
  run leaves (`Wf`), so it stays a number.

  Main results:
    * `step_keeps_field` — one call, from any well-formed record.
    * `replay_step_keeps_field` — one further call after any run.
    * `register_call_keeps_fields` — the same on the database, for calls on one identifier.
-/
import GeneralisedRelayer.Store.Runs

namespace GeneralisedRelayer

/-- The fields a register call writes over a stored record. -/
def RegisterCall.writes : RegisterCall → List BountyField
  | .bountyPlaced _ => []
  | .messageDelivered _ => [.status, .execTransactionHash, .toChainId]
  | .bountyClaimed _ => [.status, .ackTransactionHash, .fromChainId]
  | .bountyIncreased _ => [.priceOfDeliveryGas, .priceOfAckGas]

/-- Field `f` is kept across one call from `r` to `r'`: a non-null value stays non-null, and
stays the same unless the call writes `f`. -/
def KeepsField (writes : List BountyField) (r r' : BountyJson) (f : BountyField) : Prop :=
  ∀ v, r f = some v → v ≠ .null →
    (∃ v', r' f = some v' ∧ v' ≠ .null) ∧ (f ∉ writes → r' f = some v)

/-- A status that is present and not `null` on a well-formed record is a number. -/
theorem Wf.status_num {r : BountyJson} (hr : Wf r) {v : Json} (hv : r .status = some v)
    (hn : v ≠ .null) : ∃ n, v = .num n := by
  rcases hr.status with h | h | ⟨n, h⟩ <;> rw [hv] at h <;> simp_all

theorem keepsField_statusBounty (s : BountyStatus) (hashField chainField : BountyField)
    (chainId : String) (e : EscrowEvent) (r : BountyJson) (hr : Wf r) (f : BountyField) :
    KeepsField [.status, hashField, chainField] r
      (statusBounty s hashField chainField chainId e (some r)).stringify f := by
  intro v hf hv
  simp only [statusBounty, JsObject.stringify_apply, JsObject.set_apply, JsObject.ofJson_apply]
  refine ⟨?_, fun hw => ?_⟩
  · split_ifs with h₁ h₂ h₃
    · exact ⟨_, rfl, by simp [JsValue.toJson]⟩
    · exact ⟨_, rfl, by simp [JsValue.toJson]⟩
    · subst h₃
      obtain ⟨n, rfl⟩ := hr.status_num hf hv
      exact ⟨_, rfl, by simp [hf, toNumber, mathMax, JsValue.toJson]⟩
    · exact ⟨v, by simp [hf], hv⟩
  · simp only [List.mem_cons, List.mem_singleton, not_or, List.not_mem_nil] at hw
    simp [hw.1, hw.2.1, hw.2.2.1, hf]

/-- **One call keeps every field of a well-formed record.** -/
theorem step_keeps_field (c : WorkerCall) (r : BountyJson) (hr : Wf r) (f : BountyField) :
    ∃ r', c.step (some r) = some r' ∧ KeepsField c.call.writes r r' f := by
  rcases c with ⟨chainId, e | e | e | e⟩
  · refine ⟨_, rfl, fun v hf hv => ⟨⟨v, ?_, hv⟩, fun _ => ?_⟩⟩ <;>
      simp [placedBounty, hf]
  · exact ⟨_, rfl, keepsField_statusBounty _ _ _ chainId e r hr f⟩
  · refine ⟨_, rfl, ?_⟩
    simpa only [claimedBounty_eq] using keepsField_statusBounty _ _ _ chainId e r hr f
  · simp only [WorkerCall.step, step_increased chainId e r hr]
    split_ifs
    · refine ⟨_, rfl, fun v hf hv => ?_⟩
      simp only [JsObject.stringify_apply, JsObject.set_apply, JsObject.ofJson_apply]
      refine ⟨?_, fun hw => ?_⟩
      · split_ifs <;> simp [hf, hv, JsValue.toJson]
      · simp only [RegisterCall.writes, List.mem_cons, List.mem_singleton, not_or,
          List.not_mem_nil] at hw
        simp [hw.1, hw.2.1, hf]
    · exact ⟨r, rfl, fun v hf hv => ⟨⟨v, hf, hv⟩, fun _ => hf⟩⟩

/-- **Field preservation**: after any run from no record, one further call keeps every field
that holds a non-null value, and its value unless the call writes the field. -/
theorem replay_step_keeps_field (cs : List WorkerCall) (c : WorkerCall) (r : BountyJson)
    (hr : replay cs none = some r) (f : BountyField) :
    ∃ r', c.step (some r) = some r' ∧ KeepsField c.call.writes r r' f := by
  have hw : WfOpt (replay cs none) := replay_wf cs trivial
  rw [hr] at hw
  exact step_keeps_field c r hw f

/-- **Field preservation on the database**: take the record a run of calls on one identifier
leaves, from no record; one further call on that identifier keeps each field that holds a
non-null value non-null, and keeps its value unless the call writes the field. -/
theorem register_call_keeps_fields (cs : List WorkerCall) (c : WorkerCall) (db : Redis)
    (id : String) (hdb : db.get (bountyKey id) = none)
    (hcs : ∀ c ∈ cs, c.call.messageIdentifier = id) (hc : c.call.messageIdentifier = id)
    (r : BountyJson) (hr : (applyAll cs db).get (bountyKey id) = some r) (f : BountyField) :
    ∃ r', (c.apply (applyAll cs db)).get (bountyKey id) = some r' ∧
      KeepsField c.call.writes r r' f := by
  rw [applyAll_get cs db id hcs, hdb] at hr
  rw [WorkerCall.apply, RegisterCall.apply_get, if_pos (by rw [hc]), applyAll_get cs db id hcs,
    hdb, hr]
  exact replay_step_keeps_field cs c r hr f

/-- A delivery registered on a placed bounty keeps its delivery gas price. -/
theorem register_call_keeps_fields_delivered :
    ∃ r', ((⟨"2", .messageDelivered ⟨"0xaa", "0xescrow", "0x02"⟩⟩ : WorkerCall).apply
        (applyAll [⟨"1", .bountyPlaced ⟨"0xaa", ⟨200000, 200000, "0xrefund", 1000000000,
          1000000000, 0⟩, "0xescrow", "0x01"⟩⟩] Redis.empty)).get (bountyKey "0xaa") =
        some r' ∧
      KeepsField [.status, .execTransactionHash, .toChainId]
        (placedBounty "1" ⟨"0xaa", ⟨200000, 200000, "0xrefund", 1000000000, 1000000000, 0⟩,
          "0xescrow", "0x01"⟩ none).stringify r' .priceOfDeliveryGas :=
  register_call_keeps_fields [⟨"1", .bountyPlaced ⟨"0xaa", ⟨200000, 200000, "0xrefund",
      1000000000, 1000000000, 0⟩, "0xescrow", "0x01"⟩⟩]
    ⟨"2", .messageDelivered ⟨"0xaa", "0xescrow", "0x02"⟩⟩ Redis.empty "0xaa" rfl (by decide)
    rfl _ rfl .priceOfDeliveryGas

end GeneralisedRelayer
