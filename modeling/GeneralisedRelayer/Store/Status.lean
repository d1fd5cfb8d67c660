/-
  GeneralisedRelayer.Store.Status — the status of a bounty record over a run of register calls.

  `registerMessageDelivered` and `registerBountyClaimed` write `Math.max(stored, k)`, and
  `registerBountyPlaced` keeps a stored status, so a numeric status only ever rises
  (`step_status_mono`).  Once the record has a number, the status is the maximum of the
  statuses the calls carry (`replay_status_eq_maxStatus`).

  `registerBountyIncreased` is the one call that can create a record without a status
  (`store.lib.ts:349`).  `Math.max(undefined, k)` is then `NaN`, which `JSON.stringify` writes as
  `null` (`status_null_after_increased_delivered`): the maximum is lost, and `Math.max(null, k)`
  later reads the `null` as `0`.

  Main results:
    * `status_rises_to_maxStatus` — along the calls for one identifier, a numeric status never
      drops, and when the first call is not `registerBountyIncreased` the final status is the
      maximum of the carried statuses.
    * `status_null_after_increased_delivered` — `Increased` then `Delivered` leaves `null`.
-/
import GeneralisedRelayer.Store.Fields

namespace GeneralisedRelayer

/-- The status a call carries, if any. -/
def RegisterCall.status? : RegisterCall → Option BountyStatus
  | .bountyPlaced _ => some .bountyPlaced
  | .messageDelivered _ => some .messageDelivered
  | .bountyClaimed _ => some .bountyClaimed
  | .bountyIncreased _ => none

/-- The largest of `m` and the statuses the calls carry. -/
def statusFold (m : Option Nat) (cs : List WorkerCall) : Option Nat :=
  cs.foldl (fun m c => max m (c.call.status?.map BountyStatus.toNat)) m

/-- The maximum of the statuses the calls carry; `none` when none carries one. -/
def maxStatus (cs : List WorkerCall) : Option Nat := statusFold none cs

/-- The status field of a key's content. -/
def statusOf (r : Option BountyJson) : Option Json := r.bind (· .status)

/-- One call on a record whose status is the number `n`: the number rises to the call's. -/
theorem step_status (c : WorkerCall) (r : BountyJson) (hr : Wf r) (n : Nat)
    (hn : r .status = some (.num n)) :
    ∃ r', c.step (some r) = some r' ∧
      r' .status = some (.num (max n ((c.call.status?.map BountyStatus.toNat).getD 0))) := by
  rcases c with ⟨chainId, e | e | e | e⟩
  · exact ⟨_, rfl, by simp [placedBounty, hn, RegisterCall.status?, BountyStatus.toNat]⟩
  · exact ⟨_, rfl, by simp [deliveredBounty, statusBounty, hn, toNumber,
      mathMax, JsValue.toJson, RegisterCall.status?, BountyStatus.toNat]⟩
  · exact ⟨_, rfl, by simp [claimedBounty, hn, toNumber, mathMax,
      JsValue.toJson, RegisterCall.status?, BountyStatus.toNat, max_comm]⟩
  · simp only [WorkerCall.step, step_increased chainId e r hr, RegisterCall.status?]
    split_ifs <;> simp [hn]

/-- **No call lowers a numeric status.** -/
theorem step_status_mono (c : WorkerCall) (r : BountyJson) (hr : Wf r) (n : Nat)
    (hn : r .status = some (.num n)) :
    ∃ r' m, c.step (some r) = some r' ∧ r' .status = some (.num m) ∧ n ≤ m := by
  obtain ⟨r', h, hs⟩ := step_status c r hr n hn
  exact ⟨r', _, h, hs, le_max_left _ _⟩

/-- From a record with a numeric status, a run keeps the maximum. -/
theorem replay_status (cs : List WorkerCall) (r : BountyJson) (hr : Wf r) (n : Nat)
    (hn : r .status = some (.num n)) :
    statusOf (replay cs (some r)) = (statusFold (some n) cs).map .num := by
  induction cs generalizing r n with
  | nil => simp [statusOf, statusFold, hn]
  | cons c cs ih =>
    obtain ⟨r', h, hs⟩ := step_status c r hr n hn
    have hw : WfOpt (c.step (some r)) := step_wf c hr
    rw [h] at hw
    rw [replay_cons, h, ih r' hw _ hs]
    cases hk : c.call.status? <;> simp [statusFold, hk]

/-- **The final status is the maximum of the carried statuses** when the run does not start
with `registerBountyIncreased`. -/
theorem replay_status_eq_maxStatus (cs : List WorkerCall)
    (h : ∀ c ∈ cs.head?, c.call.status?.isSome) :
    statusOf (replay cs none) = (maxStatus cs).map .num := by
  cases cs with
  | nil => rfl
  | cons c cs =>
    rcases c with ⟨chainId, e | e | e | e⟩
    · exact replay_status cs _ (wf_placed_none chainId e) 0
        (by simp [placedBounty, BountyStatus.toNat])
    · exact replay_status cs _ (wf_delivered chainId e none trivial) 1
        (by simp [deliveredBounty, statusBounty, BountyStatus.toNat])
    · exact replay_status cs _ (wf_claimed chainId e none trivial) 2
        (by simp [claimedBounty, BountyStatus.toNat])
    · simp [RegisterCall.status?] at h

/-- From a record with a numeric status, a run ends with a numeric status no smaller. -/
theorem replay_status_mono (cs : List WorkerCall) (r : BountyJson) (hr : Wf r) (n : Nat)
    (hn : r .status = some (.num n)) :
    ∃ m, statusOf (replay cs (some r)) = some (.num m) ∧ n ≤ m := by
  induction cs generalizing r n with
  | nil => exact ⟨n, by simp [statusOf, hn], le_rfl⟩
  | cons c cs ih =>
    obtain ⟨r', m, h, hs, hle⟩ := step_status_mono c r hr n hn
    have hw : WfOpt (c.step (some r)) := step_wf c hr
    rw [h] at hw
    obtain ⟨k, hk, hmk⟩ := ih r' hw m hs
    exact ⟨k, by rw [replay_cons, h]; exact hk, hle.trans hmk⟩

/-- **The stored status never drops, and ends at the maximum carried**: along the calls for one
identifier on a database without its record, once the status is a number no later call lowers
it, and when the first call carries a status the final status is the largest the calls carry. -/
theorem status_rises_to_maxStatus (db : Redis) (id : String) (pre post : List WorkerCall)
    (hcs : ∀ c ∈ pre ++ post, c.call.messageIdentifier = id)
    (hdb : db.get (bountyKey id) = none) :
    (∀ n, statusOf ((applyAll pre db).get (bountyKey id)) = some (.num n) →
      ∃ m, statusOf ((applyAll (pre ++ post) db).get (bountyKey id)) = some (.num m) ∧
        n ≤ m) ∧
    ((∀ c ∈ (pre ++ post).head?, c.call.status?.isSome) →
      statusOf ((applyAll (pre ++ post) db).get (bountyKey id)) =
        (maxStatus (pre ++ post)).map .num) := by
  have hpre : ∀ c ∈ pre, c.call.messageIdentifier = id :=
    fun c h => hcs c (List.mem_append_left _ h)
  rw [applyAll_get _ db id hcs, applyAll_get pre db id hpre, hdb]
  refine ⟨fun n hn => ?_, replay_status_eq_maxStatus _⟩
  have hw : WfOpt (replay pre none) := replay_wf pre trivial
  rw [replay_append]
  cases hr : replay pre none with
  | none => simp [statusOf, hr] at hn
  | some r =>
    rw [hr] at hw
    exact replay_status_mono post r hw n (by simpa [statusOf, hr] using hn)

/-- A placement then a delivery: the status rises from `BountyPlaced` to `MessageDelivered`. -/
theorem placed_delivered_status_rises :
    let pre : List WorkerCall :=
      [⟨"1", .bountyPlaced ⟨"0xaa", ⟨200000, 200000, "0xrefund", 1000000000, 1000000000, 0⟩,
        "0xescrow", "0x01"⟩⟩]
    let post : List WorkerCall := [⟨"2", .messageDelivered ⟨"0xaa", "0xescrow", "0x02"⟩⟩]
    ((∀ c ∈ pre ++ post, c.call.messageIdentifier = "0xaa") ∧
        Redis.empty.get (bountyKey "0xaa") = none) ∧
      statusOf ((applyAll pre Redis.empty).get (bountyKey "0xaa")) = some (.num 0) ∧
      (∃ m, statusOf ((applyAll (pre ++ post) Redis.empty).get (bountyKey "0xaa")) =
        some (.num m) ∧ 0 ≤ m) ∧
      statusOf ((applyAll (pre ++ post) Redis.empty).get (bountyKey "0xaa")) =
        (maxStatus (pre ++ post)).map .num :=
  have hcs : ∀ c ∈ ([⟨"1", .bountyPlaced ⟨"0xaa", ⟨200000, 200000, "0xrefund", 1000000000,
      1000000000, 0⟩, "0xescrow", "0x01"⟩⟩, ⟨"2", .messageDelivered ⟨"0xaa", "0xescrow",
      "0x02"⟩⟩] : List WorkerCall), c.call.messageIdentifier = "0xaa" := by decide
  have hpre : statusOf ((applyAll [⟨"1", .bountyPlaced ⟨"0xaa", ⟨200000, 200000, "0xrefund",
      1000000000, 1000000000, 0⟩, "0xescrow", "0x01"⟩⟩] Redis.empty).get (bountyKey "0xaa")) =
      some (.num 0) := by decide
  have h := status_rises_to_maxStatus Redis.empty "0xaa" _ _ hcs rfl
  ⟨⟨hcs, rfl⟩, hpre, h.1 0 hpre, h.2 (by decide)⟩

/-- **`registerBountyIncreased` then `registerMessageDelivered` on a fresh identifier leave the
status `null`**, though `MessageDelivered` is the largest status carried. -/
theorem status_null_after_increased_delivered :
    let cs : List WorkerCall :=
      [⟨"1", .bountyIncreased ⟨"0xaa", 5, 5, "0xescrow", "0x01"⟩⟩,
       ⟨"2", .messageDelivered ⟨"0xaa", "0xescrow", "0x02"⟩⟩]
    statusOf ((applyAll cs Redis.empty).get (bountyKey "0xaa")) = some .null ∧
      maxStatus cs = some BountyStatus.messageDelivered.toNat := by
  decide

end GeneralisedRelayer
