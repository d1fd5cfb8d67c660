/-
  GeneralisedRelayer.Store.GetBounty — what `getBounty` returns after a run of register calls.

  `getBounty` returns `null` unless the stored `priceOfDeliveryGas`, `priceOfAckGas` and
  `targetDelta` are all truthy, and reads the three with `BigNumber.from`.  Only
  `registerBountyPlaced` writes `targetDelta`, and it writes both prices too (or finds them
  stored); every writer stores a `BigNumber` as its non-empty decimal string, so `"0"` is
  truthy and the read gives back the integer written, of any size.

  `PlacedInv` follows the first `registerBountyPlaced` event of a run: the record holds its
  `targetDelta` (a later one finds it stored and loses) and both prices.

  Main results:
    * `getBounty_after_run` — `getBounty` never throws after a run; it returns a bounty exactly
      when the run has a `registerBountyPlaced` call, with the stored prices read back and the
      first placed `targetDelta`.
-/
import GeneralisedRelayer.Store.Runs

namespace GeneralisedRelayer

/-- The event of a `registerBountyPlaced` call. -/
def RegisterCall.placed? : RegisterCall → Option BountyPlacedEvent
  | .bountyPlaced e => some e
  | _ => none

/-- The first of `F` and the placed events of the calls. -/
def firstPlacedFrom (F : Option BountyPlacedEvent) (cs : List WorkerCall) :
    Option BountyPlacedEvent :=
  cs.foldl (fun F c => F.or c.call.placed?) F

/-- The event of the first `registerBountyPlaced` call of a run. -/
def firstPlaced (cs : List WorkerCall) : Option BountyPlacedEvent := firstPlacedFrom none cs

@[simp] theorem firstPlacedFrom_cons (F : Option BountyPlacedEvent) (c : WorkerCall)
    (cs : List WorkerCall) :
    firstPlacedFrom F (c :: cs) = firstPlacedFrom (F.or c.call.placed?) cs := rfl

@[simp] theorem firstPlacedFrom_some (e : BountyPlacedEvent) (cs : List WorkerCall) :
    firstPlacedFrom (some e) cs = some e := by
  induction cs with
  | nil => rfl
  | cons c cs ih => exact ih

theorem firstPlaced_isSome_iff (cs : List WorkerCall) :
    (firstPlaced cs).isSome ↔ ∃ c ∈ cs, ∃ e, c.call = .bountyPlaced e := by
  induction cs with
  | nil => simp [firstPlaced, firstPlacedFrom]
  | cons c cs ih =>
    rcases c with ⟨chainId, e | e | e | e⟩ <;> simp_all [firstPlaced, RegisterCall.placed?]

/-- The field `f` of a key's content. -/
def fieldOf (f : BountyField) (r : Option BountyJson) : Option Json := r.bind (· f)

/-- The record holds the first placed event's `targetDelta`, and both prices once placed. -/
structure PlacedInv (F : Option BountyPlacedEvent) (r : Option BountyJson) : Prop where
  wf : WfOpt r
  targetDelta : fieldOf .targetDelta r = F.map fun e => .str (toDecimal e.incentive.targetDelta)
  prices : F.isSome → (fieldOf .priceOfDeliveryGas r).isSome ∧ (fieldOf .priceOfAckGas r).isSome

/-- A call that leaves both prices and `targetDelta` as they were keeps `PlacedInv`. -/
theorem PlacedInv.of_frame {F : Option BountyPlacedEvent} {r r' : Option BountyJson}
    (h : PlacedInv F r) (hw : WfOpt r')
    (hframe : ∀ f ∈ [BountyField.priceOfDeliveryGas, .priceOfAckGas, .targetDelta],
      fieldOf f r' = fieldOf f r) : PlacedInv F r' := by
  refine ⟨hw, ?_, fun hF => ?_⟩
  · rw [hframe _ (by decide)]; exact h.targetDelta
  · rw [hframe _ (by decide), hframe _ (by decide)]; exact h.prices hF

/-- **One call keeps `PlacedInv`**, the first placed event moving to the call's if it is the
first. -/
theorem step_placedInv (c : WorkerCall) {F : Option BountyPlacedEvent} {r : Option BountyJson}
    (h : PlacedInv F r) : PlacedInv (F.or c.call.placed?) (c.step r) := by
  have hw := step_wf c h.wf
  have ht := h.targetDelta
  have hp := h.prices
  rcases c with ⟨chainId, e | e | e | e⟩
  · refine ⟨hw, ?_, fun _ => ?_⟩ <;> cases r <;> cases F <;>
      simp_all [fieldOf, WorkerCall.step, RegisterCall.placed?, placedBounty]
  · simpa [RegisterCall.placed?] using
      h.of_frame hw fun f hf => (step_status_call_frame chainId e r f hf).1
  · simpa [RegisterCall.placed?] using
      h.of_frame hw fun f hf => (step_status_call_frame chainId e r f hf).2
  · cases r with
    | none =>
      refine ⟨hw, ?_, fun _ => ?_⟩ <;>
        simp_all [fieldOf, WorkerCall.step, RegisterCall.placed?,
          increasedBaseline]
    | some r =>
      have hwr : Wf r := h.wf
      simp only [WorkerCall.step, step_increased chainId e r hwr, RegisterCall.placed?,
        Option.or_none]
      split_ifs
      · refine ⟨wf_increased r hwr _ _, ?_, fun _ => ?_⟩ <;> simp_all [fieldOf]
      · exact h

/-- **A run keeps `PlacedInv`.** -/
theorem replay_placedInv (cs : List WorkerCall) {F : Option BountyPlacedEvent}
    {r : Option BountyJson} (h : PlacedInv F r) :
    PlacedInv (firstPlacedFrom F cs) (replay cs r) := by
  induction cs generalizing F r with
  | nil => exact h
  | cons c cs ih => exact ih (step_placedInv c h)

/-- `getBounty` on a record holding the three fields as decimal strings. -/
theorem getBounty_eq_some (db : Redis) (id : String) (r : BountyJson)
    (hr : db.get (bountyKey id) = some r) (d a t : Nat)
    (hd : r .priceOfDeliveryGas = some (.str (toDecimal d)))
    (ha : r .priceOfAckGas = some (.str (toDecimal a)))
    (ht : r .targetDelta = some (.str (toDecimal t))) :
    Store.getBounty db id = .ok (some (JsObject.ofJson r
      |>.set .priceOfDeliveryGas (.bigNumber d)
      |>.set .priceOfAckGas (.bigNumber a)
      |>.set .targetDelta (.bigNumber t))) := by
  simp [Store.getBounty, hr, hd, ha, ht, truthy, toDecimal_ne_empty, bind, Except.bind, pure,
    Except.pure]

/-- `getBounty` on a record without `targetDelta`, and on no record, is `null`. -/
theorem getBounty_eq_none (db : Redis) (id : String)
    (hr : fieldOf .targetDelta (db.get (bountyKey id)) = none) :
    Store.getBounty db id = .ok none := by
  unfold Store.getBounty
  cases hg : db.get (bountyKey id) with
  | none => rfl
  | some r =>
    simp only [fieldOf, hg, Option.some_bind] at hr
    simp only [hr]
    split <;> simp_all [pure, Except.pure]

/-- **`getBounty` after a run**: from no record, after any run of calls on one identifier,
`getBounty` returns without throwing; it returns a bounty exactly when the run has a
`registerBountyPlaced` call, and then its two prices are the integers whose decimal strings are
stored, and its `targetDelta` is the first placed event's. -/
theorem getBounty_after_run (cs : List WorkerCall) (db : Redis) (id : String)
    (hdb : db.get (bountyKey id) = none) (hcs : ∀ c ∈ cs, c.call.messageIdentifier = id) :
    ∃ o, Store.getBounty (applyAll cs db) id = .ok o ∧
      (o.isSome ↔ ∃ c ∈ cs, ∃ e, c.call = .bountyPlaced e) ∧
      ∀ b ∈ o, ∃ r d a e, (applyAll cs db).get (bountyKey id) = some r ∧
        r .priceOfDeliveryGas = some (.str (toDecimal d)) ∧
        b .priceOfDeliveryGas = some (.bigNumber d) ∧
        r .priceOfAckGas = some (.str (toDecimal a)) ∧ b .priceOfAckGas = some (.bigNumber a) ∧
        firstPlaced cs = some e ∧ b .targetDelta = some (.bigNumber e.incentive.targetDelta) := by
  have hget := applyAll_get cs db id hcs
  rw [hdb] at hget
  have h := replay_placedInv cs (F := none) (r := none) ⟨trivial, rfl, by simp⟩
  rw [← firstPlaced, ← hget] at h
  rw [← firstPlaced_isSome_iff]
  cases hF : firstPlaced cs with
  | none =>
    refine ⟨none, getBounty_eq_none _ id ?_, by simp, by simp⟩
    simpa [hF] using h.targetDelta
  | some e =>
    have ht := h.targetDelta
    have hp := h.prices
    have hw := h.wf
    rw [hF] at ht hp
    cases hr : (applyAll cs db).get (bountyKey id) with
    | none => simp [fieldOf, hr] at ht
    | some r =>
      have hwr : Wf r := by rw [hr] at hw; exact hw
      simp only [fieldOf, hr, Option.some_bind, Option.isSome_some, forall_const] at ht hp
      obtain ⟨d, hd⟩ := hwr.priceOfDeliveryGas.resolve_left (Option.ne_none_iff_isSome.mpr hp.1)
      obtain ⟨a, ha⟩ := hwr.priceOfAckGas.resolve_left (Option.ne_none_iff_isSome.mpr hp.2)
      refine ⟨_, getBounty_eq_some _ id r hr d a _ hd ha (by simpa using ht), by simp, ?_⟩
      rintro b ⟨⟩
      exact ⟨r, d, a, e, rfl, hd, by simp, ha, by simp, rfl, by simp⟩

/-- After `Increased`, `Delivered`, then `Placed` on a fresh identifier, `getBounty` returns the
bounty: the sparse records before the placement do not stick. -/
theorem getBounty_after_increased_delivered_placed :
    ∃ o, Store.getBounty (applyAll
      [⟨"1", .bountyIncreased ⟨"0xaa", 20, 10, "0xescrow", "0x03"⟩⟩,
       ⟨"2", .messageDelivered ⟨"0xaa", "0xescrow", "0x02"⟩⟩,
       ⟨"1", .bountyPlaced
          ⟨"0xaa", ⟨200000, 200000, "0xrefund", 10, 10, 0⟩, "0xescrow", "0x01"⟩⟩]
      Redis.empty) "0xaa" = .ok o ∧ o.isSome :=
  let ⟨o, h, hs, _⟩ := getBounty_after_run _ Redis.empty "0xaa" rfl (by decide)
  ⟨o, h, hs.2 ⟨_, List.mem_cons_of_mem _ (List.mem_cons_of_mem _ (List.mem_cons_self _ _)), _,
    rfl⟩⟩

end GeneralisedRelayer
