/-
  GeneralisedRelayer.Store.Prices — the two gas prices of a bounty over a run of register calls.

  A price enters a record in two ways: `registerBountyPlaced` writes the event's price unless a
  price is stored (the stored one wins), and `registerBountyIncreased` writes the maximum of the
  stored price (read with `BigNumber.from(stored ?? '0')`) and the new one.  On chain every
  increase is at least the placed price, so a stored price is always at least the placed one,
  and the "stored wins" rule of `registerBountyPlaced` never hides a larger price.

  `PriceInv` is that invariant, with the stored value equal to the running maximum of the
  carried prices; `step_priceInv` is the single step, `replay_priceInv` the run.

  Main results:
    * `stored_price_eq_maxPrice` — after every prefix of a run the stored price reads as the
      maximum of the prices the calls carried, so it never decreases.
-/
import GeneralisedRelayer.Store.Runs

namespace GeneralisedRelayer

/-- The two prices of a bounty. -/
inductive PriceSide where
  | delivery
  | ack
  deriving DecidableEq, Repr

namespace PriceSide

/-- The field holding the price. -/
def field : PriceSide → BountyField
  | .delivery => .priceOfDeliveryGas
  | .ack => .priceOfAckGas

/-- The price a `BountyPlaced` incentive carries. -/
def ofIncentive : PriceSide → Incentive → Nat
  | .delivery, i => i.priceOfDeliveryGas
  | .ack, i => i.priceOfAckGas

/-- The price a `BountyIncreased` event carries. -/
def ofIncreased : PriceSide → BountyIncreasedEvent → Nat
  | .delivery, e => e.newDeliveryGasPrice
  | .ack, e => e.newAckGasPrice

end PriceSide

/-- The price a call carries on `side`, if any. -/
def RegisterCall.price? (side : PriceSide) : RegisterCall → Option Nat
  | .bountyPlaced e => some (side.ofIncentive e.incentive)
  | .bountyIncreased e => some (side.ofIncreased e)
  | _ => none

/-- The largest of `m` and the prices the calls carry on `side`. -/
def maxPriceFrom (side : PriceSide) (m : Nat) (cs : List WorkerCall) : Nat :=
  cs.foldl (fun m c => max m ((c.call.price? side).getD 0)) m

/-- The maximum of the prices the calls carry on `side` (`0` when none carries one). -/
def maxPrice (side : PriceSide) (cs : List WorkerCall) : Nat := maxPriceFrom side 0 cs

/-- The stored price as the code reads it, `BigNumber.from(stored ?? '0')`; no record reads
as `0`. -/
def storedPrice (side : PriceSide) : Option BountyJson → Except String Nat
  | none => .ok 0
  | some r => bigNumberFrom (nullish (r side.field) (.str "0"))

/-- The on-chain guarantee for one call: a placed price is `p`, an increase at least `p`. -/
def PriceGuarantee (side : PriceSide) (p : Nat) (c : WorkerCall) : Prop :=
  (∀ e, c.call = .bountyPlaced e → side.ofIncentive e.incentive = p) ∧
    (∀ e, c.call = .bountyIncreased e → p ≤ side.ofIncreased e)

/-- The price field of a key's content. -/
def priceField (side : PriceSide) (r : Option BountyJson) : Option Json :=
  r.bind (· side.field)

/-- The invariant: a well-formed record whose price holds `M`, at least `p` once present. -/
structure PriceInv (side : PriceSide) (p : Nat) (r : Option BountyJson) (M : Nat) : Prop where
  wf : WfOpt r
  value : decimalValue (priceField side r) = M
  placed_le : (priceField side r).isSome → p ≤ M

theorem priceInv_none (side : PriceSide) (p : Nat) : PriceInv side p none 0 :=
  ⟨trivial, rfl, by simp [priceField]⟩

theorem decimalField_price (side : PriceSide) {r : BountyJson} (hr : Wf r) :
    DecimalField (r side.field) := by
  cases side
  · exact hr.priceOfDeliveryGas
  · exact hr.priceOfAckGas

/-- `registerBountyPlaced` on `side`: the stored price wins, else the event's. -/
theorem placed_price (side : PriceSide) (chainId : String) (e : BountyPlacedEvent)
    (r : Option BountyJson) :
    (placedBounty chainId e r).stringify side.field
      = (priceField side r).or (some (.str (toDecimal (side.ofIncentive e.incentive)))) := by
  cases r with
  | none => cases side <;> simp [placedBounty, priceField, PriceSide.field, PriceSide.ofIncentive]
  | some r =>
    cases h : r side.field <;> cases side <;>
      simp_all [placedBounty, priceField, PriceSide.field, PriceSide.ofIncentive]

theorem priceInv_of_field {side : PriceSide} {p M : Nat} {r r' : Option BountyJson}
    (h : PriceInv side p r M) (hw : WfOpt r') (hf : priceField side r' = priceField side r) :
    PriceInv side p r' M :=
  ⟨hw, hf ▸ h.value, hf ▸ h.placed_le⟩

/-- `registerBountyPlaced` with price `p`: a stored price wins, and is at least `p`; else `p`
is written. -/
theorem priceInv_placed {side : PriceSide} {p M : Nat} {r : Option BountyJson}
    (h : PriceInv side p r M) (chainId : String) (e : BountyPlacedEvent)
    (hp : side.ofIncentive e.incentive = p) :
    PriceInv side p (some (placedBounty chainId e r).stringify)
      (max M (side.ofIncentive e.incentive)) := by
  have hf := placed_price side chainId e r
  rw [hp] at hf ⊢
  have hv := h.value
  have hle := h.placed_le
  refine ⟨wf_placed chainId e r h.wf, ?_, fun _ => le_max_right _ _⟩
  rw [priceField, Option.some_bind, hf]
  cases hr : priceField side r <;> simp_all
  omega

/-- `registerBountyIncreased` with price `q ≥ p`: the stored price becomes `max M q`. -/
theorem priceInv_increased {side : PriceSide} {p M : Nat} {r : Option BountyJson}
    (h : PriceInv side p r M) (chainId : String) (e : BountyIncreasedEvent)
    (hp : p ≤ side.ofIncreased e) :
    PriceInv side p (RegisterCall.step chainId (.bountyIncreased e) r)
      (max M (side.ofIncreased e)) := by
  have hv := h.value
  have hle := h.placed_le
  cases r with
  | none =>
    refine ⟨step_wf ⟨chainId, .bountyIncreased e⟩ h.wf, ?_, fun _ => ?_⟩ <;> cases side <;>
      simp_all [increasedBaseline, priceField, PriceSide.field, PriceSide.ofIncreased] <;> omega
  | some r =>
    have hwr : Wf r := h.wf
    rw [step_increased chainId e r hwr]
    split_ifs
    · refine ⟨wf_increased r hwr _ _, ?_, fun _ => ?_⟩ <;>
        cases side <;> simp_all [priceField, PriceSide.field, PriceSide.ofIncreased]
    · refine ⟨hwr, ?_, fun hs => ?_⟩ <;> cases side <;>
        simp_all [priceField, PriceSide.field, PriceSide.ofIncreased]

/-- **One call keeps the invariant**, the maximum moving to the call's price. -/
theorem step_priceInv (side : PriceSide) (p : Nat) (c : WorkerCall) (hc : PriceGuarantee side p c)
    {r : Option BountyJson} {M : Nat} (h : PriceInv side p r M) :
    PriceInv side p (c.step r) (max M ((c.call.price? side).getD 0)) := by
  have hw := step_wf c h.wf
  rcases c with ⟨chainId, e | e | e | e⟩
  · exact priceInv_placed h chainId e (hc.1 e rfl)
  · simpa [RegisterCall.price?] using priceInv_of_field h hw
      (step_status_call_frame chainId e r side.field (by cases side <;> decide)).1
  · simpa [RegisterCall.price?] using priceInv_of_field h hw
      (step_status_call_frame chainId e r side.field (by cases side <;> decide)).2
  · exact priceInv_increased h chainId e (hc.2 e rfl)

/-- **A run keeps the invariant**, with the maximum of the carried prices. -/
theorem replay_priceInv (side : PriceSide) (p : Nat) (cs : List WorkerCall)
    (hcs : ∀ c ∈ cs, PriceGuarantee side p c) {r : Option BountyJson} {M : Nat}
    (h : PriceInv side p r M) : PriceInv side p (replay cs r) (maxPriceFrom side M cs) := by
  induction cs generalizing r M with
  | nil => exact h
  | cons c cs ih =>
    exact ih (fun c' h' => hcs c' (List.mem_cons_of_mem c h'))
      (step_priceInv side p c (hcs c (List.mem_cons_self c cs)) h)

theorem storedPrice_of_priceInv {side : PriceSide} {p M : Nat} {r : Option BountyJson}
    (h : PriceInv side p r M) : storedPrice side r = .ok M := by
  cases r with
  | none => rw [← h.value]; rfl
  | some r =>
    have hd := decimalField_price side (show Wf r from h.wf)
    rw [storedPrice, bigNumberFrom_nullish hd, ← h.value]
    rfl

theorem maxPriceFrom_le (side : PriceSide) (m : Nat) (cs : List WorkerCall) :
    m ≤ maxPriceFrom side m cs := by
  induction cs generalizing m with
  | nil => exact le_refl m
  | cons c cs ih => exact le_trans (le_max_left _ _) (ih _)

theorem maxPriceFrom_append (side : PriceSide) (m : Nat) (cs cs' : List WorkerCall) :
    maxPriceFrom side m (cs ++ cs') = maxPriceFrom side (maxPriceFrom side m cs) cs' :=
  List.foldl_append _ _ _ _

theorem maxPrice_take_succ (side : PriceSide) (cs : List WorkerCall) (n : Nat) :
    maxPrice side (cs.take n) ≤ maxPrice side (cs.take (n + 1)) := by
  rw [List.take_succ, maxPrice, maxPrice, maxPriceFrom_append]
  exact maxPriceFrom_le _ _ _

/-- **The stored price is the running maximum**: on a run of calls on one identifier from no
record, in which every placed price is `p` and every increase at least `p`, the price the code
reads after any number of calls is the maximum of the prices carried so far (so it never
decreases), and after the whole run the maximum over the run. -/
theorem stored_price_eq_maxPrice (side : PriceSide) (p : Nat) (cs : List WorkerCall)
    (db : Redis) (id : String) (hdb : db.get (bountyKey id) = none)
    (hcs : ∀ c ∈ cs, c.call.messageIdentifier = id)
    (hg : ∀ c ∈ cs, PriceGuarantee side p c) :
    (∀ n, storedPrice side ((applyAll (cs.take n) db).get (bountyKey id))
        = .ok (maxPrice side (cs.take n))) ∧
      (∀ n, maxPrice side (cs.take n) ≤ maxPrice side (cs.take (n + 1))) ∧
      storedPrice side ((applyAll cs db).get (bountyKey id)) = .ok (maxPrice side cs) := by
  have hrun : ∀ cs' : List WorkerCall, (∀ c ∈ cs', c ∈ cs) →
      storedPrice side ((applyAll cs' db).get (bountyKey id)) = .ok (maxPrice side cs') :=
    fun cs' hsub => by
      rw [applyAll_get cs' db id (fun c hc => hcs c (hsub c hc)), hdb]
      exact storedPrice_of_priceInv
        (replay_priceInv side p cs' (fun c hc => hg c (hsub c hc)) (priceInv_none side p))
  exact ⟨fun n => hrun _ (fun c hc => List.mem_of_mem_take hc), maxPrice_take_succ side cs,
    hrun cs (fun _ h => h)⟩

/-- Scenario 4 of the spec: increases of `20`, `15`, `25` over a placed price of `10` leave the
stored delivery price at `25`. -/
theorem stored_price_increases :
    storedPrice .delivery ((applyAll
      [⟨"1", .bountyPlaced
          ⟨"0xaa", ⟨200000, 200000, "0xrefund", 10, 10, 0⟩, "0xescrow", "0x01"⟩⟩,
       ⟨"1", .bountyIncreased ⟨"0xaa", 20, 10, "0xescrow", "0x03"⟩⟩,
       ⟨"1", .bountyIncreased ⟨"0xaa", 15, 10, "0xescrow", "0x04"⟩⟩,
       ⟨"1", .bountyIncreased ⟨"0xaa", 25, 10, "0xescrow", "0x05"⟩⟩]
      Redis.empty).get (bountyKey "0xaa")) = .ok 25 :=
  (stored_price_eq_maxPrice .delivery 10 _ Redis.empty "0xaa" rfl (by decide)
    (by simp [PriceGuarantee, PriceSide.ofIncentive, PriceSide.ofIncreased])).2.2

end GeneralisedRelayer
