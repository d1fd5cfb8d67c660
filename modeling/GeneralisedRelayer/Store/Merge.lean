/-
  GeneralisedRelayer.Store.Merge — what a run of register calls leaves at a bounty key, and
  whether the order of the calls matters.

  The four register calls are meant as merges, so that a scanner re-run from an earlier block,
  or the source and destination workers racing ahead of each other, leave the same record.

  The abstract model says what the record is for.  A `Summary` of the calls holds the first
  placement, the last delivery and the last claim, each with the chain whose `Store` made it,
  the largest price carried on each side and the largest status; `Summary.toRecord` is the
  record it stands for, and `Summary.add` one more call.  Each register call on the abstract
  record is one `Summary.add` (`Summary.step_toRecord`), so a run that starts with a
  status-bearing call leaves the record of its summary.  With at most one call of each
  status-bearing kind, the summary depends only on which calls were made.

  A run that starts with `registerBountyIncreased` is outside this: the increase's baseline has
  no status, and a `registerMessageDelivered` or `registerBountyClaimed` that meets it writes
  `Math.max(undefined, k)`, which is `NaN` and is stored as `null`; the later
  `registerBountyPlaced` keeps the stored `null`.

  Main results:
    * `replay_eq_summarize` — a run from no record that starts with a status-bearing call, under
      the price guarantee, leaves the record of its summary.
    * `applyAll_eq_of_same_calls` — two such runs with the same calls, in any order and with any
      repetitions, at most one call of each status-bearing kind, leave the same record.
    * `replays_differ_increased_first` — one placement, one increase and one delivery, in two
      orders, leave statuses `null` and `MessageDelivered`.
-/
import GeneralisedRelayer.Store.Status
import GeneralisedRelayer.Store.Prices
import GeneralisedRelayer.Store.GetBounty

namespace GeneralisedRelayer

/-! ## §1. The abstract record. -/

/-- The event of a `registerMessageDelivered` call. -/
def RegisterCall.delivered? : RegisterCall → Option EscrowEvent
  | .messageDelivered e => some e
  | _ => none

/-- The event of a `registerBountyClaimed` call. -/
def RegisterCall.claimed? : RegisterCall → Option EscrowEvent
  | .bountyClaimed e => some e
  | _ => none

/-- The event `sel` picks from a call, with the chain whose `Store` made the call. -/
def WorkerCall.pick {α : Type} (sel : RegisterCall → Option α) (c : WorkerCall) :
    Option (String × α) :=
  (sel c.call).map (c.chainId, ·)

/-- What the register calls on one identifier have said of its bounty: the first placement, the
last delivery and the last claim, each with the chain whose `Store` made it, the largest price
carried on each side (`0` when none is), and the largest status carried. -/
@[ext] structure Summary where
  messageIdentifier : String
  placed : Option (String × BountyPlacedEvent)
  delivered : Option (String × EscrowEvent)
  claimed : Option (String × EscrowEvent)
  delivery : Nat
  ack : Nat
  status : Option Nat
  deriving DecidableEq, Repr

@[simp] theorem max_none_right (o : Option Nat) : max o none = o := by
  cases o <;> rfl

namespace Summary

/-- No call yet. -/
def empty (id : String) : Summary := ⟨id, none, none, none, 0, 0, none⟩

/-- One more call: a later placement adds nothing, a later delivery or claim replaces the
earlier, and the prices and the status keep their maxima. -/
def add (S : Summary) (c : WorkerCall) : Summary where
  messageIdentifier := S.messageIdentifier
  placed := S.placed.or (c.pick RegisterCall.placed?)
  delivered := (c.pick RegisterCall.delivered?).or S.delivered
  claimed := (c.pick RegisterCall.claimed?).or S.claimed
  delivery := max S.delivery ((c.call.price? .delivery).getD 0)
  ack := max S.ack ((c.call.price? .ack).getD 0)
  status := max S.status (c.call.status?.map BountyStatus.toNat)

section Add

variable (S : Summary) (chainId : String)

@[simp] theorem add_bountyPlaced (e : BountyPlacedEvent) :
    S.add ⟨chainId, .bountyPlaced e⟩ = { S with
      placed := S.placed.or (some (chainId, e))
      delivery := max S.delivery e.incentive.priceOfDeliveryGas
      ack := max S.ack e.incentive.priceOfAckGas
      status := max S.status (some BountyStatus.bountyPlaced.toNat) } := rfl

@[simp] theorem add_messageDelivered (e : EscrowEvent) :
    S.add ⟨chainId, .messageDelivered e⟩ = { S with
      delivered := some (chainId, e)
      status := max S.status (some BountyStatus.messageDelivered.toNat) } := by
  simp [add, WorkerCall.pick, RegisterCall.placed?, RegisterCall.delivered?, RegisterCall.claimed?,
    RegisterCall.price?, RegisterCall.status?, Option.or_none]

@[simp] theorem add_bountyClaimed (e : EscrowEvent) :
    S.add ⟨chainId, .bountyClaimed e⟩ = { S with
      claimed := some (chainId, e)
      status := max S.status (some BountyStatus.bountyClaimed.toNat) } := by
  simp [add, WorkerCall.pick, RegisterCall.placed?, RegisterCall.delivered?, RegisterCall.claimed?,
    RegisterCall.price?, RegisterCall.status?, Option.or_none]

@[simp] theorem add_bountyIncreased (e : BountyIncreasedEvent) :
    S.add ⟨chainId, .bountyIncreased e⟩ = { S with
      delivery := max S.delivery e.newDeliveryGasPrice
      ack := max S.ack e.newAckGasPrice } := by
  simp [add, WorkerCall.pick, RegisterCall.placed?, RegisterCall.delivered?, RegisterCall.claimed?,
    RegisterCall.price?, RegisterCall.status?, PriceSide.ofIncreased, Option.or_none]

end Add

/-- The largest price on `side`. -/
def price (S : Summary) : PriceSide → Nat
  | .delivery => S.delivery
  | .ack => S.ack

/-- Whether the record holds prices: once a placement, or an increase above `0`, was made. -/
def written (S : Summary) : Bool := S.placed.isSome || 0 < S.delivery || 0 < S.ack

/-- The price field on `side`: the largest price as a decimal string, once prices are written. -/
def priceJson (S : Summary) (side : PriceSide) : Option Json :=
  if S.written then some (.str (toDecimal (S.price side))) else none

/-- The record a summary stands for: the placement's fields, the delivery's and the claim's
hashes and chains (the claim's chain is the `fromChainId`, before the placement's), the largest
prices once written, and the largest status. -/
def toRecord (S : Summary) : BountyJson := fun f =>
  match f with
  | .messageIdentifier => some (.str S.messageIdentifier)
  | .fromChainId => ((S.claimed.map (·.1)).or (S.placed.map (·.1))).map .str
  | .toChainId => S.delivered.map fun d => .str d.1
  | .maxGasDelivery => S.placed.map fun p => .num p.2.incentive.maxGasDelivery
  | .maxGasAck => S.placed.map fun p => .num p.2.incentive.maxGasAck
  | .refundGasTo => S.placed.map fun p => .str p.2.incentive.refundGasTo
  | .priceOfDeliveryGas => S.priceJson .delivery
  | .priceOfAckGas => S.priceJson .ack
  | .targetDelta => S.placed.map fun p => .str (toDecimal p.2.incentive.targetDelta)
  | .status => S.status.map .num
  | .address => S.placed.map fun p => .str p.2.incentivesAddress
  | .finalised => S.placed.map fun _ => .bool false
  | .submitTransactionHash => S.placed.map fun p => .str p.2.transactionHash
  | .execTransactionHash => S.delivered.map fun d => .str d.2.transactionHash
  | .ackTransactionHash => S.claimed.map fun c => .str c.2.transactionHash

end Summary

/-- The summary of the calls `cs` on identifier `id`. -/
def summarize (id : String) (cs : List WorkerCall) : Summary := cs.foldl Summary.add (.empty id)

/-! ## §2. One call on the abstract record. -/

namespace Summary

/-- What a summary of calls under the price guarantee keeps (placed prices `p side`, increases
at least these): a status, and prices at least the placed ones once written. -/
structure Inv (p : PriceSide → Nat) (S : Summary) : Prop where
  status : S.status.isSome
  price : S.written → ∀ side, p side ≤ S.price side

variable (S : Summary)

theorem price_of_not_written (h : S.written = false) (side : PriceSide) : S.price side = 0 := by
  cases side <;> simp_all [written, price]

theorem price_add (c : WorkerCall) (side : PriceSide) :
    (S.add c).price side = max (S.price side) ((c.call.price? side).getD 0) := by
  cases side <;> rfl

theorem decimalField_priceJson (side : PriceSide) : DecimalField (S.priceJson side) := by
  unfold priceJson; split_ifs <;> simp

theorem decimalValue_priceJson (side : PriceSide) :
    decimalValue (S.priceJson side) = S.price side := by
  cases h : S.written
  · simp [priceJson, h, price_of_not_written S h]
  · simp [priceJson, h]

theorem wf_toRecord : Wf S.toRecord where
  status := by cases h : S.status <;> simp [toRecord, h]
  priceOfDeliveryGas := S.decimalField_priceJson .delivery
  priceOfAckGas := S.decimalField_priceJson .ack
  targetDelta := by cases h : S.placed <;> simp [toRecord, h]

variable {p : PriceSide → Nat}

/-- A placement keeps what is stored: the first placement's fields, and prices that are already
at least the placed ones. -/
theorem step_toRecord_placed (h : S.Inv p) (chainId : String) (e : BountyPlacedEvent)
    (hp : ∀ side, side.ofIncentive e.incentive = p side) :
    RegisterCall.step chainId (.bountyPlaced e) (some S.toRecord) =
      some (S.add ⟨chainId, .bountyPlaced e⟩).toRecord := by
  obtain ⟨n, hn⟩ := Option.isSome_iff_exists.1 h.status
  have hprice : ∀ side,
      (S.priceJson side).or (some (.str (toDecimal (side.ofIncentive e.incentive)))) =
        (S.add ⟨chainId, .bountyPlaced e⟩).priceJson side := by
    intro side
    have hw : (S.add ⟨chainId, .bountyPlaced e⟩).written = true := by simp [written]
    rw [priceJson, priceJson, hw, price_add]
    cases hs : S.written
    · simp [price_of_not_written S hs, RegisterCall.price?]
    · simp [RegisterCall.price?, hp, h.price hs side]
  simp only [RegisterCall.step_bountyPlaced, Option.some.injEq]
  funext f
  cases f
  case priceOfDeliveryGas =>
    simpa [placedBounty, toRecord, Option.map_or', PriceSide.ofIncentive] using hprice .delivery
  case priceOfAckGas =>
    simpa [placedBounty, toRecord, Option.map_or', PriceSide.ofIncentive] using hprice .ack
  all_goals simp only [placedBounty, BountyStatus.toNat, JsObject.stringify_apply,
    JsObject.spread_apply, JsObject.ofJson_apply, toRecord, Option.map_some', JsObject.set_apply,
    reduceCtorEq, ↓reduceIte, Option.or_some, JsValue.toJson_json, add_bountyPlaced, hn,
    Option.max_some_some, zero_le, sup_of_le_left, Option.map_or', Option.map_map, Option.or_assoc,
    JsValue.toJson_comp_json_comp, JsObject.empty_apply, Option.or_none, JsValue.toJson_num,
    JsValue.toJson_bigNumber]

theorem step_toRecord_delivered (h : S.Inv p) (chainId : String) (e : EscrowEvent) :
    RegisterCall.step chainId (.messageDelivered e) (some S.toRecord) =
      some (S.add ⟨chainId, .messageDelivered e⟩).toRecord := by
  obtain ⟨n, hn⟩ := Option.isSome_iff_exists.1 h.status
  simp only [RegisterCall.step_messageDelivered, Option.some.injEq]
  funext f
  cases f <;> simp only [deliveredBounty, statusBounty, mathMax, toNumber, toRecord, hn,
    Option.map_some', BountyStatus.toNat, JsObject.stringify_apply, JsObject.set_apply,
    reduceCtorEq, ↓reduceIte, JsObject.ofJson_apply, JsValue.toJson_json, add_messageDelivered,
    Option.max_some_some, Option.map_map, JsValue.toJson_comp_json_comp, priceJson, written,
    Bool.or_eq_true, decide_eq_true_eq, price, Option.map_if, JsValue.toJson_num]

theorem step_toRecord_claimed (h : S.Inv p) (chainId : String) (e : EscrowEvent) :
    RegisterCall.step chainId (.bountyClaimed e) (some S.toRecord) =
      some (S.add ⟨chainId, .bountyClaimed e⟩).toRecord := by
  obtain ⟨n, hn⟩ := Option.isSome_iff_exists.1 h.status
  simp only [RegisterCall.step_bountyClaimed, Option.some.injEq, claimedBounty_eq]
  funext f
  cases f <;> simp only [statusBounty, mathMax, toNumber, toRecord, hn, Option.map_some',
    BountyStatus.toNat, JsObject.stringify_apply, JsObject.set_apply, reduceCtorEq, ↓reduceIte,
    JsObject.ofJson_apply, JsValue.toJson_json, add_bountyClaimed, Option.max_some_some,
    Option.or_some, Option.map_map, JsValue.toJson_comp_json_comp, priceJson, written,
    Bool.or_eq_true, decide_eq_true_eq, price, Option.map_if, JsValue.toJson_num]

/-- An increase reads the stored prices as the summary's maxima, and writes only when one of
them rises. -/
theorem step_toRecord_increased (chainId : String) (e : BountyIncreasedEvent) :
    RegisterCall.step chainId (.bountyIncreased e) (some S.toRecord) =
      some (S.add ⟨chainId, .bountyIncreased e⟩).toRecord := by
  have hd : decimalValue (S.toRecord .priceOfDeliveryGas) = S.delivery :=
    S.decimalValue_priceJson .delivery
  have ha : decimalValue (S.toRecord .priceOfAckGas) = S.ack := S.decimalValue_priceJson .ack
  rw [step_increased chainId e _ S.wf_toRecord, hd, ha]
  split_ifs with hr
  · congr 1
    funext f
    cases f <;> simp only [JsObject.stringify_apply, JsObject.set_apply, reduceCtorEq, ↓reduceIte,
      JsObject.ofJson_apply, toRecord, Option.map_some', JsValue.toJson_json, add_bountyIncreased,
      Option.map_map, JsValue.toJson_comp_json_comp, JsValue.toJson_bigNumber, priceJson, written,
      lt_sup_iff, Bool.decide_or, Bool.or_eq_true, decide_eq_true_eq, price,
      Option.some_eq_ite_none_right, and_true] <;> omega
  · have hS : S.add ⟨chainId, .bountyIncreased e⟩ = S := by
      simp [Summary.ext_iff]; omega
    rw [hS]

/-- **Each register call on the abstract record is one `Summary.add`**, under the price
guarantee. -/
theorem step_toRecord (h : S.Inv p) (c : WorkerCall)
    (hc : ∀ side, PriceGuarantee side (p side) c) :
    c.step (some S.toRecord) = some (S.add c).toRecord := by
  rcases c with ⟨chainId, e | e | e | e⟩
  · exact S.step_toRecord_placed h chainId e fun side => (hc side).1 e rfl
  · exact S.step_toRecord_delivered h chainId e
  · exact S.step_toRecord_claimed h chainId e
  · exact S.step_toRecord_increased chainId e

theorem add_price_le (h : S.written → ∀ side, p side ≤ S.price side) (c : WorkerCall)
    (hc : ∀ side, PriceGuarantee side (p side) c) :
    (S.add c).written → ∀ side, p side ≤ (S.add c).price side := by
  intro hw side
  rw [price_add]
  rcases c with ⟨chainId, e | e | e | e⟩
  · exact le_max_of_le_right (by simp [RegisterCall.price?, (hc side).1 e rfl])
  · exact le_max_of_le_left (h (by simpa [written] using hw) side)
  · exact le_max_of_le_left (h (by simpa [written] using hw) side)
  · exact le_max_of_le_right (by simpa [RegisterCall.price?] using (hc side).2 e rfl)

theorem add_status_isSome (c : WorkerCall) (h : S.status.isSome ∨ c.call.status?.isSome) :
    (S.add c).status.isSome := by
  show (max S.status (c.call.status?.map BountyStatus.toNat)).isSome
  cases hs : S.status <;> cases hk : c.call.status? <;> simp_all

theorem Inv.add {S : Summary} (h : S.Inv p) (c : WorkerCall)
    (hc : ∀ side, PriceGuarantee side (p side) c) : (S.add c).Inv p :=
  ⟨S.add_status_isSome c (.inl h.status), S.add_price_le h.price c hc⟩

theorem inv_empty_add (id : String) (c : WorkerCall) (hc : c.call.status?.isSome)
    (hg : ∀ side, PriceGuarantee side (p side) c) : ((empty id).add c).Inv p :=
  ⟨(empty id).add_status_isSome c (.inr hc),
    (empty id).add_price_le (by simp [empty, written]) c hg⟩

/-- A status-bearing call on no record writes the record of its own summary. -/
theorem step_none (c : WorkerCall) (hc : c.call.status?.isSome) :
    c.step none = some ((empty c.call.messageIdentifier).add c).toRecord := by
  rcases c with ⟨chainId, e | e | e | e⟩
  · simp only [WorkerCall.step, RegisterCall.step_bountyPlaced, Option.some.injEq]
    funext f
    cases f <;> simp only [placedBounty, BountyStatus.toNat, JsObject.stringify_apply,
      JsObject.set_apply, reduceCtorEq, ↓reduceIte, Option.map_some', JsValue.toJson_json, toRecord,
      empty, RegisterCall.messageIdentifier, add_bountyPlaced, Option.none_or, zero_le,
      sup_of_le_right, Option.max_none_some, Option.map_none', JsObject.empty_apply,
      JsValue.toJson_num, JsValue.toJson_bigNumber, priceJson, written, Option.isSome_some,
      Bool.true_or, price]
  · simp only [WorkerCall.step, RegisterCall.step_messageDelivered, Option.some.injEq]
    funext f
    cases f <;> simp only [deliveredBounty, statusBounty, BountyStatus.toNat,
      JsObject.stringify_apply, JsObject.set_apply, reduceCtorEq, ↓reduceIte, Option.map_some',
      JsValue.toJson_json, toRecord, empty, RegisterCall.messageIdentifier, add_messageDelivered,
      Option.max_none_some, JsObject.empty_apply, Option.map_none', Option.or_self, priceJson,
      written, Option.isSome_none, lt_self_iff_false, decide_False, Bool.or_self,
      Bool.false_eq_true, JsValue.toJson_num]
  · simp only [WorkerCall.step, RegisterCall.step_bountyClaimed, Option.some.injEq]
    funext f
    cases f <;> simp only [claimedBounty, BountyStatus.toNat, JsObject.stringify_apply,
      JsObject.set_apply, reduceCtorEq, ↓reduceIte, Option.map_some', JsValue.toJson_json, toRecord,
      empty, RegisterCall.messageIdentifier, add_bountyClaimed, Option.max_none_some,
      Option.map_none', Option.or_none, JsObject.empty_apply, priceJson, written,
      Option.isSome_none,
      lt_self_iff_false, decide_False, Bool.or_self, Bool.false_eq_true, JsValue.toJson_num]
  · simp [RegisterCall.status?] at hc

/-! ## §3. Runs. -/

theorem replay_toRecord (cs : List WorkerCall)
    (hg : ∀ c ∈ cs, ∀ side, PriceGuarantee side (p side) c) (S : Summary) (h : S.Inv p) :
    replay cs (some S.toRecord) = some (cs.foldl add S).toRecord := by
  induction cs generalizing S with
  | nil => rfl
  | cons c cs ih =>
    rw [replay_cons, S.step_toRecord h c (hg c (List.mem_cons_self c cs))]
    exact ih (fun c' hc' => hg c' (List.mem_cons_of_mem c hc')) _
      (h.add c (hg c (List.mem_cons_self c cs)))

end Summary

/-- **A run leaves the record of its summary**: from no record, a run that starts with a
placement, a delivery or a claim, in which every placed price is `p side` and every increase at
least that, leaves the first placement's fields, the last delivery's and claim's hashes and
chains, the largest prices carried and the largest status carried. -/
theorem replay_eq_summarize (p : PriceSide → Nat) (c : WorkerCall) (cs : List WorkerCall)
    (hc : c.call.status?.isSome) (hg : ∀ c' ∈ c :: cs, ∀ side, PriceGuarantee side (p side) c') :
    replay (c :: cs) none = some (summarize c.call.messageIdentifier (c :: cs)).toRecord := by
  rw [replay_cons, Summary.step_none c hc]
  exact Summary.replay_toRecord cs (fun c' h => hg c' (List.mem_cons_of_mem c h)) _
    (Summary.inv_empty_add _ c hc (hg c (List.mem_cons_self c cs)))

/-- The destination's delivery, then the source's placement. -/
theorem delivered_then_placed_summarized :
    let placed : WorkerCall := ⟨"1", .bountyPlaced
      ⟨"0xaa", ⟨200000, 200000, "0xrefund", 10, 10, 0⟩, "0xescrow", "0x01"⟩⟩
    let delivered : WorkerCall := ⟨"2", .messageDelivered ⟨"0xaa", "0xescrow", "0x02"⟩⟩
    replay [delivered, placed] none = some (summarize "0xaa" [delivered, placed]).toRecord := by
  intro placed delivered
  refine replay_eq_summarize (fun _ => 10) delivered [placed] rfl ?_
  simp only [List.mem_cons, List.not_mem_nil, or_false]
  rintro c (rfl | rfl) side <;> cases side <;>
    simp [PriceGuarantee, placed, delivered, PriceSide.ofIncentive]

/-! ## §4. The order of the calls. -/

theorem foldl_add_fields (S : Summary) (cs : List WorkerCall) :
    cs.foldl Summary.add S =
      ⟨S.messageIdentifier, cs.foldl (fun x c => x.or (c.pick RegisterCall.placed?)) S.placed,
        cs.foldl (fun x c => (c.pick RegisterCall.delivered?).or x) S.delivered,
        cs.foldl (fun x c => (c.pick RegisterCall.claimed?).or x) S.claimed,
        maxPriceFrom .delivery S.delivery cs, maxPriceFrom .ack S.ack cs,
        statusFold S.status cs⟩ := by
  induction cs generalizing S with
  | nil => rfl
  | cons c cs ih => exact ih _

section OrFold

variable {β : Type} (op : Option β → Option β → Option β) (g : WorkerCall → Option β)

/-- A field that `Option.or` gathers, first or last, from calls that each give nothing or `v`
stays within `none` and `v`, and is set once one of them gives something. -/
theorem foldl_or_agree (hop : ∀ x y, op x y = x.or y ∨ op x y = y.or x) (v : Option β)
    (cs : List WorkerCall) (x : Option β) (hx : x = none ∨ x = v)
    (hcs : ∀ c ∈ cs, g c = none ∨ g c = v) :
    (cs.foldl (fun x c => op x (g c)) x = none ∨ cs.foldl (fun x c => op x (g c)) x = v) ∧
      ((cs.foldl (fun x c => op x (g c)) x).isSome ↔ x.isSome ∨ ∃ c ∈ cs, (g c).isSome) := by
  induction cs generalizing x with
  | nil => simpa using hx
  | cons c cs ih =>
    have hstep : (op x (g c) = none ∨ op x (g c) = v) ∧
        ((op x (g c)).isSome ↔ x.isSome ∨ (g c).isSome) := by
      rcases hop x (g c) with h | h <;> rw [h] <;> rcases hx with hx | hx <;>
        rcases hcs c (List.mem_cons_self c cs) with hy | hy <;> rw [hx, hy] <;> cases v <;> simp
    obtain ⟨h1, h2⟩ := ih (op x (g c)) hstep.1 (fun c' h => hcs c' (List.mem_cons_of_mem c h))
    refine ⟨h1, ?_⟩
    rw [List.foldl_cons, h2, hstep.2]
    simp [or_assoc]

/-- Such a field depends only on which calls were made, when the calls that give something all
give the same. -/
theorem foldl_or_congr (hop : ∀ x y, op x y = x.or y ∨ op x y = y.or x)
    (A B : List WorkerCall) (hmem : ∀ c, c ∈ A ↔ c ∈ B)
    (hu : ∀ c ∈ A, ∀ c' ∈ A, (g c).isSome → (g c').isSome → g c = g c') :
    A.foldl (fun x c => op x (g c)) none = B.foldl (fun x c => op x (g c)) none := by
  obtain ⟨v, hv⟩ : ∃ v, ∀ c ∈ A, g c = none ∨ g c = v := by
    by_cases hA : ∃ c ∈ A, (g c).isSome
    · obtain ⟨c₀, hc₀, hs⟩ := hA
      refine ⟨g c₀, fun c hc => ?_⟩
      cases h : (g c).isSome
      · exact .inl (Option.not_isSome_iff_eq_none.1 (by simp [h]))
      · exact .inr (hu c hc c₀ hc₀ h hs)
    · exact ⟨none, fun c hc => .inl (Option.not_isSome_iff_eq_none.1 fun h => hA ⟨c, hc, h⟩)⟩
  have hA := foldl_or_agree op g hop v A none (.inl rfl) hv
  have hB := foldl_or_agree op g hop v B none (.inl rfl) (fun c hc => hv c ((hmem c).2 hc))
  have hiff : (A.foldl (fun x c => op x (g c)) none).isSome =
      (B.foldl (fun x c => op x (g c)) none).isSome := by
    rw [Bool.eq_iff_iff, hA.2, hB.2]
    simp only [hmem]
  rcases hA.1 with hA1 | hA1 <;> rcases hB.1 with hB1 | hB1 <;> rw [hA1, hB1] at hiff ⊢ <;>
    cases v <;> simp at hiff ⊢

end OrFold

theorem foldl_max_le_iff (f : WorkerCall → Nat) (n m : Nat) (cs : List WorkerCall) :
    cs.foldl (fun k c => max k (f c)) n ≤ m ↔ n ≤ m ∧ ∀ c ∈ cs, f c ≤ m := by
  induction cs generalizing n with
  | nil => simp
  | cons c cs ih => simp [ih, and_assoc]

/-- A maximum over the calls depends only on which calls were made. -/
theorem foldl_max_congr (f : WorkerCall → Nat) (n : Nat) (A B : List WorkerCall)
    (hmem : ∀ c, c ∈ A ↔ c ∈ B) :
    A.foldl (fun k c => max k (f c)) n = B.foldl (fun k c => max k (f c)) n := by
  have hle : ∀ A B : List WorkerCall, (∀ c ∈ A, c ∈ B) →
      A.foldl (fun k c => max k (f c)) n ≤ B.foldl (fun k c => max k (f c)) n :=
    fun A B hAB => by
      obtain ⟨hn, hB⟩ := (foldl_max_le_iff f n _ B).1 le_rfl
      exact (foldl_max_le_iff f n _ A).2 ⟨hn, fun c hc => hB c (hAB c hc)⟩
  exact le_antisymm (hle A B fun c => (hmem c).1) (hle B A fun c => (hmem c).2)

theorem statusFold_some (n : Nat) (cs : List WorkerCall) :
    statusFold (some n) cs =
      some (cs.foldl (fun k c => max k ((c.call.status?.map BountyStatus.toNat).getD 0)) n) := by
  induction cs generalizing n with
  | nil => rfl
  | cons c cs ih =>
    show statusFold (max (some n) _) cs = _
    cases h : c.call.status? <;> simp [h, ih]

theorem maxStatus_cons (c : WorkerCall) (cs : List WorkerCall) (hc : c.call.status?.isSome) :
    maxStatus (c :: cs) = some ((c :: cs).foldl
      (fun k c => max k ((c.call.status?.map BountyStatus.toNat).getD 0)) 0) := by
  obtain ⟨k, hk⟩ := Option.isSome_iff_exists.1 hc
  show statusFold (max none _) cs = _
  simp [hk, statusFold_some]

/-- The chain's guarantee on the calls for one identifier: at most one placement, one delivery
and one claim, each recorded by one chain's `Store`, so that two calls of one status-bearing
kind are the same call. -/
def UniqueEvents (cs : List WorkerCall) : Prop :=
  ∀ c ∈ cs, ∀ c' ∈ cs, c.call.status?.isSome → c.call.status? = c'.call.status? → c = c'

theorem pick_agree {α : Type} (sel : RegisterCall → Option α) (k : BountyStatus)
    (hk : ∀ r, (sel r).isSome → r.status? = some k) {cs : List WorkerCall}
    (hu : UniqueEvents cs) :
    ∀ c ∈ cs, ∀ c' ∈ cs, (c.pick sel).isSome → (c'.pick sel).isSome →
      c.pick sel = c'.pick sel := by
  intro c hc c' hc' h h'
  simp only [WorkerCall.pick, Option.isSome_map'] at h h'
  rw [hu c hc c' hc' (by rw [hk _ h]; rfl) (by rw [hk _ h, hk _ h'])]

/-- Under the chain's guarantee, the summary of a run that starts with a status-bearing call
depends only on which calls were made. -/
theorem summarize_congr (id : String) (a b : WorkerCall) (A B : List WorkerCall)
    (hmem : ∀ c, c ∈ a :: A ↔ c ∈ b :: B) (ha : a.call.status?.isSome)
    (hb : b.call.status?.isSome) (hu : UniqueEvents (a :: A)) :
    summarize id (a :: A) = summarize id (b :: B) := by
  rw [summarize, summarize, foldl_add_fields, foldl_add_fields]
  simp only [Summary.empty, Summary.mk.injEq, true_and]
  refine ⟨foldl_or_congr _ _ (fun _ _ => .inl rfl) _ _ hmem (pick_agree _ .bountyPlaced
      (fun r h => by cases r <;> simp_all [RegisterCall.placed?, RegisterCall.status?]) hu),
    foldl_or_congr (fun x y => y.or x) _ (fun _ _ => .inr rfl) _ _ hmem
      (pick_agree _ .messageDelivered
        (fun r h => by cases r <;> simp_all [RegisterCall.delivered?, RegisterCall.status?]) hu),
    foldl_or_congr (fun x y => y.or x) _ (fun _ _ => .inr rfl) _ _ hmem
      (pick_agree _ .bountyClaimed
        (fun r h => by cases r <;> simp_all [RegisterCall.claimed?, RegisterCall.status?]) hu),
    foldl_max_congr _ _ _ _ hmem, foldl_max_congr _ _ _ _ hmem, ?_⟩
  rw [← maxStatus, ← maxStatus, maxStatus_cons a A ha, maxStatus_cons b B hb,
    foldl_max_congr _ _ _ _ hmem]

/-- **The order and the repetition of the calls do not show in the record**: two runs on one
identifier from no record, each starting with a placement, a delivery or a claim, with the same
calls (in any order, any repeated), at most one call of each status-bearing kind, every placed
price `p side` and every increase at least that, leave the same record. -/
theorem applyAll_eq_of_same_calls (p : PriceSide → Nat) (db : Redis) (id : String)
    (hdb : db.get (bountyKey id) = none) (a b : WorkerCall) (A B : List WorkerCall)
    (hmem : ∀ c, c ∈ a :: A ↔ c ∈ b :: B) (ha : a.call.status?.isSome)
    (hb : b.call.status?.isSome) (hid : ∀ c ∈ a :: A, c.call.messageIdentifier = id)
    (hg : ∀ c ∈ a :: A, ∀ side, PriceGuarantee side (p side) c) (hu : UniqueEvents (a :: A)) :
    (applyAll (a :: A) db).get (bountyKey id) = (applyAll (b :: B) db).get (bountyKey id) := by
  have hidB : ∀ c ∈ b :: B, c.call.messageIdentifier = id := fun c hc => hid c ((hmem c).2 hc)
  rw [applyAll_get _ db id hid, applyAll_get _ db id hidB, hdb,
    replay_eq_summarize p a A ha hg, replay_eq_summarize p b B hb fun c hc => hg c ((hmem c).2 hc),
    hid a (List.mem_cons_self a A), hidB b (List.mem_cons_self b B),
    summarize_congr id a b A B hmem ha hb hu]

/-- A scanner re-run: the delivery, an increase, the placement twice and the claim, against the
placement, the claim, the increase and the delivery. -/
theorem rescan_leaves_same_record :
    let placed : WorkerCall := ⟨"1", .bountyPlaced
      ⟨"0xaa", ⟨200000, 200000, "0xrefund", 10, 10, 0⟩, "0xescrow", "0x01"⟩⟩
    let increased : WorkerCall := ⟨"1", .bountyIncreased ⟨"0xaa", 20, 20, "0xescrow", "0x03"⟩⟩
    let delivered : WorkerCall := ⟨"2", .messageDelivered ⟨"0xaa", "0xescrow", "0x02"⟩⟩
    let claimed : WorkerCall := ⟨"1", .bountyClaimed ⟨"0xaa", "0xescrow", "0x04"⟩⟩
    (applyAll [delivered, increased, placed, placed, claimed] Redis.empty).get (bountyKey "0xaa") =
      (applyAll [placed, claimed, increased, delivered] Redis.empty).get (bountyKey "0xaa") := by
  intro placed increased delivered claimed
  refine applyAll_eq_of_same_calls (fun _ => 10) Redis.empty "0xaa" rfl delivered placed
    [increased, placed, placed, claimed] [claimed, increased, delivered] ?_ rfl rfl (by decide) ?_
    (by unfold UniqueEvents; decide)
  · intro c
    simp only [List.mem_cons, List.not_mem_nil, or_false]
    tauto
  · simp only [List.mem_cons, List.not_mem_nil, or_false]
    rintro c (rfl | rfl | rfl | rfl | rfl) side <;> cases side <;>
      simp [PriceGuarantee, placed, increased, delivered, claimed, PriceSide.ofIncentive,
        PriceSide.ofIncreased]

/-! ## §5. A run that starts with an increase. -/

/-- **The order of the calls shows in the record**: `Increased`, `Delivered`, `Placed` and
`Placed`, `Increased`, `Delivered` are the same calls, made by the source chain's `Store` (chain
1) and the destination's (chain 2), with the increase above the placed prices; the first order
stores status `null`, the second `MessageDelivered`. -/
theorem replays_differ_increased_first :
    let placed : WorkerCall :=
      ⟨"1", .bountyPlaced
        ⟨"0xaa", ⟨200000, 200000, "0xrefund", 10, 10, 0⟩, "0xescrow", "0x01"⟩⟩
    let increased : WorkerCall :=
      ⟨"1", .bountyIncreased ⟨"0xaa", 20, 20, "0xescrow", "0x03"⟩⟩
    let delivered : WorkerCall := ⟨"2", .messageDelivered ⟨"0xaa", "0xescrow", "0x02"⟩⟩
    [increased, delivered, placed].Perm [placed, increased, delivered] ∧
      statusOf ((applyAll [increased, delivered, placed] Redis.empty).get (bountyKey "0xaa"))
        = some .null ∧
      statusOf ((applyAll [placed, increased, delivered] Redis.empty).get (bountyKey "0xaa"))
        = some (.num BountyStatus.messageDelivered.toNat) := by
  decide

end GeneralisedRelayer
