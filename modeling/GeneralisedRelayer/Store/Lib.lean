/-
  GeneralisedRelayer.Store.Lib — `store.lib.ts`: the redis database the workers share, the
  `Store` facade, and the four `register…` methods that merge events into a bounty record.

  Every method is the code's `get` – build – `set` sequence.  The record each one builds is a
  function of its own (`placedBounty`, `deliveredBounty`, `claimedBounty`, `increasedBounty`),
  so the run-level modules reason about records and never unfold a method.

  `registerMessageDelivered` and `registerBountyClaimed` are one pattern (`statusBounty`):
  baseline when no record is stored, else raise the status and set a transaction hash and a
  chain id.  `registerBountyClaimed` calls `Math.max` with its arguments the other way round, so
  it keeps its own body; `claimedBounty_eq` shows that the order does not matter.

  Main results:
    * `run_readonly` — a read-only `Store` refuses every register call with the code's error
      text and leaves the database as it was.
    * `apply_get` — a register call only ever changes its own bounty key.
-/
import GeneralisedRelayer.Store.Json
import Mathlib.Tactic.DeriveFintype

namespace GeneralisedRelayer

/-! ## §1. Statuses, fields, events. -/

/-- Modelled from the spec: `store/types/bounty.enum.ts` is not under src/.  The spec orders the
statuses `BountyPlaced < MessageDelivered < BountyClaimed`; as a TypeScript numeric enum they
are the numbers 0, 1, 2. -/
inductive BountyStatus where
  | bountyPlaced
  | messageDelivered
  | bountyClaimed
  deriving DecidableEq, Repr

/-- The number an enum member stands for. -/
def BountyStatus.toNat : BountyStatus → Nat
  | .bountyPlaced => 0
  | .messageDelivered => 1
  | .bountyClaimed => 2

/-- The keys the writers of a bounty key put in its record: those of `BountyJson`, and the
`address` key `registerBountyPlaced` writes. -/
inductive BountyField where
  | messageIdentifier | fromChainId | toChainId | maxGasDelivery | maxGasAck | refundGasTo
  | priceOfDeliveryGas | priceOfAckGas | targetDelta | status | address | finalised
  | submitTransactionHash | execTransactionHash | ackTransactionHash
  deriving DecidableEq, Repr, Fintype

/-- A stored bounty record, `BountyJson` as `JSON.parse` returns it. -/
abbrev BountyJson := JsonObject BountyField

/-- An object literal a bounty writer builds. -/
abbrev BountyObject := JsObject BountyField

/-- The escrow's `IncentiveDescription` as the getter decodes it: gas limits are JavaScript
numbers, prices and `targetDelta` ethers `BigNumber`s (all unsigned on chain). -/
structure Incentive where
  maxGasDelivery : Nat
  maxGasAck : Nat
  refundGasTo : String
  priceOfDeliveryGas : Nat
  priceOfAckGas : Nat
  targetDelta : Nat
  deriving DecidableEq, Repr

/-- The argument of `registerBountyPlaced`. -/
structure BountyPlacedEvent where
  messageIdentifier : String
  incentive : Incentive
  incentivesAddress : String
  transactionHash : String
  deriving DecidableEq, Repr

/-- The argument of `registerMessageDelivered` and of `registerBountyClaimed`. -/
structure EscrowEvent where
  messageIdentifier : String
  incentivesAddress : String
  transactionHash : String
  deriving DecidableEq, Repr

/-- The argument of `registerBountyIncreased`. -/
structure BountyIncreasedEvent where
  messageIdentifier : String
  newDeliveryGasPrice : Nat
  newAckGasPrice : Nat
  incentivesAddress : String
  transactionHash : String
  deriving DecidableEq, Repr

/-! ## §2. Keys and the shared database. -/

/-- `Store.combineString`: the parts joined by `wordConnecter`. -/
def combineString (vals : List String) : String := ":".intercalate vals

/-- `relayer:bounty:<messageIdentifier>` -/
def bountyKey (messageIdentifier : String) : String :=
  combineString ["relayer", "bounty", messageIdentifier]

/-- `relayer:amb:<messageIdentifier>` -/
def ambKey (messageIdentifier : String) : String :=
  combineString ["relayer", "amb", messageIdentifier]

/-- A notification on `relayer:key`: `{ key, action }`. -/
structure KeyNotification where
  key : String
  action : String
  deriving DecidableEq, Repr

/-- The redis database (index 4) every `Store` connects to, as the bounty writers see it: the
bounty records by key, and what was published on `relayer:key`. -/
structure Redis where
  bounties : String → Option BountyJson
  keyChannel : List KeyNotification

namespace Redis

/-- An empty database. -/
def empty : Redis := ⟨fun _ => none, []⟩

/-- `redis.get(key)` on a bounty key, parsed. -/
def get (db : Redis) (key : String) : Option BountyJson := db.bounties key

/-- `Store.set`: write the key, then publish `{ key, action: 'set' }`. -/
def set (db : Redis) (key : String) (value : BountyJson) : Redis :=
  { db with
    bounties := Function.update db.bounties key (some value)
    keyChannel := db.keyChannel ++ [⟨key, "set"⟩] }

@[simp] theorem set_get (db : Redis) (key key' : String) (value : BountyJson) :
    (db.set key value).get key' = if key' = key then some value else db.get key' := by
  simp only [set, get, Function.update_apply]

@[simp] theorem set_keyChannel (db : Redis) (key : String) (value : BountyJson) :
    (db.set key value).keyChannel = db.keyChannel ++ [⟨key, "set"⟩] := rfl

end Redis

/-- A `Store` connection; `chainId` is `null` on a read-only one. -/
structure Store where
  chainId : Option String

/-- The check every `register…` method starts with. -/
def Store.writableChainId (store : Store) : Except String String :=
  match store.chainId with
  | some chainId => .ok chainId
  | none => .error "ChainId is not set: This connection is readonly"

/-! ## §3. The records the four methods build. -/

/-- `registerBountyPlaced`'s record: the event's fields, overwritten by anything stored. -/
def placedBounty (chainId : String) (event : BountyPlacedEvent)
    (existingValue : Option BountyJson) : BountyObject :=
  let incentive := event.incentive
  let bounty : BountyObject := JsObject.empty
    |>.set .messageIdentifier (.json (.str event.messageIdentifier))
    |>.set .fromChainId (.json (.str chainId))
    |>.set .maxGasDelivery (.number (.num incentive.maxGasDelivery))
    |>.set .maxGasAck (.number (.num incentive.maxGasAck))
    |>.set .refundGasTo (.json (.str incentive.refundGasTo))
    |>.set .priceOfDeliveryGas (.bigNumber incentive.priceOfDeliveryGas)
    |>.set .priceOfAckGas (.bigNumber incentive.priceOfAckGas)
    |>.set .targetDelta (.bigNumber incentive.targetDelta)
    |>.set .status (.number (.num BountyStatus.bountyPlaced.toNat))
    |>.set .address (.json (.str event.incentivesAddress))
    |>.set .finalised (.json (.bool false))
    |>.set .submitTransactionHash (.json (.str event.transactionHash))
  match existingValue with
  | some existing => bounty.spread (JsObject.ofJson existing)
  | none => bounty

/-- The pattern of `registerMessageDelivered` and `registerBountyClaimed`: a baseline when no
record is stored, else the stored record with `Math.max(status, k)` and two fields set. -/
def statusBounty (status : BountyStatus) (hashField chainField : BountyField)
    (chainId : String) (event : EscrowEvent) : Option BountyJson → BountyObject
  | none => JsObject.empty
    |>.set .messageIdentifier (.json (.str event.messageIdentifier))
    |>.set .status (.number (.num status.toNat))
    |>.set hashField (.json (.str event.transactionHash))
    |>.set chainField (.json (.str chainId))
  | some bountyAsRead => JsObject.ofJson bountyAsRead
    |>.set .status (.number (mathMax (toNumber (bountyAsRead .status)) (.num status.toNat)))
    |>.set hashField (.json (.str event.transactionHash))
    |>.set chainField (.json (.str chainId))

/-- `registerMessageDelivered`'s record. -/
def deliveredBounty (chainId : String) (event : EscrowEvent) :
    Option BountyJson → BountyObject :=
  statusBounty .messageDelivered .execTransactionHash .toChainId chainId event

/-- `registerBountyClaimed`'s record; it calls `Math.max(BountyClaimed, status)`. -/
def claimedBounty (chainId : String) (event : EscrowEvent) : Option BountyJson → BountyObject
  | none => JsObject.empty
    |>.set .messageIdentifier (.json (.str event.messageIdentifier))
    |>.set .status (.number (.num BountyStatus.bountyClaimed.toNat))
    |>.set .ackTransactionHash (.json (.str event.transactionHash))
    |>.set .fromChainId (.json (.str chainId))
  | some bountyAsRead => JsObject.ofJson bountyAsRead
    |>.set .status
      (.number (mathMax (.num BountyStatus.bountyClaimed.toNat) (toNumber (bountyAsRead .status))))
    |>.set .ackTransactionHash (.json (.str event.transactionHash))
    |>.set .fromChainId (.json (.str chainId))

/-- The argument order of `Math.max` in `registerBountyClaimed` changes nothing. -/
theorem claimedBounty_eq (chainId : String) (event : EscrowEvent) (r : Option BountyJson) :
    claimedBounty chainId event r
      = statusBounty .bountyClaimed .ackTransactionHash .fromChainId chainId event r := by
  cases r <;> simp only [claimedBounty, statusBounty, mathMax_comm]

/-- `registerBountyIncreased`'s record when none is stored. -/
def increasedBaseline (event : BountyIncreasedEvent) : BountyObject :=
  JsObject.empty
    |>.set .messageIdentifier (.json (.str event.messageIdentifier))
    |>.set .priceOfDeliveryGas (.bigNumber event.newDeliveryGasPrice)
    |>.set .priceOfAckGas (.bigNumber event.newAckGasPrice)

/-- `registerBountyIncreased` on a stored record: the new record, or `none` when neither price
rose and nothing is written.  A stored price that is absent or `null` reads as `'0'`. -/
def increasedBounty (event : BountyIncreasedEvent) (bountyAsRead : BountyJson) :
    Except String (Option BountyObject) := do
  let currentDeliveryGasPrice ←
    bigNumberFrom (nullish (bountyAsRead .priceOfDeliveryGas) (.str "0"))
  let currentAckGasPrice ← bigNumberFrom (nullish (bountyAsRead .priceOfAckGas) (.str "0"))
  let hasDeliveryGasPriceIncreased := decide (currentDeliveryGasPrice < event.newDeliveryGasPrice)
  let hasAckGasPriceIncreased := decide (currentAckGasPrice < event.newAckGasPrice)
  if hasDeliveryGasPriceIncreased || hasAckGasPriceIncreased then
    pure (some (JsObject.ofJson bountyAsRead
      |>.set .priceOfDeliveryGas (.bigNumber
        (if hasDeliveryGasPriceIncreased then event.newDeliveryGasPrice
         else currentDeliveryGasPrice))
      |>.set .priceOfAckGas (.bigNumber
        (if hasAckGasPriceIncreased then event.newAckGasPrice else currentAckGasPrice))))
  else pure none

/-! ## §4. The methods. -/

namespace Store

/-- `registerBountyPlaced` -/
def registerBountyPlaced (store : Store) (event : BountyPlacedEvent) (db : Redis) :
    Except String Redis := do
  let chainId ← store.writableChainId
  let key := bountyKey event.messageIdentifier
  pure (db.set key (placedBounty chainId event (db.get key)).stringify)

/-- `registerMessageDelivered` -/
def registerMessageDelivered (store : Store) (event : EscrowEvent) (db : Redis) :
    Except String Redis := do
  let chainId ← store.writableChainId
  let key := bountyKey event.messageIdentifier
  pure (db.set key (deliveredBounty chainId event (db.get key)).stringify)

/-- `registerBountyClaimed` -/
def registerBountyClaimed (store : Store) (event : EscrowEvent) (db : Redis) :
    Except String Redis := do
  let chainId ← store.writableChainId
  let key := bountyKey event.messageIdentifier
  pure (db.set key (claimedBounty chainId event (db.get key)).stringify)

/-- `registerBountyIncreased` -/
def registerBountyIncreased (store : Store) (event : BountyIncreasedEvent) (db : Redis) :
    Except String Redis := do
  let _ ← store.writableChainId
  let key := bountyKey event.messageIdentifier
  match db.get key with
  | none => pure (db.set key (increasedBaseline event).stringify)
  | some bountyAsRead =>
    match ← increasedBounty event bountyAsRead with
    | some newBounty => pure (db.set key newBounty.stringify)
    | none => pure db

/-- `getBounty`: the stored record with its prices and `targetDelta` read as `BigNumber`s, or
`null` unless all three are truthy. -/
def getBounty (db : Redis) (messageIdentifier : String) : Except String (Option BountyObject) :=
  match db.get (bountyKey messageIdentifier) with
  | none => pure none
  | some bounty =>
    match bounty .priceOfDeliveryGas, bounty .priceOfAckGas, bounty .targetDelta with
    | some d, some a, some t =>
      if truthy (some d) && truthy (some a) && truthy (some t) then do
        let priceOfDeliveryGas ← bigNumberFrom d
        let priceOfAckGas ← bigNumberFrom a
        let targetDelta ← bigNumberFrom t
        pure (some (JsObject.ofJson bounty
          |>.set .priceOfDeliveryGas (.bigNumber priceOfDeliveryGas)
          |>.set .priceOfAckGas (.bigNumber priceOfAckGas)
          |>.set .targetDelta (.bigNumber targetDelta)))
      else pure none
    | _, _, _ => pure none

end Store

/-! ## §5. Register calls. -/

/-- A call of one of the four `register…` methods. -/
inductive RegisterCall where
  | bountyPlaced (event : BountyPlacedEvent)
  | messageDelivered (event : EscrowEvent)
  | bountyClaimed (event : EscrowEvent)
  | bountyIncreased (event : BountyIncreasedEvent)
  deriving DecidableEq, Repr

namespace RegisterCall

/-- The identifier the call's event carries. -/
def messageIdentifier : RegisterCall → String
  | .bountyPlaced e => e.messageIdentifier
  | .messageDelivered e | .bountyClaimed e => e.messageIdentifier
  | .bountyIncreased e => e.messageIdentifier

/-- The method the call names, run by `store` on `db`. -/
def run (store : Store) : RegisterCall → Redis → Except String Redis
  | .bountyPlaced e => store.registerBountyPlaced e
  | .messageDelivered e => store.registerMessageDelivered e
  | .bountyClaimed e => store.registerBountyClaimed e
  | .bountyIncreased e => store.registerBountyIncreased e

/-- A read-only `Store` refuses every register call, with the code's error text. -/
theorem run_readonly (c : RegisterCall) (db : Redis) :
    c.run ⟨none⟩ db = .error "ChainId is not set: This connection is readonly" := by
  cases c <;> rfl

/-- The database after chain `chainId`'s `Store` made the call: as `run` leaves it, and as it
was where the call throws. -/
def apply (chainId : String) (c : RegisterCall) (db : Redis) : Redis :=
  match c.run ⟨some chainId⟩ db with
  | .ok db' => db'
  | .error _ => db

/-- What the call `set`s at its bounty key, given what its `get` read; `none` when it sets
nothing (an increase that raises no price, or a throw). -/
def write? (chainId : String) : RegisterCall → Option BountyJson → Option BountyJson
  | .bountyPlaced e, r => some (placedBounty chainId e r).stringify
  | .messageDelivered e, r => some (deliveredBounty chainId e r).stringify
  | .bountyClaimed e, r => some (claimedBounty chainId e r).stringify
  | .bountyIncreased e, none => some (increasedBaseline e).stringify
  | .bountyIncreased e, some r =>
    match increasedBounty e r with
    | .ok (some b) => some b.stringify
    | _ => none

/-- What the call leaves at its bounty key, given what was there: its `set`, or the record as
it was. -/
def step (chainId : String) (c : RegisterCall) (r : Option BountyJson) : Option BountyJson :=
  (c.write? chainId r).or r

variable (chainId : String) (r : Option BountyJson)

@[simp] theorem step_bountyPlaced (e : BountyPlacedEvent) :
    step chainId (.bountyPlaced e) r = some (placedBounty chainId e r).stringify := rfl

@[simp] theorem step_messageDelivered (e : EscrowEvent) :
    step chainId (.messageDelivered e) r = some (deliveredBounty chainId e r).stringify := rfl

@[simp] theorem step_bountyClaimed (e : EscrowEvent) :
    step chainId (.bountyClaimed e) r = some (claimedBounty chainId e r).stringify := rfl

@[simp] theorem step_bountyIncreased_none (e : BountyIncreasedEvent) :
    step chainId (.bountyIncreased e) none = some (increasedBaseline e).stringify := rfl

theorem step_bountyIncreased_some (e : BountyIncreasedEvent) (b : BountyJson) :
    step chainId (.bountyIncreased e) (some b) =
      match increasedBounty e b with
      | .ok (some b') => some b'.stringify
      | _ => some b := by
  rcases h : increasedBounty e b with _ | _ | b' <;> simp [step, write?, h]

/-- **A call only changes its own bounty key**, and there it writes `step`. -/
theorem apply_get (chainId : String) (c : RegisterCall) (db : Redis) (key : String) :
    (c.apply chainId db).get key
      = if key = bountyKey c.messageIdentifier then c.step chainId (db.get key)
        else db.get key := by
  cases c with
  | bountyIncreased e =>
    simp only [apply, run, Store.registerBountyIncreased, Store.writableChainId, messageIdentifier]
    cases hr : db.get (bountyKey e.messageIdentifier) with
    | none => split_ifs with hk <;> simp [hr, hk, bind, Except.bind, pure, Except.pure]
    | some r =>
      rcases hb : increasedBounty e r with _ | _ | b <;> split_ifs with hk <;>
        simp [hr, hb, hk, step_bountyIncreased_some, bind, Except.bind, pure, Except.pure]
  | _ =>
    simp only [apply, run, Store.registerBountyPlaced, Store.registerMessageDelivered,
      Store.registerBountyClaimed, Store.writableChainId, messageIdentifier]
    split_ifs with hk <;> simp [hk]

/-- The record model's call, whole: the `set` of its `write?` at its key, or nothing. -/
theorem apply_eq (chainId : String) (c : RegisterCall) (db : Redis) :
    c.apply chainId db = match c.write? chainId (db.get (bountyKey c.messageIdentifier)) with
      | some w => db.set (bountyKey c.messageIdentifier) w
      | none => db := by
  cases c with
  | bountyIncreased e =>
    simp only [apply, run, Store.registerBountyIncreased, Store.writableChainId, messageIdentifier]
    cases hr : db.get (bountyKey e.messageIdentifier) with
    | none => rfl
    | some r => rcases hb : increasedBounty e r with _ | _ | b <;> simp [write?, hb, bind,
        Except.bind, pure, Except.pure]
  | _ => rfl

end RegisterCall

end GeneralisedRelayer
