/-
  GeneralisedRelayer.Submitter.Config — the settings a submitter worker starts with.

  `SubmitterService.onModuleInit` resolves the global `submitter` settings once
  (`loadGlobalSubmitterConfig`: each unset setting takes its built-in default, and the gas limit
  buffers gain a `default` entry of `0` when they have none), then, chain after chain, the
  worker's data (`loadWorkerData`): each setting the chain overrides, else the global one; the gas
  limit buffers merged key by key (`getChainGasLimitBufferConfig`, two `for…in` loops); the
  incentives address and the packet cost of every AMB on that chain.  A packet cost is read with
  `BigInt`, which throws on a text that is not an integer literal: the throw leaves
  `loadWorkerData` and ends `onModuleInit`, with workers for the chains before and none for the
  chain or any after it.

  JavaScript `Map`s and the objects used as records are `JsMap`s (`Store.Json`).

  Main results:
    * `bigInt_toDecimal` — `BigInt` reads back every decimal string.
    * `worker_settings` — a worker's settings are the chain's, else the global ones, else the
      defaults; its gas limit buffers always have a `default`.
    * `onModuleInit_stops_at_bad_packetCost` — a packet cost `BigInt` rejects ends the start-up at
      its chain.
-/
import GeneralisedRelayer.Store.Json
import GeneralisedRelayer.Collector.Bytes

namespace GeneralisedRelayer

/-! ## §1. The settings. -/

/-- `RETRY_INTERVAL_DEFAULT` -/
def retryIntervalDefault : Nat := 30000

/-- `PROCESSING_INTERVAL_DEFAULT` -/
def processingIntervalDefault : Nat := 100

/-- `MAX_TRIES_DEFAULT` -/
def maxTriesDefault : Nat := 3

/-- `MAX_PENDING_TRANSACTIONS` -/
def maxPendingTransactions : Nat := 50

/-- `NEW_ORDERS_DELAY_DEFAULT` -/
def newOrdersDelayDefault : Nat := 0

/-- A `submitter` section of the configuration, global or a chain's: every setting optional. -/
structure SubmitterConfig where
  enabled : Option Bool
  newOrdersDelay : Option Nat
  retryInterval : Option Nat
  processingInterval : Option Nat
  maxTries : Option Nat
  maxPendingTransactions : Option Nat
  gasLimitBuffer : Option (JsMap Nat)

/-- `GlobalSubmitterConfig` -/
structure GlobalSubmitterConfig where
  enabled : Bool
  newOrdersDelay : Nat
  retryInterval : Nat
  processingInterval : Nat
  maxTries : Nat
  maxPendingTransactions : Nat
  gasLimitBuffer : JsMap Nat
  walletPublicKey : String

/-- `loadGlobalSubmitterConfig`: `??` against the defaults, and a `default` gas limit buffer of
`0` when none is set.  `walletAddress` is ethers' `new Wallet(privateKey).address`. -/
def loadGlobalSubmitterConfig (submitterConfig : SubmitterConfig) (privateKey : String)
    (walletAddress : String → String) : GlobalSubmitterConfig :=
  let gasLimitBuffer := submitterConfig.gasLimitBuffer.getD .empty
  { enabled := submitterConfig.enabled.getD true
    newOrdersDelay := submitterConfig.newOrdersDelay.getD newOrdersDelayDefault
    retryInterval := submitterConfig.retryInterval.getD retryIntervalDefault
    processingInterval := submitterConfig.processingInterval.getD processingIntervalDefault
    maxTries := submitterConfig.maxTries.getD maxTriesDefault
    maxPendingTransactions := submitterConfig.maxPendingTransactions.getD maxPendingTransactions
    gasLimitBuffer :=
      if gasLimitBuffer.has "default" then gasLimitBuffer else gasLimitBuffer.set "default" 0
    walletPublicKey := walletAddress privateKey }

/-- `getChainGasLimitBufferConfig`: the defaults, then the chain's overrides, key by key. -/
def getChainGasLimitBufferConfig (defaultGasLimitBufferConfig chainGasLimitBufferConfig :
    JsMap Nat) : JsMap Nat :=
  (JsMap.empty.assignAll defaultGasLimitBufferConfig).assignAll chainGasLimitBufferConfig

/-- **The merge of the gas limit buffers**: the chain's value of a key, else the default's. -/
theorem getChainGasLimitBufferConfig_get (d c : JsMap Nat) (k : String) :
    (getChainGasLimitBufferConfig d c).get k = (c.get k).or (d.get k) := by
  simp [getChainGasLimitBufferConfig, JsMap.get_assignAll]

/-- The global gas limit buffers: the configured ones, and `default` at `0` if unset. -/
theorem loadGlobalSubmitterConfig_gasLimitBuffer (submitterConfig : SubmitterConfig)
    (privateKey : String) (walletAddress : String → String) (k : String) :
    (loadGlobalSubmitterConfig submitterConfig privateKey walletAddress).gasLimitBuffer.get k =
      ((submitterConfig.gasLimitBuffer.getD .empty).get k).or
        (if k = "default" then some 0 else none) := by
  simp only [loadGlobalSubmitterConfig]
  split
  · next h =>
    by_cases hk : k = "default"
    · subst hk
      obtain ⟨v, hv⟩ := Option.isSome_iff_exists.1 ((JsMap.get_isSome_iff _ _).trans h)
      simp [hv]
    · simp [hk]
  · next h =>
    rw [JsMap.get_set]
    by_cases hk : k = "default"
    · subst hk
      have : (submitterConfig.gasLimitBuffer.getD .empty).get "default" = none := by
        simpa [← JsMap.get_isSome_iff] using h
      simp [this]
    · simp [hk]

/-! ## §2. `BigInt` of a string. -/

/-- ECMAScript's `StrWhiteSpaceChar`: tab, vertical tab, form feed, the byte order mark, every
space separator, and the line terminators. -/
def isStrWhiteSpaceChar (c : Char) : Bool :=
  [0x09, 0x0a, 0x0b, 0x0c, 0x0d, 0x20, 0xa0, 0x1680, 0x2028, 0x2029, 0x202f, 0x205f, 0x3000,
    0xfeff].contains c.toNat || decide (0x2000 ≤ c.toNat ∧ c.toNat ≤ 0x200a)

/-- The digits of a `NonDecimalIntegerLiteral` in base `radix`, onto `acc`; `none` at the first
character that is not a digit of that base. -/
def foldRadix (radix acc : Nat) : List Char → Option Nat
  | [] => some acc
  | c :: cs =>
    match (hexValue c).filter (· < radix) with
    | some d => foldRadix radix (acc * radix + d) cs
    | none => none

/-- The base the letter after a literal's leading `0` names. -/
def radixOfPrefix (c : Char) : Option Nat :=
  if c = 'x' ∨ c = 'X' then some 16
  else if c = 'o' ∨ c = 'O' then some 8
  else if c = 'b' ∨ c = 'B' then some 2
  else none

/-- `StrIntegerLiteral`: a `NonDecimalIntegerLiteral` (`0x`, `0o` or `0b`, then one digit of the
base or more, and no sign), or a `SignedInteger` (a sign or none, then one decimal digit or
more). -/
def strIntegerLiteral : List Char → Option Int
  | '0' :: p :: ds =>
    match radixOfPrefix p with
    | some radix => if ds = [] then none else (foldRadix radix 0 ds).map Int.ofNat
    | none => (parseDecimal ⟨'0' :: p :: ds⟩).map Int.ofNat
  | '+' :: ds => (parseDecimal ⟨ds⟩).map Int.ofNat
  | '-' :: ds => (parseDecimal ⟨ds⟩).map (- Int.ofNat ·)
  | ds => (parseDecimal ⟨ds⟩).map Int.ofNat

/-- The text without the white space around it. -/
def trimStrWhiteSpace (cs : List Char) : List Char :=
  ((cs.dropWhile isStrWhiteSpaceChar).reverse.dropWhile isStrWhiteSpaceChar).reverse

/-- `BigInt(s)` of a string, through `StringToBigInt`: white space around the literal is ignored,
an empty literal is `0n`, and a text that is no integer literal throws V8's `SyntaxError`. -/
def bigInt (s : String) : Except String Int :=
  let literal := trimStrWhiteSpace s.data
  if literal = [] then .ok 0
  else
    match strIntegerLiteral literal with
    | some n => .ok n
    | none => .error ("Cannot convert " ++ s ++ " to a BigInt")

theorem foldDigits_isDigit {acc v : Nat} {l : List Char} (h : foldDigits acc l = some v) :
    ∀ c ∈ l, c.isDigit = true := by
  induction l generalizing acc with
  | nil => simp
  | cons c cs ih =>
    simp only [foldDigits] at h
    split at h
    · next hc => exact List.forall_mem_cons.2 ⟨hc, ih h⟩
    · cases h

theorem isStrWhiteSpaceChar_of_isDigit {c : Char} (h : c.isDigit = true) :
    isStrWhiteSpaceChar c = false := by
  have hc : 48 ≤ c.toNat ∧ c.toNat ≤ 57 := by
    simpa [Char.isDigit, UInt32.le_def, BitVec.le_def] using h
  simp [isStrWhiteSpaceChar]
  omega

theorem dropWhile_of_forall {p : Char → Bool} {l : List Char} (h : ∀ c ∈ l, p c = false) :
    l.dropWhile p = l := by
  cases l with
  | nil => rfl
  | cons c cs => exact List.dropWhile_cons_of_neg (by simp [h c (List.mem_cons_self c cs)])

theorem trimStrWhiteSpace_of_forall {l : List Char} (h : ∀ c ∈ l, isStrWhiteSpaceChar c = false) :
    trimStrWhiteSpace l = l := by
  rw [trimStrWhiteSpace, dropWhile_of_forall h,
    dropWhile_of_forall (fun c hc => h c (List.mem_reverse.1 hc)), List.reverse_reverse]

theorem radixOfPrefix_of_isDigit {c : Char} (h : c.isDigit = true) : radixOfPrefix c = none := by
  unfold radixOfPrefix
  split_ifs with h1 h2 h3
  · rcases h1 with rfl | rfl <;> exact absurd h (by decide)
  · rcases h2 with rfl | rfl <;> exact absurd h (by decide)
  · rcases h3 with rfl | rfl <;> exact absurd h (by decide)
  · rfl

/-- Decimal digits are a `SignedInteger` with no sign. -/
theorem strIntegerLiteral_of_digits {l : List Char} (h : ∀ c ∈ l, c.isDigit = true) :
    strIntegerLiteral l = (parseDecimal ⟨l⟩).map Int.ofNat := by
  unfold strIntegerLiteral
  split
  · rw [radixOfPrefix_of_isDigit (h _ (by simp))]
  · exact absurd (h '+' (by simp)) (by decide)
  · exact absurd (h '-' (by simp)) (by decide)
  · rfl

/-- **`BigInt` reads back every decimal string.** -/
theorem bigInt_toDecimal (n : Nat) : bigInt (toDecimal n) = .ok n := by
  have hne : (toDecimal n).data ≠ [] := decimalCharsAux_ne_nil n n
  have hfold : foldDigits 0 (toDecimal n).data = some n := by
    simpa [parseDecimal, hne] using parseDecimal_toDecimal n
  have hdig := foldDigits_isDigit hfold
  simp only [bigInt, trimStrWhiteSpace_of_forall fun c hc => isStrWhiteSpaceChar_of_isDigit
    (hdig c hc), hne, if_false, strIntegerLiteral_of_digits hdig]
  rw [parseDecimal_toDecimal]
  rfl

/-! ## §3. A worker's data, and the start-up. -/

/-- What the configuration holds for one AMB: its incentives address on a chain
(`amb.getIncentivesAddress(chainId)`) and its `packetCost` there
(`getAMBConfig(amb.name, 'packetCost', chainId)`), each possibly unset. -/
structure AmbConfig where
  name : String
  getIncentivesAddress : String → Option String
  packetCost : String → Option String

/-- What a chain's configuration holds for the submitter. -/
structure ChainConfig where
  chainId : String
  rpc : String
  submitter : SubmitterConfig

/-- `SubmitterWorkerData`, without the wallet port and the logger options. -/
structure SubmitterWorkerData where
  chainId : String
  rpc : String
  relayerPrivateKey : String
  incentivesAddresses : JsMap String
  packetCosts : JsMap Int
  newOrdersDelay : Nat
  retryInterval : Nat
  processingInterval : Nat
  maxTries : Nat
  maxPendingTransactions : Nat
  gasLimitBuffer : JsMap Nat
  walletPublicKey : String

/-- The `packetCosts.set(amb.name, BigInt(packetCost))` step of `loadWorkerData`'s second
`forEach`. -/
def setPacketCost (chainId : String) (packetCosts : JsMap Int) (amb : AmbConfig) :
    Except String (JsMap Int) :=
  match amb.packetCost chainId with
  | some packetCost => (packetCosts.set amb.name ·) <$> bigInt packetCost
  | none => pure packetCosts

/-- `loadWorkerData`: the chain's override of each setting, else the global one; the merged gas
limit buffers; the incentives addresses and packet costs of the AMBs on the chain.  `BigInt`
throwing on a packet cost makes it throw. -/
def loadWorkerData (relayerPrivateKey : String) (ambsConfig : List AmbConfig)
    (chainConfig : ChainConfig) (globalConfig : GlobalSubmitterConfig) :
    Except String SubmitterWorkerData := do
  let incentivesAddresses := ambsConfig.foldl (fun incentivesAddresses amb =>
    match amb.getIncentivesAddress chainConfig.chainId with
    | some incentiveAddress => incentivesAddresses.set amb.name incentiveAddress
    | none => incentivesAddresses) JsMap.empty
  let packetCosts ← ambsConfig.foldlM (setPacketCost chainConfig.chainId) JsMap.empty
  pure
    { chainId := chainConfig.chainId
      rpc := chainConfig.rpc
      relayerPrivateKey
      incentivesAddresses
      packetCosts
      newOrdersDelay := chainConfig.submitter.newOrdersDelay.getD globalConfig.newOrdersDelay
      retryInterval := chainConfig.submitter.retryInterval.getD globalConfig.retryInterval
      processingInterval :=
        chainConfig.submitter.processingInterval.getD globalConfig.processingInterval
      maxTries := chainConfig.submitter.maxTries.getD globalConfig.maxTries
      maxPendingTransactions :=
        chainConfig.submitter.maxPendingTransactions.getD globalConfig.maxPendingTransactions
      gasLimitBuffer := getChainGasLimitBufferConfig globalConfig.gasLimitBuffer
        (chainConfig.submitter.gasLimitBuffer.getD .empty)
      walletPublicKey := globalConfig.walletPublicKey }

/-- The loop of `onModuleInit` over the chains: one worker per chain, kept under its chain
identifier, until `loadWorkerData` throws. -/
def startWorkers (relayerPrivateKey : String) (ambsConfig : List AmbConfig)
    (globalConfig : GlobalSubmitterConfig) :
    List ChainConfig → JsMap SubmitterWorkerData → JsMap SubmitterWorkerData × Option String
  | [], workers => (workers, none)
  | chainConfig :: chainsConfig, workers =>
    match loadWorkerData relayerPrivateKey ambsConfig chainConfig globalConfig with
    | .error e => (workers, some e)
    | .ok workerData =>
      startWorkers relayerPrivateKey ambsConfig globalConfig chainsConfig
        (workers.set chainConfig.chainId workerData)

/-- `onModuleInit`: nothing when the submitter is disabled, else a worker per chain.  The
workers started, and the error that ended the start-up, if one did. -/
def onModuleInit (submitterConfig : SubmitterConfig) (privateKey : String)
    (walletAddress : String → String) (ambsConfig : List AmbConfig)
    (chainsConfig : List ChainConfig) : JsMap SubmitterWorkerData × Option String :=
  let globalSubmitterConfig := loadGlobalSubmitterConfig submitterConfig privateKey walletAddress
  if !globalSubmitterConfig.enabled then (JsMap.empty, none)
  else startWorkers privateKey ambsConfig globalSubmitterConfig chainsConfig JsMap.empty

/-! ## §4. What a worker starts with. -/

/-- The numeric settings a chain can override. -/
inductive SubmitterSetting
  | newOrdersDelay | retryInterval | processingInterval | maxTries | maxPendingTransactions
  deriving DecidableEq, Repr

/-- The built-in default of a setting. -/
def SubmitterSetting.default : SubmitterSetting → Nat
  | .newOrdersDelay => newOrdersDelayDefault
  | .retryInterval => retryIntervalDefault
  | .processingInterval => processingIntervalDefault
  | .maxTries => maxTriesDefault
  | .maxPendingTransactions => GeneralisedRelayer.maxPendingTransactions

/-- A setting as a configuration section sets it. -/
def SubmitterConfig.setting (c : SubmitterConfig) : SubmitterSetting → Option Nat
  | .newOrdersDelay => c.newOrdersDelay
  | .retryInterval => c.retryInterval
  | .processingInterval => c.processingInterval
  | .maxTries => c.maxTries
  | .maxPendingTransactions => c.maxPendingTransactions

/-- A setting of the resolved global configuration. -/
def GlobalSubmitterConfig.setting (c : GlobalSubmitterConfig) : SubmitterSetting → Nat
  | .newOrdersDelay => c.newOrdersDelay
  | .retryInterval => c.retryInterval
  | .processingInterval => c.processingInterval
  | .maxTries => c.maxTries
  | .maxPendingTransactions => c.maxPendingTransactions

/-- A setting a worker starts with. -/
def SubmitterWorkerData.setting (w : SubmitterWorkerData) : SubmitterSetting → Nat
  | .newOrdersDelay => w.newOrdersDelay
  | .retryInterval => w.retryInterval
  | .processingInterval => w.processingInterval
  | .maxTries => w.maxTries
  | .maxPendingTransactions => w.maxPendingTransactions

/-- The incentives addresses the AMBs configure on a chain, in the order `forEach` sets them. -/
def incentivesAddressEntries (ambsConfig : List AmbConfig) (chainId : String) :
    List (String × String) :=
  ambsConfig.filterMap fun amb => (amb.getIncentivesAddress chainId).map (amb.name, ·)

/-- The packet costs the AMBs configure on a chain, as `BigInt` reads them. -/
def packetCostEntries (ambsConfig : List AmbConfig) (chainId : String) : List (String × Int) :=
  ambsConfig.filterMap fun amb =>
    (amb.packetCost chainId).bind fun p => (bigInt p).toOption.map (amb.name, ·)

theorem loadGlobalSubmitterConfig_setting (submitterConfig : SubmitterConfig)
    (privateKey : String) (walletAddress : String → String) (s : SubmitterSetting) :
    (loadGlobalSubmitterConfig submitterConfig privateKey walletAddress).setting s =
      (submitterConfig.setting s).getD s.default := by
  cases s <;> rfl

theorem foldl_incentivesAddresses (chainId : String) (ambsConfig : List AmbConfig)
    (m : JsMap String) :
    ambsConfig.foldl (fun incentivesAddresses amb =>
      match amb.getIncentivesAddress chainId with
      | some incentiveAddress => incentivesAddresses.set amb.name incentiveAddress
      | none => incentivesAddresses) m =
      m.setAll (incentivesAddressEntries ambsConfig chainId) := by
  induction ambsConfig generalizing m with
  | nil => rfl
  | cons amb ambs ih =>
    rw [List.foldl_cons, ih]
    cases h : amb.getIncentivesAddress chainId <;> simp [incentivesAddressEntries, h, JsMap.setAll]

theorem foldlM_setPacketCost (chainId : String) (ambsConfig : List AmbConfig) (m m' : JsMap Int)
    (h : ambsConfig.foldlM (setPacketCost chainId) m = .ok m') :
    m' = m.setAll (packetCostEntries ambsConfig chainId) := by
  induction ambsConfig generalizing m with
  | nil => cases h; rfl
  | cons amb ambs ih =>
    rw [List.foldlM_cons] at h
    cases hs : setPacketCost chainId m amb with
    | error e => rw [hs] at h; cases h
    | ok m₁ =>
      rw [hs] at h
      rw [ih m₁ h]
      cases hp : amb.packetCost chainId with
      | none =>
        simp only [setPacketCost, hp] at hs; cases hs
        simp [packetCostEntries, hp, JsMap.setAll]
      | some p =>
        cases hb : bigInt p with
        | error e => simp [setPacketCost, hp, hb, Functor.map, Except.map] at hs
        | ok n =>
          simp only [setPacketCost, hp, hb] at hs; cases hs
          simp [packetCostEntries, hp, hb, Except.toOption, JsMap.setAll]

/-- **The data `loadWorkerData` returns**: the chain's settings over the global ones, the merged
gas limit buffers, and the AMBs' incentives addresses and packet costs. -/
theorem loadWorkerData_ok {relayerPrivateKey : String} {ambsConfig : List AmbConfig}
    {chainConfig : ChainConfig} {globalConfig : GlobalSubmitterConfig} {w : SubmitterWorkerData}
    (h : loadWorkerData relayerPrivateKey ambsConfig chainConfig globalConfig = .ok w) :
    (∀ s, w.setting s = (chainConfig.submitter.setting s).getD (globalConfig.setting s)) ∧
      w.gasLimitBuffer = getChainGasLimitBufferConfig globalConfig.gasLimitBuffer
        (chainConfig.submitter.gasLimitBuffer.getD .empty) ∧
      w.incentivesAddresses =
        JsMap.empty.setAll (incentivesAddressEntries ambsConfig chainConfig.chainId) ∧
      w.packetCosts = JsMap.empty.setAll (packetCostEntries ambsConfig chainConfig.chainId) := by
  simp only [loadWorkerData, bind, Except.bind] at h
  split at h
  · cases h
  · next m hm =>
    cases h
    exact ⟨fun s => by cases s <;> rfl, rfl, foldl_incentivesAddresses _ _ _,
      foldlM_setPacketCost _ _ _ _ hm⟩

/-- **What a worker starts with.**  Each setting is the chain's, else the global one, else the
built-in default.  Each gas limit buffer is the chain's, else the global one, else `0` for
`default`, so that `default` is always set.  Each AMB's incentives address and packet cost are
the last configured for an AMB of that name on the chain. -/
theorem worker_settings (submitterConfig : SubmitterConfig) (privateKey : String)
    (walletAddress : String → String) (ambsConfig : List AmbConfig) (chainConfig : ChainConfig)
    (w : SubmitterWorkerData)
    (h : loadWorkerData privateKey ambsConfig chainConfig
      (loadGlobalSubmitterConfig submitterConfig privateKey walletAddress) = .ok w) :
    (∀ s, w.setting s =
      (chainConfig.submitter.setting s).getD ((submitterConfig.setting s).getD s.default)) ∧
    (∀ k, w.gasLimitBuffer.get k = ((chainConfig.submitter.gasLimitBuffer.getD .empty).get k).or
      (((submitterConfig.gasLimitBuffer.getD .empty).get k).or
        (if k = "default" then some 0 else none))) ∧
    (w.gasLimitBuffer.get "default").isSome ∧
    (∀ name, w.incentivesAddresses.get name =
      (incentivesAddressEntries ambsConfig chainConfig.chainId).reverse.lookup name) ∧
    (∀ name, w.packetCosts.get name =
      (packetCostEntries ambsConfig chainConfig.chainId).reverse.lookup name) := by
  obtain ⟨hs, hg, hi, hp⟩ := loadWorkerData_ok h
  have hbuf : ∀ k, w.gasLimitBuffer.get k =
      ((chainConfig.submitter.gasLimitBuffer.getD .empty).get k).or
        (((submitterConfig.gasLimitBuffer.getD .empty).get k).or
          (if k = "default" then some 0 else none)) := fun k => by
    rw [hg, getChainGasLimitBufferConfig_get, loadGlobalSubmitterConfig_gasLimitBuffer]
  refine ⟨fun s => by rw [hs, loadGlobalSubmitterConfig_setting], hbuf, ?_,
    fun name => by simp [hi, JsMap.get_setAll], fun name => by simp [hp, JsMap.get_setAll]⟩
  rw [hbuf]
  simp [Option.isSome_or]

/-- A chain overriding the retry interval under a global section that sets only `maxTries`: the
worker takes the chain's interval, the global tries, the built-in processing interval, a
`default` gas limit buffer of `0`, and the AMB's packet cost. -/
theorem worker_settings_chain_override :
    let submitterConfig : SubmitterConfig := ⟨none, none, none, none, some 5, none, none⟩
    let chainConfig : ChainConfig :=
      ⟨"10", "https://rpc.example", ⟨none, none, some 5000, none, none, none, none⟩⟩
    let ambsConfig : List AmbConfig :=
      [⟨"layerZero", fun _ => some "0x1111111111111111111111111111111111111111",
        fun _ => some "1000"⟩]
    ∃ w, loadWorkerData "0x01" ambsConfig chainConfig
        (loadGlobalSubmitterConfig submitterConfig "0x01" id) = .ok w ∧
      w.setting .retryInterval = 5000 ∧ w.setting .maxTries = 5 ∧
      w.setting .processingInterval = 100 ∧ w.gasLimitBuffer.get "default" = some 0 ∧
      w.packetCosts.get "layerZero" = some 1000 := by
  intro submitterConfig chainConfig ambsConfig
  obtain ⟨hs, hg, -, -, hp⟩ :=
    worker_settings submitterConfig "0x01" id ambsConfig chainConfig _ rfl
  exact ⟨_, rfl, hs .retryInterval, hs .maxTries, hs .processingInterval, hg "default",
    hp "layerZero"⟩

/-! ## §5. The start-up. -/

/-- A packet cost `BigInt` rejects makes the `forEach` throw. -/
theorem foldlM_setPacketCost_error (chainId : String) (ambsConfig : List AmbConfig)
    (amb : AmbConfig) (hamb : amb ∈ ambsConfig) (p : String)
    (hp : amb.packetCost chainId = some p) (e : String) (he : bigInt p = .error e)
    (m : JsMap Int) : ∃ e', ambsConfig.foldlM (setPacketCost chainId) m = .error e' := by
  induction ambsConfig generalizing m with
  | nil => cases hamb
  | cons a ambs ih =>
    rw [List.foldlM_cons]
    rcases List.mem_cons.1 hamb with rfl | hamb
    · exact ⟨e, by simp [setPacketCost, hp, he, bind, Except.bind, Functor.map, Except.map]⟩
    · cases hs : setPacketCost chainId m a with
      | error e' => exact ⟨e', rfl⟩
      | ok m₁ => exact ih hamb m₁

/-- Packet costs `BigInt` all reads make the `forEach` return. -/
theorem foldlM_setPacketCost_ok (chainId : String) (ambsConfig : List AmbConfig)
    (h : ∀ amb ∈ ambsConfig, ∀ p, amb.packetCost chainId = some p → ∃ n, bigInt p = .ok n)
    (m : JsMap Int) : ∃ m', ambsConfig.foldlM (setPacketCost chainId) m = .ok m' := by
  induction ambsConfig generalizing m with
  | nil => exact ⟨m, rfl⟩
  | cons a ambs ih =>
    rw [List.foldlM_cons]
    have hs : ∃ m₁, setPacketCost chainId m a = .ok m₁ := by
      unfold setPacketCost
      cases hp : a.packetCost chainId with
      | none => exact ⟨m, rfl⟩
      | some p =>
        obtain ⟨n, hn⟩ := h a (List.mem_cons_self a ambs) p hp
        exact ⟨m.set a.name n, by simp only [hn]; rfl⟩
    obtain ⟨m₁, hm₁⟩ := hs
    rw [hm₁]
    exact ih (fun amb hamb => h amb (List.mem_cons_of_mem a hamb)) m₁

theorem loadWorkerData_eq_error (relayerPrivateKey : String) (ambsConfig : List AmbConfig)
    (chainConfig : ChainConfig) (globalConfig : GlobalSubmitterConfig) (e : String)
    (h : ambsConfig.foldlM (setPacketCost chainConfig.chainId) JsMap.empty = .error e) :
    loadWorkerData relayerPrivateKey ambsConfig chainConfig globalConfig = .error e := by
  simp only [loadWorkerData, bind, Except.bind, h]

theorem loadWorkerData_isOk (relayerPrivateKey : String) (ambsConfig : List AmbConfig)
    (chainConfig : ChainConfig) (globalConfig : GlobalSubmitterConfig) (m : JsMap Int)
    (h : ambsConfig.foldlM (setPacketCost chainConfig.chainId) JsMap.empty = .ok m) :
    ∃ w, loadWorkerData relayerPrivateKey ambsConfig chainConfig globalConfig = .ok w := by
  simp only [loadWorkerData, bind, Except.bind, h]
  exact ⟨_, rfl⟩

section Start

variable (relayerPrivateKey : String) (ambsConfig : List AmbConfig)
  (globalConfig : GlobalSubmitterConfig)

/-- Chains whose data loads each get a worker, and the workers already there stay. -/
theorem startWorkers_ok (chainsConfig : List ChainConfig)
    (h : ∀ c ∈ chainsConfig,
      ∃ w, loadWorkerData relayerPrivateKey ambsConfig c globalConfig = .ok w)
    (workers : JsMap SubmitterWorkerData) :
    (startWorkers relayerPrivateKey ambsConfig globalConfig chainsConfig workers).2 = none ∧
      ∀ k, (workers.has k ∨ ∃ c ∈ chainsConfig, c.chainId = k) →
        (startWorkers relayerPrivateKey ambsConfig globalConfig chainsConfig workers).1.has k := by
  induction chainsConfig generalizing workers with
  | nil => exact ⟨rfl, fun k hk => by simpa using hk⟩
  | cons c cs ih =>
    obtain ⟨w, hw⟩ := h c (List.mem_cons_self c cs)
    obtain ⟨hnone, hhas⟩ := ih (fun c' hc' => h c' (List.mem_cons_of_mem c hc'))
      (workers.set c.chainId w)
    simp only [startWorkers, hw]
    refine ⟨hnone, fun k hk => hhas k ?_⟩
    rw [JsMap.has_set]
    rcases hk with hk | ⟨c', hc', rfl⟩
    · simp [hk]
    · rcases List.mem_cons.1 hc' with rfl | hc'
      · simp
      · exact .inr ⟨c', hc', rfl⟩

/-- A chain whose data does not load ends the loop: the workers are those of the chains before
it. -/
theorem startWorkers_append_error (pre : List ChainConfig) (bad : ChainConfig)
    (post : List ChainConfig)
    (hpre : ∀ c ∈ pre, ∃ w, loadWorkerData relayerPrivateKey ambsConfig c globalConfig = .ok w)
    (e : String) (hbad : loadWorkerData relayerPrivateKey ambsConfig bad globalConfig = .error e)
    (workers : JsMap SubmitterWorkerData) :
    startWorkers relayerPrivateKey ambsConfig globalConfig (pre ++ bad :: post) workers =
      ((startWorkers relayerPrivateKey ambsConfig globalConfig pre workers).1, some e) := by
  induction pre generalizing workers with
  | nil => simp [startWorkers, hbad]
  | cons c cs ih =>
    obtain ⟨w, hw⟩ := hpre c (List.mem_cons_self c cs)
    simp only [List.cons_append, startWorkers, hw]
    exact ih (fun c' hc' => hpre c' (List.mem_cons_of_mem c hc')) _

end Start

/-- **A packet cost `BigInt` rejects ends the start-up at its chain.**  The submitter being
enabled, the chains `pre` have packet costs `BigInt` reads and `bad` one it rejects: every chain
of `pre` gets a worker, and the start-up over `pre`, `bad` and any chains `post` after it leaves
exactly the workers of `pre` and throws. -/
theorem onModuleInit_stops_at_bad_packetCost (submitterConfig : SubmitterConfig)
    (privateKey : String) (walletAddress : String → String) (ambsConfig : List AmbConfig)
    (henabled : submitterConfig.enabled ≠ some false) (pre : List ChainConfig)
    (bad : ChainConfig) (post : List ChainConfig)
    (hpre : ∀ c ∈ pre, ∀ amb ∈ ambsConfig, ∀ p, amb.packetCost c.chainId = some p →
      ∃ n, bigInt p = .ok n)
    (amb : AmbConfig) (hamb : amb ∈ ambsConfig) (p : String)
    (hp : amb.packetCost bad.chainId = some p) (e : String) (he : bigInt p = .error e) :
    (onModuleInit submitterConfig privateKey walletAddress ambsConfig pre).2 = none ∧
    (∀ c ∈ pre,
      (onModuleInit submitterConfig privateKey walletAddress ambsConfig pre).1.has c.chainId) ∧
    ∃ e', onModuleInit submitterConfig privateKey walletAddress ambsConfig (pre ++ bad :: post) =
      ((onModuleInit submitterConfig privateKey walletAddress ambsConfig pre).1, some e') := by
  have hen : (loadGlobalSubmitterConfig submitterConfig privateKey walletAddress).enabled := by
    cases h : submitterConfig.enabled with
    | none => simp [loadGlobalSubmitterConfig, h]
    | some b => cases b <;> simp_all [loadGlobalSubmitterConfig]
  have hok : ∀ c ∈ pre, ∃ w, loadWorkerData privateKey ambsConfig c
      (loadGlobalSubmitterConfig submitterConfig privateKey walletAddress) = .ok w := fun c hc =>
    have ⟨m, hm⟩ := foldlM_setPacketCost_ok c.chainId ambsConfig (hpre c hc) JsMap.empty
    loadWorkerData_isOk _ _ _ _ m hm
  obtain ⟨e', he'⟩ := foldlM_setPacketCost_error bad.chainId ambsConfig amb hamb p hp e he
    JsMap.empty
  obtain ⟨hnone, hhas⟩ := startWorkers_ok privateKey ambsConfig _ pre hok JsMap.empty
  simp only [onModuleInit, hen, Bool.not_true, if_false]
  exact ⟨hnone, fun c hc => hhas c.chainId (.inr ⟨c, hc, rfl⟩),
    e', startWorkers_append_error _ _ _ pre bad post hok e' (loadWorkerData_eq_error _ _ _ _ _ he')
      _⟩

/-- Chains `1`, `10` and `2`, with the AMB's packet cost on chain `10` written `1e15`: only
chain `1` gets a worker, and the start-up throws. -/
theorem packetCost_1e15_stops_startup :
    let ambsConfig : List AmbConfig :=
      [⟨"layerZero", fun _ => some "0x1111111111111111111111111111111111111111",
        fun chainId => if chainId = "10" then some "1e15" else some "1000"⟩]
    let chain : String → ChainConfig := fun chainId =>
      ⟨chainId, "https://rpc.example", ⟨none, none, none, none, none, none, none⟩⟩
    let startUp := onModuleInit ⟨none, none, none, none, none, none, none⟩ "0x01" id ambsConfig
      [chain "1", chain "10", chain "2"]
    startUp.1.keys = ["1"] ∧ startUp.2.isSome := by
  intro ambsConfig chain startUp
  have hpre : ∀ c ∈ [chain "1"], ∀ amb ∈ ambsConfig, ∀ p, amb.packetCost c.chainId = some p →
      ∃ n, bigInt p = .ok n := by
    intro c hc amb hamb p hp
    rw [List.mem_singleton] at hc hamb
    subst hc hamb
    obtain rfl : "1000" = p := Option.some.inj hp
    exact ⟨1000, rfl⟩
  obtain ⟨-, -, e, he⟩ := onModuleInit_stops_at_bad_packetCost
    ⟨none, none, none, none, none, none, none⟩ "0x01" id ambsConfig (by decide) [chain "1"]
    (chain "10") [chain "2"] hpre _ (List.mem_singleton_self _) "1e15" rfl _ rfl
  have h : startUp = _ := he
  rw [h]
  exact ⟨rfl, rfl⟩

end GeneralisedRelayer
