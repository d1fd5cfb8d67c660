/-
  GeneralisedRelayer.Store.TextConcurrent — the interleavings of `Store.Concurrent`, on the texts
  redis holds.

  `Store.Concurrent` interleaves the workers' `get`/`set` pairs on the record at one bounty key.
  The code's workers do it on texts: a worker's `get` reads the text at its call's key and
  `JSON.parse`s it (`TextRedis.read`), the worker builds its literal from what it read, and its
  `set` writes `JSON.stringify` of the literal, with the literal's properties in the worker's own
  order, and publishes the key.  A call with nothing to write, or that throws (on a text
  `JSON.parse` refuses, or a price `BigNumber.from` rejects), is finished at its `get`.  Every
  worker's `Store` has a chain, so the read-only check passes.

  Main result:
    * `textInterleaving_refines` — under every schedule, the workers on the texts finish the
      calls the workers on the records finish, in the same order; they leave at the key a text
      that `JSON.parse` reads as the record the workers on the records leave, and every other
      key as it was.  So what `Store.Concurrent` proves of the records holds of the texts.
-/
import GeneralisedRelayer.Store.TextStore
import GeneralisedRelayer.Store.Concurrent

namespace GeneralisedRelayer

/-! ## §1. Workers on the texts. -/

/-- The key a call reads and writes. -/
def TextCall.key (c : TextCall) : String := bountyKey c.call.call.messageIdentifier

/-- Where one worker's register call stands on the texts. -/
inductive TextPhase where
  /-- Not started. -/
  | pending (c : TextCall)
  /-- Between its `get` and its `set` of `text`, the `JSON.stringify` of its literal. -/
  | writing (c : TextCall) (text : String)
  /-- Finished. -/
  | done

/-- The database and each worker's phase. -/
structure TextSys where
  db : TextRedis
  workers : List TextPhase

/-- Every worker about to make its call. -/
def TextSys.init (db : TextRedis) (calls : List TextCall) : TextSys := ⟨db, calls.map .pending⟩

/-- Worker `i` takes its next step, and the call it finishes, if any: its `get`, `JSON.parse` and
literal (after which a call with nothing to write, or that threw, is finished), or its `set`. -/
def TextSys.step (s : TextSys) (i : Nat) : TextSys × Option TextCall :=
  match s.workers[i]? with
  | some (.pending c) =>
    match s.db.read c.key >>= c.call.call.build c.call.chainId with
    | .ok (some bounty) =>
      ({ s with workers := s.workers.set i (.writing c (stringifyBounty c.order bounty)) }, none)
    | _ => ({ s with workers := s.workers.set i .done }, some c)
  | some (.writing c text) =>
    ({ db := s.db.set c.key text, workers := s.workers.set i .done }, some c)
  | _ => (s, none)

/-- A schedule run from `s`: the final state, and the calls in the order they finished. -/
def TextSys.run : TextSys → List Nat → TextSys × List TextCall
  | s, [] => (s, [])
  | s, i :: is => ((s.step i).1.run is).map id ((s.step i).2.toList ++ ·)

/-! ## §2. The texts stand for the records. -/

/-- A worker on the texts stands for a worker on the records at `key`: the same call, of that
key; between `get` and `set`, a text that reads back as the value the record's worker sets. -/
inductive TextPhase.Refines (key : String) : TextPhase → Phase → Prop
  | pending (c : TextCall) (hk : c.key = key) :
      TextPhase.Refines key (.pending c) (.pending c.call)
  | writing (c : TextCall) (text : String) (read : Option BountyJson) (value : BountyJson)
      (computed : c.call.call.write? c.call.chainId read = some value) (hk : c.key = key)
      (htext : textRecord text = some value) :
      TextPhase.Refines key (.writing c text) (.writing c.call read value computed)
  | done : TextPhase.Refines key .done .done

/-- The text at `key` stands for the record, and each worker for its worker. -/
structure TextSys.Refines (key : String) (ts : TextSys) (s : Sys) : Prop where
  text : (ts.db.bounties key).map textRecord = s.record.map some
  workers : List.Forall₂ (TextPhase.Refines key) ts.workers s.workers

/-- Two lists related elementwise have related entries at every index, or none. -/
theorem forall₂_getElem? {α β : Type} {R : α → β → Prop} {l₁ : List α} {l₂ : List β}
    (h : List.Forall₂ R l₁ l₂) (i : Nat) :
    (l₁[i]? = none ∧ l₂[i]? = none) ∨ ∃ a b, l₁[i]? = some a ∧ l₂[i]? = some b ∧ R a b := by
  induction h generalizing i with
  | nil => exact .inl ⟨rfl, rfl⟩
  | @cons a b _ _ hab _ ih =>
    cases i with
    | zero => exact .inr ⟨a, b, List.getElem?_cons_zero, List.getElem?_cons_zero, hab⟩
    | succ i => simpa only [List.getElem?_cons_succ] using ih i

/-- Setting related entries at the same index keeps two lists related elementwise. -/
theorem forall₂_set {α β : Type} {R : α → β → Prop} {l₁ : List α} {l₂ : List β}
    (h : List.Forall₂ R l₁ l₂) (i : Nat) {a : α} {b : β} (hab : R a b) :
    List.Forall₂ R (l₁.set i a) (l₂.set i b) := by
  induction h generalizing i with
  | nil => exact .nil
  | cons hxy hrest ih =>
    cases i with
    | zero => exact .cons hab hrest
    | succ i => exact .cons hxy (ih i)

/-! ## §3. Every step, and so every run, of the workers on the texts simulates theirs on the
records. -/

section

variable {key : String} {ts : TextSys} {s : Sys} {i : Nat}

theorem TextSys.step_idle (hi : ts.workers[i]? = none ∨ ts.workers[i]? = some .done) :
    ts.step i = (ts, none) := by
  rcases hi with hi | hi <;> simp [TextSys.step, hi]

theorem TextSys.step_pending {c : TextCall} {r : Option BountyJson}
    (hi : ts.workers[i]? = some (.pending c)) (hread : ts.db.read c.key = .ok r) :
    ts.step i = match c.call.call.build c.call.chainId r with
      | .ok (some bounty) =>
        ({ ts with workers := ts.workers.set i (.writing c (stringifyBounty c.order bounty)) },
          none)
      | _ => ({ ts with workers := ts.workers.set i .done }, some c) := by
  simp only [TextSys.step, hi, hread, bind, Except.bind]

theorem TextSys.step_writing {c : TextCall} {text : String}
    (hi : ts.workers[i]? = some (.writing c text)) :
    ts.step i = ({ db := ts.db.set c.key text, workers := ts.workers.set i .done }, some c) := by
  simp [TextSys.step, hi]

theorem Sys.step_idle (hi : s.workers[i]? = none ∨ s.workers[i]? = some .done) :
    s.step i = (s, none) := by
  rcases hi with hi | hi <;> simp [Sys.step, hi]

theorem Sys.step_pending_some {c : WorkerCall} {v : BountyJson}
    (hi : s.workers[i]? = some (.pending c)) (hw : c.call.write? c.chainId s.record = some v) :
    s.step i = ({ s with workers := s.workers.set i (.writing c s.record v hw) }, none) := by
  unfold Sys.step
  rw [hi]
  dsimp only
  split
  · next v' hw' => cases hw.symm.trans hw'; rfl
  · next hw' => cases hw.symm.trans hw'

theorem Sys.step_pending_none {c : WorkerCall} (hi : s.workers[i]? = some (.pending c))
    (hw : c.call.write? c.chainId s.record = none) :
    s.step i = ({ s with workers := s.workers.set i .done }, some c) := by
  unfold Sys.step
  rw [hi]
  dsimp only
  split
  · next v' hw' => cases hw.symm.trans hw'
  · rfl

theorem Sys.step_writing {c : WorkerCall} {read : Option BountyJson} {v : BountyJson} {hw}
    (hi : s.workers[i]? = some (.writing c read v hw)) :
    s.step i = ({ record := some v, workers := s.workers.set i .done }, some c) := by
  simp [Sys.step, hi]

/-- **One step**: worker `i`'s step on the texts stands for its step on the records, finishes
the same call, and writes no other key. -/
theorem TextSys.step_refines (h : ts.Refines key s) (i : Nat) :
    (ts.step i).1.Refines key (s.step i).1 ∧ (ts.step i).2.map (·.call) = (s.step i).2 ∧
      ∀ key', key' ≠ key → (ts.step i).1.db.bounties key' = ts.db.bounties key' := by
  rcases forall₂_getElem? h.workers i with ⟨ht, hs⟩ | ⟨p, q, ht, hs, hpq⟩
  · rw [TextSys.step_idle (.inl ht), Sys.step_idle (.inl hs)]
    exact ⟨h, rfl, fun _ _ => rfl⟩
  cases hpq with
  | pending c hk =>
    rw [TextSys.step_pending ht (TextRedis.read_of_text (hk ▸ h.text))]
    have hwrite := RegisterCall.write?_eq_build c.call.chainId c.call.call s.record
    rcases hb : c.call.call.build c.call.chainId s.record with e | _ | o <;> rw [hb] at hwrite
    · rw [Sys.step_pending_none hs hwrite]
      exact ⟨⟨h.text, forall₂_set h.workers i .done⟩, rfl, fun _ _ => rfl⟩
    · rw [Sys.step_pending_none hs hwrite]
      exact ⟨⟨h.text, forall₂_set h.workers i .done⟩, rfl, fun _ _ => rfl⟩
    · rw [Sys.step_pending_some hs hwrite]
      -- the text the worker will set reads back as the record, as `Represents.set` says
      have htext : textRecord (stringifyBounty c.order o) = some o.stringify := by
        simpa [TextRedis.set] using (Represents.empty.set c.key c.order o).bounties c.key
      exact ⟨⟨h.text, forall₂_set h.workers i (.writing c _ _ _ hwrite hk htext)⟩, rfl,
        fun _ _ => rfl⟩
  | writing c text read value computed hk htext =>
    rw [TextSys.step_writing ht, Sys.step_writing hs]
    refine ⟨⟨?_, forall₂_set h.workers i .done⟩, rfl, fun key' hk' => ?_⟩
    · simp [TextRedis.set, ← hk, htext]
    · simp [TextRedis.set, Function.update_noteq fun e => hk' (e.trans hk)]
  | done =>
    rw [TextSys.step_idle (.inr ht), Sys.step_idle (.inr hs)]
    exact ⟨h, rfl, fun _ _ => rfl⟩

/-- **Every run**: under any schedule the workers on the texts end standing for the workers on
the records, finish the same calls in the same order, and write no other key. -/
theorem TextSys.run_refines (h : ts.Refines key s) (is : List Nat) :
    (ts.run is).1.Refines key (s.run is).1 ∧ (ts.run is).2.map (·.call) = (s.run is).2 ∧
      ∀ key', key' ≠ key → (ts.run is).1.db.bounties key' = ts.db.bounties key' := by
  induction is generalizing ts s with
  | nil => exact ⟨h, rfl, fun _ _ => rfl⟩
  | cons i is ih =>
    obtain ⟨hstep, hfin, hframe⟩ := TextSys.step_refines h i
    obtain ⟨hrun, hfins, hframes⟩ := ih hstep
    refine ⟨hrun, ?_, fun key' hk' => (hframes key' hk').trans (hframe key' hk')⟩
    show ((ts.step i).2.toList ++ ((ts.step i).1.run is).2).map (·.call) =
      (s.step i).2.toList ++ ((s.step i).1.run is).2
    rw [List.map_append, hfins, ← hfin]
    cases (ts.step i).2 <;> rfl

end

/-- Workers about to make calls of one key, on a text that stands for the record there, stand
for the same workers on the records. -/
theorem TextSys.init_refines (db : TextRedis) (calls : List TextCall) (r : Option BountyJson)
    (key : String) (hdb : (db.bounties key).map textRecord = r.map some)
    (hcalls : ∀ c ∈ calls, c.key = key) :
    (TextSys.init db calls).Refines key (Sys.init r (calls.map (·.call))) := by
  refine ⟨hdb, ?_⟩
  simp only [TextSys.init, Sys.init, List.map_map]
  induction calls with
  | nil => exact .nil
  | cons c calls ih =>
    exact .cons (.pending c (hcalls c (List.mem_cons_self c calls)))
      (ih fun c' h => hcalls c' (List.mem_cons_of_mem c h))

/-- **The text interleavings refine the record interleavings**: take workers making register
calls on one `messageIdentifier`, each literal's properties in any order, on a database whose
text at the bounty key stands for a record.  Under every schedule, the workers on the texts
finish the calls the workers on the records finish, in the same order; they leave at the key a
text `JSON.parse` reads as the record the workers on the records leave; and every other key as it
was. -/
theorem textInterleaving_refines (db : TextRedis) (r : Option BountyJson) (id : String)
    (calls : List TextCall) (is : List Nat)
    (hdb : (db.bounties (bountyKey id)).map textRecord = r.map some)
    (hcalls : ∀ c ∈ calls, c.call.call.messageIdentifier = id) :
    ((TextSys.init db calls).run is).2.map (·.call) =
        ((Sys.init r (calls.map (·.call))).run is).2 ∧
      (((TextSys.init db calls).run is).1.db.bounties (bountyKey id)).map textRecord =
        ((Sys.init r (calls.map (·.call))).run is).1.record.map some ∧
      ∀ key, key ≠ bountyKey id →
        ((TextSys.init db calls).run is).1.db.bounties key = db.bounties key := by
  have h := TextSys.init_refines db calls r (bountyKey id) hdb fun c hc => by
    rw [TextCall.key, hcalls c hc]
  obtain ⟨hrun, hfins, hframe⟩ := TextSys.run_refines h is
  exact ⟨hfins, hrun.text, hframe⟩

/-- A delivery by chain `2` and a claim by chain `1` of message `0x01` on an empty database, both
`get`s before both `set`s. -/
theorem delivered_claimed_text_interleaving :
    let calls : List TextCall :=
      [⟨⟨"2", .messageDelivered ⟨"0x01", "0xab", "0xcd"⟩⟩, ⟨BountyField.all, by decide, by decide⟩⟩,
        ⟨⟨"1", .bountyClaimed ⟨"0x01", "0xef", "0x12"⟩⟩, ⟨BountyField.all, by decide, by decide⟩⟩]
    ((TextRedis.empty.bounties (bountyKey "0x01")).map textRecord =
        (none : Option BountyJson).map some ∧
      ∀ c ∈ calls, c.call.call.messageIdentifier = "0x01") ∧
    ((TextSys.init TextRedis.empty calls).run [0, 1, 0, 1]).2.map (·.call) =
        ((Sys.init none (calls.map (·.call))).run [0, 1, 0, 1]).2 ∧
      (((TextSys.init TextRedis.empty calls).run [0, 1, 0, 1]).1.db.bounties
          (bountyKey "0x01")).map textRecord =
        ((Sys.init none (calls.map (·.call))).run [0, 1, 0, 1]).1.record.map some ∧
      ∀ key, key ≠ bountyKey "0x01" →
        ((TextSys.init TextRedis.empty calls).run [0, 1, 0, 1]).1.db.bounties key =
          TextRedis.empty.bounties key :=
  ⟨⟨rfl, by decide⟩, textInterleaving_refines TextRedis.empty none "0x01" _ [0, 1, 0, 1] rfl
    (by decide)⟩

end GeneralisedRelayer
