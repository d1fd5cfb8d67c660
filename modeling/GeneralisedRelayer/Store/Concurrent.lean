/-
  GeneralisedRelayer.Store.Concurrent — register calls of several workers, interleaved on the
  shared bounty key.

  Each register call is a `get` of the bounty key, a synchronous computation, and (unless it has
  nothing to write, `RegisterCall.write?`) a `set`; a call touches no other key
  (`RegisterCall.apply_get`).  The workers of different chains each have their own `Store` on
  the one database, and nothing orders one worker's `get`/`set` pair against another's.  `Sys`
  holds the key and each worker's `Phase`; `Sys.step i` lets worker `i` take its next `get` or
  `set`, and a schedule is any list of worker indices, so the runs of `Sys.run` are all the
  interleavings.  A worker between its `get` and `set` holds what it read and the value it
  computed from it (`Phase.writing` carries the proof).

  Main results:
    * `interleaving_merges_sublist` — every interleaving finishes each call at most once, and
      leaves the key as a sub-list of the finished calls, run one after another, leaves it;
    * `serial_interleaving_merges_all` — when every `set` finds the key as its call's `get`
      read it, that sub-list is all of them;
    * `lost_update_placed_delivered` — `registerBountyPlaced` and `registerMessageDelivered`
      that both `get` "no record" end with the delivery's baseline alone, which no order of the
      two calls produces.
-/
import GeneralisedRelayer.Store.GetBounty

namespace GeneralisedRelayer

/-! ## §2. Workers on one key. -/

/-- Where one worker's register call stands. -/
inductive Phase where
  /-- Not started. -/
  | pending (c : WorkerCall)
  /-- Between its `get`, which read `read`, and its `set` of what it computed from it. -/
  | writing (c : WorkerCall) (read : Option BountyJson) (value : BountyJson)
      (computed : c.call.write? c.chainId read = some value)
  /-- Finished. -/
  | done

/-- The call a phase still has to finish. -/
def Phase.call? : Phase → Option WorkerCall
  | .pending c | .writing c _ _ _ => some c
  | .done => none

/-- The shared bounty key and each worker's phase. -/
structure Sys where
  record : Option BountyJson
  workers : List Phase

/-- Every worker about to make its call, on a key holding `r`. -/
def Sys.init (r : Option BountyJson) (calls : List WorkerCall) : Sys :=
  ⟨r, calls.map .pending⟩

/-- The calls not yet finished. -/
def Sys.remaining (s : Sys) : List WorkerCall := s.workers.filterMap Phase.call?

/-- Worker `i` takes its next step, and the call it finishes, if any: its `get` (after which a
call with nothing to write is finished), or its `set`. -/
def Sys.step (s : Sys) (i : Nat) : Sys × Option WorkerCall :=
  match s.workers[i]? with
  | some (.pending c) =>
    match hw : c.call.write? c.chainId s.record with
    | some v => ({ s with workers := s.workers.set i (.writing c s.record v hw) }, none)
    | none => ({ s with workers := s.workers.set i .done }, some c)
  | some (.writing c _ v _) => ({ record := some v, workers := s.workers.set i .done }, some c)
  | _ => (s, none)

/-- A schedule run from `s`: the final state, and the calls in the order they finished. -/
def Sys.run : Sys → List Nat → Sys × List WorkerCall
  | s, [] => (s, [])
  | s, i :: is => ((s.step i).1.run is).map id ((s.step i).2.toList ++ ·)

/-- Worker `i`'s next step is not a `set`, or its `set` finds the key as its `get` read it. -/
def Sys.setsAsRead (s : Sys) (i : Nat) : Bool :=
  match s.workers[i]? with
  | some (.writing _ read _ _) => decide (s.record = read)
  | _ => true

/-- Every `set` of the schedule finds the key as its call's `get` read it. -/
def Sys.Serial : Sys → List Nat → Prop
  | _, [] => True
  | s, i :: is => s.setsAsRead i ∧ Sys.Serial (s.step i).1 is

instance Sys.decSerial : (s : Sys) → (is : List Nat) → Decidable (s.Serial is)
  | _, [] => isTrue trivial
  | s, i :: is =>
    have := Sys.decSerial (s.step i).1 is
    inferInstanceAs (Decidable (_ ∧ _))

@[simp] theorem Sys.run_fst_cons (s : Sys) (i : Nat) (is : List Nat) :
    (s.run (i :: is)).1 = ((s.step i).1.run is).1 := rfl

@[simp] theorem Sys.run_snd_cons (s : Sys) (i : Nat) (is : List Nat) :
    (s.run (i :: is)).2 = (s.step i).2.toList ++ ((s.step i).1.run is).2 := rfl

/-! ## §3. No call is lost from the schedule's view. -/

theorem filterMap_cons_eq_toList {α β : Type} (f : α → Option β) (a : α) (l : List α) :
    (a :: l).filterMap f = (f a).toList ++ l.filterMap f := by
  cases h : f a <;> simp [h]

/-- Replacing the element at `i` trades its image for the new one's. -/
theorem filterMap_set_perm {α β : Type} (f : α → Option β) :
    ∀ (l : List α) (i : Nat) {x : α} (y : α), l[i]? = some x →
      ((f x).toList ++ (l.set i y).filterMap f).Perm ((f y).toList ++ l.filterMap f)
  | [], _, _, _, h => by simp at h
  | a :: l, 0, _, y, h => by
    simp only [List.getElem?_cons_zero, Option.some.injEq] at h
    subst h
    simpa only [List.set_cons_zero, filterMap_cons_eq_toList] using
      List.perm_append_comm_assoc _ _ _
  | a :: l, i + 1, x, y, h => by
    simp only [List.set_cons_succ, filterMap_cons_eq_toList]
    calc List.Perm ((f x).toList ++ ((f a).toList ++ (l.set i y).filterMap f))
          ((f a).toList ++ ((f x).toList ++ (l.set i y).filterMap f)) :=
          List.perm_append_comm_assoc _ _ _
      List.Perm _ ((f a).toList ++ ((f y).toList ++ l.filterMap f)) :=
          (filterMap_set_perm f l i y (by simpa using h)).append_left _
      List.Perm _ ((f y).toList ++ ((f a).toList ++ l.filterMap f)) :=
          List.perm_append_comm_assoc _ _ _

/-- **A step finishes a call it takes from the remaining ones**, or none. -/
theorem Sys.step_remaining (s : Sys) (i : Nat) :
    ((s.step i).2.toList ++ (s.step i).1.remaining).Perm s.remaining := by
  unfold Sys.step remaining
  split
  · next c hi =>
    split
    · exact (List.perm_cons c).1 (filterMap_set_perm Phase.call? _ i _ hi)
    · exact filterMap_set_perm Phase.call? _ i _ hi
  · next hi => exact filterMap_set_perm Phase.call? _ i _ hi
  · rfl

/-- **A run finishes calls it takes from the remaining ones**: the completion order and what
is left are the calls the run started with. -/
theorem Sys.run_remaining (s : Sys) (is : List Nat) :
    ((s.run is).2 ++ (s.run is).1.remaining).Perm s.remaining := by
  induction is generalizing s with
  | nil => rfl
  | cons i is ih =>
    simp only [run_fst_cons, run_snd_cons, List.append_assoc]
    exact ((ih _).append_left _).trans (s.step_remaining i)

@[simp] theorem Sys.init_remaining (r : Option BountyJson) (calls : List WorkerCall) :
    (Sys.init r calls).remaining = calls := by
  simp [init, remaining, List.filterMap_map, Function.comp_def, Phase.call?]

/-! ## §4. What an interleaving leaves at the key. -/

/-- One step of a serial schedule: the key moves by the call it finishes. -/
theorem Sys.step_record (s : Sys) (i : Nat) (h : s.setsAsRead i) :
    (s.step i).1.record = replay (s.step i).2.toList s.record := by
  unfold Sys.step
  split
  · next c _ =>
    split
    · rfl
    · next hw => simp [WorkerCall.step, RegisterCall.step, hw]
  · next c read v hv hi =>
    have hr : s.record = read := by simpa [setsAsRead, hi] using h
    simp [WorkerCall.step, RegisterCall.step, hr, hv]
  · rfl

/-- **A serial schedule merges every call it finishes**, in the order they finish. -/
theorem Sys.run_serial (s : Sys) (is : List Nat) (h : s.Serial is) :
    (s.run is).1.record = replay (s.run is).2 s.record := by
  induction is generalizing s with
  | nil => rfl
  | cons i is ih =>
    simp only [run_fst_cons, run_snd_cons, replay_append]
    rw [ih _ h.2, s.step_record i h.1]

/-- The key, and every read a worker holds, are the serial runs of sub-lists of the calls
finished so far, from `r0`. -/
structure Sys.SubRuns (r0 : Option BountyJson) (done : List WorkerCall) (s : Sys) : Prop where
  record : ∃ L, L.Sublist done ∧ s.record = replay L r0
  reads : ∀ (j : Nat) (c : WorkerCall) read v (hv : c.call.write? c.chainId read = some v),
    s.workers[j]? = some (Phase.writing c read v hv) →
    ∃ L, L.Sublist done ∧ read = replay L r0

/-- Finishing worker `i` with call `c`, leaving a sub-run at the key, keeps `SubRuns`. -/
theorem Sys.SubRuns.finish {r0 : Option BountyJson} {done : List WorkerCall} {s : Sys}
    (h : s.SubRuns r0 done) (i : Nat) (c : WorkerCall) {r : Option BountyJson}
    (hr : ∃ L, L.Sublist (done ++ [c]) ∧ r = replay L r0) :
    (Sys.mk r (s.workers.set i .done)).SubRuns r0 (done ++ [c]) := by
  refine ⟨hr, fun j c' read v hv hj => ?_⟩
  rcases eq_or_ne i j with rfl | hij
  · simp [List.getElem?_set] at hj
  · rw [List.getElem?_set_ne hij] at hj
    obtain ⟨L, hL, rfl⟩ := h.reads j c' read v hv hj
    exact ⟨L, hL.trans (List.sublist_append_left _ _), rfl⟩

/-- **Every step keeps `SubRuns`.** -/
theorem Sys.SubRuns.step {r0 : Option BountyJson} {done : List WorkerCall} {s : Sys}
    (h : s.SubRuns r0 done) (i : Nat) :
    (s.step i).1.SubRuns r0 (done ++ (s.step i).2.toList) := by
  obtain ⟨L, hL, hr⟩ := h.record
  unfold Sys.step
  split
  · next c hi =>
    split
    · next v hw =>
      refine ⟨⟨L, by simpa using hL, hr⟩, fun j c' read v' hv hj => ?_⟩
      rcases eq_or_ne i j with rfl | hij
      · simp only [List.getElem?_set, if_true] at hj
        split_ifs at hj
        cases hj
        exact ⟨L, by simpa using hL, hr⟩
      · rw [List.getElem?_set_ne hij] at hj
        simpa using h.reads j c' read v' hv hj
    · exact h.finish i c ⟨L, hL.trans (List.sublist_append_left _ _), hr⟩
  · next c read v hv hi =>
    obtain ⟨L', hL', rfl⟩ := h.reads i c read v hv hi
    refine h.finish i c ⟨L' ++ [c], hL'.append (List.Sublist.refl _), ?_⟩
    simp [WorkerCall.step, RegisterCall.step, hv]
  · simpa using h

/-- **Every interleaving merges a sub-list of the calls**: whatever the schedule, the key ends
as the serial run, from `r0`, of some of the calls in the order they finished. -/
theorem Sys.run_subRuns {r0 : Option BountyJson} (is : List Nat) {done : List WorkerCall}
    {s : Sys} (h : s.SubRuns r0 done) :
    ∃ L, L.Sublist (done ++ (s.run is).2) ∧ (s.run is).1.record = replay L r0 := by
  induction is generalizing s done with
  | nil => simpa [Sys.run] using h.record
  | cons i is ih => simpa using ih (h.step i)

theorem Sys.init_subRuns (r0 : Option BountyJson) (calls : List WorkerCall) :
    (Sys.init r0 calls).SubRuns r0 [] :=
  ⟨⟨[], List.Sublist.slnil, rfl⟩, fun j c read v hv hj => by simp [init] at hj⟩

/-! ## §5. Interleavings of register calls. -/

/-- **Every interleaving merges a sub-list of the calls**: started on a key holding `r0`, any
schedule of the workers finishes calls that, with those still unfinished, are the calls given;
and the key ends as the calls of some sub-list of the completion order would leave it, run one
after another from `r0`. -/
theorem interleaving_merges_sublist (r0 : Option BountyJson) (calls : List WorkerCall)
    (is : List Nat) :
    let R := (Sys.init r0 calls).run is
    (R.2 ++ R.1.remaining).Perm calls ∧ ∃ L, L.Sublist R.2 ∧ R.1.record = replay L r0 :=
  ⟨by simpa using (Sys.init r0 calls).run_remaining is,
    by simpa using Sys.run_subRuns is (Sys.init_subRuns r0 calls)⟩

/-- **A serial interleaving merges every call**: when no `set` lands between another call's
`get` and `set`, the key ends as the finished calls, run one after another in the order they
finished, would leave it. -/
theorem serial_interleaving_merges_all (r0 : Option BountyJson) (calls : List WorkerCall)
    (is : List Nat) (h : (Sys.init r0 calls).Serial is) :
    let R := (Sys.init r0 calls).run is
    (R.2 ++ R.1.remaining).Perm calls ∧ R.1.record = replay R.2 r0 :=
  ⟨by simpa using (Sys.init r0 calls).run_remaining is, Sys.run_serial _ is h⟩

/-- The source chain's `registerBountyPlaced` and the destination chain's
`registerMessageDelivered`, each run to completion before the other starts. -/
theorem serial_placed_delivered :
    let calls : List WorkerCall :=
      [⟨"1", .bountyPlaced
          ⟨"0xaa", ⟨200000, 200000, "0xrefund", 10, 10, 0⟩, "0xescrow", "0x01"⟩⟩,
       ⟨"2", .messageDelivered ⟨"0xaa", "0xescrow", "0x02"⟩⟩]
    (Sys.init none calls).Serial [0, 0, 1, 1] ∧
      (((Sys.init none calls).run [0, 0, 1, 1]).2 ++
        ((Sys.init none calls).run [0, 0, 1, 1]).1.remaining).Perm calls ∧
      ((Sys.init none calls).run [0, 0, 1, 1]).1.record =
        replay ((Sys.init none calls).run [0, 0, 1, 1]).2 none :=
  have h : (Sys.init none _).Serial [0, 0, 1, 1] := by decide
  ⟨h, serial_interleaving_merges_all none _ [0, 0, 1, 1] h⟩

/-- A run from no record with a `registerBountyPlaced` call stores a `targetDelta`. -/
theorem replay_targetDelta_isSome (cs : List WorkerCall)
    (h : ∃ c ∈ cs, ∃ e, c.call = .bountyPlaced e) :
    (fieldOf .targetDelta (replay cs none)).isSome := by
  rw [(replay_placedInv cs (F := none) (r := none) ⟨trivial, rfl, by simp⟩).targetDelta]
  simpa [firstPlaced] using (firstPlaced_isSome_iff cs).2 h

/-- **A lost update**: the source chain's `registerBountyPlaced` and the destination chain's
`registerMessageDelivered` both `get` "no record" before either `set`s.  The delivery's baseline,
set last, replaces the placed bounty: the key ends without `targetDelta`, which every order of
the two calls stores. -/
theorem lost_update_placed_delivered :
    let calls : List WorkerCall :=
      [⟨"1", .bountyPlaced
          ⟨"0xaa", ⟨200000, 200000, "0xrefund", 10, 10, 0⟩, "0xescrow", "0x01"⟩⟩,
       ⟨"2", .messageDelivered ⟨"0xaa", "0xescrow", "0x02"⟩⟩]
    let R := (Sys.init none calls).run [0, 1, 0, 1]
    R.1.remaining = [] ∧ R.2 = calls ∧
      ∀ order : List WorkerCall, order.Perm calls → R.1.record ≠ replay order none := by
  intro calls R
  refine ⟨by decide, by decide, fun order hp heq => ?_⟩
  have hfinal : fieldOf .targetDelta R.1.record = none := by decide
  have hplaced :=
    replay_targetDelta_isSome order ⟨_, hp.mem_iff.2 (List.mem_cons_self _ _), _, rfl⟩
  rw [← heq, hfinal] at hplaced
  exact Bool.false_ne_true hplaced

end GeneralisedRelayer
