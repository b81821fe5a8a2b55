import CosmwasmSimulate.Session

/-!
# The watcher and the session, interleaved

Once the first address has been received, the watcher thread and the session run side by side
on ENGINES. The session holds the contract it runs on (`active`) and the loop `start_simulate`
chose for it. Every pass of that loop reads ENGINES as it is at that moment (`get_call_type`
counts the contracts and looks the switch target up); a dispatched `engine.call` changes the
registered instance in place; and a switch is followed by `start_simulate` on the target, which
looks it up again.

The system is a step relation on `SysState`: a watcher step (`WatchStep`), a pass of the session,
or the `start_simulate` after a switch, in any interleaving. The VM's `call` is a parameter, as
in `Server`.

Each step is atomic, although main.rs shares the static ENGINES between its threads without a
lock. A pass is one step, and it looks the active contract up afresh, where main.rs keeps the
`&mut` that `start_simulate` took for the whole loop. A rebuild is one step too, where main.rs
reads the storage inside `with_storage`, sleeps, builds the new instance and only then inserts
it, so that a session call falling between that snapshot and the insert is lost in the code and
cannot happen here. The results are therefore about which contracts are registered and active,
which every thread only ever adds to or replaces. Nothing is stated about storage across a
rebuild: that needs the rebuild split into its snapshot and its insert.

* `SysStep.inv`: every step keeps the active contract, and any switch target, registered. The
  watcher only ever adds or replaces entries, and `get_call_type` offers only registered
  targets.
* `sysRun_never_fails`: from the handoff on a registered address, in every interleaving with
  the watcher's rebuilds, `start_simulate` never fails and the session can always take its next
  pass.
-/

namespace CosmwasmSimulate

/-- The two threads after the handoff. `auto` is the loop `start_simulate` chose (the
schema-driven one or the raw-JSON one); `pending` is a switch target `start_simulate` has not
looked up yet; `failed` is the error that ends the program. -/
structure SysState where
  watch : WatchState
  active : String
  auto : Bool
  pending : Option String
  input : List String
  calls : List (String × String)
  failed : Option String

/-- One pass of the loop `start_simulate` chose. -/
def sessionTurn (auto : Bool) (engines : Engines) (engine : ContractInstance)
    (input : List String) : Turn :=
  if auto then simulateByAutoAnalyzeTurn engines engine input
  else simulateByJsonTurn engines engine input

section
variable (call : ContractInstance → String → String → ContractInstance × String)

/-- The system after a pass on `engine`, the instance registered at the active address. A
dispatched `engine.call(call_type, msg)` changes that instance in place. -/
def afterTurn (s : SysState) (engine : ContractInstance) : Turn → SysState
  | .again input => { s with input }
  | .dispatch callType msg input =>
    { s with input, calls := s.calls ++ [(callType, msg)],
             watch := { s.watch with
               engines := s.watch.engines.insert s.active (call engine callType msg).1 } }
  | .switch contractAddr input => { s with input, pending := some contractAddr }

/-- `start_simulate(contract_addr)` inside `start_simulate_forever`. -/
def startStep (s : SysState) (contractAddr : String) : SysState :=
  match s.watch.engines.lookup contractAddr with
  | none => { s with pending := none, failed := some ("No engine found: " ++ contractAddr) }
  | some engine =>
    { s with pending := none, active := contractAddr,
             auto := !engine.analyzer.mapOfMember.isEmpty }

/-- The state right after the handoff: `start_simulate_forever(contract_addr)` is about to look
its address up. -/
def handoff (watch : WatchState) (contractAddr : String) (input : List String) : SysState :=
  ⟨watch, contractAddr, false, some contractAddr, input, [], none⟩

inductive SysStep (senderAddr : String) (wasmFiles : List (String × String))
    (env : Nat → Nat → Probe) : SysState → SysState → Prop
  /-- The watcher thread takes a step. -/
  | watch {s : SysState} {w : WatchState} :
      WatchStep senderAddr wasmFiles env s.watch w →
      SysStep senderAddr wasmFiles env s { s with watch := w }
  /-- The session takes a pass on the instance registered at its address. -/
  | turn {s : SysState} {engine : ContractInstance} :
      s.failed = none → s.pending = none → s.watch.engines.lookup s.active = some engine →
      SysStep senderAddr wasmFiles env s
        (afterTurn call s engine (sessionTurn s.auto s.watch.engines engine s.input))
  /-- `start_simulate` on the switch target. -/
  | start {s : SysState} {contractAddr : String} :
      s.failed = none → s.pending = some contractAddr →
      SysStep senderAddr wasmFiles env s (startStep s contractAddr)

end

/-- Nothing has failed, the active contract is registered while no switch is pending, and a
pending switch target is registered. -/
def SysInv (s : SysState) : Prop :=
  s.failed = none ∧ (s.pending = none → s.active ∈ s.watch.engines) ∧
    ∀ b, s.pending = some b → b ∈ s.watch.engines

/-! ## One step -/

section
variable {call : ContractInstance → String → String → ContractInstance × String}
  {senderAddr : String} {wasmFiles : List (String × String)} {env : Nat → Nat → Probe}
  {s s' : SysState}

/-- A watcher step never drops a registered contract. -/
theorem WatchStep.mem {st st' : WatchState} (h : WatchStep senderAddr wasmFiles env st st')
    {k : String} (hk : k ∈ st.engines) : k ∈ st'.engines := by
  rcases h.engines_eq with he | ⟨_, _, _, _, he⟩ <;> rw [he]
  exacts [hk, mem_rebuild.mpr (.inl hk)]

/-- A pass switches only to a contract registered when it runs. -/
theorem sessionTurn_switch {auto : Bool} {engines : Engines} {engine : ContractInstance}
    {input r : List String} {b : String} (h : sessionTurn auto engines engine input = .switch b r) :
    b ∈ engines := by
  unfold sessionTurn at h
  split at h
  · obtain ⟨_, hg⟩ := simulateByAutoAnalyzeTurn_switch h
    exact getCallType_switch hg
  · obtain ⟨_, hg⟩ := simulateByJsonTurn_switch h
    exact getCallType_switch hg

/-- No step drops a registered contract. -/
theorem SysStep.mem (h : SysStep call senderAddr wasmFiles env s s') {k : String}
    (hk : k ∈ s.watch.engines) : k ∈ s'.watch.engines := by
  cases h with
  | watch hw => exact hw.mem hk
  | @turn engine _ _ _ =>
    cases sessionTurn s.auto s.watch.engines engine s.input with
    | dispatch c m r => exact (AList.mem_insert _).mpr (.inr hk)
    | again r | switch b r => exact hk
  | @start b _ _ =>
    unfold startStep
    split <;> exact hk

theorem afterTurn_inv {engine : ContractInstance} {t : Turn} (hs : SysInv s)
    (hp : s.pending = none) (ht : ∀ b r, t = .switch b r → b ∈ s.watch.engines) :
    SysInv (afterTurn call s engine t) := by
  obtain ⟨hf, ha, -⟩ := hs
  cases t with
  | again input => exact ⟨hf, fun _ => ha hp, fun b h => by simp [afterTurn, hp] at h⟩
  | dispatch c m input =>
    exact ⟨hf, fun _ => (AList.mem_insert _).mpr (.inl rfl),
      fun b h => by simp [afterTurn, hp] at h⟩
  | switch b input =>
    refine ⟨hf, fun h => (by cases h), fun b' h => ?_⟩
    cases h
    exact ht b input rfl

/-- Every step keeps the invariant. -/
theorem SysStep.inv (h : SysStep call senderAddr wasmFiles env s s') (hs : SysInv s) :
    SysInv s' := by
  obtain ⟨hf, ha, hb⟩ := hs
  cases h with
  | watch hw =>
    exact ⟨hf, fun hp => hw.mem (ha hp), fun b hp => hw.mem (hb b hp)⟩
  | turn _ hp _ => exact afterTurn_inv ⟨hf, ha, hb⟩ hp fun _ _ ht => sessionTurn_switch ht
  | @start b _ hp =>
    obtain ⟨engine, he⟩ := Option.isSome_iff_exists.mp (AList.lookup_isSome.mpr (hb b hp))
    simp only [startStep, he]
    exact ⟨hf, fun _ => AList.lookup_isSome.mp (by simp [he]), fun _ h => by cases h⟩

end

/-! ## Every interleaving -/

section
variable {call : ContractInstance → String → String → ContractInstance × String}
  {senderAddr : String} {wasmFiles : List (String × String)} {env : Nat → Nat → Probe}
  {s s' : SysState}

/-- From the handoff on a registered address, in every interleaving of the session with the
watcher's polls and rebuilds, `start_simulate` never fails, and whenever no switch is pending
the active contract is registered, so the session's next pass can run. -/
theorem sysRun_never_fails {watch : WatchState} {contractAddr : String} {input : List String}
    (h : Relation.ReflTransGen (SysStep call senderAddr wasmFiles env)
      (handoff watch contractAddr input) s')
    (ha : contractAddr ∈ watch.engines) :
    s'.failed = none ∧
      (s'.pending = none → ∃ engine, s'.watch.engines.lookup s'.active = some engine) := by
  obtain ⟨hf, hact, -⟩ := reflTransGen_invariant (fun _ _ hstep => hstep.inv) h
    ⟨rfl, fun h => (by cases h), fun b h => by cases h; exact ha⟩
  exact ⟨hf, fun hp => Option.isSome_iff_exists.mp (AList.lookup_isSome.mpr (hact hp))⟩

end

/-- The session on `counter` starts, dispatches a `query`, and the watcher polls again. -/
theorem sysRun_never_fails_counter :
    ∃ s, Relation.ReflTransGen
        (SysStep (fun e _ _ => ({ e with storage := ⟨[([1], [2])]⟩ }, "null")) SENDER_ADDR
          [("artifacts/counter.wasm", "counter")]
          (fun _ _ => ⟨.modified 1, .ok ⟨[], ⟨[], [], [], []⟩⟩⟩))
        (handoff ⟨(∅ : Engines).insert "counter" ⟨[], ⟨[], [], [], []⟩, "counter", SENDER_ADDR,
          MockStorage.default⟩, [1], ["counter"]⟩ "counter" ["query", "\x7b\x7d"]) s ∧
      "counter" ∈ (∅ : Engines).insert "counter" ⟨[], ⟨[], [], [], []⟩, "counter", SENDER_ADDR,
          MockStorage.default⟩ ∧
      s.failed = none ∧
      (s.pending = none → ∃ engine, s.watch.engines.lookup s.active = some engine) :=
  (fun run => ⟨_, run, by decide, sysRun_never_fails run (by decide)⟩)
    (((Relation.ReflTransGen.single (.start rfl rfl)).tail (.turn rfl rfl rfl)).tail
      (.watch (.notify _ rfl)))

end CosmwasmSimulate
