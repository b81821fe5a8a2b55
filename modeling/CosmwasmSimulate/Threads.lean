import CosmwasmSimulate.Server
import CosmwasmSimulate.System

/-!
# The program with its REST server

Given a port, `prepare_command_line` first starts the REST server (`start_server`, with one
worker), whose three routes run `call_engine` on ENGINES, and only then spawns the watcher. A
request is one step of the server: it looks its address up and, if it gets that far, calls the
engine in place. Until the handoff the server runs beside the watcher (`BootStep`); after it
three threads share ENGINES: the watcher, the session and the server (`RunStep`, which adds the
requests to `SysStep`), in any interleaving.

A request is one atomic step, as a pass and a rebuild are (see `System`). The server's one
worker serves one request at a time, but main.rs takes no lock on ENGINES, so in the code a
request may fall inside a pass or inside a rebuild. The results are about which contracts are
registered and what their instances are bound to, which every thread only ever adds to or
replaces.

* `runRun_never_fails`: whatever the server is asked, and in whatever order the three threads
  run, `start_simulate` never fails, and no contract registered at the handoff is ever
  unregistered.
* `runRun_registered`: from the program's start, whatever the server is asked while the watcher
  polls and across every interleaving of the three threads after the handoff, every instance in
  ENGINES is bound to the address it is registered under and to the simulator's sender, and
  that address is a listed artifact's. A request, to any address, never registers a contract;
  only the watcher does, and only the artifacts it tracks.
-/

namespace CosmwasmSimulate

/-- The routes mounted at `/wasm`. -/
inductive Route
  | init
  | handle
  | query
deriving DecidableEq, Repr

section
variable (base64Decode : String → Except String (List UInt8))
  (fromUtf8 : List UInt8 → Except String String)
  (call : ContractInstance → String → String → ContractInstance × String)

/-- The handler of a request on `route`: `init_contract`, `handle_contract` or
`query_contract`. -/
def handleRequest : Route → Engines → String → String → String × Engines
  | .init => initContract base64Decode fromUtf8 call
  | .handle => handleContract base64Decode fromUtf8 call
  | .query => queryContract base64Decode fromUtf8 call

inductive RunStep (senderAddr : String) (wasmFiles : List (String × String))
    (env : Nat → Nat → Probe) : SysState → SysState → Prop
  /-- The watcher or the session takes a step. -/
  | sys {s s' : SysState} :
      SysStep call senderAddr wasmFiles env s s' → RunStep senderAddr wasmFiles env s s'
  /-- The server answers a request for `address` on `route`. -/
  | request {s : SysState} (route : Route) (address msg : String) :
      RunStep senderAddr wasmFiles env s { s with watch := { s.watch with
        engines := (handleRequest base64Decode fromUtf8 call route s.watch.engines address msg).2 } }

/-- The steps before the handoff: the server is started before the watcher is spawned, so its
requests interleave with the watcher's steps from the first poll on. -/
inductive BootStep (senderAddr : String) (wasmFiles : List (String × String))
    (env : Nat → Nat → Probe) : WatchState → WatchState → Prop
  /-- The watcher takes a step. -/
  | watch {st st' : WatchState} :
      WatchStep senderAddr wasmFiles env st st' → BootStep senderAddr wasmFiles env st st'
  /-- The server answers a request for `address` on `route`. -/
  | request {st : WatchState} (route : Route) (address msg : String) :
      BootStep senderAddr wasmFiles env st
        { st with engines := (handleRequest base64Decode fromUtf8 call route st.engines address msg).2 }

/-- What a request does to ENGINES: nothing, or the instance at its address replaced by the one
the call leaves. -/
theorem handleRequest_engines_eq (route : Route) (engines : Engines) (address msg : String) :
    (handleRequest base64Decode fromUtf8 call route engines address msg).2 = engines ∨
      ∃ engine funcType param, engines.lookup address = some engine ∧
        (handleRequest base64Decode fromUtf8 call route engines address msg).2 =
          engines.insert address (call engine funcType param).1 := by
  cases route <;>
  · rcases callEngine_spec base64Decode fromUtf8 call engines address _ msg with
      ⟨_, h⟩ | ⟨engine, param, he, h⟩
    · exact .inl (congrArg Prod.snd h)
    · exact .inr ⟨engine, _, param, he, congrArg Prod.snd h⟩

end

/-! ## What may be registered -/

/-- What ENGINES may hold: every instance is bound to the address it is registered under and to
the simulator's sender, and that address is a listed artifact's. -/
def Engines.Registered (senderAddr : String) (wasmFiles : List (String × String))
    (engines : Engines) : Prop :=
  engines.Bound senderAddr ∧ ∀ k ∈ engines, ∃ f ∈ wasmFiles, f.2 = k

namespace Engines.Registered

variable {senderAddr : String} {wasmFiles : List (String × String)} {engines : Engines}

theorem empty : (∅ : Engines).Registered senderAddr wasmFiles :=
  ⟨Engines.bound_empty senderAddr, fun _ h => absurd h (AList.not_mem_empty _)⟩

/-- A rebuild of a listed artifact. -/
theorem rebuild (h : engines.Registered senderAddr wasmFiles) {file : String × String}
    (hf : file ∈ wasmFiles) (load : Except String Module) :
    (CosmwasmSimulate.rebuild senderAddr file load engines).Registered senderAddr wasmFiles := by
  refine ⟨rebuild_bound h.1 file load, fun k hk => ?_⟩
  rcases mem_rebuild.mp hk with hk | ⟨rfl, -⟩
  exacts [h.2 k hk, ⟨file, hf, rfl⟩]

/-- Replacing a registered instance by one bound to the same address and sender. -/
theorem insert (h : engines.Registered senderAddr wasmFiles) {a : String}
    {x y : ContractInstance} (hx : engines.lookup a = some x)
    (hy : y.address = x.address ∧ y.sender = x.sender) :
    Engines.Registered senderAddr wasmFiles (engines.insert a y) := by
  have ha : a ∈ engines := AList.lookup_isSome.mp (by simp [hx])
  refine ⟨fun k e he => ?_, fun k hk => ?_⟩
  · by_cases hk : k = a
    · subst hk
      rw [AList.lookup_insert] at he
      cases he
      obtain ⟨hxa, hxs⟩ := h.1 k x hx
      exact ⟨hy.1.trans hxa, hy.2.trans hxs⟩
    · exact h.1 k e (by rwa [AList.lookup_insert_ne hk] at he)
  · rcases (AList.mem_insert _).mp hk with rfl | hk
    exacts [h.2 k ha, h.2 k hk]

/-- A request, to any address, with a VM whose calls keep an instance's address and sender: it
registers nothing. -/
theorem request (h : engines.Registered senderAddr wasmFiles)
    {base64Decode : String → Except String (List UInt8)}
    {fromUtf8 : List UInt8 → Except String String}
    {call : ContractInstance → String → String → ContractInstance × String}
    (hcall : ∀ e c m, (call e c m).1.address = e.address ∧ (call e c m).1.sender = e.sender)
    (route : Route) (address msg : String) :
    Engines.Registered senderAddr wasmFiles
      (handleRequest base64Decode fromUtf8 call route engines address msg).2 := by
  rcases handleRequest_engines_eq base64Decode fromUtf8 call route engines address msg
    with he | ⟨engine, f, p, hl, he⟩ <;> rw [he]
  exacts [h, h.insert hl (hcall engine f p)]

end Engines.Registered

/-! ## One step -/

section
variable {base64Decode : String → Except String (List UInt8)}
  {fromUtf8 : List UInt8 → Except String String}
  {call : ContractInstance → String → String → ContractInstance × String}
  {senderAddr : String} {wasmFiles : List (String × String)} {env : Nat → Nat → Probe}
  {s s' : SysState}

theorem WatchStep.registered {st st' : WatchState} (h : WatchStep senderAddr wasmFiles env st st')
    (hr : st.engines.Registered senderAddr wasmFiles) :
    st'.engines.Registered senderAddr wasmFiles := by
  rcases h.engines_eq with he | ⟨_, _, _, hf, he⟩ <;> rw [he]
  exacts [hr, hr.rebuild (List.getElem?_mem hf) _]

/-- A request never unregisters a contract. -/
theorem RunStep.mem (h : RunStep base64Decode fromUtf8 call senderAddr wasmFiles env s s')
    {k : String} (hk : k ∈ s.watch.engines) : k ∈ s'.watch.engines := by
  cases h with
  | sys h => exact h.mem hk
  | request route address msg =>
    rcases handleRequest_engines_eq base64Decode fromUtf8 call route s.watch.engines address msg
      with he | ⟨_, _, _, _, he⟩ <;> simp only [he]
    exacts [hk, (AList.mem_insert _).mpr (.inr hk)]

theorem RunStep.inv (h : RunStep base64Decode fromUtf8 call senderAddr wasmFiles env s s')
    (hs : SysInv s) : SysInv s' := by
  have hmem : ∀ k, k ∈ s.watch.engines → k ∈ s'.watch.engines := fun _ => h.mem
  cases h with
  | sys h => exact h.inv hs
  | request => exact ⟨hs.1, fun hp => hmem _ (hs.2.1 hp), fun b hp => hmem _ (hs.2.2 b hp)⟩

/-- With a VM whose calls keep an instance's address and sender, every step keeps ENGINES
`Registered`. -/
theorem RunStep.registered
    (hcall : ∀ e c m, (call e c m).1.address = e.address ∧ (call e c m).1.sender = e.sender)
    (h : RunStep base64Decode fromUtf8 call senderAddr wasmFiles env s s')
    (hr : s.watch.engines.Registered senderAddr wasmFiles) :
    s'.watch.engines.Registered senderAddr wasmFiles := by
  cases h with
  | sys h =>
    cases h with
    | watch hw => exact hw.registered hr
    | @turn engine _ _ he =>
      cases sessionTurn s.auto s.watch.engines engine s.input with
      | dispatch c m r => exact hr.insert he (hcall engine c m)
      | again r | switch b r => exact hr
    | @start b _ _ =>
      unfold startStep
      split <;> exact hr
  | request route address msg => exact hr.request hcall route address msg

theorem BootStep.registered
    (hcall : ∀ e c m, (call e c m).1.address = e.address ∧ (call e c m).1.sender = e.sender)
    {st st' : WatchState} (h : BootStep base64Decode fromUtf8 call senderAddr wasmFiles env st st')
    (hr : st.engines.Registered senderAddr wasmFiles) :
    st'.engines.Registered senderAddr wasmFiles := by
  cases h with
  | watch h => exact h.registered hr
  | request route address msg => exact hr.request hcall route address msg

end

/-! ## Every interleaving -/

section
variable {base64Decode : String → Except String (List UInt8)}
  {fromUtf8 : List UInt8 → Except String String}
  {call : ContractInstance → String → String → ContractInstance × String}
  {senderAddr : String} {wasmFiles : List (String × String)} {env : Nat → Nat → Probe}
  {s s' : SysState}

/-- From the handoff on a registered address, whatever requests the server answers and in
whatever order the three threads run, `start_simulate` never fails, the active contract is
registered whenever no switch is pending, and every contract registered at the handoff stays
registered, so the server reaches its engine at every later request. -/
theorem runRun_never_fails {watch : WatchState} {contractAddr : String} {input : List String}
    (h : Relation.ReflTransGen (RunStep base64Decode fromUtf8 call senderAddr wasmFiles env)
      (handoff watch contractAddr input) s')
    (ha : contractAddr ∈ watch.engines) :
    s'.failed = none ∧
      (s'.pending = none → ∃ engine, s'.watch.engines.lookup s'.active = some engine) ∧
      ∀ k ∈ watch.engines, k ∈ s'.watch.engines := by
  obtain ⟨hf, hact, -⟩ := reflTransGen_invariant (fun _ _ hstep => hstep.inv) h
    ⟨rfl, fun h => (by cases h), fun b h => by cases h; exact ha⟩
  exact ⟨hf, fun hp => Option.isSome_iff_exists.mp (AList.lookup_isSome.mpr (hact hp)),
    fun k hk => reflTransGen_invariant (P := fun s => k ∈ s.watch.engines)
      (fun _ _ hstep => hstep.mem) h hk⟩

/-- With a VM whose calls keep an instance's address and sender: from the program's start,
whatever requests the server answers while the watcher polls, and across every interleaving of
the three threads after the handoff, every instance in ENGINES is bound to the address it is
registered under and to the simulator's sender, and that address is a listed artifact's. -/
theorem runRun_registered
    (hcall : ∀ e c m, (call e c m).1.address = e.address ∧ (call e c m).1.sender = e.sender)
    {now : Nat} {st : WatchState} {contractAddr : String} {input : List String}
    (hw : Relation.ReflTransGen (BootStep base64Decode fromUtf8 call senderAddr wasmFiles env)
      (initialWatch wasmFiles now) st)
    (h : Relation.ReflTransGen (RunStep base64Decode fromUtf8 call senderAddr wasmFiles env)
      (handoff st contractAddr input) s') :
    ∀ k e, s'.watch.engines.lookup k = some e →
      e.address = k ∧ e.sender = senderAddr ∧ ∃ f ∈ wasmFiles, f.2 = k := by
  have hst : st.engines.Registered senderAddr wasmFiles :=
    reflTransGen_invariant (P := fun st => st.engines.Registered senderAddr wasmFiles)
      (fun _ _ hstep => hstep.registered hcall) hw Engines.Registered.empty
  have hs' : s'.watch.engines.Registered senderAddr wasmFiles :=
    reflTransGen_invariant (P := fun s => s.watch.engines.Registered senderAddr wasmFiles)
      (fun _ _ hstep => hstep.registered hcall) h hst
  intro k e he
  obtain ⟨ha, hs⟩ := hs'.1 k e he
  exact ⟨ha, hs, hs'.2 k (AList.lookup_isSome.mp (by simp [he]))⟩

end

/-- The session on `counter` starts while the server answers a `handle` on it, dispatches a
`query`, and the watcher polls again. -/
theorem runRun_never_fails_counter :
    ∃ s, Relation.ReflTransGen
        (RunStep (fun _ => .ok [123, 125]) (fun _ => .ok "\x7b\x7d")
          (fun e _ _ => ({ e with storage := ⟨[([1], [2])]⟩ }, "null")) SENDER_ADDR
          [("artifacts/counter.wasm", "counter")]
          (fun _ _ => ⟨.modified 1, .ok ⟨[], ⟨[], [], [], []⟩⟩⟩))
        (handoff ⟨(∅ : Engines).insert "counter" ⟨[], ⟨[], [], [], []⟩, "counter", SENDER_ADDR,
          MockStorage.default⟩, [1], ["counter"]⟩ "counter" ["query", "\x7b\x7d"]) s ∧
      "counter" ∈ (∅ : Engines).insert "counter" ⟨[], ⟨[], [], [], []⟩, "counter", SENDER_ADDR,
          MockStorage.default⟩ ∧
      s.failed = none ∧
      (s.pending = none → ∃ engine, s.watch.engines.lookup s.active = some engine) ∧
      ∀ k ∈ (∅ : Engines).insert "counter" ⟨[], ⟨[], [], [], []⟩, "counter", SENDER_ADDR,
          MockStorage.default⟩, k ∈ s.watch.engines :=
  (fun run => ⟨_, run, by decide, runRun_never_fails run (by decide)⟩)
    ((((Relation.ReflTransGen.single (.request .handle "counter" "e30=")).tail
      (.sys (.start rfl rfl))).tail (.sys (.turn rfl rfl rfl))).tail (.sys (.watch (.notify _ rfl))))

/-- The server is asked to `init` the unknown address `ghost` before the first poll, and to
`handle` `counter` once the first pass has installed it and before the readiness message; after
the handoff it is asked the same again while the session starts: only `counter` is
registered. -/
theorem runRun_registered_ghost :
    (∀ e c m, ((fun e _ _ => ({ e with storage := ⟨[([1], [2])]⟩ }, "null") :
        ContractInstance → String → String → ContractInstance × String) e c m).1.address =
          e.address ∧
      ((fun e _ _ => ({ e with storage := ⟨[([1], [2])]⟩ }, "null") :
        ContractInstance → String → String → ContractInstance × String) e c m).1.sender =
          e.sender) ∧
    ∃ st s, Relation.ReflTransGen
        (BootStep (fun _ => .ok [123, 125]) (fun _ => .ok "\x7b\x7d")
          (fun e _ _ => ({ e with storage := ⟨[([1], [2])]⟩ }, "null")) SENDER_ADDR
          [("artifacts/counter.wasm", "counter")]
          (fun _ _ => ⟨.modified 1, .ok ⟨[], ⟨[], [], [], []⟩⟩⟩))
        (initialWatch [("artifacts/counter.wasm", "counter")] 0) st ∧
      Relation.ReflTransGen
        (RunStep (fun _ => .ok [123, 125]) (fun _ => .ok "\x7b\x7d")
          (fun e _ _ => ({ e with storage := ⟨[([1], [2])]⟩ }, "null")) SENDER_ADDR
          [("artifacts/counter.wasm", "counter")]
          (fun _ _ => ⟨.modified 1, .ok ⟨[], ⟨[], [], [], []⟩⟩⟩))
        (handoff st "counter" ["query", "\x7b\x7d"]) s ∧
      ∀ k e, s.watch.engines.lookup k = some e →
        e.address = k ∧ e.sender = SENDER_ADDR ∧
          ∃ f ∈ [("artifacts/counter.wasm", "counter")], f.2 = k :=
  (fun hw run => ⟨fun _ _ _ => ⟨rfl, rfl⟩, _, _, hw, run,
    runRun_registered (fun _ _ _ => ⟨rfl, rfl⟩) hw run⟩)
    ((((Relation.ReflTransGen.single (.request .init "ghost" "e30=")).tail
      (.watch (.artifact (k := 0)
        (show [("artifacts/counter.wasm", "counter")][0]? = some ("artifacts/counter.wasm", "counter")
          from rfl) rfl))).tail
      (.request .handle "counter" "e30=")).tail (.watch (.notify _ rfl)))
    (((Relation.ReflTransGen.single (.request .init "ghost" "e30=")).tail
      (.request .handle "counter" "e30=")).tail (.sys (.start rfl rfl)))

end CosmwasmSimulate
