import CosmwasmSimulate.Refinement
import CosmwasmSimulate.Threads

/-!
# The server does not disturb the session

The REST server calls the engines in place, so a request changes the storage of the instance it
reaches, and with it what later calls of the session or of the server return. It changes nothing
else: `call_engine` reaches an instance through `get_mut` and leaves one of the same schema and
address there. Neither a pass of the session nor a poll of the watcher reads more of an instance
than its schema and address (a rebuild reads the storage only to seed the new instance). So
every interleaving of the three threads is matched by one of the watcher and the session alone,
in which the session reads the same lines, makes the same calls, switches and fails alike, and
the watcher records the same times and sends the same messages.

* `runRun_without_requests`: for a VM whose calls keep an instance's schema and address, every
  run of the three threads, whatever the server is asked and whenever, is matched by a run of
  the watcher and the session alone that ends in a state `Alike` it: the same in everything but
  the inside of the instances.
-/

namespace CosmwasmSimulate

/-- The system with ENGINES replaced. -/
def SysState.withEngines (s : SysState) (engines : Engines) : SysState :=
  { s with watch := { s.watch with engines } }

/-- Two system states equal but inside the instances of ENGINES, where no pass and no poll
looks: the same addresses, each holding instances of the same schema and address. -/
def SysState.Alike (s t : SysState) : Prop :=
  ∃ engines, s.watch.engines.SameSchema engines ∧ t = s.withEngines engines

/-! ## Registries alike -/

namespace Engines.SameSchema

variable {engines engines' : Engines}

theorem refl (engines : Engines) : SameSchema engines engines := fun _ => rfl

theorem symm (h : SameSchema engines engines') : SameSchema engines' engines :=
  fun k => (h k).symm

/-- The same address given instances of the same schema on both sides. -/
theorem insert_insert (h : SameSchema engines engines') {a : String} {y y' : ContractInstance}
    (hy : y.schema = y'.schema) : SameSchema (engines.insert a y) (engines'.insert a y') := by
  intro k
  by_cases hk : k = a
  · subst hk
    simp [AList.lookup_insert, hy]
  · rw [AList.lookup_insert_ne hk, AList.lookup_insert_ne hk]
    exact h k

/-- A rebuild from the same observation: the new instance's schema and address come from the
module loaded and the artifact, whatever storage it is seeded with. -/
theorem rebuild (h : SameSchema engines engines') (senderAddr : String) (file : String × String)
    (load : Except String Module) :
    SameSchema (CosmwasmSimulate.rebuild senderAddr file load engines)
      (CosmwasmSimulate.rebuild senderAddr file load engines') := by
  have h₁ := rebuild_rebuildsTo senderAddr file load engines
  have h₂ := rebuild_rebuildsTo senderAddr file load engines'
  cases load <;> simp only [RebuildsTo] at h₁ h₂
  case error => rwa [h₁, h₂]
  case ok =>
    intro k
    by_cases hk : k = file.2
    · subst hk
      rw [h₁.2, h₂.2]
      rfl
    · rw [h₁.1 k hk, h₂.1 k hk]
      exact h k

end Engines.SameSchema

/-! ## One step -/

section
variable {base64Decode : String → Except String (List UInt8)}
  {fromUtf8 : List UInt8 → Except String String}
  {call : ContractInstance → String → String → ContractInstance × String}
  {senderAddr : String} {wasmFiles : List (String × String)} {env : Nat → Nat → Probe}
  {engines : Engines}

/-- An artifact step reads ENGINES only to rebuild: over a registry alike it takes the same
branch and records the same time. -/
theorem watchArtifact_alike {index : Nat} {file : String × String} {p : Probe}
    {st st' : WatchState} (he : st.engines.SameSchema engines)
    (h : watchArtifact senderAddr index file p st = .ok st') :
    ∃ engines', watchArtifact senderAddr index file p { st with engines } =
        .ok { st' with engines := engines' } ∧ st'.engines.SameSchema engines' := by
  unfold watchArtifact at h ⊢
  rcases hm : p.metadata with e | _ | time <;> simp only [hm] at h ⊢
  · cases h
  · cases h
    exact ⟨_, rfl, he.rebuild senderAddr file p.load⟩
  · split_ifs at h ⊢ <;> cases h
    · exact ⟨engines, rfl, he⟩
    · exact ⟨_, rfl, he.rebuild senderAddr file p.load⟩

theorem WatchStep.alike {st st' : WatchState} (he : st.engines.SameSchema engines)
    (h : WatchStep senderAddr wasmFiles env st st') :
    ∃ engines', WatchStep senderAddr wasmFiles env { st with engines }
        { st' with engines := engines' } ∧ st'.engines.SameSchema engines' := by
  cases h with
  | artifact hf ha =>
    obtain ⟨engines', ha', he'⟩ := watchArtifact_alike he ha
    exact ⟨engines', .artifact hf ha', he'⟩
  | notify st hw => exact ⟨engines, .notify _ hw, he⟩

/-- A pass on instances of the same schema, over registries alike. -/
theorem afterTurn_alike (hcall : ∀ e c m, (call e c m).1.schema = e.schema) {s : SysState}
    {x x' : ContractInstance} (he : s.watch.engines.SameSchema engines)
    (hx : x.schema = x'.schema) (t : Turn) :
    (afterTurn call s x t).Alike (afterTurn call (s.withEngines engines) x' t) := by
  cases t with
  | again input => exact ⟨engines, he, rfl⟩
  | dispatch c m input =>
    exact ⟨_, he.insert_insert ((hcall x c m).trans (hx.trans (hcall x' c m).symm)), rfl⟩
  | switch b input => exact ⟨engines, he, rfl⟩

/-- `start_simulate` over registries alike: it finds an instance on both sides or on neither,
and picks the same loop. -/
theorem startStep_alike {s : SysState} (he : s.watch.engines.SameSchema engines) (b : String) :
    (startStep s b).Alike (startStep (s.withEngines engines) b) := by
  unfold startStep
  cases hb : s.watch.engines.lookup b with
  | none =>
    rw [show (s.withEngines engines).watch.engines.lookup b = none from he.lookup_eq_none.mp hb]
    exact ⟨engines, he, rfl⟩
  | some x =>
    obtain ⟨x', hx', hsx⟩ := he.lookup_some hb
    rw [show (s.withEngines engines).watch.engines.lookup b = some x' from hx']
    dsimp only
    rw [show x'.analyzer = x.analyzer from congrArg Prod.fst hsx]
    exact ⟨engines, he, rfl⟩

/-- A step of the watcher or the session is matched, over a registry alike, by the same step. -/
theorem SysStep.alike (hcall : ∀ e c m, (call e c m).1.schema = e.schema) {s s' : SysState}
    (he : s.watch.engines.SameSchema engines) (h : SysStep call senderAddr wasmFiles env s s') :
    ∃ t', SysStep call senderAddr wasmFiles env (s.withEngines engines) t' ∧ s'.Alike t' := by
  cases h with
  | watch hw =>
    obtain ⟨engines', hw', he'⟩ := hw.alike he
    exact ⟨_, .watch hw', engines', he', rfl⟩
  | @turn x hf hp hx =>
    obtain ⟨x', hx', hsx⟩ := he.lookup_some hx
    have step : SysStep call senderAddr wasmFiles env (s.withEngines engines)
        (afterTurn call (s.withEngines engines) x' (sessionTurn s.auto engines x' s.input)) :=
      .turn hf hp hx'
    rw [← sessionTurn_congr he hsx.symm] at step
    exact ⟨_, step, afterTurn_alike hcall he hsx.symm _⟩
  | @start b hf hp => exact ⟨_, .start hf hp, startStep_alike he b⟩

/-- A request is matched by no step at all; any other step by the same step. -/
theorem RunStep.alike (hcall : ∀ e c m, (call e c m).1.schema = e.schema) {s s' : SysState}
    (he : s.watch.engines.SameSchema engines)
    (h : RunStep base64Decode fromUtf8 call senderAddr wasmFiles env s s') :
    ∃ t', Relation.ReflTransGen (SysStep call senderAddr wasmFiles env) (s.withEngines engines) t' ∧
      s'.Alike t' := by
  cases h with
  | sys h =>
    obtain ⟨t', ht', ha⟩ := h.alike hcall he
    exact ⟨t', .single ht', ha⟩
  | request route address msg =>
    refine ⟨_, .refl, engines, ?_, rfl⟩
    rcases handleRequest_engines_eq base64Decode fromUtf8 call route s.watch.engines address msg
      with hr | ⟨engine, f, p, hl, hr⟩ <;> rw [hr]
    exacts [he, (he.symm.insert hl (hcall engine f p)).symm]

end

/-! ## Every interleaving -/

section
variable {base64Decode : String → Except String (List UInt8)}
  {fromUtf8 : List UInt8 → Except String String}
  {call : ContractInstance → String → String → ContractInstance × String}
  {senderAddr : String} {wasmFiles : List (String × String)} {env : Nat → Nat → Probe}

/-- With a VM whose calls keep an instance's schema and address, every run of the three threads,
from any state and whatever the server is asked and whenever, is matched by a run of the watcher
and the session alone from the same state, which ends in a state alike: the same lines left, the
same calls made, the same active contract, loop, pending switch and failure, the same times
recorded and messages sent, and ENGINES the same but inside the instances. -/
theorem runRun_without_requests
    (hcall : ∀ e c m, (call e c m).1.analyzer = e.analyzer ∧ (call e c m).1.address = e.address)
    {s s' : SysState}
    (h : Relation.ReflTransGen (RunStep base64Decode fromUtf8 call senderAddr wasmFiles env) s s') :
    ∃ t, Relation.ReflTransGen (SysStep call senderAddr wasmFiles env) s t ∧ s'.Alike t := by
  have hcall' : ∀ e c m, (call e c m).1.schema = e.schema := fun e c m => by
    simp only [ContractInstance.schema, (hcall e c m).1, (hcall e c m).2]
  induction h with
  | refl => exact ⟨s, .refl, s.watch.engines, .refl _, rfl⟩
  | tail _ hstep ih =>
    obtain ⟨_, run, engines, he, rfl⟩ := ih
    obtain ⟨t', run', ha⟩ := hstep.alike hcall' he
    exact ⟨t', run.trans run', ha⟩

end

/-- The server answers a `handle` on `counter`, which changes its storage, while the session
starts on it and dispatches a `query`: the session alone makes the same call. -/
theorem runRun_without_requests_counter :
    (∀ e c m, ((fun e _ _ => ({ e with storage := ⟨[([1], [2])]⟩ }, "null") :
        ContractInstance → String → String → ContractInstance × String) e c m).1.analyzer =
          e.analyzer ∧
      ((fun e _ _ => ({ e with storage := ⟨[([1], [2])]⟩ }, "null") :
        ContractInstance → String → String → ContractInstance × String) e c m).1.address =
          e.address) ∧
    ∃ s, Relation.ReflTransGen
        (RunStep (fun _ => .ok [123, 125]) (fun _ => .ok "\x7b\x7d")
          (fun e _ _ => ({ e with storage := ⟨[([1], [2])]⟩ }, "null")) SENDER_ADDR
          [("artifacts/counter.wasm", "counter")]
          (fun _ _ => ⟨.modified 1, .ok ⟨[], ⟨[], [], [], []⟩⟩⟩))
        (handoff ⟨(∅ : Engines).insert "counter" ⟨[], ⟨[], [], [], []⟩, "counter", SENDER_ADDR,
          MockStorage.default⟩, [1], ["counter"]⟩ "counter" ["query", "\x7b\x7d"]) s ∧
      ∃ t, Relation.ReflTransGen
          (SysStep (fun e _ _ => ({ e with storage := ⟨[([1], [2])]⟩ }, "null")) SENDER_ADDR
            [("artifacts/counter.wasm", "counter")]
            (fun _ _ => ⟨.modified 1, .ok ⟨[], ⟨[], [], [], []⟩⟩⟩))
          (handoff ⟨(∅ : Engines).insert "counter" ⟨[], ⟨[], [], [], []⟩, "counter", SENDER_ADDR,
            MockStorage.default⟩, [1], ["counter"]⟩ "counter" ["query", "\x7b\x7d"]) t ∧
        s.Alike t :=
  (fun run => ⟨fun _ _ _ => ⟨rfl, rfl⟩, _, run,
    runRun_without_requests (fun _ _ _ => ⟨rfl, rfl⟩) run⟩)
    (((Relation.ReflTransGen.single (.request .handle "counter" "e30=")).tail
      (.sys (.start rfl rfl))).tail (.sys (.turn rfl rfl rfl)))

end CosmwasmSimulate
