import CosmwasmSimulate.System

/-!
# The session model and the interleaved system

`Session` runs `start_simulate_forever` over a registry that stays fixed, and drops what a call
does to its engine. `System` runs the same passes on ENGINES as the calls leave it, beside the
watcher. The loops never read a call's result: a pass reads the operator's lines, which
addresses are registered, and the active instance's schema and address. So as long as a call
keeps the instance's schema and address, the two models agree.

* `getCallType_congr`, `sessionTurn_congr`: a pass depends on ENGINES only through the addresses
  registered and the schema and address of each instance.
* `startSimulateForever_refines`: with the watcher idle, the system reaches from the handoff the
  outcome `start_simulate_forever` computes over the registry of the handoff: the same error, or
  the same calls in the same order.
-/

namespace CosmwasmSimulate

/-- What a pass reads of an instance: its schema and its address. -/
def ContractInstance.schema (e : ContractInstance) : Analyzer × String := (e.analyzer, e.address)

/-- Two registries a pass cannot tell apart: the same addresses, each holding instances of the
same schema and address. -/
def Engines.SameSchema (engines engines' : Engines) : Prop :=
  ∀ k, (engines.lookup k).map ContractInstance.schema =
    (engines'.lookup k).map ContractInstance.schema

/-- The outcome the system has reached: the error that ended it, or the calls made. -/
def SysState.result (s : SysState) : Except String (List (String × String)) :=
  match s.failed with
  | some e => .error e
  | none => .ok s.calls

/-! ## Registries a pass cannot tell apart -/

namespace Engines.SameSchema

variable {engines engines' : Engines}

theorem mem_iff (h : SameSchema engines engines') {k : String} : k ∈ engines ↔ k ∈ engines' := by
  have : (engines.lookup k).isSome = (engines'.lookup k).isSome := by
    simpa using congrArg Option.isSome (h k)
  rw [← AList.lookup_isSome, ← AList.lookup_isSome, this]

theorem keys_length (h : SameSchema engines engines') :
    engines.keys.length = engines'.keys.length :=
  ((List.perm_ext_iff_of_nodup engines.keys_nodup engines'.keys_nodup).mpr fun _ => by
    rw [← AList.mem_keys, ← AList.mem_keys]
    exact h.mem_iff).length_eq

theorem lookup_eq_none (h : SameSchema engines engines') {k : String} :
    engines.lookup k = none ↔ engines'.lookup k = none := by
  rw [AList.lookup_eq_none, AList.lookup_eq_none, h.mem_iff]

/-- Replacing an instance by one of the same schema and address. -/
theorem insert (h : SameSchema engines engines') {a : String} {x y : ContractInstance}
    (hx : engines'.lookup a = some x) (hy : y.schema = x.schema) :
    SameSchema engines (engines'.insert a y) := by
  intro k
  by_cases hk : k = a
  · subst hk
    rw [AList.lookup_insert, h k, hx]
    simp [hy]
  · rw [AList.lookup_insert_ne hk, h k]

/-- The instance registered at `a` in the other registry, of the same schema and address. -/
theorem lookup_some (h : SameSchema engines engines') {a : String} {x : ContractInstance}
    (hx : engines.lookup a = some x) : ∃ x', engines'.lookup a = some x' ∧ x'.schema = x.schema := by
  have := h a
  rw [hx] at this
  cases hx' : engines'.lookup a with
  | none => simp [hx'] at this
  | some x' => exact ⟨x', rfl, by simpa [hx'] using this.symm⟩

end Engines.SameSchema

section
variable {engines engines' : Engines} {input : List String}

theorem getCallType_congr (h : engines.SameSchema engines') :
    getCallType engines input = getCallType engines' input := by
  have hnone : ∀ k, (engines.lookup k = none) = (engines'.lookup k = none) :=
    fun _ => propext h.lookup_eq_none
  simp only [getCallType, h.keys_length, hnone]

/-- A pass reads ENGINES only through the addresses registered, and the active instance only
through its schema and address. -/
theorem sessionTurn_congr {auto : Bool} {x x' : ContractInstance}
    (h : engines.SameSchema engines') (hx : x.schema = x'.schema) :
    sessionTurn auto engines x input = sessionTurn auto engines' x' input := by
  obtain ⟨ha, hd⟩ := Prod.mk.inj hx
  simp only [sessionTurn, simulateByJsonTurn, simulateByAutoAnalyzeTurn, getCallType_congr h,
    ContractInstance.schema] at ha hd ⊢
  rw [ha, hd]

end

/-- `start_simulate` on a registered instance runs the loop `sessionTurn` picks for its schema. -/
theorem startSimulate_of_lookup {engines : Engines} {a : String} {x : ContractInstance} {n : Nat}
    {input : List String} (hx : engines.lookup a = some x) :
    startSimulate engines a n input =
      .ok (runTurns (sessionTurn (!x.analyzer.mapOfMember.isEmpty) engines x) n input) := by
  simp only [startSimulate, hx, simulateByJson, simulateByAutoAnalyze, sessionTurn]
  cases x.analyzer.mapOfMember.isEmpty <;> rfl

/-! ## Matching the passes -/

section
variable {call : ContractInstance → String → String → ContractInstance × String}
  {senderAddr : String} {wasmFiles : List (String × String)} {env : Nat → Nat → Probe}
  {engines : Engines}

/-- The passes of one session, taken as system steps: the system ends where `runTurns` ends,
with the calls appended, the same lines left and the switch target pending. -/
theorem runTurns_sysRun (hcall : ∀ e c m, (call e c m).1.schema = e.schema)
    {x : ContractInstance} :
    ∀ (n : Nat) (s : SysState), engines.SameSchema s.watch.engines → s.failed = none →
      s.pending = none → engines.lookup s.active = some x →
      ∃ s', Relation.ReflTransGen (SysStep call senderAddr wasmFiles env) s s' ∧
        engines.SameSchema s'.watch.engines ∧ s'.failed = none ∧
        s'.calls = s.calls ++ (runTurns (sessionTurn s.auto engines x) n s.input).calls ∧
        s'.pending = (runTurns (sessionTurn s.auto engines x) n s.input).switchTo ∧
        s'.input = (runTurns (sessionTurn s.auto engines x) n s.input).input
  | 0, s, hs, hf, hp, _ => ⟨s, .refl, hs, hf, by simp [runTurns], hp, rfl⟩
  | n + 1, s, hs, hf, hp, hx => by
    obtain ⟨x', hx', hsx⟩ := hs.lookup_some hx
    have step := @SysStep.turn call senderAddr wasmFiles env s x' hf hp hx'
    rw [← sessionTurn_congr hs hsx.symm] at step
    cases ht : sessionTurn s.auto engines x s.input with
    | again r =>
      rw [ht] at step
      obtain ⟨s', run, h⟩ := runTurns_sysRun hcall n (afterTurn call s x' (.again r)) hs hf hp hx
      exact ⟨s', run.head step, by simpa [runTurns, ht, afterTurn] using h⟩
    | dispatch c m r =>
      rw [ht] at step
      obtain ⟨s', run, h₁, h₂, h₃, h₄⟩ := runTurns_sysRun hcall n
        (afterTurn call s x' (.dispatch c m r)) (hs.insert hx' (hcall x' c m)) hf hp hx
      exact ⟨s', run.head step, h₁, h₂, by simpa [runTurns, ht, afterTurn] using h₃,
        by simpa [runTurns, ht, afterTurn] using h₄⟩
    | switch b r =>
      rw [ht] at step
      exact ⟨_, .single step, hs, hf, by simp [runTurns, ht, afterTurn], by
        simp [runTurns, ht, afterTurn], by simp [runTurns, ht, afterTurn]⟩

/-- From a pending `start_simulate` on `a`, the system reaches the outcome of
`start_simulate_forever` on `a`, after the calls already made. -/
theorem startSimulateForever_sysRun (hcall : ∀ e c m, (call e c m).1.schema = e.schema) (n : Nat) :
    ∀ (switches : Nat) (s : SysState) (a : String), engines.SameSchema s.watch.engines →
      s.failed = none → s.pending = some a →
      ∃ s', Relation.ReflTransGen (SysStep call senderAddr wasmFiles env) s s' ∧
        s'.result = (startSimulateForever engines a n switches s.input).map (s.calls ++ ·)
  | 0, s, _, _, hf, _ => ⟨s, .refl, by simp [SysState.result, hf, startSimulateForever, Except.map]⟩
  | switches + 1, s, a, hs, hf, hp => by
    have start := @SysStep.start call senderAddr wasmFiles env s a hf hp
    cases hx : engines.lookup a with
    | none =>
      refine ⟨_, .single start, ?_⟩
      simp [startStep, hs.lookup_eq_none.mp hx, SysState.result, startSimulateForever,
        startSimulate, hx, Except.map]
    | some x =>
      obtain ⟨x', hx', hsx⟩ := hs.lookup_some hx
      obtain ⟨ha, -⟩ := Prod.mk.inj hsx
      simp only [startStep, hx'] at start
      obtain ⟨s₁, run₁, hs₁, hf₁, hc₁, hp₁, hi₁⟩ :=
        @runTurns_sysRun call senderAddr wasmFiles env engines hcall x n
          { s with pending := none, active := a, auto := !x'.analyzer.mapOfMember.isEmpty } hs hf rfl hx
      simp only [ha] at hc₁ hp₁ hi₁
      have hstart : startSimulate engines a n s.input =
          .ok (runTurns (sessionTurn (!x.analyzer.mapOfMember.isEmpty) engines x) n s.input) :=
        startSimulate_of_lookup hx
      cases hb : (runTurns (sessionTurn (!x.analyzer.mapOfMember.isEmpty) engines x) n
          s.input).switchTo with
      | none =>
        refine ⟨s₁, run₁.head start, ?_⟩
        simp [SysState.result, hf₁, hc₁, startSimulateForever, hstart, hb, Except.map]
      | some next =>
        obtain ⟨s₂, run₂, hr₂⟩ :=
          startSimulateForever_sysRun hcall n switches s₁ next hs₁ hf₁ (hp₁.trans hb)
        refine ⟨s₂, (run₁.head start).trans run₂, ?_⟩
        rw [hr₂, hi₁, hc₁]
        simp only [startSimulateForever, hstart, hb]
        cases startSimulateForever engines next n switches
          (runTurns (sessionTurn (!x.analyzer.mapOfMember.isEmpty) engines x) n s.input).input <;>
          simp [Except.map]

/-- With a VM whose calls keep an instance's schema and address, the interleaved system reaches
from the handoff, in the schedule where the watcher takes no step, exactly the outcome
`start_simulate_forever` computes over the registry of the handoff: the same error, or the same
calls in the same order. -/
theorem startSimulateForever_refines
    (hcall : ∀ e c m, (call e c m).1.analyzer = e.analyzer ∧ (call e c m).1.address = e.address)
    (watch : WatchState) (a : String) (n switches : Nat) (input : List String) :
    ∃ s, Relation.ReflTransGen (SysStep call senderAddr wasmFiles env) (handoff watch a input) s ∧
      s.result = startSimulateForever watch.engines a n switches input := by
  obtain ⟨s, run, hr⟩ := @startSimulateForever_sysRun call senderAddr wasmFiles env watch.engines
    (fun e c m => by simp only [ContractInstance.schema, (hcall e c m).1, (hcall e c m).2]) n
    switches (handoff watch a input) a (fun _ => rfl) rfl rfl
  change s.result = (startSimulateForever watch.engines a n switches input).map ([] ++ ·) at hr
  refine ⟨s, run, hr.trans ?_⟩
  cases startSimulateForever watch.engines a n switches input <;> rfl

end

/-- Two contracts: the operator calls `a`, switches to `b` and queries it. -/
theorem startSimulateForever_refines_switch :
    (∀ e c m, ((fun e _ _ => ({ e with storage := ⟨[([1], [2])]⟩ }, "null") :
        ContractInstance → String → String → ContractInstance × String) e c m).1.analyzer =
          e.analyzer ∧
      ((fun e _ _ => ({ e with storage := ⟨[([1], [2])]⟩ }, "null") :
        ContractInstance → String → String → ContractInstance × String) e c m).1.address =
          e.address) ∧
    ∃ s, Relation.ReflTransGen
        (SysStep (fun e _ _ => ({ e with storage := ⟨[([1], [2])]⟩ }, "null")) SENDER_ADDR []
          (fun _ _ => ⟨.noModifiedTime, .error "missing"⟩))
        (handoff ⟨((∅ : Engines).insert "a" ⟨[], ⟨[], [], [], []⟩, "a", SENDER_ADDR, ⟨[]⟩⟩).insert
          "b" ⟨[], ⟨[], [], [], []⟩, "b", SENDER_ADDR, ⟨[]⟩⟩, [], []⟩ "a"
          ["handle", "\x7b\x7d", "switch", "b", "query", "\x7b\x7d"]) s ∧
      s.result = startSimulateForever (((∅ : Engines).insert "a"
          ⟨[], ⟨[], [], [], []⟩, "a", SENDER_ADDR, ⟨[]⟩⟩).insert "b"
          ⟨[], ⟨[], [], [], []⟩, "b", SENDER_ADDR, ⟨[]⟩⟩) "a" 3 2
        ["handle", "\x7b\x7d", "switch", "b", "query", "\x7b\x7d"] :=
  ⟨fun _ _ _ => ⟨rfl, rfl⟩, startSimulateForever_refines (fun _ _ _ => ⟨rfl, rfl⟩) _ _ _ _ _⟩

end CosmwasmSimulate
