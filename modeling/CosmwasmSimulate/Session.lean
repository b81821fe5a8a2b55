import CosmwasmSimulate.Message
import CosmwasmSimulate.Watcher

/-!
# The session loop

`start_simulate` looks the active contract up in ENGINES and runs one of two loops on it:
`simulate_by_json` when the schema declares no message groups, `simulate_by_auto_analyze`
otherwise. Each pass of a loop asks `get_call_type` for a call type. It then builds a payload
(a raw JSON line, or one through the message constructor) and dispatches
`engine.call(call_type, payload)`, or returns `Ok((true, address))` to switch contracts.
`start_simulate_forever` follows the switches.

A pass is modelled as a `Turn`, and a loop as `n` passes reading the operator's lines. The
registry is fixed for the length of a session. The engine's answer to a call is outside the
model: a dispatched call is recorded with its entry point and payload.

* `getCallType_entryPoint`, `startSimulate_calls`: with more than one contract registered, every
  dispatched call is `init`, `handle` or `query`.
* `startSimulate_single_contract`: with one contract the check lets every line through, and
  `switch` or any other word is dispatched as an entry point.
* `switch_to_active`: on `switch` to the active contract the auto-analysing loop compares the
  active address with its empty `call_param` and returns, where the raw-JSON loop asks again;
  away from the active contract the two loops react alike (`switch_turns_agree`).
* `startSimulateForever_ok`: a session started on a registered contract never ends in error.
* `readiness_names_failed_artifact`: the readiness message is the first artifact's address
  whether or not it was installed, and the session starts only if it was (`startSimulate_ok_iff`).
-/

namespace CosmwasmSimulate

/-- `get_call_type`: `init`, `handle` or `query`, or, with more than one contract registered,
`switch` followed by a registered address. -/
def getCallType (engines : Engines) (input : List String) : Option (String × Bool) × List String :=
  let needSwitch := decide (1 < engines.keys.length)
  let (callType, input) := inputWithOutHandle "" input
  if callType ≠ "init" ∧ callType ≠ "handle" ∧ callType ≠ "query" ∧ needSwitch = true ∧
      callType ≠ "switch" then (none, input)
  else if needSwitch = true ∧ callType = "switch" then
    let (callParam, input) := inputWithOutHandle "" input
    if engines.lookup callParam = none then (none, input) else (some (callParam, true), input)
  else (some (callType, false), input)

/-- How one pass through a session loop's body ends. -/
inductive Turn
  /-- `continue`: the loop asks again. -/
  | again (input : List String)
  /-- `engine.call(call_type, msg)`, after which the loop asks again. -/
  | dispatch (callType msg : String) (input : List String)
  /-- `return Ok((true, address))`. -/
  | switch (contractAddr : String) (input : List String)
deriving DecidableEq, Repr

/-- One pass of `simulate_by_json`: the operator types the whole payload. -/
def simulateByJsonTurn (engines : Engines) (engine : ContractInstance) (input : List String) :
    Turn :=
  match getCallType engines input with
  | (none, input) => .again input
  | (some (callType, true), input) =>
    if engine.address ≠ callType then .switch callType input else .again input
  | (some (callType, false), input) =>
    let (jsonMsg, input) := inputWithOutHandle "" input
    .dispatch callType jsonMsg input

/-- The message group of a call: the conventional root message when the schema has it,
otherwise one the operator names. -/
def chooseCallParam (a : Analyzer) (callType : String) (input : List String) :
    String × List String :=
  if callType = "init" ∧ (a.mapOfMember.lookup "InitMsg").isSome then ("InitMsg", input)
  else if callType = "handle" ∧ (a.mapOfMember.lookup "HandleMsg").isSome then
    ("HandleMsg", input)
  else if callType = "query" ∧ (a.mapOfMember.lookup "QueryMsg").isSome then ("QueryMsg", input)
  else inputWithOutHandle "" input

/-- The variant within a group: the only one, or one the operator names. -/
def chooseVariant (msgType : List (String × List Member)) (callParam : String)
    (input : List String) : String × List String :=
  match msgType with
  | [] => (callParam, input)
  | [(variant, _)] => (variant, input)
  | _ => inputWithOutHandle "" input

/-- One pass of `simulate_by_auto_analyze`: the payload is built from the schema. -/
def simulateByAutoAnalyzeTurn (engines : Engines) (engine : ContractInstance)
    (input : List String) : Turn :=
  match getCallType engines input with
  | (none, input) => .again input
  | (some (callType, true), input) =>
    let callParam := ""
    if engine.address ≠ callParam then .switch callType input else .again input
  | (some (callType, false), input) =>
    let a := engine.analyzer
    let (callParam, input) := chooseCallParam a callType input
    let isEnum := (a.mapOfEnum.lookup callParam).getD false
    match a.mapOfMember.lookup callParam with
    | none => .again input
    | some msgType =>
      let (callParam, input) := chooseVariant msgType callParam input
      match msgType.lookup callParam with
      | none => .again input
      | some msg =>
        let (jsonMsg, input) := inputMessage a callParam msg isEnum input
        .dispatch callType jsonMsg input

/-- What `n` passes of a session loop did: the calls dispatched, in order, and the address
switched to if the loop returned, with the lines left. -/
structure Session where
  calls : List (String × String)
  switchTo : Option String
  input : List String

def runTurns (turn : List String → Turn) : Nat → List String → Session
  | 0, input => ⟨[], none, input⟩
  | n + 1, input =>
    match turn input with
    | .again input => runTurns turn n input
    | .dispatch callType msg input =>
      let s := runTurns turn n input
      { s with calls := (callType, msg) :: s.calls }
    | .switch contractAddr input => ⟨[], some contractAddr, input⟩

def simulateByJson (engines : Engines) (engine : ContractInstance) (n : Nat)
    (input : List String) : Session :=
  runTurns (simulateByJsonTurn engines engine) n input

def simulateByAutoAnalyze (engines : Engines) (engine : ContractInstance) (n : Nat)
    (input : List String) : Session :=
  runTurns (simulateByAutoAnalyzeTurn engines engine) n input

/-- `start_simulate`: the raw-JSON loop when the schema declares no message groups, the
schema-driven one otherwise. -/
def startSimulate (engines : Engines) (contractAddr : String) (n : Nat) (input : List String) :
    Except String Session :=
  match engines.lookup contractAddr with
  | none => .error ("No engine found: " ++ contractAddr)
  | some engine =>
    .ok (if engine.analyzer.mapOfMember.isEmpty then simulateByJson engines engine n input
      else simulateByAutoAnalyze engines engine n input)

/-- `start_simulate_forever`, following at most `switches` switches with `n` passes per
session: `.error e` where it prints `e` and returns `false`, the calls made otherwise. -/
def startSimulateForever (engines : Engines) (contractAddr : String) (n : Nat) :
    Nat → List String → Except String (List (String × String))
  | 0, _ => .ok []
  | switches + 1, input =>
    match startSimulate engines contractAddr n input with
    | .error e => .error e
    | .ok s =>
      match s.switchTo with
      | none => .ok s.calls
      | some next =>
        (startSimulateForever engines next n switches s.input).map (s.calls ++ ·)

/-! ## Choosing the call type -/

section
variable {engines : Engines} {input rest : List String} {c : String}

/-- With one contract registered, `get_call_type` lets every line through. -/
theorem getCallType_single (h : ¬ 1 < engines.keys.length) :
    getCallType engines input = (some (input.head?.getD "", false), input.tail) := by
  simp [getCallType, inputWithOutHandle_eq, h]

/-- With more than one contract registered: `switch` and a registered address, or an entry
point; any other line is refused. -/
theorem getCallType_multi (h : 1 < engines.keys.length) :
    getCallType engines input =
      if input.head?.getD "" = "switch" then
        (if engines.lookup (input.tail.head?.getD "") = none then none
          else some (input.tail.head?.getD "", true), input.tail.tail)
      else if input.head?.getD "" = "init" ∨ input.head?.getD "" = "handle" ∨
          input.head?.getD "" = "query" then
        (some (input.head?.getD "", false), input.tail)
      else (none, input.tail) := by
  rcases input with _ | ⟨line, rest⟩
  · simp [getCallType, decide_eq_true h]
  · simp only [getCallType, inputWithOutHandle_cons, String.empty_append, decide_eq_true h]
    rw [inputWithOutHandle_eq]
    by_cases hs : line = "switch"
    · subst hs
      simp
      split_ifs <;> rfl
    · by_cases he : line = "init" ∨ line = "handle" ∨ line = "query"
      · rcases he with rfl | rfl | rfl <;> simp
      · push_neg at he
        simp [hs, he]

/-- `get_call_type` only offers a registered contract to switch to. -/
theorem getCallType_switch (h : getCallType engines input = (some (c, true), rest)) :
    c ∈ engines := by
  by_cases hlen : 1 < engines.keys.length
  · rw [getCallType_multi hlen] at h
    split_ifs at h with h1 h2 h3
    · simp at h
    · simp only [Prod.mk.injEq, Option.some.injEq, and_true] at h
      rw [← h.1, ← AList.lookup_isSome, Option.isSome_iff_ne_none]
      exact h2
    · simp at h
    · simp at h
  · simp [getCallType_single hlen] at h

/-- With more than one contract registered, a call type `get_call_type` lets through is an
entry point. -/
theorem getCallType_entryPoint (hlen : 1 < engines.keys.length)
    (h : getCallType engines input = (some (c, false), rest)) :
    c = "init" ∨ c = "handle" ∨ c = "query" := by
  rw [getCallType_multi hlen] at h
  split_ifs at h with h1 h2 h3
  · simp at h
  · simp at h
  · simp only [Prod.mk.injEq, Option.some.injEq, and_true] at h
    exact h.1 ▸ h3
  · simp at h

/-- With one contract registered, the check lets every line through: `switch`, or any other
word, is dispatched as an entry point. -/
theorem startSimulate_single_contract :
    startSimulate ((∅ : Engines).insert "counter"
        ⟨[0, 97, 115, 109], ⟨[], [], [], []⟩, "counter", SENDER_ADDR, MockStorage.default⟩)
      "counter" 2 ["switch", "\x7b\x7d", "migrate", "\x7b\x7d"] =
      .ok ⟨[("switch", "\x7b\x7d"), ("migrate", "\x7b\x7d")], none, []⟩ := rfl

end

/-! ## One pass -/

section
variable {engines : Engines} {engine : ContractInstance} {input r : List String}
  {c m : String}

theorem simulateByJsonTurn_dispatch (h : simulateByJsonTurn engines engine input = .dispatch c m r) :
    ∃ r0, getCallType engines input = (some (c, false), r0) := by
  rcases hg : getCallType engines input with ⟨_ | ⟨ct, _ | _⟩, r0⟩ <;>
    simp only [simulateByJsonTurn, hg] at h
  · cases h
  · cases h
    exact ⟨r0, rfl⟩
  · split at h <;> cases h

theorem simulateByAutoAnalyzeTurn_dispatch
    (h : simulateByAutoAnalyzeTurn engines engine input = .dispatch c m r) :
    ∃ r0, getCallType engines input = (some (c, false), r0) := by
  rcases hg : getCallType engines input with ⟨_ | ⟨ct, _ | _⟩, r0⟩ <;>
    simp only [simulateByAutoAnalyzeTurn, hg] at h
  · cases h
  · suffices ct = c by exact ⟨r0, this ▸ rfl⟩
    revert h
    repeat' split
    all_goals intro h; cases h <;> rfl
  · split at h <;> cases h

theorem simulateByJsonTurn_switch (h : simulateByJsonTurn engines engine input = .switch c r) :
    ∃ r0, getCallType engines input = (some (c, true), r0) := by
  rcases hg : getCallType engines input with ⟨_ | ⟨ct, _ | _⟩, r0⟩ <;>
    simp only [simulateByJsonTurn, hg] at h
  · cases h
  · cases h
  · split at h <;> cases h
    exact ⟨_, rfl⟩

theorem simulateByAutoAnalyzeTurn_switch
    (h : simulateByAutoAnalyzeTurn engines engine input = .switch c r) :
    ∃ r0, getCallType engines input = (some (c, true), r0) := by
  rcases hg : getCallType engines input with ⟨_ | ⟨ct, _ | _⟩, r0⟩ <;>
    simp only [simulateByAutoAnalyzeTurn, hg] at h
  · cases h
  · revert h
    repeat' split
    all_goals intro h; cases h
  · split at h <;> cases h
    exact ⟨_, rfl⟩

end

/-! ## Sessions -/

section
variable {turn : List String → Turn}

theorem runTurns_calls {P : String → Prop}
    (h : ∀ input c m r, turn input = .dispatch c m r → P c) :
    ∀ (n : Nat) (input : List String), ∀ x ∈ (runTurns turn n input).calls, P x.1
  | 0, _ => by simp [runTurns]
  | n + 1, input => by
    intro x hx
    cases ht : turn input with
    | again r => simp only [runTurns, ht] at hx; exact runTurns_calls h n r x hx
    | dispatch c m r =>
      simp only [runTurns, ht, List.mem_cons] at hx
      rcases hx with rfl | hx
      · exact h _ _ _ _ ht
      · exact runTurns_calls h n r x hx
    | switch b r => simp [runTurns, ht] at hx

theorem runTurns_switchTo {Q : String → Prop}
    (h : ∀ input b r, turn input = .switch b r → Q b) :
    ∀ (n : Nat) (input : List String) (b : String), (runTurns turn n input).switchTo = some b → Q b
  | 0, _, _, hb => by simp [runTurns] at hb
  | n + 1, input, b, hb => by
    cases ht : turn input with
    | again r => simp only [runTurns, ht] at hb; exact runTurns_switchTo h n r b hb
    | dispatch c m r => simp only [runTurns, ht] at hb; exact runTurns_switchTo h n r b hb
    | switch b' r =>
      simp only [runTurns, ht, Option.some.injEq] at hb
      exact hb ▸ h _ _ _ ht

end

section
variable {engines : Engines} {contractAddr : String} {n : Nat} {input : List String}
  {s : Session}

/-- Both loops dispatch only what `get_call_type` let through, and switch only to what it
offered. -/
theorem startSimulate_spec (h : startSimulate engines contractAddr n input = .ok s) :
    (∀ x ∈ s.calls, ∃ i r, getCallType engines i = (some (x.1, false), r)) ∧
      ∀ b, s.switchTo = some b → b ∈ engines := by
  unfold startSimulate at h
  split at h
  · cases h
  · cases h
    unfold simulateByJson simulateByAutoAnalyze
    split
    · exact ⟨runTurns_calls (P := fun c => ∃ i r, getCallType engines i = (some (c, false), r))
        (fun i _ _ _ ht => ⟨i, simulateByJsonTurn_dispatch ht⟩) _ _,
        runTurns_switchTo (fun _ _ _ ht => (simulateByJsonTurn_switch ht).elim
          fun _ hg => getCallType_switch hg) _ _⟩
    · exact ⟨runTurns_calls (P := fun c => ∃ i r, getCallType engines i = (some (c, false), r))
        (fun i _ _ _ ht => ⟨i, simulateByAutoAnalyzeTurn_dispatch ht⟩) _ _,
        runTurns_switchTo (fun _ _ _ ht => (simulateByAutoAnalyzeTurn_switch ht).elim
          fun _ hg => getCallType_switch hg) _ _⟩

/-- With more than one contract registered, every call either loop dispatches is `init`,
`handle` or `query`. -/
theorem startSimulate_calls (hlen : 1 < engines.keys.length)
    (h : startSimulate engines contractAddr n input = .ok s) :
    ∀ x ∈ s.calls, x.1 = "init" ∨ x.1 = "handle" ∨ x.1 = "query" := by
  intro x hx
  obtain ⟨i, r, hg⟩ := (startSimulate_spec h).1 x hx
  exact getCallType_entryPoint hlen hg

theorem startSimulate_calls_two_contracts :
    1 < (((∅ : Engines).insert "a" ⟨[], ⟨[], [], [], []⟩, "a", SENDER_ADDR, ⟨[]⟩⟩).insert "b"
        ⟨[], ⟨[], [], [], []⟩, "b", SENDER_ADDR, ⟨[]⟩⟩).keys.length ∧
      ∃ s, startSimulate (((∅ : Engines).insert "a" ⟨[], ⟨[], [], [], []⟩, "a", SENDER_ADDR, ⟨[]⟩⟩).insert "b"
        ⟨[], ⟨[], [], [], []⟩, "b", SENDER_ADDR, ⟨[]⟩⟩) "a" 3
          ["handle", "\x7b\x7d", "migrate", "init", "\x7b\x7d"] = .ok s ∧
        ∀ x ∈ s.calls, x.1 = "init" ∨ x.1 = "handle" ∨ x.1 = "query" :=
  (fun h => ⟨by decide, _, h, startSimulate_calls (by decide) h⟩) rfl

/-- `start_simulate` finds an engine exactly for a registered address. -/
theorem startSimulate_ok_iff :
    (∃ s, startSimulate engines contractAddr n input = .ok s) ↔ contractAddr ∈ engines := by
  rw [← AList.lookup_isSome]
  unfold startSimulate
  split <;> simp_all

end

/-- A session started on a registered contract never ends in error: it only switches to
registered contracts. -/
theorem startSimulateForever_ok (engines : Engines) (n : Nat) :
    ∀ (switches : Nat) (contractAddr : String) (input : List String), contractAddr ∈ engines →
      ∃ calls, startSimulateForever engines contractAddr n switches input = .ok calls
  | 0, _, _, _ => ⟨[], rfl⟩
  | switches + 1, contractAddr, input, h => by
    obtain ⟨s, hs⟩ := (@startSimulate_ok_iff engines contractAddr n input).mpr h
    cases hb : s.switchTo with
    | none => exact ⟨s.calls, by simp [startSimulateForever, hs, hb]⟩
    | some next =>
      obtain ⟨calls, hc⟩ := startSimulateForever_ok engines n switches next s.input
        ((startSimulate_spec hs).2 next hb)
      exact ⟨s.calls ++ calls, by simp [startSimulateForever, hs, hb, hc, Except.map]⟩

theorem startSimulateForever_ok_two_contracts :
    "a" ∈ (((∅ : Engines).insert "a" ⟨[], ⟨[], [], [], []⟩, "a", SENDER_ADDR, ⟨[]⟩⟩).insert "b"
        ⟨[], ⟨[], [], [], []⟩, "b", SENDER_ADDR, ⟨[]⟩⟩) ∧
      ∃ calls, startSimulateForever (((∅ : Engines).insert "a" ⟨[], ⟨[], [], [], []⟩, "a", SENDER_ADDR, ⟨[]⟩⟩).insert "b"
        ⟨[], ⟨[], [], [], []⟩, "b", SENDER_ADDR, ⟨[]⟩⟩) "a" 2 3
        ["switch", "b", "handle", "\x7b\x7d"] = .ok calls :=
  ⟨by decide, startSimulateForever_ok _ 2 3 "a" _ (by decide)⟩

/-! ## Switching contracts -/

section
variable {engines : Engines} {engine : ContractInstance} {b : String} {rest : List String}

theorem getCallType_switch_line (hlen : 1 < engines.keys.length) :
    getCallType engines ("switch" :: b :: rest) =
      (if b ∈ engines then some (b, true) else none, rest) := by
  rw [getCallType_multi hlen]
  by_cases hb : b ∈ engines <;> simp [hb, AList.lookup_eq_none]

theorem simulateByJsonTurn_switch_line (hlen : 1 < engines.keys.length) :
    simulateByJsonTurn engines engine ("switch" :: b :: rest) =
      if b ∈ engines ∧ engine.address ≠ b then .switch b rest else .again rest := by
  by_cases hb : b ∈ engines <;> simp [simulateByJsonTurn, getCallType_switch_line hlen, hb]

theorem simulateByAutoAnalyzeTurn_switch_line (hlen : 1 < engines.keys.length) :
    simulateByAutoAnalyzeTurn engines engine ("switch" :: b :: rest) =
      if b ∈ engines ∧ engine.address ≠ "" then .switch b rest else .again rest := by
  by_cases hb : b ∈ engines <;> simp [simulateByAutoAnalyzeTurn, getCallType_switch_line hlen, hb]

/-- Away from the active contract, the two loops react alike to `switch b`: both ask again when
`b` is not registered, and both return `Ok((true, b))` when it is. -/
theorem switch_turns_agree (hlen : 1 < engines.keys.length) (hne : engine.address ≠ "")
    (hb : b ≠ engine.address) :
    simulateByJsonTurn engines engine ("switch" :: b :: rest) =
        (if b ∈ engines then .switch b rest else .again rest) ∧
      simulateByAutoAnalyzeTurn engines engine ("switch" :: b :: rest) =
        (if b ∈ engines then .switch b rest else .again rest) := by
  rw [simulateByJsonTurn_switch_line hlen, simulateByAutoAnalyzeTurn_switch_line hlen]
  simp [hne, Ne.symm hb]

end

/-- Switching to the active contract `a`, with `b` also registered, in one pass of the loop
`start_simulate` picks for `a`: when `a` declares no message groups the raw-JSON loop asks again
and the session goes on; when its schema declares `HandleMsg`, the auto-analysing loop compares
`a` with its empty `call_param` and returns `Ok((true, "a"))`. -/
theorem switch_to_active :
    startSimulate (((∅ : Engines).insert "a" ⟨[], ⟨[], [], [], []⟩, "a", SENDER_ADDR, ⟨[]⟩⟩).insert
        "b" ⟨[], ⟨[], [], [], []⟩, "b", SENDER_ADDR, ⟨[]⟩⟩) "a" 1 ["switch", "a"] =
      .ok ⟨[], none, []⟩ ∧
    startSimulate (((∅ : Engines).insert "a" ⟨[], ⟨[], [], [("HandleMsg", true)],
          [("HandleMsg", [("increment", [])])]⟩, "a", SENDER_ADDR, ⟨[]⟩⟩).insert
        "b" ⟨[], ⟨[], [], [], []⟩, "b", SENDER_ADDR, ⟨[]⟩⟩) "a" 1 ["switch", "a"] =
      .ok ⟨[], some "a", []⟩ :=
  ⟨rfl, rfl⟩

/-! ## Starting the session -/

/-- Artifact `a` fails to load on the first pass and `b` loads: the watcher sends `a`, which is
not registered, so `start_simulate` finds no engine and the program ends. -/
theorem readiness_names_failed_artifact :
    ∃ st, watchAndUpdate SENDER_ADDR [("artifacts/a.wasm", "a"), ("artifacts/b/b.wasm", "b")]
        (fun _ i => if i = 0 then ⟨.modified 1, .error "a.wasm: invalid module"⟩
          else ⟨.modified 1, .ok ⟨[0, 97, 115, 109], ⟨[], [], [], []⟩⟩⟩) 0 1 = .ok st ∧
      st.sent = ["a"] ∧ st.engines.keys = ["b"] ∧
      ∀ n input, startSimulate st.engines "a" n input = .error "No engine found: a" :=
  ⟨_, rfl, rfl, rfl, fun _ _ => rfl⟩

end CosmwasmSimulate
