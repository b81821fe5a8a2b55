import CosmwasmSimulate.Session
import CosmwasmSimulate.Artifacts

/-!
# The program

`prepare_command_line`, given an artifact to run: `load_artifacts` gives the artifact list (none
when it fails), a thread runs `watch_and_update` over it, and the main thread waits on the
readiness channel for the first address, then runs `start_simulate_forever` on it.

The watcher sends its first message at the end of its first poll, or never, so the program is
modelled up to that poll: the session runs over ENGINES as the first poll left it. The later
polls run beside the session; a session sees the registry fixed (see `Session`).

* `prepareCommandLine_load_ok`: the session is always on the main artifact's address.
* `prepareCommandLine_blocked_iff`: a failed `load_artifacts` becomes an empty artifact list
  (`Err(_) => vec![]`). The watcher runs forever over no artifacts and the main thread waits
  forever; nothing else makes it wait.
* `prepareCommandLine_watchError_iff`: one artifact that cannot be read at the first poll ends
  the program before a session starts, however many others load.
* `prepareCommandLine_session`: otherwise the session runs over ENGINES holding exactly the
  artifacts the first poll installed.
-/

namespace CosmwasmSimulate

/-- The artifact list the watcher thread is given: `load_artifacts`'s, or `vec![]` when it
fails. -/
def wasmFilesOf (fs : FileSystem) (file : String) (contract : Option String) :
    List (String × String) :=
  match loadArtifacts fs file contract with
  | .error _ => []
  | .ok s => s

/-- How `prepare_command_line` goes on once the watcher thread is spawned. -/
inductive Outcome
  /-- `receiver.recv()` waits forever: the watcher runs but never sends. -/
  | blocked
  /-- `receiver.recv()` fails: the watcher thread returned before it sent, dropping the sender.
  The program prints `watch error` and returns `false`. -/
  | watchError
  /-- `start_simulate_forever(contract_addr, SENDER_ADDR)` on the first address received. -/
  | simulate (result : Except String (List (String × String)))

/-- `prepare_command_line` with the artifact `file` and the folder `contract`. The first poll
observes `env 0`; the session runs `n` passes per contract and follows at most `switches`
switches. -/
def prepareCommandLine (fs : FileSystem) (file : String) (contract : Option String)
    (env : Nat → Nat → Probe) (now n switches : Nat) (input : List String) : Outcome :=
  match watchAndUpdate SENDER_ADDR (wasmFilesOf fs file contract) env now 1 with
  | .error _ => .watchError
  | .ok st =>
    match st.sent with
    | [] => .blocked
    | contractAddr :: _ => .simulate (startSimulateForever st.engines contractAddr n switches input)

section
variable {fs : FileSystem} {file : String} {contract : Option String} {env : Nat → Nat → Probe}
  {now n switches : Nat} {input : List String}

theorem prepareCommandLine_load_error {e : IoError} (h : loadArtifacts fs file contract = .error e) :
    prepareCommandLine fs file contract env now n switches input = .blocked := by
  simp only [prepareCommandLine, wasmFilesOf, h, watchAndUpdate, watchRun_nil]
  rfl

/-- Once the artifacts are loaded, the session is on the main artifact's address, whatever the
first poll installed. -/
theorem prepareCommandLine_load_ok {files : List (String × String)}
    (h : loadArtifacts fs file contract = .ok files) :
    prepareCommandLine fs file contract env now n switches input =
      match watchAndUpdate SENDER_ADDR files env now 1 with
      | .error _ => .watchError
      | .ok st => .simulate (startSimulateForever st.engines (fileStem file) n switches input) := by
  obtain ⟨rest, rfl, -⟩ := loadArtifacts_ok h
  unfold prepareCommandLine
  simp only [wasmFilesOf, h]
  cases hw : watchAndUpdate SENDER_ADDR ((file, fileStem file) :: rest) env now 1 with
  | error e => rfl
  | ok st =>
    obtain ⟨_, h0, hp⟩ := watchRun_succ_ok.mp hw
    cases h0
    simp only [watchPoll_sent hp, initialWatch, List.nil_append]

/-- A failed `load_artifacts` (a path without `.wasm`, a missing file, an unreadable folder)
becomes an empty artifact list: the watcher runs forever over no artifacts and never sends, so
the main thread waits forever. Nothing else makes it wait forever. -/
theorem prepareCommandLine_blocked_iff :
    (prepareCommandLine fs file contract env now n switches input = .blocked ↔
      ∃ e, loadArtifacts fs file contract = .error e) ∧
    ∀ e, loadArtifacts fs file contract = .error e →
      ∀ k, watchAndUpdate SENDER_ADDR (wasmFilesOf fs file contract) env now k = .ok ⟨∅, [], []⟩ := by
  refine ⟨?_, fun e h k => by simp only [wasmFilesOf, h, watchAndUpdate, watchRun_nil]; rfl⟩
  cases hl : loadArtifacts fs file contract with
  | error e => simp [prepareCommandLine_load_error hl]
  | ok files =>
    rw [prepareCommandLine_load_ok hl]
    split <;> simp

/-- An artifact that cannot be read at the first poll (its file briefly missing while a build
rewrites it) ends the program before any session, however many others load. Nothing else ends
it there. -/
theorem prepareCommandLine_watchError_iff :
    prepareCommandLine fs file contract env now n switches input = .watchError ↔
      ∃ files, loadArtifacts fs file contract = .ok files ∧
        ∃ i < files.length, ∃ e, (env 0 i).metadata = .failed e := by
  cases hl : loadArtifacts fs file contract with
  | error e => simp [prepareCommandLine_load_error hl]
  | ok files =>
    simp only [prepareCommandLine_load_ok hl, Except.ok.injEq, exists_eq_left']
    rw [← @watchPoll_error_iff SENDER_ADDR files (env 0) (initialWatch files now)]
    split
    · next e he => exact iff_of_true rfl ⟨e, he⟩
    · next st hw => exact iff_of_false Outcome.noConfusion fun ⟨e, he⟩ => by cases hw.symm.trans he

/-- Otherwise the session runs on the main artifact's address over ENGINES as the first poll left
it, which holds exactly the addresses of the artifacts that poll installed: a failed load leaves
out its own contract and no other. -/
theorem prepareCommandLine_session {files : List (String × String)} {st : WatchState}
    (hl : loadArtifacts fs file contract = .ok files)
    (hw : watchAndUpdate SENDER_ADDR files env now 1 = .ok st) :
    prepareCommandLine fs file contract env now n switches input =
        .simulate (startSimulateForever st.engines (fileStem file) n switches input) ∧
      ∀ a, a ∈ st.engines ↔ ∃ i f, files[i]? = some f ∧ a = f.2 ∧
        (env 0 i).metadata ≠ .modified now ∧ ∃ m, (env 0 i).load = .ok m := by
  rw [prepareCommandLine_load_ok hl, hw]
  exact ⟨rfl, watchAndUpdate_first_mem hw⟩

end

/-- `artifacts/main.wasm` with `-c contracts`, where `contracts/a/a.wasm` fails to load. -/
theorem prepareCommandLine_session_contracts :
    ∃ fs : FileSystem, ∃ files st,
      loadArtifacts fs "artifacts/main.wasm" (some "contracts") = .ok files ∧
      watchAndUpdate SENDER_ADDR files
        (fun _ i => if i = 1 then ⟨.modified 1, .error "a.wasm: invalid module"⟩
          else ⟨.modified 1, .ok ⟨[0, 97, 115, 109], ⟨[], [], [], []⟩⟩⟩) 0 1 = .ok st ∧
      (prepareCommandLine fs "artifacts/main.wasm" (some "contracts")
          (fun _ i => if i = 1 then ⟨.modified 1, .error "a.wasm: invalid module"⟩
            else ⟨.modified 1, .ok ⟨[0, 97, 115, 109], ⟨[], [], [], []⟩⟩⟩) 0 2 1 ["query", "{}"] =
          .simulate (startSimulateForever st.engines (fileStem "artifacts/main.wasm") 2 1
            ["query", "{}"]) ∧
        ∀ a, a ∈ st.engines ↔ ∃ i f, files[i]? = some f ∧ a = f.2 ∧
          ((fun _ i => if i = 1 then (⟨.modified 1, .error "a.wasm: invalid module"⟩ : Probe)
            else ⟨.modified 1, .ok ⟨[0, 97, 115, 109], ⟨[], [], [], []⟩⟩⟩) 0 i).metadata ≠
              .modified 0 ∧
          ∃ m, ((fun _ i => if i = 1 then (⟨.modified 1, .error "a.wasm: invalid module"⟩ : Probe)
            else ⟨.modified 1, .ok ⟨[0, 97, 115, 109], ⟨[], [], [], []⟩⟩⟩) 0 i).load = .ok m) :=
  ⟨⟨fun p => p == "artifacts/main.wasm" || p == "artifacts/contracts/a/a.wasm" ||
      p == "artifacts/contracts/b/b.wasm",
      fun d => d == "artifacts/contracts",
      fun d => if d = "artifacts/contracts" then .ok [.ok (some "a"), .ok (some "b")] else .ok [],
      fun d entries h => by dsimp only at h; split at h <;> cases h <;> decide⟩,
    (fun hl => (fun hw => ⟨_, _, hl, hw, prepareCommandLine_session hl hw⟩) rfl) rfl⟩

end CosmwasmSimulate
