import CosmwasmSimulate.Registry
import CosmwasmSimulate.Artifacts

/-!
# The artifact watcher

`watch_and_update` polls every tracked artifact once a second. An artifact whose modification
time changed (or whose time cannot be read) is rebuilt. The rebuild starts from the storage of
the instance registered at its address, or from `MockStorage::default()` when there is none.
After each pass the first artifact's address is sent on the readiness channel. The loop has no
exit: the function returns only through `fs::metadata(wasm_file)?`.

The loop is modelled as a machine on `WatchState` (ENGINES, the timestamps, the messages sent).
`watchArtifact` is one artifact of one pass, `watchPoll` one iteration of the loop, and
`watchRun` a run of `n` iterations, where `env k i` is what poll `k` observes of artifact `i`.
Every state a run reaches is reached by `WatchStep`s (`watchRun_reachable`), so a fact about
every run follows from one fact about each step (`reflTransGen_invariant`, which the system
models after the handoff use as well).

* `watchRun_bound_mem`, `watchRun_storage`: over every run, from any state, every registered
  instance stays bound to its address and sender, no registered contract is dropped, and no
  registered contract's storage changes.
* `watchAndUpdate_metadata_failure`: one poll at which `fs::metadata` fails ends the watcher.
  `watchRun_error` shows this is the only way it ends.
* `watchRun_sent`, `watchAndUpdate_notifies_every_poll`: each poll sends the first address
  again, so the readiness channel gets one message per poll, not one in all.
* `watchAndUpdate_first_mem`: after the first poll ENGINES holds exactly the artifacts that poll
  rebuilt with a successful load.
-/

namespace CosmwasmSimulate

/-- What `fs::metadata(wasm_file)`, then `.modified()`, give at one poll. -/
inductive Metadata
  | failed (err : String)
  | noModifiedTime
  | modified (time : Nat)
deriving DecidableEq, Repr

/-- What one poll observes of one artifact: its metadata, and what loading it gives if it is
rebuilt now. -/
structure Probe where
  metadata : Metadata
  load : Except String Module

structure WatchState where
  engines : Engines
  modifiedFiles : List Nat
  sent : List String

/-- Rebuild `(wasm_file, contract_addr)`: from the registered instance's storage
(`eng.instance.with_storage`), or fresh from `MockStorage::default()`. -/
def rebuild (senderAddr : String) (file : String × String) (load : Except String Module)
    (engines : Engines) : Engines :=
  match engines.lookup file.2 with
  | some eng => insertEngine engines load file.2 senderAddr eng.storage
  | none => insertEngine engines load file.2 senderAddr MockStorage.default

/-- One artifact of one pass. A failed `fs::metadata` returns from `watch_and_update`; an
unchanged modification time skips the artifact; otherwise it is rebuilt. -/
def watchArtifact (senderAddr : String) (index : Nat) (file : String × String) (probe : Probe)
    (st : WatchState) : Except String WatchState :=
  match probe.metadata with
  | .failed err => .error err
  | .noModifiedTime => .ok { st with engines := rebuild senderAddr file probe.load st.engines }
  | .modified time =>
    if st.modifiedFiles[index]? = some time then .ok st
    else .ok { st with
      modifiedFiles := st.modifiedFiles.set index time
      engines := rebuild senderAddr file probe.load st.engines }

/-- `for index in 0..len`: the pass over the artifacts from `index` on. -/
def watchPass (senderAddr : String) (probe : Nat → Probe) :
    Nat → List (String × String) → WatchState → Except String WatchState
  | _, [], st => .ok st
  | index, file :: files, st =>
    (watchArtifact senderAddr index file (probe index) st).bind
      (watchPass senderAddr probe (index + 1) files)

/-- One iteration of the loop: a pass, then `// init all contracts first time, send the first
contract to notify`, then the one-second sleep. -/
def watchPoll (senderAddr : String) (wasmFiles : List (String × String)) (probe : Nat → Probe)
    (st : WatchState) : Except String WatchState :=
  (watchPass senderAddr probe 0 wasmFiles st).map fun st =>
    match wasmFiles with
    | [] => st
    | first :: _ => { st with sent := st.sent ++ [first.2] }

/-- `n` iterations of the loop from `st`: `.error e` once `watch_and_update` has returned
`Err(e)`, `.ok st'` while it runs. Poll `k` observes `env k`. -/
def watchRun (senderAddr : String) (wasmFiles : List (String × String))
    (env : Nat → Nat → Probe) (st : WatchState) : Nat → Except String WatchState
  | 0 => .ok st
  | n + 1 => (watchRun senderAddr wasmFiles env st n).bind (watchPoll senderAddr wasmFiles (env n))

/-- The watcher thread's start: ENGINES empty, every timestamp `SystemTime::now()`, nothing
sent. -/
def initialWatch (wasmFiles : List (String × String)) (now : Nat) : WatchState :=
  ⟨∅, List.replicate wasmFiles.length now, []⟩

/-- `watch_and_update` after `n` polls. -/
def watchAndUpdate (senderAddr : String) (wasmFiles : List (String × String))
    (env : Nat → Nat → Probe) (now n : Nat) : Except String WatchState :=
  watchRun senderAddr wasmFiles env (initialWatch wasmFiles now) n

/-! ## One step -/

section
variable {senderAddr : String} {probe : Nat → Probe} {st st' : WatchState}

theorem watchPass_cons_ok {index : Nat} {file : String × String} {files : List (String × String)} :
    watchPass senderAddr probe index (file :: files) st = .ok st' ↔
      ∃ mid, watchArtifact senderAddr index file (probe index) st = .ok mid ∧
        watchPass senderAddr probe (index + 1) files mid = .ok st' :=
  Except.bind_eq_ok

theorem watchPoll_nil : watchPoll senderAddr [] probe st = .ok st := rfl

/-- A poll changes ENGINES only through its pass. -/
theorem watchPoll_engines {wasmFiles : List (String × String)}
    (h : watchPoll senderAddr wasmFiles probe st = .ok st') :
    ∃ mid, watchPass senderAddr probe 0 wasmFiles st = .ok mid ∧ st'.engines = mid.engines := by
  cases wasmFiles with
  | nil => exact ⟨st, rfl, by cases watchPoll_nil.symm.trans h; rfl⟩
  | cons first rest =>
    obtain ⟨mid, hp, rfl⟩ := Except.map_eq_ok.mp h
    exact ⟨mid, hp, rfl⟩

theorem watchRun_succ_ok {wasmFiles : List (String × String)} {env : Nat → Nat → Probe}
    {n : Nat} :
    watchRun senderAddr wasmFiles env st (n + 1) = .ok st' ↔
      ∃ mid, watchRun senderAddr wasmFiles env st n = .ok mid ∧
        watchPoll senderAddr wasmFiles (env n) mid = .ok st' :=
  Except.bind_eq_ok

end

/-- What one artifact step does: nothing but a possible rebuild of its own artifact, and a
timestamp update. -/
theorem watchArtifact_ok {senderAddr : String} {index : Nat} {file : String × String}
    {probe : Probe} {st st' : WatchState}
    (h : watchArtifact senderAddr index file probe st = .ok st') :
    st'.sent = st.sent ∧
      (st'.engines = st.engines ∨ st'.engines = rebuild senderAddr file probe.load st.engines) := by
  unfold watchArtifact at h
  split at h
  · cases h
  · cases h; exact ⟨rfl, .inr rfl⟩
  · split at h <;> cases h
    · exact ⟨rfl, .inl rfl⟩
    · exact ⟨rfl, .inr rfl⟩

theorem watchArtifact_error {senderAddr : String} {index : Nat} {file : String × String}
    {probe : Probe} {st : WatchState} {e : String}
    (h : watchArtifact senderAddr index file probe st = .error e) :
    probe.metadata = .failed e := by
  unfold watchArtifact at h
  split at h
  · cases h; assumption
  · cases h
  · split at h <;> cases h

/-- The steps of the watcher machine under the observations `env`: artifact `index` of a pass,
as poll `k` observes it, or the readiness message. -/
inductive WatchStep (senderAddr : String) (wasmFiles : List (String × String))
    (env : Nat → Nat → Probe) : WatchState → WatchState → Prop
  | artifact {k index : Nat} {file : String × String} {st st' : WatchState} :
      wasmFiles[index]? = some file →
      watchArtifact senderAddr index file (env k index) st = .ok st' →
      WatchStep senderAddr wasmFiles env st st'
  | notify {first : String × String} {rest : List (String × String)} (st : WatchState) :
      wasmFiles = first :: rest →
      WatchStep senderAddr wasmFiles env st { st with sent := st.sent ++ [first.2] }

/-! ## Runs -/

/-- What every step keeps holds along every run. -/
theorem reflTransGen_invariant {α : Type} {r : α → α → Prop} {P : α → Prop}
    (hstep : ∀ a b, r a b → P a → P b) {a b : α} (h : Relation.ReflTransGen r a b) :
    P a → P b :=
  @Relation.reflTransGen_minimal α r (fun a b => P a → P b) (fun _ => id)
    (fun _ _ _ f g => g ∘ f) hstep a b h

theorem watchPass_reachable {senderAddr : String} {wasmFiles : List (String × String)}
    {env : Nat → Nat → Probe} {k : Nat} :
    ∀ {files : List (String × String)} {index : Nat} {st st' : WatchState},
      wasmFiles.drop index = files → watchPass senderAddr (env k) index files st = .ok st' →
      Relation.ReflTransGen (WatchStep senderAddr wasmFiles env) st st'
  | [], _, _, _, _, h => by cases h; exact .refl
  | file :: files, index, st, st', hd, h => by
    obtain ⟨mid, hs, hp⟩ := watchPass_cons_ok.mp h
    have hi : wasmFiles[index]? = some file := by
      have h0 := congrArg (·[0]?) hd
      simpa using h0
    have hn : wasmFiles.drop (index + 1) = files := by
      simpa [List.tail_drop] using congrArg List.tail hd
    exact .head (.artifact hi hs) (watchPass_reachable hn hp)

theorem watchPoll_reachable {senderAddr : String} {wasmFiles : List (String × String)}
    {env : Nat → Nat → Probe} {k : Nat} {st st' : WatchState}
    (h : watchPoll senderAddr wasmFiles (env k) st = .ok st') :
    Relation.ReflTransGen (WatchStep senderAddr wasmFiles env) st st' := by
  cases wasmFiles with
  | nil => cases watchPoll_nil.symm.trans h; exact .refl
  | cons first rest =>
    obtain ⟨mid, hp, rfl⟩ := Except.map_eq_ok.mp h
    exact (watchPass_reachable (List.drop_zero _) hp).tail (.notify mid rfl)

/-- Every state a run reaches is reached by watcher steps. -/
theorem watchRun_reachable {senderAddr : String} {wasmFiles : List (String × String)}
    {env : Nat → Nat → Probe} {st : WatchState} :
    ∀ {n : Nat} {st' : WatchState}, watchRun senderAddr wasmFiles env st n = .ok st' →
      Relation.ReflTransGen (WatchStep senderAddr wasmFiles env) st st'
  | 0, _, h => by cases h; exact .refl
  | n + 1, st', h => by
    obtain ⟨mid, hr, hp⟩ := watchRun_succ_ok.mp h
    exact (watchRun_reachable hr).trans (watchPoll_reachable hp)

/-- What one watcher step does to ENGINES: nothing, or a rebuild of a watched artifact from what
its poll observed. -/
theorem WatchStep.engines_eq {senderAddr : String} {wasmFiles : List (String × String)}
    {env : Nat → Nat → Probe} {st st' : WatchState}
    (h : WatchStep senderAddr wasmFiles env st st') :
    st'.engines = st.engines ∨ ∃ k i file, wasmFiles[i]? = some file ∧
      st'.engines = rebuild senderAddr file (env k i).load st.engines := by
  cases h with
  | @artifact k _ _ _ _ hf hs => exact (watchArtifact_ok hs).2.imp_right fun he => ⟨k, _, _, hf, he⟩
  | notify _ _ => exact .inl rfl

/-! ## Rebuilds -/

/-- What one rebuild of the artifact `(file, a)` does to ENGINES, seen through `get`. A failed
construction leaves ENGINES as it was. A successful one changes the entry at `a` only, to an
instance of the loaded module seeded with the storage registered at `a` just before, or with
`MockStorage::default()` when nothing was. -/
def RebuildsTo (senderAddr : String) (file : String × String) (load : Except String Module)
    (before after : Engines) : Prop :=
  match load with
  | .error _ => after = before
  | .ok m =>
    (∀ k, k ≠ file.2 → after.lookup k = before.lookup k) ∧
      after.lookup file.2 = some ⟨m.code, m.analyzer, file.2, senderAddr,
        ((before.lookup file.2).map ContractInstance.storage).getD MockStorage.default⟩

theorem rebuild_rebuildsTo (senderAddr : String) (file : String × String)
    (load : Except String Module) (engines : Engines) :
    RebuildsTo senderAddr file load engines (rebuild senderAddr file load engines) := by
  have seed : rebuild senderAddr file load engines = insertEngine engines load file.2 senderAddr
      (((engines.lookup file.2).map ContractInstance.storage).getD MockStorage.default) := by
    unfold rebuild
    cases engines.lookup file.2 <;> rfl
  rw [seed]
  cases load with
  | error e => rfl
  | ok m =>
    refine ⟨fun k hk => ?_, ?_⟩ <;> simp [insertEngine_lookup, *]

theorem mem_rebuild {senderAddr : String} {file : String × String} {load : Except String Module}
    {engines : Engines} {k : String} :
    k ∈ rebuild senderAddr file load engines ↔ k ∈ engines ∨ (k = file.2 ∧ ∃ m, load = .ok m) := by
  unfold rebuild
  split <;> exact mem_insertEngine_iff

/-- A property of ENGINES that every rebuild keeps holds over every run. -/
theorem watchRun_engines {senderAddr : String} {wasmFiles : List (String × String)}
    {env : Nat → Nat → Probe} {st st' : WatchState} {n : Nat} {P : Engines → Prop}
    (hP : ∀ file load engines, P engines → P (rebuild senderAddr file load engines))
    (h : watchRun senderAddr wasmFiles env st n = .ok st') (h0 : P st.engines) :
    P st'.engines := by
  refine reflTransGen_invariant (P := fun st => P st.engines) (fun a b hstep ha => ?_)
    (watchRun_reachable h) h0
  rcases hstep.engines_eq with he | ⟨_, _, _, _, he⟩ <;> rw [he]
  exacts [ha, hP _ _ _ ha]

theorem rebuild_bound {senderAddr : String} {engines : Engines} (h : engines.Bound senderAddr)
    (file : String × String) (load : Except String Module) :
    (rebuild senderAddr file load engines).Bound senderAddr := by
  unfold rebuild
  split <;> exact insertEngine_bound h _ _ _

/-- Over every run, every registered instance is bound to its own address and to the
simulator's sender, and no registered contract is ever dropped. -/
theorem watchRun_bound_mem {senderAddr : String} {wasmFiles : List (String × String)}
    {env : Nat → Nat → Probe} {st st' : WatchState} {n : Nat}
    (h : watchRun senderAddr wasmFiles env st n = .ok st') (hb : st.engines.Bound senderAddr) :
    st'.engines.Bound senderAddr ∧ ∀ k ∈ st.engines, k ∈ st'.engines := by
  refine ⟨watchRun_engines (fun _ _ _ he => rebuild_bound he _ _) h hb, fun k hk => ?_⟩
  exact watchRun_engines (P := (k ∈ ·)) (fun _ _ _ he => mem_rebuild.mpr (.inl he)) h hk

/-- `counter` is registered as `insert_engine` registers it; its artifact changes at every poll
and is rebuilt three times, twice from a module that fails to load. -/
theorem watchRun_bound_mem_counter :
    ∃ st', watchRun SENDER_ADDR [("artifacts/counter.wasm", "counter")]
        (fun k _ => ⟨.modified (k + 2), if k = 0 then .ok ⟨[1], ⟨[], [], [], []⟩⟩ else .error "invalid"⟩)
        ⟨insertEngine ∅ (.ok ⟨[0], ⟨[], [], [], []⟩⟩) "counter" SENDER_ADDR ⟨[([99], [1])]⟩, [1], []⟩
        3 = .ok st' ∧
      (insertEngine ∅ (.ok ⟨[0], ⟨[], [], [], []⟩⟩) "counter" SENDER_ADDR
        ⟨[([99], [1])]⟩).Bound SENDER_ADDR ∧
      st'.engines.Bound SENDER_ADDR ∧
      ∀ k ∈ insertEngine ∅ (.ok ⟨[0], ⟨[], [], [], []⟩⟩) "counter" SENDER_ADDR ⟨[([99], [1])]⟩,
        k ∈ st'.engines :=
  (fun h => ⟨_, h, insertEngine_bound (Engines.bound_empty _) _ _ _,
    watchRun_bound_mem h (insertEngine_bound (Engines.bound_empty _) _ _ _)⟩) rfl

/-- A rebuild never changes the storage registered at an address: a successful one seeds the
new instance with it, a failed one keeps the old instance. -/
theorem rebuild_storage {senderAddr : String} {file : String × String}
    {load : Except String Module} {engines : Engines} {k : String} (hk : k ∈ engines) :
    ((rebuild senderAddr file load engines).lookup k).map ContractInstance.storage =
      (engines.lookup k).map ContractInstance.storage := by
  have hr := rebuild_rebuildsTo senderAddr file load engines
  unfold RebuildsTo at hr
  split at hr
  · rw [hr]
  · obtain ⟨hother, hat⟩ := hr
    by_cases hkf : k = file.2
    · obtain ⟨e, he⟩ := Option.isSome_iff_exists.mp (AList.lookup_isSome.mpr hk)
      subst hkf
      simp [hat, he]
    · rw [hother k hkf]

/-- Over every run the watcher keeps the storage of every registered contract: reloading a
contract, successfully or not, never loses its state. -/
theorem watchRun_storage {senderAddr : String} {wasmFiles : List (String × String)}
    {env : Nat → Nat → Probe} {st st' : WatchState} {n : Nat}
    (h : watchRun senderAddr wasmFiles env st n = .ok st') {k : String} (hk : k ∈ st.engines) :
    (st'.engines.lookup k).map ContractInstance.storage =
      (st.engines.lookup k).map ContractInstance.storage :=
  (watchRun_engines (P := fun e => k ∈ e ∧
      (e.lookup k).map ContractInstance.storage = (st.engines.lookup k).map ContractInstance.storage)
    (fun _ _ _ he => ⟨mem_rebuild.mpr (.inl he.1), (rebuild_storage he.1).trans he.2⟩) h
    ⟨hk, rfl⟩).2

/-- `counter` holds one entry; its artifact changes at every poll and is rebuilt twice, once
from a module that fails to load. -/
theorem watchRun_storage_counter :
    ∃ st', watchRun SENDER_ADDR [("artifacts/counter.wasm", "counter")]
        (fun k _ => ⟨.modified (k + 2), if k = 0 then .ok ⟨[1], ⟨[], [], [], []⟩⟩ else .error "invalid"⟩)
        ⟨(∅ : Engines).insert "counter" ⟨[0], ⟨[], [], [], []⟩, "counter", SENDER_ADDR,
          ⟨[([99], [1])]⟩⟩, [1], []⟩ 2 = .ok st' ∧
      "counter" ∈ (∅ : Engines).insert "counter" ⟨[0], ⟨[], [], [], []⟩, "counter", SENDER_ADDR,
          ⟨[([99], [1])]⟩⟩ ∧
      (st'.engines.lookup "counter").map ContractInstance.storage =
        (((∅ : Engines).insert "counter" ⟨[0], ⟨[], [], [], []⟩, "counter", SENDER_ADDR,
          ⟨[([99], [1])]⟩⟩).lookup "counter").map ContractInstance.storage :=
  (fun h => ⟨_, h, by decide, watchRun_storage h (by decide)⟩) rfl

/-! ## How the watcher ends -/

theorem watchPass_error {senderAddr : String} {probe : Nat → Probe} :
    ∀ {files : List (String × String)} {index : Nat} {st : WatchState} {e : String},
      watchPass senderAddr probe index files st = .error e →
      ∃ i, index ≤ i ∧ i < index + files.length ∧ (probe i).metadata = .failed e
  | [], _, _, _, h => by cases h
  | file :: files, index, st, e, h => by
    rcases Except.bind_eq_error.mp h with hs | ⟨mid, -, hp⟩
    · exact ⟨index, le_refl _, by simp, watchArtifact_error hs⟩
    · obtain ⟨i, h1, h2, h3⟩ := watchPass_error hp
      exact ⟨i, by omega, by simp only [List.length_cons]; omega, h3⟩

/-- Conversely, a pass fails as soon as one of its artifacts cannot be read. -/
theorem watchPass_error_of_failed {senderAddr : String} {probe : Nat → Probe} :
    ∀ {files : List (String × String)} {index : Nat} {st : WatchState} {i : Nat} {e : String},
      index ≤ i → i < index + files.length → (probe i).metadata = .failed e →
      ∃ e', watchPass senderAddr probe index files st = .error e'
  | [], _, _, _, _, h1, h2, _ => by simp at h2; omega
  | f :: files, index, st, i, e, h1, h2, hm => by
    cases hs : watchArtifact senderAddr index f (probe index) st with
    | error e' => exact ⟨e', Except.bind_eq_error.mpr (.inl hs)⟩
    | ok mid =>
      have hi : index ≠ i := by
        rintro rfl
        simp [watchArtifact, hm] at hs
      obtain ⟨e', he⟩ := @watchPass_error_of_failed senderAddr probe files (index + 1) mid i e
        (by omega) (by simp only [List.length_cons] at h2; omega) hm
      exact ⟨e', Except.bind_eq_error.mpr (.inr ⟨mid, hs, he⟩)⟩

/-- The watcher returns only at a poll where `fs::metadata` of an artifact failed, and it
returns that error. -/
theorem watchRun_error {senderAddr : String} {wasmFiles : List (String × String)}
    {env : Nat → Nat → Probe} {st : WatchState} :
    ∀ {n : Nat} {e : String}, watchRun senderAddr wasmFiles env st n = .error e →
      ∃ k < n, ∃ i < wasmFiles.length, (env k i).metadata = .failed e
  | 0, _, h => by cases h
  | n + 1, e, h => by
    rcases Except.bind_eq_error.mp h with hr | ⟨mid, -, hp⟩
    · obtain ⟨k, hk, rest⟩ := watchRun_error hr
      exact ⟨k, by omega, rest⟩
    · obtain ⟨i, -, hi, hm⟩ := watchPass_error (Except.map_eq_error.mp hp)
      exact ⟨n, by omega, i, by omega, hm⟩

/-- Over no artifacts a poll does nothing: the watcher never returns and never sends. -/
theorem watchRun_nil {senderAddr : String} {env : Nat → Nat → Probe} {st : WatchState} :
    ∀ n, watchRun senderAddr [] env st n = .ok st
  | 0 => rfl
  | n + 1 => by rw [watchRun, watchRun_nil n]; rfl

/-- A poll fails exactly when one of the artifacts cannot be read. -/
theorem watchPoll_error_iff {senderAddr : String} {wasmFiles : List (String × String)}
    {probe : Nat → Probe} {st : WatchState} :
    (∃ e, watchPoll senderAddr wasmFiles probe st = .error e) ↔
      ∃ i < wasmFiles.length, ∃ e, (probe i).metadata = .failed e := by
  constructor
  · rintro ⟨e, h⟩
    obtain ⟨i, -, hi, hm⟩ := watchPass_error (Except.map_eq_error.mp h)
    exact ⟨i, by omega, e, hm⟩
  · rintro ⟨i, hi, e, hm⟩
    obtain ⟨e', he⟩ := @watchPass_error_of_failed senderAddr probe wasmFiles 0 st i e
      (Nat.zero_le _) (by omega) hm
    exact ⟨e', Except.map_eq_error.mpr he⟩

theorem watchRun_error_missing :
    ∃ k < 2, ∃ i < [("artifacts/counter.wasm", "counter")].length,
      ((fun k (_ : Nat) => if k = 0 then (⟨.modified 1, .error "not built"⟩ : Probe)
        else ⟨.failed "No such file or directory (os error 2)", .error "not rebuilt"⟩) k i).metadata =
        .failed "No such file or directory (os error 2)" :=
  @watchRun_error SENDER_ADDR [("artifacts/counter.wasm", "counter")]
    (fun k _ => if k = 0 then ⟨.modified 1, .error "not built"⟩
      else ⟨.failed "No such file or directory (os error 2)", .error "not rebuilt"⟩)
    (initialWatch [("artifacts/counter.wasm", "counter")] 0) 2 _ rfl

/-- The artifact `counter` is installed by the first poll; at the second, `fs::metadata` fails
(the file is briefly missing while a build rewrites it), and `watch_and_update` returns. -/
theorem watchAndUpdate_metadata_failure :
    (watchAndUpdate SENDER_ADDR [("artifacts/counter.wasm", "counter")]
        (fun k _ => if k = 0 then ⟨.modified 1, .ok ⟨[0, 97, 115, 109], ⟨[], [], [], []⟩⟩⟩
          else ⟨.failed "No such file or directory (os error 2)", .error "not rebuilt"⟩)
        0 1).map (fun st => st.engines.keys) = .ok ["counter"] ∧
      watchAndUpdate SENDER_ADDR [("artifacts/counter.wasm", "counter")]
        (fun k _ => if k = 0 then ⟨.modified 1, .ok ⟨[0, 97, 115, 109], ⟨[], [], [], []⟩⟩⟩
          else ⟨.failed "No such file or directory (os error 2)", .error "not rebuilt"⟩)
        0 2 = .error "No such file or directory (os error 2)" :=
  ⟨rfl, rfl⟩

/-! ## The readiness channel -/

theorem watchPass_sent {senderAddr : String} {probe : Nat → Probe} :
    ∀ {files : List (String × String)} {index : Nat} {st st' : WatchState},
      watchPass senderAddr probe index files st = .ok st' → st'.sent = st.sent
  | [], _, _, _, h => by cases h; rfl
  | file :: files, index, st, st', h => by
    obtain ⟨mid, hs, hp⟩ := watchPass_cons_ok.mp h
    exact (watchPass_sent hp).trans (watchArtifact_ok hs).1

theorem watchPoll_sent {senderAddr : String} {first : String × String}
    {rest : List (String × String)} {probe : Nat → Probe} {st st' : WatchState}
    (h : watchPoll senderAddr (first :: rest) probe st = .ok st') :
    st'.sent = st.sent ++ [first.2] := by
  obtain ⟨mid, hp, rfl⟩ := Except.map_eq_ok.mp h
  exact congrArg (· ++ [first.2]) (watchPass_sent hp)

/-- Every poll sends the first artifact's address once more. -/
theorem watchRun_sent {senderAddr : String} {first : String × String}
    {rest : List (String × String)} {env : Nat → Nat → Probe} {st : WatchState} :
    ∀ {n : Nat} {st' : WatchState}, watchRun senderAddr (first :: rest) env st n = .ok st' →
      st'.sent = st.sent ++ List.replicate n first.2
  | 0, _, h => by cases h; simp
  | n + 1, st', h => by
    obtain ⟨mid, hr, hp⟩ := watchRun_succ_ok.mp h
    rw [watchPoll_sent hp, watchRun_sent hr, List.replicate_succ', List.append_assoc]

theorem watchRun_sent_counter :
    ∃ st', watchRun SENDER_ADDR [("artifacts/counter.wasm", "counter")]
        (fun _ _ => ⟨.modified 1, .ok ⟨[], ⟨[], [], [], []⟩⟩⟩)
        (initialWatch [("artifacts/counter.wasm", "counter")] 0) 3 = .ok st' ∧
      st'.sent = (initialWatch [("artifacts/counter.wasm", "counter")] 0).sent ++
        List.replicate 3 "counter" :=
  (fun h => ⟨_, h, watchRun_sent h⟩) rfl

/-- Two polls of an unchanged artifact: the readiness channel holds two messages. -/
theorem watchAndUpdate_notifies_every_poll :
    (watchAndUpdate SENDER_ADDR [("artifacts/counter.wasm", "counter")]
        (fun _ _ => ⟨.modified 1, .ok ⟨[0, 97, 115, 109], ⟨[], [], [], []⟩⟩⟩) 0 2).map
      WatchState.sent = .ok ["counter", "counter"] :=
  rfl

/-! ## What the first poll installs -/

/-- Whether a step that does not fail rebuilds its artifact: the modification time is unknown or
differs from the one recorded (`last`). -/
def Rebuilds (last : Option Nat) (probe : Probe) : Prop :=
  ∀ time, probe.metadata = .modified time → last ≠ some time

theorem rebuilds_some {t : Nat} {probe : Probe} :
    Rebuilds (some t) probe ↔ probe.metadata ≠ .modified t := by
  constructor
  · exact fun h hm => h t hm rfl
  · rintro h time hm ⟨⟩
    exact h hm

section
variable {senderAddr : String} {index : Nat} {file : String × String} {probe : Probe}
  {st st' : WatchState}

theorem watchArtifact_mem (h : watchArtifact senderAddr index file probe st = .ok st')
    (a : String) :
    a ∈ st'.engines ↔ a ∈ st.engines ∨
      (a = file.2 ∧ Rebuilds st.modifiedFiles[index]? probe ∧ ∃ m, probe.load = .ok m) := by
  unfold watchArtifact at h
  rcases hm : probe.metadata with e | _ | time <;> simp only [hm] at h
  · cases h
  · cases h
    simp [mem_rebuild, Rebuilds, hm]
  · split at h <;> cases h
    · simp [Rebuilds, hm, *]
    · simp [mem_rebuild, Rebuilds, hm, *]

/-- A step records a timestamp at its own index only. -/
theorem watchArtifact_modifiedFiles (h : watchArtifact senderAddr index file probe st = .ok st')
    {j : Nat} (hj : index ≠ j) : st'.modifiedFiles[j]? = st.modifiedFiles[j]? := by
  unfold watchArtifact at h
  split at h
  · cases h
  · cases h; rfl
  · split at h <;> cases h
    · rfl
    · exact List.getElem?_set_ne hj

end

theorem exists_getElem?_cons {α : Type} {x : α} {xs : List α} {P : Nat → α → Prop} :
    (∃ i y, (x :: xs)[i]? = some y ∧ P i y) ↔ P 0 x ∨ ∃ i y, xs[i]? = some y ∧ P (i + 1) y := by
  constructor
  · rintro ⟨_ | i, y, h, hp⟩
    · rw [List.getElem?_cons_zero, Option.some.injEq] at h
      exact .inl (h ▸ hp)
    · exact .inr ⟨i, y, by rwa [List.getElem?_cons_succ] at h, hp⟩
  · rintro (hp | ⟨i, y, h, hp⟩)
    · exact ⟨0, x, List.getElem?_cons_zero, hp⟩
    · exact ⟨i + 1, y, by rwa [List.getElem?_cons_succ], hp⟩

/-- What a pass adds to ENGINES: the address of every artifact it rebuilds with a successful
load, judged against the timestamps recorded when the pass began. -/
theorem watchPass_mem {senderAddr : String} {probe : Nat → Probe} (a : String) :
    ∀ {files : List (String × String)} {index : Nat} {st st' : WatchState},
      watchPass senderAddr probe index files st = .ok st' →
      (a ∈ st'.engines ↔ a ∈ st.engines ∨ ∃ i f, files[i]? = some f ∧ a = f.2 ∧
        Rebuilds st.modifiedFiles[index + i]? (probe (index + i)) ∧
        ∃ m, (probe (index + i)).load = .ok m)
  | [], _, _, _, h => by cases h; simp
  | f :: files, index, st, st', h => by
    obtain ⟨mid, hs, hp⟩ := watchPass_cons_ok.mp h
    have hframe (i : Nat) : mid.modifiedFiles[index + i + 1]? = st.modifiedFiles[index + i + 1]? :=
      watchArtifact_modifiedFiles hs (by omega)
    rw [watchPass_mem a hp, watchArtifact_mem hs, exists_getElem?_cons, or_assoc]
    simp only [Nat.add_right_comm index 1, ← Nat.add_assoc, Nat.add_zero, hframe]

/-- After the first poll, ENGINES holds exactly the addresses of the artifacts that poll rebuilt
with a successful load: those whose modification time was unknown or other than the watcher's
start time `now`. -/
theorem watchAndUpdate_first_mem {senderAddr : String} {wasmFiles : List (String × String)}
    {env : Nat → Nat → Probe} {now : Nat} {st : WatchState}
    (h : watchAndUpdate senderAddr wasmFiles env now 1 = .ok st) (a : String) :
    a ∈ st.engines ↔ ∃ i f, wasmFiles[i]? = some f ∧ a = f.2 ∧
      (env 0 i).metadata ≠ .modified now ∧ ∃ m, (env 0 i).load = .ok m := by
  obtain ⟨_, h0, hp⟩ := watchRun_succ_ok.mp h
  cases h0
  obtain ⟨mid, hpass, he⟩ := watchPoll_engines hp
  have stamp {i : Nat} {f : String × String} (hf : wasmFiles[i]? = some f) :
      (List.replicate wasmFiles.length now)[i]? = some now :=
    List.getElem?_replicate_of_lt (List.getElem?_eq_some_iff.mp hf).1
  rw [he, watchPass_mem a hpass]
  simp only [initialWatch, Nat.zero_add, AList.not_mem_empty, false_or]
  constructor
  · rintro ⟨i, f, hf, ha, hr, hl⟩
    exact ⟨i, f, hf, ha, rebuilds_some.mp (stamp hf ▸ hr), hl⟩
  · rintro ⟨i, f, hf, ha, hr, hl⟩
    exact ⟨i, f, hf, ha, (stamp hf).symm ▸ rebuilds_some.mpr hr, hl⟩

end CosmwasmSimulate
