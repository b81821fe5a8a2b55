import CosmwasmSimulate.Watcher

/-!
# What the watcher reloads

`watch_and_update` keeps, for each tracked artifact, the modification time it last read
(`modified_files`, every slot `SystemTime::now()` at the start). A poll rebuilds an artifact when
it reads another time, or cannot read one. This file states that purpose without the list of
timestamps: `lastRead` is the last time read, computed from what the polls observed, and
`reloadChanged` is what a poll should do with it. The watcher does exactly that at every poll of
every run.

* `watchRun_rebuilds`: every poll of every run changes ENGINES artifact after artifact, each
  artifact as its own observation says: one whose time is not the one last read is rebuilt as
  `RebuildsTo` says (its address alone changes, a failed construction changes nothing, a
  successful one installs the module seeded with the storage registered there just before), and
  any other leaves ENGINES as it was.
* `watchAndUpdate_reloadChanged`: every poll rebuilds, in order, exactly the artifacts whose
  modification time is not the one last read, and the timestamp list holds the last times read.
* `watchAndUpdate_steady`: once no artifact's modification time changes, the polls rebuild
  nothing: ENGINES stays as the first poll that read those times left it.
-/

namespace CosmwasmSimulate

/-- Whether a poll that reads `metadata` rebuilds an artifact whose modification time was last
read as `last`. A failed read ends the watcher instead. -/
def Metadata.changed (last : Nat) : Metadata → Bool
  | .failed _ => false
  | .noModifiedTime => true
  | .modified time => time != last

/-- The time on record after a poll that reads `metadata`. -/
def Metadata.recorded (last : Nat) : Metadata → Nat
  | .modified time => time
  | _ => last

/-- The modification time of artifact `i` last read before poll `k`: the start time, until a poll
reads one. -/
def lastRead (env : Nat → Nat → Probe) (now i : Nat) : Nat → Nat
  | 0 => now
  | k + 1 => (env k i).metadata.recorded (lastRead env now i k)

/-- What a poll is for: rebuild, in order, each artifact whose modification time is not the one
last read. -/
def reloadChanged (senderAddr : String) (last : Nat → Nat) (probe : Nat → Probe) :
    Nat → List (String × String) → Engines → Engines
  | _, [], engines => engines
  | index, file :: files, engines =>
    reloadChanged senderAddr last probe (index + 1) files
      (if (probe index).metadata.changed (last index) then
        rebuild senderAddr file (probe index).load engines
      else engines)

@[simp] theorem Metadata.changed_modified_self (time : Nat) :
    (Metadata.modified time).changed time = false := by
  simp [Metadata.changed]

theorem lastRead_of_modified {env : Nat → Nat → Probe} {now i k t : Nat}
    (h : (env k i).metadata = .modified t) : lastRead env now i (k + 1) = t := by
  simp [lastRead, h, Metadata.recorded]

/-- A pass over artifacts none of which changed rebuilds nothing. -/
theorem reloadChanged_unchanged {senderAddr : String} {last : Nat → Nat} {probe : Nat → Probe} :
    ∀ {index : Nat} {files : List (String × String)} {engines : Engines},
      (∀ j, index ≤ j → j < index + files.length → (probe j).metadata.changed (last j) = false) →
      reloadChanged senderAddr last probe index files engines = engines
  | _, [], _, _ => rfl
  | index, _ :: _, _, h => by
    rw [reloadChanged, if_neg (by simp [h index le_rfl (by simp)])]
    exact reloadChanged_unchanged fun j h1 h2 => h j (by omega) (by simp; omega)

section
variable {senderAddr : String} {probe : Nat → Probe} {st st' : WatchState}

/-- One artifact against the time on record: it is rebuilt exactly when `changed`, and the time
read is recorded in its slot. -/
theorem watchArtifact_reload {index : Nat} {file : String × String} {p : Probe} {last : Nat}
    (hlast : st.modifiedFiles[index]? = some last)
    (h : watchArtifact senderAddr index file p st = .ok st') :
    st'.engines =
        (if p.metadata.changed last then rebuild senderAddr file p.load st.engines
        else st.engines) ∧
      ∀ j, st'.modifiedFiles[j]? =
        if j = index then some (p.metadata.recorded last) else st.modifiedFiles[j]? := by
  have hkeep : ∀ j, st.modifiedFiles[j]? = if j = index then some last else st.modifiedFiles[j]? :=
    fun j => by split_ifs with hj <;> [exact hj ▸ hlast; rfl]
  unfold watchArtifact at h
  rcases hm : p.metadata with e | _ | time <;> simp only [hm, hlast] at h
  · cases h
  · cases h
    exact ⟨by simp [Metadata.changed], hkeep⟩
  · by_cases ht : time = last
    · subst ht
      rw [if_pos rfl] at h
      cases h
      exact ⟨by simp [Metadata.changed], hkeep⟩
    · rw [if_neg fun h => ht (Option.some.inj h).symm] at h
      cases h
      refine ⟨by simp [Metadata.changed, ht], fun j => ?_⟩
      have hlt : index < st.modifiedFiles.length := (List.getElem?_eq_some_iff.mp hlast).1
      rw [List.getElem?_set]
      split_ifs <;> first | rfl | omega

/-- A pass from `index` on, against the times on record, is `reloadChanged`, and records the
times it reads. -/
theorem watchPass_reload {last : Nat → Nat} :
    ∀ {index : Nat} {files : List (String × String)} {st st' : WatchState},
      (∀ j, index ≤ j → j < index + files.length → st.modifiedFiles[j]? = some (last j)) →
      watchPass senderAddr probe index files st = .ok st' →
      st'.engines = reloadChanged senderAddr last probe index files st.engines ∧
        ∀ j, st'.modifiedFiles[j]? =
          if index ≤ j ∧ j < index + files.length then
            some ((probe j).metadata.recorded (last j))
          else st.modifiedFiles[j]?
  | _, [], _, _, _, h => by
    cases h
    exact ⟨rfl, fun j => (if_neg fun ⟨_, hj⟩ => by simp at hj; omega).symm⟩
  | index, file :: files, st, st', hlast, h => by
    obtain ⟨mid, ha, hp⟩ := watchPass_cons_ok.mp h
    obtain ⟨he, hm⟩ := watchArtifact_reload (hlast index le_rfl (by simp)) ha
    obtain ⟨he', hm'⟩ := watchPass_reload (fun j h1 h2 => by
      rw [hm, if_neg (by omega)]
      exact hlast j (by omega) (by simp; omega)) hp
    refine ⟨he'.trans (by rw [he]; rfl), fun j => ?_⟩
    rw [hm', hm]
    simp only [List.length_cons]
    split_ifs <;> first | rfl | omega | (subst_vars; rfl)

/-- A poll changes ENGINES and the timestamps only through its pass. -/
theorem watchPoll_pass {wasmFiles : List (String × String)}
    (h : watchPoll senderAddr wasmFiles probe st = .ok st') :
    ∃ mid, watchPass senderAddr probe 0 wasmFiles st = .ok mid ∧ st'.engines = mid.engines ∧
      st'.modifiedFiles = mid.modifiedFiles := by
  cases wasmFiles with
  | nil => exact ⟨st, rfl, by cases watchPoll_nil.symm.trans h; exact ⟨rfl, rfl⟩⟩
  | cons first rest =>
    obtain ⟨mid, hp, rfl⟩ := Except.map_eq_ok.mp h
    exact ⟨mid, hp, rfl, rfl⟩

end

/-! ## Every run -/

section
variable {senderAddr : String} {wasmFiles : List (String × String)} {env : Nat → Nat → Probe}
  {now : Nat}

/-- A poll against the times last read before it is `reloadChanged`, and records the times it
reads. -/
theorem watchPoll_reload {n : Nat} {st st' : WatchState}
    (hst : st.modifiedFiles = (List.range wasmFiles.length).map fun i => lastRead env now i n)
    (hp : watchPoll senderAddr wasmFiles (env n) st = .ok st') :
    st'.engines =
        reloadChanged senderAddr (fun i => lastRead env now i n) (env n) 0 wasmFiles st.engines ∧
      st'.modifiedFiles = (List.range wasmFiles.length).map fun i => lastRead env now i (n + 1) := by
  obtain ⟨mid, hpass, he, hm⟩ := watchPoll_pass hp
  obtain ⟨hr, hmid⟩ := @watchPass_reload senderAddr (env n) (fun i => lastRead env now i n) 0
    wasmFiles st mid (fun j _ hj => by rw [hst, List.getElem?_map, List.getElem?_range (by simpa using hj)]; rfl)
    hpass
  refine ⟨he.trans hr, hm.trans (List.ext_getElem? fun j => ?_)⟩
  rw [hmid, hst]
  by_cases hj : j < wasmFiles.length
  · rw [if_pos ⟨Nat.zero_le j, by simpa using hj⟩, List.getElem?_map, List.getElem?_range hj]
    rfl
  · rw [if_neg fun ⟨_, h⟩ => hj (by simpa using h), List.getElem?_map, List.getElem?_map,
      List.getElem?_eq_none (by simpa using hj)]
    rfl

/-- After `n` polls the timestamp list holds, for each artifact, the last time read. -/
theorem watchAndUpdate_modifiedFiles :
    ∀ {n : Nat} {st : WatchState}, watchAndUpdate senderAddr wasmFiles env now n = .ok st →
      st.modifiedFiles = (List.range wasmFiles.length).map fun i => lastRead env now i n
  | 0, st, h => by
    cases h
    simp [initialWatch, lastRead, List.map_const']
  | _ + 1, _, h => by
    obtain ⟨st, hn, hp⟩ := watchRun_succ_ok.mp h
    exact (watchPoll_reload (watchAndUpdate_modifiedFiles hn) hp).2

/-- Every poll rebuilds, in order, exactly the artifacts whose modification time is not the one
last read, or cannot be read; and the timestamp list holds the last times read. -/
theorem watchAndUpdate_reloadChanged {n : Nat} {st' : WatchState}
    (h : watchAndUpdate senderAddr wasmFiles env now (n + 1) = .ok st') :
    ∃ st, watchAndUpdate senderAddr wasmFiles env now n = .ok st ∧
      st'.engines =
        reloadChanged senderAddr (fun i => lastRead env now i n) (env n) 0 wasmFiles st.engines ∧
      st'.modifiedFiles = (List.range wasmFiles.length).map fun i => lastRead env now i (n + 1) := by
  obtain ⟨st, hn, hp⟩ := watchRun_succ_ok.mp h
  exact ⟨st, hn, watchPoll_reload (watchAndUpdate_modifiedFiles hn) hp⟩

/-- Once no artifact's modification time changes from poll `k` on, the later polls rebuild
nothing: ENGINES stays as poll `k` left it. -/
theorem watchAndUpdate_steady {k : Nat} {st : WatchState}
    (hsteady : ∀ i < wasmFiles.length, ∃ t, ∀ j, k ≤ j → (env j i).metadata = .modified t)
    (hk : watchAndUpdate senderAddr wasmFiles env now (k + 1) = .ok st) :
    ∀ {n : Nat} {st' : WatchState},
      watchAndUpdate senderAddr wasmFiles env now (k + 1 + n) = .ok st' → st'.engines = st.engines
  | 0, st', h => by cases hk.symm.trans h; rfl
  | n + 1, st', h => by
    obtain ⟨mid, hmid, he, -⟩ := @watchAndUpdate_reloadChanged senderAddr wasmFiles env now
      (k + 1 + n) st' h
    rw [he, reloadChanged_unchanged, watchAndUpdate_steady hsteady hk hmid]
    intro j _ hj
    obtain ⟨t, ht⟩ := hsteady j (by simpa using hj)
    rw [Nat.add_right_comm k 1 n, ht (k + n + 1) (by omega),
      lastRead_of_modified (ht (k + n) (by omega)), Metadata.changed_modified_self]

end

theorem watchAndUpdate_reloadChanged_counter :
    ∃ st', watchAndUpdate SENDER_ADDR [("artifacts/counter.wasm", "counter")]
        (fun k _ => ⟨.modified (k / 2 + 1), .ok ⟨[k.toUInt8], ⟨[], [], [], []⟩⟩⟩) 0 3 = .ok st' ∧
      ∃ st, watchAndUpdate SENDER_ADDR [("artifacts/counter.wasm", "counter")]
          (fun k _ => ⟨.modified (k / 2 + 1), .ok ⟨[k.toUInt8], ⟨[], [], [], []⟩⟩⟩) 0 2 = .ok st ∧
        st'.engines = reloadChanged SENDER_ADDR
          (fun i => lastRead (fun k _ => ⟨.modified (k / 2 + 1), .ok ⟨[k.toUInt8], ⟨[], [], [], []⟩⟩⟩) 0 i 2)
          ((fun k _ => ⟨.modified (k / 2 + 1), .ok ⟨[k.toUInt8], ⟨[], [], [], []⟩⟩⟩) 2)
          0 [("artifacts/counter.wasm", "counter")] st.engines ∧
        st'.modifiedFiles = (List.range [("artifacts/counter.wasm", "counter")].length).map
          fun i => lastRead (fun k _ => ⟨.modified (k / 2 + 1), .ok ⟨[k.toUInt8], ⟨[], [], [], []⟩⟩⟩) 0 i 3 :=
  (fun h => ⟨_, h, watchAndUpdate_reloadChanged h⟩) rfl

/-- `counter.wasm` is rewritten once, before poll 1, and then left alone: polls 2 to 4 load
nothing, though each would load other code. -/
theorem watchAndUpdate_steady_counter :
    (∀ i < [("artifacts/counter.wasm", "counter")].length, ∃ t, ∀ j, 1 ≤ j →
      ((fun k _ => ⟨.modified (min k 1), .ok ⟨[k.toUInt8], ⟨[], [], [], []⟩⟩⟩ : Nat → Nat → Probe)
        j i).metadata = .modified t) ∧
    ∃ st st', watchAndUpdate SENDER_ADDR [("artifacts/counter.wasm", "counter")]
        (fun k _ => ⟨.modified (min k 1), .ok ⟨[k.toUInt8], ⟨[], [], [], []⟩⟩⟩) 7 (1 + 1) = .ok st ∧
      watchAndUpdate SENDER_ADDR [("artifacts/counter.wasm", "counter")]
        (fun k _ => ⟨.modified (min k 1), .ok ⟨[k.toUInt8], ⟨[], [], [], []⟩⟩⟩) 7 (1 + 1 + 3) = .ok st' ∧
      st'.engines = st.engines := by
  have hsteady : ∀ i < [("artifacts/counter.wasm", "counter")].length, ∃ t, ∀ j, 1 ≤ j →
      ((fun k _ => ⟨.modified (min k 1), .ok ⟨[k.toUInt8], ⟨[], [], [], []⟩⟩⟩ : Nat → Nat → Probe)
        j i).metadata = .modified t :=
    fun _ _ => ⟨1, fun j hj => by simp [Nat.min_eq_right hj]⟩
  obtain ⟨st, hk⟩ : ∃ st, watchAndUpdate SENDER_ADDR [("artifacts/counter.wasm", "counter")]
      (fun k _ => ⟨.modified (min k 1), .ok ⟨[k.toUInt8], ⟨[], [], [], []⟩⟩⟩) 7 (1 + 1) = .ok st :=
    ⟨_, rfl⟩
  obtain ⟨st', h⟩ : ∃ st', watchAndUpdate SENDER_ADDR [("artifacts/counter.wasm", "counter")]
      (fun k _ => ⟨.modified (min k 1), .ok ⟨[k.toUInt8], ⟨[], [], [], []⟩⟩⟩) 7 (1 + 1 + 3) =
        .ok st' :=
    ⟨_, rfl⟩
  exact ⟨hsteady, st, st', hk, h, watchAndUpdate_steady hsteady hk h⟩

end CosmwasmSimulate
