import Mathlib.Data.List.Sublists
import Mathlib.Data.String.Basic

/-!
# Loading the artifact list

`load_artifacts` turns the artifact named on the command line into the list of
`(wasm file, contract address)` pairs the watcher tracks. The main artifact's address is its
file stem. With `--contract <folder>`, every directory `d` of `<parent>/<folder>` holding a file
`d/d.wasm` adds `(d/d.wasm, d)`.

The file system is a parameter. `FileSystem` carries the one fact about it the proofs use: a
directory lists each name once. Paths are strings, joined as `PathBuf::push` joins them.

* `loadArtifacts_addresses`: the main artifact comes first, and the companion artifacts have
  pairwise distinct addresses.
* `loadArtifacts_files`: every artifact listed was a file; the others are `<d>/<d>.wasm` in the
  folder, addressed `d`.
* `loadArtifacts_duplicate`: the main artifact's stem is never compared with them. The layout
  `artifacts/a/a.wasm` with `-c ..` lists the address `a` twice.

main.rs's `Result<T, E>` is modelled as `Except E T`, and its `?` and `match` chains as
`Except.bind` and `Except.map`. The lemmas of the first section take a finished chain apart, so
that a proof about a loop built from such chains (here and in the watcher) names the step that
failed or the value each step passed on, and never unfolds `bind`.
-/

namespace CosmwasmSimulate

/-! ## Results -/

namespace Except

variable {ε α β : Type} {x : Except ε α}

theorem bind_eq_ok {f : α → Except ε β} {b : β} :
    x.bind f = .ok b ↔ ∃ a, x = .ok a ∧ f a = .ok b := by
  cases x <;> simp [Except.bind]

theorem bind_eq_error {f : α → Except ε β} {e : ε} :
    x.bind f = .error e ↔ x = .error e ∨ ∃ a, x = .ok a ∧ f a = .error e := by
  cases x <;> simp [Except.bind]

theorem map_eq_ok {f : α → β} {b : β} : x.map f = .ok b ↔ ∃ a, x = .ok a ∧ f a = b := by
  cases x <;> simp [Except.map]

theorem map_eq_error {f : α → β} {e : ε} : x.map f = .error e ↔ x = .error e := by
  cases x <;> simp [Except.map]

end Except

/-! ## The file system -/

/-- `std::io::ErrorKind`, as far as `load_artifacts` makes errors itself. -/
inductive ErrorKind
  | invalidInput
  | notFound
  | other
deriving DecidableEq, Repr

/-- `std::io::Error`: a kind and a message. -/
structure IoError where
  kind : ErrorKind
  msg : String
deriving DecidableEq, Repr

/-- The names of the listed entries that are valid UTF-8 (`file_name().to_str()`). -/
def entryNames (entries : List (Except IoError (Option String))) : List String :=
  entries.filterMap fun e => match e with
    | .ok (some name) => some name
    | _ => none

/-- The file system as `load_artifacts` sees it. `readDir` is `fs::read_dir`: the directory's
entries (each an error, a name that is not UTF-8, or a name), or the error of reading it. -/
structure FileSystem where
  isFile : String → Bool
  isDir : String → Bool
  readDir : String → Except IoError (List (Except IoError (Option String)))
  readDir_nodup : ∀ d entries, readDir d = .ok entries → (entryNames entries).Nodup

/-! ## Paths -/

/-- `Path::new(base).join(p)`: `p` itself when it is absolute, otherwise `p` after `base` and a
separator, unless `base` is empty or already ends in one. -/
def pathJoin (base p : String) : String :=
  if p.data.head? = some '/' then p
  else if base.data = [] ∨ base.data.getLast? = some '/' then base ++ p
  else base ++ "/" ++ p

/-- `str::ends_with`. -/
def endsWith (s suffix : String) : Bool := suffix.data.isSuffixOf s.data

/-- `str::rfind(c)`: the position of the last `c`. -/
def rfind (s : String) (c : Char) : Option Nat :=
  ((List.range s.data.length).filter fun i => s.data[i]? = some c).getLast?

/-- `Path::file_stem` of a path whose last component is a plain name (as is any path ending in
`.wasm`): the name after the last `/`, without its extension; a name whose only dot leads keeps
it. -/
def fileStem (path : String) : String :=
  let name : String := match rfind path '/' with
    | none => path
    | some i => ⟨path.data.drop (i + 1)⟩
  match rfind name '.' with
  | none => name
  | some 0 => name
  | some i => ⟨name.data.take i⟩

/-! ## `load_artifacts` -/

/-- The loop over the folder's entries: `entry?`, then the UTF-8 name `d`, then `d/d.wasm` when
it is a file. -/
def readEntries (fs : FileSystem) (folder : String) :
    List (Except IoError (Option String)) → Except IoError (List (String × String))
  | [] => .ok []
  | .error e :: _ => .error e
  | .ok none :: entries => readEntries fs folder entries
  | .ok (some contractAddr) :: entries =>
    let wasmFile := pathJoin (pathJoin folder contractAddr) (contractAddr ++ ".wasm")
    if fs.isFile wasmFile then
      (readEntries fs folder entries).map ((wasmFile, contractAddr) :: ·)
    else readEntries fs folder entries

def loadArtifacts (fs : FileSystem) (filePath : String) (contractFolder : Option String) :
    Except IoError (List (String × String)) :=
  if !endsWith filePath ".wasm" then .error ⟨.invalidInput, filePath⟩
  else if !fs.isFile filePath then .error ⟨.notFound, filePath⟩
  else
    let filePaths := [(filePath, fileStem filePath)]
    match rfind filePath '/' with
    | none => .ok filePaths
    | some seg =>
      let parentPath : String := ⟨filePath.data.take seg⟩
      match contractFolder with
      | none => .ok filePaths
      | some folder =>
        let artifactsFolder := pathJoin parentPath folder
        if fs.isDir artifactsFolder then
          (fs.readDir artifactsFolder).bind fun entries =>
            (readEntries fs artifactsFolder entries).map (filePaths ++ ·)
        else .ok filePaths

/-! ## Addresses -/

/-- The folder's artifacts are named by entries of the listing, in its order. -/
theorem readEntries_sublist {fs : FileSystem} {folder : String} :
    ∀ {entries : List (Except IoError (Option String))} {out : List (String × String)},
      readEntries fs folder entries = .ok out → (out.map Prod.snd).Sublist (entryNames entries)
  | [], out, h => by cases h; exact List.Sublist.slnil
  | .error e :: _, out, h => by cases h
  | .ok none :: entries, out, h => by
    simpa [entryNames] using @readEntries_sublist fs folder entries out h
  | .ok (some name) :: entries, out, h => by
    simp only [readEntries] at h
    split_ifs at h
    · obtain ⟨rest, hr, rfl⟩ := Except.map_eq_ok.mp h
      simpa [entryNames] using (readEntries_sublist hr).cons_cons name
    · simpa [entryNames] using (readEntries_sublist h).cons name

theorem readDir_entries {fs : FileSystem} {folder : String} {main : String × String}
    {l : List (String × String)}
    (h : ((fs.readDir folder).bind fun entries =>
      (readEntries fs folder entries).map ([main] ++ ·)) = .ok l) :
    ∃ rest, l = main :: rest ∧ (rest.map Prod.snd).Nodup := by
  obtain ⟨entries, hd, hm⟩ := Except.bind_eq_ok.mp h
  obtain ⟨out, hr, rfl⟩ := Except.map_eq_ok.mp hm
  exact ⟨out, rfl, (fs.readDir_nodup _ _ hd).sublist (readEntries_sublist hr)⟩

/-- What `load_artifacts` returns: the main artifact, named by its file stem, then artifacts of
the folder with pairwise distinct addresses. -/
theorem loadArtifacts_ok {fs : FileSystem} {filePath : String} {contractFolder : Option String}
    {l : List (String × String)} (h : loadArtifacts fs filePath contractFolder = .ok l) :
    ∃ rest, l = (filePath, fileStem filePath) :: rest ∧ (rest.map Prod.snd).Nodup := by
  unfold loadArtifacts at h
  split_ifs at h
  split at h
  · cases h; simp
  · split at h
    · cases h; simp
    · dsimp only at h
      split_ifs at h
      · exact readDir_entries h
      · cases h; simp

/-- The main artifact comes first, and the artifacts found in the folder have pairwise distinct
addresses. -/
theorem loadArtifacts_addresses {fs : FileSystem} {filePath : String}
    {contractFolder : Option String} {l : List (String × String)}
    (h : loadArtifacts fs filePath contractFolder = .ok l) :
    l.head? = some (filePath, fileStem filePath) ∧ (l.tail.map Prod.snd).Nodup := by
  obtain ⟨rest, rfl, hn⟩ := loadArtifacts_ok h
  exact ⟨rfl, hn⟩

theorem loadArtifacts_addresses_contracts :
    ∃ fs : FileSystem, ∃ l, loadArtifacts fs "artifacts/main.wasm" (some "contracts") = .ok l ∧
      l.head? = some ("artifacts/main.wasm", fileStem "artifacts/main.wasm") ∧
      (l.tail.map Prod.snd).Nodup :=
  ⟨⟨fun p => p == "artifacts/main.wasm" || p == "artifacts/contracts/a/a.wasm" ||
      p == "artifacts/contracts/b/b.wasm",
      fun d => d == "artifacts/contracts",
      fun d => if d = "artifacts/contracts" then .ok [.ok (some "a"), .ok none, .ok (some "b")]
        else .ok [],
      fun d entries h => by dsimp only at h; split at h <;> cases h <;> decide⟩,
    (fun h => ⟨_, h, loadArtifacts_addresses h⟩) rfl⟩

/-- Main artifact `artifacts/a/a.wasm` with `-c ..`: the folder `artifacts/a/..` holds the
directory `a` with `a.wasm` in it, so the address `a` is listed twice. -/
theorem loadArtifacts_duplicate :
    ∃ fs : FileSystem,
      loadArtifacts fs "artifacts/a/a.wasm" (some "..") =
        .ok [("artifacts/a/a.wasm", "a"), ("artifacts/a/../a/a.wasm", "a")] ∧
      ¬ ([("artifacts/a/a.wasm", "a"), ("artifacts/a/../a/a.wasm", "a")].map Prod.snd).Nodup :=
  ⟨⟨fun p => p == "artifacts/a/a.wasm" || p == "artifacts/a/../a/a.wasm",
      fun d => d == "artifacts/a/..",
      fun d => if d = "artifacts/a/.." then .ok [.ok (some "a")] else .ok [],
      fun d entries h => by dsimp only at h; split at h <;> cases h <;> decide⟩,
    rfl, by decide⟩

/-! ## Files -/

/-- Every artifact the folder contributes is `<d>/<d>.wasm` for one of its entries `d`, and it was
a file when listed. -/
theorem readEntries_files {fs : FileSystem} {folder : String} :
    ∀ {entries : List (Except IoError (Option String))} {out : List (String × String)},
      readEntries fs folder entries = .ok out →
      ∀ p ∈ out, p.1 = pathJoin (pathJoin folder p.2) (p.2 ++ ".wasm") ∧ fs.isFile p.1 = true
  | [], out, h => by cases h; simp
  | .error e :: _, out, h => by cases h
  | .ok none :: entries, out, h => @readEntries_files fs folder entries out h
  | .ok (some name) :: entries, out, h => by
    simp only [readEntries] at h
    split_ifs at h with hf
    · obtain ⟨rest, hr, rfl⟩ := Except.map_eq_ok.mp h
      exact List.forall_mem_cons.mpr ⟨⟨rfl, hf⟩, readEntries_files hr⟩
    · exact readEntries_files h

/-- Every artifact `load_artifacts` returns was a file when it looked. The main one ends in
`.wasm`; every other one is `<d>/<d>.wasm`, named `d`, in the folder `contract_folder` next to
the main one. -/
theorem loadArtifacts_files {fs : FileSystem} {filePath : String} {contractFolder : Option String}
    {l : List (String × String)} (h : loadArtifacts fs filePath contractFolder = .ok l) :
    endsWith filePath ".wasm" = true ∧ (∀ p ∈ l, fs.isFile p.1 = true) ∧
      ∀ p ∈ l.tail, ∃ seg folder, rfind filePath '/' = some seg ∧ contractFolder = some folder ∧
        p.1 = pathJoin (pathJoin (pathJoin ⟨filePath.data.take seg⟩ folder) p.2) (p.2 ++ ".wasm") := by
  unfold loadArtifacts at h
  split_ifs at h with hw hf
  have hf' : fs.isFile filePath = true := by simpa using hf
  refine ⟨by simpa using hw, ?_⟩
  cases hseg : rfind filePath '/' with
  | none => simp only [hseg, Except.ok.injEq] at h; subst h; simp [hf']
  | some seg =>
    cases contractFolder with
    | none => simp only [hseg, Except.ok.injEq] at h; subst h; simp [hf']
    | some folder =>
      simp only [hseg] at h
      split_ifs at h
      · obtain ⟨entries, -, hm⟩ := Except.bind_eq_ok.mp h
        obtain ⟨out, hr, rfl⟩ := Except.map_eq_ok.mp hm
        have hout := readEntries_files hr
        exact ⟨List.forall_mem_cons.mpr ⟨hf', fun p hp => (hout p hp).2⟩,
          fun p hp => ⟨seg, folder, rfl, rfl, (hout p hp).1⟩⟩
      · cases h; simp [hf']

theorem loadArtifacts_files_contracts :
    ∃ fs : FileSystem, ∃ l, loadArtifacts fs "artifacts/main.wasm" (some "contracts") = .ok l ∧
      endsWith "artifacts/main.wasm" ".wasm" = true ∧ (∀ p ∈ l, fs.isFile p.1 = true) ∧
      ∀ p ∈ l.tail, ∃ seg folder, rfind "artifacts/main.wasm" '/' = some seg ∧
        some "contracts" = some folder ∧
        p.1 = pathJoin (pathJoin (pathJoin ⟨"artifacts/main.wasm".data.take seg⟩ folder) p.2)
          (p.2 ++ ".wasm") :=
  ⟨⟨fun p => p == "artifacts/main.wasm" || p == "artifacts/contracts/a/a.wasm",
      fun d => d == "artifacts/contracts",
      fun d => if d = "artifacts/contracts" then .ok [.ok (some "a"), .ok (some "b")] else .ok [],
      fun d entries h => by dsimp only at h; split at h <;> cases h <;> decide⟩,
    (fun h => ⟨_, h, loadArtifacts_files h⟩) rfl⟩

end CosmwasmSimulate
