import Mathlib.Data.List.AList
import Mathlib.Logic.Relation
import CosmwasmSimulate.Message

/-!
# Contract instances and the registry `ENGINES`

`ENGINES` is main.rs's `HashMap<String, ContractInstance>`: one live instance per contract
address. It is modelled as an `AList`, whose keys are distinct by construction, so "at most one
instance per address" holds of every registry that can be written down.

`ContractInstance` lives in `contract_vm/engine.rs`, which is not under `src/`. The model keeps
the fields main.rs reads (the schema, the bound address, the sender, the storage) and models
`ContractInstance::new_instance` from the spec: loading the artifact either fails or yields a
module, which is bound to the address with its storage seeded from the snapshot given.

* `insertEngine_lookup`: `insert_engine` changes the registry at its address only, and there
  only when construction succeeds.
* `Engines.Bound`: every registered instance is bound to the address it is registered under,
  with the simulator's sender; `insertEngine` keeps it.
-/

namespace CosmwasmSimulate

/-- `SENDER_ADDR`: the sender of every simulated call. -/
def SENDER_ADDR : String := "fake_sender_addr"

/-- `MockStorage`: the contract's key-value store, an opaque snapshot carried across a
rebuild. -/
structure MockStorage where
  entries : List (List UInt8 × List UInt8)
deriving DecidableEq, Repr

/-- `MockStorage::default()`: the empty store. -/
def MockStorage.default : MockStorage := ⟨[]⟩

/-- What the VM makes of an artifact when it loads it: the code, and the schema read from it. -/
structure Module where
  code : List UInt8
  analyzer : Analyzer
deriving DecidableEq, Repr

/-- A live contract: its code and schema, `env.contract.address`, the sender, its storage. -/
structure ContractInstance where
  code : List UInt8
  analyzer : Analyzer
  address : String
  sender : String
  storage : MockStorage
deriving DecidableEq, Repr

/-- Modelled from the spec: `ContractInstance::new_instance` (contract_vm/engine.rs is not under
`src/`). `load` is what loading the artifact gives at that moment: the failure (a missing or
invalid file, or an instantiation the VM rejects) or the module. On success the module is bound
to `contractAddr` and `senderAddr`, its storage seeded from `storage`. -/
def newInstance (load : Except String Module) (contractAddr senderAddr : String)
    (storage : MockStorage) : Except String ContractInstance :=
  load.map fun m => ⟨m.code, m.analyzer, contractAddr, senderAddr, storage⟩

/-- `ENGINES`: at most one instance per contract address. -/
abbrev Engines := AList fun _ : String => ContractInstance

/-- `insert_engine`: build the instance and register it; a failed construction is printed
(`error occurred during install contract`) and leaves the registry as it was. -/
def insertEngine (engines : Engines) (load : Except String Module)
    (contractAddr senderAddr : String) (storage : MockStorage) : Engines :=
  match newInstance load contractAddr senderAddr storage with
  | .error _ => engines
  | .ok engine => engines.insert contractAddr engine

@[simp] theorem insertEngine_error (engines : Engines) (e contractAddr senderAddr : String)
    (storage : MockStorage) :
    insertEngine engines (.error e) contractAddr senderAddr storage = engines := rfl

@[simp] theorem insertEngine_ok (engines : Engines) (m : Module) (contractAddr senderAddr : String)
    (storage : MockStorage) :
    insertEngine engines (.ok m) contractAddr senderAddr storage =
      engines.insert contractAddr ⟨m.code, m.analyzer, contractAddr, senderAddr, storage⟩ := rfl

theorem insertEngine_lookup (engines : Engines) (load : Except String Module)
    (contractAddr senderAddr : String) (storage : MockStorage) (k : String) :
    (insertEngine engines load contractAddr senderAddr storage).lookup k =
      if k = contractAddr then
        match load with
        | .error _ => engines.lookup k
        | .ok m => some ⟨m.code, m.analyzer, contractAddr, senderAddr, storage⟩
      else engines.lookup k := by
  cases load with
  | error e => simp
  | ok m =>
    by_cases hk : k = contractAddr
    · subst hk
      simp [AList.lookup_insert]
    · simp [hk, AList.lookup_insert_ne hk]

/-- Every registered instance is bound to the address it is registered under, and to the
simulator's sender. -/
def Engines.Bound (senderAddr : String) (engines : Engines) : Prop :=
  ∀ k e, engines.lookup k = some e → e.address = k ∧ e.sender = senderAddr

theorem Engines.bound_empty (senderAddr : String) : (∅ : Engines).Bound senderAddr := by
  intro k e h
  simp at h

theorem insertEngine_bound {senderAddr : String} {engines : Engines}
    (h : engines.Bound senderAddr) (load : Except String Module) (contractAddr : String)
    (storage : MockStorage) :
    (insertEngine engines load contractAddr senderAddr storage).Bound senderAddr := by
  intro k e he
  rw [insertEngine_lookup] at he
  split_ifs at he with hk
  · cases load with
    | error _ => exact h k e he
    | ok m =>
      cases he
      exact ⟨hk.symm, rfl⟩
  · exact h k e he

/-- `insert_engine` registers its address exactly when construction succeeds, and never drops a
registered contract. -/
theorem mem_insertEngine_iff {engines : Engines} {load : Except String Module}
    {contractAddr senderAddr : String} {storage : MockStorage} {k : String} :
    k ∈ insertEngine engines load contractAddr senderAddr storage ↔
      k ∈ engines ∨ (k = contractAddr ∧ ∃ m, load = .ok m) := by
  cases load with
  | error e => simp
  | ok m => simp [AList.mem_insert, or_comm]

end CosmwasmSimulate
