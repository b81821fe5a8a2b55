import CosmwasmSimulate.Json
import CosmwasmSimulate.Registry

/-!
# The REST routes and the contracts' own queries

`call_engine` serves `/wasm/contract/<address>/<init|handle|query>/<msg>`: it looks the address
up, decodes `msg` as base64 and then as UTF-8, and calls the engine. The three routes write the
answer with `format!`, as `{"data": <result>}` or `{"error": "<message>"}`, without escaping
anything. `query_wasm` answers the queries a contract makes of other contracts.

The base64 and UTF-8 decoders and the VM's `call` and `call_query` are outside main.rs, and are
parameters here.

* `contract_error_json`: an error answer is the JSON object `{"error": <message>}` whenever the
  message needs no escaping.
* `contract_error_malformed`: an address with a `"` in it gives an answer that is not JSON.
* `callEngine_spec`: a request fails and leaves ENGINES as it was, or replaces the instance at
  its address by the one the call leaves; it never registers an address.
-/

namespace CosmwasmSimulate

section
variable (base64Decode : String → Except String (List UInt8))
  (fromUtf8 : List UInt8 → Except String String)
  (call : ContractInstance → String → String → ContractInstance × String)

/-- `call_engine`: the answer, and ENGINES after the call (the engine is called in place). -/
def callEngine (engines : Engines) (contractAddr funcType msg : String) :
    Except String String × Engines :=
  match engines.lookup contractAddr with
  | none => (.error ("No such contract: " ++ contractAddr), engines)
  | some engine =>
    match base64Decode msg with
    | .error err => (.error err, engines)
    | .ok input =>
      match fromUtf8 input with
      | .error err => (.error err, engines)
      | .ok param =>
        let (engine, data) := call engine funcType param
        (.ok data, engines.insert contractAddr engine)

/-- The body the three routes answer with, as their `format!` strings write it. -/
def contractResponse : Except String String → String
  | .ok data => "\x7b\"data\": " ++ data ++ "\x7d"
  | .error err => "\x7b\"error\": \"" ++ err ++ "\"\x7d"

/-- The route for one entry point. -/
def contractRoute (funcType : String) (engines : Engines) (address msg : String) :
    String × Engines :=
  let (result, engines) := callEngine base64Decode fromUtf8 call engines address funcType msg
  (contractResponse result, engines)

/-- `init_contract`. -/
def initContract (engines : Engines) (address msg : String) : String × Engines :=
  contractRoute base64Decode fromUtf8 call "init" engines address msg

/-- `handle_contract`. -/
def handleContract (engines : Engines) (address msg : String) : String × Engines :=
  contractRoute base64Decode fromUtf8 call "handle" engines address msg

/-- `query_contract`. -/
def queryContract (engines : Engines) (address msg : String) : String × Engines :=
  contractRoute base64Decode fromUtf8 call "query" engines address msg

theorem callEngine_unregistered {engines : Engines} {contractAddr : String}
    (h : contractAddr ∉ engines) (funcType msg : String) :
    callEngine base64Decode fromUtf8 call engines contractAddr funcType msg =
      (.error ("No such contract: " ++ contractAddr), engines) := by
  simp [callEngine, AList.lookup_eq_none.mpr h]

/-- What `call_engine` does: it fails and leaves ENGINES as it was, or it finds the engine at the
address, decodes the payload, and answers with the call's data, the instance there replaced by
the one the call leaves. -/
theorem callEngine_spec (engines : Engines) (contractAddr funcType msg : String) :
    (∃ err, callEngine base64Decode fromUtf8 call engines contractAddr funcType msg =
        (.error err, engines)) ∨
      ∃ engine param, engines.lookup contractAddr = some engine ∧
        callEngine base64Decode fromUtf8 call engines contractAddr funcType msg =
          (.ok (call engine funcType param).2,
            engines.insert contractAddr (call engine funcType param).1) := by
  unfold callEngine
  split
  · exact .inl ⟨_, rfl⟩
  · next engine he =>
    split
    · exact .inl ⟨_, rfl⟩
    · split
      · exact .inl ⟨_, rfl⟩
      · next param _ => exact .inr ⟨engine, param, he, rfl⟩

/-- A failed call leaves ENGINES as it was. -/
theorem callEngine_error_engines {engines : Engines} {contractAddr funcType msg err : String}
    (h : (callEngine base64Decode fromUtf8 call engines contractAddr funcType msg).1 = .error err) :
    (callEngine base64Decode fromUtf8 call engines contractAddr funcType msg).2 = engines := by
  rcases callEngine_spec base64Decode fromUtf8 call engines contractAddr funcType msg with
    ⟨_, he⟩ | ⟨_, _, _, he⟩
  · rw [he]
  · rw [he] at h
    cases h

end

/-- The error answer, when the message needs no escaping, is the one-member object
`{"error": <message>}`. -/
theorem errorResponse_json {err : String} (h : ∀ c ∈ err.data, Json.Unescaped c) :
    Json.stringObject (contractResponse (.error err)).data = some [("error", err)] := by
  have hbody : (contractResponse (.error err)).data =
      '\x7b' :: '"' :: ("error".data ++ '"' :: ':' :: ' ' :: '"' :: (err.data ++ ['"', '\x7d'])) := by
    simp [contractResponse]
  rw [hbody, Json.stringObject_single (by decide) h]

section
variable (base64Decode : String → Except String (List UInt8))
  (fromUtf8 : List UInt8 → Except String String)
  (call : ContractInstance → String → String → ContractInstance × String)

/-- Whenever `call_engine` fails with a message that needs no escaping, each of the three routes
answers with the JSON object whose one member `error` is that message. -/
theorem contract_error_json (engines : Engines) (address msg err : String)
    (hsafe : ∀ c ∈ err.data, Json.Unescaped c) :
    ((callEngine base64Decode fromUtf8 call engines address "init" msg).1 = .error err →
      Json.stringObject (initContract base64Decode fromUtf8 call engines address msg).1.data =
        some [("error", err)]) ∧
    ((callEngine base64Decode fromUtf8 call engines address "handle" msg).1 = .error err →
      Json.stringObject (handleContract base64Decode fromUtf8 call engines address msg).1.data =
        some [("error", err)]) ∧
    ((callEngine base64Decode fromUtf8 call engines address "query" msg).1 = .error err →
      Json.stringObject (queryContract base64Decode fromUtf8 call engines address msg).1.data =
        some [("error", err)]) := by
  refine ⟨fun h => ?_, fun h => ?_, fun h => ?_⟩ <;>
    simpa [initContract, handleContract, queryContract, contractRoute, h] using
      errorResponse_json hsafe

theorem contract_error_json_counter :
    Json.stringObject (initContract (fun _ => .error "Invalid byte 61, offset 0.")
        (fun _ => .error "invalid utf-8") (fun e _ _ => (e, "")) ∅ "counter" "e30=").1.data =
      some [("error", "No such contract: counter")] :=
  (contract_error_json (fun _ => .error "Invalid byte 61, offset 0.") (fun _ => .error "invalid utf-8")
    (fun e _ _ => (e, "")) ∅ "counter" "e30=" "No such contract: counter" (by decide)).1 rfl

end

/-- For an unregistered address the message is `No such contract: <address>`, put between
quotes as it is: the address `a"b` makes the answer `{"error": "No such contract: a"b"}`, which
is not JSON. -/
theorem contract_error_malformed :
    (initContract (fun _ => .ok [123, 125]) (fun _ => .ok "\x7b\x7d") (fun e _ _ => (e, "null"))
        ∅ "a\"b" "e30=").1 = "\x7b\"error\": \"No such contract: a\"b\"\x7d" ∧
      Json.stringObject (initContract (fun _ => .ok [123, 125]) (fun _ => .ok "\x7b\x7d")
        (fun e _ _ => (e, "null")) ∅ "a\"b" "e30=").1.data = none := by
  simp only [initContract, contractRoute,
    callEngine_unregistered _ _ _ (AList.not_mem_empty _)]
  decide

/-! ## Queries between contracts -/

/-- `cosmwasm_std::WasmQuery`. -/
inductive WasmQuery
  | smart (contractAddr : String) (msg : List UInt8)
  | raw (contractAddr : String) (key : List UInt8)
deriving DecidableEq, Repr

/-- `cosmwasm_std::SystemError`, as far as `query_wasm` makes errors. -/
inductive SystemError
  | noSuchContract (addr : String)
  | invalidResponse (error : String) (response : List UInt8)
  | unsupportedRequest (kind : String)
deriving DecidableEq, Repr

/-- `QuerierResult`: a system error, or the contract's own answer (its error or its bytes). -/
inductive QuerierResult
  | ok (response : Except String (List UInt8))
  | err (error : SystemError)

/-- `query_wasm`, the querier handed to every instance: a smart query goes to the registered
contract through `cosmwasm_vm::call_query` (modelled by `callQuery`); anything else is
unsupported. -/
def queryWasm (callQuery : ContractInstance → List UInt8 → Except String (Except String (List UInt8)))
    (engines : Engines) (request : WasmQuery) : QuerierResult :=
  match request with
  | .smart contractAddr msg =>
    match engines.lookup contractAddr with
    | none => .err (.noSuchContract contractAddr)
    | some engine =>
      match callQuery engine msg with
      | .ok response => .ok response
      | .error err => .err (.invalidResponse err [])
  | _ => .err (.unsupportedRequest "Not implemented")

/-- A contract's query fails with `NoSuchContract` exactly when it is a smart query to an
unregistered address, and then it names that address. -/
theorem queryWasm_noSuchContract
    (callQuery : ContractInstance → List UInt8 → Except String (Except String (List UInt8)))
    (engines : Engines) (request : WasmQuery) (addr : String) :
    queryWasm callQuery engines request = .err (.noSuchContract addr) ↔
      ∃ msg, request = .smart addr msg ∧ addr ∉ engines := by
  rw [← AList.lookup_eq_none]
  cases request with
  | raw a key => simp [queryWasm]
  | smart a msg =>
    cases hl : engines.lookup a with
    | none =>
      simp only [queryWasm, hl, QuerierResult.err.injEq, SystemError.noSuchContract.injEq,
        WasmQuery.smart.injEq]
      exact ⟨fun h => ⟨msg, ⟨h, rfl⟩, h ▸ hl⟩, fun ⟨_, ⟨h, _⟩, _⟩ => h⟩
    | some engine =>
      simp only [queryWasm, hl]
      constructor
      · split <;> simp
      · rintro ⟨_, ⟨rfl, rfl⟩, h⟩
        simp [hl] at h

end CosmwasmSimulate
