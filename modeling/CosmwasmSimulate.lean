import CosmwasmSimulate.Json
import CosmwasmSimulate.Message
import CosmwasmSimulate.Registry
import CosmwasmSimulate.Artifacts
import CosmwasmSimulate.Watcher
import CosmwasmSimulate.Session
import CosmwasmSimulate.Server
import CosmwasmSimulate.Program
import CosmwasmSimulate.System
import CosmwasmSimulate.Reload
import CosmwasmSimulate.Refinement
import CosmwasmSimulate.Threads
import CosmwasmSimulate.Isolation
import CosmwasmSimulate.Roundtrip
