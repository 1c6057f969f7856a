/-
**The evcc client at the pipes of its engines** (`Engine` and `EvccClient` of
`dbus_ev/providers/evcc.py`).

The engines are peers that run by themselves: between any two steps of the client they take theirs.
The state file is left out, a save may only raise.

* `receive`, `enginePoll` — `Engine.poll`: bounded reads until the end of a line, a timeout, the end
  of the pipe or too many bytes.
* `engineClose` — `Engine.close`, which may raise at any of its calls.
* `pollEngine` — `_poll_engine` with its handler.
* `in_step` — in every run what a poll reads answers its own request, and a snapshot is stamped with
  the start of the poll that sampled it.
-/

import DbusEv.Engine.Pipe
import DbusEv.Lib.Threads
import DbusEv.Lib.Trace
import DbusEv.Providers.Evcc

set_option autoImplicit false
set_option linter.unusedSectionVars false

namespace DbusEv.Pipe

open Evcc (isCaught readingOf needsOperator isRateLimit)

/-- `MAX_REPLY`, and the most that is read at once. -/
def maxReply : ℕ := 65536
def chunkSize : ℕ := 4096

/-! ### The state -/

/-- An `Engine`: its process, and whether its selector and the pipe of its requests are open. -/
structure Handle where
  process : ℕ
  selector : Bool
  stdin : Bool

/-- The attributes of an `EvccClient` that the exchange touches. -/
structure Client where
  engine : Option Handle
  snapshot : Option Vehicle
  received : Option ℚ

/-- What happens at the pipes. -/
inductive Event
  /-- A poll begins. -/
  | began (call : Call)
  /-- Bytes are read in a call. -/
  | consumed (call : Call) (process : ℕ) (bytes : List Sent)
  /-- A call returns a response, which it read in these bytes. -/
  | answered (call : Call) (content : List Sent) (response : Dict PyValue)
  /-- A reading that was read in these bytes replaces the snapshot. -/
  | stamped (startedAt : ℚ) (content : List Sent) (vehicle : Vehicle)

/-- The engine processes, the monotonic clock, and what happened, newest first. -/
structure World where
  peers : ℕ → Peer
  /-- The next process, and the next call. -/
  born : ℕ
  calls : ℕ
  mono : ℚ
  trace : List Event

/-- What the environment decides at a step. -/
structure Answer where
  saves : Option PyError
  /-- Starting an engine. -/
  builds : Option PyError
  /-- Writing a request raises `BrokenPipeError`. -/
  breaks : Bool
  /-- The deadline passes. -/
  timesOut : Bool
  closes : Option PyError
  /-- A close that raises has closed the pipe of the requests. -/
  unplugs : Bool

abbrev State := Client × World

/-- A program of the client. -/
abbrev Program (α : Type) := Thread Answer State PyError α

/-- Read the state. -/
def look : Program State := Thread.atomic fun _ => Exec.read

/-- A value that could not be computed raises. -/
def ofExcept {α : Type} : Except PyError α → Program α
  | .ok value => pure value
  | .error e => Thread.raise e

/-- `_save(…)`. -/
def save : Program Unit := Thread.atomic fun answer =>
  match answer.saves with
  | some e => Exec.raise e
  | none => pure ()

namespace World

def note (world : World) (event : Event) : World := { world with trace := event :: world.trace }

/-- A peer changes. -/
def setPeer (world : World) (process : ℕ) (peer : Peer) : World :=
  { world with peers := Function.update world.peers process peer }

/-- The pipe of the requests of a peer is closed. -/
def hangUp (world : World) (process : ℕ) : World :=
  world.setPeer process { world.peers process with hungUp := true }

end World

/-! ### The engine -/

/-- `self.factory(…)`: a process with its two pipes. -/
def construct : Program Handle := Thread.atomic fun answer =>
  match answer.builds with
  | some e => Exec.raise e
  | none => do
    let (_, world) ← Exec.read
    let engine : Handle := ⟨world.born, true, true⟩
    Exec.change fun state => ({ state.1 with engine := some engine },
      { world.setPeer engine.process Peer.new with born := world.born + 1 })
    pure engine

/-- `if self.engine is None: self.engine = self.factory(…)`. -/
def ensureEngine : Program Handle := do
  let (client, _) ← look
  match client.engine with
  | some engine => pure engine
  | none => construct

/-- `self.process.stdin.write(b"poll\n")`. -/
def writeRequest (engine : Handle) (call : Call) : Program Unit := Thread.atomic fun answer => do
  let (_, world) ← Exec.read
  if !engine.stdin then Exec.raise .value
  else if answer.breaks then Exec.raise .os
  else
    let peer := world.peers engine.process
    Exec.change fun state => (state.1, world.setPeer engine.process
      { peer with requests := peer.requests ++ [⟨"poll", call⟩] })

/-- There is something to read, if only the end of the pipe. -/
def Peer.readable (peer : Peer) : Bool :=
  !peer.replies.isEmpty ||
    match peer.phase with
    | .exited _ => true
    | _ => false

/-- One turn of the loop of `Engine.poll`: the wait, and `os.read(…, 4096)`. -/
def readChunk (engine : Handle) (call : Call) : Program (List Sent) :=
  Thread.atomic fun answer => do
  let (_, world) ← Exec.read
  let peer := world.peers engine.process
  if answer.timesOut then Exec.raise .os
  else if !engine.selector then Exec.raise .value
  else if !peer.readable then Exec.raise .os
  else
    let chunk := peer.replies.take chunkSize
    if chunk.isEmpty then Exec.raise .runtime
    else do
      Exec.change fun state => (state.1,
        (world.setPeer engine.process { peer with replies := peer.replies.drop chunkSize }).note
          (.consumed call engine.process chunk))
      pure chunk

/-- `response.get("schema") == 1`. -/
def isOne : PyValue → Bool
  | .int value => value = 1
  | .float (.finite value) => value = 1
  | .bool value => value
  | _ => false

/-- What `engine.poll()` returns, with the bytes that it read. -/
structure Response where
  value : Dict PyValue
  content : List Sent

section Code

variable (loads : List UInt8 → Except PyError PyValue)

/-- `json.loads(content)`, and the check of the schema. -/
def parse (content : List Sent) : Except PyError (Dict PyValue) :=
  match loads (content.map Sent.byte) with
  | .error e => .error e
  | .ok (.dict response) =>
    if isOne ((Dict.get response "schema").getD .none) then .ok response else .error .value
  | .ok _ => .error .value

/-- The response is returned. -/
def answerWith (call : Call) (content : List Sent) : Program Response := do
  let value ← ofExcept (parse loads content)
  Thread.atomic fun _ => Exec.change fun state =>
    (state.1, state.2.note (.answered call content value))
  pure ⟨value, content⟩

/-- The loop of `Engine.poll`. A chunk holds a byte at least, so the loop ends by itself before
`turns` does. -/
def receive (engine : Handle) (call : Call) : ℕ → List Sent → Program Response
  | 0, _ => Thread.raise .value
  | turns + 1, content =>
    if content.length ≤ maxReply then do
      let chunk ← readChunk engine call
      let content := content ++ chunk
      if newline ∈ chunk.map Sent.byte then
        if maxReply < content.length then Thread.raise .value else answerWith loads call content
      else receive engine call turns content
    else Thread.raise .value

/-- `Engine.poll`. -/
def enginePoll (engine : Handle) (call : Call) : Program Response := do
  writeRequest engine call
  receive loads engine call (maxReply + 1) []

end Code

/-- `Engine.close`: its first call closes the selector. -/
def engineClose (engine : Handle) : Program Unit := Thread.atomic fun answer =>
  match answer.closes with
  | some e => do
    Exec.change fun state =>
      ({ state.1 with engine := some ⟨engine.process, false, engine.stdin && !answer.unplugs⟩ },
        if answer.unplugs then state.2.hangUp engine.process else state.2)
    Exec.raise e
  | none => Exec.change fun state =>
    ({ state.1 with engine := none }, state.2.hangUp engine.process)

/-- `_stop_engine()`. -/
def stopEngine : Program Unit := do
  let (client, _) ← look
  match client.engine with
  | some engine => engineClose engine
  | none => pure ()

/-! ### A poll -/

/-- `_failure(response)`. -/
def failure (response : Dict PyValue) : Program Unit := do
  let kind := (response.get "error").getD (.str "provider")
  let _ ← ofExcept (numberAt response "retry_after" atLeastZero)
  save
  if needsOperator kind || isRateLimit kind then stopEngine else pure ()

section Code

variable (config : Evcc.Config) (loads : List UInt8 → Except PyError PyValue)

/-- What the `try` of `_poll_engine` does with a reading. -/
def takeReading (startedAt : ℚ) (content : List Sent) (data : Dict PyValue) : Program Unit := do
  let candidate ← ofExcept (normalize data config.vin config.capacity config.home)
  match candidate.soc with
  | none => Thread.raise .value
  | some _ => do
    Thread.atomic fun _ => Exec.change fun state =>
      ({ state.1 with snapshot := some candidate, received := some startedAt },
        state.2.note (.stamped startedAt content candidate))
    save

/-- What the `try` of `_poll_engine` does with a response. -/
def takeReply (startedAt : ℚ) (response : Response) : Program Unit :=
  match readingOf response.value with
  | some data => takeReading config startedAt response.content data
  | none => failure response.value

/-- The `try` of `_poll_engine`. -/
def useEngine (call : Call) : Program Unit := do
  let engine ← ensureEngine
  let response ← enginePoll loads engine call
  takeReply config call.startedAt response

/-- The handler of `_poll_engine`. -/
def engineFailed (e : PyError) : Option (Program Unit) :=
  if isCaught e then
    some do
      stopEngine
      failure [("error", .str "transport")]
  else none

/-- `started_at = time.monotonic()`. -/
def beginPoll : Program Call := Thread.atomic fun _ => do
  let (client, world) ← Exec.read
  let call : Call := ⟨world.calls, world.mono⟩
  Exec.change fun _ => (client, { world.note (.began call) with calls := world.calls + 1 })
  pure call

/-- `if self.engine is None: self._save(next_login=…)`. -/
def reserveLogin : Program Unit := do
  let (client, _) ← look
  if client.engine.isSome then pure () else save

/-- `_poll_engine(now)`. -/
def pollEngine : Program Unit := do
  save
  reserveLogin
  let call ← beginPoll
  (useEngine config loads call).handle engineFailed

end Code

/-! ### The client and its peers -/

/-- What the client is asked to do. -/
inductive Demand
  | poll
  | close

/-- What happens beside the client: a process takes a step, or time passes. -/
inductive Happening
  | tick (process : ℕ) (tick : Tick)
  | passing (time : ℚ≥0)

section Runs

variable (config : Evcc.Config) (loads : List UInt8 → Except PyError PyValue)
  (configurationLine : Line)

/-- One move beside the client. -/
def World.happen (world : World) : Happening → World
  | .tick process tick =>
    world.setPeer process ((world.peers process).tick configurationLine tick)
  | .passing time => { world with mono := world.mono + time }

/-- The client with its engines; when it dies its pipes are closed. -/
def service : Service Unit Demand Happening Answer Client World PyError where
  launch _ _ := ⟨none, none, none⟩
  program _
    | .poll => pollEngine config loads
    | .close => stopEngine
  crash _ world :=
    { world with peers := fun process => { world.peers process with hungUp := true } }
  world happening world := world.happen configurationLine happening

/-- No process was ever started. -/
def World.empty : World := ⟨fun _ => Peer.new, 0, 0, 0, []⟩

/-- A run, from no process. -/
def run (moves : List (Move Unit Demand Happening Answer)) : World :=
  ((service config loads configurationLine).run World.empty moves).shared

end Runs

end DbusEv.Pipe
