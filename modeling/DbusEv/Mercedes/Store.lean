/-
**The token store** (`dbus_ev/mercedes/store.py`) **among its owners.**

Any number of processes build a store on one file, acquire it, save what they compute from its data,
and close it; each may die between any two of its steps.

* `Disk` — the file, the temporary files and the lock, with what was saved.
* `Owner` — a process: its store, whether it has started (`EvccClient.start`), and what its stream
  has not written yet.
* `construct`, `acquire`, `save`, `close` — the methods, one step for each call that may raise.
* `run` — any interleaving of the processes.
-/

import DbusEv.Lib.Threads
import DbusEv.Lib.Trace
import DbusEv.Python.Lexemes

set_option autoImplicit false

namespace DbusEv.Store

/-! ### The state -/

/-- A save: who, from which data, and how the new value is computed from it. -/
structure Save where
  owner : ℕ
  base : Json
  change : Json → Json

/-- The value that is saved. -/
def Save.value (save : Save) : Json := save.change save.base

/-- What the processes share. -/
structure Disk where
  /-- `self.path`. -/
  file : Option Lexemes
  /-- The temporary files, by name. -/
  temporaries : ℕ → Option Lexemes
  /-- The process that holds the lock. -/
  holder : Option ℕ
  /-- What was saved, newest first. -/
  saves : List Save

namespace Disk

/-- A process lets go of the lock. -/
def release (disk : Disk) (process : ℕ) : Disk :=
  { disk with holder := if disk.holder = some process then none else disk.holder }

/-- A temporary file is created, written or removed. -/
def setTemporary (disk : Disk) (name : ℕ) (text : Option Lexemes) : Disk :=
  { disk with temporaries := Function.update disk.temporaries name text }

end Disk

/-- The attributes of a `TokenStore`. -/
structure TokenStore where
  data : Json
  /-- `self._lock is not None`. -/
  locked : Bool

/-- A process. -/
structure Owner where
  store : Option TokenStore
  /-- `self.started` of the client that owns the store. -/
  started : Bool
  /-- What the open stream has not written to its file. -/
  buffer : Lexemes

/-- A process that has not built its store. -/
def Owner.new : Owner := ⟨none, false, []⟩

/-- What the environment decides at a step. -/
structure Answer where
  /-- What the call raises. -/
  raises : Option PyError
  /-- The name `mkstemp` tries. -/
  name : ℕ
  /-- How much of its buffer a stream writes to its file. -/
  written : ℕ

abbrev State := Owner × Disk

/-- A program of a process. -/
abbrev Program (α : Type) := Thread Answer State PyError α

/-! ### Steps -/

def look : Program State := Thread.atomic fun _ => Exec.read

def alter (f : State → State) : Program Unit := Thread.atomic fun _ => Exec.change f

/-- A call that may raise; if it returns, the state changes. -/
def attempt (f : State → State) : Program Unit :=
  Thread.atomic fun answer =>
    match answer.raises with
    | some e => Exec.raise e
    | none => Exec.change f

/-- A call that may raise, and changes nothing the store looks at. -/
def call : Program Unit := attempt id

/-- The store changes. -/
def setStore (f : TokenStore → TokenStore) (state : State) : State :=
  ({ state.1 with store := state.1.store.map f }, state.2)

/-- `self.data = data`. -/
def setData (data : Json) : State → State := setStore fun store => { store with data := data }

/-- `self._lock = …`. -/
def setLocked (locked : Bool) : State → State :=
  setStore fun store => { store with locked := locked }

/-! ### Reading -/

/-- `self.path.exists()`. -/
def pathExists : Program Bool :=
  Thread.atomic fun answer =>
    match answer.raises with
    | some e => Exec.raise e
    | none => do
      let (_, disk) ← Exec.read
      pure disk.file.isSome

/-- `json.loads(self.path.read_text(encoding="utf-8"))`. -/
def readText : Program Json :=
  Thread.atomic fun answer =>
    match answer.raises with
    | some e => Exec.raise e
    | none => do
      let (_, disk) ← Exec.read
      match disk.file with
      | none => Exec.raise .os
      | some text => Exec.ofExcept (loads text)

def readSome : Program (Option Json) := do
  let data ← readText
  pure (some data)

/-- The data of the file, if it exists. -/
def readData : Program (Option Json) := do
  let there ← pathExists
  if there then readSome else pure none

/-- `TokenStore(path)`. -/
def construct : Program Unit := do
  let data ← readData
  alter fun state => ({ state.1 with store := some ⟨data.getD .empty, false⟩ }, state.2)

/-! ### The lock -/

/-- A lock file is closed, if one is open. -/
def closeLock (process : ℕ) (state : State) : State :=
  if state.1.store.any TokenStore.locked then (state.1, state.2.release process) else state

/-- `self._lock = os.fdopen(…)`: the lock file that was open before is closed. -/
def openLock (process : ℕ) (state : State) : State := setLocked true (closeLock process state)

/-- `fcntl.flock(self._lock, LOCK_EX | LOCK_NB)`. -/
def tryLock (process : ℕ) : Program Unit :=
  Thread.atomic fun answer =>
    match answer.raises with
    | some e => Exec.raise e
    | none => do
      let (_, disk) ← Exec.read
      match disk.holder with
      | some _ => Exec.raise .os
      | none => Exec.change fun state => (state.1, { state.2 with holder := some process })

/-- Another process owns the file. -/
def refuse : Program Unit := do
  alter (setLocked false)
  Thread.raise .runtime

/-- `try: fcntl.flock(…) except OSError: …`. -/
def lock (process : ℕ) : Program Unit :=
  (tryLock process).handle fun e => if e = .os then some refuse else none

/-- `self.data = …`, if the file exists. -/
def takeData : Option Json → Program Unit
  | none => pure ()
  | some data => alter (setData data)

/-- `acquire()`. -/
def acquire (process : ℕ) : Program Unit := do
  call
  attempt (openLock process)
  lock process
  let data ← readData
  takeData data

/-- `close()`. -/
def letGo (process : ℕ) (state : State) : State := setLocked false (closeLock process state)

/-! ### Saving -/

/-- `tempfile.mkstemp(…)`: a name that is not taken. -/
def mkstemp : Program ℕ :=
  Thread.atomic fun answer =>
    match answer.raises with
    | some e => Exec.raise e
    | none => do
      let (_, disk) ← Exec.read
      match disk.temporaries answer.name with
      | some _ => Exec.raise .os
      | none => do
        Exec.change fun state => (state.1, state.2.setTemporary answer.name (some []))
        pure answer.name

/-- The stream writes the first lexemes of its buffer to its file. -/
def drain (temporary count : ℕ) (state : State) : State :=
  ({ state.1 with buffer := state.1.buffer.drop count },
    state.2.setTemporary temporary
      ((state.2.temporaries temporary).map fun text => text ++ state.1.buffer.take count))

/-- A lexeme comes into the buffer of the stream. -/
def push (lexeme : Lexeme) (state : State) : State :=
  ({ state.1 with buffer := state.1.buffer ++ [lexeme] }, state.2)

/-- What a call raises, if it raises. -/
def raised (answer : Answer) : Exec State PyError Unit :=
  match answer.raises with
  | some e => Exec.raise e
  | none => pure ()

/-- `stream.write(chunk)`. -/
def write (temporary : ℕ) (lexeme : Lexeme) : Program Unit :=
  Thread.atomic fun answer => do
    Exec.change fun state =>
      drain temporary answer.written (push lexeme state)
    raised answer

/-- `json.dump(data, stream)`. -/
def writeAll (temporary : ℕ) : Lexemes → Program Unit
  | [] => pure ()
  | lexeme :: rest => do
    write temporary lexeme
    writeAll temporary rest

/-- `stream.flush()`: a flush that raises has written a part. -/
def flush (temporary : ℕ) : Program Unit :=
  Thread.atomic fun answer => do
    Exec.change fun state =>
      drain temporary (if answer.raises.isSome then answer.written else state.1.buffer.length) state
    raised answer

/-- The body of `with os.fdopen(fd, "w", encoding="utf-8") as stream`. -/
def writeStream (temporary : ℕ) (text : Lexemes) : Program Unit := do
  writeAll temporary text
  flush temporary
  call

/-- `with os.fdopen(fd, "w", encoding="utf-8") as stream: …`: closing the stream flushes it. -/
def withStream (temporary : ℕ) (text : Lexemes) : Program Unit := do
  attempt fun state => ({ state.1 with buffer := [] }, state.2)
  (writeStream temporary text).ensure (flush temporary)

/-- `os.replace(temporary, self.path)`. -/
def replace (temporary : ℕ) (save : Save) : Program Unit :=
  Thread.atomic fun answer =>
    match answer.raises with
    | some e => Exec.raise e
    | none => do
      let (_, disk) ← Exec.read
      match disk.temporaries temporary with
      | none => Exec.raise .os
      | some text => Exec.change fun state =>
        (state.1, { state.2.setTemporary temporary none with
          file := some text, saves := save :: state.2.saves })

/-- `os.path.exists(temporary)`. -/
def temporaryExists (temporary : ℕ) : Program Bool :=
  Thread.atomic fun _ => do
    let (_, disk) ← Exec.read
    pure (disk.temporaries temporary).isSome

/-- `finally`. -/
def cleanUp (temporary : ℕ) : Program Unit := do
  let there ← temporaryExists temporary
  if there then attempt fun state => (state.1, state.2.setTemporary temporary none)
  else pure ()

/-- The `try` of `save`. -/
def persist (temporary : ℕ) (save : Save) : Program Unit := do
  withStream temporary (dump save.value.value)
  replace temporary save
  alter (setData save.value)

/-- `save(data)`. -/
def saveValue (save : Save) : Program Unit := do
  call
  let temporary ← mkstemp
  (persist temporary save).ensure (cleanUp temporary)

/-! ### The owners -/

/-- A process builds its store once. -/
def build : Program Unit := do
  let (owner, _) ← look
  if owner.store.isSome then pure () else construct

def acquireThenStart (process : ℕ) : Program Unit := do
  acquire process
  alter fun state => ({ state.1 with started := true }, state.2)

/-- `start()`. -/
def start (process : ℕ) : Program Unit := do
  let (owner, _) ← look
  if owner.started || owner.store.isNone then pure () else acquireThenStart process

/-- An owner that has started saves a value it computes from the data of its store. -/
def update (process : ℕ) (change : Json → Json) : Program Unit := do
  let (owner, _) ← look
  match owner.store with
  | none => pure ()
  | some store => if owner.started then saveValue ⟨process, store.data, change⟩ else pure ()

/-- `close()` of the client. -/
def close (process : ℕ) : Program Unit := do
  alter (letGo process)
  alter fun state => ({ state.1 with started := false }, state.2)

/-- What a process is asked to do. -/
inductive Call
  | build
  | start
  | update (change : Json → Json)
  | close

/-- The processes of one file; a process that dies lets go of the lock. -/
def service : Service ℕ Call Empty Answer Owner Disk PyError where
  launch _ _ := .new
  program process
    | .build => build
    | .start => start process
    | .update change => update process change
    | .close => close process
  crash process disk := disk.release process
  world event := event.elim

/-- A run of the processes, from any content of the file and any temporary files left behind. -/
def run (initial : Option Lexemes) (left : ℕ → Option Lexemes)
    (moves : List (Move ℕ Call Empty Answer)) : Fleet ℕ Answer Owner Disk PyError :=
  service.run ⟨initial, left, none, []⟩ moves

end DbusEv.Store
