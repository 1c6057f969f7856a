/-
**The exchange with the engines stays in step.**

* `Lawful` — what may happen at the pipes: a call reads bytes of its own reply, or of the error of a
  start-up; a snapshot is stamped with the start of the call that read it.
* `Idle` — between two calls the pipes of an engine that can still be read are clean.
* `wp_enginePoll`, `wp_stopEngine`, … — what each function of the client keeps.
* `in_step` — every run is lawful, and every engine has written one line for each request it read.
-/

import DbusEv.Providers.Exchange
import DbusEv.Providers.Upstream

set_option autoImplicit false
set_option linter.unusedSectionVars false

namespace DbusEv.Pipe

open Thread Relation
open Evcc (isCaught readingOf needsOperator)

/-! ### The laws -/

/-- What `json.loads` reads in the error of a start-up. -/
def configurationResponse : Dict PyValue :=
  [("schema", .int 1), ("ok", .bool false), ("error", .str "configuration")]

/-- A response asks for an operator: `_failure` saves it as blocked. -/
def Blocks (response : Dict PyValue) : Prop :=
  readingOf response = none ∧ needsOperator ((response.get "error").getD (.str "provider")) = true

section Laws

variable (configurationLine : Line)

/-- A line that a call read: the reply to its own request, or the error of a start-up. -/
def OwnLine (call : Call) (content : List Sent) : Prop :=
  (∃ line, content = mark (some call) line) ∨ content = lastWords configurationLine

/-- What may happen. -/
def Lawful : Event → Prop
  | .began _ => True
  | .consumed call _ bytes =>
    ∀ sent ∈ bytes, sent.answers = some call ∨ sent.answers = none
  | .answered call content response =>
    (∃ line, content = mark (some call) line) ∨
      content = lastWords configurationLine ∧ Blocks response
  | .stamped startedAt content _ =>
    ∃ call line, call.startedAt = startedAt ∧ content = mark (some call) line

/-- The invariant of a run. -/
structure InStep (world : World) : Prop where
  lawful : ∀ event ∈ world.trace, Lawful configurationLine event
  begun : ∀ call, .began call ∈ world.trace → call.id < world.calls
  /-- No two calls are the same. -/
  distinct : world.trace.Pairwise fun later earlier =>
    ∀ a b, later = .began a → earlier = .began b → b.id < a.id
  balanced : ∀ process, Balanced configurationLine (world.peers process)

/-- What the engines do by themselves. -/
structure Onward (s t : World) : Prop where
  peers : ∀ process, ReflTransGen (fun a b => ∃ tick, b = Peer.tick configurationLine a tick)
    (s.peers process) (t.peers process)
  born : t.born = s.born
  calls : t.calls = s.calls
  trace : t.trace = s.trace

/-- The engine of the client, if it can be read, is clean. -/
def Idle (s : State) : Prop :=
  ∀ engine, s.1.engine = some engine → engine.selector = true →
    Clean configurationLine (s.2.peers engine.process)

/-- The law of the client: it relies on what its engines do. -/
def law : Law State where
  rely s t := t.1 = s.1 ∧ Onward configurationLine s.2 t.2
  may s t := ∀ other : Unit, other ≠ () → Onward configurationLine s.2 t.2
  inv s := InStep configurationLine s.2

variable {configurationLine}

theorem Onward.refl (s : World) : Onward configurationLine s s :=
  ⟨fun _ => ReflTransGen.refl, rfl, rfl, rfl⟩

theorem Onward.trans {s t u : World} (first : Onward configurationLine s t)
    (second : Onward configurationLine t u) : Onward configurationLine s u :=
  ⟨fun process => (first.peers process).trans (second.peers process),
    second.born.trans first.born, second.calls.trans first.calls, second.trace.trans first.trace⟩

/-- What every step of a peer keeps. -/
theorem Onward.kept {s t : World} {P : Peer → Prop} (onward : Onward configurationLine s t)
    (ticked : ∀ peer tick, P peer → P (peer.tick configurationLine tick)) {process : ℕ}
    (holds : P (s.peers process)) : P (t.peers process) := by
  have path := onward.peers process
  generalize t.peers process = last at path
  induction path with
  | refl => exact holds
  | tail _ step ih =>
    obtain ⟨tick, rfl⟩ := step
    exact ticked _ tick ih

theorem Onward.clean {s t : World} {process : ℕ} (onward : Onward configurationLine s t)
    (clean : Clean configurationLine (s.peers process)) :
    Clean configurationLine (t.peers process) :=
  onward.kept (fun _ tick clean => clean.tick tick) clean

theorem Onward.answering {s t : World} {process : ℕ} {call : Call} {content : List Sent}
    (onward : Onward configurationLine s t)
    (answering : Answering configurationLine call content (s.peers process)) :
    Answering configurationLine call content (t.peers process) :=
  onward.kept (fun _ tick answering => answering.tick tick) answering

theorem Idle.onward {s t : State} (idle : Idle configurationLine s) (same : t.1 = s.1)
    (onward : Onward configurationLine s.2 t.2) : Idle configurationLine t := by
  intro engine own open_
  rw [same] at own
  exact onward.clean (idle engine own open_)

/-! ### What keeps the invariant -/

/-- Something lawful happens that is no beginning. -/
theorem InStep.note {world : World} (inStep : InStep configurationLine world) {event : Event}
    (lawful : Lawful configurationLine event) (other : ∀ call, event ≠ .began call) :
    InStep configurationLine (world.note event) := by
  refine ⟨?_, fun call member => ?_, ?_, inStep.balanced⟩
  · intro found member
    rcases List.mem_cons.mp member with rfl | member
    · exact lawful
    · exact inStep.lawful found member
  · rcases List.mem_cons.mp member with same | member
    · exact absurd same.symm (other call)
    · exact inStep.begun call member
  · exact List.pairwise_cons.mpr
      ⟨fun earlier _ a b same => absurd same (other a), inStep.distinct⟩

/-- A poll begins. -/
theorem InStep.began {world : World} (inStep : InStep configurationLine world) (startedAt : ℚ) :
    InStep configurationLine
      { world.note (.began ⟨world.calls, startedAt⟩) with calls := world.calls + 1 } := by
  refine ⟨?_, fun call member => ?_, ?_, inStep.balanced⟩
  · intro found member
    rcases List.mem_cons.mp member with rfl | member
    · trivial
    · exact inStep.lawful found member
  · rcases List.mem_cons.mp member with same | member
    · cases same
      exact Nat.lt_succ_self _
    · exact Nat.lt_succ_of_lt (inStep.begun call member)
  · refine List.pairwise_cons.mpr ⟨?_, inStep.distinct⟩
    rintro earlier member a b ⟨⟩ rfl
    exact inStep.begun b member

/-- A peer changes. -/
theorem InStep.setPeer {world : World} (inStep : InStep configurationLine world) {process : ℕ}
    {peer : Peer} (balanced : Balanced configurationLine peer) :
    InStep configurationLine (world.setPeer process peer) := by
  refine ⟨inStep.lawful, inStep.begun, inStep.distinct, fun other => ?_⟩
  show Balanced configurationLine (Function.update world.peers process peer other)
  by_cases same : other = process
  · rw [same, Function.update_self]
    exact balanced
  · rw [Function.update_of_ne same]
    exact inStep.balanced other

theorem setPeer_peers (world : World) (process : ℕ) (peer : Peer) :
    (world.setPeer process peer).peers process = peer := Function.update_self ..

end Laws

/-! ### The functions of the client -/

section Functions

variable {configurationLine : Line} {α β : Type} {s : State}

/-- One step, judged in every state that the engines may have reached. -/
theorem wp_step {x : Answer → Exec State PyError α} {Q : α → State → Prop}
    {X : PyError → State → Prop} (next : ∀ t, t.1 = s.1 → Onward configurationLine s.2 t.2 →
      InStep configurationLine t.2 → ∀ answer,
        Exec.wp (x answer) (fun value u => InStep configurationLine u.2 ∧ Q value u)
          (fun e u => InStep configurationLine u.2 ∧ X e u) t) :
    wp (law configurationLine) (atomic x) Q X s := by
  rw [wp_atomic]
  rintro t ⟨same, onward⟩ inStep answer
  exact Exec.wp_mono (next t same onward inStep answer)
    (fun _ _ both => ⟨both.1, fun _ ne => absurd rfl ne, both.2⟩)
    fun _ _ both => ⟨both.1, fun _ ne => absurd rfl ne, both.2⟩

theorem wp_look {f : State → Program α} {Q : α → State → Prop} {X : PyError → State → Prop}
    (next : ∀ t, t.1 = s.1 → Onward configurationLine s.2 t.2 →
      wp (law configurationLine) (f t) Q X t) :
    wp (law configurationLine) (look >>= f) Q X s := by
  rw [wp_bind]
  exact wp_step fun t same onward inStep _ => ⟨inStep, next t same onward⟩

/-- A program that leaves the client idle, however it ends. -/
def Idles (configurationLine : Line) (x : Program α) : Prop :=
  ∀ s, Idle configurationLine s → wp (law configurationLine) x (fun _ => Idle configurationLine)
    (fun _ => Idle configurationLine) s

theorem Idles.bind {x : Program β} {f : β → Program α} (first : Idles configurationLine x)
    (next : ∀ value, Idles configurationLine (f value)) :
    Idles configurationLine (x >>= f) := fun s idle => by
  rw [wp_bind]
  exact wp_mono (first s idle) (fun value t => next value t) fun _ _ thrown => thrown

theorem idles_pure (value : α) : Idles configurationLine (pure value) := fun _ idle => idle

theorem idles_ofExcept {value : Except PyError α} {f : α → Program β}
    (next : ∀ found, value = .ok found → Idles configurationLine (f found)) :
    Idles configurationLine (ofExcept value >>= f) := by
  rcases value with e | found
  · exact fun _ idle => idle
  · exact next found rfl

theorem idles_save : Idles configurationLine save := fun s idle => by
  refine wp_step fun t same onward inStep answer => ?_
  rcases answer.saves with _ | e
  · exact ⟨inStep, idle.onward same onward⟩
  · exact ⟨inStep, idle.onward same onward⟩

/-- **After `_stop_engine` the client is idle**, however it was before and however it ends: the
engine is gone, or its selector is closed. -/
theorem wp_stopEngine : wp (law configurationLine) stopEngine (fun _ => Idle configurationLine)
    (fun _ => Idle configurationLine) s := by
  unfold stopEngine
  refine wp_look fun t same onward => ?_
  obtain ⟨⟨engine, snapshot, received⟩, world⟩ := t
  rcases engine with _ | engine
  · exact nofun
  · refine wp_step fun u same onward inStep answer => ?_
    have hungUp : ∀ world : World, InStep configurationLine world →
        InStep configurationLine (world.hangUp engine.process) := fun world inStep =>
      inStep.setPeer (inStep.balanced engine.process)
    rcases answer.closes with _ | e
    · exact ⟨hungUp u.2 inStep, nofun⟩
    · refine ⟨?_, ?_⟩
      · show InStep configurationLine (if answer.unplugs then u.2.hangUp engine.process else u.2)
        split
        · exact hungUp u.2 inStep
        · exact inStep
      · rintro found ⟨⟩ open_
        cases open_

theorem idles_stopEngine : Idles configurationLine stopEngine := fun _ _ => wp_stopEngine

theorem idles_failure (response : Dict PyValue) :
    Idles configurationLine (failure response) := by
  unfold failure
  refine idles_ofExcept fun _ _ => idles_save.bind fun _ => ?_
  split
  · exact idles_stopEngine
  · exact idles_pure ()

/-! ### A call -/

/-- The engine of the client, and what a call has read so far. -/
structure Reading (configurationLine : Line) (engine : Handle) (call : Call) (content : List Sent)
    (s : State) : Prop where
  own : s.1.engine = some engine
  answering : engine.selector = true →
    Answering configurationLine call content (s.2.peers engine.process)

/-- A call that raises what a handler waits for may leave a reply behind; any other leaves none. -/
def Broken (configurationLine : Line) (e : PyError) (s : State) : Prop :=
  isCaught e = false → Idle configurationLine s

/-- A response: the reply to this call, or one that blocks. -/
def Answered (configurationLine : Line) (call : Call) (response : Response) (s : State) : Prop :=
  Idle configurationLine s ∧
    ((∃ line, response.content = mark (some call) line) ∨ Blocks response.value)

theorem Reading.onward {engine : Handle} {call : Call} {content : List Sent} {t : State}
    (reading : Reading configurationLine engine call content s) (same : t.1 = s.1)
    (onward : Onward configurationLine s.2 t.2) :
    Reading configurationLine engine call content t :=
  ⟨by rw [same]; exact reading.own, fun open_ => onward.answering (reading.answering open_)⟩

/-- The request is written to a clean pipe. -/
theorem wp_writeRequest {engine : Handle} {call : Call} (own : s.1.engine = some engine)
    (idle : Idle configurationLine s) :
    wp (law configurationLine) (writeRequest engine call)
      (fun _ => Reading configurationLine engine call []) (Broken configurationLine) s := by
  refine wp_step fun t same onward inStep answer => ?_
  have idle : Idle configurationLine t := idle.onward same onward
  rw [← same] at own
  rw [Exec.wp_bind, Exec.wp_read]
  dsimp only
  rw [Exec.wp_ite, Exec.wp_ite]
  refine ⟨fun _ => ⟨inStep, nofun⟩, fun _ => ⟨fun _ => ⟨inStep, nofun⟩, fun _ => ?_⟩⟩
  rw [Exec.wp_change]
  refine ⟨inStep.setPeer (inStep.balanced engine.process), own, fun open_ => ?_⟩
  rw [setPeer_peers]
  exact (idle engine own open_).asked call

/-- A chunk is read. -/
theorem wp_readChunk {engine : Handle} {call : Call} {content : List Sent}
    (reading : Reading configurationLine engine call content s) :
    wp (law configurationLine) (readChunk engine call)
      (fun chunk t => engine.selector = true ∧
        Reading configurationLine engine call (content ++ chunk) t)
      (Broken configurationLine) s := by
  refine wp_step fun t same onward inStep answer => ?_
  have reading : Reading configurationLine engine call content t := reading.onward same onward
  rw [Exec.wp_bind, Exec.wp_read]
  dsimp only
  rw [Exec.wp_ite, Exec.wp_ite, Exec.wp_ite, Exec.wp_ite]
  refine ⟨fun _ => ⟨inStep, nofun⟩, fun _ => ⟨fun _ => ⟨inStep, nofun⟩, fun selector =>
    ⟨fun _ => ⟨inStep, nofun⟩, fun _ => ⟨fun _ => ⟨inStep, nofun⟩, fun _ => ?_⟩⟩⟩⟩
  have open_ : engine.selector = true := by simpa using selector
  have read := (reading.answering open_).read chunkSize
  rw [Exec.wp_bind, Exec.wp_change]
  refine ⟨?_, open_, reading.own, fun _ => ?_⟩
  · have lawful : Lawful configurationLine (.consumed call engine.process
        ((t.2.peers engine.process).replies.take chunkSize)) := fun sent member =>
      read.of_mem sent (List.mem_append_right _ member)
    have balanced : Balanced configurationLine { t.2.peers engine.process with
        replies := (t.2.peers engine.process).replies.drop chunkSize } :=
      inStep.balanced engine.process
    exact (inStep.setPeer balanced).note lawful fun _ => nofun
  · show Answering configurationLine call _ ((t.2.setPeer engine.process _).peers engine.process)
    rw [setPeer_peers]
    exact read

section Loads

variable {loads : List UInt8 → Except PyError PyValue}
  (reads : loads (configurationLine.bytes ++ [newline]) = .ok (.dict configurationResponse))

include reads in
/-- The error of a start-up blocks. -/
theorem blocks_of_parse {response : Dict PyValue}
    (parsed : parse loads (lastWords configurationLine) = .ok response) : Blocks response := by
  have bytes : (lastWords configurationLine).map Sent.byte =
      configurationLine.bytes ++ [newline] := by
    unfold lastWords mark
    rw [List.map_map]
    exact List.map_id _
  unfold parse at parsed
  rw [bytes, reads] at parsed
  cases parsed
  exact ⟨rfl, by decide⟩

include reads in
/-- A line that was read is taken. -/
theorem wp_answerWith {call : Call} {content : List Sent} (idle : Idle configurationLine s)
    (own : OwnLine configurationLine call content) :
    wp (law configurationLine) (answerWith loads call content)
      (Answered configurationLine call) (Broken configurationLine) s := by
  unfold answerWith
  rcases parsed : parse loads content with e | value
  · exact fun _ => idle
  · show wp _ (atomic _ >>= _) _ _ _
    rw [wp_bind]
    refine wp_step fun t same onward inStep _ => ?_
    have idle : Idle configurationLine t := idle.onward same onward
    rcases own with replied | rfl
    · exact ⟨inStep.note (Or.inl replied) fun _ => nofun, idle, Or.inl replied⟩
    · have blocks := blocks_of_parse reads parsed
      exact ⟨inStep.note (Or.inr ⟨rfl, blocks⟩) fun _ => nofun, idle, Or.inr blocks⟩

include reads in
/-- **A call answers with its own line**, or raises what stops the engine, or leaves it clean. -/
theorem wp_receive {engine : Handle} {call : Call} {turns : ℕ} {content : List Sent}
    (reading : Reading configurationLine engine call content s) :
    wp (law configurationLine) (receive loads engine call turns content)
      (Answered configurationLine call) (Broken configurationLine) s := by
  induction turns generalizing content s with
  | zero => exact nofun
  | succ turns ih =>
    unfold receive
    rw [wp_ite]
    refine ⟨fun _ => ?_, fun _ => nofun⟩
    rw [wp_bind]
    refine wp_mono (wp_readChunk reading) (fun chunk t both => ?_) fun _ _ thrown => thrown
    obtain ⟨open_, reading⟩ := both
    dsimp only
    rw [wp_ite]
    refine ⟨fun ends => ?_, fun _ => ih reading⟩
    rw [wp_ite]
    refine ⟨fun _ => nofun, fun _ => ?_⟩
    have ended : newline ∈ (content ++ chunk).map Sent.byte := by
      rw [List.map_append]
      exact List.mem_append_right _ ends
    obtain ⟨clean, own⟩ := (reading.answering open_).ended ended
    refine wp_answerWith reads (fun found same _ => ?_) own
    obtain rfl := Option.some.inj (reading.own.symm.trans same)
    exact clean

include reads in
theorem wp_enginePoll {engine : Handle} {call : Call} (own : s.1.engine = some engine)
    (idle : Idle configurationLine s) :
    wp (law configurationLine) (enginePoll loads engine call)
      (Answered configurationLine call) (Broken configurationLine) s := by
  unfold enginePoll
  rw [wp_bind]
  exact wp_mono (wp_writeRequest own idle) (fun _ _ reading => wp_receive reads reading)
    fun _ _ thrown => thrown

/-! ### A poll -/

/-- The engine that a poll asks. -/
theorem wp_ensureEngine (idle : Idle configurationLine s) :
    wp (law configurationLine) ensureEngine
      (fun engine t => t.1.engine = some engine ∧ Idle configurationLine t)
      (fun _ => Idle configurationLine) s := by
  unfold ensureEngine
  refine wp_look fun t same onward => ?_
  have idle : Idle configurationLine t := idle.onward same onward
  obtain ⟨⟨engine, snapshot, received⟩, world⟩ := t
  rcases engine with _ | engine
  · refine wp_step fun u same onward inStep answer => ?_
    rcases answer.builds with _ | e
    · refine ⟨⟨inStep.lawful, inStep.begun, inStep.distinct,
        (inStep.setPeer (balanced_new configurationLine)).balanced⟩, rfl, ?_⟩
      rintro found ⟨⟩ -
      show Clean configurationLine ((u.2.setPeer u.2.born Peer.new).peers u.2.born)
      rw [setPeer_peers]
      exact clean_new
    · exact ⟨inStep, idle.onward same onward⟩
  · exact ⟨rfl, idle⟩

/-- A response is taken; a snapshot is stamped with a reading of this call only. -/
theorem wp_takeReply (config : Evcc.Config) {call : Call} {response : Response}
    (own : (∃ line, response.content = mark (some call) line) ∨ Blocks response.value) :
    Idles configurationLine (takeReply config call.startedAt response) := by
  unfold takeReply
  rcases reading : readingOf response.value with _ | data
  · exact idles_failure response.value
  · obtain ⟨line, replied⟩ := own.resolve_right fun blocks => by
      cases reading.symm.trans blocks.1
    show Idles configurationLine (takeReading config call.startedAt response.content data)
    unfold takeReading
    refine idles_ofExcept fun candidate _ => ?_
    rcases candidate.soc with _ | soc
    · exact fun _ idle => idle
    · refine Idles.bind (fun s idle => ?_) fun _ => idles_save
      refine wp_step fun t same onward inStep _ => ?_
      have idle : Idle configurationLine t := idle.onward same onward
      exact ⟨inStep.note ⟨call, line, rfl, replied⟩ fun _ => nofun, idle⟩

include reads in
theorem wp_useEngine (config : Evcc.Config) {call : Call} (idle : Idle configurationLine s) :
    wp (law configurationLine) (useEngine config loads call) (fun _ => Idle configurationLine)
      (Broken configurationLine) s := by
  unfold useEngine
  rw [wp_bind]
  refine wp_mono (wp_ensureEngine idle) (fun engine t both => ?_) fun _ _ idle _ => idle
  rw [wp_bind]
  refine wp_mono (wp_enginePoll reads both.1 both.2) (fun response u answered => ?_)
    fun _ _ thrown => thrown
  exact wp_mono (wp_takeReply config answered.2 u answered.1) (fun _ _ idle => idle)
    fun _ _ idle _ => idle

include reads in
/-- **A poll leaves the client idle**, however it ends. -/
theorem idles_pollEngine (config : Evcc.Config) :
    Idles configurationLine (pollEngine config loads) := by
  unfold pollEngine
  refine idles_save.bind fun _ => Idles.bind ?_ fun _ => Idles.bind ?_ fun call => ?_
  · intro s idle
    refine wp_look fun t same onward => ?_
    have idle : Idle configurationLine t := idle.onward same onward
    show wp _ (if t.1.engine.isSome = true then pure () else save) _ _ _
    split
    · exact idle
    · exact idles_save t idle
  · intro s idle
    refine wp_step fun t same onward inStep _ => ?_
    have idle : Idle configurationLine t := idle.onward same onward
    exact ⟨inStep.began t.2.mono, idle⟩
  · intro s idle
    rw [wp_handle]
    refine wp_mono (wp_useEngine reads config idle) (fun _ _ idle => idle) fun e t broken => ?_
    unfold engineFailed
    by_cases caught : isCaught e = true
    · simp only [if_pos caught]
      rw [wp_bind]
      exact wp_mono wp_stopEngine (fun _ u idle => idles_failure _ u idle) fun _ _ idle => idle
    · simp only [if_neg caught]
      exact broken (by simpa using caught)

end Loads

end Functions

/-! ### Every run -/

section Runs

variable (config : Evcc.Config) {loads : List UInt8 → Except PyError PyValue}
  {configurationLine : Line}

/-- The client and its engines: between two calls the client is idle. -/
def discipline
    (reads : loads (configurationLine.bytes ++ [newline]) = .ok (.dict configurationResponse)) :
    Discipline (service config loads configurationLine) where
  rely _ := Onward configurationLine
  inv := InStep configurationLine
  idle _ := Idle configurationLine
  rely_refl _ := Onward.refl
  rely_trans := Onward.trans
  idle_stable := fun onward idle => idle.onward rfl onward
  launch _ _ := nofun
  call := fun demand idle => by
    cases demand with
    | poll => exact idles_pollEngine reads config _ idle
    | close => exact idles_stopEngine _ idle
  crash := fun _ inStep => ⟨⟨inStep.lawful, inStep.begun, inStep.distinct, inStep.balanced⟩,
    fun _ ne => absurd rfl ne⟩
  world := fun {s} happening inStep => by
    cases happening with
    | tick process tick =>
      refine ⟨inStep.setPeer ((inStep.balanced process).tick tick), fun _ => ?_⟩
      refine ⟨fun other => ?_, rfl, rfl, rfl⟩
      show ReflTransGen _ (s.peers other) (Function.update s.peers process
        ((s.peers process).tick configurationLine tick) other)
      by_cases same : other = process
      · rw [same, Function.update_self]
        exact ReflTransGen.single ⟨tick, rfl⟩
      · rw [Function.update_of_ne same]
    | passing time =>
      exact ⟨⟨inStep.lawful, inStep.begun, inStep.distinct, inStep.balanced⟩,
        fun _ => ⟨fun _ => ReflTransGen.refl, rfl, rfl, rfl⟩⟩

/-- **The exchange stays in step**, in every run of the client with its engines, whenever they
start, answer, stop or die, and whatever the client is asked to do. -/
theorem in_step
    (reads : loads (configurationLine.bytes ++ [newline]) = .ok (.dict configurationResponse))
    (moves : List (Move Unit Demand Happening Answer)) :
    InStep configurationLine (run config loads configurationLine moves) := by
  have empty : InStep configurationLine World.empty :=
    ⟨fun _ found => absurd found List.not_mem_nil, fun _ found => absurd found List.not_mem_nil,
      List.Pairwise.nil, fun _ => balanced_new configurationLine⟩
  exact (discipline config reads).keeps empty moves

end Runs

/-! ### An exchange -/

/-- The bytes of a text. -/
def bytesOf (text : String) : List UInt8 := text.toList.map fun c => UInt8.ofNat c.toNat

/-- The error of a start-up. -/
def startUpError : Line where
  bytes := bytesOf "\x7b\"schema\":1,\"ok\":false,\"error\":\"configuration\"\x7d"
  isLine := by decide +kernel

/-- A reading. -/
def someReply : Line where
  bytes := bytesOf "\x7b\"schema\":1,\"ok\":true,\"data\":\x7b\"soc\":50\x7d\x7d"
  isLine := by decide +kernel

/-- `json.loads` on these two lines. -/
def someLoads (bytes : List UInt8) : Except PyError PyValue :=
  if bytes = startUpError.bytes ++ [newline] then .ok (.dict configurationResponse)
  else if bytes = someReply.bytes ++ [newline] then
    .ok (.dict [("schema", .int 1), ("ok", .bool true), ("data", .dict [("soc", .int 50)])])
  else .error .value

/-- A vehicle that reports its state of charge only. -/
def someVehicle : Engine.Vehicle where
  soc := .ok (.ofRat 50)
  capacity := .ofRat 0
  status := none
  limitSoc := none
  range := none
  odometer := none
  position := none
  power := none

/-- Nothing raises. -/
def smoothly : Answer := ⟨none, none, false, false, none, false⟩

/-- A poll, whose engine writes its reply in two pieces. -/
def someExchange : List (Move Unit Demand Happening Answer) :=
  [.launch (), .call () .poll] ++ List.replicate 7 (.step () smoothly) ++
    [.world (.tick 0 (.startUp false)),
      .world (.tick 0 (.scan ⟨0, .ok (), someVehicle, true, fun _ => someReply⟩)),
      .world (.tick 0 (.write 10)), .step () smoothly, .world (.tick 0 (.write 100))] ++
    List.replicate 4 (.step () smoothly)

theorem someExchange_in_step :
    InStep startUpError (run Evcc.hyundai someLoads startUpError someExchange) ∧
      (run Evcc.hyundai someLoads startUpError someExchange).trace.any (fun
        | .stamped _ _ _ => true
        | _ => false) = true :=
  ⟨in_step Evcc.hyundai (if_pos rfl) someExchange, by decide +kernel⟩

end DbusEv.Pipe
