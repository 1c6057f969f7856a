/-
**The operator's recovery** (`main` of `dbus_ev/providers/evcc.py`) **beside the daemon.**

A refused authorization is written down, and no daemon polls again until an operator has run
`--authorize`. The operator's program is a process of its own, on the same state file and lock; what
it writes ends a chapter of the file's history.

* `Desk` — the host, and the chapters that are closed.
* `authorize` — the operator's program.
* `recovery_chapters` — in every run of any daemons and operators, every chapter is paced and
  latched, and each recovery changes what it found on disk in four keys alone and lets the next poll
  in.
-/

import DbusEv.Providers.Upstream

set_option autoImplicit false
set_option linter.unusedSectionVars false

namespace DbusEv.Evcc

open Thread

/-! ### The operator -/

/-- A recovery: the trace it ends, the file it found, and what it wrote. -/
structure Chapter where
  trace : List Event
  found : Option (Dict PyValue)
  written : Dict PyValue

/-- What the daemons and the operators share: the host, with the trace since the last recovery, and
the chapters before, newest first. -/
structure Desk where
  host : Host
  chapters : List Chapter

/-- What the environment decides at a step, and the exit code of `--authorize`. -/
structure Reply where
  answer : Answer
  returncode : ℤ

abbrev DeskState := EvccClient × Desk

abbrev DeskProgram (α : Type) := Thread Reply DeskState PyError α

/-- The part of the state that a client works on. -/
def hosted (state : DeskState) : State := (state.1, state.2.host)

def rehost (part : State) (state : DeskState) : DeskState :=
  (part.1, { state.2 with host := part.2 })

/-- A program of a client. -/
def onHost {α : Type} (x : Program α) : DeskProgram α := x.zoom Reply.answer hosted rehost

/-- `subprocess.run([…, "--authorize"], shell=False, check=False)`. -/
def runAuthorize : DeskProgram ℤ :=
  Thread.atomic fun reply =>
    match reply.answer.builds with
    | some e => Exec.raise e
    | none => pure reply.returncode

/-- What a recovery changes. -/
def recovered : Dict PyValue :=
  [("blocked", .bool false), ("failures", .int 0), ("next_poll", .int 0), ("next_login", .int 0)]

/-- The state after `store.save(dict(store.data, blocked=False, …))`. -/
def closeChapter (state : DeskState) : DeskState :=
  let data := state.1.data.update recovered
  ({ state.1 with data := data },
    { host := { state.2.host with file := some data, trace := [.saved data] }
      chapters := ⟨state.2.host.trace, state.2.host.file, data⟩ :: state.2.chapters })

def saveRecovered : DeskProgram Unit :=
  Thread.atomic fun reply =>
    match reply.answer.saves with
    | some e => Exec.raise e
    | none => Exec.change closeChapter

/-- `if result.returncode == 0: store.save(…)`. -/
def saveIfAuthorized (returncode : ℤ) : DeskProgram Unit :=
  if returncode = 0 then saveRecovered else pure ()

/-- `main()`. -/
def authorize (process : ℕ) : DeskProgram Unit := do
  onHost (acquire process)
  Thread.ensure (do
      let returncode ← runAuthorize
      saveIfAuthorized returncode)
    (onHost (alter fun state => (state.1, state.2.release process)))

variable [PyText]

/-- The daemons and the operators of one state file. -/
def household (config : ℕ → Config) (isOperator : ℕ → Bool) :
    Service ℕ Call Passing Reply EvccClient Desk PyError where
  launch _ desk := EvccClient.new desk.host
  program process called :=
    if isOperator process then authorize process
    else onHost ((service config).program process called)
  crash process desk := { desk with host := desk.host.release process }
  world passing desk := { desk with host := desk.host.elapse passing.mono passing.wall }

/-- A run of them, from a state file. -/
def householdRun (config : ℕ → Config) (isOperator : ℕ → Bool) (clock : Clock)
    (file : Option (Dict PyValue)) (moves : List (Move ℕ Call Passing Reply)) : Desk :=
  ((household config isOperator).run ⟨⟨clock, file, none, []⟩, []⟩ moves).shared

/-! ### The law -/

/-- A chapter is paced, and latched if its engines stop quietly; the recovery that ended it changed
what was on disk, in its own keys. -/
structure Chapter.Sound (config : ℕ → Config) (chapter : Chapter) : Prop where
  paced : Throughout (Paced config) chapter.trace
  latched : StopsQuietly chapter.trace → Throughout Latched chapter.trace
  written : chapter.written = (chapter.found.getD []).update recovered

/-- The invariant of the shared state. -/
structure Desk.Kept (config : ℕ → Config) (desk : Desk) : Prop where
  host : Evcc.Kept config desk.host
  chapters : ∀ chapter ∈ desk.chapters, chapter.Sound config

/-- The law of a process. -/
def deskLaw (config : ℕ → Config) (process : ℕ) : Law DeskState where
  rely s t := t.1 = s.1 ∧ Rely process s.2.host t.2.host
  may s t := ∀ q, q ≠ process → Rely q s.2.host t.2.host
  inv s := s.2.Kept config

section Programs

variable {config : ℕ → Config} {process : ℕ} {s : DeskState}

/-- **A client's program** knows of the host alone. -/
theorem wp_onHost {α : Type} {x : Program α} {Q : α → State → Prop} {X : PyError → State → Prop}
    (holds : wp (law config process) x Q X (hosted s)) :
    wp (deskLaw config process) (onHost x) (fun a t => Q a (hosted t))
      (fun e t => X e (hosted t)) s :=
  wp_zoom_of_law (fun _ _ => rfl) (fun _ _ others => others) (fun _ kept => kept.host)
    (fun _ _ kept host may => ⟨⟨host, kept.chapters⟩, may⟩) holds

/-- What an operator knows under the lock. -/
structure AtDesk (process : ℕ) (s : State) : Prop where
  holder : s.2.holder = some process
  started : s.1.started = false
  engine : s.1.engine = false
  data : s.1.data = s.2.file.getD []

theorem AtDesk.stable : Stable process (AtDesk process) :=
  stable_of_holder (fun _ desk => desk.holder) fun _ _ _ desk =>
    ⟨desk.holder, desk.started, desk.engine, desk.data⟩

/-- An operator that has let go. -/
theorem AtDesk.released {s : State} (desk : AtDesk process s) :
    Starting (s.1, s.2.release process) := by
  refine ⟨desk.started, desk.engine, fun gone => ?_⟩
  have gone : s.2.file = none := gone
  show s.1.data = []
  rw [desk.data, gone]
  rfl

/-- **`store.acquire`**: the lock, and the data that is then on disk. -/
theorem wp_acquireDesk {s : State} (starting : Starting s) :
    wp (law config process) (acquire process) (fun _ t => AtDesk process t)
      (fun _ t => Starting t) s := by
  unfold acquire
  rw [wp_bind]
  refine wp_attempt Starting.stable starting (fun t starting kept =>
    ⟨kept.release process, fun q differs => .release differs t.2, ?_⟩) fun _ _ starting => starting
  have starting : Starting (openLock process t) :=
    ⟨starting.started, starting.engine, starting.data⟩
  rw [wp_bind]
  refine wp_value (wp_flock starting) fun _ u both => ?_
  refine wp_attempt Starting.stable_locked both (fun v both kept => ?_) fun _ _ both => both.1
  obtain ⟨starting, mine⟩ := both
  have own : (reload v).1.started = false ∧ (reload v).1.engine = false := by
    unfold reload
    cases v.2.file <;> exact ⟨starting.started, starting.engine⟩
  refine ⟨?_, fun q _ => ?_, ?_, own.1, own.2, ?_⟩
  · rw [reload_host]
    exact kept
  · rw [reload_host]
    exact .refl q v.2
  · rw [reload_host]
    exact mine
  · rw [reload_host]
    exact reload_data starting

/-- A step that leaves the state alone. -/
theorem wp_still {α : Type} {x : Reply → Exec DeskState PyError α} {P : State → Prop}
    (stable : Stable process P) (holds : P (hosted s))
    (still : ∀ reply t, (x reply t).2 = t) :
    wp (deskLaw config process) (Thread.atomic x) (fun _ t => P (hosted t))
      (fun _ t => P (hosted t)) s := by
  rw [wp_atomic]
  rintro t ⟨own, others⟩ kept reply
  have there : P (hosted t) := stable (hosted s) (hosted t) own others holds
  have same := still reply t
  rcases result : x reply t with ⟨e | value, u⟩ <;> rw [result] at same <;> subst same
  · rw [Exec.wp_of_error result]
    exact ⟨kept, fun q _ => Rely.refl q _, there⟩
  · rw [Exec.wp_of_ok result]
    exact ⟨kept, fun q _ => Rely.refl q _, there⟩

/-- The last event of a recovery opens a chapter. -/
theorem kept_opened (host : Host) (data : Dict PyValue) :
    Evcc.Kept config { host with file := some data, trace := [.saved data] } := by
  have only : ∀ event ∈ [Event.saved data], event = .saved data := fun _ => List.mem_singleton.mp
  refine ⟨fun event found q before used => ?_, fun q before file found => ?_, ⟨trivial, trivial⟩,
    fun _ => ⟨⟨trivial, trivial⟩, fun event found shut => ?_⟩⟩
  · rw [only event found] at used
    cases used
  · cases only _ found
  · rw [only event found] at shut
    exact shut

/-- What a recovery writes admits the next poll. -/
theorem admits_recovered {client : EvccClient} {data : Dict PyValue}
    (written : client.data = data.update recovered) {now : ℚ} (past : 0 ≤ now) :
    client.admits now = .ok true := by
  have open_ : blocked client.data = false := by
    have shut : (data.update recovered).get "blocked" = some (.bool false) := by
      simp [recovered, Dict.update]
    unfold blocked
    rw [written, shut]
    rfl
  have reached : ∀ key, (data.update recovered).get key = some (.int 0) →
      due client.data key now = .ok true := by
    intro key zero
    unfold due
    rw [written, zero]
    simp [PyValue.reachedAt, past]
  unfold EvccClient.admits
  rw [open_, reached "next_poll" (by simp [recovered, Dict.update]),
    reached "next_login" (by simp [recovered, Dict.update])]
  cases client.engine <;> rfl

/-- **A recovery** closes the chapter. -/
theorem wp_saveRecovered (desk : AtDesk process (hosted s)) :
    wp (deskLaw config process) saveRecovered (fun _ t => AtDesk process (hosted t))
      (fun _ t => AtDesk process (hosted t)) s := by
  unfold saveRecovered
  rw [wp_atomic]
  rintro t ⟨own, others⟩ kept reply
  have desk : AtDesk process (hosted t) := AtDesk.stable (hosted s) (hosted t) own others desk
  cases reply.answer.saves with
  | some e => exact ⟨kept, fun q _ => Rely.refl q _, desk⟩
  | none =>
    refine ⟨⟨kept_opened _ _, fun chapter found => ?_⟩,
      fun q differs => .of_holder differs desk.holder le_rfl nofun,
      desk.holder, desk.started, desk.engine, rfl⟩
    rcases List.mem_cons.mp found with rfl | found
    · refine ⟨kept.host.paced, fun quiet => (kept.host.latched quiet).1, ?_⟩
      rw [show t.1.data = t.2.host.file.getD [] from desk.data]
    · exact kept.chapters chapter found

/-- **`main`**, whatever the engine and the saves do, ends without the lock. -/
theorem wp_authorize (starting : Starting (hosted s)) :
    wp (deskLaw config process) (authorize process) (fun _ t => Starting (hosted t))
      (fun _ t => Starting (hosted t)) s := by
  have release : ∀ t : DeskState, AtDesk process (hosted t) → wp (deskLaw config process)
      (onHost (alter fun state => (state.1, state.2.release process)))
      (fun _ u => Starting (hosted u)) (fun _ u => Starting (hosted u)) t := by
    intro t desk
    exact wp_onHost (wp_alter AtDesk.stable desk fun u desk kept =>
      ⟨kept.release process, fun q differs => .release differs u.2, desk.released⟩)
  unfold authorize
  rw [wp_bind]
  refine wp_value (wp_onHost (wp_acquireDesk starting)) fun _ t desk => ?_
  rw [wp_ensure, wp_bind]
  refine wp_mono (wp_still AtDesk.stable desk fun reply u => ?_) (fun returncode u desk => ?_)
    fun e u desk => release u desk
  · cases reply.answer.builds <;> rfl
  · unfold saveIfAuthorized
    rw [wp_ite]
    exact ⟨fun _ => wp_mono (wp_saveRecovered desk) (fun _ v desk => release v desk)
      fun _ v desk => release v desk, fun _ => release u desk⟩

end Programs

/-! ### Every run -/

/-- What a process knows that has nothing to run. -/
def AtEase (isOperator : ℕ → Bool) (process : ℕ) (s : DeskState) : Prop :=
  if isOperator process then Starting (hosted s) else Idle process (hosted s)

/-- The discipline of the daemons and the operators. -/
def householdDiscipline (config : ℕ → Config) (isOperator : ℕ → Bool) :
    Discipline (household config isOperator) where
  rely p s t := Rely p s.host t.host
  inv := Desk.Kept config
  idle := AtEase isOperator
  rely_refl p s := Rely.refl p s.host
  rely_trans := Rely.trans
  idle_stable {p own s t} others idle := by
    unfold AtEase at *
    by_cases operator : isOperator p
    · rw [if_pos operator] at idle ⊢
      exact Starting.stable (own, s.host) (own, t.host) rfl others idle
    · rw [if_neg operator] at idle ⊢
      exact Idle.stable (own, s.host) (own, t.host) rfl others idle
  launch {s} p kept := by
    have idle := (discipline config).launch p kept.host
    unfold AtEase
    by_cases operator : isOperator p
    · rw [if_pos operator]
      exact ⟨rfl, rfl, idle.data⟩
    · rw [if_neg operator]
      exact idle
  call {p state} called idle := by
    unfold AtEase at *
    show wp (deskLaw config p) (if isOperator p then authorize p else _) _ _ _
    by_cases operator : isOperator p
    · simp only [operator, if_true] at idle ⊢
      exact wp_authorize idle
    · simp only [operator] at idle ⊢
      exact wp_onHost ((discipline config).call called idle)
  crash {s} p kept := by
    obtain ⟨host, others⟩ := (discipline config).crash p kept.host
    exact ⟨⟨host, kept.chapters⟩, others⟩
  world {s} passing kept := by
    obtain ⟨host, others⟩ := (discipline config).world passing kept.host
    exact ⟨⟨host, kept.chapters⟩, others⟩

/-- **Between two recoveries nothing is forgotten.** For any daemons and operators on one state
file, any interleaving of their steps, crashes and failures: in every chapter polls and logins are
spaced and reserved on disk, and after a saved block no engine is used; the block is still on disk
when the chapter goes on, so only an operator lifts it. A recovery changes its four keys in what it
found on disk, and nothing else, and lets the next poll use an engine. -/
theorem recovery_chapters (config : ℕ → Config) (isOperator : ℕ → Bool) (clock : Clock)
    (file : Option (Dict PyValue)) (moves : List (Move ℕ Call Passing Reply)) :
    let desk := householdRun config isOperator clock file moves
    (∀ chapter ∈ desk.chapters, chapter.Sound config ∧ ∀ client : EvccClient,
      client.data = chapter.written → ∀ now, 0 ≤ now → client.admits now = .ok true) ∧
      Throughout (Paced config) desk.host.trace ∧
      (StopsQuietly desk.host.trace → Throughout Latched desk.host.trace ∧
        ∀ event ∈ desk.host.trace, event.blocks = true →
          blocked (desk.host.file.getD []) = true) := by
  have empty : Desk.Kept config ⟨⟨clock, file, none, []⟩, []⟩ :=
    ⟨⟨fun _ found => absurd found List.not_mem_nil,
      fun _ _ _ found => absurd found List.not_mem_nil, trivial,
      fun _ => ⟨trivial, fun _ found => absurd found List.not_mem_nil⟩⟩,
      fun _ found => absurd found List.not_mem_nil⟩
  have kept : Desk.Kept config (householdRun config isOperator clock file moves) :=
    Discipline.keeps (householdDiscipline config isOperator) empty moves
  refine ⟨fun chapter found => ⟨kept.chapters chapter found, fun client data now past => ?_⟩,
    kept.host.paced, kept.host.latched⟩
  exact admits_recovered (data.trans (kept.chapters chapter found).written) past

end DbusEv.Evcc
