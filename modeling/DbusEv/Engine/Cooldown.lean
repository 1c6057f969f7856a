/-
**What a run does to the pause of the traffic gate** (`vehicle-engine/traffic.go`).

* `Called` — one call of `RoundTrip`: it is refused, its request is answered, or it is rejected.
  Only a rejection moves the pause and the counter, and only a save brings them to the file.
* `Event`, `logged` — the restarts, requests and rejections of a run, newest first.
* `Ledger` — which rejections the memory and the file stand for. The counters of both are their
  numbers, up to 5, and every pause they hold is one that a request waited for (`Backed.run`).
-/

import DbusEv.Engine.Traffic

set_option autoImplicit false

namespace DbusEv.Engine

/-! ### One call -/

/-- The pause and the counter of a state. -/
structure Cooldown where
  pause : ℤ
  failures : ℕ

def TrafficState.cooldown (state : TrafficState) : Cooldown := ⟨state.pause, state.failures⟩

/-- The state a restart would find. -/
def World.disk (world : World) : TrafficState := world.file.getD .zero

/-- How a call ends. -/
inductive Called (call : Call) (before : World) : World → Prop
  /-- No request is sent. -/
  | refused {after : World} (sent : after.sent = before.sent)
      (memory : after.state.cooldown = before.state.cooldown)
      (file : after.file = before.file) : Called call before after
  /-- The request fails, or the response is no rejection. -/
  | answered {after : World} {request : Sent} (sent : after.sent = request :: before.sent)
      (unpaused : before.state.pause ≤ request.called)
      (accepted : ∀ response ∈ call.response, response.isRejection = false)
      (memory : after.state.cooldown = before.state.cooldown)
      (file : after.file = some after.state) : Called call before after
  /-- The response is a rejection. -/
  | rejected {after : World} {request : Sent} {response : Response}
      (sent : after.sent = request :: before.sent)
      (unpaused : before.state.pause ≤ request.called) (past : request.called ≤ after.clock)
      (answer : call.response = some response) (rejection : response.isRejection = true)
      (memory : after.state.cooldown = (before.state.rejected after.clock response).cooldown)
      (file : if call.secondSave then after.file = some after.state
        else ∃ disk, after.file = some disk ∧ disk.cooldown = before.state.cooldown) :
      Called call before after

section Calls

open Exec

variable {world before : World}

@[simp] theorem sent_passes (time : ℕ) : (world.passes time).sent = world.sent := rfl

@[simp] theorem state_passes (time : ℕ) : (world.passes time).state = world.state := rfl

@[simp] theorem file_passes (time : ℕ) : (world.passes time).file = world.file := rfl

@[simp] theorem sent_windowed (now : ℤ) : (world.windowed now).sent = world.sent := by
  unfold World.windowed
  split <;> rfl

@[simp] theorem file_windowed (now : ℤ) : (world.windowed now).file = world.file := by
  unfold World.windowed
  split <;> rfl

@[simp] theorem cooldown_windowed (now : ℤ) :
    (world.windowed now).state.cooldown = world.state.cooldown := by
  unfold World.windowed
  split <;> rfl

theorem clock_windowed (now : ℤ) : (world.windowed now).clock = world.clock := by
  unfold World.windowed
  split <;> rfl

/-- The state is in the file, and a request that the pause allowed has just been sent. -/
structure Sending (before : World) (request : Sent) (world : World) : Prop where
  sent : world.sent = request :: before.sent
  unpaused : before.state.pause ≤ request.called
  past : request.called ≤ world.clock
  memory : world.state.cooldown = before.state.cooldown
  file : world.file = some world.state

theorem rejected_cooldown {state other : TrafficState} (same : state.cooldown = other.cooldown)
    (now : ℤ) (response : Response) :
    (state.rejected now response).cooldown = (other.rejected now response).cooldown := by
  have failures : state.failures = other.failures := congrArg Cooldown.failures same
  simp only [TrafficState.rejected, TrafficState.cooldown, failures]

theorem called_upstream {request : Sent} (sending : Sending before request world) (call : Call) :
    Keeps (Called call before) (upstream call) world := by
  have past : request.called ≤ (world.passes call.took).clock := by
    show request.called ≤ world.clock + call.took
    have past := sending.past
    omega
  unfold Keeps upstream
  rw [wp_bind, wp_change]
  cases answer : call.response with
  | none =>
    refine .answered sending.sent sending.unpaused ?_ sending.memory sending.file
    intro response found
    rw [answer] at found
    cases found
  | some response =>
    show wp (if response.isRejection then _ else _) _ _ _
    rw [wp_ite]
    refine ⟨fun rejection => ?_, fun accepted => ?_⟩
    · have memory := rejected_cooldown sending.memory (world.passes call.took).clock response
      rw [wp_bind, wp_change, wp_bind]
      unfold save
      rw [wp_ite]
      refine ⟨fun saved => ?_, fun failed => ?_⟩
      · refine .rejected sending.sent sending.unpaused past answer rejection memory ?_
        rw [if_pos saved]
        rfl
      · refine .rejected sending.sent sending.unpaused past answer rejection memory ?_
        rw [if_neg failed]
        exact ⟨world.state, sending.file, sending.memory⟩
    · refine .answered sending.sent sending.unpaused ?_ sending.memory sending.file
      intro other found
      rw [answer] at found
      obtain rfl := Option.some.inj found
      exact Bool.eq_false_iff.mpr accepted

theorem called_admitRequest (call : Call) {called : ℤ} {held : TrafficState}
    {found : Option TrafficState} (sent : world.sent = before.sent)
    (unpaused : before.state.pause ≤ called) (past : called ≤ world.clock)
    (memory : world.state.cooldown = before.state.cooldown) (file : world.file = before.file) :
    Keeps (Called call before) (admitRequest call called held found) world := by
  unfold Keeps admitRequest
  rw [wp_bind, wp_read, wp_bind, wp_change, wp_bind]
  unfold save
  rw [wp_ite]
  refine ⟨fun _ => ?_, fun _ => .refused sent memory file⟩
  rw [wp_change, wp_bind, wp_change]
  have sending : Sending before ⟨called, held, found, world.clock, some world.counted.state⟩
      (world.counted.stored.sends called held found world.clock) := by
    refine ⟨?_, unpaused, past, memory, rfl⟩
    rw [← sent]
    rfl
  exact called_upstream sending call

/-- **A call** ends in one of the three ways. -/
theorem called_roundTrip (call : Call) (before : World) :
    Called call before (roundTrip call before).2 := by
  apply Keeps.final (I := Called call before)
  unfold Keeps roundTrip
  rw [wp_bind, wp_change, wp_bind, wp_read, wp_ite]
  refine ⟨fun _ => .refused rfl rfl rfl, fun unpaused => ?_⟩
  generalize shape : before.passes call.idle = start at unpaused ⊢
  have sent : start.sent = before.sent := by rw [← shape]; rfl
  have file : start.file = before.file := by rw [← shape]; rfl
  have state : start.state = before.state := by rw [← shape]; rfl
  rw [state] at unpaused
  rw [wp_bind, wp_change, wp_bind, wp_read, wp_ite]
  have refused : ∀ time : ℕ, Called call before ((start.windowed start.clock).passes time) := by
    intro time
    refine .refused ?_ ?_ ?_
    · rw [sent_passes, sent_windowed, sent]
    · rw [state_passes, cooldown_windowed, state]
    · rw [file_passes, file_windowed, file]
  refine ⟨fun _ => ?_, fun _ => ?_⟩
  · refine .refused ?_ ?_ ?_
    · rw [sent_windowed, sent]
    · rw [cooldown_windowed, state]
    · rw [file_windowed, file]
  · rw [wp_bind]
    refine wp_mono (await_spec call start.clock) ?_ ?_
    · rintro - - ⟨time, -, rfl⟩
      refine called_admitRequest call ?_ (not_lt.mp unpaused) ?_ ?_ ?_
      · rw [sent_passes, sent_windowed, sent]
      · show start.clock ≤ (start.windowed start.clock).clock + time
        rw [clock_windowed]
        omega
      · rw [state_passes, cooldown_windowed, state]
      · rw [file_passes, file_windowed, file]
    · rintro - - ⟨time, rfl⟩
      exact refused time

end Calls

/-! ### The log of a run -/

/-- A rejection that the gate handled. -/
structure Rejection where
  /-- The clock reading from which the pause was computed. -/
  handled : ℤ
  response : Response
  /-- The counter before it. -/
  failures : ℕ
  /-- The save after it succeeded. -/
  saved : Bool

/-- The instant until which it pauses. -/
def Rejection.until (rejection : Rejection) : ℤ :=
  rejection.handled + ⌊rejectionDelay (min 5 (rejection.failures + 1))
    (errorOf rejection.response.status)
    (rejection.response.retryAfter.delay rejection.handled)⌋ * second

/-- What happens to an engine. -/
inductive Event
  | restarted
  | sent (request : Sent)
  | rejected (rejection : Rejection)

/-- The rejection of a call that sent its request. -/
def Call.rejection (call : Call) (before after : World) : List Event :=
  match call.response with
  | some response =>
    if response.isRejection then
      [.rejected ⟨after.clock, response, before.state.failures, call.secondSave⟩]
    else []
  | none => []

/-- What happens in a step from one world to the next; a request is one that `sent` did not have. -/
def happened (before : World) (move : Move) (after : World) : List Event :=
  match move with
  | .restart _ => [.restarted]
  | .call call =>
    match after.sent.take (after.sent.length - before.sent.length) with
    | [] => []
    | request :: _ => call.rejection before after ++ [.sent request]

/-- A step, with its events. -/
def logStep (s : World × List Event) (move : Move) : World × List Event :=
  (step s.1 move, happened s.1 move (step s.1 move) ++ s.2)

/-- A run from a state file, with its events. -/
def logged (clock : ℤ) (file : Option TrafficState) (moves : List Move) : World × List Event :=
  moves.foldl logStep (.asleep clock file, [])

/-- The log observes the run. -/
theorem logged_run (clock : ℤ) (file : Option TrafficState) (moves : List Move) :
    (logged clock file moves).1 = run clock file moves := by
  have fold : ∀ s : World × List Event, (moves.foldl logStep s).1 = moves.foldl step s.1 := by
    induction moves with
    | nil => exact fun _ => rfl
    | cons move rest ih => exact fun s => ih (logStep s move)
  exact fold _

/-! ### The rejections that memory and file stand for -/

/-- The rejections that the memory and the file know of, newest first. -/
structure Ledger where
  memory : List Rejection
  file : List Rejection

/-- A request is sent after a save; a restart finds what was saved. -/
def Ledger.note : Event → Ledger → Ledger
  | .restarted, ledger => ⟨ledger.file, ledger.file⟩
  | .sent _, ledger => ⟨ledger.memory, ledger.memory⟩
  | .rejected rejection, ledger =>
    ⟨rejection :: ledger.memory,
      if rejection.saved then rejection :: ledger.memory else ledger.file⟩

def ledger (events : List Event) : Ledger := events.foldr Ledger.note ⟨[], []⟩

/-- The rejections of a log. -/
def rejections : List Event → List Rejection
  | [] => []
  | .rejected rejection :: earlier => rejection :: rejections earlier
  | _ :: earlier => rejections earlier

theorem rejections_append (later earlier : List Event) :
    rejections (later ++ earlier) = rejections later ++ rejections earlier := by
  induction later with
  | nil => rfl
  | cons event rest ih =>
    cases event with
    | rejected rejection => exact congrArg (rejection :: ·) ih
    | restarted => exact ih
    | sent request => exact ih

/-- **A process knows of every rejection** since it was started. -/
theorem ledger_memory {events : List Event} (kept : Event.restarted ∉ events)
    (base : List Event) :
    (ledger (events ++ base)).memory = rejections events ++ (ledger base).memory := by
  induction events with
  | nil => rfl
  | cons event earlier ih =>
    obtain ⟨other, rest⟩ := not_or.mp (mt List.mem_cons.mpr kept)
    cases event with
    | restarted => exact absurd rfl other
    | sent request => exact ih rest
    | rejected rejection => exact congrArg (rejection :: ·) (ih rest)

theorem not_restarted_happened (call : Call) (before after : World) :
    Event.restarted ∉ happened before (.call call) after := by
  unfold happened Call.rejection
  dsimp only
  split
  · exact List.not_mem_nil
  · split
    · split <;> simp
    · simp

/-- The calls of one process. -/
theorem exists_calls_log (calls : List Call) (s : World × List Event) :
    ∃ events, Event.restarted ∉ events ∧
      ((calls.map Move.call).foldl logStep s).2 = events ++ s.2 := by
  induction calls generalizing s with
  | nil => exact ⟨[], List.not_mem_nil, rfl⟩
  | cons call rest ih =>
    obtain ⟨events, kept, log⟩ := ih (logStep s (.call call))
    refine ⟨events ++ happened s.1 (.call call) (step s.1 (.call call)), ?_, ?_⟩
    · intro member
      cases List.mem_append.mp member with
      | inl later => exact kept later
      | inr now => exact not_restarted_happened _ _ _ now
    · rw [List.append_assoc]
      exact log

/-- A rejection, once the pause is past, extends what `P` says. -/
def Grows (P : Cooldown → List Rejection → Prop) : Prop :=
  ∀ (state : TrafficState) (list : List Rejection) (now : ℤ) (response : Response) (saved : Bool),
    state.pause ≤ now → P state.cooldown list →
      P (state.rejected now response).cooldown (⟨now, response, state.failures, saved⟩ :: list)

/-- What memory and file, each with its rejections, satisfy. -/
structure Represents (P : Cooldown → List Rejection → Prop) (s : World × List Event) : Prop where
  memory : s.1.alive → P s.1.state.cooldown (ledger s.2).memory
  file : P s.1.disk.cooldown (ledger s.2).file

section Represents

variable {P : Cooldown → List Rejection → Prop} {s : World × List Event}

theorem happened_of_sent {before after : World} {request : Sent}
    (sent : after.sent = request :: before.sent) (call : Call) :
    happened before (.call call) after = call.rejection before after ++ [.sent request] := by
  have grown : after.sent.take (after.sent.length - before.sent.length) = [request] := by
    rw [sent, List.length_cons, Nat.add_sub_cancel_left]
    rfl
  simp only [happened, grown]

theorem happened_of_refused {before after : World} (sent : after.sent = before.sent)
    (call : Call) : happened before (.call call) after = [] := by
  have same : after.sent.take (after.sent.length - before.sent.length) = [] := by
    rw [sent, Nat.sub_self, List.take_zero]
  simp only [happened, same]

theorem rejection_of_accepted {call : Call} {before after : World}
    (accepted : ∀ response ∈ call.response, response.isRejection = false) :
    call.rejection before after = [] := by
  unfold Call.rejection
  cases answer : call.response with
  | none => rfl
  | some response =>
    have refused := accepted response answer
    simp only [refused, Bool.false_eq_true, if_false]

theorem rejection_of_rejected {call : Call} {before after : World} {response : Response}
    (answer : call.response = some response) (rejection : response.isRejection = true) :
    call.rejection before after =
      [.rejected ⟨after.clock, response, before.state.failures, call.secondSave⟩] := by
  simp only [Call.rejection, answer, rejection, if_true]

theorem disk_of_file {world other : World} (file : world.file = other.file) :
    world.disk = other.disk := by
  simp only [World.disk, file]

theorem disk_of_some {world : World} {state : TrafficState} (file : world.file = some state) :
    world.disk = state := by
  simp only [World.disk, file, Option.getD_some]

/-- What a call that sends nothing, an accepted and a rejected request log. -/
theorem happened_call (call : Call) (before : World) :
    happened before (.call call) (roundTrip call before).2 = [] ∨
      ∃ request : Sent, before.state.pause ≤ request.called ∧
        (happened before (.call call) (roundTrip call before).2 = [.sent request] ∨
          ∃ rejection, happened before (.call call) (roundTrip call before).2 =
            [.rejected rejection, .sent request]) := by
  have called := called_roundTrip call before
  generalize (roundTrip call before).2 = after at called ⊢
  cases called with
  | refused sent memory file => exact Or.inl (happened_of_refused sent call)
  | answered sent unpaused accepted memory file =>
    rw [happened_of_sent sent, rejection_of_accepted accepted]
    exact Or.inr ⟨_, unpaused, Or.inl rfl⟩
  | rejected sent unpaused past answer rejection memory file =>
    rw [happened_of_sent sent, rejection_of_rejected answer rejection]
    exact Or.inr ⟨_, unpaused, Or.inr ⟨_, rfl⟩⟩

/-- **A call keeps** what a rejection extends. -/
theorem Represents.call (represents : Represents P s) (grows : Grows P)
    (alive : s.1.alive = true) (call : Call) :
    Represents P (logStep s (.call call)) := by
  have called := called_roundTrip call s.1
  have memory := represents.memory alive
  have stepped : step s.1 (.call call) = (roundTrip call s.1).2 := if_pos alive
  unfold logStep
  rw [stepped]
  generalize (roundTrip call s.1).2 = after at called
  cases called with
  | refused sent same file =>
    rw [happened_of_refused sent, List.nil_append]
    refine ⟨fun _ => ?_, ?_⟩
    · show P after.state.cooldown _
      rw [same]
      exact memory
    · show P after.disk.cooldown _
      rw [disk_of_file file]
      exact represents.file
  | answered sent unpaused accepted same file =>
    rw [happened_of_sent sent, rejection_of_accepted accepted]
    refine ⟨fun _ => ?_, ?_⟩
    · show P after.state.cooldown _
      rw [same]
      exact memory
    · show P after.disk.cooldown _
      rw [disk_of_some file, same]
      exact memory
  | @rejected request response sent unpaused past answer rejection same file =>
    have grown := grows s.1.state _ after.clock response call.secondSave (unpaused.trans past)
      memory
    rw [happened_of_sent sent, rejection_of_rejected answer rejection]
    refine ⟨fun _ => ?_, ?_⟩
    · show P after.state.cooldown _
      rw [same]
      exact grown
    · show P after.disk.cooldown (if call.secondSave then _ else _)
      cases saved : call.secondSave with
      | true =>
        rw [saved, if_pos rfl] at file
        rw [saved] at grown
        rw [disk_of_some file, same, if_pos rfl]
        exact grown
      | false =>
        rw [saved, if_neg Bool.false_ne_true] at file
        obtain ⟨disk, file, same⟩ := file
        rw [disk_of_some file, same]
        exact memory

theorem Represents.step (represents : Represents P s) (grows : Grows P) (move : Move) :
    Represents P (logStep s move) := by
  cases move with
  | call call =>
    cases alive : s.1.alive with
    | true => exact represents.call grows alive call
    | false =>
      have still : Engine.step s.1 (.call call) = s.1 := by
        show (if s.1.alive then _ else _) = _
        rw [alive]
        rfl
      unfold logStep
      rw [still, happened_of_refused rfl]
      exact represents
  | restart reads =>
    cases reads with
    | true => exact ⟨fun _ => represents.file, represents.file⟩
    | false => exact ⟨fun alive => absurd alive Bool.false_ne_true, represents.file⟩

theorem Represents.run (represents : Represents P s) (grows : Grows P) (moves : List Move) :
    Represents P (moves.foldl logStep s) := by
  induction moves generalizing s with
  | nil => exact represents
  | cons move rest ih => exact ih (represents.step grows move)

end Represents

end DbusEv.Engine
