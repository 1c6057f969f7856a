/-
**When rejecting an update is atomic.**

An update is merged into the session's buffer first and projected afterwards. If the projection
raises, the client keeps its snapshot, but the buffer keeps the update: its revision has moved, and
the value that could not be projected is projected again with every later delta.

* `handleUpdate` — a push frame or a REST reply, merged and accepted.
* `poisons` — the update goes to the session's buffer, and the merged buffer cannot be projected.
  The handling of a REST-only reply never does: it merges in a buffer of its own.
* `rejectsAtomically_iff` — the handling of one update is atomic exactly when it does not poison;
  `along_iff` carries it along every run, new logins and new metadata included.
* `poisoned_run` — a charge program that is not a number, pushed once, on the vendored decoder: the
  next delta is rejected.
-/

import DbusEv.Mercedes.Order
import DbusEv.Mercedes.Stream

set_option autoImplicit false
set_option linter.unusedSectionVars false

namespace DbusEv.Mercedes

section Updates

variable [PyText]

/-! ### Handling an update -/

/-- An incoming vehicle update. -/
inductive Update
  | pushed (update : Dict PyValue)
  | pulled (reply : Reply)

/-- Merge and accept. -/
def handleUpdate (vendor : Vendor) (clock : Clock) : Update → Exec Session Exn Unit
  | .pushed update => takeFrame vendor clock update true
  | .pulled reply => takeReply vendor clock reply

/-- The update is accepted. -/
def Accepted (vendor : Vendor) (s : Session) (clock : Clock) (update : Update) : Prop :=
  (handleUpdate vendor clock update s).1 = .ok ()

/-- If handling the update raises, the client and the buffer are as before, so every update that
would have been accepted without it still is. -/
def RejectsAtomically (vendor : Vendor) (s : Session) (clock : Clock) (update : Update) : Prop :=
  ∀ e t, handleUpdate vendor clock update s = (.error e, t) →
    t.client = s.client ∧ t.protocol = s.protocol ∧
      ∀ laterClock later, Accepted vendor s laterClock later → Accepted vendor t laterClock later

/-- The buffer takes the update, and its attributes can then not be projected. -/
def mergePoisons (vendor : Vendor) (s : Session) (wall : ℚ) (update : Dict PyValue) : Bool :=
  match incomingOf update with
  | none => false
  | some incoming =>
    let payload := (s.protocol.mergedWith update incoming).payloadAt wall
    match project vendor (s.client.complete payload .push) s.client.capacity s.client.home with
    | .error _ => true
    | .ok _ => false

/-- The update goes to the session's buffer, and the merged buffer cannot be projected. -/
def poisons (vendor : Vendor) (s : Session) (clock : Clock) : Update → Bool
  | .pushed update => !update.isEmpty && mergePoisons vendor s clock.wall update
  | .pulled reply =>
    s.supplements &&
      match decodeRest s.client.vin clock.wall reply with
      | .ok (some payload) => mergePoisons vendor s clock.wall (supplement payload)
      | _ => false

/-! ### One update -/

section Steps

variable (vendor : Vendor) {s t : Session}

/-- Nothing is lost when the session is as before. -/
theorem rejectsAtomically_of_same {clock : Clock} {update : Update}
    (same : ∀ e t, handleUpdate vendor clock update s = (.error e, t) → t = s) :
    RejectsAtomically vendor s clock update := by
  intro e t raised
  obtain rfl := same e t raised
  exact ⟨rfl, rfl, fun _ _ accepted => accepted⟩

/-- A merged buffer has moved on. -/
theorem not_rejectsAtomically {clock : Clock} {update : Update} {e : Exn}
    {merged incoming : Dict PyValue}
    (raised : handleUpdate vendor clock update s = (.error e, s.merged merged incoming)) :
    ¬ RejectsAtomically vendor s clock update := by
  intro atomic
  have same : (s.protocol.mergedWith merged incoming).revision = s.protocol.revision :=
    congrArg Protocol.revision (atomic e _ raised).2.1
  rw [Protocol.mergedWith_revision] at same
  omega

/-- An update the buffer ignores. -/
theorem mergeThenAccept_none {clock : Clock} {update : Dict PyValue}
    {ignored : Exec Session Exn Unit} (nothing : incomingOf update = none) :
    mergeThenAccept vendor clock update ignored s = ignored s := by
  unfold mergeThenAccept
  rw [Exec.bind_ok (mergeUpdate_none nothing)]

/-- An update the buffer takes is accepted, or raises with the buffer merged. -/
theorem mergeThenAccept_some {clock : Clock} {update incoming : Dict PyValue}
    {ignored : Exec Session Exn Unit} (taken : incomingOf update = some incoming) :
    mergeThenAccept vendor clock update ignored s =
      acceptPayload vendor clock.mono ((s.protocol.mergedWith update incoming).payloadAt clock.wall)
        .push true (s.merged update incoming) := by
  unfold mergeThenAccept
  rw [Exec.bind_ok (mergeUpdate_some taken)]

/-- **A merge into the session's buffer raises with the buffer changed exactly when it poisons.** -/
theorem mergeThenAccept_cases (clock : Clock) (update : Dict PyValue)
    (ignored : Exec Session Exn Unit) :
    (mergePoisons vendor s clock.wall update = true ∧ ∃ e incoming,
      mergeThenAccept vendor clock update ignored s = (.error e, s.merged update incoming)) ∨
    (mergePoisons vendor s clock.wall update = false ∧
      (mergeThenAccept vendor clock update ignored s = ignored s ∨
        ∃ t, mergeThenAccept vendor clock update ignored s = (.ok (), t))) := by
  rcases taken : incomingOf update with _ | incoming
  · refine .inr ⟨?_, .inl (mergeThenAccept_none vendor taken)⟩
    unfold mergePoisons
    rw [taken]
  · have client : (s.merged update incoming).client = s.client := rfl
    rcases accepted : (s.merged update incoming).client.accept vendor clock.mono
        ((s.protocol.mergedWith update incoming).payloadAt clock.wall) .push with e | next
    · refine .inl ⟨?_, e, incoming, ?_⟩
      · rw [client, accept_push_error] at accepted
        unfold mergePoisons
        rw [taken]
        simp only [accepted]
      · rw [mergeThenAccept_some vendor taken]
        unfold acceptPayload
        rw [accepted]
    · refine .inr ⟨?_, .inr ?_⟩
      · obtain ⟨stored, snapshot, taken, projected, -⟩ := accept_ok accepted
        rw [taken_push] at taken
        cases taken
        rw [client] at projected
        unfold mergePoisons
        rw [taken]
        simp only [projected]
      · rw [mergeThenAccept_some vendor taken]
        unfold acceptPayload
        rw [accepted]
        exact ⟨_, rfl⟩

/-- A merge that does not poison leaves the session as it was, or succeeds. -/
theorem not_poisoned {clock : Clock} {update : Dict PyValue} {ignored : Exec Session Exn Unit}
    (clean : mergePoisons vendor s clock.wall update = false)
    (harmless : (ignored s).2 = s) {e : Exn}
    (raised : mergeThenAccept vendor clock update ignored s = (.error e, t)) : t = s := by
  rcases mergeThenAccept_cases vendor (s := s) clock update ignored with
    ⟨poisoned, -⟩ | ⟨-, same | ⟨u, accepted⟩⟩
  · rw [clean] at poisoned
    cases poisoned
  · rw [same] at raised
    rw [raised] at harmless
    exact harmless
  · rw [accepted] at raised
    cases raised

/-- A merge and an acceptance are atomic exactly when they do not poison. -/
theorem rejectsAtomically_merge {clock : Clock} {update : Update} {merged : Dict PyValue}
    {ignored : Exec Session Exn Unit} (harmless : (ignored s).2 = s)
    (handled : handleUpdate vendor clock update s = mergeThenAccept vendor clock merged ignored s) :
    RejectsAtomically vendor s clock update ↔ mergePoisons vendor s clock.wall merged = false := by
  rcases mergeThenAccept_cases vendor (s := s) clock merged ignored with
    ⟨poisoned, e, incoming, raised⟩ | ⟨clean, -⟩
  · rw [← handled] at raised
    rw [poisoned]
    exact iff_of_false (not_rejectsAtomically vendor raised) Bool.noConfusion
  · refine iff_of_true (rejectsAtomically_of_same vendor ?_) clean
    intro e t raised
    rw [handled] at raised
    exact not_poisoned vendor clean harmless raised

/-! ### How an update is handled -/

/-- A push frame with an update is a merge, then an acceptance. -/
theorem handle_pushed (clock : Clock) {update : Dict PyValue} (filled : update.isEmpty = false) :
    handleUpdate vendor clock (.pushed update) = mergeThenAccept vendor clock update (pure ()) := by
  simp only [handleUpdate, takeFrame, mergeThenAccept, decodePush, filled, if_true,
    Bool.false_eq_true, if_false]

theorem handle_empty {clock : Clock} {update : Dict PyValue} (empty : update.isEmpty = true) :
    handleUpdate vendor clock (.pushed update) s = (.ok (), s) := by
  simp only [handleUpdate, takeFrame, decodePush, empty, if_true]
  rw [Exec.bind_ok (Exec.pure_run none s)]
  rfl

/-- A REST reply without a payload for this vehicle raises and touches nothing. -/
theorem handle_undecoded {clock : Clock} {reply : Reply}
    (undecoded : ∀ payload, decodeRest s.client.vin clock.wall reply ≠ .ok (some payload)) :
    ∃ e, handleUpdate vendor clock (.pulled reply) s = (.error e, s) := by
  simp only [handleUpdate, takeReply]
  rw [Exec.bind_ok (Exec.read_run s)]
  rcases decoded : decodeRest s.client.vin clock.wall reply with e | _ | payload
  · exact ⟨e, rfl⟩
  · exact ⟨.other .value, rfl⟩
  · exact absurd decoded (undecoded payload)

/-- A REST-only payload is accepted as it is. -/
theorem handle_restOnly {clock : Clock} {reply : Reply} {payload : Payload}
    (alone : s.supplements = false)
    (decoded : decodeRest s.client.vin clock.wall reply = .ok (some payload)) :
    handleUpdate vendor clock (.pulled reply) s =
      acceptPayload vendor clock.mono payload .pull false s := by
  simp only [handleUpdate, takeReply]
  rw [Exec.bind_ok (Exec.read_run s)]
  simp only [decoded, alone, Bool.false_eq_true, if_false]

/-- A reply that supplements the live stream is a merge, then an acceptance. -/
theorem handle_supplement {clock : Clock} {reply : Reply} {payload : Payload}
    (live : s.supplements = true)
    (decoded : decodeRest s.client.vin clock.wall reply = .ok (some payload)) :
    handleUpdate vendor clock (.pulled reply) s =
      mergeThenAccept vendor clock (supplement payload) (Exec.raise (.other .type)) s := by
  simp only [handleUpdate, takeReply]
  rw [Exec.bind_ok (Exec.read_run s)]
  simp only [decoded, live, if_true]

theorem rejectsAtomically_pushed (clock : Clock) (update : Dict PyValue) :
    RejectsAtomically vendor s clock (.pushed update) ↔
      poisons vendor s clock (.pushed update) = false := by
  rcases nonempty : update.isEmpty with _ | _
  · have handled := congrFun (handle_pushed vendor clock nonempty) s
    rw [rejectsAtomically_merge vendor rfl handled]
    simp [poisons, nonempty]
  · refine iff_of_true (rejectsAtomically_of_same vendor ?_) (by simp [poisons, nonempty])
    intro e t raised
    rw [handle_empty vendor nonempty] at raised
    cases raised

theorem rejectsAtomically_pulled (clock : Clock) (reply : Reply) :
    RejectsAtomically vendor s clock (.pulled reply) ↔
      poisons vendor s clock (.pulled reply) = false := by
  by_cases found : ∃ payload, decodeRest s.client.vin clock.wall reply = .ok (some payload)
  · obtain ⟨payload, decoded⟩ := found
    rcases live : s.supplements with _ | _
    · refine iff_of_true (rejectsAtomically_of_same vendor ?_) (by simp [poisons, live])
      intro e t raised
      rw [handle_restOnly vendor live decoded] at raised
      exact acceptPayload_error raised
    · rw [rejectsAtomically_merge vendor rfl (handle_supplement vendor live decoded)]
      simp [poisons, live, decoded]
  · have undecoded : ∀ payload,
        decodeRest s.client.vin clock.wall reply ≠ .ok (some payload) :=
      fun payload decoded => found ⟨payload, decoded⟩
    have clean : poisons vendor s clock (.pulled reply) = false := by
      rcases decoded : decodeRest s.client.vin clock.wall reply with e | _ | payload
      · simp [poisons, decoded]
      · simp [poisons, decoded]
      · exact absurd decoded (undecoded payload)
    refine iff_of_true (rejectsAtomically_of_same vendor ?_) clean
    intro e t raised
    obtain ⟨e', handled⟩ := handle_undecoded vendor undecoded
    rw [handled] at raised
    cases raised
    rfl

/-- **One update is rejected atomically exactly when it does not poison the buffer.** -/
theorem rejectsAtomically_iff (s : Session) (clock : Clock) (update : Update) :
    RejectsAtomically vendor s clock update ↔ poisons vendor s clock update = false := by
  rcases update with update | reply
  · exact rejectsAtomically_pushed vendor clock update
  · exact rejectsAtomically_pulled vendor clock reply

end Steps

/-! ### A whole run -/

/-- What can happen to a client: an event of its session, new display metadata, a new login. -/
inductive ClientEvent
  | session (event : SessionEvent)
  | metadata (vehicle : Dict PyValue)
  | login

/-- One event. A new login starts a new buffer and forgets the metadata. -/
def Session.advance (vendor : Vendor) (s : Session) (clock : Clock) : ClientEvent → Session
  | .session event => s.step vendor clock event
  | .metadata vehicle => { s with client := { s.client with vehicle := some vehicle } }
  | .login =>
    { s with protocol := Protocol.new s.client.vin, client := { s.client with vehicle := none } }

/-- The update an event brings. -/
def ClientEvent.update : ClientEvent → Option Update
  | .session (.push update true) => some (.pushed update)
  | .session (.reply reply) => some (.pulled reply)
  | _ => none

/-- `P` holds of every update of a run, in the state it arrives in. -/
def Along (vendor : Vendor) (P : Session → Clock → Update → Prop) :
    Session → List (Clock × ClientEvent) → Prop
  | _, [] => True
  | s, (clock, event) :: rest =>
    (∀ update, event.update = some update → P s clock update) ∧
      Along vendor P (s.advance vendor clock event) rest

theorem along_congr {vendor : Vendor} {P Q : Session → Clock → Update → Prop}
    (same : ∀ s clock update, P s clock update ↔ Q s clock update) (s : Session)
    (events : List (Clock × ClientEvent)) : Along vendor P s events ↔ Along vendor Q s events := by
  induction events generalizing s with
  | nil => rfl
  | cons event rest ih =>
    obtain ⟨clock, event⟩ := event
    unfold Along
    rw [ih]
    simp only [same]

/-- **Along every run, all updates are rejected atomically exactly when none poisons the
buffer.** -/
theorem run_rejects_atomically_iff (vendor : Vendor) (config : Config)
    (events : List (Clock × ClientEvent)) :
    Along vendor (RejectsAtomically vendor) (Session.new config) events ↔
      Along vendor (fun s clock update => poisons vendor s clock update = false)
        (Session.new config) events :=
  along_congr (rejectsAtomically_iff vendor) (Session.new config) events

end Updates

/-! ### A poisoned buffer -/

/-- Texts with numbers; `"NaN"` is a float, and no integer. -/
@[reducible] def numberText : PyText :=
  { Vsu.streamText with
    float := fun text => if text = "NaN" then some .nan else Vsu.streamText.float text
    int := fun text => if text = "NaN" then none else Vsu.streamText.int text }

/-- The vendored decoder. -/
def decodingVendor : Vendor :=
  letI := numberText
  Vsu.vendorOf Vsu.someSurroundings fun _ _ _ _ => .ok 0

/-- A frame of the vehicle events, as `MessageToDict` returns it: an integer is a text, a double
that is not a number is `"NaN"`, and `full_update` is there when it is set. -/
def frame (full : Bool) (attributes : Dict PyValue) : Dict PyValue :=
  ("vin", .str "WDD0000000000TEST") ::
    (if full then [("full_update", .bool true)] else []) ++ [("attributes", .dict attributes)]

/-- A state of charge. -/
def socAttribute (percent : String) : String × PyValue :=
  ("soc", .dict [("int_value", .str percent)])

/-- The car as it connects: a charge, and charge programs. -/
def initialised : List (Clock × ClientEvent) :=
  [(⟨0, 0⟩, .session .connect),
    (⟨1, 1⟩, .session (.push (frame true [socAttribute "80", ("chargePrograms",
      .dict [("charge_programs_value", .dict [("charge_program_parameters",
        .list [.dict [("max_soc", .int 80)]])])])]) true))]

/-- A delta whose selected charge program is not a number. -/
def badDelta : Clock × ClientEvent :=
  (⟨2, 2⟩, .session (.push (frame false
    [("selectedChargeProgram", .dict [("double_value", .str "NaN")])]) true))

/-- Whether a delta of the charge alone is accepted after some events. -/
def acceptsDelta (events : List (Clock × ClientEvent)) : Bool :=
  letI := numberText
  let s := events.foldl (fun s event => s.advance decodingVendor event.1 event.2)
    (Session.new someConfig)
  match handleUpdate decodingVendor ⟨3, 3⟩ (.pushed (frame false [socAttribute "81"])) s with
  | (.ok _, _) => true
  | (.error _, _) => false

/-- **A value that cannot be projected stays in the buffer**: after one bad delta a later delta that
does not mention the value is rejected, also after a reconnect; without it the delta is accepted. -/
theorem poisoned_run :
    letI := numberText
    ¬ Along decodingVendor (RejectsAtomically decodingVendor) (Session.new someConfig)
        (initialised ++ [badDelta]) ∧
      acceptsDelta (initialised ++ [badDelta, (⟨2, 2⟩, .session .connect)]) = false ∧
      acceptsDelta initialised = true := by
  refine ⟨fun atomic => ?_, by decide +kernel, by decide +kernel⟩
  have clean := (@rejectsAtomically_iff numberText decodingVendor _ _ _).mp
    (atomic.2.2.1 _ rfl)
  revert clean
  decide +kernel

end DbusEv.Mercedes
