/-
**Attributes of one merge buffer never go back in time.**

The session's buffer feeds the published payload through push frames and through the REST replies
that supplement a live stream. Between two full updates every payload taken from it keeps every
attribute of every earlier one, or replaces it by a reading that is no older, whatever connects,
disconnects and REST-only payloads lie between (`buffered_never_older`).

A REST-only payload is outside this order. It replaces the published payload as it is, and the
first frame after the reconnect publishes the session's buffer again, with the readings it had:
`rest_only_goes_back` runs both, and two REST-only payloads
in a row.
-/

import DbusEv.Mercedes.Session

set_option autoImplicit false
set_option linter.unusedSectionVars false

namespace DbusEv.Mercedes

section Buffer

variable [PyText]

/-! ### The order -/

/-- `new` keeps every attribute of `old`, or replaces it by one that is no older. -/
def NoOlder (old new : Dict Attribute) : Prop :=
  ∀ key reading, old.get key = some reading →
    ∃ kept, new.get key = some kept ∧ timestamp reading ≤ timestamp kept

theorem NoOlder.refl (attributes : Dict Attribute) : NoOlder attributes attributes :=
  fun _ reading found => ⟨reading, found, le_rfl⟩

theorem NoOlder.trans {first second third : Dict Attribute} (before : NoOlder first second)
    (after : NoOlder second third) : NoOlder first third := by
  intro key reading found
  obtain ⟨middle, there, older⟩ := before key reading found
  obtain ⟨kept, last, newer⟩ := after key middle there
  exact ⟨kept, last, older.trans newer⟩

/-- A delta merges forward. -/
theorem noOlder_mergedWith {protocol : Protocol} {update : Dict PyValue} (incoming : Dict PyValue)
    (delta : isFullUpdate update = false) :
    NoOlder protocol.attributes (protocol.mergedWith update incoming).attributes := by
  intro key reading found
  unfold Protocol.mergedWith
  rw [Protocol.resetBy_delta delta]
  exact mergeItems_mono incoming found

/-- Every two payloads of the buffer with no full update between them are in order: `newest` and
`older` are the entries after and before, as the history has the newest entry first. -/
def NeverOlder (history : List Entry) : Prop :=
  ∀ newest between oldest : List Entry, ∀ old new : Payload,
    history = newest ++ .accepted new true :: (between ++ .accepted old true :: oldest) →
      Entry.full ∉ between → NoOlder old.attributes new.attributes

/-! ### The invariant -/

/-- `attributes` are no older than any payload of the buffer since its last full update. -/
def Covers (attributes : Dict Attribute) : List Entry → Prop
  | [] => True
  | .full :: _ => True
  | .accepted payload true :: earlier => NoOlder payload.attributes attributes ∧
      Covers attributes earlier
  | .accepted _ false :: earlier => Covers attributes earlier

/-- Every payload of the buffer covers what was accepted before it. -/
def Ordered : List Entry → Prop
  | [] => True
  | .full :: earlier => Ordered earlier
  | .accepted payload true :: earlier => Covers payload.attributes earlier ∧ Ordered earlier
  | .accepted _ false :: earlier => Ordered earlier

theorem Covers.mono {attributes newer : Dict Attribute} (later : NoOlder attributes newer)
    {history : List Entry} (covers : Covers attributes history) : Covers newer history := by
  induction history with
  | nil => trivial
  | cons entry earlier ih =>
    rcases entry with _ | ⟨payload, _ | _⟩
    · trivial
    · exact ih covers
    · exact ⟨covers.1.trans later, ih covers.2⟩

/-- A covered payload is no newer, unless a full update lies between. -/
theorem Covers.noOlder {attributes : Dict Attribute} {old : Payload} {oldest : List Entry}
    (between : List Entry) (covers : Covers attributes (between ++ .accepted old true :: oldest))
    (delta : Entry.full ∉ between) : NoOlder old.attributes attributes := by
  induction between with
  | nil => exact covers.1
  | cons entry rest ih =>
    have later : Entry.full ∉ rest := fun found => delta (List.mem_cons_of_mem _ found)
    rcases entry with _ | ⟨payload, _ | _⟩
    · exact absurd List.mem_cons_self delta
    · exact ih covers later
    · exact ih covers.2 later

theorem Ordered.neverOlder {history : List Entry} (ordered : Ordered history) :
    NeverOlder history := by
  intro newest between oldest old new same delta
  induction newest generalizing history with
  | nil =>
    subst same
    exact ordered.1.noOlder between delta
  | cons entry rest ih =>
    have earlier :
        Ordered (rest ++ .accepted new true :: (between ++ .accepted old true :: oldest)) := by
      subst same
      rcases entry with _ | ⟨payload, _ | _⟩
      · exact ordered
      · exact ordered
      · exact ordered.2
    exact ih earlier rfl

/-- The invariant of a session: its history is in order, and its buffer is no older. -/
structure InOrder (s : Session) : Prop where
  covers : Covers s.protocol.attributes s.history
  ordered : Ordered s.history

/-! ### One event -/

section Steps

variable (vendor : Vendor) {s : Session}

theorem InOrder.setConnected (inOrder : InOrder s) (connected : Bool) :
    InOrder (s.setConnected connected) :=
  ⟨inOrder.covers, inOrder.ordered⟩

/-- A merge keeps the order: a delta moves the buffer forward, a full update starts anew. -/
theorem InOrder.merged (inOrder : InOrder s) (update incoming : Dict PyValue) :
    InOrder (s.merged update incoming) := by
  unfold Session.merged
  rcases full : isFullUpdate update with _ | _
  · exact ⟨inOrder.covers.mono (noOlder_mergedWith incoming full), inOrder.ordered⟩
  · exact ⟨trivial, inOrder.ordered⟩

/-- What a merge returns is a payload of the buffer it leaves. -/
theorem mergeUpdate_inOrder (inOrder : InOrder s) (wall : ℚ) (update : Dict PyValue)
    (X : Exn → Session → Prop) :
    Exec.wp (mergeUpdate wall update) (fun payload t => InOrder t ∧
      ∀ merged, payload = some merged → merged.attributes = t.protocol.attributes) X s := by
  rcases taken : incomingOf update with _ | incoming
  · rw [Exec.wp_of_ok (mergeUpdate_none taken)]
    exact ⟨inOrder, nofun⟩
  · rw [Exec.wp_of_ok (mergeUpdate_some taken)]
    refine ⟨inOrder.merged update incoming, ?_⟩
    rintro merged ⟨⟩
    rfl

theorem decodePush_inOrder (inOrder : InOrder s) (wall : ℚ) (update : Dict PyValue)
    (X : Exn → Session → Prop) :
    Exec.wp (decodePush wall update) (fun payload t => InOrder t ∧
      ∀ merged, payload = some merged → merged.attributes = t.protocol.attributes) X s := by
  unfold decodePush
  rw [Exec.wp_ite]
  exact ⟨fun _ => ⟨inOrder, nofun⟩, fun _ => mergeUpdate_inOrder inOrder wall update X⟩

/-- Accepting a payload of the buffer, or a REST-only one, keeps the order. -/
theorem acceptPayload_inOrder (inOrder : InOrder s) (mono : ℚ) {payload : Payload} (source : Source)
    {buffered : Bool}
    (whole : buffered = true → source = .push ∧ payload.attributes = s.protocol.attributes) :
    Exec.wp (acceptPayload vendor mono payload source buffered) (fun _ => InOrder)
      (fun _ => InOrder) s := by
  rcases result : acceptPayload vendor mono payload source buffered s with ⟨e | ⟨⟩, t⟩
  · rw [Exec.wp_of_error result, acceptPayload_error result]
    exact inOrder
  · rw [Exec.wp_of_ok result]
    obtain ⟨protocol, stored, taken, history⟩ := acceptPayload_ok result
    rcases buffered with _ | _
    · refine ⟨?_, ?_⟩
      · rw [protocol, history]
        exact inOrder.covers
      · rw [history]
        exact inOrder.ordered
    · obtain ⟨rfl, buffer⟩ := whole rfl
      have same : stored.attributes = s.protocol.attributes := by
        rw [taken_push] at taken
        cases taken
        exact buffer
      refine ⟨?_, ?_⟩
      · rw [protocol, history]
        refine ⟨?_, inOrder.covers⟩
        rw [same]
        exact NoOlder.refl _
      · rw [history]
        refine ⟨?_, inOrder.ordered⟩
        rw [same]
        exact inOrder.covers

theorem takeFrame_inOrder (inOrder : InOrder s) (clock : Clock) (update : Dict PyValue)
    (acknowledged : Bool) :
    Exec.wp (takeFrame vendor clock update acknowledged) (fun _ => InOrder)
      (fun _ => InOrder) s := by
  unfold takeFrame
  rw [Exec.wp_bind]
  refine Exec.wp_mono (decodePush_inOrder inOrder clock.wall update _) ?_ fun _ _ kept => kept
  rintro payload t ⟨kept, buffer⟩
  rw [Exec.wp_ite]
  refine ⟨fun _ => ?_, fun _ => kept⟩
  rcases payload with _ | payload
  · exact kept
  · exact acceptPayload_inOrder vendor kept clock.mono .push fun _ => ⟨rfl, buffer payload rfl⟩

theorem takeReply_inOrder (inOrder : InOrder s) (clock : Clock) (reply : Reply) :
    Exec.wp (takeReply vendor clock reply) (fun _ => InOrder) (fun _ => InOrder) s := by
  unfold takeReply
  rw [Exec.wp_bind, Exec.wp_read]
  rcases decodeRest s.client.vin clock.wall reply with e | _ | payload
  · exact inOrder
  · exact inOrder
  · rw [Exec.wp_ite]
    refine ⟨fun _ => ?_, fun _ => acceptPayload_inOrder vendor inOrder clock.mono .pull nofun⟩
    unfold mergeThenAccept
    rw [Exec.wp_bind]
    refine Exec.wp_mono (mergeUpdate_inOrder inOrder clock.wall (supplement payload) _) ?_
      fun _ _ kept => kept
    rintro merged t ⟨kept, buffer⟩
    rcases merged with _ | merged
    · exact kept
    · exact acceptPayload_inOrder vendor kept clock.mono .push fun _ => ⟨rfl, buffer merged rfl⟩

/-- **One event of a session keeps its order.** -/
theorem step_inOrder (inOrder : InOrder s) (clock : Clock) (event : SessionEvent) :
    InOrder (s.step vendor clock event) := by
  rcases event with ⟨update, acknowledged⟩ | reply | _ | _
  · have kept := takeFrame_inOrder vendor inOrder clock update acknowledged
    rcases result : takeFrame vendor clock update acknowledged s with ⟨e | value, t⟩
    · rw [Exec.wp_of_error result] at kept
      simp only [Session.step, result]
      exact kept.setConnected false
    · rw [Exec.wp_of_ok result] at kept
      simp only [Session.step, result]
      exact kept
  · exact Exec.final_of_wp (takeReply_inOrder vendor inOrder clock reply)
  · exact inOrder.setConnected true
  · exact inOrder.setConnected false

end Steps

/-! ### A whole session -/

theorem run_inOrder (vendor : Vendor) (events : List (Clock × SessionEvent)) {s : Session}
    (inOrder : InOrder s) : InOrder (runSession vendor s events) := by
  induction events generalizing s with
  | nil => exact inOrder
  | cons event rest ih => exact ih (step_inOrder vendor inOrder event.1 event.2)

/-- **Between full updates the session's buffer never publishes an older reading**: in every run of
a session, every payload taken from the buffer keeps or renews every attribute of every earlier
payload taken from it, unless a full update replaced the buffer in between. -/
theorem buffered_never_older (vendor : Vendor) (config : Config)
    (events : List (Clock × SessionEvent)) :
    NeverOlder (runSession vendor (Session.new config) events).history :=
  (run_inOrder vendor events (s := Session.new config) ⟨trivial, trivial⟩).ordered.neverOlder

/-! ### The boundary of the buffer -/

/-- The pairs of successive payloads with no full update between them, each older one first. -/
def successive : List Entry → List (Payload × Payload)
  | .accepted new _ :: .accepted old buffered :: earlier =>
    (old, new) :: successive (.accepted old buffered :: earlier)
  | _ :: earlier => successive earlier
  | [] => []

/-- Every attribute that two successive payloads share is no older in the later one, wherever the
two payloads come from. -/
def SuccessiveInOrder (history : List Entry) : Prop :=
  ∀ pair ∈ successive history, ∀ item ∈ pair.1.attributes,
    ∀ newer ∈ pair.2.attributes.get item.1, timestamp item.2 ≤ timestamp newer

instance (history : List Entry) : Decidable (SuccessiveInOrder history) :=
  inferInstanceAs (Decidable (∀ pair ∈ successive history, ∀ item ∈ pair.1.attributes,
    ∀ newer ∈ pair.2.attributes.get item.1, timestamp item.2 ≤ timestamp newer))

end Buffer

/-- An update with the given timestamps. -/
def stamped (full : Bool) (stamps : List (String × ℤ)) : Dict PyValue :=
  [("vin", .str "WDD0000000000TEST"), ("full_update", .bool full),
    ("attributes", .dict (stamps.map fun stamp =>
      (stamp.1, .dict [("timestamp_in_ms", .int stamp.2)])))]

/-- A frame that is acknowledged. -/
def pushed (full : Bool) (stamps : List (String × ℤ)) : SessionEvent :=
  .push (stamped full stamps) true

/-- A legacy REST reply. -/
def replied (stamps : List (String × ℤ)) : SessionEvent := .reply ⟨stamped true stamps, .ok []⟩

/-- What a session accepts during some events. -/
def historyOf (events : List SessionEvent) : List Entry :=
  letI := plainText
  (runSession blindVendor (Session.new someConfig)
    (events.map fun event => (⟨0, 0⟩, event))).history

/-- **A REST-only payload is not ordered with the buffer**, nor with another REST-only payload: a
delta after the reconnect publishes the charge pushed before the pull (`100` after `200`), and a
REST-only payload publishes what its reply says (`50` after `100`). -/
theorem rest_only_goes_back :
    letI := plainText
    ¬ SuccessiveInOrder (historyOf [.connect, pushed true [("soc", 100), ("odo", 100)], .disconnect,
      replied [("soc", 200)], .connect, pushed false [("odo", 300)]]) ∧
    ¬ SuccessiveInOrder (historyOf [.connect, pushed true [("soc", 100)], .disconnect,
      replied [("soc", 50)]]) ∧
    ¬ SuccessiveInOrder (historyOf [replied [("soc", 100)], replied [("soc", 50)]]) := by
  decide +kernel

end DbusEv.Mercedes
