/-
**The state and the availability on the broker**, in every run of callbacks and ticks.

* `accepted revision trace` — on the connection the trace ends in, a state publish of this revision
  was accepted.
* `state_published_exactly` — over snapshots whose revision never returns, a tick publishes the
  state exactly when its revision is not accepted yet and its payload is JSON; a revision is
  accepted at most once.
* `online_vouched` — a tick may have its state rejected and its `online` accepted; in every run
  without such a tick an accepted `online` follows its state.
-/

import DbusEv.CerboMqtt
import DbusEv.Lib.Trace
import Mathlib.Data.List.Induction

set_option autoImplicit false
set_option linter.unusedSectionVars false

namespace DbusEv.Mqtt

/-! ### Reading a trace -/

/-- A state publish of this revision that was accepted. -/
def Event.acceptsState (revision : Revision) : Event → Bool
  | .published { content := .state found _, rc, .. } => found = revision && rc = 0
  | _ => false

/-- An accepted `online`. -/
def Event.announces : Event → Bool
  | .published { content := .availability status, rc, .. } => status = "online" && rc = 0
  | _ => false

/-- On the current connection the state of this revision was accepted. -/
def accepted (revision : Revision) : List Event → Bool
  | [] => false
  | .connected :: _ => false
  | event :: earlier => event.acceptsState revision || accepted revision earlier

/-- The revision of the snapshot the last tick was handed. -/
def carried : List Event → Option Revision
  | [] => none
  | .ticked offered :: _ => offered
  | _ :: earlier => carried earlier

def Publication.isState (publication : Publication) : Bool :=
  match publication.content with
  | .state _ _ => true
  | _ => false

/-- A state publish, accepted or not. -/
def Event.statePublish : Event → Option Publication
  | .published publication => if publication.isState then some publication else none
  | _ => none

/-- The state publishes, newest first. -/
def statePublishes (trace : List Event) : List Publication := trace.filterMap Event.statePublish

/-- No revision is accepted twice on one connection. -/
def Once (event : Event) (earlier : List Event) : Prop :=
  ∀ revision, event.acceptsState revision = true → accepted revision earlier = false

/-- An accepted `online` follows an accepted state of its tick's revision. -/
def Vouched (event : Event) (earlier : List Event) : Prop :=
  event.announces = true → ∃ revision ∈ carried earlier, accepted revision earlier = true

instance (event : Event) (earlier : List Event) : Decidable (Vouched event earlier) :=
  inferInstanceAs (Decidable (_ → ∃ revision ∈ carried earlier, _))

/-! ### What leaves the record alone -/

/-- Nothing in `after` beyond `before` is a state or a connection. -/
structure Unheard (before after : List Event) : Prop where
  accepted : ∀ revision, accepted revision after = accepted revision before
  publishes : statePublishes after = statePublishes before
  once : Throughout Once before → Throughout Once after

theorem Unheard.refl (trace : List Event) : Unheard trace trace := ⟨fun _ => rfl, rfl, id⟩

theorem Unheard.trans {first second third : List Event} (one : Unheard first second)
    (two : Unheard second third) : Unheard first third :=
  ⟨fun revision => (two.accepted revision).trans (one.accepted revision),
    two.publishes.trans one.publishes, fun once => two.once (one.once once)⟩

/-- The meter's publications are not heard, and announce nothing. -/
theorem unheard_quietly {before after : Broker} (quietly : Quietly before after) :
    Unheard before.trace after.trace ∧ carried after.trace = carried before.trace ∧
      (Throughout Vouched before.trace → Throughout Vouched after.trace) := by
  obtain ⟨sent, trace, quiet⟩ := quietly.trace
  rw [trace]
  clear trace quietly
  induction sent with
  | nil => exact ⟨.refl _, rfl, id⟩
  | cons publication rest ih =>
    obtain ⟨rest, same, law⟩ := ih fun other member => quiet other (List.mem_cons_of_mem _ member)
    obtain ⟨topic, content, qos, retain, rc⟩ := publication
    obtain ⟨payload, reads⟩ := quiet ⟨topic, content, qos, retain, rc⟩ List.mem_cons_self
    obtain rfl | rfl : content = .keepalive payload ∨ content = .read payload := reads
    · exact ⟨⟨rest.accepted, rest.publishes, fun once => ⟨nofun, rest.once once⟩⟩, same,
        fun vouched => ⟨nofun, law vouched⟩⟩
    · exact ⟨⟨rest.accepted, rest.publishes, fun once => ⟨nofun, rest.once once⟩⟩, same,
        fun vouched => ⟨nofun, law vouched⟩⟩

/-- What precedes the publication of the vehicle in a tick. -/
theorem unheard_prepared (config : Config) (now : ℚ) (codes : Codes) (snapshot : Handed)
    (broker : Broker) :
    Unheard broker.trace (prepared config now codes snapshot broker).trace ∧
      carried (prepared config now codes snapshot broker).trace =
        (offer config snapshot).map Offer.revision ∧
      (Throughout Vouched broker.trace →
        Throughout Vouched (prepared config now codes snapshot broker).trace) := by
  obtain ⟨unheard, same, law⟩ :=
    unheard_quietly (quietly_refreshMeter config now codes (noted config snapshot broker))
  have first : Unheard broker.trace (noted config snapshot broker).trace :=
    ⟨fun _ => rfl, rfl, fun once => ⟨nofun, once⟩⟩
  exact ⟨first.trans unheard, same, fun vouched => law ⟨nofun, vouched⟩⟩

section Availability

variable {config : Config} {codes : Codes} {broker : Broker} {status : String}

/-- The availability is published unless it is the one last accepted. -/
theorem publishAvailability_trace :
    (publishAvailability config codes status broker).trace =
      if broker.availability = some status then broker.trace
      else .published ⟨config.topicPrefix ++ availabilitySuffix, .availability status, 1, true,
        codes.availability⟩ :: broker.trace := by
  unfold publishAvailability
  by_cases known : broker.availability = some status
  · rw [if_pos known, if_pos known]
  · rw [if_neg known, if_neg known]
    show (if _ then _ else _ : Broker).trace = _
    split <;> rfl

@[simp] theorem publishAvailability_publishedRevision :
    (publishAvailability config codes status broker).publishedRevision =
      broker.publishedRevision := by
  unfold publishAvailability
  split
  · rfl
  · show (if _ then _ else _ : Broker).publishedRevision = _
    split <;> rfl

theorem unheard_availability :
    Unheard broker.trace (publishAvailability config codes status broker).trace := by
  rw [publishAvailability_trace]
  split
  · exact .refl _
  · exact ⟨fun _ => rfl, rfl, fun once => ⟨nofun, once⟩⟩

/-- An `online` that is accepted now announces what the broker holds. -/
theorem vouched_availability (law : Throughout Vouched broker.trace)
    (backed : status = "online" → broker.availability ≠ some status → codes.availability = 0 →
      ∃ revision ∈ carried broker.trace, accepted revision broker.trace = true) :
    Throughout Vouched (publishAvailability config codes status broker).trace := by
  rw [publishAvailability_trace]
  split
  · exact law
  · rename_i changed
    refine ⟨fun announces => ?_, law⟩
    have sent : (status = "online" && codes.availability = 0 : Bool) = true := announces
    rw [Bool.and_eq_true, decide_eq_true_eq, decide_eq_true_eq] at sent
    exact backed sent.1 changed sent.2

/-- A state is heard as what it is. -/
theorem sendState_trace (codes : Codes) (offered : Offer) (broker : Broker) :
    (sendState codes offered broker).trace = .published ⟨offered.topic,
      .state offered.revision offered.payload, 1, true, codes.state⟩ :: broker.trace := by
  show (if _ then _ else _ : Broker).trace = _
  split <;> rfl

theorem sendState_publishedRevision (codes : Codes) (offered : Offer) (broker : Broker) :
    (sendState codes offered broker).publishedRevision =
      if codes.state = 0 then some offered.revision else broker.publishedRevision := by
  show (if _ then _ else _ : Broker).publishedRevision = _
  split <;> rfl

@[simp] theorem sendState_availability (codes : Codes) (offered : Offer) (broker : Broker) :
    (sendState codes offered broker).availability = broker.availability := by
  show (if _ then _ else _ : Broker).availability = _
  split <;> rfl

theorem accepted_sendState (codes : Codes) (offered : Offer) (broker : Broker)
    (revision : Revision) :
    accepted revision (sendState codes offered broker).trace =
      ((offered.revision = revision && codes.state = 0) || accepted revision broker.trace) := by
  rw [sendState_trace]
  rfl

end Availability

/-! ### The remembered revision -/

/-- A later snapshot had another revision. -/
def Left (revision : Revision) (offered : List Revision) : Prop :=
  ∃ before after, offered = before ++ revision :: after ∧ ∃ other ∈ after, other ≠ revision

/-- **The remembered revision is an accepted one**, and the others that were accepted on this
connection have been left. -/
structure Kept (offered : List Revision) (broker : Broker) : Prop where
  published : ∀ revision, broker.publishedRevision = some revision →
    accepted revision broker.trace = true
  known : ∀ revision, accepted revision broker.trace = true →
    revision ∈ offered ∧ (broker.publishedRevision = some revision ∨ Left revision offered)

/-- A revision that was left does not come back. -/
def NeverReturns (revisions : List Revision) : Prop :=
  ∀ first revision between last, revisions = first ++ revision :: between ++ revision :: last →
    ∀ other ∈ between, other = revision

section Kept

variable {config : Config} {codes : Codes} {broker after : Broker} {offered : List Revision}

theorem Left.append {revision : Revision} (left : Left revision offered) (more : List Revision) :
    Left revision (offered ++ more) := by
  obtain ⟨before, later, rfl, other, member, differs⟩ := left
  refine ⟨before, later ++ more, ?_, other, List.mem_append_left _ member, differs⟩
  rw [List.append_assoc, List.cons_append]

theorem left_append {revision next : Revision} (seen : revision ∈ offered)
    (differs : next ≠ revision) : Left revision (offered ++ [next]) := by
  obtain ⟨before, later, rfl⟩ := List.append_of_mem seen
  refine ⟨before, later ++ [next], ?_, next, List.mem_append_right _ (List.mem_singleton_self _),
    differs⟩
  rw [List.append_assoc, List.cons_append]

theorem Kept.grow (kept : Kept offered broker) (more : List Revision) :
    Kept (offered ++ more) broker := by
  refine ⟨kept.published, fun revision found => ?_⟩
  obtain ⟨seen, either⟩ := kept.known revision found
  exact ⟨List.mem_append_left _ seen, either.imp id fun left => left.append more⟩

/-- What is not heard changes nothing. -/
theorem Kept.unheard (kept : Kept offered broker) (unheard : Unheard broker.trace after.trace)
    (same : after.publishedRevision = broker.publishedRevision) : Kept offered after := by
  refine ⟨fun revision published => ?_, fun revision found => ?_⟩
  · rw [unheard.accepted]
    exact kept.published revision (same ▸ published)
  · rw [unheard.accepted] at found
    rw [same]
    exact kept.known revision found

/-- **Under revisions that never return, the remembered one is the only one that can still be
offered.** -/
theorem Kept.accepted_iff (kept : Kept offered broker) {revision : Revision}
    (never : NeverReturns (offered ++ [revision])) :
    accepted revision broker.trace = true ↔ broker.publishedRevision = some revision := by
  refine ⟨fun found => ?_, kept.published revision⟩
  obtain ⟨-, current | left⟩ := kept.known revision found
  · exact current
  · obtain ⟨before, later, rfl, other, member, differs⟩ := left
    refine absurd (never before revision later [] ?_ other member) differs
    rfl

/-- A state is sent for a revision that is not remembered. -/
theorem Kept.sendState (kept : Kept offered broker) (offer : Offer)
    (seen : offer.revision ∈ offered)
    (others : ∀ revision ∈ offered, revision ≠ offer.revision → Left revision offered) :
    Kept offered (sendState codes offer broker) := by
  refine ⟨fun revision published => ?_, fun revision found => ?_⟩
  · rw [accepted_sendState]
    rw [sendState_publishedRevision] at published
    by_cases sent : codes.state = 0
    · rw [if_pos sent, Option.some_inj] at published
      simp [published, sent]
    · rw [if_neg sent] at published
      simp [kept.published revision published]
  · rw [accepted_sendState, Bool.or_eq_true, Bool.and_eq_true, decide_eq_true_eq,
      decide_eq_true_eq] at found
    rw [sendState_publishedRevision]
    by_cases sent : codes.state = 0
    · rw [if_pos sent, Option.some_inj]
      by_cases same : offer.revision = revision
      · exact ⟨same ▸ seen, Or.inl same⟩
      · have earlier := found.resolve_left fun both => same both.1
        have known := (kept.known revision earlier).1
        exact ⟨known, Or.inr (others revision known fun equal => same equal.symm)⟩
    · rw [if_neg sent]
      exact kept.known revision (found.resolve_left fun both => sent both.2)

/-- The revisions a snapshot adds to those offered. -/
def offeredBy (config : Config) (snapshot : Handed) : List Revision :=
  ((offer config snapshot).map Offer.revision).toList

theorem Kept.offeredTo (kept : Kept offered broker) (offer : Option Offer) :
    Kept (offered ++ (offer.map Offer.revision).toList) (offeredTo config codes broker offer) := by
  have announced : ∀ {broker : Broker} {revisions : List Revision} (status : String),
      Kept revisions broker → Kept revisions (publishAvailability config codes status broker) :=
    fun status kept => kept.unheard unheard_availability publishAvailability_publishedRevision
  rcases offer with _ | offer
  · exact announced "offline" (kept.grow [])
  · have grown : Kept (offered ++ [offer.revision]) broker := kept.grow _
    show Kept (offered ++ [offer.revision]) (if _ then _ else _)
    split
    · exact announced "online" grown
    · split
      · refine announced "online" (grown.sendState offer ?_ fun revision member differs => ?_)
        · exact List.mem_append_right _ (List.mem_singleton_self _)
        · rcases List.mem_append.mp member with seen | new
          · exact left_append seen fun equal => differs equal.symm
          · exact absurd (List.mem_singleton.mp new) differs
      · exact grown

/-- **A tick** keeps the record. -/
theorem Kept.tick (kept : Kept offered broker) (now : ℚ) (snapshot : Handed) :
    Kept (offered ++ offeredBy config snapshot)
      (tickedTo config now codes snapshot broker) := by
  have unheard := (unheard_prepared config now codes snapshot broker).1
  have same : (prepared config now codes snapshot broker).publishedRevision =
      broker.publishedRevision := (quietly_refreshMeter config now codes _).publishedRevision
  unfold tickedTo
  split
  · split
    · exact (kept.unheard unheard same).offeredTo _
    · exact (kept.unheard unheard same).grow _
  · have first : Unheard broker.trace (noted config snapshot broker).trace :=
      ⟨fun _ => rfl, rfl, fun once => ⟨nofun, once⟩⟩
    exact (kept.unheard first rfl).grow _

end Kept

/-! ### The state, tick by tick -/

/-- The state publish of an offer. -/
def Offer.publication (codes : Codes) (offered : Offer) : Publication :=
  ⟨offered.topic, .state offered.revision offered.payload, 1, true, codes.state⟩

/-- The state publish that is due for an offer, after what happened before. -/
def due (codes : Codes) (trace : List Event) : Option Offer → List Publication
  | some offered =>
    if accepted offered.revision trace = false ∧ offered.payload.strict = true then
      [offered.publication codes]
    else []
  | none => []

/-- The state publish that is due at a tick. -/
def duePublish (config : Config) (codes : Codes) (broker : Broker) (snapshot : Handed) :
    List Publication :=
  if broker.connected then due codes broker.trace (offer config snapshot) else []

/-- These states were published, none of them accepted before. -/
structure Adds (states : List Publication) (before after : List Event) : Prop where
  publishes : statePublishes after = states ++ statePublishes before
  once : Throughout Once before → Throughout Once after

section Ticked

variable {config : Config} {codes : Codes} {broker : Broker} {offered : List Revision}
  {states : List Publication} {first second third : List Event}

theorem Unheard.adds (unheard : Unheard first second) : Adds [] first second :=
  ⟨unheard.publishes, unheard.once⟩

theorem Adds.unheard (adds : Adds states first second) (unheard : Unheard second third) :
    Adds states first third :=
  ⟨unheard.publishes.trans adds.publishes, fun once => unheard.once (adds.once once)⟩

theorem Unheard.then_adds (unheard : Unheard first second) (adds : Adds states second third) :
    Adds states first third :=
  ⟨adds.publishes.trans (unheard.publishes ▸ rfl), fun once => adds.once (unheard.once once)⟩

theorem adds_sendState (offer : Offer) (fresh : accepted offer.revision broker.trace = false) :
    Adds [offer.publication codes] broker.trace (sendState codes offer broker).trace := by
  rw [sendState_trace]
  refine ⟨rfl, fun once => ⟨fun revision accepts => ?_, once⟩⟩
  have sent : (offer.revision = revision && codes.state = 0 : Bool) = true := accepts
  rw [Bool.and_eq_true, decide_eq_true_eq] at sent
  exact sent.1 ▸ fresh

theorem adds_offeredTo (offer : Option Offer) (known : ∀ offered ∈ offer,
      accepted offered.revision broker.trace = true ↔
        broker.publishedRevision = some offered.revision) :
    Adds (due codes broker.trace offer) broker.trace
      (offeredTo config codes broker offer).trace := by
  rcases offer with _ | offer
  · exact unheard_availability.adds
  · have known := known offer rfl
    show Adds (if _ then _ else _) _ (if _ then _ else _ : Broker).trace
    by_cases remembered : broker.publishedRevision = some offer.revision
    · have again : ¬ (accepted offer.revision broker.trace = false ∧
          offer.payload.strict = true) := fun both => by
        rw [known.mpr remembered] at both
        exact Bool.noConfusion both.1
      rw [if_pos remembered, if_neg again]
      exact unheard_availability.adds
    · have fresh : accepted offer.revision broker.trace = false := by
        rw [← Bool.not_eq_true, known]
        exact remembered
      rw [if_neg remembered]
      by_cases strict : offer.payload.strict = true
      · rw [if_pos strict, if_pos ⟨fresh, strict⟩]
        exact (adds_sendState offer fresh).unheard unheard_availability
      · rw [if_neg strict, if_neg fun both => strict both.2]
        exact (Unheard.refl _).adds

/-- **A tick publishes the state exactly when it is due**, and never one that was accepted. -/
theorem Kept.publishes (kept : Kept offered broker) (enabled : config.publishHa = true) (now : ℚ)
    (snapshot : Handed) (never : NeverReturns (offered ++ offeredBy config snapshot)) :
    Adds (duePublish config codes broker snapshot) broker.trace
      (tickedTo config now codes snapshot broker).trace := by
  have unheard := (unheard_prepared config now codes snapshot broker).1
  have same : (prepared config now codes snapshot broker).publishedRevision =
      broker.publishedRevision := (quietly_refreshMeter config now codes _).publishedRevision
  unfold tickedTo duePublish
  by_cases connected : broker.connected = true
  · rw [if_pos connected, if_pos enabled, if_pos connected]
    have trace : due codes broker.trace (offer config snapshot) =
        due codes (prepared config now codes snapshot broker).trace (offer config snapshot) := by
      unfold due
      simp only [unheard.accepted]
    rw [trace]
    refine unheard.then_adds (adds_offeredTo _ fun offer found => ?_)
    have offering : offeredBy config snapshot = [offer.revision] := by
      unfold offeredBy
      rw [Option.mem_def.mp found]
      rfl
    rw [offering] at never
    rw [unheard.accepted, same]
    exact kept.accepted_iff never
  · rw [if_neg connected, if_neg connected]
    exact Unheard.adds ⟨fun _ => rfl, rfl, fun once => ⟨nofun, once⟩⟩

end Ticked

/-! ### Every run -/

section Runs

variable [PyText] {config : Config} {broker : Broker} {offered : List Revision}

theorem onMessage_final (config : Config) (now : ℚ) (message : Message) (broker : Broker) :
    (onMessage config now message broker).2.trace = .received message now :: broker.trace ∧
      (onMessage config now message broker).2.publishedRevision = broker.publishedRevision := by
  obtain ⟨meter, after⟩ := onMessage_eq config now message broker
  rw [after]
  exact ⟨rfl, rfl⟩

/-- A callback publishes nothing; a new connection starts a new record. -/
theorem Kept.callback (kept : Kept offered broker) (called : Callback) :
    Kept offered (callback config broker called) ∧
      Adds [] broker.trace (callback config broker called).trace := by
  cases called with
  | connect reasonCode =>
    show Kept offered (onConnect reasonCode broker) ∧ Adds [] _ (onConnect reasonCode broker).trace
    unfold onConnect
    split
    · exact ⟨kept, (Unheard.refl _).adds⟩
    · exact ⟨⟨nofun, nofun⟩, rfl, fun once => ⟨nofun, once⟩⟩
  | disconnect =>
    have unheard : Unheard broker.trace (onDisconnect broker).trace :=
      ⟨fun _ => rfl, rfl, fun once => ⟨nofun, once⟩⟩
    exact ⟨kept.unheard unheard rfl, unheard.adds⟩
  | message message now =>
    obtain ⟨trace, same⟩ := onMessage_final config now message broker
    have unheard : Unheard broker.trace (onMessage config now message broker).2.trace := by
      rw [trace]
      exact ⟨fun _ => rfl, rfl, fun once => ⟨nofun, once⟩⟩
    exact ⟨kept.unheard unheard same, unheard.adds⟩

/-- The revisions the ticks of a run were offered. -/
def offeredRevisions (config : Config) (inputs : List Input) : List Revision :=
  inputs.flatMap fun input =>
    match input with
    | .tick _ _ snapshot => offeredBy config snapshot
    | .callback _ => []

/-- A property of every tick of a run, with the broker it finds. -/
def EveryTick (config : Config) (inputs : List Input)
    (P : Broker → ℚ → Codes → Handed → Prop) : Prop :=
  ∀ before now codes snapshot after, inputs = before ++ .tick now codes snapshot :: after →
    P (run config before) now codes snapshot

theorem run_kept (config : Config) (inputs : List Input) :
    Kept (offeredRevisions config inputs) (run config inputs) := by
  induction inputs using List.reverseRecOn with
  | nil => exact ⟨nofun, nofun⟩
  | append_singleton inputs input ih =>
    have grown : offeredRevisions config (inputs ++ [input]) =
        offeredRevisions config inputs ++ offeredRevisions config [input] := List.flatMap_append
    rw [run_append, grown]
    cases input with
    | callback called => exact (ih.callback called).1.grow _
    | tick now codes snapshot =>
      show Kept (_ ++ (offeredBy config snapshot ++ [])) (tick config now codes snapshot _).2
      rw [tick_final, List.append_nil]
      exact ih.tick now snapshot

theorem offeredRevisions_append (config : Config) (inputs more : List Input) :
    offeredRevisions config (inputs ++ more) =
      offeredRevisions config inputs ++ offeredRevisions config more := List.flatMap_append

theorem NeverReturns.left {revisions more : List Revision}
    (never : NeverReturns (revisions ++ more)) : NeverReturns revisions := by
  intro first revision between last shape
  refine never first revision between (last ++ more) ?_
  rw [shape, List.append_assoc, List.cons_append]

/-- **The state is published exactly when it is due**: no revision is accepted twice on a
connection, and every tick of a connected session publishes the state of an available snapshot whose
revision is not accepted yet and whose payload is JSON, and no other one. -/
theorem state_published_exactly (config : Config) (inputs : List Input)
    (enabled : config.publishHa = true)
    (never : NeverReturns (offeredRevisions config inputs)) :
    Throughout Once (run config inputs).trace ∧
      EveryTick config inputs fun broker now codes snapshot =>
        statePublishes (step config broker (.tick now codes snapshot)).trace =
          duePublish config codes broker snapshot ++ statePublishes broker.trace := by
  refine ⟨?_, ?_⟩
  · induction inputs using List.reverseRecOn with
    | nil => exact trivial
    | append_singleton inputs input ih =>
      rw [offeredRevisions_append] at never
      have before := ih never.left
      rw [run_append]
      cases input with
      | callback called => exact ((run_kept config inputs).callback called).2.once before
      | tick now codes snapshot =>
        show Throughout Once (tick config now codes snapshot _).2.trace
        rw [tick_final]
        refine ((run_kept config inputs).publishes enabled now snapshot ?_).once before
        exact (List.append_nil (offeredBy config snapshot)) ▸ never
  · rintro before now codes snapshot after rfl
    have seen : offeredRevisions config (before ++ .tick now codes snapshot :: after) =
        offeredRevisions config before ++ offeredBy config snapshot ++
          offeredRevisions config after := by
      rw [offeredRevisions_append, List.append_assoc]
      rfl
    rw [seen] at never
    show statePublishes (tick config now codes snapshot _).2.trace = _
    rw [tick_final]
    exact ((run_kept config before).publishes enabled now snapshot never.left).publishes

/-! ### Online -/

/-- A tick whose state publish, if it is due, is accepted, or whose `online` is not. -/
def Backed (config : Config) (broker : Broker) (_ : ℚ) (codes : Codes) (snapshot : Handed) : Prop :=
  ∀ offered, offer config snapshot = some offered → broker.connected = true →
    broker.publishedRevision = some offered.revision ∨ codes.state = 0 ∨
      offered.payload.strict = false ∨ broker.availability = some "online" ∨
      codes.availability ≠ 0

/-- **A backed tick** announces what the broker holds. -/
theorem Kept.vouched (kept : Kept offered broker) {now : ℚ} {codes : Codes} {snapshot : Handed}
    (backed : Backed config broker now codes snapshot) (law : Throughout Vouched broker.trace) :
    Throughout Vouched (tickedTo config now codes snapshot broker).trace := by
  obtain ⟨unheard, carries, vouched⟩ := unheard_prepared config now codes snapshot broker
  have quietly := quietly_refreshMeter config now codes (noted config snapshot broker)
  have same : (prepared config now codes snapshot broker).publishedRevision =
      broker.publishedRevision := quietly.publishedRevision
  have status : (prepared config now codes snapshot broker).availability =
      broker.availability := quietly.availability
  unfold tickedTo
  by_cases connected : broker.connected = true
  · rw [if_pos connected]
    split
    · generalize prepared config now codes snapshot broker = ready at *
      rcases offering : offer config snapshot with _ | offered
      · exact vouched_availability (vouched law) fun online => absurd online (by decide)
      · rw [offering] at carries
        have backed := backed offered offering connected
        show Throughout Vouched (if _ then _ else _ : Broker).trace
        split
        · rename_i remembered
          refine vouched_availability (vouched law) fun _ _ _ => ⟨offered.revision, carries, ?_⟩
          rw [unheard.accepted]
          exact kept.published _ (same ▸ remembered)
        · rename_i forgotten
          split
          · rename_i strict
            refine vouched_availability ?_ fun _ changed sent => ⟨offered.revision, ?_, ?_⟩
            · rw [sendState_trace]
              exact ⟨nofun, vouched law⟩
            · rw [sendState_trace]
              exact carries
            · rw [sendState_availability, status] at changed
              have state : codes.state = 0 := by
                rw [same] at forgotten
                rw [strict] at backed
                tauto
              rw [accepted_sendState, state]
              simp
          · exact vouched law
    · exact vouched law
  · rw [if_neg connected]
    exact ⟨nofun, law⟩

/-- A tick that is not backed announces a state the broker has not accepted. -/
theorem Kept.backed (kept : Kept offered broker) (enabled : config.publishHa = true) {now : ℚ}
    {codes : Codes} {snapshot : Handed}
    (never : NeverReturns (offered ++ offeredBy config snapshot))
    (law : Throughout Vouched (tickedTo config now codes snapshot broker).trace) :
    Backed config broker now codes snapshot := by
  intro offered offering connected
  by_contra unbacked
  obtain ⟨forgotten, rejected, json, changed, sent⟩ :
      ¬ broker.publishedRevision = some offered.revision ∧ ¬ codes.state = 0 ∧
        ¬ offered.payload.strict = false ∧ ¬ broker.availability = some "online" ∧
        codes.availability = 0 := by tauto
  have strict : offered.payload.strict = true := by simpa using json
  obtain ⟨unheard, carries, -⟩ := unheard_prepared config now codes snapshot broker
  have quietly := quietly_refreshMeter config now codes (noted config snapshot broker)
  have same : (prepared config now codes snapshot broker).publishedRevision =
      broker.publishedRevision := quietly.publishedRevision
  have status : (prepared config now codes snapshot broker).availability =
      broker.availability := quietly.availability
  unfold tickedTo at law
  rw [if_pos connected, if_pos enabled, offering] at law
  rw [offering] at carries
  have offers : offeredBy config snapshot = [offered.revision] := by
    unfold offeredBy
    rw [offering]
    rfl
  rw [offers] at never
  have unknown : accepted offered.revision broker.trace = false := by
    rw [← Bool.not_eq_true, kept.accepted_iff never]
    exact forgotten
  generalize prepared config now codes snapshot broker = ready at *
  unfold Mqtt.offeredTo at law
  rw [same] at law
  simp only [forgotten, strict, if_true, if_false] at law
  rw [publishAvailability_trace, sendState_availability, status, if_neg changed] at law
  obtain ⟨revision, carried, found⟩ := law.1 (by simp [Event.announces, sent])
  obtain rfl : offered.revision = revision := by
    rw [sendState_trace] at carried
    exact Option.some_inj.mp (carries.symm.trans carried)
  rw [accepted_sendState, unheard.accepted, unknown] at found
  simp [rejected] at found

/-- A callback announces nothing. -/
theorem vouched_callback (law : Throughout Vouched broker.trace) (called : Callback) :
    Throughout Vouched (callback config broker called).trace := by
  cases called with
  | connect reasonCode =>
    show Throughout Vouched (onConnect reasonCode broker).trace
    unfold onConnect
    split
    · exact law
    · exact ⟨nofun, law⟩
  | disconnect => exact ⟨nofun, law⟩
  | message message now =>
    show Throughout Vouched (onMessage config now message broker).2.trace
    rw [(onMessage_final config now message broker).1]
    exact ⟨nofun, law⟩

theorem everyTick_append {P : Broker → ℚ → Codes → Handed → Prop} {inputs : List Input}
    {input : Input} (every : EveryTick config (inputs ++ [input]) P) :
    EveryTick config inputs P ∧ ∀ now codes snapshot, input = .tick now codes snapshot →
      P (run config inputs) now codes snapshot := by
  refine ⟨?_, ?_⟩
  · rintro before now codes snapshot after rfl
    refine every before now codes snapshot (after ++ [input]) ?_
    rw [List.append_assoc, List.cons_append]
  · rintro now codes snapshot rfl
    exact every inputs now codes snapshot [] rfl

theorem suffix_availability (config : Config) (codes : Codes) (broker : Broker)
    (status : String) :
    broker.trace <:+ (publishAvailability config codes status broker).trace := by
  rw [publishAvailability_trace]
  split
  · exact List.suffix_rfl
  · exact List.suffix_cons _ _

theorem suffix_step (config : Config) (broker : Broker) (input : Input) :
    broker.trace <:+ (step config broker input).trace := by
  cases input with
  | callback called =>
    cases called with
    | connect reasonCode =>
      show broker.trace <:+ (onConnect reasonCode broker).trace
      unfold onConnect
      split
      · exact List.suffix_rfl
      · exact List.suffix_cons _ _
    | disconnect => exact List.suffix_cons _ _
    | message message now =>
      show broker.trace <:+ (onMessage config now message broker).2.trace
      rw [(onMessage_final config now message broker).1]
      exact List.suffix_cons _ _
  | tick now codes snapshot =>
    show broker.trace <:+ (tick config now codes snapshot broker).2.trace
    rw [tick_final]
    obtain ⟨sent, trace, -⟩ :=
      (quietly_refreshMeter config now codes (noted config snapshot broker)).trace
    have ready : broker.trace <:+ (prepared config now codes snapshot broker).trace := by
      unfold prepared
      rw [trace]
      exact (List.suffix_cons _ _).trans (List.suffix_append _ _)
    unfold tickedTo
    split
    · split
      · refine ready.trans ?_
        rcases offer config snapshot with _ | offered
        · exact suffix_availability _ _ _ _
        · show _ <:+ (if _ then _ else _ : Broker).trace
          split
          · exact suffix_availability _ _ _ _
          · split
            · refine List.IsSuffix.trans ?_ (suffix_availability _ _ _ _)
              rw [sendState_trace]
              exact List.suffix_cons _ _
            · exact List.suffix_rfl
      · exact ready
    · exact List.suffix_cons _ _

/-- A run only adds to the trace. -/
theorem trace_suffix (config : Config) (inputs more : List Input) :
    (run config inputs).trace <:+ (run config (inputs ++ more)).trace := by
  induction more using List.reverseRecOn with
  | nil => exact (List.append_nil inputs).symm ▸ List.suffix_rfl
  | append_singleton more input ih =>
    rw [← List.append_assoc, run_append]
    exact ih.trans (suffix_step config _ input)

/-- **An accepted `online` follows its state** in every run whose ticks are backed; where no
revision returns, in no other. -/
theorem online_vouched (config : Config) (inputs : List Input)
    (enabled : config.publishHa = true) :
    (EveryTick config inputs (Backed config) → Throughout Vouched (run config inputs).trace) ∧
      (NeverReturns (offeredRevisions config inputs) →
        Throughout Vouched (run config inputs).trace →
          EveryTick config inputs (Backed config)) := by
  refine ⟨fun every => ?_, fun never law => ?_⟩
  · induction inputs using List.reverseRecOn with
    | nil => exact trivial
    | append_singleton inputs input ih =>
      obtain ⟨before, last⟩ := everyTick_append every
      rw [run_append]
      cases input with
      | callback called => exact vouched_callback (ih before) called
      | tick now codes snapshot =>
        show Throughout Vouched (tick config now codes snapshot _).2.trace
        rw [tick_final]
        exact (run_kept config inputs).vouched (last now codes snapshot rfl) (ih before)
  · rintro before now codes snapshot after rfl
    have seen : offeredRevisions config (before ++ .tick now codes snapshot :: after) =
        offeredRevisions config before ++ offeredBy config snapshot ++
          offeredRevisions config after := by
      rw [offeredRevisions_append, List.append_assoc]
      rfl
    rw [seen] at never
    have shape : before ++ .tick now codes snapshot :: after =
        (before ++ [.tick now codes snapshot]) ++ after := by
      rw [List.append_assoc]
      rfl
    rw [shape] at law
    have ticked := law.suffix (trace_suffix config _ after)
    rw [run_append] at ticked
    have final : (step config (run config before) (.tick now codes snapshot)) =
        tickedTo config now codes snapshot (run config before) := tick_final now snapshot
    rw [final] at ticked
    exact (run_kept config before).backed enabled never.left ticked

end Runs

/-! ### Single runs -/

/-- An evcc car without a meter, and a Mercedes. -/
def someCar : Config := ⟨"portal", true, none, 15, false, "car"⟩
def someMercedes : Config := ⟨"portal", true, none, 15, true, "car"⟩

/-- A reading, and a payload whose metadata holds a `NaN`. -/
def someReading : Handed := ⟨true, none, some 100, [("soc", .int 50), ("source", .str "evcc:any")]⟩
def nanPayload : Handed where
  ok := true
  mercedesPayload := some
    { schema := 1, vin := "WDD0000000000TEST", revision := 1, receivedAt := 100, fullUpdate := true
      attributes := [("soc", [("value", .int 50)])]
      vehicle := some [("information", .dict [("tcuType", .float .nan)])]
      dataMode := some .push }
  sampledAt := none
  fields := []

theorem neverReturns_singleton (revision : Revision) : NeverReturns [revision] := by
  intro first found between last shape
  have length := congrArg List.length shape
  simp at length
  omega

/-- The first tick of a connection publishes. -/
theorem someReading_published :
    letI := plainText
    let inputs := [.callback (.connect 0), .tick 0 .accepted someReading]
    Throughout Once (run someCar inputs).trace ∧
      EveryTick someCar inputs fun broker now codes snapshot =>
        statePublishes (step someCar broker (.tick now codes snapshot)).trace =
          duePublish someCar codes broker snapshot ++ statePublishes broker.trace :=
  @state_published_exactly plainText someCar [.callback (.connect 0), .tick 0 .accepted someReading]
    rfl (neverReturns_singleton _)

/-- A payload that holds a `NaN` is available on a connected session, and never published. -/
theorem nan_not_published :
    letI := plainText
    let broker := run someMercedes [.callback (.connect 0)]
    someMercedes.publishHa = true ∧ broker.connected = true ∧
      NeverReturns (offeredRevisions someMercedes
        [.callback (.connect 0), .tick 0 .accepted nanPayload]) ∧
      (offer someMercedes nanPayload).map Offer.revision = some (.received 100 1) ∧
      accepted (.received 100 1) broker.trace = false ∧
      statePublishes (step someMercedes broker (.tick 0 .accepted nanPayload)).trace = [] := by
  exact ⟨rfl, rfl, neverReturns_singleton _, rfl, rfl, rfl⟩

/-- Every tick of this run is backed, since every publication is accepted. -/
theorem someReading_backed [PyText] :
    EveryTick someCar [.callback (.connect 0), .tick 0 .accepted someReading] (Backed someCar) := by
  intro before now codes snapshot after shape
  have member : .tick now codes snapshot ∈
      [Input.callback (.connect 0), .tick 0 .accepted someReading] := by
    rw [shape]
    exact List.mem_append_right before List.mem_cons_self
  simp only [List.mem_cons, reduceCtorEq, Input.tick.injEq, List.not_mem_nil, or_false,
    false_or] at member
  obtain ⟨-, rfl, -⟩ := member
  exact fun _ _ _ => .inr (.inl rfl)

/-- Where every publication is accepted, `online` follows its state; and no revision returns. -/
theorem someReading_vouched :
    letI := plainText
    let inputs := [.callback (.connect 0), .tick 0 .accepted someReading]
    Throughout Vouched (run someCar inputs).trace ∧ EveryTick someCar inputs (Backed someCar) := by
  have both := @online_vouched plainText someCar
    [.callback (.connect 0), .tick 0 .accepted someReading] rfl
  have vouched := both.1 (@someReading_backed plainText)
  exact ⟨vouched, both.2 (neverReturns_singleton _) vouched⟩

/-- A state that is rejected for want of a connection, and an accepted `online`. -/
theorem rejected_state_announced :
    letI := plainText
    ¬ Throughout Vouched (run someCar
      [.callback (.connect 0), .tick 0 ⟨0, fun _ => 0, 4, 0⟩ someReading]).trace := by
  decide +kernel

end DbusEv.Mqtt
