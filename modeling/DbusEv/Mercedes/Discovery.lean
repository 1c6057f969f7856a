/-
**What the metadata of the vehicle may do to its telemetry** (`client.py`, `_metadata` and
`_websocket_headers`).

A status of 401, 403 or 429 must reach the loop; everything else about the display metadata is meant
to be logged. A member that has the wrong type is not: `get` raises an `AttributeError`, which no
handler of `_metadata` names, and the attempt fails before its handshake.

* `Readable` — the responses that can be read to the end, or up to an exception that is handled.
* `wp_readResponses` — what is raised is handled, exactly on these: on the others it is an
  `AttributeError`, or a failure of another kind.
* `opens_stream` — with readable responses the attempt goes on to its handshake.
* `never_blocks_iff` — both, against what was meant.
-/

import DbusEv.Mercedes.Metadata
import DbusEv.Mercedes.Walk

set_option autoImplicit false
set_option linter.unusedSectionVars false

namespace DbusEv.Mercedes

open Exec

/-! ### Responses that can be read -/

/-- The statuses that the loop has to act on. -/
def isRefusal (e : Exn) : Bool := e.status = some 401 || e.status = some 403 || e.status = some 429

/-- `_metadata` logs it, or raises it as it should. -/
def isHandled (e : Exn) : Bool := isLogged e || isRefusal e

/-- The value has a `get`. -/
def isObject : PyValue → Bool
  | .dict _ => true
  | _ => false

/-- `vehicle.get("salesRelatedInformation", {})` and its `baumuster`, where they are there, are
objects. -/
def isDescribed (vehicle : Dict PyValue) : Bool :=
  match (vehicle.get "salesRelatedInformation").getD (.dict []) with
  | .dict sales => isObject ((Dict.get sales "baumuster").getD (.dict []))
  | _ => false

/-- `vehicle.get("vin") or vehicle.get("fin")`, of an object. -/
def vinIn (vehicle : Dict PyValue) : PyValue :=
  orElse ((vehicle.get "vin").getD .none) ((vehicle.get "fin").getD .none)

/-- An entry of the list that the loop over the vehicles can read. -/
def isEntry (vin : String) : PyValue → Bool
  | .dict vehicle => !isText (vinIn vehicle) vin || isDescribed vehicle
  | _ => false

/-- What is read of the capabilities: an answer that is an object, or a handled failure. -/
def answersHandled : Except Exn PyValue → Bool
  | .ok answer => isObject answer
  | .error e => isHandled e

/-- The two responses are read to the end, or up to an exception that is logged or a refusal. The
capabilities are not asked for when the vehicles could not be iterated over. -/
def Readable (vin : String) (vehicles capabilities : Except Exn PyValue) : Prop :=
  match vehicles with
  | .error e => isHandled e = true
  | .ok (.dict body) =>
    match iterate ((Dict.get body "assignedVehicles").getD (.list [])) with
    | .ok items => (∀ item ∈ items, isEntry vin item = true) ∧ answersHandled capabilities = true
    | .error _ => True
  | .ok _ => False

/-! ### Reading them -/

section Reading

variable {vin : String} {vehicles capabilities : Except Exn PyValue} {built : Dict PyValue}

/-- What is raised is handled, and a refusal is the answer to one of the two requests. -/
def Handles (vehicles capabilities : Except Exn PyValue) : Exn → Dict PyValue → Prop := fun e _ =>
  isHandled e = true ∧ (isRefusal e = true → vehicles = .error e ∨ capabilities = .error e)

/-- A `TypeError` is logged. -/
theorem handles_type : Handles vehicles capabilities (.other .type) built := ⟨rfl, nofun⟩

/-- Only an object has `get`. -/
theorem wp_getItem {value : PyValue} {key : String} {default : PyValue}
    {Q : PyValue → Dict PyValue → Prop} :
    wp (Exec.ofExcept (getItem value key default)) Q (Handles vehicles capabilities) built ↔
      ∃ items, value = .dict items ∧ Q ((Dict.get items key).getD default) built := by
  rw [wp_ofExcept]
  cases value with
  | dict items =>
    refine ⟨fun holds => ⟨items, rfl, holds⟩, ?_⟩
    rintro ⟨_, same, holds⟩
    cases same
    exact holds
  | _ =>
    refine ⟨fun handles => absurd handles.1 Bool.false_ne_true, ?_⟩
    rintro ⟨_, same, -⟩
    cases same

/-- The entries of an object are read to the end exactly when its members are objects. -/
theorem wp_describe {vehicle : Dict PyValue} {P : Prop} :
    wp (describe vin (.dict vehicle)) (fun _ _ => P) (Handles vehicles capabilities) built ↔
      isDescribed vehicle = true ∧ P := by
  unfold describe assign isDescribed
  simp only [wp_bind, wp_getItem, wp_change, PyValue.dict.injEq, exists_eq_left']
  constructor
  · rintro ⟨sales, isSales, baumuster, isBaumuster, holds⟩
    rw [isSales]
    simp only [isBaumuster]
    exact ⟨rfl, holds⟩
  · rintro ⟨described, holds⟩
    cases sales : (vehicle.get "salesRelatedInformation").getD (.dict []) with
    | dict items =>
      simp only [sales] at described
      cases baumuster : (Dict.get items "baumuster").getD (.dict []) with
      | dict members => exact ⟨items, rfl, members, baumuster, holds⟩
      | _ =>
        rw [baumuster] at described
        cases described
    | _ =>
      simp only [sales] at described
      cases described

theorem vinOf_object (vehicle : Dict PyValue) : vinOf (.dict vehicle) = .ok (vinIn vehicle) := by
  unfold vinOf vinIn orElse
  exact (apply_ite Except.ok _ _ _).symm

/-- One round of the loop. -/
theorem wp_readVehicle {vehicle : PyValue} {P : Prop} :
    wp (readVehicle vin vehicle) (fun _ _ => P) (Handles vehicles capabilities) built ↔
      isEntry vin vehicle = true ∧ P := by
  unfold readVehicle
  rw [wp_bind, wp_ofExcept]
  cases vehicle with
  | dict vehicle =>
    rw [vinOf_object]
    simp only [wp_ite, wp_pure, wp_describe]
    unfold isEntry
    cases found : isText (vinIn vehicle) vin with
    | false => simp [found]
    | true => simp [found]
  | _ =>
    refine ⟨fun handles => absurd handles.1 Bool.false_ne_true, fun entry => ?_⟩
    cases entry.1

/-- The loop over the vehicles. -/
theorem wp_readVehicles {items : List PyValue} {P : Prop} :
    wp (Exec.each (readVehicle vin) items) (fun _ _ => P) (Handles vehicles capabilities) built ↔
      (∀ item ∈ items, isEntry vin item = true) ∧ P := by
  induction items generalizing built with
  | nil => simp [Exec.each, wp]
  | cons item rest ih =>
    unfold Exec.each
    rw [wp_bind]
    simp only [ih, wp_readVehicle, List.forall_mem_cons, and_assoc]

theorem iterate_error {value : PyValue} {e : Exn} (raised : iterate value = .error e) :
    e = .other .type := by
  cases value <;> cases raised <;> rfl

theorem itemIn_error {value : PyValue} {key : String} {e : Exn}
    (raised : itemIn value key = .error e) : e = .other .type := by
  unfold itemIn at raised
  split at raised
  · cases raised
  · split_ifs at raised
    cases raised
    rfl
  · split_ifs at raised
    cases raised
    rfl
  · cases raised
    rfl

theorem informationOf_error {info : PyValue} {keys : List String} {e : Exn}
    (raised : informationOf info keys = .error e) : e = .other .type := by
  induction keys with
  | nil => cases raised
  | cons key rest ih =>
    unfold informationOf at raised
    cases item : itemIn info key with
    | error e' =>
      rw [item] at raised
      cases raised
      exact itemIn_error item
    | ok found =>
      rw [item] at raised
      cases others : informationOf info rest with
      | error e' =>
        rw [others] at raised
        cases raised
        exact ih others
      | ok others' =>
        rw [others] at raised
        cases raised

/-- What is read of the capabilities. -/
theorem wp_readCapabilities :
    wp (do
      let answer ← Exec.ofExcept capabilities
      let info ← Exec.ofExcept (getItem answer "vehicle" (.dict []))
      let information ← Exec.ofExcept (informationOf info informationKeys)
      assign "information" (.dict information)) (fun _ _ => True)
      (Handles vehicles capabilities) built ↔ answersHandled capabilities = true := by
  rw [wp_bind, wp_ofExcept]
  cases capabilities with
  | error e => exact ⟨And.left, fun handled => ⟨handled, fun _ => .inr rfl⟩⟩
  | ok answer =>
    simp only [wp_bind, wp_getItem]
    unfold answersHandled
    constructor
    · rintro ⟨items, rfl, -⟩
      rfl
    · intro object
      cases answer with
      | dict items =>
        refine ⟨items, rfl, ?_⟩
        rw [wp_ofExcept]
        cases information : informationOf ((Dict.get items "vehicle").getD (.dict []))
            informationKeys with
        | error e =>
          cases informationOf_error information
          exact handles_type
        | ok information => exact trivial
      | _ => cases object

/-- **What the reading raises is handled** exactly when the responses are readable. -/
theorem wp_readResponses :
    wp (readResponses vin vehicles capabilities) (fun _ _ => True)
      (Handles vehicles capabilities) built ↔ Readable vin vehicles capabilities := by
  unfold readResponses Readable
  rw [wp_bind, wp_ofExcept]
  cases vehicles with
  | error e => exact ⟨And.left, fun handled => ⟨handled, fun _ => .inl rfl⟩⟩
  | ok body =>
    dsimp only
    rw [wp_bind, wp_getItem]
    cases body with
    | dict items =>
      simp only [PyValue.dict.injEq, exists_eq_left']
      rw [wp_bind, wp_ofExcept]
      cases listed : iterate ((Dict.get items "assignedVehicles").getD (.list [])) with
      | error e =>
        cases iterate_error listed
        exact iff_of_true handles_type trivial
      | ok entries =>
        dsimp only
        rw [wp_bind]
        simp only [wp_readCapabilities, wp_readVehicles]
    | _ =>
      refine ⟨?_, False.elim⟩
      rintro ⟨_, same, -⟩
      cases same

end Reading

/-! ### What it raises -/

/-- `_metadata` returns, or raises a refusal that one of its requests was answered with. -/
def RaisesRefusals (vin : String) (vehicles capabilities : Except Exn PyValue) : Prop :=
  ∀ e, metadata vin vehicles capabilities = .error e →
    isRefusal e = true ∧ (vehicles = .error e ∨ capabilities = .error e)

theorem isRefusal_of_not_isLogged {e : Exn} (handled : isHandled e = true)
    (raised : isLogged e ≠ true) : isRefusal e = true := by
  unfold isHandled at handled
  exact (Bool.or_eq_true_iff.mp handled).resolve_left raised

theorem not_isRefusal_of_isLogged {e : Exn} (logged : isLogged e = true) :
    isRefusal e = false := by
  unfold isRefusal
  cases e with
  | response handshake status retryAfter =>
    simp only [isLogged, ne_eq, Bool.and_eq_true, decide_eq_true_eq] at logged
    simp [Exn.status, logged]
  | _ => rfl

/-- **Only refusals are raised**, exactly on the readable responses. -/
theorem raisesRefusals_iff (vin : String) (vehicles capabilities : Except Exn PyValue) :
    RaisesRefusals vin vehicles capabilities ↔ Readable vin vehicles capabilities := by
  have reading : wp (readResponses vin vehicles capabilities) (fun _ _ => True)
      (Handles vehicles capabilities) [] ↔ Readable vin vehicles capabilities := wp_readResponses
  rw [← reading]
  unfold RaisesRefusals metadata wp
  rcases readResponses vin vehicles capabilities [] with ⟨e | value, built⟩
  · by_cases logged : isLogged e = true
    · simp only [logged, if_true]
      refine iff_of_true nofun ⟨by simp [isHandled, logged], fun refusal => ?_⟩
      rw [not_isRefusal_of_isLogged logged] at refusal
      cases refusal
    · simp only [logged, Bool.false_eq_true, if_false]
      constructor
      · intro raises
        obtain ⟨refusal, answered⟩ := raises e rfl
        exact ⟨by simp [isHandled, refusal], fun _ => answered⟩
      · rintro ⟨handled, answered⟩ _ ⟨rfl⟩
        have refusal := isRefusal_of_not_isLogged handled logged
        exact ⟨refusal, answered refusal⟩
  · exact iff_of_true nofun trivial

/-! ### The attempt that asked for it -/

/-- What a trace that only grows keeps. -/
theorem closed_trace {P : List Event → Prop}
    (grows : ∀ event trace, P trace → P (event :: trace)) : Closed fun w => P w.trace where
  inert w t act holds := by
    cases act with
    | quiet same => exact same.trace ▸ holds
    | pass => exact holds
    | pulled => exact holds
    | paused => exact holds
    | rateLimited => exact holds
    | healthy => exact holds
    | loginFailed => exact holds
    | reserve => exact holds
    | _ => exact grows _ _ holds
  planned _ _ _ _ holds := grows _ _ holds

/-- Since `before`, the attempt has asked for its WebSocket. -/
def Opens (owner : ℕ) (before after : List Event) : Prop :=
  ∃ later, after = later ++ before ∧ ∃ remaining, Event.requested owner .handshake remaining ∈ later

theorem closed_opens (owner : ℕ) (before : List Event) :
    Closed fun w => Opens owner before w.trace := by
  refine closed_trace fun event trace opens => ?_
  obtain ⟨later, rfl, remaining, asked⟩ := opens
  exact ⟨event :: later, rfl, remaining, List.mem_cons_of_mem event asked⟩

/-- An attempt from `w` gets as far as the metadata, whose requests are answered so. -/
structure AsksMetadata (env : Env) (w : World) (vehicles capabilities : Except Exn PyValue) :
    Prop where
  proceeds : ∀ n < 3, env.fate (w.steps + n) = .proceeds
  refreshed : env.refresh w.steps = .ok ()
  token : env.token (w.steps + 1) = .ok true
  unknown : w.session.client.vehicle = none
  answered : env.metadata (w.steps + 2) = metadata w.session.client.vin vehicles capabilities

section Attempt

variable [PyText] {env : Env} {vendor : Vendor} {w : World}
  {vehicles capabilities : Except Exn PyValue}

/-- A step that is answered. -/
theorem wp_request_ok {α : Type} {owner : ℕ} {step : Step} {outcome : ℕ → Except Exn α} {value : α}
    {Q : α → World → Prop} {X : Halt → World → Prop} (proceeds : env.fate w.steps = .proceeds)
    (answered : outcome w.steps = .ok value) :
    wp (request env owner step outcome) Q X w ↔
      Q value ((w.note (.requested owner step w.remaining)).pass
        ((0 : ℚ).toNNRat + env.takes w.steps) (env.stops w.steps)).answered := by
  rw [wp_request, wp_awaitStep, wp_await]
  simp only [World.note, proceeds, answered]

/-- The headers are ready when the metadata is. -/
theorem wp_websocketHeaders (asks : AsksMetadata env w vehicles capabilities)
    {vehicle : Dict PyValue} {X : Halt → World → Prop}
    (returned : metadata w.session.client.vin vehicles capabilities = .ok vehicle) (owner : ℕ) :
    wp (websocketHeaders env owner) (fun _ t => w.trace <:+ t.trace) X w := by
  unfold websocketHeaders
  rw [wp_bind, wp_request_ok (asks.proceeds 0 (by omega)) asks.refreshed]
  rw [wp_bind, wp_request_ok (asks.proceeds 1 (by omega)) asks.token]
  rw [if_pos rfl, wp_bind, wp_read]
  simp only [World.note, World.pass, World.answered, asks.unknown]
  rw [wp_bind, wp_request_ok (asks.proceeds 2 (by omega)) (asks.answered.trans returned), wp_change]
  exact ⟨[_, _, _], rfl⟩

/-- **An attempt whose metadata returns asks for its WebSocket.** -/
theorem opens_stream (asks : AsksMetadata env w vehicles capabilities) {vehicle : Dict PyValue}
    (returned : metadata w.session.client.vin vehicles capabilities = .ok vehicle) (fuel : ℕ) :
    Opens w.owners w.trace (attempt env vendor fuel w).2.trace := by
  have closed := closed_opens w.owners w.trace
  suffices keeps : Keeps (fun t => Opens w.owners w.trace t.trace) (attempt env vendor fuel) w from
    keeps.final
  unfold attempt Keeps
  rw [wp_bind, wp_newOwner, wp_bind, wp_change]
  refine keeps_ensure (keeps_tryExcept ?_ ?_) fun _ kept =>
    closed.inert.setInside (closed.inert.setConnected kept false) false
  · refine keeps_bind ?_ fun _ _ kept => kept
    have started : AsksMetadata env { w with owners := w.owners + 1, inside := true } vehicles
      capabilities := ⟨asks.proceeds, asks.refreshed, asks.token, asks.unknown, asks.answered⟩
    unfold attemptBody Keeps
    rw [wp_bind]
    refine wp_value (wp_websocketHeaders started returned w.owners) ?_
    rintro _ t ⟨later, same⟩
    have asked : Opens w.owners w.trace
        (t.note (.requested w.owners .handshake t.remaining)).trace := by
      refine ⟨.requested w.owners .handshake t.remaining :: later, ?_, _, List.mem_cons_self⟩
      rw [List.cons_append, same]
      rfl
    refine keeps_opening closed w.owners fuel ?_
    unfold Keeps
    rw [wp_request]
    exact keeps_awaitStep closed.inert asked _ _ _
  · exact fun e t kept => keeps_attemptFailed closed.inert kept e

/-- What was meant: `_metadata` raises refusals only, and in every other case the attempt that
called it goes on to open the stream. -/
def NeverBlocks (vin : String) (vehicles capabilities : Except Exn PyValue) : Prop :=
  RaisesRefusals vin vehicles capabilities ∧
    ∀ (env : Env) (vendor : Vendor) (fuel : ℕ) (w : World), w.session.client.vin = vin →
      AsksMetadata env w vehicles capabilities →
        Opens w.owners w.trace (attempt env vendor fuel w).2.trace ∨
          ∃ e, metadata vin vehicles capabilities = .error e ∧ isRefusal e = true

/-- **The metadata never blocks the telemetry**, exactly when its responses are readable. -/
theorem never_blocks_iff (vin : String) (vehicles capabilities : Except Exn PyValue) :
    NeverBlocks vin vehicles capabilities ↔ Readable vin vehicles capabilities := by
  constructor
  · intro never
    exact (raisesRefusals_iff vin vehicles capabilities).mp never.1
  · intro readable
    have refusals := (raisesRefusals_iff vin vehicles capabilities).mpr readable
    refine ⟨refusals, ?_⟩
    rintro env vendor fuel w rfl asks
    cases returned : metadata w.session.client.vin vehicles capabilities with
    | ok vehicle => exact .inl (opens_stream asks returned fuel)
    | error e => exact .inr ⟨e, rfl, (refusals e returned).1⟩

end Attempt

/-! ### A member that is null -/

/-- The account lists the vehicle, with a null where its sales information was. -/
def nullSales (vin : String) : PyValue :=
  .dict [("assignedVehicles", .list
    [.dict [("vin", .str vin), ("salesRelatedInformation", .none)]])]

/-- The cloud answers every request, and the metadata with that account. -/
def answersNull : Env where
  takes _ := 0
  stops _ := false
  fate _ := .proceeds
  save _ := .persisted
  refresh _ := .ok ()
  token _ := .ok true
  metadata _ := metadata someConfig.vin (.ok (nullSales someConfig.vin)) (.ok (.dict []))
  handshake _ := .ok ()
  message _ := none
  acknowledge _ := .ok ()
  reply _ := .error (.other .os)
  credentials _ := .ok ()
  login _ := .ok true

def asksHandshake : Event → Bool
  | .requested _ .handshake _ => true
  | _ => false

/-- **Null sales information blocks the telemetry**: an `AttributeError` escapes, and the attempt
ends without having asked for its WebSocket. -/
theorem null_sales_blocks : letI := plainText
    ¬ NeverBlocks someConfig.vin (.ok (nullSales someConfig.vin)) (.ok (.dict [])) ∧
      (attempt answersNull blindVendor 9 (World.start someConfig ⟨LimitsData.empty, 0, 0⟩
        LimitsData.empty.encode ⟨0, 0⟩)).2.trace.any asksHandshake = false := by
  refine ⟨fun never => ?_, by decide +kernel⟩
  have escapes : metadata someConfig.vin (.ok (nullSales someConfig.vin)) (.ok (.dict [])) =
      .error (.other .any) := by rfl
  exact absurd (never.1 _ escapes).1 Bool.false_ne_true

end DbusEv.Mercedes
