/-
**Every poll of the Home Assistant client** (`dbus_ev/ha_client.py`, `HaClient.poll`), exit by exit.

* `poll` — the program of one call, with its `try` and its handlers; a number is the double the
  source holds.
* `Polled` — its three ends, by `wp_poll`: refused, answered or failed.
* `all_or_nothing` — the twelve fields are replaced together or kept together, the breaker is told
  once, and no run returns an infinity or a NaN.
* `poll_refines` — a call is what `HaClient.begin` and `HaClient.finish` say.
* `breaker_law` — the circuit breaker in every run of polls.
-/

import DbusEv.HaClient
import DbusEv.Lib.Exec
import DbusEv.Lib.Trace

set_option autoImplicit false
set_option linter.unusedSectionVars false

namespace DbusEv.HaPoll

open Exec

/-! ### Numbers -/

/-- `math.isfinite(value)`. -/
def isFinite : PyFloat → Bool
  | .finite _ => true
  | _ => false

/-- `value * factor`, for a positive factor. -/
def scale (factor : ℚ) : PyFloat → PyFloat
  | .finite value => PyFloat.mul value factor
  | other => other

/-- `value if math.isfinite(value) else None`. -/
def ifFinite (value : PyFloat) : Option PyFloat := if isFinite value then some value else none

section States

variable [PyText]

/-- `_state_float(s)`. -/
def stateFloat (value : PyValue) : Option PyFloat :=
  match stateText value with
  | none => none
  | some text =>
    match PyText.float text with
    | some number => ifFinite number
    | none => none

/-- `_normalize_unit(value, entity, unit_map, accepted, unit)`. -/
def normalizeUnit (value : Option PyFloat) (entity : String) (unitMap : Dict ℚ)
    (accepted : List String) (unit : PyValue) : Option PyFloat :=
  match value with
  | none => none
  | some number =>
    if entity = "" then some number
    else
      let unit := PyText.lower (if unit.truthy then toStr unit else "")
      match unitMap.get unit with
      | some factor => ifFinite (scale factor number)
      | none =>
        if unit = "" ∨ unit ∉ accepted then
          match unitMap.get "kw" with
          | some factor => ifFinite (scale factor number)
          | none => some number
        else some number

end States

/-! ### The client -/

/-- The twelve fields of `last_known`. -/
structure Known where
  soc : Option PyFloat
  targetSoc : Option PyFloat
  vin : Option String
  batteryCapacity : Option PyFloat
  chargingState : Option ℕ
  odometer : Option PyFloat
  rangeToGo : Option PyFloat
  latitude : Option PyFloat
  longitude : Option PyFloat
  atSite : Option Bool
  current : Option PyFloat
  power : Option PyFloat

/-- Nothing is known yet. -/
def Known.unknown : Known :=
  ⟨none, none, none, none, none, none, none, none, none, none, none, none⟩

structure Client where
  config : HaConfig
  breaker : CircuitBreaker
  lastKnown : Known

/-- What becomes of the request. A response has a status, and a body if its text is JSON. -/
inductive Reply
  | timeout
  | requestError
  | response (status : ℤ) (body : Option PyValue)

/-- The exceptions of the `try`: of the request, `HomeAssistantAPIError`, or a `ValueError`. -/
inductive Raised
  | timeout
  | requestError
  | homeAssistant
  | value

/-- What happens in a poll. -/
inductive Event
  /-- The request leaves. -/
  | sent (mono : ℚ)
  /-- The breaker records a success. -/
  | succeeded
  /-- The breaker records a failure. -/
  | failed (mono : ℚ)
  | returned (result : Known) (ok : Bool)

/-- The client, the local `result` of `poll`, and what happened so far, newest first. -/
structure Polling where
  client : Client
  result : Known
  ok : Bool
  trace : List Event

/-- A program of `poll`. -/
abbrev Poll (α : Type) := Exec Polling Raised α

/-! ### What the breaker answers -/

/-- An open breaker is left as it is. -/
theorem isOpen_true {breaker : CircuitBreaker} {mono : ℚ}
    (opened : (breaker.isOpen mono).1 = true) : (breaker.isOpen mono).2 = breaker := by
  unfold CircuitBreaker.isOpen at opened ⊢
  cases held : breaker.openedAt with
  | none => rfl
  | some openedAt =>
    simp only [held] at opened
    by_cases passed : breaker.resetTimeout ≤ mono - openedAt
    · rw [if_pos passed] at opened
      cases opened
    · simp only [if_neg passed]

/-- The breaker lets a request through: it was not open, or the timeout has passed. -/
theorem isOpen_false {breaker : CircuitBreaker} {mono : ℚ}
    (closed : (breaker.isOpen mono).1 = false) :
    (breaker.openedAt = none ∧ (breaker.isOpen mono).2 = breaker) ∨
      ∃ last, breaker.openedAt = some last ∧ breaker.resetTimeout ≤ mono - last ∧
        (breaker.isOpen mono).2 =
          { breaker with openedAt := none, failures := breaker.threshold - 1 } := by
  unfold CircuitBreaker.isOpen at closed ⊢
  cases held : breaker.openedAt with
  | none => exact .inl ⟨rfl, rfl⟩
  | some last =>
    simp only [held] at closed
    by_cases passed : breaker.resetTimeout ≤ mono - last
    · exact .inr ⟨last, rfl, passed, by simp only [if_pos passed]⟩
    · rw [if_neg passed] at closed
      cases closed

/-- A breaker that refuses is open, and its timeout has not passed. -/
theorem openedAt_of_isOpen {breaker : CircuitBreaker} {mono : ℚ}
    (opened : (breaker.isOpen mono).1 = true) :
    ∃ last, breaker.openedAt = some last ∧ mono - last < breaker.resetTimeout := by
  unfold CircuitBreaker.isOpen at opened
  cases held : breaker.openedAt with
  | none =>
    simp only [held] at opened
    cases opened
  | some last =>
    simp only [held] at opened
    by_cases passed : breaker.resetTimeout ≤ mono - last
    · rw [if_pos passed] at opened
      cases opened
    · exact ⟨last, rfl, not_le.mp passed⟩

section Programs

variable [PyText]

/-- The fields of a reply. -/
def readFields (config : HaConfig) (data : Dict PyValue) : Known :=
  let state (key : String) := (data.get key).getD .none
  let distance (key : String) (entity : String) (unit : String) :=
    normalizeUnit (stateFloat (state key)) entity
      [("mi", kilometresPerMile), ("mile", kilometresPerMile), ("miles", kilometresPerMile)]
      ["mi", "mile", "miles", "km", "kilometer", "kilometre", "kilo"] (state unit)
  { soc := stateFloat (state "soc")
    targetSoc := stateFloat (state "target_soc")
    vin := stateText (state "vin")
    batteryCapacity := stateFloat (state "battery_capacity")
    chargingState := (stateText (state "charging_state")).map mapChargingState
    odometer := distance "odometer" config.odometerEntity "odometer_unit"
    rangeToGo := distance "range_to_go" config.rangeToGoEntity "range_to_go_unit"
    latitude := stateFloat (state "latitude")
    longitude := stateFloat (state "longitude")
    atSite := stateIsOn (state "at_site")
    current := stateFloat (state "current")
    power := normalizeUnit (stateFloat (state "power")) config.powerEntity
      [("kw", wattsPerKilowatt)] ["kw", "w", "watt"] (state "power_unit") }

def note (event : Event) : Poll Unit := Exec.change fun s => { s with trace := event :: s.trace }

def setBreaker (update : CircuitBreaker → CircuitBreaker) : Poll Unit :=
  Exec.change fun s => { s with client := { s.client with breaker := update s.client.breaker } }

/-- `self.breaker.is_open`. -/
def isOpen (mono : ℚ) : Poll Bool := do
  let s ← Exec.read
  setBreaker fun breaker => (breaker.isOpen mono).2
  pure (s.client.breaker.isOpen mono).1

/-- `self.breaker.record_success()`. -/
def recordSuccess : Poll Unit := do
  setBreaker CircuitBreaker.recordSuccess
  note .succeeded

/-- `self.breaker.record_failure()`. -/
def recordFailure (mono : ℚ) : Poll Unit := do
  setBreaker (CircuitBreaker.recordFailure · mono)
  note (.failed mono)

/-- The request, the check of its status, `json.loads` and the check of its type. -/
def fetch : Reply → Except Raised (Dict PyValue)
  | .timeout => .error .timeout
  | .requestError => .error .requestError
  | .response status body =>
    if status ≠ 200 then .error .homeAssistant
    else
      match body with
      | none => .error .value
      | some (.dict data) => .ok data
      | some _ => .error .homeAssistant

/-- The body of the `try`. -/
def fetchState (began : ℚ) (reply : Reply) : Poll Unit := do
  note (.sent began)
  let data ← Exec.ofExcept (fetch reply)
  Exec.change fun s =>
    let fields := readFields s.client.config data
    { s with result := fields, ok := fields.soc.isSome }
  Exec.change fun s => { s with client := { s.client with lastKnown := s.result } }
  recordSuccess

/-- The handlers. -/
def handlers (ended : ℚ) : Raised → Option (Poll Unit)
  | .timeout => some (recordFailure ended)
  | .requestError => some (recordFailure ended)
  | .homeAssistant => some (recordFailure ended)
  | .value => some (recordFailure ended)

/-- `poll` up to its `return`: it starts at `began`, and its request ends at `ended`. -/
def attempt (began ended : ℚ) (reply : Reply) : Poll Unit := do
  let s ← Exec.read
  if !s.client.config.configured then pure ()
  else do
    let open_ ← isOpen began
    if open_ then pure ()
    else Exec.handle (fetchState began reply) (handlers ended)

/-- `return result`. -/
def giveBack : Poll (Known × Bool) := do
  let s ← Exec.read
  note (.returned s.result s.ok)
  pure (s.result, s.ok)

/-- `poll()`. -/
def poll (began ended : ℚ) (reply : Reply) : Poll (Known × Bool) := do
  Exec.change fun s => { s with result := s.client.lastKnown, ok := false }
  attempt began ended reply
  giveBack

/-! ### The three ends of a poll -/

/-- How a poll from `s` ends. -/
inductive Polled (began ended : ℚ) (reply : Reply) (s : Polling) : Polling → Prop
  /-- Without a request: not configured, or the breaker is open. -/
  | refused (closed : s.client.config.configured = false ∨
      (s.client.breaker.isOpen began).1 = true) :
    Polled began ended reply s
      { client := s.client
        result := s.client.lastKnown
        ok := false
        trace := .returned s.client.lastKnown false :: s.trace }
  | answered {data : Dict PyValue} (sent : s.client.config.configured = true ∧
      (s.client.breaker.isOpen began).1 = false) (fetched : fetch reply = .ok data) :
    Polled began ended reply s
      { client :=
          { s.client with
            breaker := (s.client.breaker.isOpen began).2.recordSuccess
            lastKnown := readFields s.client.config data }
        result := readFields s.client.config data
        ok := (readFields s.client.config data).soc.isSome
        trace := .returned (readFields s.client.config data)
          (readFields s.client.config data).soc.isSome :: .succeeded :: .sent began :: s.trace }
  | failed {e : Raised} (sent : s.client.config.configured = true ∧
      (s.client.breaker.isOpen began).1 = false) (fetched : fetch reply = .error e) :
    Polled began ended reply s
      { client :=
          { s.client with breaker := (s.client.breaker.isOpen began).2.recordFailure ended }
        result := s.client.lastKnown
        ok := false
        trace := .returned s.client.lastKnown false :: .failed ended :: .sent began :: s.trace }

section Rules

variable {s : Polling} {X : Raised → Polling → Prop}

@[simp] theorem wp_note (event : Event) {Q : Unit → Polling → Prop} :
    wp (note event) Q X s ↔ Q () { s with trace := event :: s.trace } := Iff.rfl

theorem wp_isOpen (mono : ℚ) {Q : Bool → Polling → Prop} :
    wp (isOpen mono) Q X s ↔ Q (s.client.breaker.isOpen mono).1
      { s with client := { s.client with breaker := (s.client.breaker.isOpen mono).2 } } := Iff.rfl

theorem wp_recordFailure (mono : ℚ) {Q : Unit → Polling → Prop} :
    wp (recordFailure mono) Q X s ↔ Q ()
      { s with
        client := { s.client with breaker := s.client.breaker.recordFailure mono }
        trace := .failed mono :: s.trace } := Iff.rfl

/-- Every exception of the `try` is recorded. -/
theorem handlers_eq (ended : ℚ) (e : Raised) : handlers ended e = some (recordFailure ended) := by
  cases e <;> rfl

end Rules

/-- **Every exit of `poll`**: it returns, and ends in one of the three ways. -/
theorem wp_poll (began ended : ℚ) (reply : Reply) (s : Polling) :
    wp (poll began ended reply)
      (fun value t => value = (t.result, t.ok) ∧ Polled began ended reply s t)
      (fun _ _ => False) s := by
  unfold poll attempt giveBack
  simp only [wp_bind, wp_change, wp_read, wp_ite, wp_pure, wp_note, wp_isOpen]
  refine ⟨fun unset => ⟨trivial, .refused (.inl ?_)⟩, fun configured => ⟨fun opened => ?_, ?_⟩⟩
  · exact Bool.not_eq_true' _ ▸ unset
  · rw [isOpen_true opened]
    exact ⟨trivial, .refused (.inr opened)⟩
  · intro closed
    have sent : s.client.config.configured = true ∧ (s.client.breaker.isOpen began).1 = false :=
      ⟨by simpa using configured, by simpa using closed⟩
    unfold fetchState
    simp only [wp_handle, wp_bind, wp_note, wp_ofExcept]
    cases fetched : fetch reply with
    | ok data => exact ⟨trivial, .answered sent fetched⟩
    | error e =>
      simp only [handlers_eq]
      refine ⟨?_, fun never => by cases never⟩
      rintro recover ⟨rfl⟩
      rw [wp_recordFailure]
      exact ⟨trivial, .failed sent fetched⟩

/-! ### All or nothing -/

/-- The replies whose fields are taken: status 200 and a JSON object. -/
def objectOf : Reply → Option (Dict PyValue)
  | .response status (some (.dict data)) => if status = 200 then some data else none
  | _ => none

theorem fetch_ok_iff {reply : Reply} {data : Dict PyValue} :
    fetch reply = .ok data ↔ objectOf reply = some data := by
  unfold fetch objectOf
  cases reply with
  | timeout => simp
  | requestError => simp
  | response status body =>
    by_cases good : status = 200
    · cases body with
      | none => simp [good]
      | some value => cases value <;> simp [good]
    · cases body with
      | none => simp [good]
      | some value => cases value <;> simp [good]

/-- **One poll is all or nothing**: the twelve fields of the result and of `last_known` are read
from this reply and one success is recorded; or `last_known` stays, the result repeats it without
`ok`, and one failure is recorded if a request was sent. -/
def AllOrNothing (began ended : ℚ) (reply : Reply) (s t : Polling) : Prop :=
  (∃ data, objectOf reply = some data ∧ t.result = readFields s.client.config data ∧
    t.client.lastKnown = readFields s.client.config data ∧ t.ok = t.result.soc.isSome ∧
    t.trace = .returned t.result t.ok :: .succeeded :: .sent began :: s.trace ∧
    t.client.breaker = (s.client.breaker.isOpen began).2.recordSuccess) ∨
  (t.client.lastKnown = s.client.lastKnown ∧ t.result = s.client.lastKnown ∧ t.ok = false ∧
    (t.trace = .returned t.result t.ok :: .failed ended :: .sent began :: s.trace ∧
        t.client.breaker = (s.client.breaker.isOpen began).2.recordFailure ended ∨
      t.trace = .returned t.result t.ok :: s.trace ∧ t.client.breaker = s.client.breaker))

theorem Polled.allOrNothing {began ended : ℚ} {reply : Reply} {s t : Polling}
    (polled : Polled began ended reply s t) : AllOrNothing began ended reply s t := by
  cases polled with
  | refused closed => exact .inr ⟨rfl, rfl, rfl, .inr ⟨rfl, rfl⟩⟩
  | answered sent fetched => exact .inl ⟨_, fetch_ok_iff.mp fetched, rfl, rfl, rfl, rfl, rfl⟩
  | failed sent fetched => exact .inr ⟨rfl, rfl, rfl, .inl ⟨rfl, rfl⟩⟩

/-! ### Finite numbers -/

/-- A field that holds a finite number or nothing. -/
def IsNumber (field : Option PyFloat) : Prop := ∀ value ∈ field, isFinite value = true

/-- Every numeric field is finite or `None`. -/
def Known.Finite (known : Known) : Prop :=
  ∀ field ∈ [known.soc, known.targetSoc, known.batteryCapacity, known.odometer, known.rangeToGo,
    known.latitude, known.longitude, known.current, known.power], IsNumber field

theorem isNumber_none : IsNumber none := fun _ never => by cases never

theorem isNumber_ifFinite (value : PyFloat) : IsNumber (ifFinite value) := by
  unfold ifFinite
  intro number held
  split at held
  · rename_i finite
    cases held
    exact finite
  · cases held

theorem isNumber_stateFloat (value : PyValue) : IsNumber (stateFloat value) := by
  unfold stateFloat
  split
  · exact isNumber_none
  · split
    · exact isNumber_ifFinite _
    · exact isNumber_none

/-- A conversion overflows to `None`. -/
theorem isNumber_normalizeUnit {value : Option PyFloat} (number : IsNumber value) (entity : String)
    (unitMap : Dict ℚ) (accepted : List String) (unit : PyValue) :
    IsNumber (normalizeUnit value entity unitMap accepted unit) := by
  unfold normalizeUnit
  cases value with
  | none => exact isNumber_none
  | some held =>
    by_cases unset : entity = ""
    · simp only [unset, if_true]
      exact number
    · simp only [unset, if_false]
      generalize PyText.lower (if unit.truthy then toStr unit else "") = text
      cases unitMap.get text with
      | some factor => exact isNumber_ifFinite _
      | none =>
        by_cases unknown : text = "" ∨ text ∉ accepted
        · simp only [unknown, if_true]
          cases unitMap.get "kw" with
          | some factor => exact isNumber_ifFinite _
          | none => exact number
        · simp only [unknown, if_false]
          exact number

theorem finite_unknown : Known.unknown.Finite := by
  simp [Known.Finite, Known.unknown, IsNumber]

theorem finite_readFields (config : HaConfig) (data : Dict PyValue) :
    (readFields config data).Finite := by
  unfold Known.Finite readFields
  simp only [List.forall_mem_cons, isNumber_stateFloat, isNumber_normalizeUnit, List.not_mem_nil,
    true_and, false_implies, implies_true]

/-! ### Runs -/

/-- A call of `poll`: when it starts, when its request ends, and what becomes of it. -/
structure Call where
  began : ℚ
  ended : ℚ
  reply : Reply

/-- The client after one call. -/
def Polling.next (s : Polling) (call : Call) : Polling :=
  (poll call.began call.ended call.reply s).2

/-- The client after a sequence of calls. -/
def run (s : Polling) (calls : List Call) : Polling := calls.foldl Polling.next s

/-- A new client, with a new breaker. -/
def start (config : HaConfig) (threshold : ℤ) (resetTimeout : ℚ) : Polling where
  client := ⟨config, ⟨threshold, resetTimeout, 0, none⟩, .unknown⟩
  result := .unknown
  ok := false
  trace := []

theorem polled_next (s : Polling) (call : Call) :
    (poll call.began call.ended call.reply s).1 = .ok ((s.next call).result, (s.next call).ok) ∧
      Polled call.began call.ended call.reply s (s.next call) := by
  have ends := wp_poll call.began call.ended call.reply s
  unfold Polling.next
  unfold wp at ends
  rcases result : poll call.began call.ended call.reply s with ⟨e | value, t⟩
  · rw [result] at ends
    exact ends.elim
  · rw [result] at ends
    exact ⟨congrArg Except.ok ends.1, ends.2⟩

/-- What every poll keeps holds after every run. -/
theorem run_keeps {I : Polling → Prop}
    (step : ∀ (s t : Polling) (call : Call), I s →
      Polled call.began call.ended call.reply s t → I t) {s : Polling} (holds : I s)
    (calls : List Call) : I (run s calls) := by
  induction calls generalizing s with
  | nil => exact holds
  | cons call rest ih => exact ih (step s (s.next call) call holds (polled_next s call).2)

/-- Everything held and everything returned is finite. -/
structure AllFinite (s : Polling) : Prop where
  lastKnown : s.client.lastKnown.Finite
  returned : ∀ result ok, .returned result ok ∈ s.trace → result.Finite

theorem AllFinite.polled {began ended : ℚ} {reply : Reply} {s t : Polling} (finite : AllFinite s)
    (polled : Polled began ended reply s t) : AllFinite t := by
  cases polled with
  | refused closed =>
    refine ⟨finite.lastKnown, fun result ok member => ?_⟩
    rcases List.mem_cons.mp member with same | earlier
    · cases same
      exact finite.lastKnown
    · exact finite.returned result ok earlier
  | answered sent fetched =>
    refine ⟨finite_readFields _ _, fun result ok member => ?_⟩
    simp only [List.mem_cons, reduceCtorEq, false_or] at member
    rcases member with same | earlier
    · cases same
      exact finite_readFields _ _
    · exact finite.returned result ok earlier
  | failed sent fetched =>
    refine ⟨finite.lastKnown, fun result ok member => ?_⟩
    simp only [List.mem_cons, reduceCtorEq, false_or] at member
    rcases member with same | earlier
    · cases same
      exact finite.lastKnown
    · exact finite.returned result ok earlier

/-- `ok` says that this reply brought a finite state of charge. -/
theorem Polled.ok {began ended : ℚ} {reply : Reply} {s t : Polling}
    (polled : Polled began ended reply s t) (live : t.ok = true) :
    ∃ data charge, objectOf reply = some data ∧
      stateFloat ((data.get "soc").getD .none) = some (.finite charge) ∧
      t.result.soc = some (.finite charge) := by
  cases polled with
  | refused closed => cases live
  | @answered data sent fetched =>
    obtain ⟨charge, held⟩ := Option.isSome_iff_exists.mp live
    have finite := isNumber_stateFloat _ charge held
    cases charge with
    | finite value => exact ⟨data, value, fetch_ok_iff.mp fetched, held, held⟩
    | _ => cases finite
  | failed sent fetched => cases live

/-- **Polling is all or nothing, and finite**: every call returns, in every state and with every
reply, and in every run everything held or returned is finite. -/
theorem all_or_nothing (config : HaConfig) (threshold : ℤ) (resetTimeout : ℚ) :
    (∀ (s : Polling) (call : Call),
      (poll call.began call.ended call.reply s).1 = .ok ((s.next call).result, (s.next call).ok) ∧
      AllOrNothing call.began call.ended call.reply s (s.next call) ∧
      ((s.next call).ok = true → ∃ data charge, objectOf call.reply = some data ∧
        stateFloat ((data.get "soc").getD .none) = some (.finite charge) ∧
        (s.next call).result.soc = some (.finite charge))) ∧
    ∀ calls : List Call, AllFinite (run (start config threshold resetTimeout) calls) := by
  refine ⟨fun s call => ?_, fun calls => ?_⟩
  · obtain ⟨returns, polled⟩ := polled_next s call
    exact ⟨returns, polled.allOrNothing, polled.ok⟩
  · refine run_keeps (fun s t call finite polled => finite.polled polled) ?_ calls
    exact ⟨finite_unknown, fun _ _ never => absurd never List.not_mem_nil⟩

end Programs

/-! ### What `HaClient` says of a poll -/

/-- The number a field holds. -/
def numberOf : Option PyFloat → Option ℚ
  | some (.finite value) => some value
  | _ => none

def Known.toFields (known : Known) : HaFields where
  soc := numberOf known.soc
  targetSoc := numberOf known.targetSoc
  vin := known.vin
  batteryCapacity := numberOf known.batteryCapacity
  chargingState := known.chargingState
  odometer := numberOf known.odometer
  rangeToGo := numberOf known.rangeToGo
  latitude := numberOf known.latitude
  longitude := numberOf known.longitude
  atSite := known.atSite
  current := numberOf known.current
  power := numberOf known.power

def Client.toHa (client : Client) : HaClient :=
  ⟨client.config, client.breaker, client.lastKnown.toFields⟩

def Reply.toOutcome : Reply → HaOutcome
  | .timeout => .timeout
  | .requestError => .requestError
  | .response status body => .response status body

section Refinement

variable [PyText]

theorem numberOf_stateFloat (value : PyValue) :
    numberOf (stateFloat value) = DbusEv.stateFloat value := by
  unfold stateFloat DbusEv.stateFloat
  cases stateText value with
  | none => rfl
  | some text =>
    simp only [Option.bind_some]
    cases PyText.float text with
    | none => rfl
    | some number => cases number <;> rfl

/-- A product that is not finite is nothing, whatever was multiplied. -/
theorem numberOf_scale (factor : ℚ) (value : PyFloat) :
    numberOf (ifFinite (scale factor value)) =
      (numberOf (some value)).bind (converted · factor) := by
  cases value with
  | finite value =>
    simp only [scale, numberOf, converted, Option.bind_some]
    cases PyFloat.mul value factor <;> rfl
  | inf negative => rfl
  | nan => rfl

theorem numberOf_normalizeUnit (value : Option PyFloat) (entity : String) (unitMap : Dict ℚ)
    (accepted : List String) (unit : PyValue) :
    numberOf (normalizeUnit value entity unitMap accepted unit) =
      DbusEv.normalizeUnit (numberOf value) entity unitMap accepted unit := by
  unfold normalizeUnit DbusEv.normalizeUnit
  cases value with
  | none => rfl
  | some held =>
    by_cases unset : entity = ""
    · simp only [unset, if_true]
      cases numberOf (some held) <;> rfl
    · simp only [unset, if_false]
      generalize PyText.lower (if unit.truthy then toStr unit else "") = text
      cases unitMap.get text with
      | some factor =>
        simp only [numberOf_scale]
        cases numberOf (some held) <;> rfl
      | none =>
        by_cases unknown : text = "" ∨ text ∉ accepted
        · simp only [unknown, if_true]
          cases unitMap.get "kw" with
          | some factor =>
            simp only [numberOf_scale]
            cases numberOf (some held) <;> rfl
          | none => cases numberOf (some held) <;> rfl
        · simp only [unknown, if_false]
          cases numberOf (some held) <;> rfl

theorem toFields_readFields (config : HaConfig) (data : Dict PyValue) :
    (readFields config data).toFields = DbusEv.readFields config data := by
  unfold readFields Known.toFields DbusEv.readFields
  simp only [numberOf_stateFloat, numberOf_normalizeUnit]

/-- A state of charge that was read is a number. -/
theorem soc_isSome (config : HaConfig) (data : Dict PyValue) :
    (readFields config data).soc.isSome = (DbusEv.readFields config data).soc.isSome := by
  have finite := isNumber_stateFloat ((data.get "soc").getD .none)
  rw [← toFields_readFields]
  show (stateFloat _).isSome = (numberOf (stateFloat _)).isSome
  cases held : stateFloat ((data.get "soc").getD .none) with
  | none => rfl
  | some value =>
    have number := finite value held
    cases value with
    | finite => rfl
    | inf negative => cases number
    | nan => cases number

theorem received_toOutcome (client : HaClient) (reply : Reply) :
    client.received reply.toOutcome =
      (objectOf reply).map (DbusEv.readFields client.config) := by
  cases reply with
  | timeout => rfl
  | requestError => rfl
  | response status body =>
    cases body with
    | none => rfl
    | some value =>
      cases value with
      | dict data =>
        unfold objectOf
        by_cases good : status = 200
        · simp only [HaClient.received, Reply.toOutcome, good, if_true]
          rfl
        · simp only [HaClient.received, Reply.toOutcome, good, if_false]
          rfl
      | _ => rfl

theorem finish_some {client : HaClient} {reply : Reply} {data : Dict PyValue}
    (object : objectOf reply = some data) (mono : ℚ) :
    client.finish mono reply.toOutcome =
      (.ok ⟨DbusEv.readFields client.config data,
          (DbusEv.readFields client.config data).soc.isSome⟩,
        { client with
          lastKnown := DbusEv.readFields client.config data
          breaker := client.breaker.recordSuccess }) := by
  have received := received_toOutcome client reply
  rw [object] at received
  cases reply with
  | timeout => cases object
  | requestError => cases object
  | response status body =>
    simp only [Reply.toOutcome, Option.map_some] at received ⊢
    simp only [HaClient.finish, received]

theorem finish_none {client : HaClient} {reply : Reply} (object : objectOf reply = none)
    (mono : ℚ) :
    client.finish mono reply.toOutcome =
      (.ok client.refused, { client with breaker := client.breaker.recordFailure mono }) := by
  have received := received_toOutcome client reply
  rw [object] at received
  cases reply with
  | timeout => rfl
  | requestError => rfl
  | response status body =>
    simp only [Reply.toOutcome, Option.map_none] at received ⊢
    simp only [HaClient.finish, received]

/-- A request is sent. -/
theorem begin_sent {client : Client} {mono : ℚ} (sent : client.config.configured = true ∧
    (client.breaker.isOpen mono).1 = false) :
    client.toHa.begin mono =
      (true, { client.toHa with breaker := (client.breaker.isOpen mono).2 }) := by
  unfold HaClient.begin Client.toHa
  simp only [sent.1, sent.2, Bool.not_true, Bool.not_false, Bool.false_eq_true, if_false]

/-- No request is sent, and nothing changes. -/
theorem begin_refused {client : Client} {mono : ℚ} (closed : client.config.configured = false ∨
    (client.breaker.isOpen mono).1 = true) :
    client.toHa.begin mono = (false, client.toHa) := by
  unfold HaClient.begin Client.toHa
  by_cases configured : client.config.configured = true
  · have opened := closed.resolve_left (by simp [configured])
    simp only [configured, opened, isOpen_true opened, Bool.not_true, Bool.false_eq_true, if_false]
  · simp only [configured, Bool.not_false, if_true]

/-- What `HaClient.begin` and `HaClient.finish` say of a call that ends in `t`. -/
def SaidOf (call : Call) (s t : Polling) : Prop :=
  let started := s.client.toHa.begin call.began
  if started.1 = true then
    started.2.finish call.ended call.reply.toOutcome =
      (.ok ⟨t.result.toFields, t.ok⟩, t.client.toHa)
  else t.client.toHa = started.2 ∧ (⟨t.result.toFields, t.ok⟩ : HaPolled) = started.2.refused

theorem Polled.saidOf {call : Call} {s t : Polling}
    (polled : Polled call.began call.ended call.reply s t) : SaidOf call s t := by
  unfold SaidOf
  cases polled with
  | refused closed =>
    rw [begin_refused closed]
    exact ⟨rfl, rfl⟩
  | @answered data sent fetched =>
    rw [begin_sent sent]
    apply (finish_some (fetch_ok_iff.mp fetched) _).trans
    simp only [soc_isSome, Client.toHa, toFields_readFields]
  | @failed e sent fetched =>
    have nothing : objectOf call.reply = none := by
      cases held : objectOf call.reply with
      | none => rfl
      | some data =>
        rw [fetch_ok_iff.mpr held] at fetched
        cases fetched
    rw [begin_sent sent]
    exact finish_none nothing _

/-- **A poll is what `HaClient` says**: `begin`, and `finish` if the request leaves. -/
theorem poll_refines (s : Polling) (call : Call) : SaidOf call s (s.next call) :=
  (polled_next s call).2.saidOf

end Refinement

/-! ### The circuit breaker in every run -/

/-- How many requests failed since the last success. -/
def streak : List Event → ℤ
  | [] => 0
  | .failed _ :: earlier => streak earlier + 1
  | .succeeded :: _ => 0
  | _ :: earlier => streak earlier

/-- When the last of them failed. -/
def lastFailure : List Event → Option ℚ
  | [] => none
  | .failed mono :: _ => some mono
  | .succeeded :: _ => none
  | _ :: earlier => lastFailure earlier

/-- After `threshold` failed requests in a row, a request leaves only when the reset timeout has
passed since the last of them. -/
def Waits (threshold : ℤ) (resetTimeout : ℚ) (event : Event) (earlier : List Event) : Prop :=
  ∀ mono, event = .sent mono → threshold ≤ streak earlier →
    ∀ last ∈ lastFailure earlier, resetTimeout ≤ mono - last

/-- What a breaker holds after a history of requests. -/
structure Sound (threshold : ℤ) (resetTimeout : ℚ) (breaker : CircuitBreaker)
    (trace : List Event) : Prop where
  limit : breaker.threshold = threshold
  timeout : breaker.resetTimeout = resetTimeout
  failures : breaker.failures = min (streak trace) threshold
  openedAt : breaker.openedAt = if threshold ≤ streak trace then lastFailure trace else none
  waits : Throughout (Waits threshold resetTimeout) trace

/-- A streak has a last failure. -/
theorem lastFailure_isSome {trace : List Event} (failed : 0 < streak trace) :
    (lastFailure trace).isSome = true := by
  induction trace with
  | nil => exact absurd failed (lt_irrefl _)
  | cons event earlier ih =>
    cases event with
    | failed => rfl
    | succeeded => exact absurd failed (lt_irrefl _)
    | sent => exact ih failed
    | returned => exact ih failed

section Breaker

variable {threshold : ℤ} {resetTimeout : ℚ} {breaker : CircuitBreaker} {trace : List Event}

/-- **An opening time stands for a failure count at the threshold**, and for nothing else. -/
theorem Sound.openedAt_isSome (sound : Sound threshold resetTimeout breaker trace)
    (positive : 1 ≤ threshold) :
    breaker.openedAt.isSome = true ↔ threshold ≤ breaker.failures := by
  rw [sound.openedAt, sound.failures]
  by_cases reached : threshold ≤ streak trace
  · rw [if_pos reached, min_eq_right reached]
    exact iff_of_true (lastFailure_isSome (by omega)) le_rfl
  · rw [if_neg reached, min_eq_left (le_of_not_ge reached)]
    exact iff_of_false Bool.false_ne_true reached

/-- Below the threshold the breaker counts the streak, and is not open. -/
theorem Sound.below (sound : Sound threshold resetTimeout breaker trace)
    (below : streak trace < threshold) :
    breaker.openedAt = none ∧ breaker.failures = streak trace := by
  rw [sound.openedAt, sound.failures, if_neg (not_le.mpr below), min_eq_left below.le]
  exact ⟨rfl, rfl⟩

/-- From the threshold on it is open since the last failure. -/
theorem Sound.reached (sound : Sound threshold resetTimeout breaker trace)
    (reached : threshold ≤ streak trace) : breaker.openedAt = lastFailure trace := by
  rw [sound.openedAt, if_pos reached]

/-- A refusal is for a timeout that has not passed. -/
theorem Sound.refuses (sound : Sound threshold resetTimeout breaker trace) {mono : ℚ}
    (opened : (breaker.isOpen mono).1 = true) :
    threshold ≤ streak trace ∧ ∃ last ∈ lastFailure trace, mono - last < resetTimeout := by
  obtain ⟨last, held, early⟩ := openedAt_of_isOpen opened
  by_cases reached : threshold ≤ streak trace
  · rw [sound.reached reached] at held
    exact ⟨reached, last, held, sound.timeout ▸ early⟩
  · rw [(sound.below (not_le.mp reached)).1] at held
    cases held

/-- A request leaves when the timeout has passed. -/
theorem Sound.sends (sound : Sound threshold resetTimeout breaker trace) {mono : ℚ}
    (closed : (breaker.isOpen mono).1 = false) :
    Waits threshold resetTimeout (.sent mono) trace := by
  rintro _ ⟨rfl⟩ reached last failed
  have opened := sound.reached reached
  rw [failed] at opened
  rcases isOpen_false closed with ⟨never, -⟩ | ⟨last', held, passed, -⟩
  · rw [opened] at never
    cases never
  · rw [opened] at held
    cases held
    exact sound.timeout ▸ passed

/-- The breaker of a request that was let through is not open, and the next failure counts as the
streak does. -/
theorem Sound.letThrough (sound : Sound threshold resetTimeout breaker trace)
    (positive : 1 ≤ threshold) {mono : ℚ} (closed : (breaker.isOpen mono).1 = false) :
    (breaker.isOpen mono).2.threshold = threshold ∧
      (breaker.isOpen mono).2.resetTimeout = resetTimeout ∧
      (breaker.isOpen mono).2.openedAt = none ∧
      (breaker.isOpen mono).2.failures + 1 = min (streak trace + 1) threshold := by
  rcases isOpen_false closed with ⟨never, same⟩ | ⟨last, held, -, half⟩
  · rw [same]
    refine ⟨sound.limit, sound.timeout, never, ?_⟩
    by_cases reached : threshold ≤ streak trace
    · have failed : (lastFailure trace).isSome = true := lastFailure_isSome (by omega)
      rw [← sound.reached reached, never] at failed
      cases failed
    · rw [(sound.below (not_le.mp reached)).2]
      omega
  · rw [half]
    refine ⟨sound.limit, sound.timeout, rfl, ?_⟩
    by_cases reached : threshold ≤ streak trace
    · have limit := sound.limit
      simp only [limit]
      omega
    · rw [(sound.below (not_le.mp reached)).1] at held
      cases held

/-- What a poll returns is nothing to the breaker. -/
theorem Sound.returned (sound : Sound threshold resetTimeout breaker trace) (result : Known)
    (ok : Bool) : Sound threshold resetTimeout breaker (.returned result ok :: trace) where
  limit := sound.limit
  timeout := sound.timeout
  failures := sound.failures
  openedAt := sound.openedAt
  waits := ⟨fun mono never => (by cases never), sound.waits⟩

/-- A request that succeeds clears the count. -/
theorem Sound.succeeded (sound : Sound threshold resetTimeout breaker trace)
    (positive : 1 ≤ threshold) {mono : ℚ} (closed : (breaker.isOpen mono).1 = false) :
    Sound threshold resetTimeout (breaker.isOpen mono).2.recordSuccess
      (.succeeded :: .sent mono :: trace) := by
  obtain ⟨limit, timeout, -, -⟩ := sound.letThrough positive closed
  refine ⟨limit, timeout, ?_, ?_, ?_⟩
  · exact (min_eq_left (Int.le_of_lt positive)).symm
  · exact (if_neg (not_le.mpr positive)).symm
  · exact ⟨fun mono never => (by cases never), sound.sends closed, sound.waits⟩

/-- A request that fails counts, and opens the breaker at the threshold; a probe opens it again. -/
theorem Sound.failed (sound : Sound threshold resetTimeout breaker trace)
    (positive : 1 ≤ threshold) {began : ℚ} (closed : (breaker.isOpen began).1 = false)
    (ended : ℚ) :
    Sound threshold resetTimeout ((breaker.isOpen began).2.recordFailure ended)
      (.failed ended :: .sent began :: trace) := by
  obtain ⟨limit, timeout, shut, counted⟩ := sound.letThrough positive closed
  refine ⟨limit, timeout, counted, ?_, ?_⟩
  · have opens : threshold ≤ (breaker.isOpen began).2.failures + 1 ↔
        threshold ≤ streak trace + 1 := by
      rw [counted, le_min_iff]
      exact and_iff_left le_rfl
    unfold CircuitBreaker.recordFailure
    simp only [limit, shut, opens, true_and]
    rfl
  · exact ⟨fun mono never => (by cases never), sound.sends closed, sound.waits⟩

/-- A breaker read again and again stays as sound: its half-open count is below the threshold. -/
theorem Sound.isOpen_openedAt (sound : Sound threshold resetTimeout breaker trace)
    (positive : 1 ≤ threshold) (mono : ℚ) :
    (breaker.isOpen mono).2.openedAt.isSome = true ↔
      threshold ≤ (breaker.isOpen mono).2.failures := by
  cases outcome : (breaker.isOpen mono).1 with
  | true =>
    rw [isOpen_true outcome]
    exact sound.openedAt_isSome positive
  | false =>
    obtain ⟨-, -, shut, counted⟩ := sound.letThrough positive outcome
    rw [shut]
    refine iff_of_false Bool.false_ne_true ?_
    omega

end Breaker

/-! ### The law of the breaker -/

/-- What one call does to the breaker: nothing without a request, which only an open breaker
refuses; or one success, which clears it; or one failure, which opens it at the threshold. -/
def Told (threshold : ℤ) (resetTimeout : ℚ) (call : Call) (s t : Polling) : Prop :=
  (t.trace = .returned t.result t.ok :: s.trace ∧ t.client.breaker = s.client.breaker ∧
    (s.client.config.configured = true → threshold ≤ streak s.trace ∧
      ∃ last ∈ lastFailure s.trace, call.began - last < resetTimeout)) ∨
  (t.trace = .returned t.result t.ok :: .succeeded :: .sent call.began :: s.trace ∧
    t.client.breaker = (s.client.breaker.isOpen call.began).2.recordSuccess ∧
    t.client.breaker.failures = 0 ∧ t.client.breaker.openedAt = none) ∨
  (t.trace = .returned t.result t.ok :: .failed call.ended :: .sent call.began :: s.trace ∧
    t.client.breaker = (s.client.breaker.isOpen call.began).2.recordFailure call.ended ∧
    t.client.breaker.failures = min (streak s.trace + 1) threshold ∧
    (threshold ≤ streak s.trace + 1 → t.client.breaker.openedAt = some call.ended))

section Law

variable [PyText] {threshold : ℤ} {resetTimeout : ℚ}

/-- **The circuit breaker after a history of polls.** -/
structure BreakerLaw (threshold : ℤ) (resetTimeout : ℚ) (s : Polling) : Prop where
  /-- It has an opening time exactly when its count has reached the threshold; -/
  openedAt : s.client.breaker.openedAt.isSome = true ↔ threshold ≤ s.client.breaker.failures
  /-- also while a poll sends its request; -/
  halfOpen : ∀ mono, (s.client.breaker.isOpen mono).2.openedAt.isSome = true ↔
    threshold ≤ (s.client.breaker.isOpen mono).2.failures
  /-- after `threshold` failures in a row a request waits for the timeout; -/
  waits : Throughout (Waits threshold resetTimeout) s.trace
  /-- and every poll tells it once. -/
  told : ∀ call, Told threshold resetTimeout call s (s.next call)

/-- A poll keeps the breaker sound. -/
theorem Sound.polled {s t : Polling} {began ended : ℚ} {reply : Reply} (positive : 1 ≤ threshold)
    (sound : Sound threshold resetTimeout s.client.breaker s.trace)
    (polled : Polled began ended reply s t) :
    Sound threshold resetTimeout t.client.breaker t.trace := by
  cases polled with
  | refused closed => exact sound.returned _ _
  | answered sent fetched => exact (sound.succeeded positive sent.2).returned _ _
  | failed sent fetched => exact (sound.failed positive sent.2 ended).returned _ _

theorem Sound.told {s t : Polling} {call : Call} (positive : 1 ≤ threshold)
    (sound : Sound threshold resetTimeout s.client.breaker s.trace)
    (polled : Polled call.began call.ended call.reply s t) :
    Told threshold resetTimeout call s t := by
  cases polled with
  | refused closed =>
    refine .inl ⟨rfl, rfl, fun configured => ?_⟩
    rcases closed with unset | opened
    · rw [configured] at unset
      cases unset
    · exact sound.refuses opened
  | answered sent fetched => exact .inr (.inl ⟨rfl, rfl, rfl, rfl⟩)
  | failed sent fetched =>
    have failed := sound.failed positive sent.2 call.ended
    refine .inr (.inr ⟨rfl, rfl, failed.failures, fun reached => ?_⟩)
    exact failed.reached reached

/-- **The circuit breaker in every run of polls**, at any times and with any replies. -/
theorem breaker_law (config : HaConfig) (threshold : ℤ) (positive : 1 ≤ threshold)
    (resetTimeout : ℚ) (calls : List Call) :
    BreakerLaw threshold resetTimeout (run (start config threshold resetTimeout) calls) := by
  have sound : Sound threshold resetTimeout
      (run (start config threshold resetTimeout) calls).client.breaker
      (run (start config threshold resetTimeout) calls).trace := by
    refine run_keeps (I := fun s => Sound threshold resetTimeout s.client.breaker s.trace)
      (fun s t call sound polled => sound.polled positive polled) ?_ calls
    refine ⟨rfl, rfl, ?_, ?_, trivial⟩
    · exact (min_eq_left (Int.le_of_lt positive)).symm
    · exact (if_neg (not_le.mpr positive)).symm
  exact ⟨sound.openedAt_isSome positive, sound.isOpen_openedAt positive, sound.waits,
    fun call => sound.told positive (polled_next _ call).2⟩

end Law

/-- The law on a run: two timeouts open the breaker, the third call is refused, and the fourth is
the probe, whose failure opens it again. -/
theorem breaker_law_reopened : letI := plainText
    BreakerLaw 2 60 (run (start ⟨true, "", "", ""⟩ 2 60)
      [⟨0, 5, .timeout⟩, ⟨10, 15, .requestError⟩, ⟨40, 40, .timeout⟩, ⟨75, 80, .timeout⟩]) ∧
    (run (start ⟨true, "", "", ""⟩ 2 60)
      [⟨0, 5, .timeout⟩, ⟨10, 15, .requestError⟩, ⟨40, 40, .timeout⟩,
        ⟨75, 80, .timeout⟩]).client.breaker.openedAt = some 80 :=
  ⟨@breaker_law plainText _ 2 (by decide) 60 _, by decide +kernel⟩

end DbusEv.HaPoll
