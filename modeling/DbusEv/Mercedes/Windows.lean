/-
**The overall window state of a pulled message**, which the decoder adds to the message itself
(`dbus_ev/mercedes/vendor/decoder.py`; the integration's own decoder has the same step).

* `windowStatusOverall` — the attribute, from the states of the four windows; a state that no
  conversion accepts may raise.
* `completed` — the attributes that are decoded, stored and sent: those of a pulled message that
  has none get it. A message that is completed stays as it is (`completed_completed`), and so does
  one that was pushed.
-/

import DbusEv.Mercedes.Error

set_option autoImplicit false

namespace DbusEv.Decoder

/-- The exceptions of the decoder: `KeyError`, `AttributeError`, and those of a conversion. -/
inductive Raised
  | key
  | noAttribute
  | other (e : PyError)
  deriving DecidableEq

/-- The exceptions of the decoder, as the client sees them. -/
def Raised.exn : Raised → Mercedes.Exn
  | .key => .other .key
  | .noAttribute => .other .any
  | .other .os => .other .os
  | .other .value => .other .value
  | .other .type => .other .type
  | .other _ => .other .any

/-- The attributes of a message that passed the checks: every one is an object. -/
abbrev Attributes := Dict (Dict PyValue)

def stampOf (curr : Dict PyValue) : PyValue := (curr.get "timestamp").getD (.int 0)

section Windows

variable [PyText]

/-- The rounds of `_window_observations`. -/
def windowObservations (attributes : Attributes) :
    List String → List PyValue × ℤ → Except Raised (List PyValue × ℤ)
  | [], found => .ok found
  | name :: rest, (statuses, latest) =>
    match attributes.get name with
    | none => windowObservations attributes rest (statuses, latest)
    | some data => do
      let stamp := stampOf data
      let latest ←
        match if stamp.truthy then toInt stamp else .ok 0 with
        | .ok stamp => .ok (max latest stamp)
        | .error e => if e = .value ∨ e = .type then .ok latest else .error (.other e)
      match (data.get "int_value").getD (.int 0) with
      | .none => windowObservations attributes rest (statuses, latest)
      | value => windowObservations attributes rest (statuses ++ [value], latest)

/-- `_overall_window_status(window_statuses) == "CLOSED"`. -/
def isClosed (statuses : List PyValue) : Except Raised Bool :=
  if statuses.isEmpty then .ok true
  else
    match statuses.mapM toInt with
    | .ok numbers => .ok !(numbers.any fun status => decide (status ≠ 2))
    | .error e => if e = .value ∨ e = .type then .ok true else .error (.other e)

/-- `_create_synthetic_window_status_overall`: the attribute it adds to the message. -/
def windowStatusOverall (attributes : Attributes) : Except Raised (Dict PyValue) := do
  let (statuses, latest) ← windowObservations attributes
    ["windowstatusfrontleft", "windowstatusfrontright", "windowstatusrearleft",
      "windowstatusrearright"] ([], 0)
  let closed ← isClosed statuses
  pure
    [("timestamp", .str (if 0 < latest then toString latest else "0")),
      ("bool_value", .bool closed),
      ("status", .str "VALID"),
      ("timestamp_in_ms", .str (toString (latest * 1000 + 223)))]

/-- The attributes that are decoded: a pulled message may get its overall window state. -/
def completed (isRestData : Bool) (attributes : Attributes) : Except Raised Attributes :=
  if isRestData && !attributes.isEmpty && (attributes.get "windowStatusOverall").isNone then do
    let overall ← windowStatusOverall attributes
    pure (attributes.set "windowStatusOverall" overall)
  else .ok attributes

/-! ### A message that is complete -/

variable {isRestData : Bool} {attributes complete : Attributes}

theorem completed_pushed (attributes : Attributes) :
    completed false attributes = .ok attributes := by
  unfold completed
  rw [if_neg]
  rintro ⟨⟩

theorem completed_of_overall {overall : Dict PyValue}
    (held : attributes.get "windowStatusOverall" = some overall) :
    completed isRestData attributes = .ok attributes := by
  unfold completed
  rw [held, if_neg]
  rw [Option.isNone_some, Bool.and_false]
  rintro ⟨⟩

/-- What completes a message: nothing, or its overall window state. -/
theorem completed_cases (made : completed isRestData attributes = .ok complete) :
    complete = attributes ∨
      ∃ overall, complete = attributes.set "windowStatusOverall" overall := by
  unfold completed at made
  split at made
  · rcases found : windowStatusOverall attributes with e | overall
    · rw [found] at made
      cases made
    · rw [found] at made
      cases made
      exact .inr ⟨overall, rfl⟩
  · cases made
    exact .inl rfl

/-- **A message is completed once.** -/
theorem completed_completed (made : completed isRestData attributes = .ok complete) :
    completed isRestData complete = .ok complete := by
  rcases completed_cases made with rfl | ⟨overall, rfl⟩
  · exact made
  · exact completed_of_overall (Dict.get_set_self ..)

/-- What is kept of a key does not depend on the overall window state. -/
theorem completed_get (made : completed isRestData attributes = .ok complete) {key : String}
    (other : key ≠ "windowStatusOverall") : complete.get key = attributes.get key := by
  rcases completed_cases made with rfl | ⟨overall, rfl⟩
  · rfl
  · exact Dict.get_set_ne _ _ other

end Windows

end DbusEv.Decoder
