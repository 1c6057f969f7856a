/-
**The push merge buffer** (`dbus_ev/mercedes/protocol.py`).

* `Protocol.merge` — merge one vehicle update into the session's buffer and take its snapshot.
* `decodeRest` — the snapshot of one REST reply, merged in a buffer of its own.
* `mergeItem_mono` — within one buffer an attribute is never replaced by an older one; `merge_some`
  says what a merge does, `merge_none` that an update it ignores changes nothing.

The two protobuf parsers and `MessageToDict` are the libraries' own: an update is the dictionary
they return.
-/

import DbusEv.Mercedes.Error

set_option autoImplicit false
set_option linter.unusedSectionVars false

namespace DbusEv.Mercedes

/-- One vehicle attribute: an object of the update. -/
abbrev Attribute := Dict PyValue

/-- How a payload was acquired: `data_mode`. -/
inductive Source
  | push
  | pull
  deriving DecidableEq, Repr

/-- A vehicle snapshot. `_accept` adds `vehicle` and `data_mode`. -/
structure Payload where
  schema : ℕ
  vin : String
  revision : ℕ
  receivedAt : ℚ
  fullUpdate : Bool
  attributes : Dict Attribute
  vehicle : Option (Dict PyValue)
  dataMode : Option Source

/-- The state of one application session's `Protocol`. -/
structure Protocol where
  vin : String
  attributes : Dict Attribute
  fullReceived : Bool
  revision : ℕ

namespace Protocol

/-- `Protocol(vin)`. -/
def new (vin : String) : Protocol := ⟨vin, [], false, 0⟩

end Protocol

variable [PyText]

/-- `finite(reading.get("timestamp_in_ms", 0)) or 0`. -/
def timestamp (reading : Attribute) : ℚ :=
  (finite ((reading.get "timestamp_in_ms").getD (.int 0))).getD 0

/-- One round of the loop in `merge`: an object replaces the buffered attribute unless it is older;
a value that is not an object is skipped. -/
def mergeItem (attributes : Dict Attribute) (item : String × PyValue) : Dict Attribute :=
  match item.2 with
  | .dict value =>
    let old := (attributes.get item.1).getD []
    if timestamp old ≤ timestamp value then attributes.set item.1 value else attributes
  | _ => attributes

/-- The loop in `merge`. -/
def mergeItems (attributes : Dict Attribute) (incoming : Dict PyValue) : Dict Attribute :=
  incoming.foldl mergeItem attributes

/-- The attributes `merge` looks at: `update["attributes"]` when it is a non-empty object. -/
def incomingOf (update : Dict PyValue) : Option (Dict PyValue) :=
  match update.get "attributes" with
  | some (.dict incoming) => if incoming.isEmpty then none else some incoming
  | _ => none

/-- `update.get("full_update")` is true. -/
def isFullUpdate (update : Dict PyValue) : Bool := ((update.get "full_update").getD .none).truthy

namespace Protocol

/-- A full update replaces the buffer. -/
def resetBy (protocol : Protocol) (update : Dict PyValue) : Protocol :=
  if isFullUpdate update then { protocol with attributes := [], fullReceived := true } else protocol

/-- The buffer after a merge of `incoming`. -/
def mergedWith (protocol : Protocol) (update incoming : Dict PyValue) : Protocol :=
  let reset := protocol.resetBy update
  { reset with
    attributes := mergeItems reset.attributes incoming
    revision := reset.revision + 1 }

/-- The payload of the buffer at wall time `wall`. -/
def payloadAt (protocol : Protocol) (wall : ℚ) : Payload where
  schema := 1
  vin := protocol.vin
  revision := protocol.revision
  receivedAt := wall
  fullUpdate := protocol.fullReceived
  attributes := protocol.attributes
  vehicle := none
  dataMode := none

/-- `Protocol.merge(update)` at wall time `wall`. -/
def merge (protocol : Protocol) (wall : ℚ) (update : Dict PyValue) : Protocol × Option Payload :=
  match incomingOf update with
  | none => (protocol, none)
  | some incoming =>
    let merged := protocol.mergedWith update incoming
    (merged, some (merged.payloadAt wall))

end Protocol

/-- A REST reply as the two parsers read it: the legacy VEP update (empty on a `DecodeError`), and
the VSU update or what its parser raises. -/
structure Reply where
  legacy : Dict PyValue
  vsu : Except Exn (Dict PyValue)

/-- The update of a reply: the legacy one when it names a vehicle, else the VSU one. -/
def Reply.update (reply : Reply) : Except Exn (Dict PyValue) :=
  if ((reply.legacy.get "vin").getD .none).truthy then .ok reply.legacy else reply.vsu

/-- The snapshot of a REST update: another vehicle's is ignored, and it is merged as a full update
in a buffer of its own. -/
def restSnapshot (vin : String) (wall : ℚ) (update : Dict PyValue) : Option Payload :=
  match update.get "vin" with
  | some (.str found) =>
    if found = vin then
      ((Protocol.new vin).merge wall (Dict.set update "full_update" (.bool true))).2
    else none
  | _ => none

/-- `Protocol.decode_rest(raw)`. -/
def decodeRest (vin : String) (wall : ℚ) (reply : Reply) : Except Exn (Option Payload) :=
  match reply.update with
  | .ok update => .ok (restSnapshot vin wall update)
  | .error e => .error e

/-! ### One merge -/

/-- One round of the loop keeps every buffered attribute, or replaces it by one that is no older. -/
theorem mergeItem_mono {attributes : Dict Attribute} {key : String} {old : Attribute}
    (item : String × PyValue) (buffered : attributes.get key = some old) :
    ∃ kept, (mergeItem attributes item).get key = some kept ∧ timestamp old ≤ timestamp kept := by
  obtain ⟨changed, value⟩ := item
  unfold mergeItem
  split
  · rename_i object _
    by_cases newer : timestamp ((attributes.get changed).getD []) ≤ timestamp object
    · rw [if_pos newer]
      by_cases same : key = changed
      · subst same
        rw [buffered] at newer
        exact ⟨object, Dict.get_set_self .., newer⟩
      · exact ⟨old, by rw [Dict.get_set_ne _ _ same, buffered], le_rfl⟩
    · rw [if_neg newer]
      exact ⟨old, buffered, le_rfl⟩
  · exact ⟨old, buffered, le_rfl⟩

/-- **Within one buffer attributes only grow newer**: the whole loop, by induction on the update. -/
theorem mergeItems_mono {attributes : Dict Attribute} {key : String} {old : Attribute}
    (incoming : Dict PyValue) (buffered : attributes.get key = some old) :
    ∃ kept, (mergeItems attributes incoming).get key = some kept ∧
      timestamp old ≤ timestamp kept := by
  induction incoming generalizing attributes old with
  | nil => exact ⟨old, buffered, le_rfl⟩
  | cons item rest ih =>
    obtain ⟨middle, found, first⟩ := mergeItem_mono item buffered
    obtain ⟨kept, last, second⟩ := ih found
    exact ⟨kept, last, first.trans second⟩

namespace Protocol

theorem merge_none {protocol : Protocol} {wall : ℚ} {update : Dict PyValue}
    (ignored : incomingOf update = none) : protocol.merge wall update = (protocol, none) := by
  unfold merge
  rw [ignored]

theorem merge_some {protocol : Protocol} {wall : ℚ} {update incoming : Dict PyValue}
    (taken : incomingOf update = some incoming) :
    protocol.merge wall update = (protocol.mergedWith update incoming,
      some ((protocol.mergedWith update incoming).payloadAt wall)) := by
  unfold merge
  rw [taken]

@[simp] theorem mergedWith_revision (protocol : Protocol) (update incoming : Dict PyValue) :
    (protocol.mergedWith update incoming).revision = protocol.revision + 1 := by
  unfold mergedWith resetBy
  split <;> rfl

/-- A delta starts from the attributes the buffer holds. -/
theorem resetBy_delta {protocol : Protocol} {update : Dict PyValue}
    (delta : isFullUpdate update = false) : protocol.resetBy update = protocol := by
  unfold resetBy
  rw [delta]
  rfl

end Protocol

end DbusEv.Mercedes
