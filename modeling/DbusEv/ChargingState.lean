/-
**Charging states** (`dbus_ev/ha_client.py`, `map_charging_state`): the provider's words and enum
numbers to the Venus `/ChargingState` enum.
-/

import DbusEv.Python.Value

set_option autoImplicit false

namespace DbusEv

/-- `_CHARGING_STATE_MAP`. -/
def chargingStateMap : Dict ℕ :=
  [("0", 3), ("1", 244), ("2", 250), ("3", 0), ("4", 255), ("5", 3), ("6", 3), ("7", 256), ("8", 0),
    ("9", 3), ("10", 3), ("11", 3), ("12", 244), ("13", 3), ("14", 3), ("15", 244), ("16", 255),
    ("charging", 3), ("not charging", 0), ("discharging", 256), ("sustain", 244), ("blocked", 250)]

variable [PyText]

/-- `map_charging_state` of a state that is not `None`. -/
def mapChargingState (state : String) : ℕ :=
  let key := PyText.lower (PyText.strip state)
  if key = "unavailable" ∨ key = "unknown" then 255 else (chargingStateMap.get key).getD 255

end DbusEv
