/-
**JSON text.**

* `strict` — the values `json.dumps(value, allow_nan=False)` accepts: no `NaN`, no infinity.
* `dumps` — the value whose text is written, or the `ValueError`. The text itself is the library's
  own: whoever parses it gets the value back.
-/

import DbusEv.Python.Value

set_option autoImplicit false

namespace DbusEv

mutual

/-- No number in the value is `NaN` or an infinity. -/
def PyValue.strict : PyValue → Bool
  | .float (.finite _) => true
  | .float _ => false
  | .list items => strictItems items
  | .dict items => strictEntries items
  | _ => true

def strictItems : List PyValue → Bool
  | [] => true
  | item :: rest => item.strict && strictItems rest

def strictEntries : List (String × PyValue) → Bool
  | [] => true
  | (_, value) :: rest => value.strict && strictEntries rest

end

/-- `json.dumps(value, allow_nan=False)`. -/
def dumps (value : PyValue) : Except PyError PyValue :=
  if value.strict then .ok value else .error .value

theorem dumps_of_strict {value : PyValue} (strict : value.strict = true) :
    dumps value = .ok value := by
  unfold dumps
  rw [if_pos strict]

end DbusEv
