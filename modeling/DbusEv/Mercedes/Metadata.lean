/-
**The display metadata of the vehicle** (`dbus_ev/mercedes/client.py`, `_metadata`).

Two responses are read: the vehicles of the account and the capabilities of the vehicle. A response
is JSON of any shape, so every step of the reading may raise; what was read before an exception
that is only logged stays.

* `metadata` — the dictionary `_metadata` builds up, and what it returns.
* `metadata_informed` — whatever the responses, its `information` is an object where it is there.
-/

import DbusEv.Lib.Exec
import DbusEv.Mercedes.Error
import Mathlib.Data.List.Infix

set_option autoImplicit false

namespace DbusEv.Mercedes

/-! ### JSON of any shape -/

/-- `value.get(key, default)`; only an object has `get`. -/
def getItem (value : PyValue) (key : String) (default : PyValue) : Except Exn PyValue :=
  match value with
  | .dict items => .ok ((Dict.get items key).getD default)
  | _ => .error (.other .any)

/-- `for item in value`: an object yields its keys, a text its characters. -/
def iterate : PyValue → Except Exn (List PyValue)
  | .list items => .ok items
  | .dict items => .ok (items.map fun item => .str item.1)
  | .str text => .ok (text.toList.map fun letter => .str (String.ofList [letter]))
  | _ => .error (.other .type)

/-- `value == text`. -/
def isText (value : PyValue) (text : String) : Bool :=
  match value with
  | .str found => found = text
  | _ => false

/-- `value[key] if key in value`: a list or a text that contains the key cannot be read by it. -/
def itemIn (value : PyValue) (key : String) : Except Exn (Option PyValue) :=
  match value with
  | .dict items => .ok (Dict.get items key)
  | .list items => if items.any (isText · key) then .error (.other .type) else .ok none
  | .str text => if key.toList <:+: text.toList then .error (.other .type) else .ok none
  | _ => .error (.other .type)

/-- `value or other`. -/
def orElse (value other : PyValue) : PyValue := if value.truthy then value else other

/-! ### The metadata -/

/-- The keys `_metadata` copies from the capabilities. -/
def informationKeys : List String :=
  ["headUnitSoftwareVersion", "headUnitType", "starArchitecture", "tcuType"]

/-- The dictionary comprehension of `metadata["information"]`. -/
def informationOf (info : PyValue) : List String → Except Exn (Dict PyValue)
  | [] => .ok []
  | key :: rest => do
    let found ← itemIn info key
    let others ← informationOf info rest
    pure (found.toList.map (fun value => (key, value)) ++ others)

/-- A program over the dictionary `metadata`. -/
abbrev Building := Exec (Dict PyValue) Exn

/-- `metadata[key] = value`. -/
def assign (key : String) (value : PyValue) : Building Unit :=
  Exec.change fun metadata => metadata.set key value

/-- The entries of the vehicle of this VIN. -/
def describe (vin : String) (vehicle : PyValue) : Building Unit := do
  let plate ← Exec.ofExcept (getItem vehicle "licensePlate" .none)
  assign "name" (orElse plate (.str vin))
  let sales ← Exec.ofExcept (getItem vehicle "salesRelatedInformation" (.dict []))
  let baumuster ← Exec.ofExcept (getItem sales "baumuster" (.dict []))
  let model ← Exec.ofExcept (getItem baumuster "baumusterDescription" (.str "Mercedes-Benz"))
  assign "model" model
  let owner ← Exec.ofExcept (getItem vehicle "isOwner" .none)
  assign "is_owner" (.bool owner.truthy)

/-- `vehicle.get("vin") or vehicle.get("fin")`. -/
def vinOf (vehicle : PyValue) : Except Exn PyValue := do
  let vin ← getItem vehicle "vin" .none
  if vin.truthy then pure vin else getItem vehicle "fin" .none

/-- One round of the loop over the vehicles. -/
def readVehicle (vin : String) (vehicle : PyValue) : Building Unit := do
  let found ← Exec.ofExcept (vinOf vehicle)
  if isText found vin then describe vin vehicle else pure ()

/-- The body of the `try`. -/
def readResponses (vin : String) (vehicles capabilities : Except Exn PyValue) : Building Unit := do
  let body ← Exec.ofExcept vehicles
  let assigned ← Exec.ofExcept (getItem body "assignedVehicles" (.list []))
  let items ← Exec.ofExcept (iterate assigned)
  Exec.each (readVehicle vin) items
  let answer ← Exec.ofExcept capabilities
  let info ← Exec.ofExcept (getItem answer "vehicle" (.dict []))
  let information ← Exec.ofExcept (informationOf info informationKeys)
  assign "information" (.dict information)

/-- The exceptions that are only logged. -/
def isLogged : Exn → Bool
  | .response _ status _ => status ≠ 401 && status ≠ 403 && status ≠ 429
  | .other kind => kind = .client || kind = .timeout || kind = .value || kind = .type
  | .auth => false

/-- `_metadata`, from its two responses. -/
def metadata (vin : String) (vehicles capabilities : Except Exn PyValue) :
    Except Exn (Dict PyValue) :=
  match readResponses vin vehicles capabilities [] with
  | (.ok _, built) => .ok built
  | (.error e, built) => if isLogged e then .ok built else .error e

/-! ### Its shape -/

/-- `information` is an object, where it is there. -/
def Informed (vehicle : Dict PyValue) : Prop :=
  ∀ information, vehicle.get "information" = some information → ∃ items, information = .dict items

theorem informed_nil : Informed [] := nofun

theorem Informed.set {vehicle : Dict PyValue} (informed : Informed vehicle) {key : String}
    (other : "information" ≠ key) (value : PyValue) : Informed (vehicle.set key value) := by
  intro information found
  rw [Dict.get_set_ne vehicle value other] at found
  exact informed information found

theorem keeps_assign {vehicle : Dict PyValue} (informed : Informed vehicle) {key : String}
    (other : "information" ≠ key) (value : PyValue) :
    Exec.Keeps Informed (assign key value) vehicle :=
  Exec.keeps_change (informed.set other value)

theorem keeps_describe {built : Dict PyValue} (informed : Informed built) (vin : String)
    (vehicle : PyValue) : Exec.Keeps Informed (describe vin vehicle) built := by
  unfold describe
  refine Exec.keeps_bind (Exec.keeps_ofExcept informed) fun plate _ informed => ?_
  refine Exec.keeps_bind (keeps_assign informed (by decide) _) fun _ _ informed => ?_
  refine Exec.keeps_bind (Exec.keeps_ofExcept informed) fun sales _ informed => ?_
  refine Exec.keeps_bind (Exec.keeps_ofExcept informed) fun baumuster _ informed => ?_
  refine Exec.keeps_bind (Exec.keeps_ofExcept informed) fun model _ informed => ?_
  refine Exec.keeps_bind (keeps_assign informed (by decide) _) fun _ _ informed => ?_
  refine Exec.keeps_bind (Exec.keeps_ofExcept informed) fun owner _ informed => ?_
  exact keeps_assign informed (by decide) _

theorem keeps_readVehicle {built : Dict PyValue} (informed : Informed built) (vin : String)
    (vehicle : PyValue) : Exec.Keeps Informed (readVehicle vin vehicle) built := by
  unfold readVehicle
  refine Exec.keeps_bind (Exec.keeps_ofExcept informed) fun found _ informed => ?_
  exact Exec.keeps_ite (fun _ => keeps_describe informed vin vehicle) fun _ => informed

theorem keeps_readResponses {built : Dict PyValue} (informed : Informed built) (vin : String)
    (vehicles capabilities : Except Exn PyValue) :
    Exec.Keeps Informed (readResponses vin vehicles capabilities) built := by
  unfold readResponses
  refine Exec.keeps_bind (Exec.keeps_ofExcept informed) fun body _ informed => ?_
  refine Exec.keeps_bind (Exec.keeps_ofExcept informed) fun assigned _ informed => ?_
  refine Exec.keeps_bind (Exec.keeps_ofExcept informed) fun items _ informed => ?_
  refine Exec.keeps_bind (Exec.keeps_each items
    (fun vehicle _ informed => keeps_readVehicle informed vin vehicle) informed)
    fun _ _ informed => ?_
  refine Exec.keeps_bind (Exec.keeps_ofExcept informed) fun answer _ informed => ?_
  refine Exec.keeps_bind (Exec.keeps_ofExcept informed) fun info _ informed => ?_
  refine Exec.keeps_bind (Exec.keeps_ofExcept informed) fun information built _ => ?_
  refine Exec.keeps_change fun value found => ⟨information, ?_⟩
  rw [Dict.get_set_self] at found
  exact (Option.some_inj.mp found).symm

/-- **Whatever the responses**, `information` is an object where it is there. -/
theorem metadata_informed {vin : String} {vehicles capabilities : Except Exn PyValue}
    {vehicle : Dict PyValue} (built : metadata vin vehicles capabilities = .ok vehicle) :
    Informed vehicle := by
  have informed := (keeps_readResponses informed_nil vin vehicles capabilities).final
  unfold metadata at built
  rcases result : readResponses vin vehicles capabilities [] with ⟨e | value, last⟩
  · rw [result] at informed
    simp only [result] at built
    by_cases logged : isLogged e = true
    · rw [if_pos logged] at built
      exact Except.ok.inj built ▸ informed
    · rw [if_neg logged] at built
      cases built
  · rw [result] at informed
    simp only [result] at built
    exact Except.ok.inj built ▸ informed

end DbusEv.Mercedes
