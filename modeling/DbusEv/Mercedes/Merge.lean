/-
**Push updates merge in any order** (`dbus_ev/mercedes/protocol.py`, `merge`).

Each attribute of a delta replaces the buffered one unless it is older, so the buffer holds the
latest of everything that arrived: a fold over the entries of the updates, key by key.

* `mergeAll` — a sequence of updates, merged one after the other.
* `candidates` — the entries of one key: the buffered one, and those of the updates in their order.
* `get_foldl_put` — the buffer holds the last of those with the largest timestamp.
* `merge_order_insensitive` — permutations, replays, malformed members and full updates.

A timestamp is the number the code compares: `finite(…) or 0`.
-/

import DbusEv.Lib.Latest
import DbusEv.Mercedes.Protocol

set_option autoImplicit false
set_option linter.unusedSectionVars false

namespace DbusEv.Mercedes

/-- An update and the wall time of its merge. -/
abbrev Arrival := ℚ × Dict PyValue

/-- A member of an update that is an object, with its key. -/
def entryOf (item : String × PyValue) : Option (String × Attribute) :=
  match item.2 with
  | .dict value => some (item.1, value)
  | _ => none

/-- The objects among the attributes of an update. -/
def entriesOf (update : Dict PyValue) : List (String × Attribute) :=
  ((incomingOf update).getD []).filterMap entryOf

/-- The objects that arrive, in their order. -/
def entries (arrivals : List Arrival) : List (String × Attribute) :=
  arrivals.flatMap fun arrival => entriesOf arrival.2

/-- The entries of one key: the buffered one, and those that arrive. -/
def candidates (attributes : Dict Attribute) (arriving : List (String × Attribute))
    (key : String) : List Attribute :=
  (attributes.get key).toList ++
    arriving.filterMap fun entry => if entry.1 = key then some entry.2 else none

section Merging

variable [PyText]

/-- An object replaces the buffered attribute unless it is older. -/
def put (attributes : Dict Attribute) (entry : String × Attribute) : Dict Attribute :=
  if timestamp ((attributes.get entry.1).getD []) ≤ timestamp entry.2 then
    attributes.set entry.1 entry.2
  else attributes

/-- The buffer after a sequence of merges. -/
def mergeAll (protocol : Protocol) (arrivals : List Arrival) : Protocol :=
  arrivals.foldl (fun protocol arrival => (protocol.merge arrival.1 arrival.2).1) protocol

variable {protocol : Protocol} {arrivals : List Arrival}

/-! ### A merge is a fold over its objects -/

theorem mergeItem_entryOf (attributes : Dict Attribute) (item : String × PyValue) :
    mergeItem attributes item = ((entryOf item).map (put attributes)).getD attributes := by
  unfold mergeItem entryOf
  cases item.2 <;> rfl

/-- **Members that are not objects are ignored.** -/
theorem mergeItems_entries (attributes : Dict Attribute) (incoming : Dict PyValue) :
    mergeItems attributes incoming = (incoming.filterMap entryOf).foldl put attributes := by
  unfold mergeItems
  rw [List.foldl_filterMap]
  congr 1
  funext attributes item
  rw [mergeItem_entryOf]
  cases entryOf item <;> rfl

/-- A delta adds its objects to the buffer. -/
theorem merge_attributes (wall : ℚ) {update : Dict PyValue} (delta : isFullUpdate update = false) :
    (protocol.merge wall update).1.attributes =
      (entriesOf update).foldl put protocol.attributes := by
  unfold entriesOf
  cases taken : incomingOf update with
  | none =>
    rw [Protocol.merge_none taken]
    rfl
  | some incoming =>
    rw [Protocol.merge_some taken]
    show mergeItems (protocol.resetBy update).attributes incoming = _
    rw [Protocol.resetBy_delta delta, mergeItems_entries]
    rfl

/-- No full update is among the arrivals. -/
def Deltas (arrivals : List Arrival) : Prop :=
  ∀ arrival ∈ arrivals, isFullUpdate arrival.2 = false

/-- The timestamps that arrive are not negative. -/
def Dated (arrivals : List Arrival) : Prop :=
  ∀ entry ∈ entries arrivals, 0 ≤ timestamp entry.2

/-- For each key the timestamps are distinct, the buffered one included. -/
def Distinct (protocol : Protocol) (arrivals : List Arrival) : Prop :=
  ∀ key, ((candidates protocol.attributes (entries arrivals) key).map timestamp).Nodup

/-- So do all of them. -/
theorem mergeAll_attributes (deltas : Deltas arrivals) :
    (mergeAll protocol arrivals).attributes =
      (entries arrivals).foldl put protocol.attributes := by
  induction arrivals generalizing protocol with
  | nil => rfl
  | cons arrival rest ih =>
    obtain ⟨delta, later⟩ := List.forall_mem_cons.mp deltas
    unfold entries
    rw [List.flatMap_cons, List.foldl_append, ← merge_attributes arrival.1 delta]
    exact ih later

/-! ### One key -/

theorem timestamp_nil : timestamp [] = 0 := by
  simp [timestamp, finite, toFloat, PyFloat.ofRat]

/-- One object that arrives; nothing that is buffered counts as time 0. -/
theorem get_put (attributes : Dict Attribute) {entry : String × Attribute}
    (dated : 0 ≤ timestamp entry.2) (key : String) :
    (put attributes entry).get key =
      if entry.1 = key then
        match attributes.get key with
        | some old => if timestamp old ≤ timestamp entry.2 then some entry.2 else some old
        | none => some entry.2
      else attributes.get key := by
  unfold put
  by_cases same : entry.1 = key
  · subst same
    rw [if_pos rfl]
    cases held : attributes.get entry.1 with
    | none =>
      rw [Option.getD_none, timestamp_nil, if_pos dated]
      exact Dict.get_set_self _ _ _
    | some old =>
      rw [Option.getD_some]
      by_cases newer : timestamp old ≤ timestamp entry.2
      · simp only [newer, if_true]
        exact Dict.get_set_self _ _ _
      · simp only [newer, if_false]
        exact held
  · rw [if_neg same]
    split
    · exact Dict.get_set_ne _ _ (Ne.symm same)
    · rfl

theorem candidates_concat (attributes : Dict Attribute) (arriving : List (String × Attribute))
    (entry : String × Attribute) (key : String) :
    candidates attributes (arriving ++ [entry]) key =
      candidates attributes arriving key ++ if entry.1 = key then [entry.2] else [] := by
  unfold candidates
  rw [List.filterMap_append, List.append_assoc]
  by_cases same : entry.1 = key <;> simp [same]

/-- **The buffer holds the latest entry of each key**: by induction, from the last arrival. -/
theorem get_foldl_put (attributes : Dict Attribute) (arriving : List (String × Attribute))
    (dated : ∀ entry ∈ arriving, 0 ≤ timestamp entry.2) (key : String) :
    (arriving.foldl put attributes).get key =
      latest timestamp (candidates attributes arriving key) := by
  induction arriving using List.reverseRecOn with
  | nil =>
    show attributes.get key = _
    unfold candidates
    cases attributes.get key <;> rfl
  | append_singleton earlier last ih =>
    have held := ih fun entry member => dated entry (List.mem_append_left _ member)
    have positive : 0 ≤ timestamp last.2 := dated last (by simp)
    rw [List.foldl_append, candidates_concat]
    show (put (earlier.foldl put attributes) last).get key = _
    rw [get_put _ positive, held]
    by_cases same : last.1 = key
    · rw [if_pos same, if_pos same, latest_concat]
      cases latest timestamp (candidates attributes earlier key) <;> rfl
    · rw [if_neg same, if_neg same, List.append_nil]

theorem get_mergeAll (deltas : Deltas arrivals) (dated : Dated arrivals) (key : String) :
    (mergeAll protocol arrivals).attributes.get key =
      latest timestamp (candidates protocol.attributes (entries arrivals) key) := by
  rw [mergeAll_attributes deltas]
  exact get_foldl_put _ _ dated key

/-! ### Permutations and replays -/

/-- Only the updates count, not the times of their merges. -/
theorem entries_eq (arrivals : List Arrival) :
    entries arrivals = (arrivals.map Prod.snd).flatMap entriesOf := by
  unfold entries
  rw [List.flatMap_map]

theorem deltas_iff (arrivals : List Arrival) :
    Deltas arrivals ↔ ∀ update ∈ arrivals.map Prod.snd, isFullUpdate update = false := by
  unfold Deltas
  rw [List.forall_mem_map]

variable {others : List Arrival}

/-- **The order of the updates does not matter** where the timestamps of each key are distinct. -/
theorem get_mergeAll_perm (deltas : Deltas arrivals) (dated : Dated arrivals)
    (distinct : Distinct protocol arrivals)
    (perm : (others.map Prod.snd).Perm (arrivals.map Prod.snd)) (key : String) :
    (mergeAll protocol others).attributes.get key =
      (mergeAll protocol arrivals).attributes.get key := by
  have same : (entries others).Perm (entries arrivals) := by
    rw [entries_eq, entries_eq]
    exact perm.flatMap_right entriesOf
  have deltas' : Deltas others := by
    rw [deltas_iff] at deltas ⊢
    exact fun update member => deltas update (perm.mem_iff.mp member)
  have dated' : Dated others := fun entry member => dated entry (same.mem_iff.mp member)
  rw [get_mergeAll deltas dated, get_mergeAll deltas' dated']
  refine latest_perm (distinct key) ?_
  exact (same.filterMap _).append_left _

/-- **A replay changes no attribute.** -/
theorem get_mergeAll_again (deltas : Deltas arrivals) (dated : Dated arrivals)
    (again : others.map Prod.snd = arrivals.map Prod.snd) (key : String) :
    (mergeAll (mergeAll protocol arrivals) others).attributes.get key =
      (mergeAll protocol arrivals).attributes.get key := by
  have same : entries others = entries arrivals := by
    rw [entries_eq, entries_eq, again]
  have deltas' : Deltas others := by
    rw [deltas_iff] at deltas ⊢
    rw [again]
    exact deltas
  have dated' : Dated others := fun entry member => dated entry (same ▸ member)
  rw [get_mergeAll deltas' dated', same]
  unfold candidates
  rw [get_mergeAll deltas dated]
  exact latest_replay _ _

/-! ### A full update -/

/-- The attributes after a merge depend on the attributes before it alone. -/
theorem merge_attributes_congr {other : Protocol} (same : protocol.attributes = other.attributes)
    (wall : ℚ) (update : Dict PyValue) :
    (protocol.merge wall update).1.attributes = (other.merge wall update).1.attributes := by
  unfold Protocol.merge Protocol.mergedWith Protocol.resetBy
  cases incomingOf update with
  | none => exact same
  | some incoming =>
    cases isFullUpdate update with
    | true => rfl
    | false =>
      show mergeItems protocol.attributes incoming = mergeItems other.attributes incoming
      rw [same]

theorem mergeAll_attributes_congr {other : Protocol}
    (same : protocol.attributes = other.attributes) (later : List Arrival) :
    (mergeAll protocol later).attributes = (mergeAll other later).attributes := by
  induction later generalizing protocol other with
  | nil => exact same
  | cons arrival rest ih => exact ih (merge_attributes_congr same arrival.1 arrival.2)

/-- **A full update that has attributes forgets the buffer**, whatever is merged after it. -/
theorem mergeAll_full (other : Protocol) {update : Dict PyValue}
    (full : isFullUpdate update = true) (taken : (incomingOf update).isSome = true) (wall : ℚ)
    (later : List Arrival) :
    (mergeAll protocol ((wall, update) :: later)).attributes =
      (mergeAll other ((wall, update) :: later)).attributes := by
  obtain ⟨incoming, found⟩ := Option.isSome_iff_exists.mp taken
  refine mergeAll_attributes_congr ?_ later
  show (protocol.merge wall update).1.attributes = (other.merge wall update).1.attributes
  rw [Protocol.merge_some found, Protocol.merge_some found]
  unfold Protocol.mergedWith Protocol.resetBy
  rw [if_pos full, if_pos full]

/-- Members that are not objects: two updates that differ in these alone are merged alike. -/
theorem merge_objects {update update' incoming incoming' : Dict PyValue}
    (taken : incomingOf update = some incoming) (taken' : incomingOf update' = some incoming')
    (full : isFullUpdate update = isFullUpdate update')
    (objects : incoming.filterMap entryOf = incoming'.filterMap entryOf) (wall : ℚ) :
    (protocol.merge wall update).1.attributes = (protocol.merge wall update').1.attributes := by
  rw [Protocol.merge_some taken, Protocol.merge_some taken']
  unfold Protocol.mergedWith Protocol.resetBy
  rw [full]
  show mergeItems _ incoming = mergeItems _ incoming'
  rw [mergeItems_entries, mergeItems_entries, objects]

/-! ### The law of the buffer -/

/-- **Push updates merge in any order.** For deltas with timestamps that are not negative the buffer
holds, for each key, the last arrival among the largest timestamps, and a replay changes nothing;
where the timestamps of each key are distinct it is the entry with the largest one, for every
permutation of the updates. Members that are not objects are ignored, and a full update that has
attributes forgets what was there before it. -/
theorem merge_order_insensitive (protocol : Protocol) (arrivals : List Arrival) :
    (Deltas arrivals → Dated arrivals → Distinct protocol arrivals →
      ∀ others : List Arrival, (others.map Prod.snd).Perm (arrivals.map Prod.snd) → ∀ key,
        (mergeAll protocol others).attributes.get key =
            (mergeAll protocol arrivals).attributes.get key ∧
          ∀ entry, (mergeAll protocol others).attributes.get key = some entry ↔
            entry ∈ candidates protocol.attributes (entries arrivals) key ∧
              ∀ other ∈ candidates protocol.attributes (entries arrivals) key,
                timestamp other ≤ timestamp entry) ∧
    (Deltas arrivals → Dated arrivals → ∀ key,
      (∀ entry, (mergeAll protocol arrivals).attributes.get key = some entry ↔
        IsLatest timestamp (candidates protocol.attributes (entries arrivals) key) entry) ∧
      ∀ again : List Arrival, again.map Prod.snd = arrivals.map Prod.snd →
        (mergeAll (mergeAll protocol arrivals) again).attributes.get key =
          (mergeAll protocol arrivals).attributes.get key) ∧
    (∀ (wall : ℚ) (update update' incoming incoming' : Dict PyValue),
      incomingOf update = some incoming → incomingOf update' = some incoming' →
      isFullUpdate update = isFullUpdate update' →
      incoming.filterMap entryOf = incoming'.filterMap entryOf →
        (protocol.merge wall update).1.attributes = (protocol.merge wall update').1.attributes) ∧
    ∀ (other : Protocol) (wall : ℚ) (update : Dict PyValue), isFullUpdate update = true →
      (incomingOf update).isSome = true →
        (mergeAll protocol ((wall, update) :: arrivals)).attributes =
          (mergeAll other ((wall, update) :: arrivals)).attributes := by
  refine ⟨?_, ?_, ?_, ?_⟩
  · intro deltas dated distinct others perm key
    have same := get_mergeAll_perm deltas dated distinct perm key
    refine ⟨same, fun entry => ?_⟩
    rw [same, get_mergeAll deltas dated, latest_eq_some_iff_le (distinct key)]
  · intro deltas dated key
    refine ⟨fun entry => ?_, fun again repeated => get_mergeAll_again deltas dated repeated key⟩
    rw [get_mergeAll deltas dated, latest_eq_some_iff]
  · intro wall update update' incoming incoming' taken taken' full objects
    exact merge_objects taken taken' full objects wall
  · intro other wall update full taken
    exact mergeAll_full other full taken wall arrivals

end Merging

/-- A delta with one reading of the charge, merged at this time. -/
def charge (wall : ℚ) (time : ℤ) : Arrival :=
  (wall, [("attributes", .dict [("soc", .dict [("timestamp_in_ms", .int time)])])])

/-- Two readings arrive in the wrong order, after a third that the buffer holds. -/
theorem charges_swapped : letI := plainText
    (mergeAll ⟨"VIN", [("soc", [("timestamp_in_ms", .int 1)])], true, 1⟩
        [charge 7 3, charge 8 2]).attributes.get "soc" =
      (mergeAll ⟨"VIN", [("soc", [("timestamp_in_ms", .int 1)])], true, 1⟩
        [charge 7 2, charge 8 3]).attributes.get "soc" := by
  refine ((@merge_order_insensitive plainText _ [charge 7 2, charge 8 3]).1 ?_ ?_ ?_
    [charge 7 3, charge 8 2] (List.Perm.swap _ _ _) "soc").1
  · unfold Deltas
    decide
  · unfold Dated
    decide +kernel
  · intro key
    by_cases same : "soc" = key
    · subst same
      decide +kernel
    · have other : key ≠ "soc" := Ne.symm same
      simp [candidates, entries, entriesOf, incomingOf, charge, entryOf, Dict.get_cons, same, other]

end DbusEv.Mercedes
