/-
**The last of the entries with the largest stamp.**

* `latest stamp arrivals` — what is kept of a sequence of entries when each replaces the one before
  it unless it is older (`latest_concat`).
* `IsLatest` — the same, by its place: nothing before it is newer, everything after it is older
  (`latest_eq_some_iff`).
* `latest_perm` — with distinct stamps the order of the arrivals does not matter; nor does their
  number, where a stamp belongs to one entry (`latest_congr`).
* `latest_replay` — the same arrivals a second time change nothing.
-/

import Mathlib.Data.List.MinMax
import Mathlib.Data.List.Nodup

set_option autoImplicit false

namespace DbusEv

variable {α β : Type} [LinearOrder β] {stamp : α → β} {arrivals : List α}

/-- The last of the entries with the largest stamp. -/
def latest (stamp : α → β) (arrivals : List α) : Option α := arrivals.reverse.argmax stamp

/-- Nothing before the entry is newer, and everything after it is older. -/
def IsLatest (stamp : α → β) (arrivals : List α) (entry : α) : Prop :=
  ∃ before after, arrivals = before ++ entry :: after ∧
    (∀ other ∈ before, stamp other ≤ stamp entry) ∧ ∀ other ∈ after, stamp other < stamp entry

/-- **A new arrival replaces what is kept unless it is older.** -/
theorem latest_concat (arrivals : List α) (entry : α) :
    latest stamp (arrivals ++ [entry]) =
      match latest stamp arrivals with
      | some old => if stamp old ≤ stamp entry then some entry else some old
      | none => some entry := by
  unfold latest
  rw [List.reverse_concat, List.argmax_cons]
  cases arrivals.reverse.argmax stamp with
  | none => rfl
  | some old =>
    by_cases newer : stamp old ≤ stamp entry
    · simp only [newer, not_lt.mpr newer, if_true, if_false]
    · simp only [newer, not_le.mp newer, if_true, if_false]

/-- What is kept of entries that are rewritten. -/
theorem latest_map {γ : Type} (rewrite : γ → α) (entries : List γ) :
    latest stamp (entries.map rewrite) =
      (latest (fun entry => stamp (rewrite entry)) entries).map rewrite := by
  induction entries using List.reverseRecOn with
  | nil => rfl
  | append_singleton earlier last ih =>
    rw [List.map_append, List.map_singleton, latest_concat, latest_concat, ih]
    cases latest (fun entry => stamp (rewrite entry)) earlier with
    | none => rfl
    | some old =>
      by_cases newer : stamp (rewrite old) ≤ stamp (rewrite last)
      · simp only [Option.map_some, newer, if_true]
      · simp only [Option.map_some, newer, if_false]

theorem latest_mem {entry : α} (found : latest stamp arrivals = some entry) : entry ∈ arrivals :=
  List.mem_reverse.mp (List.argmax_mem found)

/-- Only the stamps of the arrivals count. -/
theorem latest_congr_stamp {other : α → β} {arrivals : List α}
    (same : ∀ entry ∈ arrivals, stamp entry = other entry) :
    latest stamp arrivals = latest other arrivals := by
  induction arrivals using List.reverseRecOn with
  | nil => rfl
  | append_singleton earlier last ih =>
    obtain ⟨before, now⟩ := List.forall_mem_append.mp same
    rw [latest_concat, latest_concat, ih before]
    cases kept : latest other earlier with
    | none => rfl
    | some old =>
      simp only [before old (latest_mem kept), now last List.mem_cons_self]

theorem le_latest {entry other : α} (found : latest stamp arrivals = some entry)
    (member : other ∈ arrivals) : stamp other ≤ stamp entry :=
  List.le_of_mem_argmax (List.mem_reverse.mpr member) found

@[simp] theorem latest_eq_none : latest stamp arrivals = none ↔ arrivals = [] := by
  unfold latest
  rw [List.argmax_eq_none, List.reverse_eq_nil_iff]

/-- Induction on the arrivals, from the last one. -/
theorem isLatest_of_latest {entry : α} (found : latest stamp arrivals = some entry) :
    IsLatest stamp arrivals entry := by
  induction arrivals using List.reverseRecOn generalizing entry with
  | nil => cases found
  | append_singleton earlier last ih =>
    rw [latest_concat] at found
    cases kept : latest stamp earlier with
    | none =>
      rw [kept] at found
      cases found
      rw [latest_eq_none.mp kept]
      exact ⟨[], [], rfl, fun _ never => absurd never List.not_mem_nil,
        fun _ never => absurd never List.not_mem_nil⟩
    | some old =>
      simp only [kept] at found
      by_cases newer : stamp old ≤ stamp last
      · rw [if_pos newer] at found
        cases found
        exact ⟨earlier, [], rfl, fun other member => (le_latest kept member).trans newer,
          fun _ never => absurd never List.not_mem_nil⟩
      · rw [if_neg newer] at found
        cases found
        obtain ⟨before, after, same, below, older⟩ := ih kept
        refine ⟨before, after ++ [last], by rw [same]; simp, below, fun other member => ?_⟩
        rcases List.mem_append.mp member with later | final
        · exact older other later
        · rw [List.mem_singleton.mp final]
          exact not_le.mp newer

/-- … and on what comes after the entry. -/
theorem latest_of_isLatest {entry : α} (newest : IsLatest stamp arrivals entry) :
    latest stamp arrivals = some entry := by
  obtain ⟨before, after, rfl, below, older⟩ := newest
  induction after using List.reverseRecOn with
  | nil =>
    rw [latest_concat]
    cases kept : latest stamp before with
    | none => rfl
    | some old => exact if_pos (below old (latest_mem kept))
  | append_singleton rest last ih =>
    have earlier := ih fun other member => older other (List.mem_append_left _ member)
    have behind : stamp last < stamp entry := older last (by simp)
    rw [← List.cons_append, ← List.append_assoc, latest_concat, earlier]
    exact if_neg (not_le.mpr behind)

/-- **By its place**: the latest entry is the last of the largest. -/
theorem latest_eq_some_iff {entry : α} :
    latest stamp arrivals = some entry ↔ IsLatest stamp arrivals entry :=
  ⟨isLatest_of_latest, latest_of_isLatest⟩

/-- With distinct stamps, the latest entry is the one with the largest. -/
theorem latest_eq_some_iff_le (distinct : (arrivals.map stamp).Nodup) {entry : α} :
    latest stamp arrivals = some entry ↔
      entry ∈ arrivals ∧ ∀ other ∈ arrivals, stamp other ≤ stamp entry := by
  refine ⟨fun found => ⟨latest_mem found, fun other => le_latest found⟩, ?_⟩
  rintro ⟨member, largest⟩
  cases found : latest stamp arrivals with
  | none =>
    rw [latest_eq_none.mp found] at member
    exact absurd member List.not_mem_nil
  | some other =>
    have same : stamp other = stamp entry :=
      le_antisymm (largest other (latest_mem found)) (le_latest found member)
    rw [List.inj_on_of_nodup_map distinct (latest_mem found) member same]

/-- **The order does not matter** where the stamps are distinct. -/
theorem latest_perm {others : List α} (distinct : (arrivals.map stamp).Nodup)
    (perm : others.Perm arrivals) : latest stamp others = latest stamp arrivals := by
  have distinct' : (others.map stamp).Nodup := (perm.map stamp).nodup_iff.mpr distinct
  ext entry
  rw [latest_eq_some_iff_le distinct', latest_eq_some_iff_le distinct]
  simp only [perm.mem_iff]

/-- **Neither the order nor the number matters** where a stamp belongs to one entry. -/
theorem latest_congr {others : List α}
    (distinct : ∀ one ∈ arrivals, ∀ other ∈ arrivals, stamp one = stamp other → one = other)
    (same : ∀ entry, entry ∈ arrivals ↔ entry ∈ others) :
    latest stamp arrivals = latest stamp others := by
  cases found : latest stamp arrivals with
  | none =>
    rw [latest_eq_none] at found
    have empty : others = [] := List.eq_nil_iff_forall_not_mem.mpr fun entry member => by
      have there := (same entry).mpr member
      rw [found] at there
      exact absurd there List.not_mem_nil
    rw [empty]
    rfl
  | some entry =>
    have member := latest_mem found
    cases other : latest stamp others with
    | none =>
      rw [latest_eq_none] at other
      have there := (same entry).mp member
      rw [other] at there
      exact absurd there List.not_mem_nil
    | some winner =>
      have inside := (same winner).mpr (latest_mem other)
      have times : stamp entry = stamp winner :=
        le_antisymm (le_latest other ((same entry).mp member)) (le_latest found inside)
      rw [distinct entry member winner inside times]

/-- **A replay changes nothing**: what was kept is kept when the same entries arrive again. -/
theorem latest_replay (first : Option α) (arrivals : List α) :
    latest stamp ((latest stamp (first.toList ++ arrivals)).toList ++ arrivals) =
      latest stamp (first.toList ++ arrivals) := by
  cases found : latest stamp (first.toList ++ arrivals) with
  | none =>
    rw [latest_eq_none] at found
    rw [(List.append_eq_nil_iff.mp found).2]
    rfl
  | some entry =>
    obtain ⟨before, after, same, below, older⟩ := isLatest_of_latest found
    have largest : ∀ other ∈ entry :: before, stamp other ≤ stamp entry :=
      List.forall_mem_cons.mpr ⟨le_rfl, below⟩
    apply latest_of_isLatest
    cases first with
    | none => exact ⟨entry :: before, after, congrArg (entry :: ·) same, largest, older⟩
    | some old =>
      cases before with
      | nil =>
        cases same
        exact ⟨[], arrivals, rfl, fun _ never => absurd never List.not_mem_nil, older⟩
      | cons _ before =>
        cases same
        exact ⟨entry :: before, after, rfl,
          List.forall_mem_cons.mpr ⟨le_rfl, (List.forall_mem_cons.mp below).2⟩, older⟩

end DbusEv
