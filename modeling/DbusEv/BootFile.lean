/-
**The boot file** (`update.sh`, "Refresh the boot hook").

An update deletes the managed block from `rc.local` with a `sed` range and inserts it again with
`awk`, before the first `exit 0`.

* `refresh` — the two edits.
* `Refreshes` — what a refresh should do.
* `refresh_drifts` — what it does: the block is there once and in its place, but the blank line in
  front of it is not deleted, so each refresh adds one; and a start marker without an end marker
  takes the rest of the file with it.
-/

import DbusEv.Lib.Lines

set_option autoImplicit false

namespace DbusEv.BootFile

open DbusEv.Lines

/-- The addresses of the `sed` command. -/
def startMarker : String := "# === dbus-ev service persistence ==="
def endMarker : String := "# === end dbus-ev ==="

/-- `/marker/`, for a marker without special characters. -/
def hasMarker (marker line : String) : Bool := decide (marker.toList <:+: line.toList)

/-- `[ \t]`. -/
def isBlank (c : Char) : Bool := c = ' ' || c = '\t'

/-- `/^exit[ \t]+0[ \t]*$/`. -/
def isExit (line : String) : Bool :=
  match line.toList with
  | 'e' :: 'x' :: 'i' :: 't' :: blank :: rest =>
    isBlank blank &&
      match rest.dropWhile isBlank with
      | '0' :: tail => tail.all isBlank
      | _ => false
  | _ => false

/-- `$RC_BLOCK`. -/
def block : List String :=
  ["",
    "# === dbus-ev service persistence ===",
    "if [ ! -e /service/dbus-ev ] && [ ! -L /service/dbus-ev ]; then",
    "    ln -s /data/dbus-ev/service/dbus-ev /service/dbus-ev",
    "fi",
    "if [ -L /service/dbus-ev ] && " ++
      "[ \"$(readlink /service/dbus-ev)\" = /data/dbus-ev/service/dbus-ev ]; then",
    "    svc -u /service/dbus-ev/log 2>/dev/null || true",
    "    svc -u /service/dbus-ev 2>/dev/null || true",
    "fi",
    "# === end dbus-ev ==="]

/-- The `sed` command. -/
def deleteBlock (lines : List String) : List String :=
  deleteRange (hasMarker startMarker) (hasMarker endMarker) lines

/-- The refresh of a file of these lines. -/
def refresh (lines : List String) : List String := insertBefore isExit block (deleteBlock lines)

/-! ### The block -/

/-- The block, as `sed` and `awk` see it: it starts in its second line and ends in its last. -/
theorem block_facts : deleteBlock block = [""] ∧
    openAfter (hasMarker startMarker) (hasMarker endMarker) false block = false ∧
    (∀ line ∈ block, isExit line = false) ∧
    (∀ line ∈ block.drop 2, hasMarker startMarker line = false) ∧
    hasMarker startMarker "" = false ∧ hasMarker startMarker startMarker = true := by
  decide +kernel

theorem block_eq : block = "" :: startMarker :: block.drop 2 := rfl

/-- No line starts a block. -/
def Unmarked (lines : List String) : Prop := ∀ line ∈ lines, hasMarker startMarker line = false

theorem Unmarked.append {first second : List String} (unmarked : Unmarked first)
    (unmarked' : Unmarked second) : Unmarked (first ++ second) := by
  intro line member
  cases List.mem_append.mp member with
  | inl before => exact unmarked line before
  | inr after => exact unmarked' line after

/-- The deletion leaves the blank line of the block. -/
theorem deleteBlock_split {first second : List String} (unmarked : Unmarked first)
    (unmarked' : Unmarked second) :
    deleteBlock (first ++ block ++ second) = first ++ [""] ++ second := by
  obtain ⟨blank, closed, -⟩ := block_facts
  have before : deleteBlock first = first := deleteRange_of_not_start unmarked
  have after : deleteBlock second = second := deleteRange_of_not_start unmarked'
  have shut : openAfter (hasMarker startMarker) (hasMarker endMarker) false first = false :=
    openAfter_of_not_start unmarked
  unfold deleteBlock deleteRange at *
  rw [List.append_assoc, deleteFrom_append, shut, deleteFrom_append, closed, before, blank, after,
    List.append_assoc]

/-- The block is nowhere else. -/
theorem block_unique {first second first' second' : List String} (unmarked : Unmarked first)
    (unmarked' : Unmarked second)
    (same : first ++ block ++ second = first' ++ block ++ second') :
    first' = first ∧ second' = second := by
  obtain ⟨-, -, -, rest, blank, marked⟩ := block_facts
  have shape : ∀ before after : List String, before ++ block ++ after =
      (before ++ [""]) ++ startMarker :: (block.drop 2 ++ after) := by
    intro before after
    rw [block_eq]
    simp
  rw [shape, shape] at same
  have before : Unmarked (first ++ [""]) := unmarked.append (List.forall_mem_singleton.mpr blank)
  have after : Unmarked (block.drop 2 ++ second) := Unmarked.append rest unmarked'
  obtain ⟨front, back⟩ := split_unique same before after marked
  exact ⟨(List.append_cancel_right front).symm, (List.append_cancel_left back).symm⟩

/-! ### A refresh -/

/-- The lines in front of the block, and those behind it. -/
def front (lines : List String) : List String := (deleteBlock lines).takeWhile (!isExit ·)
def back (lines : List String) : List String := (deleteBlock lines).dropWhile (!isExit ·)

theorem refresh_eq (lines : List String) : refresh lines = front lines ++ block ++ back lines :=
  insertBefore_eq _ _

theorem front_append_back (lines : List String) : front lines ++ back lines = deleteBlock lines :=
  List.takeWhile_append_dropWhile

theorem unmarked_deleteBlock (lines : List String) : Unmarked (deleteBlock lines) :=
  not_start_of_mem

theorem unmarked_front (lines : List String) : Unmarked (front lines) := fun line member =>
  unmarked_deleteBlock lines line ((List.takeWhile_sublist _).subset member)

theorem unmarked_back (lines : List String) : Unmarked (back lines) := fun line member =>
  unmarked_deleteBlock lines line ((List.dropWhile_sublist _).subset member)

theorem front_not_exit (lines : List String) : ∀ line ∈ front lines, isExit line = false := by
  intro line member
  simpa using List.mem_takeWhile_imp member

theorem back_exit (lines : List String) : ∀ line ∈ (back lines).head?, isExit line = true := by
  intro line first
  have stops := List.head?_dropWhile_not (!isExit ·) (deleteBlock lines)
  unfold back at first
  rw [Option.mem_def.mp first] at stops
  simpa using stops

/-- **Each further refresh adds a blank line.** -/
theorem refresh_iterate (lines : List String) (n : ℕ) : refresh^[n + 1] lines =
    front lines ++ List.replicate n "" ++ block ++ back lines := by
  induction n with
  | zero =>
    show refresh lines = _
    rw [refresh_eq, List.replicate_zero, List.append_nil]
  | succ n ih =>
    obtain ⟨-, -, blockExit, -, blank, -⟩ := block_facts
    have unmarked : Unmarked (front lines ++ List.replicate n "") := by
      refine (unmarked_front lines).append fun line member => ?_
      rw [List.eq_of_mem_replicate member]
      exact blank
    have quiet : ∀ line ∈ front lines ++ List.replicate n "" ++ [""], isExit line = false := by
      intro line member
      cases List.mem_append.mp member with
      | inr last =>
        rw [List.mem_singleton.mp last]
        exact blockExit "" List.mem_cons_self
      | inl earlier =>
        cases List.mem_append.mp earlier with
        | inl before => exact front_not_exit lines line before
        | inr added =>
          rw [List.eq_of_mem_replicate added]
          exact blockExit "" List.mem_cons_self
    have inserted := insertBefore_of_split block quiet (back_exit lines)
    rw [Function.iterate_succ_apply', ih]
    unfold refresh
    rw [deleteBlock_split unmarked (unmarked_back lines), inserted, List.append_assoc (front lines),
      ← List.replicate_succ']

/-! ### What a refresh should do -/

/-- The lines outside the blocks that are complete. -/
def outsideBlocks (lines : List String) : List String :=
  outside (hasMarker startMarker) (hasMarker endMarker) lines

/-- Every block that is started is ended. -/
def Complete (lines : List String) : Prop :=
  openAfter (hasMarker startMarker) (hasMarker endMarker) false lines = false

/-- The block is in the file once. -/
def Once (file : List String) : Prop :=
  ∃ first second, file = first ++ block ++ second ∧
    ∀ first' second', file = first' ++ block ++ second' → first' = first ∧ second' = second

/-- The block stands before every `exit 0`. -/
def Placed (file : List String) : Prop :=
  ∀ first second, file = first ++ block ++ second → ∀ line ∈ first, isExit line = false

/-- The other lines are those outside the old blocks, and perhaps more. -/
def Keeps (lines file : List String) : Prop :=
  ∀ first second, file = first ++ block ++ second →
    (outsideBlocks lines).Sublist (first ++ second)

/-- A refresh that is preserving and idempotent. -/
structure Refreshes (lines : List String) : Prop where
  once : Once (refresh lines)
  placed : Placed (refresh lines)
  keeps : Keeps lines (refresh lines)
  identical : refresh (refresh lines) = refresh lines

/-- **A refresh drifts**: the block is in the file once and in its place, the lines outside the old
blocks are kept exactly if every block is complete, and every further refresh adds a blank line, so
none is identical. -/
theorem refresh_drifts (lines : List String) : ¬ Refreshes lines ∧ Once (refresh lines) ∧
    Placed (refresh lines) ∧ (Keeps lines (refresh lines) ↔ Complete lines) ∧
    ∃ first second, ∀ n : ℕ,
      refresh^[n + 1] lines = first ++ List.replicate n "" ++ block ++ second := by
  have unique : ∀ first second, refresh lines = first ++ block ++ second →
      first = front lines ∧ second = back lines := by
    intro first second same
    rw [refresh_eq] at same
    exact block_unique (unmarked_front lines) (unmarked_back lines) same
  refine ⟨fun refreshes => ?_, ⟨_, _, refresh_eq lines, unique⟩, ?_, ?_, ?_⟩
  · have drift : refresh (refresh lines) = _ := refresh_iterate lines 1
    rw [refreshes.identical, refresh_eq] at drift
    have length := congrArg List.length drift
    simp at length
  · intro first second same
    rw [(unique first second same).1]
    exact front_not_exit lines
  · rw [Complete, ← sublist_deleteRange_iff]
    constructor
    · intro keeps
      have kept := keeps _ _ (refresh_eq lines)
      rw [front_append_back] at kept
      exact kept
    · intro kept first second same
      rw [(unique first second same).1, (unique first second same).2, front_append_back]
      exact kept
  · exact ⟨_, _, refresh_iterate lines⟩

/-- **A file with an exit line** is refreshed twice. -/
theorem refresh_twice : ¬ ∀ lines, Refreshes lines := by
  intro claim
  have identical := (claim ["#!/bin/sh", "exit 0"]).identical
  revert identical
  decide +kernel

end DbusEv.BootFile
