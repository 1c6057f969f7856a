/-
**No owner of a token store loses an update.**

* `latest`, `Follows` — a save is computed from the value that was saved last.
* `Kept` — the invariant of the disk: the file holds the last value, whole.
* `Idle` — what a process knows between two calls: the store of an owner holds the last value.
* `Same` — nothing but the stream and the temporary files changed; `finished` is the state a save
  ends in.
* `Outcome` — a call of `save` that is over is complete, or it raised and touched nothing.
* `no_update_lost` — every run, and every call of `save` in it.
-/

import DbusEv.Mercedes.Store

set_option autoImplicit false
set_option linter.unusedSectionVars false

namespace DbusEv.Store

open Thread

/-! ### The saves -/

/-- The data of a file; `{}` where there is none. -/
def parsed : Option Lexemes → Except PyError Json
  | none => .ok .empty
  | some text => loads text

/-- The value that was saved last. -/
def latest (initial : Option Lexemes) : List Save → Except PyError Json
  | [] => parsed initial
  | save :: _ => .ok save.value

/-- The value is computed from the one that was saved last. -/
def Follows (initial : Option Lexemes) (save : Save) (earlier : List Save) : Prop :=
  latest initial earlier = .ok save.base

/-- What the file holds after these saves. -/
def contents (initial : Option Lexemes) : List Save → Option Lexemes
  | [] => initial
  | save :: _ => some (dump save.value.value)

/-- **The invariant of the disk.** -/
structure Kept (initial : Option Lexemes) (disk : Disk) : Prop where
  file : disk.file = contents initial disk.saves
  follows : Throughout (Follows initial) disk.saves

/-- The file parses as the value that was saved last. -/
theorem parsed_contents (initial : Option Lexemes) (saves : List Save) :
    parsed (contents initial saves) = latest initial saves := by
  cases saves with
  | nil => rfl
  | cons save rest => exact loads_dump save.value

/-! ### What a process relies on -/

/-- What the others do: nothing to the disk of the owner, and the file does not vanish. -/
structure Rely (process : ℕ) (s t : Disk) : Prop where
  mine : s.holder = some process → t = s
  kept : t.file = none → s.file = none

theorem Rely.refl (process : ℕ) (disk : Disk) : Rely process disk disk := ⟨fun _ => rfl, id⟩

theorem Rely.trans {process : ℕ} {s t u : Disk} (first : Rely process s t)
    (second : Rely process t u) : Rely process s u := by
  refine ⟨fun mine => ?_, fun gone => first.kept (second.kept gone)⟩
  obtain rfl := first.mine mine
  exact second.mine mine

theorem Rely.release {p q : ℕ} (differs : q ≠ p) (disk : Disk) : Rely q disk (disk.release p) := by
  refine ⟨fun mine => ?_, id⟩
  have other : ¬ disk.holder = some p := by
    rw [mine]
    exact fun same => differs (Option.some.inj same)
  unfold Disk.release
  rw [if_neg other]

/-- The law of a process. -/
def law (initial : Option Lexemes) (process : ℕ) : Law State where
  rely s t := t.1 = s.1 ∧ Rely process s.2 t.2
  may s t := ∀ q, q ≠ process → Rely q s.2 t.2
  inv s := Kept initial s.2

/-- An assertion the others do not disturb. -/
def Stable (process : ℕ) (P : State → Prop) : Prop :=
  ∀ s t : State, t.1 = s.1 → Rely process s.2 t.2 → P s → P t

/-- An owner is not disturbed at all. -/
theorem stable_of_holder {process : ℕ} {P : State → Prop}
    (holder : ∀ s, P s → s.2.holder = some process) : Stable process P := by
  rintro ⟨own, disk⟩ ⟨own', disk'⟩ rfl others holds
  obtain rfl := others.mine (holder _ holds)
  exact holds

section Steps

variable {initial : Option Lexemes} {process : ℕ} {P : State → Prop} {s : State} {α : Type}

/-- A step, wherever it is taken. -/
theorem wp_step {x : Answer → Exec State PyError α} {Q : α → State → Prop}
    {X : PyError → State → Prop} (stable : Stable process P) (holds : P s)
    (moves : ∀ t, P t → Kept initial t.2 → ∀ answer, Exec.wp (x answer)
      (fun value u => Kept initial u.2 ∧ (∀ q, q ≠ process → Rely q t.2 u.2) ∧ Q value u)
      (fun e u => Kept initial u.2 ∧ (∀ q, q ≠ process → Rely q t.2 u.2) ∧ X e u) t) :
    wp (law initial process) (atomic x) Q X s := by
  rw [wp_atomic]
  rintro t ⟨same, others⟩ inv answer
  exact moves t (stable s t same others holds) inv answer

theorem wp_look {Q : State → State → Prop} {X : PyError → State → Prop} (stable : Stable process P)
    (holds : P s) (next : ∀ t, P t → Q t t) : wp (law initial process) look Q X s :=
  wp_step stable holds fun t holds kept _ => ⟨kept, fun q _ => Rely.refl q _, next t holds⟩

/-- A change of the process alone. -/
theorem wp_own {f : State → State} {Q : Unit → State → Prop} {X : PyError → State → Prop}
    (stable : Stable process P) (holds : P s) (same : ∀ t, (f t).2 = t.2)
    (next : ∀ t, P t → Kept initial t.2 → Q () (f t)) :
    wp (law initial process) (alter f) Q X s := by
  refine wp_step stable holds fun t holds kept _ => ?_
  have moved : ∀ q, q ≠ process → Rely q t.2 (f t).2 := fun q _ => by
    rw [same]
    exact Rely.refl q _
  exact ⟨(same t).symm ▸ kept, moved, next t holds kept⟩

theorem wp_call {Q : Unit → State → Prop} {X : PyError → State → Prop} (stable : Stable process P)
    (holds : P s) (next : ∀ t, P t → Q () t) (thrown : ∀ e t, P t → X e t) :
    wp (law initial process) call Q X s := by
  refine wp_step stable holds fun t holds kept answer => ?_
  cases answer.raises with
  | none => exact ⟨kept, fun q _ => Rely.refl q _, next t holds⟩
  | some e => exact ⟨kept, fun q _ => Rely.refl q _, thrown e t holds⟩

/-! ### Reading -/

/-- What was read is what the file holds. -/
def Reads (file : Option Lexemes) : Option Json → Prop
  | none => file = none
  | some data => ∃ text, file = some text ∧ loads text = .ok data

theorem wp_pathExists (stable : Stable process P) (holds : P s) :
    wp (law initial process) pathExists
      (fun there u => P u ∧ Kept initial u.2 ∧ there = u.2.file.isSome) (fun _ => P) s := by
  refine wp_step stable holds fun t holds kept answer => ?_
  cases answer.raises with
  | none => exact ⟨kept, fun q _ => Rely.refl q _, holds, kept, rfl⟩
  | some e => exact ⟨kept, fun q _ => Rely.refl q _, holds⟩

theorem wp_readSome (stable : Stable process P) (holds : P s) :
    wp (law initial process) readSome
      (fun data u => P u ∧ Kept initial u.2 ∧ Reads u.2.file data) (fun _ => P) s := by
  unfold readSome
  rw [wp_bind]
  refine wp_step stable holds fun t holds kept answer => ?_
  have still : ∀ q, q ≠ process → Rely q t.2 t.2 := fun q _ => Rely.refl q _
  cases answer.raises with
  | some e => exact ⟨kept, still, holds⟩
  | none =>
    show Exec.wp (Exec.read >>= _) _ _ t
    rw [Exec.wp_bind, Exec.wp_read]
    cases file : t.2.file with
    | none =>
      simp only [file]
      exact ⟨kept, still, holds⟩
    | some text =>
      simp only [file]
      cases read : loads text with
      | error e => exact ⟨kept, still, holds⟩
      | ok data => exact ⟨kept, still, holds, kept, text, file, read⟩

theorem wp_readData (stable : Stable process P) (holds : P s) :
    wp (law initial process) readData
      (fun data u => P u ∧ Kept initial u.2 ∧ Reads u.2.file data) (fun _ => P) s := by
  unfold readData
  rw [wp_bind]
  refine wp_mono (wp_pathExists stable holds) ?_ fun _ _ thrown => thrown
  rintro there u ⟨holds, kept, same⟩
  rw [wp_ite]
  refine ⟨fun _ => wp_readSome stable holds, fun absent => ⟨holds, kept, ?_⟩⟩
  rw [same] at absent
  exact Option.not_isSome_iff_eq_none.mp absent

/-! ### Saving -/

/-- Nothing but the stream and the temporary files changed. -/
structure Same (start s : State) : Prop where
  store : s.1.store = start.1.store
  started : s.1.started = start.1.started
  file : s.2.file = start.2.file
  saves : s.2.saves = start.2.saves
  holder : s.2.holder = start.2.holder

theorem Same.refl (s : State) : Same s s := ⟨rfl, rfl, rfl, rfl, rfl⟩

theorem Same.trans {s t u : State} (first : Same s t) (second : Same t u) : Same s u :=
  ⟨second.store.trans first.store, second.started.trans first.started,
    second.file.trans first.file, second.saves.trans first.saves,
    second.holder.trans first.holder⟩

/-- The holder of the lock may do what leaves the file and the lock alone. -/
theorem Same.kept {t u : State} (same : Same t u) (kept : Kept initial t.2) : Kept initial u.2 := by
  refine ⟨?_, ?_⟩
  · rw [same.file, same.saves]
    exact kept.file
  · rw [same.saves]
    exact kept.follows

theorem rely_of_holder {q : ℕ} {s t : Disk} (holder : s.holder = some process)
    (differs : q ≠ process) (kept : t.file = none → s.file = none) : Rely q s t :=
  ⟨fun mine => absurd (Option.some.inj (mine.symm.trans holder)) differs, kept⟩

/-- A step of an owner that leaves the file and the lock alone. -/
theorem wp_quiet {x : Answer → Exec State PyError α} {Q : α → State → Prop}
    {X : PyError → State → Prop} (holder : s.2.holder = some process)
    (moves : ∀ answer, Exec.wp (x answer) (fun value u => Same s u ∧ Q value u)
      (fun e u => Same s u ∧ X e u) s) : wp (law initial process) (atomic x) Q X s := by
  have stable : Stable process fun t => t = s := stable_of_holder fun t same => same ▸ holder
  refine wp_step stable rfl fun t same kept answer => ?_
  subst same
  have calm : ∀ u, Same t u → ∀ q, q ≠ process → Rely q t.2 u.2 := fun u same q differs =>
    rely_of_holder holder differs fun gone => same.file ▸ gone
  refine Exec.wp_mono (moves answer) ?_ ?_
  · rintro value u ⟨same, holds⟩
    exact ⟨same.kept kept, calm u same, holds⟩
  · rintro e u ⟨same, holds⟩
    exact ⟨same.kept kept, calm u same, holds⟩

/-- A call of an owner that may raise. -/
theorem wp_attempt {f : State → State} {Q : Unit → State → Prop} {X : PyError → State → Prop}
    (holder : s.2.holder = some process) (same : Same s (f s)) (next : Q () (f s))
    (thrown : ∀ e, X e s) : wp (law initial process) (attempt f) Q X s := by
  apply wp_quiet holder
  intro answer
  cases answer.raises with
  | none => exact ⟨same, next⟩
  | some e => exact ⟨Same.refl s, thrown e⟩

/-- The temporary file and the buffer of its stream hold this text. -/
structure Writing (start : State) (temporary : ℕ) (text : Lexemes) (s : State) : Prop
    extends Same start s where
  content : ∃ content, s.2.temporaries temporary = some content ∧ content ++ s.1.buffer = text

theorem same_drain (temporary count : ℕ) (s : State) : Same s (drain temporary count s) :=
  ⟨rfl, rfl, rfl, rfl, rfl⟩

theorem drained_content {temporary count : ℕ} {content : Lexemes}
    (there : s.2.temporaries temporary = some content) :
    (drain temporary count s).2.temporaries temporary =
      some (content ++ s.1.buffer.take count) := by
  show Function.update s.2.temporaries temporary _ temporary = _
  rw [Function.update_self, there]
  rfl

theorem Writing.drain {start : State} {temporary : ℕ} {text : Lexemes}
    (writing : Writing start temporary text s) (count : ℕ) :
    Writing start temporary text (drain temporary count s) := by
  obtain ⟨content, there, whole⟩ := writing.content
  refine ⟨writing.toSame.trans (same_drain temporary count s), _, drained_content there, ?_⟩
  show content ++ s.1.buffer.take count ++ s.1.buffer.drop count = text
  rw [List.append_assoc, List.take_append_drop, whole]

theorem Writing.push {start : State} {temporary : ℕ} {text : Lexemes}
    (writing : Writing start temporary text s) (lexeme : Lexeme) :
    Writing start temporary (text ++ [lexeme]) (push lexeme s) := by
  obtain ⟨content, there, whole⟩ := writing.content
  refine ⟨writing.toSame.trans ⟨rfl, rfl, rfl, rfl, rfl⟩, content, there, ?_⟩
  show content ++ (s.1.buffer ++ [lexeme]) = text ++ [lexeme]
  rw [← List.append_assoc, whole]

theorem wp_writeAll {start : State} (holder : start.2.holder = some process) {temporary : ℕ}
    {text : Lexemes} (rest : Lexemes) (writing : Writing start temporary text s) :
    wp (law initial process) (writeAll temporary rest)
      (fun _ => Writing start temporary (text ++ rest)) (fun _ => Same start) s := by
  induction rest generalizing text s with
  | nil =>
    rw [List.append_nil]
    exact writing
  | cons lexeme rest ih =>
    unfold writeAll
    rw [wp_bind]
    refine wp_quiet (writing.holder.trans holder) fun answer => ?_
    have written := (writing.push lexeme).drain answer.written
    have same : Same s (drain temporary answer.written (push lexeme s)) :=
      ⟨rfl, rfl, rfl, rfl, rfl⟩
    rw [Exec.wp_bind, Exec.wp_change]
    unfold raised
    cases answer.raises with
    | some e => exact ⟨same, written.toSame⟩
    | none =>
      refine ⟨same, ?_⟩
      have all : text ++ lexeme :: rest = text ++ [lexeme] ++ rest := by simp
      rw [all]
      exact ih written

/-- A flush that returns leaves nothing in the buffer. -/
theorem wp_flush {start : State} (holder : start.2.holder = some process) {temporary : ℕ}
    {text : Lexemes} (writing : Writing start temporary text s) :
    wp (law initial process) (flush temporary)
      (fun _ u => Writing start temporary text u ∧ u.1.buffer = []) (fun _ => Same start) s := by
  refine wp_quiet (writing.holder.trans holder) fun answer => ?_
  rw [Exec.wp_bind, Exec.wp_change]
  unfold raised
  cases answer.raises with
  | some e => exact ⟨same_drain _ _ s, (writing.drain _).toSame⟩
  | none => exact ⟨same_drain _ _ s, writing.drain _, List.drop_length⟩

theorem wp_flush_same {start : State} (holder : start.2.holder = some process) (temporary : ℕ)
    (same : Same start s) :
    wp (law initial process) (flush temporary) (fun _ => Same start) (fun _ => Same start) s := by
  refine wp_quiet (same.holder.trans holder) fun answer => ?_
  have drained := fun count => same.trans (same_drain temporary count s)
  rw [Exec.wp_bind, Exec.wp_change]
  unfold raised
  cases answer.raises with
  | some e => exact ⟨same_drain _ _ s, drained _⟩
  | none => exact ⟨same_drain _ _ s, drained _⟩

theorem wp_writeStream {start : State} (holder : start.2.holder = some process) {temporary : ℕ}
    (text : Lexemes) (writing : Writing start temporary [] s) :
    wp (law initial process) (writeStream temporary text)
      (fun _ => Writing start temporary text) (fun _ => Same start) s := by
  unfold writeStream
  rw [wp_bind]
  refine wp_mono (wp_writeAll holder text writing) (fun _ t writing => ?_) fun _ _ thrown => thrown
  rw [wp_bind]
  refine wp_mono (wp_flush holder writing) ?_ fun _ _ thrown => thrown
  rintro _ u ⟨writing, -⟩
  have mine : u.2.holder = some process := writing.holder.trans holder
  exact wp_attempt mine (Same.refl u) writing fun _ => writing.toSame

/-- The temporary file holds the whole text. -/
def Written (start : State) (temporary : ℕ) (text : Lexemes) (s : State) : Prop :=
  Same start s ∧ s.2.temporaries temporary = some text

theorem wp_withStream {start : State} (holder : start.2.holder = some process) {temporary : ℕ}
    (text : Lexemes) (same : Same start s) (there : s.2.temporaries temporary = some []) :
    wp (law initial process) (withStream temporary text)
      (fun _ => Written start temporary text) (fun _ => Same start) s := by
  have opened : Same s ({ s.1 with buffer := [] }, s.2) := ⟨rfl, rfl, rfl, rfl, rfl⟩
  have writing : Writing start temporary [] ({ s.1 with buffer := [] }, s.2) :=
    ⟨same.trans opened, [], there, rfl⟩
  unfold withStream
  rw [wp_bind]
  refine wp_attempt (same.holder.trans holder) opened ?_ fun _ => same
  rw [wp_ensure]
  refine wp_mono (wp_writeStream holder text writing) (fun _ t writing => ?_)
    fun _ t same => wp_flush_same holder temporary same
  refine wp_mono (wp_flush holder writing) ?_ fun _ _ thrown => thrown
  rintro _ u ⟨writing, empty⟩
  obtain ⟨content, there, whole⟩ := writing.content
  rw [empty, List.append_nil] at whole
  exact ⟨writing.toSame, whole ▸ there⟩

/-- The file is replaced. -/
def replaced (start : State) (save : Save) : State :=
  (start.1, { start.2 with file := some (dump save.value.value), saves := save :: start.2.saves })

/-- The save is complete. -/
def finished (start : State) (save : Save) : State := setData save.value (replaced start save)

theorem wp_replace {start : State} (holder : start.2.holder = some process) {save : Save}
    (follows : latest initial start.2.saves = .ok save.base) {temporary : ℕ}
    (written : Written start temporary (dump save.value.value) s) :
    wp (law initial process) (replace temporary save)
      (fun _ => Same (replaced start save)) (fun _ => Same start) s := by
  obtain ⟨same, there⟩ := written
  have mine : s.2.holder = some process := same.holder.trans holder
  have stable : Stable process fun t => t = s := stable_of_holder fun t equal => equal ▸ mine
  refine wp_step stable rfl fun t equal kept answer => ?_
  subst equal
  cases answer.raises with
  | some e => exact ⟨kept, fun q _ => Rely.refl q _, same⟩
  | none =>
    show Exec.wp (Exec.read >>= _) _ _ t
    rw [Exec.wp_bind, Exec.wp_read]
    simp only [there, Exec.wp_change]
    refine ⟨⟨rfl, ?_, kept.follows⟩, fun q differs => ?_, ?_⟩
    · rw [Follows, same.saves]
      exact follows
    · exact rely_of_holder mine differs fun gone => by cases gone
    · exact ⟨same.store, same.started, rfl, congrArg (List.cons save) same.saves, same.holder⟩

theorem wp_persist {start : State} (holder : start.2.holder = some process) {save : Save}
    (follows : latest initial start.2.saves = .ok save.base) {temporary : ℕ}
    (same : Same start s) (there : s.2.temporaries temporary = some []) :
    wp (law initial process) (persist temporary save)
      (fun _ => Same (finished start save)) (fun _ => Same start) s := by
  unfold persist
  rw [wp_bind]
  refine wp_mono (wp_withStream holder _ same there) (fun _ t written => ?_)
    fun _ _ thrown => thrown
  rw [wp_bind]
  refine wp_mono (wp_replace holder follows written) (fun _ u done => ?_) fun _ _ thrown => thrown
  refine wp_own (P := fun t => t = u) (stable_of_holder fun t equal => ?_) rfl (fun _ => rfl) ?_
  · rw [equal, done.holder]
    exact holder
  · rintro t rfl -
    refine ⟨?_, done.started, done.file, done.saves, done.holder⟩
    exact congrArg (Option.map _) done.store

/-- The temporary file is removed, if it is still there. -/
theorem wp_cleanUp {start : State} (holder : start.2.holder = some process) (temporary : ℕ)
    (same : Same start s) :
    wp (law initial process) (cleanUp temporary) (fun _ => Same start) (fun _ => Same start) s := by
  unfold cleanUp
  rw [wp_bind]
  refine wp_quiet (same.holder.trans holder) fun _ => ?_
  refine ⟨Same.refl s, ?_⟩
  rw [wp_ite]
  refine ⟨fun _ => ?_, fun _ => same⟩
  have removed : Same s (s.1, s.2.setTemporary temporary none) := ⟨rfl, rfl, rfl, rfl, rfl⟩
  exact wp_attempt (same.holder.trans holder) removed (same.trans removed) fun _ => same

/-- A temporary file is created, and nothing is in it. -/
theorem wp_mkstemp (holder : s.2.holder = some process) :
    wp (law initial process) mkstemp
      (fun temporary t => Same s t ∧ t.2.temporaries temporary = some []) (fun _ => Same s) s := by
  apply wp_quiet holder
  intro answer
  cases answer.raises with
  | some e => exact ⟨Same.refl s, Same.refl s⟩
  | none =>
    show Exec.wp (Exec.read >>= _) _ _ s
    rw [Exec.wp_bind, Exec.wp_read]
    cases taken : s.2.temporaries answer.name with
    | some text =>
      simp only [taken]
      exact ⟨Same.refl s, Same.refl s⟩
    | none =>
      simp only [taken]
      have created : Same s (s.1, s.2.setTemporary answer.name (some [])) :=
        ⟨rfl, rfl, rfl, rfl, rfl⟩
      exact ⟨created, created, Function.update_self _ _ _⟩

/-- **A save** of an owner ends complete, or it raises and is complete or touched nothing. -/
theorem wp_saveValue (holder : s.2.holder = some process) {save : Save}
    (follows : latest initial s.2.saves = .ok save.base) :
    wp (law initial process) (saveValue save) (fun _ => Same (finished s save))
      (fun _ u => Same s u ∨ Same (finished s save) u) s := by
  have complete : (finished s save).2.holder = some process := holder
  unfold saveValue
  rw [wp_bind]
  refine wp_attempt holder (Same.refl s) ?_ fun _ => Or.inl (Same.refl s)
  rw [wp_bind]
  refine wp_mono (wp_mkstemp holder) ?_ fun _ _ same => Or.inl same
  rintro temporary t ⟨same, there⟩
  rw [wp_ensure]
  refine wp_mono (wp_persist holder follows same there) (fun _ u done => ?_) fun _ u same => ?_
  · exact wp_mono (wp_cleanUp complete temporary done) (fun _ _ same => same)
      fun _ _ same => Or.inr same
  · exact wp_mono (wp_cleanUp holder temporary same) (fun _ _ same => Or.inl same)
      fun _ _ same => Or.inl same

/-! ### The owners -/

/-- What was read before there was a file is `{}`. -/
def Blank (s : State) : Prop :=
  ∀ store, s.1.store = some store → s.2.file = none → store.data = .empty

/-- The process holds the lock, and its store holds the last value. -/
def Owns (initial : Option Lexemes) (process : ℕ) (s : State) : Prop :=
  s.2.holder = some process ∧
    ∃ store, s.1.store = some store ∧ latest initial s.2.saves = .ok store.data

/-- **What a process knows between two calls.** -/
structure Idle (initial : Option Lexemes) (process : ℕ) (s : State) : Prop where
  blank : Blank s
  owns : s.1.started = true → Owns initial process s

theorem stable_blank : Stable process Blank := by
  rintro ⟨own, disk⟩ ⟨own', disk'⟩ rfl others blank store found gone
  exact blank store found (others.kept gone)

theorem stable_idle : Stable process (Idle initial process) := by
  rintro ⟨own, disk⟩ ⟨own', disk'⟩ rfl others idle
  have blank : Blank (own', disk') := fun store found gone =>
    idle.blank store found (others.kept gone)
  refine ⟨blank, fun started => ?_⟩
  have owns := idle.owns started
  obtain rfl := others.mine owns.1
  exact owns

theorem Same.idle {start : State} (same : Same start s) (idle : Idle initial process start) :
    Idle initial process s := by
  refine ⟨fun store found gone => ?_, fun started => ?_⟩
  · rw [same.store] at found
    rw [same.file] at gone
    exact idle.blank store found gone
  · rw [same.started] at started
    obtain ⟨holder, store, found, last⟩ := idle.owns started
    refine ⟨same.holder.trans holder, store, same.store.trans found, ?_⟩
    rw [same.saves]
    exact last

theorem idle_finished {save : Save} (holder : s.2.holder = some process) {store : TokenStore}
    (found : s.1.store = some store) : Idle initial process (finished s save) := by
  have blank : Blank (finished s save) := fun _ _ gone => by cases gone
  refine ⟨blank, fun _ => ⟨holder, { store with data := save.value }, ?_, rfl⟩⟩
  show s.1.store.map _ = _
  rw [found]
  rfl

theorem wp_update (change : Json → Json) (idle : Idle initial process s) :
    wp (law initial process) (update process change) (fun _ => Idle initial process)
      (fun _ => Idle initial process) s := by
  unfold update
  rw [wp_bind]
  refine wp_look stable_idle idle fun t idle => ?_
  obtain ⟨⟨found, started, buffer⟩, disk⟩ := t
  cases found with
  | none => exact idle
  | some store =>
    show wp _ (if started = true then _ else _) _ _ _
    rw [wp_ite]
    refine ⟨fun begun => ?_, fun _ => idle⟩
    obtain ⟨holder, _, ⟨⟩, last⟩ := idle.owns begun
    refine wp_mono (wp_saveValue holder last) (fun _ u same => ?_) fun _ u same => ?_
    · exact same.idle (idle_finished holder rfl)
    · cases same with
      | inl same => exact same.idle idle
      | inr same => exact same.idle (idle_finished holder rfl)

/-- The process has built its store, and not started. -/
structure Built (s : State) : Prop where
  blank : Blank s
  idle : s.1.started = false
  store : s.1.store.isSome = true

theorem stable_built : Stable process Built := fun s t same others built =>
  ⟨stable_blank s t same others built.blank, same ▸ built.idle, same ▸ built.store⟩

theorem idle_of_waiting (blank : Blank s) (waiting : s.1.started = false) :
    Idle initial process s :=
  ⟨blank, fun started => by rw [waiting] at started; cases started⟩

theorem Blank.setLocked (blank : Blank s) (locked : Bool) : Blank (setLocked locked s) := by
  intro store found gone
  obtain ⟨before, there, rfl⟩ := Option.map_eq_some_iff.mp found
  exact blank before there gone

theorem Blank.closeLock (blank : Blank s) (process : ℕ) : Blank (closeLock process s) := by
  unfold Store.closeLock
  by_cases locked : s.1.store.any TokenStore.locked = true
  · rw [if_pos locked]
    exact blank
  · rwa [if_neg locked]

/-- Closing a lock file is a step that every other process may rely on. -/
theorem closeLock_spec (process : ℕ) (kept : Kept initial s.2) :
    Kept initial (closeLock process s).2 ∧
      (∀ q, q ≠ process → Rely q s.2 (closeLock process s).2) ∧
      (closeLock process s).1 = s.1 := by
  unfold closeLock
  by_cases locked : s.1.store.any TokenStore.locked = true
  · rw [if_pos locked]
    exact ⟨⟨kept.file, kept.follows⟩, fun q differs => Rely.release differs s.2, rfl⟩
  · rw [if_neg locked]
    exact ⟨kept, fun q _ => Rely.refl q _, rfl⟩

theorem wp_openLock (built : Built s) :
    wp (law initial process) (attempt (openLock process)) (fun _ => Built) (fun _ => Built) s := by
  refine wp_step stable_built built fun t built kept answer => ?_
  obtain ⟨closed, others, own⟩ := closeLock_spec process kept
  cases answer.raises with
  | some e => exact ⟨kept, fun q _ => Rely.refl q _, built⟩
  | none =>
    have same : (closeLock process t).1.store.isSome = true := own ▸ built.store
    refine ⟨closed, others, (built.blank.closeLock process).setLocked true, ?_, ?_⟩
    · exact (congrArg Owner.started own).trans built.idle
    · exact Option.isSome_map.trans same

/-- The process holds the lock, and has not read the file again. -/
def Holds (process : ℕ) (s : State) : Prop := Built s ∧ s.2.holder = some process

theorem stable_holds : Stable process (Holds process) := stable_of_holder fun _ holds => holds.2

theorem wp_tryLock (built : Built s) :
    wp (law initial process) (tryLock process) (fun _ => Holds process) (fun _ => Built) s := by
  refine wp_step stable_built built fun t built kept answer => ?_
  cases answer.raises with
  | some e => exact ⟨kept, fun q _ => Rely.refl q _, built⟩
  | none =>
    show Exec.wp (Exec.read >>= _) _ _ t
    rw [Exec.wp_bind, Exec.wp_read]
    cases free : t.2.holder with
    | some other =>
      simp only [free]
      exact ⟨kept, fun q _ => Rely.refl q _, built⟩
    | none =>
      simp only [free]
      refine ⟨⟨kept.file, kept.follows⟩, fun q _ => ⟨fun mine => ?_, id⟩,
        ⟨built.blank, built.idle, built.store⟩, rfl⟩
      rw [free] at mine
      cases mine

theorem wp_lock (built : Built s) :
    wp (law initial process) (lock process) (fun _ => Holds process) (fun _ => Built) s := by
  unfold lock
  rw [wp_handle]
  refine wp_mono (wp_tryLock built) (fun _ _ holds => holds) fun e t built => ?_
  by_cases refused : e = .os
  · simp only [if_pos refused]
    unfold refuse
    rw [wp_bind]
    exact wp_own stable_built built (fun _ => rfl) fun u built _ =>
      ⟨built.blank.setLocked false, built.idle, Option.isSome_map.trans built.store⟩
  · simp only [if_neg refused]
    exact built

/-- What an owner reads is the last value. -/
theorem Holds.owns (holds : Holds process s) (kept : Kept initial s.2) {data : Option Json}
    (reads : Reads s.2.file data) :
    wp (law initial process) (takeData data)
      (fun _ t => Owns initial process t ∧ Blank t) (fun _ => Built) s := by
  obtain ⟨store, found⟩ := Option.isSome_iff_exists.mp holds.1.store
  have last : latest initial s.2.saves = parsed s.2.file := by
    rw [kept.file, parsed_contents]
  cases data with
  | none =>
    have gone : s.2.file = none := reads
    refine ⟨⟨holds.2, store, found, ?_⟩, holds.1.blank⟩
    rw [last, gone, holds.1.blank store found gone]
    rfl
  | some data =>
    obtain ⟨text, there, read⟩ := reads
    refine wp_own (P := fun t => t = s) (stable_of_holder fun t same => same ▸ holds.2) rfl
      (fun _ => rfl) ?_
    rintro t rfl -
    refine ⟨⟨holds.2, { store with data := data }, ?_, ?_⟩, fun _ _ gone => ?_⟩
    · show t.1.store.map _ = _
      rw [found]
      rfl
    · show latest initial t.2.saves = _
      rw [last, there]
      exact read
    · exact absurd (there.symm.trans gone) nofun

theorem wp_acquire (built : Built s) :
    wp (law initial process) (acquire process)
      (fun _ t => Owns initial process t ∧ Blank t) (fun _ => Built) s := by
  unfold acquire
  rw [wp_bind]
  refine wp_call stable_built built (fun t built => ?_) fun _ _ built => built
  rw [wp_bind]
  refine wp_mono (wp_openLock built) (fun _ u built => ?_) fun _ _ built => built
  rw [wp_bind]
  refine wp_mono (wp_lock built) (fun _ v holds => ?_) fun _ _ built => built
  rw [wp_bind]
  refine wp_mono (wp_readData stable_holds holds) ?_ fun _ _ holds => holds.1
  rintro data w ⟨holds, kept, reads⟩
  exact holds.owns kept reads

theorem wp_start (idle : Idle initial process s) :
    wp (law initial process) (start process) (fun _ => Idle initial process)
      (fun _ => Idle initial process) s := by
  unfold start
  rw [wp_bind]
  refine wp_look stable_idle idle fun t idle => ?_
  obtain ⟨own, disk⟩ := t
  show wp _ (if _ then _ else _) _ _ _
  rw [wp_ite]
  refine ⟨fun _ => idle, fun waits => ?_⟩
  rw [Bool.not_eq_true, Bool.or_eq_false_iff, Option.isNone_eq_false_iff] at waits
  unfold acquireThenStart
  rw [wp_bind]
  refine wp_mono (wp_acquire ⟨idle.blank, waits.1, waits.2⟩) ?_ fun _ u built =>
    idle_of_waiting built.blank built.idle
  rintro _ u ⟨owns, blank⟩
  refine wp_own (P := fun v => v = u) (stable_of_holder fun v same => same ▸ owns.1) rfl
    (fun _ => rfl) ?_
  rintro v rfl -
  exact ⟨blank, fun _ => owns⟩

theorem wp_close (idle : Idle initial process s) :
    wp (law initial process) (close process) (fun _ => Idle initial process)
      (fun _ => Idle initial process) s := by
  unfold close
  rw [wp_bind]
  refine wp_step stable_blank idle.blank fun t blank kept _ => ?_
  obtain ⟨closed, others, -⟩ := closeLock_spec process kept
  refine ⟨closed, others, ?_⟩
  refine wp_own stable_blank ((blank.closeLock process).setLocked false) (fun _ => rfl) ?_
  exact fun u blank _ => idle_of_waiting blank rfl

/-- The process has not built its store. -/
def Bare (s : State) : Prop := s.1.store = none ∧ s.1.started = false

theorem Bare.idle (bare : Bare s) : Idle initial process s :=
  idle_of_waiting (fun store found => by rw [bare.1] at found; cases found) bare.2

theorem stable_bare : Stable process Bare := fun _ _ same _ bare => ⟨same ▸ bare.1, same ▸ bare.2⟩

theorem wp_construct (bare : Bare s) :
    wp (law initial process) construct (fun _ => Idle initial process)
      (fun _ => Idle initial process) s := by
  unfold construct
  rw [wp_bind]
  refine wp_mono (wp_readData stable_bare bare) ?_ fun _ _ bare => bare.idle
  rintro data t ⟨bare, -, reads⟩
  have stable : Stable process fun u => Bare u ∧ (u.2.file = none → data = none) := by
    rintro u v same others ⟨bare, seen⟩
    exact ⟨stable_bare u v same others bare, fun gone => seen (others.kept gone)⟩
  refine wp_own stable ⟨bare, fun gone => ?_⟩ (fun _ => rfl) ?_
  · cases data with
    | none => rfl
    | some data =>
      obtain ⟨text, there, -⟩ := reads
      exact absurd (there.symm.trans gone) nofun
  · rintro u ⟨bare, seen⟩ -
    refine idle_of_waiting (fun store found gone => ?_) bare.2
    obtain rfl := Option.some.inj found
    show data.getD .empty = .empty
    rw [seen gone]
    rfl

theorem wp_build (idle : Idle initial process s) :
    wp (law initial process) build (fun _ => Idle initial process)
      (fun _ => Idle initial process) s := by
  unfold build
  rw [wp_bind]
  refine wp_look stable_idle idle fun t idle => ?_
  obtain ⟨own, disk⟩ := t
  show wp _ (if _ then _ else _) _ _ _
  rw [wp_ite]
  refine ⟨fun _ => idle, fun absent => wp_construct ?_⟩
  have bare : own.store = none := Option.not_isSome_iff_eq_none.mp absent
  refine ⟨bare, ?_⟩
  rw [← Bool.not_eq_true]
  intro started
  obtain ⟨-, store, found, -⟩ := idle.owns started
  exact absurd (bare.symm.trans found) nofun

end Steps

/-! ### The processes together -/

/-- **The processes of one file keep out of each other's way.** -/
def discipline (initial : Option Lexemes) : Discipline service where
  rely := Rely
  inv := Kept initial
  idle := Idle initial
  rely_refl := Rely.refl
  rely_trans := Rely.trans
  idle_stable := fun {_ own s t} others idle => stable_idle (own, s) (own, t) rfl others idle
  launch := fun _ _ => Bare.idle ⟨rfl, rfl⟩
  call := fun program idle => by
    cases program with
    | build => exact wp_build idle
    | start => exact wp_start idle
    | update change => exact wp_update change idle
    | close => exact wp_close idle
  crash := fun p kept => ⟨⟨kept.file, kept.follows⟩, fun _ differs => Rely.release differs _⟩
  world := fun event => event.elim

theorem stable_same {p : ℕ} {start : State} (holder : start.2.holder = some p) :
    Stable p (Same start) :=
  stable_of_holder fun _ same => same.holder.trans holder

/-- A call of `save` that is over: it is complete, or it raised and left everything as it was. -/
theorem ended_update {initial : Option Lexemes} {fleet : Fleet ℕ Answer Owner Disk PyError}
    (orderly : (discipline initial).Orderly fleet) {p : ℕ} {own : Owner} {store : TokenStore}
    {result : Except PyError Unit} (waits : fleet.processes p = some (own, .done result))
    (found : own.store = some store) (started : own.started = true) (change : Json → Json)
    {rest : List (Move ℕ Call Empty Answer)} (spared : ∀ move ∈ rest, move.spares p) :
    (discipline initial).Ends p
      (fun _ => Same (finished (own, fleet.shared) ⟨p, store.data, change⟩))
      (fun _ u => Same (own, fleet.shared) u ∨
        Same (finished (own, fleet.shared) ⟨p, store.data, change⟩) u)
      ((Move.call p (.update change) :: rest).foldl service.move fleet) := by
  have idle : Idle initial p (own, fleet.shared) := (orderly.follows p _ waits).idle
  obtain ⟨holder, _, same, last⟩ := idle.owns started
  obtain rfl := Option.some.inj (found.symm.trans same)
  have before : Stable p (Same (own, fleet.shared)) := stable_same holder
  have after : Stable p (Same (finished (own, fleet.shared) ⟨p, store.data, change⟩)) :=
    stable_same holder
  refine (orderly.move (.call p (.update change))).ends_run ?_ ?_ ?_ spared
  · rintro _ s t ⟨own, others⟩ same
    exact after s t own others same
  · rintro _ s t ⟨own, others⟩ same
    exact same.imp (before s t own others) (after s t own others)
  · refine ⟨(own, update p change), ?_, ?_⟩
    · show (service.called fleet p (.update change)).processes p = _
      unfold Service.called
      rw [waits]
      exact Function.update_self _ _ _
    · have shared : (service.called fleet p (.update change)).shared = fleet.shared := by
        unfold Service.called
        rw [waits]
        rfl
      show wp (law initial p) (update p change) _ _
        (own, (service.called fleet p (.update change)).shared)
      rw [shared]
      unfold update
      rw [wp_bind]
      refine wp_look (P := fun t => t = (own, fleet.shared))
        (stable_of_holder fun t same => same ▸ holder) rfl fun t equal => ?_
      subst equal
      simp only [found, started, if_true]
      exact wp_saveValue holder last

/-- The file was not replaced: the disk and the store are as they were. -/
def Untouched (before : Disk) (store : TokenStore) (after : Disk) (found : Option TokenStore) :
    Prop :=
  after.saves = before.saves ∧ after.file = before.file ∧ found = some store

/-- The file was replaced, and so was the data of the store. -/
def Complete (before : Disk) (store : TokenStore) (save : Save) (after : Disk)
    (found : Option TokenStore) : Prop :=
  after.saves = save :: before.saves ∧ after.file = some (dump save.value.value) ∧
    found = some { store with data := save.value }

/-- How a call of `save` leaves the disk and the store. -/
def Outcome (before : Disk) (store : TokenStore) (save : Save) (after : Disk)
    (found : Option TokenStore) : Except PyError Unit → Prop
  | .error _ => Untouched before store after found ∨ Complete before store save after found
  | .ok () => Complete before store save after found

theorem Same.complete {own after : Owner} {before disk : Disk} {store : TokenStore} {save : Save}
    (found : own.store = some store) (same : Same (finished (own, before) save) (after, disk)) :
    Complete before store save disk after.store := by
  refine ⟨same.saves, same.file, same.store.trans ?_⟩
  show own.store.map _ = _
  rw [found]
  rfl

/-- **No update is lost.** In every run every value is computed from the one saved last, and the
file, once written, parses as the one saved last. A call of `save`, whatever the others do
meanwhile, keeps the file and the data of its store together. -/
theorem no_update_lost (initial : Option Lexemes) (left : ℕ → Option Lexemes)
    (moves : List (Move ℕ Call Empty Answer)) :
    Throughout (Follows initial) (run initial left moves).shared.saves ∧
      ((run initial left moves).shared.saves = [] →
        (run initial left moves).shared.file = initial) ∧
      (∀ save earlier, (run initial left moves).shared.saves = save :: earlier →
        ∃ text, (run initial left moves).shared.file = some text ∧
          loads text = .ok save.value) ∧
      ∀ p own store result, (run initial left moves).processes p = some (own, .done result) →
        own.store = some store → own.started = true →
        ∀ (change : Json → Json) (rest : List (Move ℕ Call Empty Answer)),
          (∀ move ∈ rest, move.spares p) → ∀ after ended,
          (run initial left (moves ++ .call p (.update change) :: rest)).processes p =
              some (after, .done ended) →
            Outcome (run initial left moves).shared store ⟨p, store.data, change⟩
              (run initial left (moves ++ .call p (.update change) :: rest)).shared
              after.store ended := by
  have start : Kept initial ⟨initial, left, none, []⟩ := ⟨rfl, trivial⟩
  have orderly : (discipline initial).Orderly (run initial left moves) :=
    (discipline initial).orderly start moves
  have kept : Kept initial (run initial left moves).shared := orderly.inv
  refine ⟨kept.follows, fun none => ?_, fun save earlier saved => ?_, ?_⟩
  · rw [kept.file, none]
    rfl
  · refine ⟨dump save.value.value, ?_, loads_dump save.value⟩
    rw [kept.file, saved]
    rfl
  · intro p own store result waits found started change rest spared after ended gone
    have whole : run initial left (moves ++ .call p (.update change) :: rest) =
        (Move.call p (.update change) :: rest).foldl service.move (run initial left moves) :=
      List.foldl_append
    rw [whole] at gone ⊢
    obtain ⟨process, living, spec⟩ := ended_update orderly waits found started change spared
    obtain rfl := Option.some.inj (living.symm.trans gone)
    cases ended with
    | error e =>
      cases spec with
      | inl same => exact Or.inl ⟨same.saves, same.file, same.store.trans found⟩
      | inr same => exact Or.inr (same.complete found)
    | ok ended => exact Same.complete found spec

end DbusEv.Store
