/-
**A poll of the evcc client is total and all-or-nothing**, exactly when its reply can be digested.

* `Counted` — the saved failure count is a number, in every run.
* `Takes`, `stopsEngine` — the replies the client can take, and those that make it stop its engine.
* `AllOrNothing` — a candidate with a state of charge replaced the reading, or one failure was
  recorded.
* `poll_total_iff` — an admitted poll returns, all or nothing, exactly when the reply can be taken
  and an engine that has to be stopped can be closed.
* `long_odometer_raises` — an odometer beyond the doubles escapes the poll.
-/

import DbusEv.Normalize
import DbusEv.Providers.Answered
import DbusEv.Providers.Upstream

set_option autoImplicit false
set_option linter.unusedSectionVars false

namespace DbusEv.Evcc

open Thread

/-! ### The failure count -/

/-- The saved failure count is a number. -/
def Counted (data : Dict PyValue) : Prop := ∃ failures, Counts data failures

/-- The data of a client and of the state file are counted. -/
def Sound (s : State) : Prop := Counted s.1.data ∧ ∀ data ∈ s.2.file, Counted data

theorem counted_nil : Counted [] := ⟨0, rfl, le_rfl⟩

/-- Changes that leave the count alone. -/
theorem Counted.same {data changes : Dict PyValue} (counted : Counted data)
    (other : (data.update changes).get "failures" = data.get "failures") :
    Counted (data.update changes) := by
  obtain ⟨failures, count, nonneg⟩ := counted
  exact ⟨failures, by rw [other, count], nonneg⟩

/-- Changes that save a count. -/
theorem counted_update {data changes : Dict PyValue} {failures : ℤ} (nonneg : 0 ≤ failures)
    (saved : (data.update changes).get "failures" = some (.int failures)) :
    Counted (data.update changes) := ⟨failures, by rw [saved]; rfl, nonneg⟩

section Steps

variable {α : Type}

theorem keeps_look {f : State → Program α} (next : ∀ s, Sound s → Keeps Sound (f s)) :
    Keeps Sound (look >>= f) := keeps_read next

theorem keeps_alter {f : State → State} (kept : ∀ s, Sound s → Sound (f s)) :
    Keeps Sound (alter f) := keeps_atomic fun _ s sound => kept s sound

theorem keeps_attempt {raises : Answer → Option PyError} {f : State → State}
    (kept : ∀ s, Sound s → Sound (f s)) : Keeps Sound (attempt raises f) := by
  refine keeps_atomic fun answer s sound => ?_
  rcases raises answer with _ | e
  · exact kept s sound
  · exact sound

theorem keeps_save {changes : Dict PyValue}
    (counted : ∀ data, Counted data → Counted (Dict.update data changes)) :
    Keeps Sound (save changes) := by
  refine keeps_attempt fun s sound => ?_
  have saved := counted s.1.data sound.1
  refine ⟨saved, ?_⟩
  rintro data ⟨⟩
  exact saved

theorem keeps_saveReading {changes : Dict PyValue}
    (counted : ∀ data, Counted data → Counted (Dict.update data changes)) :
    Keeps Sound (saveReading changes) := by
  refine keeps_atomic fun answer s sound => ?_
  rcases answer.saves with _ | e
  · have saved := counted s.1.data sound.1
    refine ⟨saved, ?_⟩
    rintro data ⟨⟩
    exact saved
  · exact sound

theorem keeps_acquire (process : ℕ) : Keeps Sound (acquire process) := by
  unfold acquire
  refine keeps_bind (keeps_attempt fun s sound => sound) fun _ => ?_
  refine keeps_bind ?_ fun _ => keeps_attempt fun s sound => ?_
  · refine keeps_atomic fun _ s sound => ?_
    rcases held : s.2.holder with _ | other
    · exact Exec.keeps_read (by simp only [held]; exact sound)
    · exact Exec.keeps_read (by simp only [held]; exact sound)
  · unfold reload
    rcases filed : s.2.file with _ | data
    · exact sound
    · exact ⟨sound.2 data filed, sound.2⟩

theorem keeps_start (process : ℕ) : Keeps Sound (start process) := by
  unfold start
  refine keeps_look fun s _ => keeps_ite (fun _ => keeps_pure ()) fun _ => ?_
  exact keeps_bind (keeps_acquire process) fun _ => keeps_alter fun s sound => sound

theorem keeps_stopEngine (guarded : Bool) : Keeps Sound (stopEngine guarded) := by
  unfold stopEngine
  refine keeps_look fun s _ => keeps_ite (fun _ => ?_) fun _ => keeps_pure ()
  refine keeps_atomic fun answer s sound => ?_
  rcases answer.closes with _ | e <;> exact sound

theorem keeps_ensureEngine (process : ℕ) (now : ℚ) : Keeps Sound (ensureEngine process now) := by
  unfold ensureEngine
  refine keeps_look fun s _ => keeps_ite (fun _ => keeps_pure ()) fun _ => ?_
  refine keeps_atomic fun answer s sound => ?_
  refine Exec.keeps_bind (Exec.keeps_change sound) fun _ t sound => ?_
  rcases answer.builds with _ | e <;> exact sound

theorem keeps_askEngine (process : ℕ) (now : ℚ) : Keeps Sound (askEngine process now) := by
  refine keeps_atomic fun answer s sound => ?_
  refine Exec.keeps_bind (Exec.keeps_change sound) fun _ t sound => ?_
  rcases answer.reply with e | reply <;> exact sound

theorem keeps_ofExcept {β : Type} {value : Except PyError α} {f : α → Program β}
    (next : ∀ found, value = .ok found → Keeps Sound (f found)) :
    Keeps Sound (ofExcept value >>= f) := by
  rcases value with e | found
  · exact keeps_raise e
  · exact next found rfl

variable [PyText]

theorem keeps_failure (config : Config) (guarded : Bool) (response : Dict PyValue) :
    Keeps Sound (failure config guarded response) := by
  unfold failure
  refine keeps_look ?_
  rintro ⟨client, host⟩ sound
  obtain ⟨failures, counts⟩ := sound.1
  have nonneg : 0 ≤ min 5 (failures + 1) := le_min (by norm_num) (by linarith [counts.2])
  show Keeps Sound (ofExcept (failureCount client.data) >>= _)
  rw [failureCount_eq counts]
  refine keeps_ofExcept fun found same => ?_
  obtain rfl := Except.ok.inj same
  refine keeps_ofExcept fun retryAfter _ => ?_
  refine keeps_look fun t _ => ?_
  refine keeps_bind (keeps_save fun data _ => counted_update nonneg ?_) fun _ => ?_
  · simp [Dict.update]
  · exact keeps_ite (fun _ => keeps_stopEngine guarded) fun _ => keeps_pure ()

theorem keeps_takeReading (config : Config) (startedAt now : ℚ) (data : Dict PyValue) :
    Keeps Sound (takeReading config startedAt now data) := by
  unfold takeReading
  refine keeps_ofExcept fun candidate _ => ?_
  rcases candidate.soc with _ | soc
  · exact keeps_raise _
  · refine keeps_bind (keeps_alter fun s sound => sound) fun _ => keeps_look fun s _ => ?_
    refine keeps_saveReading fun data _ => counted_update le_rfl ?_
    simp [Dict.update]

theorem keeps_pollEngine (config : Config) (process : ℕ) (now : ℚ) :
    Keeps Sound (pollEngine config process now) := by
  unfold pollEngine reserveLogin
  refine keeps_bind (keeps_save fun data counted => counted.same (by simp [Dict.update]))
    fun _ => ?_
  refine keeps_bind (keeps_look fun s _ => keeps_ite (fun _ => keeps_pure ()) fun _ => ?_)
    fun _ => ?_
  · exact keeps_save fun data counted => counted.same (by simp [Dict.update])
  · refine keeps_look fun s _ => keeps_handle ?_ fun e recover handled => ?_
    · unfold useEngine
      refine keeps_bind (keeps_ensureEngine process now) fun _ => ?_
      refine keeps_bind (keeps_askEngine process now) fun response => ?_
      unfold takeReply
      rcases readingOf response with _ | data
      · exact keeps_failure config true response
      · exact keeps_takeReading config _ now data
    · unfold engineFailed at handled
      split at handled
      · cases handled
        exact keeps_bind (keeps_stopEngine false) fun _ => keeps_failure config false _
      · cases handled

theorem keeps_poll (config : Config) (process : ℕ) :
    Keeps Sound (poll config process >>= fun _ => (pure () : Program Unit)) := by
  refine keeps_bind ?_ fun _ => keeps_pure ()
  unfold poll
  refine keeps_bind (keeps_start process) fun _ => keeps_look ?_
  rintro ⟨client, host⟩ -
  refine keeps_ofExcept fun admitted _ => ?_
  refine keeps_bind (keeps_ite (fun _ => keeps_pollEngine config process _)
    fun _ => keeps_pure ()) fun _ => ?_
  exact keeps_look fun t _ => keeps_pure _

/-- **In every run** the failure counts are numbers, of the state file and of every client. -/
theorem counted_run (config : ℕ → Config) (clock : Clock) {file : Option (Dict PyValue)}
    (counted : ∀ data ∈ file, Counted data) (moves : List (Move ℕ Call Passing Answer)) :
    ((service config).run ⟨clock, file, none, []⟩ moves).Sound
      (fun client => Counted client.data) (fun host => ∀ data ∈ host.file, Counted data) := by
  refine Service.always (service config) (fun process host filed => ?_) (fun process called => ?_)
    (fun _ _ filed => filed) (fun _ _ filed => filed) counted moves
  · show Counted (host.file.getD [])
    rcases found : host.file with _ | data
    · exact counted_nil
    · exact filed data found
  · cases called with
    | poll => exact keeps_poll (config process) process
    | close =>
      exact keeps_bind (keeps_stopEngine false) fun _ => keeps_alter fun s sound => sound

end Steps

/-! ### The outcome of a poll -/

/-- The client can take the reply: what it converts of it is digestible. -/
def Takes (config : Config) (response : Dict PyValue) : Prop :=
  match readingOf response with
  | some data => Digestible data config.capacity config.home
  | none => isConvertible (reported response "retry_after") = true

/-- The reply makes the client stop its engine: a reading without a state of charge, or one of the
errors an engine does not survive. -/
def stopsEngine (response : Dict PyValue) : Bool :=
  match readingOf response with
  | some data => !isNumber percentage (reported data "soc")
  | none => stopsAfter response

/-- A candidate with a state of charge replaced the reading. -/
def TookReading (config : Config) (response : Dict PyValue) (s : State) (client : EvccClient) :
    Prop :=
  ∃ data candidate soc, readingOf response = some data ∧
    normalize data config.vin config.capacity config.home = .ok candidate ∧
      candidate.soc = some soc ∧ percentage.admit soc = true ∧ Replaced candidate s client

/-- One failure was recorded, with the delay the reply asked for if it is an error. -/
def TookFailure (config : Config) (response : Dict PyValue) (s : State) (client : EvccClient) :
    Prop :=
  ∃ count retryAfter, Counts s.1.data count ∧
    (retryAfter = none ∨ numberAt response "retry_after" atLeastZero = .ok retryAfter) ∧
      Recorded config retryAfter count s client

/-- All or nothing. -/
def AllOrNothing (config : Config) (response : Dict PyValue) (s : State) (client : EvccClient) :
    Prop :=
  Xor (TookReading config response s client) (TookFailure config response s client)

section Outcome

variable {config : Config} {response : Dict PyValue} {s : State} {client : EvccClient}

/-- A recorded failure counts at least one, a reading none. -/
theorem not_both (took : TookReading config response s client)
    (failed : TookFailure config response s client) : False := by
  obtain ⟨_, _, _, -, -, -, -, replaced⟩ := took
  obtain ⟨count, _, counts, -, recorded⟩ := failed
  have same := replaced.failures.symm.trans recorded.failures
  have zero : (0 : ℤ) = min 5 (count + 1) := PyValue.int.inj (Option.some.inj same)
  have nonneg := counts.2
  omega

theorem AllOrNothing.reading (took : TookReading config response s client) :
    AllOrNothing config response s client := Or.inl ⟨took, not_both took⟩

theorem AllOrNothing.failure (failed : TookFailure config response s client) :
    AllOrNothing config response s client := Or.inr ⟨failed, fun took => not_both took failed⟩

variable [PyText] {E : Type} {answers : E → Answer} {count : ℤ}

/-- The handler of `_poll_engine` records one failure. -/
theorem ends_engineFailed (config : Config) {e : PyError} {X : PyError → State → Prop}
    (caught : isCaught e = true) (saves : ∀ i, (answers i).saves = none)
    (closes : ∀ i, (answers i).closes = none) (counts : Counts s.1.data count) :
    Handled answers config (fun client => Recorded config none count s client) X e s := by
  unfold Handled engineFailed
  rw [if_pos caught]
  refine ⟨?_, nofun⟩
  rintro recover ⟨rfl⟩
  rw [ends_bind]
  refine ends_stopEngine closes fun t same later => ?_
  have untouched : Untouched s t := .engine same later
  exact ends_mono (ends_failure saves (counts.untouched untouched) rfl nofun)
    (fun _ u recorded => recorded.after untouched) fun _ _ thrown => thrown

/-- … but it raises when the engine cannot be closed. -/
theorem ends_engineFailed_raises {e e' : PyError} {Q : EvccClient → Prop}
    (closes : ∀ i, (answers i).closes = some e') (engine : s.1.engine = true) :
    Handled answers config Q (fun _ _ => True) e s := by
  refine ⟨fun recover caught => ?_, fun _ => trivial⟩
  unfold engineFailed at caught
  split at caught
  · cases caught
    rw [ends_bind]
    exact ends_mono (ends_stopEngine_raises (Q := fun _ _ => False) closes engine)
      (fun _ _ never => never.elim) fun _ _ _ => trivial
  · cases caught

/-- What no handler waits for escapes. -/
theorem escapes {e : PyError} {Q : EvccClient → Prop} (indigestion : Indigestion e) (s : State) :
    Handled answers config Q (fun _ _ => True) e s := by
  refine ⟨fun recover caught => ?_, fun _ => trivial⟩
  rcases indigestion with rfl | rfl <;> cases caught

theorem soc_isNumber {data : Dict PyValue} {candidate : Vehicle}
    (normal : normalize data config.vin config.capacity config.home = .ok candidate) :
    candidate.soc.isSome = isNumber percentage (reported data "soc") :=
  isSome_number (normalize_eq_ok.mp normal).soc

/-- A reply that the client can take has one of the two outcomes. -/
theorem ends_takeReply {startedAt now : ℚ} {u : State} {X : PyError → State → Prop}
    (saves : ∀ i, (answers i).saves = none) (counts : Counts s.1.data count)
    (before : Untouched s u) (mono : s.2.mono ≤ startedAt) (wall : s.2.wall ≤ now)
    (takes : Takes config response)
    (stops : stopsEngine response = true → ∀ i, (answers i).closes = none) :
    Ends answers (takeReply config startedAt now response)
      (fun _ t => AllOrNothing config response s t.1)
      (Handled answers config (AllOrNothing config response s) X) u := by
  have counted := counts.untouched before
  unfold takeReply
  unfold Takes stopsEngine at *
  rcases reading : readingOf response with _ | data
  · simp only [reading] at takes stops
    obtain ⟨retryAfter, retry⟩ := (number_ok_iff atLeastZero).mpr takes
    exact ends_mono (ends_failure saves counted retry stops)
      (fun _ t recorded =>
        .failure ⟨count, retryAfter, counts, Or.inr retry, recorded.after before⟩)
      fun _ _ thrown => thrown
  · simp only [reading] at takes stops
    obtain ⟨candidate, normal⟩ := (normalize_ok_iff config.vin).mpr takes
    rcases charge : candidate.soc with _ | soc
    · have closes := stops (by rw [← soc_isNumber normal, charge]; rfl)
      refine ends_mono (ends_takeReading_raises (Q := fun _ _ => False)
        (Or.inr ⟨rfl, candidate, normal, charge⟩)) (fun _ _ never => never.elim) ?_
      rintro e t ⟨rfl, rfl⟩
      have caught : isCaught .value = true := rfl
      have handled := ends_engineFailed config (X := X) caught saves closes counted
      refine ⟨fun recover caught => ?_, handled.2⟩
      exact ends_mono (handled.1 recover caught)
        (fun _ v recorded => .failure ⟨count, none, counts, Or.inl rfl, recorded.after before⟩)
        fun _ _ thrown => thrown
    · have inside : percentage.admit soc = true :=
        number_within isSmall_percentage ((normalize_eq_ok.mp normal).soc.trans (by rw [charge]))
      exact ends_mono (ends_takeReading saves normal charge mono wall)
        (fun _ t replaced =>
          .reading ⟨data, candidate, soc, reading, normal, charge, inside, replaced⟩)
        fun _ _ thrown => thrown

/-- One that it cannot take raises. -/
theorem takeReply_raises {startedAt now : ℚ} (counts : Counts s.1.data count)
    (refused : ¬ Takes config response) :
    Ends answers (takeReply config startedAt now response) (fun _ _ => False)
      (Handled answers config (fun _ => False) fun _ _ => True) s := by
  unfold takeReply
  unfold Takes at refused
  rcases reading : readingOf response with _ | data
  · simp only [reading] at refused
    rcases retry : numberAt response "retry_after" atLeastZero with e | retryAfter
    · refine ends_mono (ends_failure_error (Q := fun _ _ => False) counts retry)
        (fun _ _ never => never) ?_
      rintro _ t rfl
      exact escapes (raises_number _ _ _ retry) t
    · exact absurd ((number_ok_iff _).mp ⟨_, retry⟩) refused
  · simp only [reading] at refused
    rcases normal : normalize data config.vin config.capacity config.home with e | candidate
    · refine ends_mono (ends_takeReading_raises (Q := fun _ _ => False) (Or.inl normal))
        (fun _ _ never => never) ?_
      rintro _ t ⟨rfl, -⟩
      exact escapes (normalize_raises _ _ _ _ _ normal) t
    · exact absurd ((normalize_ok_iff config.vin).mp ⟨_, normal⟩) refused

/-- So does one after which the engine cannot be closed. -/
theorem takeReply_close_raises {startedAt now : ℚ} {e : PyError} (counts : Counts s.1.data count)
    (engine : s.1.engine = true) (saves : ∀ i, (answers i).saves = none)
    (takes : Takes config response) (stops : stopsEngine response = true)
    (closes : ∀ i, (answers i).closes = some e) :
    Ends answers (takeReply config startedAt now response) (fun _ _ => False)
      (Handled answers config (fun _ => False) fun _ _ => True) s := by
  unfold takeReply
  unfold Takes stopsEngine at *
  rcases reading : readingOf response with _ | data
  · simp only [reading] at takes stops
    obtain ⟨retryAfter, retry⟩ := (number_ok_iff atLeastZero).mpr takes
    exact ends_mono (ends_failure_raises saves counts retry stops closes engine)
      (fun _ _ never => never) fun _ t raised => ends_engineFailed_raises closes raised.2
  · simp only [reading] at takes stops
    obtain ⟨candidate, normal⟩ := (normalize_ok_iff config.vin).mpr takes
    have missing : candidate.soc = none := by
      rw [← soc_isNumber normal] at stops
      simpa using stops
    refine ends_mono (ends_takeReading_raises (Q := fun _ _ => False)
      (Or.inr ⟨rfl, candidate, normal, missing⟩)) (fun _ _ never => never) ?_
    rintro _ t ⟨rfl, rfl⟩
    exact ends_engineFailed_raises closes engine

/-- **The outcome of a poll**, from any state whose count is a number. -/
theorem ends_poll_iff [Inhabited E] {process : ℕ} (counts : Counts s.1.data count)
    (started : s.1.started = true) (admitted : s.1.admits s.2.wall = .ok true)
    (saves : ∀ i, (answers i).saves = none) (builds : ∀ i, (answers i).builds = none)
    (reply : ∀ i, (answers i).reply = .ok response) :
    Ends answers (poll config process) (fun _ t => AllOrNothing config response s t.1)
        (fun _ _ => False) s ↔
      Takes config response ∧
        (stopsEngine response = true → ∀ i, (answers i).closes = none) := by
  constructor
  · intro total
    have raised : ∀ {E' : Type} [Inhabited E'] (among : E' → E), (∀ u : State, Untouched s u →
        u.1.engine = true → ∀ startedAt now, Ends (fun i => answers (among i))
          (takeReply config startedAt now response) (fun _ _ => False)
          (Handled (fun i => answers (among i)) config (fun _ => False) fun _ _ => True) u) →
        False := by
      intro E' _ among raises
      refine ends_conflict (ends_narrow among total)
        (X := fun _ _ => True) (ends_mono (ends_poll (Q := fun _ => False)
          started admitted (fun i => saves (among i))
          (fun i => builds (among i)) (fun i => reply (among i))
          fun u startedAt now before engine _ _ => raises u before engine startedAt now)
          (fun _ _ never => never) fun _ _ _ => trivial)
    have takes : Takes config response := by
      by_contra refused
      exact raised id fun u before _ _ _ => takeReply_raises (counts.untouched before) refused
    refine ⟨takes, fun stops i => ?_⟩
    rcases closes : (answers i).closes with _ | e
    · rfl
    · exact (raised (fun _ : Unit => i) fun u before engine _ _ => takeReply_close_raises
        (counts.untouched before) engine (fun _ => saves i) takes stops fun _ => closes).elim
  · rintro ⟨takes, stops⟩
    exact ends_poll started admitted saves builds reply fun u startedAt now before _ mono wall =>
      ends_takeReply saves counts before mono wall takes stops

end Outcome

/-! ### Every poll of every run -/

section Runs

variable [PyText]

/-- **A poll is total and all-or-nothing exactly when its reply can be taken**, in every state that
a client is in during a run of any number of processes: an admitted poll, whose saves succeed and
whose engine replies so, returns, with a candidate or with one failure, if and only if what it
converts of the reply is digestible, and the engine can be closed where the reply makes it stop. -/
theorem poll_total_iff (config : ℕ → Config) (clock : Clock) {file : Option (Dict PyValue)}
    (counted : ∀ data ∈ file, Counted data) (moves : List (Move ℕ Call Passing Answer))
    {fleet : Fleet ℕ Answer EvccClient Host PyError}
    (reached : (service config).run ⟨clock, file, none, []⟩ moves = fleet) {p : ℕ}
    {process : EvccClient × Program Unit} (alive : fleet.processes p = some process)
    (started : process.1.started = true)
    (admitted : process.1.admits fleet.shared.wall = .ok true)
    {E : Type} [Inhabited E] {answers : E → Answer} {response : Dict PyValue}
    (saves : ∀ i, (answers i).saves = none) (builds : ∀ i, (answers i).builds = none)
    (reply : ∀ i, (answers i).reply = .ok response) :
    Ends answers (poll (config p) p)
        (fun _ t => AllOrNothing (config p) response (process.1, fleet.shared) t.1)
        (fun _ _ => False) (process.1, fleet.shared) ↔
      Takes (config p) response ∧
        (stopsEngine response = true → ∀ i, (answers i).closes = none) := by
  subst reached
  obtain ⟨count, counts⟩ := ((counted_run config clock counted moves).own p process alive).1
  exact ends_poll_iff counts started admitted saves builds reply

end Runs

/-! ### A reply that cannot be taken -/

/-- A reading with a state of charge and an odometer. -/
def reading (odometer : PyValue) : Dict PyValue :=
  [("schema", .int 1), ("ok", .bool true), ("data", .dict [("soc", .int 50),
    ("odometer", odometer)])]

/-- A poll takes a reading; ten hours later the next one is admitted. -/
def polledOnce : List (Move ℕ Call Passing Answer) :=
  [.launch 0, .call 0 .poll] ++ steps 17 (.plain (reading (.int 150))) ++ [.world ⟨36000, 36000⟩]

/-- The client after that poll. -/
def dueAgain : Fleet ℕ Answer EvccClient Host PyError :=
  letI := plainText
  (service fun _ => hyundai).run ⟨⟨0, 50000⟩, none, none, []⟩ polledOnce

theorem dueAgain_admits : ∃ process, dueAgain.processes 0 = some process ∧
    process.1.started = true ∧ process.1.admits dueAgain.shared.wall = .ok true := by
  have ready : (dueAgain.processes 0).any (fun process => process.1.started &&
      decide (process.1.admits dueAgain.shared.wall = .ok true)) = true := by decide +kernel
  obtain ⟨process, alive, both⟩ := (Option.any_eq_true _ _).mp ready
  exact ⟨process, alive, by simpa using both⟩

theorem dueAgain_counts {process : EvccClient × Program Unit}
    (alive : dueAgain.processes 0 = some process) : Counted process.1.data := by
  unfold dueAgain at alive
  exact ((@counted_run plainText (fun _ => hyundai) ⟨0, 50000⟩ none nofun polledOnce).own 0 process
    alive).1

/-- **An odometer beyond the doubles** is neither a candidate nor a failure: the poll raises. -/
theorem long_odometer_raises : letI := plainText
    ∃ process, dueAgain.processes 0 = some process ∧ process.1.started = true ∧
      process.1.admits dueAgain.shared.wall = .ok true ∧
      ¬ Ends (fun _ : Unit => .plain (reading (.int (10 ^ 400)))) (poll hyundai 0)
        (fun _ t => AllOrNothing hyundai (reading (.int (10 ^ 400)))
          (process.1, dueAgain.shared) t.1) (fun _ _ => False) (process.1, dueAgain.shared) := by
  let := plainText
  obtain ⟨process, alive, started, admitted⟩ := dueAgain_admits
  refine ⟨process, alive, started, admitted, fun total => ?_⟩
  obtain ⟨count, counts⟩ := dueAgain_counts alive
  have takes := ((ends_poll_iff counts started admitted (fun _ => rfl) (fun _ => rfl)
    fun _ => rfl).mp total).1
  have short : isConvertible (.int (10 ^ 400)) = true :=
    Digestible.readings takes "odometer" (by decide)
  have huge : (2 : ℤ) ^ 1025 ≤ |10 ^ 400| :=
    calc (2 : ℤ) ^ 1025 = (2 ^ 41) ^ 25 := pow_mul 2 41 25
      _ ≤ (10 ^ 16) ^ 25 := pow_le_pow_left₀ (by norm_num) (by norm_num) 25
      _ = 10 ^ 400 := (pow_mul 10 16 25).symm
      _ ≤ |10 ^ 400| := le_abs_self _
  have long : isConvertible (.int (10 ^ 400)) = false := not_isConvertible huge
  exact Bool.noConfusion (long.symm.trans short)

/-- A reading is taken. -/
theorem short_odometer_taken : letI := plainText
    ∃ process, dueAgain.processes 0 = some process ∧
      Ends (fun _ : Unit => .plain (reading (.int 151))) (poll hyundai 0)
        (fun _ t => AllOrNothing hyundai (reading (.int 151)) (process.1, dueAgain.shared) t.1)
        (fun _ _ => False) (process.1, dueAgain.shared) := by
  let := plainText
  obtain ⟨process, alive, started, admitted⟩ := dueAgain_admits
  refine ⟨process, alive, ?_⟩
  refine (@poll_total_iff plainText (fun _ => hyundai) ⟨0, 50000⟩ none nofun polledOnce _ rfl 0
    process alive started admitted _ _ _ _ (fun _ => rfl) (fun _ => rfl) fun _ => rfl).mpr ⟨?_, ?_⟩
  · exact ⟨by decide +kernel, by decide, Or.inr rfl, rfl⟩
  · exact fun stops => absurd stops (by decide +kernel)

end DbusEv.Evcc
