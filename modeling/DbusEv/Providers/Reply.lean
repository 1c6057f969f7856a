/-
**The reply of an engine, chunk by chunk** (`Engine.poll` of `dbus_ev/providers/evcc.py`, from its
request on).

* `Reader.turn` — one turn of the read loop; `poll` — its outcome.
* `poll_delivers` — a reply that arrives in time is what its bytes are, in whatever chunks.
* `content_bounded` — no stream makes the loop hold more than the limit and one chunk.
* `receive_polls` — the loop of the client at its pipes returns what this one does.
-/

import DbusEv.Providers.Exchange

set_option autoImplicit false
set_option linter.unusedSectionVars false

namespace DbusEv.Reply

open Pipe (maxReply chunkSize newline isOne)

/-! ### The loop -/

/-- What `poll` raises. -/
inductive Failure
  /-- `TimeoutError("Vehicle engine did not reply")`. -/
  | didNotReply
  /-- `RuntimeError("Vehicle engine exited")`. -/
  | exited
  /-- What `json.loads` raises. -/
  | malformed (e : PyError)
  /-- `ValueError("Unsupported vehicle engine response")`. -/
  | unsupported
  /-- `ValueError("Vehicle engine response too large")`. -/
  | tooLarge

/-- What a turn meets: the monotonic clock, whether `select` finds the pipe readable in time, and
what `os.read(…, 4096)` returns; nothing at the end of the pipe. -/
structure Turn where
  mono : ℚ
  ready : Bool
  chunk : List UInt8
  atOnce : chunk.length ≤ chunkSize

/-- The locals of the loop: `content`, and the outcome once it is left. -/
structure Reader where
  content : List UInt8
  outcome : Option (Except Failure (Dict PyValue))

/-- Nothing is read yet. -/
def Reader.start : Reader := ⟨[], none⟩

section Code

variable (loads : List UInt8 → Except PyError PyValue)

/-- `json.loads(content)`, and the check of the schema. -/
def parse (content : List UInt8) : Except Failure (Dict PyValue) :=
  match loads content with
  | .error e => .error (.malformed e)
  | .ok (.dict response) =>
    if isOne ((Dict.get response "schema").getD .none) then .ok response else .error .unsupported
  | .ok _ => .error .unsupported

/-- One turn of the loop, up to the condition of the next. -/
def Reader.turn (deadline : ℚ) (reader : Reader) (turn : Turn) : Reader :=
  match reader.outcome with
  | some _ => reader
  | none =>
    if deadline - turn.mono ≤ 0 ∨ turn.ready = false then
      { reader with outcome := some (.error .didNotReply) }
    else if turn.chunk = [] then { reader with outcome := some (.error .exited) }
    else
      let content := reader.content ++ turn.chunk
      if newline ∈ turn.chunk then
        { content := content
          outcome := some
            (if maxReply < content.length then .error .tooLarge else parse loads content) }
      else
        -- `while len(content) <= MAX_REPLY`
        { content := content
          outcome := if content.length ≤ maxReply then none else some (.error .tooLarge) }

/-- The loop after these turns. -/
def Reader.run (deadline : ℚ) (reader : Reader) (turns : List Turn) : Reader :=
  turns.foldl (Reader.turn loads deadline) reader

/-- `Engine.poll`, started at `began`; after the last turn nothing more arrives in time. -/
def poll (timeout began : ℚ) (turns : List Turn) : Except Failure (Dict PyValue) :=
  (Reader.run loads (began + timeout) .start turns).outcome.getD (.error .didNotReply)

/-! ### The bytes that arrive -/

/-- A reply: a line and its end. -/
def IsReply (reply : List UInt8) : Prop := ∃ line, reply = line ++ [newline] ∧ newline ∉ line

/-- These bytes arrive before the deadline, in chunks that hold a byte at least. -/
structure Delivers (deadline : ℚ) (bytes : List UInt8) (turns : List Turn) : Prop where
  inTime : ∀ turn ∈ turns, turn.mono < deadline ∧ turn.ready = true
  filled : ∀ turn ∈ turns, turn.chunk ≠ []
  bytes : turns.flatMap Turn.chunk = bytes

/-- What the bytes of a reply come to. -/
def replyOf (reply : List UInt8) : Except Failure (Dict PyValue) :=
  if reply.length ≤ maxReply then parse loads reply else .error .tooLarge

variable {loads} {deadline : ℚ}

theorem Delivers.tail {bytes : List UInt8} {turn : Turn} {turns : List Turn}
    (delivers : Delivers deadline bytes (turn :: turns)) :
    Delivers deadline (turns.flatMap Turn.chunk) turns where
  inTime other member := delivers.inTime other (List.mem_cons_of_mem _ member)
  filled other member := delivers.filled other (List.mem_cons_of_mem _ member)
  bytes := rfl

/-- The loop that was left stays left. -/
theorem run_ended {reader : Reader} {outcome : Except Failure (Dict PyValue)}
    (ended : reader.outcome = some outcome) (turns : List Turn) :
    Reader.run loads deadline reader turns = reader := by
  induction turns with
  | nil => rfl
  | cons turn rest ih =>
    have stays : reader.turn loads deadline turn = reader := by
      unfold Reader.turn
      rw [ended]
    show Reader.run loads deadline (reader.turn loads deadline turn) rest = reader
    rw [stays]
    exact ih

/-- A turn in time, of a reader that is not done. -/
theorem turn_chunk {content : List UInt8} {turn : Turn} (inTime : turn.mono < deadline)
    (ready : turn.ready = true) (filled : turn.chunk ≠ []) :
    Reader.turn loads deadline ⟨content, none⟩ turn =
      if newline ∈ turn.chunk then
        ⟨content ++ turn.chunk, some (replyOf loads (content ++ turn.chunk))⟩
      else
        ⟨content ++ turn.chunk,
          if (content ++ turn.chunk).length ≤ maxReply then none else some (.error .tooLarge)⟩ := by
  have early : ¬ (deadline - turn.mono ≤ 0 ∨ turn.ready = false) := by
    rintro (late | never)
    · exact absurd (sub_nonpos.mp late) (not_le.mpr inTime)
    · rw [ready] at never
      cases never
  unfold Reader.turn replyOf
  simp only [if_neg early, if_neg filled]
  by_cases fits : (content ++ turn.chunk).length ≤ maxReply
  · simp only [if_pos fits, if_neg (not_lt.mpr fits)]
  · simp only [if_neg fits, if_pos (not_le.mp fits)]

/-- The end of a reply that is split in two is in the second part, unless that is empty. -/
theorem IsReply.split {first second : List UInt8} (reply : IsReply (first ++ second)) :
    (newline ∈ first ∧ second = []) ∨ (newline ∉ first ∧ IsReply second) := by
  obtain ⟨line, same, plain⟩ := reply
  rcases List.eq_nil_or_concat second with rfl | ⟨front, last, rfl⟩
  · rw [List.append_nil] at same
    exact .inl ⟨by rw [same]; simp, rfl⟩
  · rw [List.concat_eq_append, ← List.append_assoc] at same
    obtain ⟨whole, ends⟩ := List.append_inj' same rfl
    cases ends
    rw [← whole] at plain
    refine .inr ⟨fun inside => plain (List.mem_append_left _ inside), front, ?_, ?_⟩
    · exact List.concat_eq_append
    · exact fun inside => plain (List.mem_append_right _ inside)

/-- **The loop on the rest of a reply**: what counts is the bytes. -/
theorem run_delivers {content bytes : List UInt8} {turns : List Turn} (reply : IsReply bytes)
    (delivers : Delivers deadline bytes turns) (room : content.length ≤ maxReply) :
    (Reader.run loads deadline ⟨content, none⟩ turns).outcome =
      some (replyOf loads (content ++ bytes)) := by
  induction turns generalizing content bytes with
  | nil =>
    obtain ⟨line, rfl, -⟩ := reply
    exact absurd delivers.bytes (by simp)
  | cons turn rest ih =>
    obtain ⟨inTime, ready⟩ := delivers.inTime turn List.mem_cons_self
    have filled := delivers.filled turn List.mem_cons_self
    have split : bytes = turn.chunk ++ rest.flatMap Turn.chunk := delivers.bytes.symm
    subst split
    show (Reader.run loads deadline (Reader.turn loads deadline ⟨content, none⟩ turn) rest).outcome
      = _
    rw [turn_chunk inTime ready filled, ← List.append_assoc]
    rcases reply.split with ⟨ends, nothing⟩ | ⟨goes, later⟩
    · rw [if_pos ends, run_ended rfl, nothing, List.append_nil]
    · rw [if_neg goes]
      by_cases fits : (content ++ turn.chunk).length ≤ maxReply
      · rw [if_pos fits]
        exact ih later delivers.tail fits
      · rw [if_neg fits, run_ended rfl]
        have long : ¬ (content ++ turn.chunk ++ rest.flatMap Turn.chunk).length ≤ maxReply := by
          rw [List.length_append]
          omega
        unfold replyOf
        rw [if_neg long]

/-- **A reply in time is what its bytes are**, in whatever chunks it arrives. -/
theorem poll_delivers {timeout began : ℚ} {reply : List UInt8} {turns : List Turn}
    (isReply : IsReply reply) (delivers : Delivers (began + timeout) reply turns) :
    poll loads timeout began turns = replyOf loads reply := by
  unfold poll
  rw [Reader.start, run_delivers isReply delivers (Nat.zero_le _)]
  rfl

/-! ### The bound -/

/-- A reader that goes on holds no more than the limit. -/
structure Bounded (reader : Reader) : Prop where
  goingOn : reader.outcome = none → reader.content.length ≤ maxReply
  held : reader.content.length ≤ maxReply + chunkSize

theorem Bounded.turn {reader : Reader} (bounded : Bounded reader) (turn : Turn) :
    Bounded (reader.turn loads deadline turn) := by
  unfold Reader.turn
  cases ended : reader.outcome with
  | some outcome => exact bounded
  | none =>
    have room := bounded.goingOn ended
    have more : (reader.content ++ turn.chunk).length ≤ maxReply + chunkSize := by
      rw [List.length_append]
      exact Nat.add_le_add room turn.atOnce
    simp only
    split
    · exact ⟨fun never => (by cases never), bounded.held⟩
    · split
      · exact ⟨fun never => (by cases never), bounded.held⟩
      · split
        · exact ⟨fun never => (by cases never), more⟩
        · refine ⟨fun goesOn => ?_, more⟩
          simp only at goesOn
          split at goesOn
          · rename_i fits
            exact fits
          · cases goesOn

theorem Bounded.run {reader : Reader} (bounded : Bounded reader) (turns : List Turn) :
    Bounded (Reader.run loads deadline reader turns) := by
  induction turns generalizing reader with
  | nil => exact bounded
  | cons turn rest ih => exact ih (bounded.turn turn)

/-- **No stream makes the loop hold more** than the limit and one chunk. -/
theorem content_bounded (turns : List Turn) :
    (Reader.run loads deadline .start turns).content.length ≤ maxReply + chunkSize := by
  have started : Bounded .start := ⟨fun _ => Nat.zero_le _, Nat.zero_le _⟩
  exact (started.run turns).held

/-! ### The claim of the loop -/

theorem parse_ok_iff {content : List UInt8} {response : Dict PyValue} :
    parse loads content = .ok response ↔ loads content = .ok (.dict response) ∧
      isOne ((Dict.get response "schema").getD .none) = true := by
  unfold parse
  cases loads content with
  | error e => simp
  | ok value =>
    cases value with
    | dict items =>
      by_cases one : isOne ((Dict.get items "schema").getD .none) = true
      · simp only [one, if_true, Except.ok.injEq, PyValue.dict.injEq]
        constructor
        · rintro rfl
          exact ⟨rfl, one⟩
        · exact fun both => both.1
      · simp only [one, Bool.false_eq_true, if_false, Except.ok.injEq, PyValue.dict.injEq]
        refine iff_of_false (fun never => by cases never) ?_
        rintro ⟨rfl, never⟩
        exact one never
    | _ => simp

end Code

/-- **The reply does not depend on its chunks**, and what is held is bounded for every stream. -/
theorem reply_independent (loads : List UInt8 → Except PyError PyValue) (timeout : ℚ)
    {reply : List UInt8} (isReply : IsReply reply) {began began' : ℚ} {turns turns' : List Turn}
    (delivers : Delivers (began + timeout) reply turns)
    (delivers' : Delivers (began' + timeout) reply turns') :
    poll loads timeout began turns = poll loads timeout began' turns' ∧
      (∀ response, poll loads timeout began turns = .ok response ↔
        reply.length ≤ maxReply ∧ loads reply = .ok (.dict response) ∧
          isOne ((Dict.get response "schema").getD .none) = true) ∧
      ∀ (deadline : ℚ) (stream : List Turn),
        (Reader.run loads deadline .start stream).content.length ≤ maxReply + chunkSize := by
  rw [poll_delivers isReply delivers, poll_delivers isReply delivers']
  refine ⟨rfl, fun response => ?_, fun deadline stream => content_bounded stream⟩
  unfold replyOf
  by_cases fits : reply.length ≤ maxReply
  · rw [if_pos fits, parse_ok_iff]
    exact (and_iff_right fits).symm
  · rw [if_neg fits]
    exact iff_of_false (fun never => by cases never) fun both => fits both.1

/-- `{"schema": 1}` and its end. -/
def someReply : List UInt8 := [123, 34, 115, 99, 104, 101, 109, 97, 34, 58, 32, 49, 125, 10]

/-- A parser that knows this text. -/
def someLoads (content : List UInt8) : Except PyError PyValue :=
  if content = someReply then .ok (.dict [("schema", .int 1)]) else .error .value

/-- The same reply at once, and in two chunks at another time. -/
theorem someReply_independent :
    poll someLoads 90 0 [⟨1, true, someReply, by decide⟩] =
        poll someLoads 90 7 [⟨8, true, someReply.take 5, by decide⟩,
          ⟨9, true, someReply.drop 5, by decide⟩] ∧
      (∀ response, poll someLoads 90 0 [⟨1, true, someReply, by decide⟩] = .ok response ↔
        someReply.length ≤ maxReply ∧ someLoads someReply = .ok (.dict response) ∧
          isOne ((Dict.get response "schema").getD .none) = true) ∧
      ∀ (deadline : ℚ) (stream : List Turn),
        (Reader.run someLoads deadline .start stream).content.length ≤ maxReply + chunkSize := by
  apply reply_independent
  · exact ⟨someReply.dropLast, rfl, by decide⟩
  · exact ⟨by simp, by simp [someReply], rfl⟩
  · exact ⟨by norm_num, by simp [someReply], rfl⟩

/-! ### The loop at the pipes -/

section Pipes

variable {loads : List UInt8 → Except PyError PyValue} {engine : Pipe.Handle} {call : Pipe.Call}

/-- A law that asks for nothing. -/
def anything : Thread.Law Pipe.State := ⟨fun _ _ => True, fun _ _ => True, fun _ => True⟩

/-- What the client reads at once is a byte at least and fits a chunk. -/
theorem wp_readChunk (s : Pipe.State) :
    Thread.wp anything (Pipe.readChunk engine call)
      (fun chunk _ => chunk ≠ [] ∧ chunk.length ≤ chunkSize) (fun _ _ => True) s := by
  unfold Pipe.readChunk
  rw [Thread.wp_atomic]
  intro t _ _ answer
  simp only [Exec.wp_bind, Exec.wp_read, Exec.wp_ite, Exec.wp_raise, Exec.wp_change, Exec.wp_pure]
  refine ⟨fun _ => ⟨trivial, trivial, trivial⟩, fun _ => ⟨fun _ => ⟨trivial, trivial, trivial⟩,
    fun _ => ⟨fun _ => ⟨trivial, trivial, trivial⟩, fun _ => ⟨fun _ => ⟨trivial, trivial, trivial⟩,
      fun some_ => ⟨trivial, trivial, ?_, ?_⟩⟩⟩⟩⟩
  · rintro nothing
    rw [nothing] at some_
    exact some_ rfl
  · exact List.length_take_le ..

theorem parse_of_pipe {content : List Pipe.Sent} {response : Dict PyValue}
    (parsed : Pipe.parse loads content = .ok response) :
    parse loads (content.map Pipe.Sent.byte) = .ok response := by
  unfold Pipe.parse at parsed
  unfold parse
  cases read : loads (content.map Pipe.Sent.byte) with
  | error e =>
    rw [read] at parsed
    cases parsed
  | ok value =>
    rw [read] at parsed
    cases value with
    | dict items =>
      by_cases one : isOne ((Dict.get items "schema").getD .none) = true
      · simp only [one, if_true] at parsed ⊢
        cases parsed
        rfl
      · simp only [one] at parsed
        cases parsed
    | _ => cases parsed

/-- A chunk that the client reads, as a turn in time. -/
def turnOf (deadline : ℚ) (chunk : List Pipe.Sent) (atOnce : chunk.length ≤ chunkSize) : Turn :=
  ⟨deadline - 1, true, chunk.map Pipe.Sent.byte, by rwa [List.length_map]⟩

theorem run_turnOf {deadline : ℚ} {content chunk : List Pipe.Sent} (filled : chunk ≠ [])
    (atOnce : chunk.length ≤ chunkSize) (turns : List Turn) :
    Reader.run loads deadline ⟨content.map Pipe.Sent.byte, none⟩
        (turnOf deadline chunk atOnce :: turns) =
      Reader.run loads deadline
        (if newline ∈ chunk.map Pipe.Sent.byte then
          ⟨(content ++ chunk).map Pipe.Sent.byte,
            some (replyOf loads ((content ++ chunk).map Pipe.Sent.byte))⟩
        else
          ⟨(content ++ chunk).map Pipe.Sent.byte,
            if (content ++ chunk).length ≤ maxReply then none else some (.error .tooLarge)⟩)
        turns := by
  have some_ : (turnOf deadline chunk atOnce).chunk ≠ [] := by simpa [turnOf] using filled
  show Reader.run loads deadline (Reader.turn loads deadline _ (turnOf deadline chunk atOnce)) turns
    = _
  rw [turn_chunk (sub_lt_self deadline one_pos) rfl some_, List.map_append]
  simp only [turnOf, List.length_append, List.length_map]

theorem Delivers.turnOf {deadline : ℚ} {bytes : List UInt8} {turns : List Turn}
    {chunk : List Pipe.Sent} (filled : chunk ≠ []) (atOnce : chunk.length ≤ chunkSize)
    (delivers : Delivers deadline bytes turns) :
    Delivers deadline (chunk.map Pipe.Sent.byte ++ bytes)
      (turnOf deadline chunk atOnce :: turns) where
  inTime := List.forall_mem_cons.mpr ⟨⟨sub_lt_self deadline one_pos, rfl⟩, delivers.inTime⟩
  filled := List.forall_mem_cons.mpr ⟨by simpa [Reply.turnOf] using filled, delivers.filled⟩
  bytes := congrArg (chunk.map Pipe.Sent.byte ++ ·) delivers.bytes

/-- **What the client returns from its pipes** is what the loop makes of chunks in time. -/
theorem receive_polls {deadline : ℚ} {fuel : ℕ} {content : List Pipe.Sent} (s : Pipe.State) :
    Thread.wp anything (Pipe.receive loads engine call fuel content)
      (fun response _ => ∃ turns bytes, Delivers deadline bytes turns ∧
        Reader.run loads deadline ⟨content.map Pipe.Sent.byte, none⟩ turns =
          ⟨response.content.map Pipe.Sent.byte, some (.ok response.value)⟩)
      (fun _ _ => True) s := by
  induction fuel generalizing content s with
  | zero => trivial
  | succ fuel ih =>
    unfold Pipe.receive
    rw [Thread.wp_ite]
    refine ⟨fun room => ?_, fun _ => trivial⟩
    rw [Thread.wp_bind]
    refine Thread.wp_mono (wp_readChunk s) (fun chunk t read => ?_) fun _ _ _ => trivial
    obtain ⟨filled, atOnce⟩ := read
    dsimp only
    rw [Thread.wp_ite]
    refine ⟨fun ends => ?_, fun goes => ?_⟩
    · rw [Thread.wp_ite]
      refine ⟨fun _ => trivial, fun fits => ?_⟩
      unfold Pipe.answerWith
      cases parsed : Pipe.parse loads (content ++ chunk) with
      | error e => trivial
      | ok value =>
        intro u _ _ _
        refine ⟨trivial, trivial, [turnOf deadline chunk atOnce], _, .turnOf filled atOnce
          ⟨by simp, by simp, rfl⟩, ?_⟩
        have whole : ((content ++ chunk).map Pipe.Sent.byte).length ≤ maxReply := by
          rw [List.length_map]
          exact not_lt.mp fits
        rw [run_turnOf filled atOnce, if_pos ends]
        unfold replyOf
        rw [if_pos whole, parse_of_pipe parsed]
        rfl
    · by_cases fits : (content ++ chunk).length ≤ maxReply
      · refine Thread.wp_mono (ih t) ?_ fun _ _ _ => trivial
        rintro response u ⟨turns, bytes, delivers, runs⟩
        refine ⟨turnOf deadline chunk atOnce :: turns, _, delivers.turnOf filled atOnce, ?_⟩
        rw [run_turnOf filled atOnce, if_neg goes, if_pos fits]
        exact runs
      · cases fuel with
        | zero => trivial
        | succ fuel =>
          unfold Pipe.receive
          rw [Thread.wp_ite]
          exact ⟨fun room => absurd room fits, fun _ => trivial⟩

end Pipes

end DbusEv.Reply
