/-
**The vehicle engine as the peer of a pipe** (`run` and `main` of `vehicle-engine/main.go`).

The engine reads request lines from one pipe and writes reply lines to another; it may take any
time, write a line in pieces, and die at any moment. Each byte it writes carries the call whose
request it answers, which nothing in the protocol reads.

* `pass`, `served` — one pass of the loop of `run`, and what `main` adds when `run` fails.
* `served_one_line` — a pass writes exactly one line, whatever it reads.
* `Peer` — a process with its two pipes; `Balanced` — it has written one line for each request that
  it read, in their order, or the error of its start-up alone.
* `Clean`, `Answering` — what is in the pipes between two calls, and during one.
-/

import DbusEv.Engine.Sample

set_option autoImplicit false

namespace DbusEv.Pipe

open Engine (Reply Vehicle ProviderError sample sampleData sampleData_ok encodeReply
  encodeData_some finite_sampled)

/-! ### The program -/

/-- The end of a line. -/
def newline : UInt8 := 10

/-- A line of text. -/
structure Line where
  bytes : List UInt8
  isLine : newline ∉ bytes

/-- How a pass of the loop ends. -/
inductive Pass
  /-- The next line is read; the vehicle is constructed. -/
  | next
  /-- `run` returns, with or without an error. -/
  | returned (failed : Bool)

/-- What the environment decides in a pass. -/
structure Turn where
  now : ℤ
  /-- `vehicle.NewFromTemplateConfig(ctx, conf)`. -/
  constructed : Except ProviderError Unit
  vehicle : Vehicle
  /-- `settings.Persist()`. -/
  persists : Bool
  /-- The text of a reply. -/
  text : Reply → Line

/-- `encoder.Encode(r)`. -/
def Turn.encode (turn : Turn) (r : Reply) : Option Line :=
  (encodeReply r).map fun _ => turn.text r

/-- `reply{Schema: protocolVersion, Error: "storage"}`. -/
def storage : Reply := ⟨false, [], "storage", 0⟩

/-- `reply{Schema: protocolVersion, Error: "configuration"}`. -/
def configuration : Reply := ⟨false, [], "configuration", 0⟩

/-- One pass of the loop of `run`, from the line it scanned: what it writes, and how it ends. -/
def pass (vehicle : Bool) (scanned : String) (turn : Turn) : List Line × Pass :=
  if scanned ≠ "poll" then ([], .returned true)
  else
    match if vehicle then .ok () else turn.constructed with
    | .error e =>
      ((turn.encode { Engine.failure turn.now e with error := "auth" }).toList, .returned false)
    | .ok () =>
      let r := if turn.persists then sample turn.now turn.vehicle else storage
      match turn.encode r with
      | some line => ([line], .next)
      | none => ([], .returned true)

/-- What a pass writes, with what `main` writes when `run` returns an error. -/
def served (vehicle : Bool) (scanned : String) (turn : Turn) : List Line × Bool :=
  match pass vehicle scanned turn with
  | (lines, .next) => (lines, true)
  | (lines, .returned false) => (lines, false)
  | (lines, .returned true) => (lines ++ [turn.text configuration], false)

/-- A reply without data can be encoded. -/
theorem encode_of_nil {turn : Turn} {r : Reply} (nothing : r.data = []) :
    turn.encode r = some (turn.text r) := by
  unfold Turn.encode encodeReply
  rw [nothing]
  rfl

theorem failure_data (now : ℤ) (e : ProviderError) : (Engine.failure now e).data = [] := by
  unfold Engine.failure
  split <;> rfl

/-- A sample can be encoded. -/
theorem encode_sample (turn : Turn) (v : Vehicle) :
    turn.encode (sample turn.now v) = some (turn.text (sample turn.now v)) := by
  rcases sampled : sampleData v with e | data
  · have same : sample turn.now v = Engine.failure turn.now e := by
      unfold sample
      rw [sampled]
    rw [same]
    exact encode_of_nil (failure_data turn.now e)
  · obtain ⟨soc, -, valid, filled⟩ := sampleData_ok sampled
    obtain ⟨encoded, found, -⟩ := encodeData_some (finite_sampled v valid)
    have same : sample turn.now v = ⟨true, data, "", 0⟩ := by
      unfold sample
      rw [sampled]
    rw [same]
    unfold Turn.encode encodeReply
    rw [filled, found]
    rfl

/-- **A pass writes exactly one line.** -/
theorem served_one_line (vehicle : Bool) (scanned : String) (turn : Turn) :
    ∃ line, (served vehicle scanned turn).1 = [line] := by
  unfold served pass
  by_cases isPoll : scanned = "poll"
  · rw [if_neg (not_not.mpr isPoll)]
    rcases (if vehicle then .ok () else turn.constructed : Except ProviderError Unit) with e | _
    · have encoded : turn.encode { Engine.failure turn.now e with error := "auth" } = some _ :=
        encode_of_nil (failure_data turn.now e)
      simp only [encoded]
      exact ⟨_, rfl⟩
    · have encoded : turn.encode (if turn.persists then sample turn.now turn.vehicle else storage) =
          some (turn.text (if turn.persists then sample turn.now turn.vehicle else storage)) := by
        split
        · exact encode_sample turn turn.vehicle
        · exact encode_of_nil rfl
      simp only [encoded]
      exact ⟨_, rfl⟩
  · rw [if_pos isPoll]
    exact ⟨_, rfl⟩

/-! ### The process and its pipes -/

/-- A call of `engine.poll()`, with the time at which its poll began. -/
structure Call where
  id : ℕ
  startedAt : ℚ

/-- A byte in the pipe of the replies, with the call it answers, or none. -/
structure Sent where
  byte : UInt8
  answers : Option Call

/-- A line in the pipe. -/
def mark (answers : Option Call) (line : Line) : List Sent :=
  (line.bytes ++ [newline]).map fun byte => ⟨byte, answers⟩

/-- A line in the pipe of the requests, with the call that wrote it. -/
structure Request where
  text : String
  call : Call

/-- Where a process is. -/
inductive Phase
  | starting
  /-- `scanner.Scan()`. -/
  | scanning (vehicle : Bool)
  /-- The bytes it has still to write, and whether it scans again then. -/
  | writing (rest : List Sent) (next : Bool)
  | exited (killed : Bool)

/-- Where it is when so many bytes of a line are left to write. -/
def Phase.after : List Sent → Bool → Phase
  | [], true => .scanning true
  | [], false => .exited false
  | rest, next => .writing rest next

/-- A process, with what it has read and written so far. -/
structure Peer where
  requests : List Request
  /-- The pipe of the requests is closed at its other end. -/
  hungUp : Bool
  phase : Phase
  replies : List Sent
  hasRead : List Call
  hasWritten : List Sent

/-- A new process. -/
def Peer.new : Peer := ⟨[], false, .starting, [], [], []⟩

/-- What a process does next. -/
inductive Tick
  /-- Its start-up ends, with an error or without. -/
  | startUp (failed : Bool)
  /-- A line is read, if there is one. -/
  | scan (turn : Turn)
  /-- Some of its bytes get into the pipe. -/
  | write (more : ℕ)
  | die

section Peers

variable (configurationLine : Line)

/-- `error: "configuration"` at its start-up. -/
def lastWords : List Sent := mark none configurationLine

/-- A step of a process. -/
def Peer.tick (peer : Peer) : Tick → Peer
  | .startUp failed =>
    match peer.phase with
    | .starting =>
      if failed then { peer with phase := .writing (lastWords configurationLine) false }
      else { peer with phase := .scanning false }
    | _ => peer
  | .scan turn =>
    match peer.phase, peer.requests with
    | .scanning vehicle, request :: others =>
      let (lines, next) := served vehicle request.text turn
      { peer with
        requests := others
        phase := .writing (lines.flatMap (mark (some request.call))) next
        hasRead := peer.hasRead ++ [request.call] }
    | .scanning _, [] => if peer.hungUp then { peer with phase := .exited false } else peer
    | _, _ => peer
  | .write more =>
    match peer.phase with
    | .writing rest next =>
      { peer with
        phase := .after (rest.drop (more + 1)) next
        replies := peer.replies ++ rest.take (more + 1)
        hasWritten := peer.hasWritten ++ rest.take (more + 1) }
    | _ => peer
  | .die =>
    match peer.phase with
    | .exited _ => peer
    | _ => { peer with phase := .exited true }

/-- What a step of a process does: nothing, a start-up, one request served, the end of the input,
some bytes written, or a death. -/
inductive Ticks : Peer → Peer → Prop
  | idle (peer : Peer) : Ticks peer peer
  | fails {requests hungUp replies hasRead hasWritten} :
    Ticks ⟨requests, hungUp, .starting, replies, hasRead, hasWritten⟩
      ⟨requests, hungUp, .writing (lastWords configurationLine) false, replies, hasRead, hasWritten⟩
  | starts {requests hungUp replies hasRead hasWritten} :
    Ticks ⟨requests, hungUp, .starting, replies, hasRead, hasWritten⟩
      ⟨requests, hungUp, .scanning false, replies, hasRead, hasWritten⟩
  | serves {vehicle next request others hungUp replies hasRead hasWritten} (line : Line) :
    Ticks ⟨request :: others, hungUp, .scanning vehicle, replies, hasRead, hasWritten⟩
      ⟨others, hungUp, .writing (mark (some request.call) line) next, replies,
        hasRead ++ [request.call], hasWritten⟩
  | ends {vehicle replies hasRead hasWritten} :
    Ticks ⟨[], true, .scanning vehicle, replies, hasRead, hasWritten⟩
      ⟨[], true, .exited false, replies, hasRead, hasWritten⟩
  | writes {requests hungUp rest next replies hasRead hasWritten} (more : ℕ) :
    Ticks ⟨requests, hungUp, .writing rest next, replies, hasRead, hasWritten⟩
      ⟨requests, hungUp, .after (rest.drop (more + 1)) next, replies ++ rest.take (more + 1),
        hasRead, hasWritten ++ rest.take (more + 1)⟩
  | dies {requests hungUp phase replies hasRead hasWritten}
    (alive : ∀ killed, phase ≠ .exited killed) :
    Ticks ⟨requests, hungUp, phase, replies, hasRead, hasWritten⟩
      ⟨requests, hungUp, .exited true, replies, hasRead, hasWritten⟩

/-- **Every step is one of these.** -/
theorem ticks_tick (peer : Peer) (tick : Tick) :
    Ticks configurationLine peer (peer.tick configurationLine tick) := by
  obtain ⟨requests, hungUp, phase, replies, hasRead, hasWritten⟩ := peer
  cases tick with
  | startUp failed =>
    cases phase with
    | starting =>
      cases failed with
      | true => exact .fails
      | false => exact .starts
    | _ => exact .idle _
  | scan turn =>
    cases phase with
    | scanning vehicle =>
      cases requests with
      | nil =>
        cases hungUp with
        | true => exact .ends
        | false => exact .idle _
      | cons request others =>
        obtain ⟨line, one⟩ := served_one_line vehicle request.text turn
        show Ticks configurationLine _ ⟨others, hungUp, .writing
          ((served vehicle request.text turn).1.flatMap (mark (some request.call))) _, _, _, _⟩
        rw [one, List.flatMap_singleton]
        exact .serves line
    | _ => exact .idle _
  | write more =>
    cases phase with
    | writing rest next => exact .writes more
    | _ => exact .idle _
  | die =>
    cases phase with
    | exited killed => exact .idle _
    | _ => exact .dies nofun

/-! ### One line for each request -/

/-- The lines that answer these calls, one each, in their order. -/
def Transcribes (calls : List Call) (bytes : List Sent) : Prop :=
  ∃ lines : List (Call × Line), lines.map Prod.fst = calls ∧
    bytes = lines.flatMap fun line => mark (some line.1) line.2

/-- What it has written and has still to write is one line for each request that it has read, or
the error of its start-up alone; a process that is killed leaves the rest of a line out. -/
def Balanced (peer : Peer) : Prop :=
  match peer.phase with
  | .starting => peer.hasRead = [] ∧ peer.hasWritten = []
  | .scanning _ => Transcribes peer.hasRead peer.hasWritten
  | .writing rest next => Transcribes peer.hasRead (peer.hasWritten ++ rest) ∨
      next = false ∧ peer.hasRead = [] ∧ peer.hasWritten ++ rest = lastWords configurationLine
  | .exited killed => ∃ total, (Transcribes peer.hasRead total ∨
      peer.hasRead = [] ∧ total = lastWords configurationLine) ∧
        peer.hasWritten <+: total ∧ (killed = false → peer.hasWritten = total)

theorem Transcribes.snoc {calls : List Call} {bytes : List Sent}
    (transcribes : Transcribes calls bytes) (call : Call) (line : Line) :
    Transcribes (calls ++ [call]) (bytes ++ mark (some call) line) := by
  obtain ⟨lines, rfl, rfl⟩ := transcribes
  exact ⟨lines ++ [(call, line)], by simp, by simp⟩

theorem balanced_new : Balanced configurationLine Peer.new := ⟨rfl, rfl⟩

variable {configurationLine}

/-- Some bytes of a line are written. -/
theorem balanced_after {requests : List Request} {hungUp next : Bool}
    {replies hasWritten left : List Sent} {hasRead : List Call}
    (total : Transcribes hasRead (hasWritten ++ left) ∨
      next = false ∧ hasRead = [] ∧ hasWritten ++ left = lastWords configurationLine) :
    Balanced configurationLine
      ⟨requests, hungUp, .after left next, replies, hasRead, hasWritten⟩ := by
  rcases left with _ | ⟨byte, left⟩
  · rw [List.append_nil] at total
    cases next with
    | true => exact total.resolve_right fun never => Bool.noConfusion never.1
    | false => exact ⟨hasWritten, total.imp_right And.right, List.prefix_rfl, fun _ => rfl⟩
  · cases next <;> exact total

/-- **Every step keeps the balance.** -/
theorem Balanced.tick {peer : Peer} (balanced : Balanced configurationLine peer) (tick : Tick) :
    Balanced configurationLine (peer.tick configurationLine tick) := by
  have ticks := ticks_tick configurationLine peer tick
  generalize peer.tick configurationLine tick = after at ticks
  cases ticks with
  | idle => exact balanced
  | fails =>
    obtain ⟨nothing, silent⟩ := balanced
    exact Or.inr ⟨rfl, nothing, congrArg (· ++ lastWords configurationLine) silent⟩
  | starts =>
    obtain ⟨nothing, silent⟩ := balanced
    exact ⟨[], nothing.symm, silent⟩
  | serves line => exact Or.inl (Transcribes.snoc balanced _ line)
  | @ends _ _ _ hasWritten => exact ⟨hasWritten, Or.inl balanced, List.prefix_rfl, fun _ => rfl⟩
  | @writes _ _ rest _ _ _ hasWritten more =>
    have whole : hasWritten ++ rest.take (more + 1) ++ rest.drop (more + 1) =
        hasWritten ++ rest := by rw [List.append_assoc, List.take_append_drop]
    refine balanced_after ?_
    rw [whole]
    exact balanced
  | @dies _ _ phase _ _ hasWritten alive =>
    cases phase with
    | starting =>
      obtain ⟨nothing, silent⟩ := balanced
      exact ⟨[], Or.inl ⟨[], nothing.symm, rfl⟩, silent ▸ List.prefix_rfl, nofun⟩
    | scanning vehicle => exact ⟨hasWritten, Or.inl balanced, List.prefix_rfl, fun _ => rfl⟩
    | writing rest next =>
      refine ⟨hasWritten ++ rest, ?_, List.prefix_append _ _, nofun⟩
      rcases balanced with answers | ⟨-, both⟩
      · exact Or.inl answers
      · exact Or.inr both
    | exited killed => exact absurd rfl (alive killed)

/-! ### What is in the pipes -/

/-- A line ends where it is read to its end. -/
theorem eq_mark_of_newline {content rest : List Sent} {answers : Option Call} {line : Line}
    (whole : content ++ rest = mark answers line)
    (ended : newline ∈ content.map Sent.byte) : rest = [] ∧ content = mark answers line := by
  have marked : mark answers line =
      line.bytes.map (fun byte => ⟨byte, answers⟩) ++ [⟨newline, answers⟩] := List.map_append
  rcases List.eq_nil_or_concat rest with rfl | ⟨others, last, rfl⟩
  · exact ⟨rfl, by rw [← whole, List.append_nil]⟩
  · rw [marked, List.concat_eq_append, ← List.append_assoc] at whole
    have front := congrArg (List.map Sent.byte) (List.append_inj_left' whole rfl)
    rw [List.map_append, List.map_map] at front
    have member : newline ∈ line.bytes.map (Sent.byte ∘ fun byte => ⟨byte, answers⟩) :=
      front ▸ List.mem_append_left _ ended
    obtain ⟨byte, found, same⟩ := List.mem_map.mp member
    have isNewline : byte = newline := same
    exact absurd (isNewline ▸ found) line.isLine

theorem mark_ne_nil {answers : Option Call} {line : Line} : mark answers line ≠ [] := by
  simp [mark]

theorem mark_answers {answers : Option Call} {line : Line} :
    ∀ sent ∈ mark answers line, sent.answers = answers := by
  intro sent member
  obtain ⟨byte, -, rfl⟩ := List.mem_map.mp member
  rfl

variable (configurationLine)

/-- Between two calls nothing is in the pipes, but the error of a start-up. -/
def Clean (peer : Peer) : Prop :=
  match peer.phase with
  | .starting => peer.requests = [] ∧ peer.replies = []
  | .scanning _ => peer.requests = [] ∧ peer.replies = []
  | .writing rest next =>
    rest ≠ [] ∧ next = false ∧ peer.replies ++ rest = lastWords configurationLine
  | .exited _ => peer.replies <+: lastWords configurationLine

/-- During a call, with what it has read so far: its request waits, or its reply is under way, or
the error of the start-up is. -/
def Answering (call : Call) (content : List Sent) (peer : Peer) : Prop :=
  match peer.phase with
  | .starting => peer.requests = [⟨"poll", call⟩] ∧ content ++ peer.replies = []
  | .scanning _ => peer.requests = [⟨"poll", call⟩] ∧ content ++ peer.replies = [] ∨
      peer.requests = [] ∧ ∃ line, content ++ peer.replies = mark (some call) line
  | .writing rest next => rest ≠ [] ∧
      (peer.requests = [] ∧ (∃ line, content ++ peer.replies ++ rest = mark (some call) line) ∨
        next = false ∧ content ++ peer.replies ++ rest = lastWords configurationLine)
  | .exited _ => (∃ line, content ++ peer.replies <+: mark (some call) line) ∨
      content ++ peer.replies <+: lastWords configurationLine

variable {configurationLine} {call : Call} {content : List Sent} {peer : Peer}

theorem clean_new : Clean configurationLine Peer.new := ⟨rfl, rfl⟩

theorem Clean.tick (clean : Clean configurationLine peer) (tick : Tick) :
    Clean configurationLine (peer.tick configurationLine tick) := by
  have ticks := ticks_tick configurationLine peer tick
  generalize peer.tick configurationLine tick = after at ticks
  cases ticks with
  | idle => exact clean
  | fails => exact ⟨mark_ne_nil, rfl, congrArg (· ++ lastWords configurationLine) clean.2⟩
  | starts => exact clean
  | serves line => exact absurd clean.1 (List.cons_ne_nil _ _)
  | @ends _ replies =>
    obtain rfl : replies = [] := clean.2
    exact List.nil_prefix
  | @writes requests hungUp rest next replies hasRead hasWritten more =>
    obtain ⟨-, last, whole⟩ := clean
    obtain rfl : next = false := last
    have total : replies ++ rest.take (more + 1) ++ rest.drop (more + 1) =
        lastWords configurationLine := by
      rw [List.append_assoc, List.take_append_drop]
      exact whole
    generalize rest.drop (more + 1) = left at total ⊢
    rcases left with _ | ⟨byte, left⟩
    · exact ⟨[], total⟩
    · exact ⟨List.cons_ne_nil _ _, rfl, total⟩
  | @dies _ _ phase replies _ _ alive =>
    cases phase with
    | starting =>
      obtain rfl : replies = [] := clean.2
      exact List.nil_prefix
    | scanning vehicle =>
      obtain rfl : replies = [] := clean.2
      exact List.nil_prefix
    | writing rest next => exact ⟨rest, clean.2.2⟩
    | exited killed => exact absurd rfl (alive killed)

/-- A call writes its request. -/
theorem Clean.asked (clean : Clean configurationLine peer) (call : Call) :
    Answering configurationLine call []
      { peer with requests := peer.requests ++ [⟨"poll", call⟩] } := by
  obtain ⟨requests, hungUp, phase, replies, hasRead, hasWritten⟩ := peer
  cases phase with
  | starting =>
    obtain rfl : requests = [] := clean.1
    exact ⟨rfl, clean.2⟩
  | scanning vehicle =>
    obtain rfl : requests = [] := clean.1
    exact Or.inl ⟨rfl, clean.2⟩
  | writing rest next => exact ⟨clean.1, Or.inr clean.2⟩
  | exited killed => exact Or.inr clean

theorem Answering.tick (answering : Answering configurationLine call content peer) (tick : Tick) :
    Answering configurationLine call content (peer.tick configurationLine tick) := by
  have ticks := ticks_tick configurationLine peer tick
  generalize peer.tick configurationLine tick = after at ticks
  cases ticks with
  | idle => exact answering
  | fails =>
    exact ⟨mark_ne_nil, Or.inr ⟨rfl, congrArg (· ++ lastWords configurationLine) answering.2⟩⟩
  | starts => exact Or.inl answering
  | @serves _ _ request others _ _ _ _ line =>
    rcases answering with ⟨waits, silent⟩ | ⟨nothing, -⟩
    · obtain ⟨rfl, rfl⟩ := List.cons.inj waits
      exact ⟨mark_ne_nil, Or.inl ⟨rfl, line, congrArg (· ++ mark (some call) line) silent⟩⟩
    · exact absurd nothing (List.cons_ne_nil _ _)
  | ends =>
    rcases answering with ⟨waits, -⟩ | ⟨-, line, whole⟩
    · exact absurd waits.symm (List.cons_ne_nil _ _)
    · exact Or.inl ⟨line, whole ▸ List.prefix_rfl⟩
  | @writes requests hungUp rest next replies hasRead hasWritten more =>
    have total : content ++ (replies ++ rest.take (more + 1)) ++ rest.drop (more + 1) =
        content ++ replies ++ rest := by
      simp only [List.append_assoc, List.take_append_drop]
    obtain ⟨-, replied⟩ := answering
    simp only [← total] at replied
    generalize rest.drop (more + 1) = left at replied ⊢
    rcases left with _ | ⟨byte, left⟩
    · simp only [List.append_nil] at replied
      rcases replied with ⟨nothing, line, whole⟩ | ⟨last, whole⟩
      · cases next with
        | true => exact Or.inr ⟨nothing, line, whole⟩
        | false => exact Or.inl ⟨line, whole ▸ List.prefix_rfl⟩
      · obtain rfl : next = false := last
        exact Or.inr (whole ▸ List.prefix_rfl)
    · cases next <;> exact ⟨List.cons_ne_nil _ _, replied⟩
  | @dies _ _ phase _ _ _ alive =>
    cases phase with
    | starting => exact Or.inr (answering.2 ▸ List.nil_prefix)
    | scanning vehicle =>
      rcases answering with ⟨-, silent⟩ | ⟨-, line, whole⟩
      · exact Or.inr (silent ▸ List.nil_prefix)
      · exact Or.inl ⟨line, whole ▸ List.prefix_rfl⟩
    | writing rest next =>
      rcases answering.2 with ⟨-, line, whole⟩ | ⟨-, whole⟩
      · exact Or.inl ⟨line, rest, whole⟩
      · exact Or.inr ⟨rest, whole⟩
    | exited killed => exact absurd rfl (alive killed)

/-- What is in the pipe is read. -/
theorem Answering.read (answering : Answering configurationLine call content peer) (count : ℕ) :
    Answering configurationLine call (content ++ peer.replies.take count)
      { peer with replies := peer.replies.drop count } := by
  have same : content ++ peer.replies.take count ++ peer.replies.drop count =
      content ++ peer.replies := by rw [List.append_assoc, List.take_append_drop]
  unfold Answering at *
  simp only [same]
  exact answering

/-- What was read and is in the pipe begins the reply to this call, or the error of the start-up. -/
theorem Answering.begins (answering : Answering configurationLine call content peer) :
    (∃ line, content ++ peer.replies <+: mark (some call) line) ∨
      content ++ peer.replies <+: lastWords configurationLine := by
  obtain ⟨requests, hungUp, phase, replies, hasRead, hasWritten⟩ := peer
  cases phase with
  | starting => exact Or.inr (answering.2 ▸ List.nil_prefix)
  | scanning vehicle =>
    rcases answering with ⟨-, silent⟩ | ⟨-, line, whole⟩
    · exact Or.inr (silent ▸ List.nil_prefix)
    · exact Or.inl ⟨line, whole ▸ List.prefix_rfl⟩
  | writing rest next =>
    rcases answering.2 with ⟨-, line, whole⟩ | ⟨-, whole⟩
    · exact Or.inl ⟨line, rest, whole⟩
    · exact Or.inr ⟨rest, whole⟩
  | exited killed => exact answering

/-- What was read is of this call, or of the start-up. -/
theorem Answering.of_mem (answering : Answering configurationLine call content peer) :
    ∀ sent ∈ content, sent.answers = some call ∨ sent.answers = none := by
  intro sent member
  have both : sent ∈ content ++ peer.replies := List.mem_append_left _ member
  rcases answering.begins with ⟨line, begins⟩ | begins
  · exact Or.inl (mark_answers sent (begins.subset both))
  · exact Or.inr (mark_answers sent (begins.subset both))

/-- **A line that was read to its end** is all there is: the reply to this call, or the error of
the start-up. -/
theorem Answering.ended (answering : Answering configurationLine call content peer)
    (ended : newline ∈ content.map Sent.byte) :
    Clean configurationLine peer ∧
      ((∃ line, content = mark (some call) line) ∨ content = lastWords configurationLine) := by
  have nothing_left : ∀ {rest answers line}, content ++ peer.replies ++ rest = mark answers line →
      peer.replies = [] ∧ rest = [] ∧ content = mark answers line := by
    intro rest answers line whole
    rw [List.append_assoc] at whole
    obtain ⟨nothing, same⟩ := eq_mark_of_newline whole ended
    exact ⟨(List.append_eq_nil_iff.mp nothing).1, (List.append_eq_nil_iff.mp nothing).2, same⟩
  have ends : peer.replies = [] ∧
      ((∃ line, content = mark (some call) line) ∨ content = lastWords configurationLine) := by
    rcases answering.begins with ⟨line, rest, whole⟩ | ⟨rest, whole⟩
    · exact ⟨(nothing_left whole).1, Or.inl ⟨line, (nothing_left whole).2.2⟩⟩
    · exact ⟨(nothing_left whole).1, Or.inr (nothing_left whole).2.2⟩
  have read : content ≠ [] := by
    rintro rfl
    cases ended
  refine ⟨?_, ends.2⟩
  obtain ⟨requests, hungUp, phase, replies, hasRead, hasWritten⟩ := peer
  cases phase with
  | starting => exact absurd (List.append_eq_nil_iff.mp answering.2).1 read
  | scanning vehicle =>
    rcases answering with ⟨-, silent⟩ | ⟨nothing, -⟩
    · exact absurd (List.append_eq_nil_iff.mp silent).1 read
    · exact ⟨nothing, ends.1⟩
  | writing rest next =>
    obtain ⟨left, ⟨-, line, whole⟩ | ⟨-, whole⟩⟩ := answering
    · exact absurd (nothing_left whole).2.1 left
    · exact absurd (nothing_left whole).2.1 left
  | exited killed =>
    obtain rfl : replies = [] := ends.1
    exact List.nil_prefix

end Peers

end DbusEv.Pipe
