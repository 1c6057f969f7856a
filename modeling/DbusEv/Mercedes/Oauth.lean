/-
**The tokens of the account** (`dbus_ev/mercedes/vendor/oauth.py`) **across tasks and restarts.**

Any number of tasks of one process ask for a token; a token that lapses is refreshed under a lock,
with three awaits between which the other tasks run. The process may end at any time, and another
one continues from the token file.

* `isTokenExpired`, `addCustomValues` — the two functions that read the clock.
* `getCachedToken`, `enter` — `async_get_cached_token` up to its first await and under the lock.
* `proceed`, `takeReply` — `async_refresh_access_token` at its awaits; `signIn` — the end of
  `async_login_new`.
* `Kept` — what a process holds is what is on disk. So in every run a token that is handed out is on
  disk, the device keeps its identifier (`tokens_durable`), and a client of one task refreshes with
  the newest refresh token (`refreshes_newest`).
-/

import DbusEv.Lib.Trace
import DbusEv.Mercedes.Metadata

set_option autoImplicit false

namespace DbusEv.Oauth

open Mercedes (Exn itemIn)

/-! ### Tokens -/

/-- `value[key]`. -/
def subscript (key : String) : PyValue → Except Exn PyValue
  | .dict items =>
    match Dict.get items key with
    | some value => .ok value
    | none => .error (.other .key)
  | _ => .error (.other .type)

/-- `value - now < 60`. -/
def lapses (now : ℤ) : PyValue → Except Exn Bool
  | .bool value => .ok ((if value then 1 else 0) - now < 60)
  | .int value => .ok (value - now < 60)
  | .float (.finite value) =>
    match PyFloat.ofRat (value - now) with
    | .finite left => .ok (left < 60)
    | .inf negative => .ok negative
    | .nan => .ok false
  | .float (.inf negative) => .ok negative
  | .float .nan => .ok false
  | _ => .error (.other .type)

/-- `now + value`. -/
def sum (now : ℤ) : PyValue → Except Exn PyValue
  | .bool value => .ok (.int (now + if value then 1 else 0))
  | .int value => .ok (.int (now + value))
  | .float (.finite value) => .ok (.float (PyFloat.ofRat (now + value)))
  | .float other => .ok (.float other)
  | _ => .error (.other .type)

/-- `is_token_expired(token_info)` at `int(time.time())`. -/
def isTokenExpired (now : ℤ) : PyValue → Except Exn Bool
  | .none => .ok true
  | token => subscript "expires_at" token >>= lapses now

/-- `token_info[key] = value`. -/
def assign (key : String) (value : PyValue) : PyValue → Except Exn PyValue
  | .dict items => .ok (.dict (Dict.set items key value))
  | _ => .error (.other .type)

/-- `_add_custom_values_to_token_info(token_info)`. -/
def addCustomValues (now : ℤ) (token : PyValue) : Except Exn PyValue := do
  let lasts ← subscript "expires_in" token
  let lapse ← sum now lasts
  assign "expires_at" lapse token

/-- `token_info["refresh_token"]`, if it is there. -/
def refreshTokenOf (token : PyValue) : Except Exn (Option PyValue) :=
  if token.truthy then itemIn token "refresh_token" else .ok none

/-- A reply without a refresh token keeps the one that was sent. -/
def keepRefreshToken (sent token : PyValue) : Except Exn PyValue := do
  match ← itemIn token "refresh_token" with
  | some _ => pure token
  | none => assign "refresh_token" sent token

/-- What a refresh makes of the reply. -/
def refreshed (now : ℤ) (sent token : PyValue) : Except Exn PyValue :=
  keepRefreshToken sent token >>= addCustomValues now

/-! ### The state -/

/-- `str(uuid.uuid4())`. -/
structure Uuid where
  text : String
  filled : text ≠ ""

/-- A task that waits for the lock, with its `token_info`. -/
structure Waiter where
  task : ℕ
  known : PyValue

/-- What a refresh awaits. -/
inductive Stage
  | version
  | config
  | token
  deriving DecidableEq

/-- The task that holds the lock, with the refresh token it sends. -/
structure Holder where
  task : ℕ
  sent : PyValue
  stage : Stage

/-- The attributes of an `Oauth`, its store's `data`, and the tasks at its lock. -/
structure Client where
  region : String
  token : PyValue
  data : Dict PyValue
  deviceGuid : PyValue
  holder : Option Holder
  /-- First come, first served. -/
  waiters : List Waiter

/-- What happens, newest first. -/
inductive Event
  /-- A task looks for a token that has lapsed. -/
  | called (task : ℕ)
  /-- A refresh request is sent. -/
  | asked (task : ℕ) (refreshToken : PyValue)
  /-- A file is in place. -/
  | stored (saved : Dict PyValue)
  | returned (task : ℕ) (token : PyValue) (now : ℤ)
  | raised (task : ℕ) (error : Exn)

/-- The token file, and the process that owns it. -/
structure State where
  file : Option (Dict PyValue)
  client : Option Client
  trace : List Event

namespace State

def note (s : State) (event : Event) : State := { s with trace := event :: s.trace }

def put (s : State) (client : Client) : State := { s with client := some client }

end State

/-- `store.data.get("token")`. -/
def tokenOf (data : Dict PyValue) : PyValue := (data.get "token").getD .none

/-- `store.data.get("device_guid")`. -/
def deviceGuidOf (data : Dict PyValue) : PyValue := (data.get "device_guid").getD .none

/-- `TokenStore(path)` and `Oauth.__init__`. -/
def Client.new (region : String) (uuid : Uuid) (data : Dict PyValue) : Client where
  region := region
  token := tokenOf data
  data := data
  deviceGuid := Mercedes.orElse (deviceGuidOf data) (.str uuid.text)
  holder := none
  waiters := []

/-! ### The steps -/

namespace Client

/-- The task awaits something of the client. -/
def isSuspended (c : Client) (task : ℕ) : Bool :=
  c.holder.any (·.task = task) || c.waiters.any (·.task = task)

/-- The token `async_get_cached_token` starts with. -/
def known (c : Client) : Option PyValue :=
  if c.token.truthy then some c.token
  else if (tokenOf c.data).truthy then some (tokenOf c.data) else none

/-- What `_save_token_info` saves. -/
def saved (c : Client) (token : PyValue) : Dict PyValue :=
  [("region", .str c.region), ("device_guid", c.deviceGuid), ("token", token)]

/-- The lock is free. -/
def unlock (c : Client) : Client := { c with holder := none }

end Client

section Steps

variable (task : ℕ) (now : ℤ) (c : Client) (s : State)

/-- A task raises. -/
def raise (e : Exn) : State := (s.put c.unlock).note (.raised task e)

/-- A task returns the token, which is `self.token` now. -/
def hand (token : PyValue) : State :=
  (s.put { c.unlock with token := token }).note (.returned task token now)

/-- `self.store.save(…)` with a store that saves, and `self.token = token_info`. -/
def keep (token : PyValue) : State :=
  { s with
    file := some (c.saved token)
    client := some { c with data := c.saved token, token := token }
    trace := .stored (c.saved token) :: s.trace }

/-- The task has the lock: it looks again. -/
def enter (known : PyValue) : State :=
  match isTokenExpired now (if c.token.truthy then c.token else known) with
  | .error e => raise task c s e
  | .ok false => hand task now c s c.token
  | .ok true =>
    match refreshTokenOf known with
    | .error e => raise task c s e
    | .ok none => (s.put c.unlock).note (.returned task .none now)
    | .ok (some sent) => s.put { c with holder := some ⟨task, sent, .version⟩ }

/-- `async_get_cached_token`, up to its first await. -/
def getCachedToken : State :=
  match c.known with
  | none => s.note (.returned task .none now)
  | some known =>
    match isTokenExpired now known with
    | .error e => s.note (.raised task e)
    | .ok false => (s.put { c with token := known }).note (.returned task known now)
    | .ok true =>
      -- The lock is taken at once only if nobody waits for it.
      if c.holder.isNone && c.waiters.isEmpty then enter task now c (s.note (.called task)) known
      else (s.note (.called task)).put { c with waiters := c.waiters ++ [⟨task, known⟩] }

/-- The first task that waits has the lock. -/
def wake : State :=
  match c.holder, c.waiters with
  | none, first :: rest => enter first.task now { c with waiters := rest } s first.known
  | _, _ => s

/-- A request before the refresh ends: `async_refresh` of the app version, `/v1/config`. -/
def proceed (raises : Option Exn) : State :=
  match c.holder with
  | none => s
  | some holder =>
    match raises, holder.stage with
    | some e, _ => raise holder.task c s e
    | none, .version => s.put { c with holder := some { holder with stage := .config } }
    | none, .config =>
      (s.put { c with holder := some { holder with stage := .token } }).note
        (.asked holder.task holder.sent)
    | none, .token => s

/-- The refresh request ends. -/
def takeReply (reply : Except Exn PyValue) (saves : Option Exn) : State :=
  match c.holder with
  | none => s
  | some holder =>
    if holder.stage = .token then
      match reply with
      | .error e => raise holder.task c s e
      | .ok .none => hand holder.task now c s .none
      | .ok reply =>
        match refreshed now holder.sent reply, saves with
        | .error e, _ => raise holder.task c s e
        | .ok _, some e => raise holder.task c s e
        | .ok token, none =>
          (keep c.unlock s token).note (.returned holder.task token now)
    else s

/-- `async_login_new` from the reply with its tokens on. -/
def signIn (reply : PyValue) (saves : Option Exn) : State :=
  match addCustomValues now reply, saves with
  | .error e, _ => s.note (.raised task e)
  | .ok _, some e => s.note (.raised task e)
  | .ok token, none => keep c s token

/-- A task that waits for the lock is cancelled. -/
def cancel : State := s.put { c with waiters := c.waiters.filter (·.task ≠ task) }

end Steps

/-- What the process and its environment do. -/
inductive Input
  | launch (region : String) (uuid : Uuid)
  | kill
  | get (task : ℕ) (now : ℤ)
  | wake (now : ℤ)
  | proceed (raises : Option Exn)
  | reply (now : ℤ) (reply : Except Exn PyValue) (saves : Option Exn)
  | signIn (task : ℕ) (now : ℤ) (reply : PyValue) (saves : Option Exn)
  | cancel (task : ℕ)

/-- The input happens to a process that lives; a task that awaits does nothing else. -/
def Input.happen (c : Client) (s : State) : Input → State
  | .launch _ _ => s
  | .kill => { s with client := none }
  | .get task now => if c.isSuspended task then s else getCachedToken task now c s
  | .wake now => Oauth.wake now c s
  | .proceed raises => Oauth.proceed c s raises
  | .reply now answer saves => takeReply now c s answer saves
  | .signIn task now answer saves =>
    if c.isSuspended task then s else Oauth.signIn task now c s answer saves
  | .cancel task => Oauth.cancel task c s

def step (s : State) (input : Input) : State :=
  match s.client, input with
  | some c, input => input.happen c s
  | none, .launch region uuid => s.put (.new region uuid (s.file.getD []))
  | none, _ => s

/-- A run from a token file. -/
def run (initial : Option (Dict PyValue)) (inputs : List Input) : State :=
  inputs.foldl step ⟨initial, none, []⟩

/-! ### The file and the trace -/

section Trace

variable (initial : Option (Dict PyValue))

/-- The file after these events. -/
def contents : List Event → Option (Dict PyValue)
  | [] => initial
  | .stored saved :: _ => some saved
  | _ :: earlier => contents earlier

/-- What a store reads after these events. -/
def dataAt (trace : List Event) : Dict PyValue := (contents initial trace).getD []

/-- Since the task looked for a token, one was stored. -/
def storedSince (task : ℕ) : List Event → Bool
  | [] => false
  | .stored _ :: _ => true
  | .called other :: earlier => if other = task then false else storedSince task earlier
  | _ :: earlier => storedSince task earlier

/-- A refresh sends the newest refresh token. -/
def Newest : Event → List Event → Prop
  | .asked _ refreshToken, earlier =>
    refreshTokenOf (tokenOf (dataAt initial earlier)) = .ok (some refreshToken)
  | _, _ => True

/-- A refresh sends the newest refresh token, unless another token was stored since its task looked
for one; a file names the device as the one before did; and a token that is handed out is on disk,
and lasts, unless it was stored for this task just now. -/
def Lawful : Event → List Event → Prop
  | .asked task refreshToken, earlier =>
    refreshTokenOf (tokenOf (dataAt initial earlier)) = .ok (some refreshToken) ∨
      storedSince task earlier = true
  | .stored saved, earlier =>
    (deviceGuidOf saved).truthy = true ∧ ((deviceGuidOf (dataAt initial earlier)).truthy = true →
      deviceGuidOf saved = deviceGuidOf (dataAt initial earlier))
  | .returned _ token now, earlier =>
    token.truthy = true → token = tokenOf (dataAt initial earlier) ∧
      (isTokenExpired now token = .ok false ∨ ∃ saved before, earlier = .stored saved :: before)
  | _, _ => True

/-- The event neither looks for a token nor stores one. -/
def Event.isQuiet : Event → Bool
  | .called _ => false
  | .stored _ => false
  | _ => true

theorem contents_quiet {event : Event} (quiet : event.isQuiet = true) (trace : List Event) :
    contents initial (event :: trace) = contents initial trace := by
  cases event with
  | called task => cases quiet
  | stored saved => cases quiet
  | asked task refreshToken => rfl
  | returned task token now => rfl
  | raised task e => rfl

theorem storedSince_quiet {event : Event} (quiet : event.isQuiet = true) (task : ℕ)
    (trace : List Event) : storedSince task (event :: trace) = storedSince task trace := by
  cases event with
  | called other => cases quiet
  | stored saved => cases quiet
  | asked other refreshToken => rfl
  | returned other token now => rfl
  | raised other e => rfl

end Trace

/-! ### What is kept -/

/-- What a process holds is what is on disk; a task that waits, or refreshes, does so for the token
on disk, unless another one was stored since. -/
structure Loaded (s : State) (c : Client) : Prop where
  data : c.data = s.file.getD []
  token : c.token.truthy = true → c.token = tokenOf c.data
  named : c.deviceGuid.truthy = true
  deviceGuid : (deviceGuidOf c.data).truthy = true → c.deviceGuid = deviceGuidOf c.data
  waiters : ∀ waiter ∈ c.waiters,
    waiter.known = tokenOf c.data ∨ storedSince waiter.task s.trace = true
  holder : ∀ holder, c.holder = some holder →
    refreshTokenOf (tokenOf c.data) = .ok (some holder.sent) ∨
      storedSince holder.task s.trace = true

structure Kept (initial : Option (Dict PyValue)) (s : State) : Prop where
  law : Throughout (Lawful initial) s.trace
  file : s.file = contents initial s.trace
  client : ∀ c, s.client = some c → Loaded s c

section Steps

variable {initial : Option (Dict PyValue)} {s : State} {c : Client} {task : ℕ} {now : ℤ}
  {known : PyValue}

theorem Loaded.unlock (loaded : Loaded s c) : Loaded s c.unlock :=
  ⟨loaded.data, loaded.token, loaded.named, loaded.deviceGuid, loaded.waiters, nofun⟩

theorem Loaded.withToken (loaded : Loaded s c) {token : PyValue}
    (held : token.truthy = true → token = tokenOf c.data) :
    Loaded s { c with token := token } :=
  ⟨loaded.data, held, loaded.named, loaded.deviceGuid, loaded.waiters, loaded.holder⟩

theorem Loaded.withWaiters (loaded : Loaded s c) {waiters : List Waiter}
    (wait : ∀ waiter ∈ waiters,
      waiter.known = tokenOf c.data ∨ storedSince waiter.task s.trace = true) :
    Loaded s { c with waiters := waiters } :=
  ⟨loaded.data, loaded.token, loaded.named, loaded.deviceGuid, wait, loaded.holder⟩

theorem Loaded.withHolder (loaded : Loaded s c) {holder : Holder}
    (sends : refreshTokenOf (tokenOf c.data) = .ok (some holder.sent) ∨
      storedSince holder.task s.trace = true) :
    Loaded s { c with holder := some holder } := by
  refine ⟨loaded.data, loaded.token, loaded.named, loaded.deviceGuid, loaded.waiters, ?_⟩
  rintro other ⟨rfl⟩
  exact sends

theorem Loaded.quiet (loaded : Loaded s c) {event : Event} (quiet : event.isQuiet = true) :
    Loaded (s.note event) c := by
  refine ⟨loaded.data, loaded.token, loaded.named, loaded.deviceGuid, fun waiter member => ?_,
    fun holder held => ?_⟩
  · show _ ∨ storedSince waiter.task (event :: s.trace) = true
    rw [storedSince_quiet quiet]
    exact loaded.waiters waiter member
  · show _ ∨ storedSince holder.task (event :: s.trace) = true
    rw [storedSince_quiet quiet]
    exact loaded.holder holder held

/-- A task that awaits nothing looks for a token. -/
theorem Loaded.called (loaded : Loaded s c) (awake : c.isSuspended task = false) :
    Loaded (s.note (.called task)) c := by
  unfold Client.isSuspended at awake
  obtain ⟨held, waiting⟩ := Bool.or_eq_false_iff.mp awake
  have same : ∀ other, task ≠ other →
      storedSince other (s.note (.called task)).trace = storedSince other s.trace :=
    fun other differs => if_neg differs
  refine ⟨loaded.data, loaded.token, loaded.named, loaded.deviceGuid, fun waiter member => ?_,
    fun holder holds => ?_⟩
  · have differs : ¬ waiter.task = task := by
      simpa using List.any_eq_false.mp waiting waiter member
    rw [same _ (Ne.symm differs)]
    exact loaded.waiters waiter member
  · have differs : ¬ holder.task = task := by simpa [holds] using held
    rw [same _ (Ne.symm differs)]
    exact loaded.holder holder holds

/-- The token that a task starts with is on disk. -/
theorem Loaded.found (loaded : Loaded s c) (found : c.known = some known) :
    known.truthy = true ∧ known = tokenOf c.data := by
  unfold Client.known at found
  by_cases held : c.token.truthy = true
  · rw [if_pos held] at found
    cases found
    exact ⟨held, loaded.token held⟩
  · rw [if_neg held] at found
    by_cases stored : (tokenOf c.data).truthy = true
    · rw [if_pos stored] at found
      cases found
      exact ⟨stored, rfl⟩
    · rw [if_neg stored] at found
      cases found

theorem Kept.put (kept : Kept initial s) (loaded : Loaded s c) : Kept initial (s.put c) := by
  refine ⟨kept.law, kept.file, fun other alive => ?_⟩
  cases Option.some.inj alive
  exact ⟨loaded.data, loaded.token, loaded.named, loaded.deviceGuid, loaded.waiters, loaded.holder⟩

theorem Kept.note (kept : Kept initial s) {event : Event} (quiet : event.isQuiet = true)
    (lawful : Lawful initial event s.trace) : Kept initial (s.note event) := by
  refine ⟨⟨lawful, kept.law⟩, ?_, fun other alive => (kept.client other alive).quiet quiet⟩
  show s.file = contents initial (event :: s.trace)
  rw [contents_quiet initial quiet]
  exact kept.file

theorem Kept.dataAt (kept : Kept initial s) (loaded : Loaded s c) :
    c.data = dataAt initial s.trace := by
  rw [loaded.data, kept.file]
  rfl

theorem kept_raise (kept : Kept initial s) (loaded : Loaded s c) (e : Exn) :
    Kept initial (raise task c s e) :=
  (kept.put loaded.unlock).note rfl trivial

/-- A token that lasts is handed out. -/
theorem kept_hand (kept : Kept initial s) (loaded : Loaded s c) {token : PyValue}
    (held : token.truthy = true → token = tokenOf c.data ∧ isTokenExpired now token = .ok false) :
    Kept initial (hand task now c s token) := by
  refine (kept.put (loaded.unlock.withToken fun holds => (held holds).1)).note rfl fun holds => ?_
  obtain ⟨stored, lasts⟩ := held holds
  exact ⟨stored.trans (congrArg tokenOf (kept.dataAt loaded)), .inl lasts⟩

/-- A token is stored. -/
theorem kept_keep (kept : Kept initial s) (loaded : Loaded s c) (token : PyValue) :
    Kept initial (keep c s token) := by
  refine ⟨⟨⟨loaded.named, fun named => ?_⟩, kept.law⟩, rfl, fun other alive => ?_⟩
  · rw [← kept.dataAt loaded] at named ⊢
    exact loaded.deviceGuid named
  · cases Option.some.inj alive
    exact ⟨rfl, fun _ => rfl, loaded.named, fun _ => rfl, fun _ _ => .inr rfl, fun _ _ => .inr rfl⟩

theorem kept_enter (kept : Kept initial s) (loaded : Loaded s c)
    (found : known = tokenOf c.data ∨ storedSince task s.trace = true) :
    Kept initial (enter task now c s known) := by
  unfold enter
  cases lasts : isTokenExpired now (if c.token.truthy then c.token else known) with
  | error e => exact kept_raise kept loaded e
  | ok expired =>
    cases expired with
    | false =>
      refine kept_hand kept loaded fun holds => ⟨loaded.token holds, ?_⟩
      rw [if_pos holds] at lasts
      exact lasts
    | true =>
      simp only
      cases sends : refreshTokenOf known with
      | error e => exact kept_raise kept loaded e
      | ok refreshToken =>
        cases refreshToken with
        | none => exact (kept.put loaded.unlock).note rfl nofun
        | some sent =>
          refine kept.put (loaded.withHolder (found.imp (fun same => ?_) id))
          rw [← same]
          exact sends

theorem kept_getCachedToken (kept : Kept initial s) (loaded : Loaded s c)
    (alive : s.client = some c) (awake : c.isSuspended task = false) :
    Kept initial (getCachedToken task now c s) := by
  unfold getCachedToken
  cases found : c.known with
  | none => exact kept.note rfl nofun
  | some known =>
    obtain ⟨-, stored⟩ := loaded.found found
    simp only
    cases lasts : isTokenExpired now known with
    | error e => exact kept.note rfl trivial
    | ok expired =>
      cases expired with
      | false =>
        refine (kept.put (loaded.withToken fun _ => stored)).note rfl fun _ => ⟨?_, .inl lasts⟩
        exact stored.trans (congrArg tokenOf (kept.dataAt loaded))
      | true =>
        have called := loaded.called awake
        have kept' : Kept initial (s.note (.called task)) := by
          refine ⟨⟨trivial, kept.law⟩, kept.file, fun other same => ?_⟩
          cases Option.some.inj (alive.symm.trans same)
          exact called
        simp only
        split
        · exact kept_enter kept' called (.inl stored)
        · refine kept'.put (called.withWaiters fun waiter member => ?_)
          rcases List.mem_append.mp member with earlier | last
          · exact called.waiters waiter earlier
          · cases List.mem_singleton.mp last
            exact .inl stored

theorem kept_wake (kept : Kept initial s) (loaded : Loaded s c) :
    Kept initial (wake now c s) := by
  unfold wake
  split
  · rename_i first rest _ waiting
    have both := loaded.waiters
    rw [waiting] at both
    obtain ⟨head, tail⟩ := List.forall_mem_cons.mp both
    exact kept_enter kept (loaded.withWaiters tail) head
  · exact kept

theorem kept_proceed (kept : Kept initial s) (loaded : Loaded s c) (raises : Option Exn) :
    Kept initial (proceed c s raises) := by
  unfold proceed
  cases held : c.holder with
  | none => exact kept
  | some holder =>
    have sends := loaded.holder holder held
    rcases raises with _ | e
    · obtain ⟨owner, sent, stage⟩ := holder
      cases stage with
      | version => exact kept.put (loaded.withHolder sends)
      | config =>
        have lawful : Lawful initial (.asked owner sent) s.trace := by
          show refreshTokenOf (tokenOf (dataAt initial s.trace)) = _ ∨ _
          rw [← kept.dataAt loaded]
          exact sends
        have asking : Loaded s { c with holder := some ⟨owner, sent, .token⟩ } :=
          loaded.withHolder sends
        exact (kept.put asking).note rfl lawful
      | token => exact kept
    · exact kept_raise kept loaded e

theorem kept_takeReply (kept : Kept initial s) (loaded : Loaded s c)
    (reply : Except Exn PyValue) (saves : Option Exn) :
    Kept initial (takeReply now c s reply saves) := by
  unfold takeReply
  cases held : c.holder with
  | none => exact kept
  | some holder =>
    simp only
    by_cases asks : holder.stage = .token
    · rw [if_pos asks]
      split
      · exact kept_raise kept loaded _
      · exact kept_hand kept loaded nofun
      · split
        · exact kept_raise kept loaded _
        · exact kept_raise kept loaded _
        · rename_i token _
          refine (kept_keep kept loaded.unlock token).note rfl fun _ => ⟨rfl, .inr ⟨_, _, rfl⟩⟩
    · rw [if_neg asks]
      exact kept

theorem kept_signIn (kept : Kept initial s) (loaded : Loaded s c) (reply : PyValue)
    (saves : Option Exn) : Kept initial (signIn task now c s reply saves) := by
  unfold signIn
  split
  · exact kept.note rfl trivial
  · exact kept.note rfl trivial
  · exact kept_keep kept loaded _

/-- **A step** keeps the process and the disk in agreement. -/
theorem Kept.step (kept : Kept initial s) (input : Input) : Kept initial (step s input) := by
  unfold Oauth.step
  cases alive : s.client with
  | some c =>
    have loaded := kept.client c alive
    simp only
    unfold Input.happen
    cases input with
    | launch region uuid => exact kept
    | kill => exact ⟨kept.law, kept.file, nofun⟩
    | get task now =>
      simp only
      cases awake : c.isSuspended task with
      | true => exact kept
      | false => exact kept_getCachedToken kept loaded alive awake
    | wake now => exact kept_wake kept loaded
    | proceed raises => exact kept_proceed kept loaded raises
    | reply now reply saves => exact kept_takeReply kept loaded reply saves
    | signIn task now reply saves =>
      simp only
      split
      · exact kept
      · exact kept_signIn kept loaded reply saves
    | cancel task =>
      exact kept.put (loaded.withWaiters fun waiter member =>
        loaded.waiters waiter (List.mem_of_mem_filter member))
  | none =>
    cases input with
    | launch region uuid =>
      refine kept.put ⟨rfl, fun _ => rfl, ?_, fun named => if_pos named, nofun, nofun⟩
      show (Mercedes.orElse _ _).truthy = true
      unfold Mercedes.orElse
      by_cases named : (deviceGuidOf (s.file.getD [])).truthy = true
      · rw [if_pos named]
        exact named
      · rw [if_neg named]
        exact decide_eq_true uuid.filled
    | kill => exact kept
    | get task now => exact kept
    | wake now => exact kept
    | proceed raises => exact kept
    | reply now reply saves => exact kept
    | signIn task now reply saves => exact kept
    | cancel task => exact kept

end Steps

theorem kept_run (initial : Option (Dict PyValue)) (inputs : List Input) :
    Kept initial (run initial inputs) := by
  induction inputs using List.reverseRecOn with
  | nil => exact ⟨trivial, rfl, nofun⟩
  | append_singleton inputs input ih =>
    unfold run
    rw [List.foldl_append]
    exact ih.step input

/-! ### Every run -/

/-- Every file names the device as the last one does. -/
theorem device_kept {initial : Option (Dict PyValue)} {trace : List Event}
    (law : Throughout (Lawful initial) trace) :
    ((deviceGuidOf (initial.getD [])).truthy = true →
        deviceGuidOf (dataAt initial trace) = deviceGuidOf (initial.getD [])) ∧
      ∀ saved, .stored saved ∈ trace → (deviceGuidOf saved).truthy = true ∧
        deviceGuidOf saved = deviceGuidOf (dataAt initial trace) := by
  induction trace with
  | nil => exact ⟨fun _ => rfl, fun saved member => absurd member List.not_mem_nil⟩
  | cons event earlier ih =>
    obtain ⟨lawful, before⟩ := law
    obtain ⟨first, others⟩ := ih before
    cases event with
    | stored saved =>
      obtain ⟨named, same⟩ := lawful
      refine ⟨fun holds => ?_, fun other member => ?_⟩
      · have held := first holds
        rw [held] at same
        exact same holds
      · rcases List.mem_cons.mp member with here | member
        · cases here
          exact ⟨named, rfl⟩
        · obtain ⟨filled, equal⟩ := others other member
          rw [equal] at filled
          exact ⟨equal ▸ filled, equal.trans (same filled).symm⟩
    | called task => exact ⟨first, fun saved member => others saved (by simpa using member)⟩
    | asked task sent => exact ⟨first, fun saved member => others saved (by simpa using member)⟩
    | returned task token now =>
      exact ⟨first, fun saved member => others saved (by simpa using member)⟩
    | raised task e => exact ⟨first, fun saved member => others saved (by simpa using member)⟩

/-- **Tokens are durable**, in every run of any tasks over any restarts. A token is handed out only
when it is on disk, and lasts unless it was stored just now; a refresh sends the refresh token on
disk, unless another token was stored since its task looked for one; and the device keeps its name
from its first file on. -/
theorem tokens_durable (initial : Option (Dict PyValue)) (inputs : List Input) :
    let s := run initial inputs
    Throughout (Lawful initial) s.trace ∧ s.file = contents initial s.trace ∧
      ((deviceGuidOf (initial.getD [])).truthy = true →
        deviceGuidOf (s.file.getD []) = deviceGuidOf (initial.getD [])) ∧
      (∀ saved, .stored saved ∈ s.trace → deviceGuidOf saved = deviceGuidOf (s.file.getD [])) ∧
      ∀ c, s.client = some c → c.data = s.file.getD [] ∧
        (c.token.truthy = true → c.token = tokenOf c.data) := by
  intro s
  have kept := kept_run initial inputs
  obtain ⟨first, others⟩ := device_kept kept.law
  have data : s.file.getD [] = dataAt initial s.trace := congrArg (Option.getD · []) kept.file
  rw [data]
  exact ⟨kept.law, kept.file, first, fun saved member => (others saved member).2, fun c alive =>
    ⟨data ▸ (kept.client c alive).data, (kept.client c alive).token⟩⟩

/-- A reply with a refresh token. -/
def tokenReply (name : String) (lasts : ℤ) : PyValue :=
  .dict [("access_token", .str name), ("refresh_token", .str name), ("expires_in", .int lasts)]

/-- The inputs of a refresh at this time, which is answered so. -/
def refreshing (task : ℕ) (now : ℤ) (reply : PyValue) : List Input :=
  [.get task now, .proceed none, .proceed none, .reply now (.ok reply) none]

/-- A token that lapses at once, while another task waits to refresh the one before it. -/
def overtaken : List Input :=
  [.launch "Europe" ⟨"device", by decide⟩, .signIn 0 1000 (tokenReply "first" 3600) none,
    .get 0 5000, .get 1 5000, .proceed none, .proceed none,
    .reply 5000 (.ok (tokenReply "second" 30)) none, .wake 5000, .proceed none, .proceed none]

/-- The other task then sends the refresh token that was used. -/
example : (run none overtaken).trace.head? = some (.asked 1 (.str "first")) ∧
    refreshTokenOf (tokenOf (dataAt none (run none overtaken).trace)) =
      .ok (some (.str "second")) := ⟨rfl, rfl⟩

/-! ### One task -/

/-- No other task asks for tokens. -/
def Input.By (task : ℕ) : Input → Prop
  | .get other _ => other = task
  | .signIn other _ _ _ => other = task
  | _ => True

/-- Nobody waits, and no token was stored since the task looked for one. -/
structure Alone (initial : Option (Dict PyValue)) (task : ℕ) (s : State) : Prop where
  newest : Throughout (Newest initial) s.trace
  waiters : ∀ c, s.client = some c → c.waiters = []
  holder : ∀ c, s.client = some c → ∀ holder, c.holder = some holder →
    holder.task = task ∧ storedSince task s.trace = false

section Alone

variable {initial : Option (Dict PyValue)} {s : State} {c : Client} {task : ℕ} {now : ℤ}

theorem Alone.put (alone : Alone initial task s) (waiters : c.waiters = [])
    (holder : ∀ holder, c.holder = some holder →
      holder.task = task ∧ storedSince task s.trace = false) : Alone initial task (s.put c) := by
  refine ⟨alone.newest, fun other alive => ?_, fun other alive => ?_⟩
  · cases Option.some.inj alive
    exact waiters
  · cases Option.some.inj alive
    exact holder

theorem Alone.note (alone : Alone initial task s) {event : Event} (quiet : event.isQuiet = true)
    (newest : Newest initial event s.trace) : Alone initial task (s.note event) := by
  refine ⟨⟨newest, alone.newest⟩, alone.waiters, fun c alive holder held => ?_⟩
  show _ ∧ storedSince task (event :: s.trace) = false
  rw [storedSince_quiet quiet]
  exact alone.holder c alive holder held

/-- Nobody holds the lock. -/
theorem Alone.putFree (alone : Alone initial task s) (waiters : c.waiters = [])
    (free : c.holder = none) : Alone initial task (s.put c) := by
  refine alone.put waiters fun holder held => ?_
  rw [free] at held
  cases held

theorem alone_raise (alone : Alone initial task s) (waiters : c.waiters = []) (other : ℕ)
    (e : Exn) : Alone initial task (raise other c s e) := by
  have unlocked : Alone initial task (s.put c.unlock) := alone.putFree waiters rfl
  exact unlocked.note rfl trivial

theorem alone_hand (alone : Alone initial task s) (waiters : c.waiters = []) (other : ℕ)
    (token : PyValue) : Alone initial task (hand other now c s token) := by
  have unlocked : Alone initial task (s.put { c.unlock with token := token }) :=
    alone.putFree waiters rfl
  exact unlocked.note rfl trivial

theorem alone_keep (alone : Alone initial task s) (waiters : c.waiters = [])
    (free : c.holder = none) (token : PyValue) : Alone initial task (keep c s token) := by
  refine ⟨⟨trivial, alone.newest⟩, fun other alive => ?_, fun other alive holder held => ?_⟩
  · cases Option.some.inj alive
    exact waiters
  · cases Option.some.inj alive
    rw [show c.holder = some holder from held] at free
    cases free

/-- The task does nothing else while it refreshes. -/
theorem Alone.free (alone : Alone initial task s) (alive : s.client = some c)
    (awake : c.isSuspended task = false) : c.holder = none := by
  cases held : c.holder with
  | none => rfl
  | some holder =>
    have suspended : c.isSuspended task = true := by
      unfold Client.isSuspended
      rw [held, Option.any_some, (alone.holder c alive holder held).1, decide_eq_true rfl]
      rfl
    rw [awake] at suspended
    cases suspended

theorem alone_getCachedToken (alone : Alone initial task s) (alive : s.client = some c)
    (free : c.holder = none) : Alone initial task (getCachedToken task now c s) := by
  have waiters := alone.waiters c alive
  unfold getCachedToken
  cases c.known with
  | none => exact alone.note rfl trivial
  | some known =>
    simp only
    cases isTokenExpired now known with
    | error e => exact alone.note rfl trivial
    | ok expired =>
      cases expired with
      | false =>
        have held : Alone initial task (s.put { c with token := known }) :=
          alone.putFree waiters free
        exact held.note rfl trivial
      | true =>
        have called : Alone initial task (s.note (.called task)) := by
          refine ⟨⟨trivial, alone.newest⟩, alone.waiters, fun other same holder held => ?_⟩
          cases Option.some.inj (alive.symm.trans same)
          rw [held] at free
          cases free
        simp only
        rw [if_pos (by rw [free, waiters]; rfl)]
        unfold enter
        split
        · exact alone_raise called waiters task _
        · exact alone_hand called waiters task _
        · split
          · exact alone_raise called waiters task _
          · have unlocked : Alone initial task ((s.note (.called task)).put c.unlock) :=
              called.putFree waiters rfl
            exact unlocked.note rfl trivial
          · refine called.put waiters ?_
            rintro holder ⟨rfl⟩
            exact ⟨rfl, if_pos rfl⟩

theorem alone_proceed (alone : Alone initial task s) (kept : Kept initial s)
    (alive : s.client = some c) (raises : Option Exn) :
    Alone initial task (proceed c s raises) := by
  have waiters := alone.waiters c alive
  unfold proceed
  cases held : c.holder with
  | none => exact alone
  | some holder =>
    obtain ⟨mine, unchanged⟩ := alone.holder c alive holder held
    have loaded := kept.client c alive
    have sends := (loaded.holder holder held).resolve_right fun since => by
      rw [mine, unchanged] at since
      cases since
    rcases raises with _ | e
    · obtain ⟨owner, sent, stage⟩ := holder
      have holds : ∀ next : Stage, ∀ other : Holder, some (Holder.mk owner sent next) = some other →
          other.task = task ∧ storedSince task s.trace = false := by
        rintro next other ⟨rfl⟩
        exact ⟨mine, unchanged⟩
      cases stage with
      | version => exact alone.put waiters (holds .config)
      | config =>
        have asking : Alone initial task
            (s.put { c with holder := some ⟨owner, sent, .token⟩ }) :=
          alone.put waiters (holds .token)
        have newest : Newest initial (.asked owner sent) s.trace := by
          show refreshTokenOf (tokenOf (dataAt initial s.trace)) = _
          rw [← kept.dataAt loaded]
          exact sends
        exact asking.note rfl newest
      | token => exact alone
    · exact alone_raise alone waiters holder.task e

theorem alone_takeReply (alone : Alone initial task s) (alive : s.client = some c)
    (reply : Except Exn PyValue) (saves : Option Exn) :
    Alone initial task (takeReply now c s reply saves) := by
  have waiters := alone.waiters c alive
  unfold takeReply
  cases c.holder with
  | none => exact alone
  | some holder =>
    simp only
    by_cases asks : holder.stage = .token
    · rw [if_pos asks]
      split
      · exact alone_raise alone waiters holder.task _
      · exact alone_hand alone waiters holder.task _
      · split
        · exact alone_raise alone waiters holder.task _
        · exact alone_raise alone waiters holder.task _
        · rename_i token _
          have unlocked : c.unlock.waiters = [] := waiters
          have stored : Alone initial task (keep c.unlock s token) :=
            alone_keep alone unlocked rfl token
          exact stored.note rfl trivial
    · rw [if_neg asks]
      exact alone

/-- **A step** of the only task. -/
theorem Alone.step (alone : Alone initial task s) (kept : Kept initial s) {input : Input}
    (mine : input.By task) : Alone initial task (step s input) := by
  unfold Oauth.step
  cases alive : s.client with
  | some c =>
    have waiters := alone.waiters c alive
    simp only
    unfold Input.happen
    cases input with
    | launch region uuid => exact alone
    | kill => exact ⟨alone.newest, nofun, nofun⟩
    | get other now =>
      cases mine
      simp only
      cases awake : c.isSuspended task with
      | true => exact alone
      | false => exact alone_getCachedToken alone alive (alone.free alive awake)
    | wake now =>
      show Alone initial task (wake now c s)
      unfold wake
      rw [waiters]
      split
      · rename_i waits
        cases waits
      · exact alone
    | proceed raises => exact alone_proceed alone kept alive raises
    | reply now reply saves => exact alone_takeReply alone alive reply saves
    | signIn other now reply saves =>
      cases mine
      simp only
      cases awake : c.isSuspended task with
      | true => exact alone
      | false =>
        show Alone initial task (signIn task now c s reply saves)
        unfold signIn
        split
        · exact alone.note rfl trivial
        · exact alone.note rfl trivial
        · exact alone_keep alone waiters (alone.free alive awake) _
    | cancel other =>
      refine alone.put ?_ (alone.holder c alive)
      show c.waiters.filter _ = []
      rw [waiters]
      rfl
  | none =>
    cases input with
    | launch region uuid => exact alone.put rfl nofun
    | kill => exact alone
    | get other now => exact alone
    | wake now => exact alone
    | proceed raises => exact alone
    | reply now reply saves => exact alone
    | signIn other now reply saves => exact alone
    | cancel other => exact alone

end Alone

/-- **One task refreshes with the newest refresh token**: the client's `_serve` is the only task
that asks for tokens, so every refresh request carries the refresh token of the last token that was
stored, over any restarts, replies, failures and saves that raise. -/
theorem refreshes_newest (initial : Option (Dict PyValue)) (task : ℕ) (inputs : List Input)
    (mine : ∀ input ∈ inputs, input.By task) :
    Throughout (Newest initial) (run initial inputs).trace := by
  suffices alone : Alone initial task (run initial inputs) from alone.newest
  induction inputs using List.reverseRecOn with
  | nil => exact ⟨trivial, nofun, nofun⟩
  | append_singleton inputs input ih =>
    obtain ⟨earlier, last⟩ := List.forall_mem_append.mp mine
    have kept := kept_run initial inputs
    have alone := (ih earlier).step kept (last input List.mem_cons_self)
    unfold run at alone ⊢
    rw [List.foldl_append]
    exact alone

/-- A sign-in, a refresh of the token once it lapses, and another one after a restart. -/
def someRefreshes : List Input :=
  [.launch "Europe" ⟨"device", by decide⟩, .signIn 0 1000 (tokenReply "first" 3600) none] ++
    refreshing 0 5000 (tokenReply "second" 3600) ++
    [.kill, .launch "Europe" ⟨"other", by decide⟩] ++
    refreshing 0 9000 (tokenReply "third" 3600)

theorem someRefreshes_newest : Throughout (Newest none) (run none someRefreshes).trace := by
  refine refreshes_newest none 0 someRefreshes fun input member => ?_
  simp only [someRefreshes, refreshing, List.cons_append, List.nil_append, List.mem_cons,
    List.not_mem_nil, or_false] at member
  rcases member with rfl | rfl | rfl | rfl | rfl | rfl | rfl | rfl | rfl | rfl | rfl | rfl <;>
    first | rfl | trivial

end DbusEv.Oauth
