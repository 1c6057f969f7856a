/-
**The update** (`update.sh`): a release, or the installed package itself, is installed on a device
that can lose its power at any moment.

The script checks everything before it stops the worker, and stops the worker before it changes a
file. What it changes then is a list of tasks; a run that dies has done so many of their writes.

* `Node`, `Disk` — what the paths of the device hold.
* `validate`, `stopWorker` — the checks, and the wait for the worker.
* `tasks` — what the script replaces, part by part.
* `Run`, `after` — a history of runs, some of them stopped.
-/

import DbusEv.BootFile
import DbusEv.Lib.Tasks
import Mathlib.Data.List.Nodup

set_option autoImplicit false

namespace DbusEv.Update

open DbusEv.BootFile DbusEv.Tasks

/-! ### The device -/

/-- A file, a directory with its files, or a symbolic link. -/
inductive Node where
  | file (lines : List String)
  | directory (files : List (List String × List String))
  | link (target : String)
  deriving DecidableEq

/-- What the paths hold. The service directories are looked into path by path; another directory
carries its files. Where the script does not ask for a link, a path is what it leads to; the files
that the script has for a moment only (its staging, and those it renames) are left out. -/
abbrev Disk := String → Option Node

/-- `"$directory/$name"`. -/
def join (directory name : String) : String := directory ++ "/" ++ name

def installDir : String := "/data/dbus-ev"
def serviceTarget : String := "/data/dbus-ev/service/dbus-ev"
def serviceLink : String := "/service/dbus-ev"
def legacyOpt : String := "/opt/victronenergy/dbus-ev"
def setupOptionsDir : String := "/data/setupOptions/dbus-ev"
def rcLocal : String := "/data/rc.local"

/-- `LOCAL_ONLY`. -/
def localOnly : String := "local_config.py"

/-- `RUNTIME_ITEMS`. -/
def runtimeItems : List String :=
  ["update.sh", "dbus_ev", "version", "setup", "gitHubInfo", "local_config.example.py",
    "configure.py", "ha", "install-mercedes-deps.sh", "install-tls-deps.sh",
    "requirements-mercedes.txt", "requirements-tls.txt", "requirements-tls-armv7.txt"]

/-- `STALE_TOP_LEVEL`. -/
def staleTopLevel : List String := ["main.py", "inverter_control"]

/-- The scripts of the unit. -/
def runFiles : List String := ["run", "log/run"]

/-- The path of an installed item. -/
def installed (item : String) : String := join installDir item

/-- What a path leads to, through this many links. -/
def follow (disk : Disk) : ℕ → String → Option Node
  | 0, _ => none
  | n + 1, path =>
    match disk path with
    | some (.link target) => follow disk n target
    | other => other

/-- What a path leads to. -/
def resolve (disk : Disk) (path : String) : Option Node := follow disk 40 path

/-- `find … -type d -name supervise -prune -exec rm -rf`. -/
def withoutSupervise : Node → Node
  | .directory files => .directory (files.filter fun file => "supervise" ∉ file.1.dropLast)
  | other => other

/-! ### A call -/

/-- What `svc` and `svstat` do while the worker is stopped. -/
structure Supervisor where
  /-- Whether `svc -d` succeeds. -/
  down : Bool
  /-- Whether `svc -k` succeeds. -/
  kill : Bool
  /-- What `svstat` prints after so many seconds. -/
  svstat : ℕ → String

/-- What a run gets from outside. -/
structure Call where
  /-- `$1`, empty where there is none. -/
  argument : String
  srcDir : String
  /-- `PUSH_LOCAL_CONFIG` is `1`. -/
  pushLocalConfig : Bool
  /-- The first Python script, which reads the configuration. -/
  dependencies : Option Node → Except String Unit
  /-- The second one: whether the configuration enables the charger. -/
  chargerEnabled : Option Node → Bool
  /-- `svc` and `svstat` are there. -/
  commands : Bool
  supervisor : Supervisor
  /-- What is left of a node whose copy or removal is cut. -/
  left : Node → Option Node

namespace Call

variable (call : Call) (disk : Disk)

/-- The configuration that the checks read. -/
def config : Option Node :=
  resolve disk (join (if call.pushLocalConfig then call.srcDir else installDir) localOnly)

/-- `"$STAGING_DIR/source/$item"`, once staged. -/
def staged (item : String) : Option Node :=
  if (resolve disk (join call.srcDir item)).isSome then
    (disk (join call.srcDir item)).map withoutSupervise
  else none

/-- `UNIT_SOURCE`. -/
def unitSource : String :=
  match disk (join call.srcDir "service/dbus-ev") with
  | some (.directory _) => "service/dbus-ev"
  | _ => "services/dbus-ev"

/-- A script of the unit that the release brings. -/
def unitFile (file : String) : Option Node :=
  disk (join call.srcDir (join (call.unitSource disk) file))

end Call

/-! ### The checks -/

/-- `if … then echo … >&2; exit 1; fi`. -/
def require (ok : Prop) [Decidable ok] (message : String) : Except String Unit :=
  if ok then .ok () else .error message

/-- A regular file. -/
def IsFile : Option Node → Prop
  | some (.file _) => True
  | _ => False

instance : DecidablePred IsFile
  | some (.file _) => isTrue trivial
  | some (.directory _) => isFalse id
  | some (.link _) => isFalse id
  | none => isFalse id

/-- A directory, or nothing. -/
def FitsDirectory : Option Node → Prop
  | some (.directory _) => True
  | none => True
  | _ => False

instance : DecidablePred FitsDirectory
  | some (.file _) => isFalse id
  | some (.directory _) => isTrue trivial
  | some (.link _) => isFalse id
  | none => isTrue trivial

/-- The directories that are looked at. -/
def serviceDirectories : List String :=
  ["/data/dbus-ev/service", "/data/dbus-ev/service/dbus-ev", "/data/dbus-ev/service/dbus-ev/log"]

/-- The link must be absent, or lead to the service. -/
def checkLink (disk : Disk) : Except String Unit :=
  match disk serviceLink with
  | some (.link target) => require (target = serviceTarget)
    ("Refusing to replace an unexpected service symlink: " ++ serviceLink)
  | some _ =>
    .error ("Legacy service directory requires migration before updating: " ++ serviceLink)
  | none => .ok ()

/-- Everything that is checked before the worker is stopped. -/
def validate (call : Call) (disk : Disk) : Except String Unit := do
  require (call.argument = "" ∨ call.argument = installDir)
    "Unsupported install directory: use /data/dbus-ev"
  call.dependencies (call.config disk)
  require (¬ ((resolve disk "/service/dbus-evcharger").isSome ∧
    call.chargerEnabled (call.config disk)))
    "Remove the old /service/dbus-evcharger before enabling the unified charger"
  require call.commands ""
  runFiles.forM fun file => require (IsFile (call.unitFile disk file))
    ("Missing service definition: " ++ join (call.unitSource disk) file)
  checkLink disk
  serviceDirectories.forM fun directory => require (FitsDirectory (disk directory))
    ("Unexpected service directory layout: " ++ directory)
  require ((disk legacyOpt).isNone)
    ("Legacy firmware installation requires migration before updating: " ++ legacyOpt)

/-! ### Stopping the worker -/

/-- What a part of the script does: the calls of `svc`, and how it ends. -/
structure Outcome (α : Type) where
  commands : List (String × String)
  verdict : Except String α

/-- `case "$status" in *": down "*)`. -/
def isDown (status : String) : Bool := decide (": down ".toList <:+: status.toList)

/-- The loop of `stop_worker`, with this many seconds to go. -/
def awaitDown (supervisor : Supervisor) : ℕ → Outcome Unit
  | 0 => ⟨[], .error ("Service did not stop; runtime files were not changed: " ++ serviceLink)⟩
  | left + 1 =>
    if isDown (supervisor.svstat (24 - left)) then ⟨[], .ok ()⟩
    else if 24 - left = 20 then
      if supervisor.kill then
        ⟨("-k", serviceLink) :: (awaitDown supervisor left).commands,
          (awaitDown supervisor left).verdict⟩
      else ⟨[("-k", serviceLink)], .error ""⟩
    else awaitDown supervisor left

/-- `stop_worker`. -/
def stopWorker (supervisor : Supervisor) (disk : Disk) : Outcome Unit :=
  if (resolve disk serviceLink).isNone then ⟨[], .ok ()⟩
  else if supervisor.down then
    ⟨("-d", serviceLink) :: (awaitDown supervisor 25).commands, (awaitDown supervisor 25).verdict⟩
  else ⟨[("-d", serviceLink)], .error ""⟩

/-! ### What is replaced -/

/-- The parts of the script, in its order. -/
inductive Part where
  | directory | items | serviceDirectories | runFiles | downFiles | restore | stale | push | link
  | boot
  deriving DecidableEq

/-- The parts, in the order of the script. -/
def Part.all : List Part :=
  [.directory, .items, .serviceDirectories, .runFiles, .downFiles, .restore, .stale, .push, .link,
    .boot]

/-- `mkdir -p`. -/
def makeDirectory (disk : Disk) (path : String) : List (Task String (Option Node)) :=
  if (disk path).isNone then [⟨path, [], some (.directory [])⟩] else []

/-- `rm -rf` and `cp -a` of an item that was staged. -/
def installItem (call : Call) (disk : Disk) (item : String) : List (Task String (Option Node)) :=
  match call.staged disk item with
  | some node =>
    [⟨installed item, [(disk (installed item)).bind call.left, none, call.left node], some node⟩]
  | none => []

/-- `cp -p` over a file. -/
def copyFile (call : Call) (path : String) (lines : List String) : Task String (Option Node) :=
  ⟨path, [call.left (.file lines)], some (.file lines)⟩

/-- The lines of `rc.local`, which is created where there is none. -/
def bootLines (disk : Disk) : List String :=
  match disk rcLocal with
  | some (.file lines) => lines
  | _ => ["#!/bin/sh"]

/-- The file is created, `sed -i` replaces it, and `cat` writes it again. -/
def bootTask (call : Call) (disk : Disk) : Task String (Option Node) where
  place := rcLocal
  passing :=
    (if IsFile (disk rcLocal) then []
      else [call.left (.file ["#!/bin/sh"]), some (.file ["#!/bin/sh"])]) ++
      [some (.file (deleteBlock (bootLines disk))),
        call.left (.file (refresh (bootLines disk)))]
  last := some (.file (refresh (bootLines disk)))

/-- `cp -p` of the copy that was kept of the configuration. -/
def restoreConfig (call : Call) (disk : Disk) : List (Task String (Option Node)) :=
  match disk (installed localOnly) with
  | some (.file lines) => [copyFile call (installed localOnly) lines]
  | _ => []

/-- The configuration of the release is pushed if that is asked for. -/
def pushConfig (call : Call) (disk : Disk) : List (Task String (Option Node)) :=
  match call.pushLocalConfig, call.staged disk localOnly with
  | true, some (.file lines) =>
    makeDirectory disk setupOptionsDir ++ [copyFile call (installed localOnly) lines,
      copyFile call (join setupOptionsDir localOnly) lines]
  | _, _ => []

/-- A valid link stays. -/
def linkService (disk : Disk) : List (Task String (Option Node)) :=
  match disk serviceLink with
  | some (.link _) => []
  | _ => [⟨serviceLink, [], some (.link serviceTarget)⟩]

/-- The tasks of a part. -/
def part (call : Call) (disk : Disk) : Part → List (Task String (Option Node))
  | .directory => makeDirectory disk installDir
  | .items => runtimeItems.flatMap (installItem call disk)
  | .serviceDirectories => serviceDirectories.flatMap (makeDirectory disk)
  -- the new script is written beside the old one and renamed over it
  | .runFiles => runFiles.map fun file => ⟨join serviceTarget file, [], call.unitFile disk file⟩
  | .downFiles => ["down", "log/down"].map fun file => ⟨join serviceTarget file, [], none⟩
  | .restore => restoreConfig call disk
  | .stale => staleTopLevel.map fun file =>
    ⟨installed file, [(disk (installed file)).bind call.left], none⟩
  | .push => pushConfig call disk
  | .link => linkService disk
  | .boot => [bootTask call disk]

/-- Everything that is replaced. -/
def tasks (call : Call) (disk : Disk) : List (Task String (Option Node)) :=
  Part.all.flatMap (part call disk)

/-- The script up to the moment when it changes the first file. -/
def update (call : Call) (disk : Disk) : Outcome (List (Task String (Option Node))) :=
  match validate call disk with
  | .error message => ⟨[], .error message⟩
  | .ok () =>
    match stopWorker call.supervisor disk with
    | ⟨commands, .error message⟩ => ⟨commands, .error message⟩
    | ⟨commands, .ok ()⟩ => ⟨commands, .ok (tasks call disk)⟩

/-! ### A history of runs -/

/-- A run, which stops after so many writes, or goes to its end. A command that fails stops it. -/
structure Run where
  call : Call
  stop : Option ℕ

/-- What a run leaves on the device. -/
def Run.result (run : Run) (disk : Disk) : Disk :=
  match (update run.call disk).verdict with
  | .error _ => disk
  | .ok tasks =>
    match run.stop with
    | some n => stopped tasks n disk
    | none => finish tasks disk

/-- What a history of runs leaves on the device. -/
def after (history : List Run) (disk : Disk) : Disk :=
  history.foldl (fun disk run => run.result disk) disk

@[simp] theorem after_nil (disk : Disk) : after [] disk = disk := rfl

@[simp] theorem after_cons (run : Run) (history : List Run) (disk : Disk) :
    after (run :: history) disk = after history (run.result disk) := rfl

/-! ### What the checks promise -/

variable {call : Call} {disk : Disk}

theorem require_ok {ok : Prop} [Decidable ok] {message : String}
    (passed : require ok message = .ok ()) : ok := by
  by_contra fails
  unfold require at passed
  rw [if_neg fails] at passed
  cases passed

/-- The first of two checks passes, and the second. -/
theorem bind_ok {first : Except String Unit} {second : Except String Unit}
    (passed : (first >>= fun _ => second) = .ok ()) : first = .ok () ∧ second = .ok () := by
  cases first with
  | error message => cases passed
  | ok value => exact ⟨rfl, passed⟩

theorem forM_ok {names : List String} {check : String → Except String Unit}
    (passed : names.forM check = .ok ()) : ∀ name ∈ names, check name = .ok () := by
  induction names with
  | nil => exact fun name member => absurd member List.not_mem_nil
  | cons first rest ih =>
    obtain ⟨here, later⟩ := bind_ok passed
    exact List.forall_mem_cons.mpr ⟨here, ih later⟩

/-- The layout that the script works with. -/
structure Layout (disk : Disk) : Prop where
  link : disk serviceLink = none ∨ disk serviceLink = some (.link serviceTarget)
  directories : ∀ directory ∈ serviceDirectories, FitsDirectory (disk directory)
  legacy : disk legacyOpt = none

theorem link_of_checkLink (passed : checkLink disk = .ok ()) :
    disk serviceLink = none ∨ disk serviceLink = some (.link serviceTarget) := by
  unfold checkLink at passed
  rcases found : disk serviceLink with _ | ⟨lines⟩ | ⟨files⟩ | ⟨target⟩
  · exact Or.inl rfl
  · rw [found] at passed
    cases passed
  · rw [found] at passed
    cases passed
  · rw [found] at passed
    rw [require_ok passed]
    exact Or.inr rfl

/-- **The checks**: the release has its scripts, and the layout is the one that is expected. -/
theorem validate_ok (passed : validate call disk = .ok ()) :
    (∀ file ∈ runFiles, IsFile (call.unitFile disk file)) ∧ Layout disk := by
  obtain ⟨-, passed⟩ := bind_ok passed
  obtain ⟨-, passed⟩ := bind_ok passed
  obtain ⟨-, passed⟩ := bind_ok passed
  obtain ⟨-, passed⟩ := bind_ok passed
  obtain ⟨unit, passed⟩ := bind_ok passed
  obtain ⟨link, passed⟩ := bind_ok passed
  obtain ⟨directories, legacy⟩ := bind_ok passed
  refine ⟨fun file member => require_ok (forM_ok unit file member), link_of_checkLink link,
    fun directory member => require_ok (forM_ok directories directory member), ?_⟩
  exact Option.isNone_iff_eq_none.mp (require_ok legacy)

/-- The wait ends well only if `svstat` has shown the worker down. -/
theorem awaitDown_ok {supervisor : Supervisor} {left : ℕ} (within : left ≤ 25)
    (stops : (awaitDown supervisor left).verdict = .ok ()) :
    ∃ waited < 25, isDown (supervisor.svstat waited) = true := by
  induction left with
  | zero => cases stops
  | succ left ih =>
    unfold awaitDown at stops
    by_cases down : isDown (supervisor.svstat (24 - left)) = true
    · exact ⟨24 - left, by omega, down⟩
    · rw [if_neg down] at stops
      by_cases late : 24 - left = 20
      · rw [if_pos late] at stops
        cases kill : supervisor.kill with
        | false =>
          rw [kill] at stops
          cases stops
        | true =>
          rw [kill] at stops
          exact ih (by omega) stops
      · rw [if_neg late] at stops
        exact ih (by omega) stops

theorem stopWorker_ok {supervisor : Supervisor}
    (stops : (stopWorker supervisor disk).verdict = .ok ()) :
    resolve disk serviceLink = none ∨ ∃ waited < 25, isDown (supervisor.svstat waited) = true := by
  unfold stopWorker at stops
  by_cases absent : (resolve disk serviceLink).isNone
  · exact Or.inl (Option.isNone_iff_eq_none.mp absent)
  · rw [if_neg absent] at stops
    cases down : supervisor.down with
    | false =>
      rw [down] at stops
      cases stops
    | true =>
      rw [down] at stops
      exact Or.inr (awaitDown_ok le_rfl stops)

/-- **A run that changes anything** has passed the checks, and has no worker beside it. -/
theorem update_ok {replaced : List (Task String (Option Node))}
    (starts : (update call disk).verdict = .ok replaced) :
    replaced = tasks call disk ∧ validate call disk = .ok () ∧
      (stopWorker call.supervisor disk).verdict = .ok () := by
  unfold update at starts
  cases checked : validate call disk with
  | error message =>
    rw [checked] at starts
    cases starts
  | ok value =>
    rw [checked] at starts
    rcases stops : stopWorker call.supervisor disk with ⟨commands, message | value⟩
    · rw [stops] at starts
      cases starts
    · rw [stops] at starts
      cases starts
      exact ⟨rfl, rfl, rfl⟩

/-! ### Where the parts write -/

/-- The places of a part. -/
def places : Part → List String
  | .directory => [installDir]
  | .items => runtimeItems.map installed
  | .serviceDirectories => serviceDirectories
  | .runFiles => runFiles.map (join serviceTarget)
  | .downFiles => ["down", "log/down"].map (join serviceTarget)
  | .restore => [installed localOnly]
  | .stale => staleTopLevel.map installed
  | .push => [setupOptionsDir, installed localOnly, join setupOptionsDir localOnly]
  | .link => [serviceLink]
  | .boot => [rcLocal]

/-- Everything that a run may write. -/
def owned : List String := Part.all.flatMap places

theorem place_of_makeDirectory {path : String} {task : Task String (Option Node)}
    (member : task ∈ makeDirectory disk path) : task.place = path ∧ task.passing = [] ∧
      task.last = some (.directory []) ∧ disk path = none := by
  unfold makeDirectory at member
  by_cases absent : (disk path).isNone
  · rw [if_pos absent] at member
    rw [List.mem_singleton.mp member]
    exact ⟨rfl, rfl, rfl, Option.isNone_iff_eq_none.mp absent⟩
  · rw [if_neg absent] at member
    cases member

theorem mem_installItem {item : String} {task : Task String (Option Node)}
    (member : task ∈ installItem call disk item) :
    task.place = installed item ∧ task.last = call.staged disk item ∧
      (call.staged disk item).isSome := by
  unfold installItem at member
  cases staged : call.staged disk item with
  | none =>
    rw [staged] at member
    cases member
  | some node =>
    rw [staged] at member
    rw [List.mem_singleton.mp member]
    exact ⟨rfl, rfl, rfl⟩

theorem mem_restoreConfig {task : Task String (Option Node)}
    (member : task ∈ restoreConfig call disk) : ∃ lines,
      disk (installed localOnly) = some (.file lines) ∧
        task = copyFile call (installed localOnly) lines := by
  unfold restoreConfig at member
  split at member
  · exact ⟨_, ‹_›, List.mem_singleton.mp member⟩
  · cases member

theorem mem_pushConfig {task : Task String (Option Node)} (member : task ∈ pushConfig call disk) :
    call.pushLocalConfig = true ∧ ∃ lines, call.staged disk localOnly = some (.file lines) ∧
      (task ∈ makeDirectory disk setupOptionsDir ∨
        task = copyFile call (installed localOnly) lines ∨
        task = copyFile call (join setupOptionsDir localOnly) lines) := by
  unfold pushConfig at member
  split at member
  · refine ⟨‹_›, _, ‹_›, (List.mem_append.mp member).imp id fun copied => ?_⟩
    exact List.mem_pair.mp copied
  · cases member

theorem mem_linkService {task : Task String (Option Node)} (member : task ∈ linkService disk) :
    task = ⟨serviceLink, [], some (.link serviceTarget)⟩ ∧
      ∀ target, disk serviceLink ≠ some (.link target) := by
  unfold linkService at member
  split at member
  · cases member
  · exact ⟨List.mem_singleton.mp member, ‹_›⟩

/-- **Every part writes its own places.** -/
theorem place_mem_places {k : Part} {task : Task String (Option Node)}
    (member : task ∈ part call disk k) : task.place ∈ places k := by
  cases k with
  | directory =>
    rw [(place_of_makeDirectory member).1]
    exact List.mem_singleton_self _
  | items =>
    obtain ⟨item, listed, member⟩ := List.mem_flatMap.mp member
    rw [(mem_installItem member).1]
    exact List.mem_map_of_mem listed
  | serviceDirectories =>
    obtain ⟨directory, listed, member⟩ := List.mem_flatMap.mp member
    rw [(place_of_makeDirectory member).1]
    exact listed
  | runFiles =>
    obtain ⟨file, listed, rfl⟩ := List.mem_map.mp member
    exact List.mem_map_of_mem listed
  | downFiles =>
    obtain ⟨file, listed, rfl⟩ := List.mem_map.mp member
    exact List.mem_map_of_mem listed
  | restore =>
    obtain ⟨lines, -, rfl⟩ := mem_restoreConfig member
    exact List.mem_singleton_self _
  | stale =>
    obtain ⟨file, listed, rfl⟩ := List.mem_map.mp member
    exact List.mem_map_of_mem listed
  | push =>
    obtain ⟨-, lines, -, made | rfl | rfl⟩ := mem_pushConfig member
    · rw [(place_of_makeDirectory made).1]
      exact List.mem_cons_self
    · exact List.mem_cons_of_mem _ List.mem_cons_self
    · exact List.mem_cons_of_mem _ (List.mem_cons_of_mem _ List.mem_cons_self)
  | link =>
    rw [(mem_linkService member).1]
    exact List.mem_singleton_self _
  | boot =>
    rw [List.mem_singleton.mp member]
    exact List.mem_singleton_self _

/-- No place is in two parts, but for the configuration. -/
theorem places_apart : ∀ k ∈ Part.all, ∀ k' ∈ Part.all, ∀ place ∈ places k, place ∈ places k' →
    k = k' ∨ place = installed localOnly := by
  decide +kernel

theorem mem_all (k : Part) : k ∈ Part.all := by cases k <;> decide

theorem mem_tasks {task : Task String (Option Node)} :
    task ∈ tasks call disk ↔ ∃ k, task ∈ part call disk k := by
  unfold tasks
  rw [List.mem_flatMap]
  exact ⟨fun ⟨k, _, member⟩ => ⟨k, member⟩, fun ⟨k, member⟩ => ⟨k, mem_all k, member⟩⟩

/-- A place belongs to one part. -/
theorem mem_part {k : Part} {task : Task String (Option Node)} {place : String}
    (member : task ∈ tasks call disk) (here : task.place = place) (inside : place ∈ places k)
    (other : place ≠ installed localOnly) : task ∈ part call disk k := by
  obtain ⟨k', member⟩ := mem_tasks.mp member
  have there := place_mem_places member
  rw [here] at there
  cases places_apart k (mem_all k) k' (mem_all k') place inside there with
  | inl same => exact same ▸ member
  | inr configuration => exact absurd configuration other

theorem place_mem_owned {task : Task String (Option Node)} (member : task ∈ tasks call disk) :
    task.place ∈ owned := by
  obtain ⟨k, member⟩ := mem_tasks.mp member
  exact List.mem_flatMap.mpr ⟨k, mem_all k, place_mem_places member⟩

/-- The paths of the items differ, and none is that of the configuration. -/
theorem installed_facts : (runtimeItems.map installed).Nodup ∧
    (∀ item ∈ runtimeItems, installed item ≠ installed localOnly) ∧
    (∀ item ∈ staleTopLevel, installed item ≠ installed localOnly) ∧
    (∀ file ∈ runFiles ++ ["down", "log/down"], join serviceTarget file ≠ installed localOnly) ∧
    serviceLink ≠ installed localOnly ∧ rcLocal ≠ installed localOnly := by
  decide +kernel

/-- What is installed as an item is what was staged. -/
theorem last_of_item {item : String} {task : Task String (Option Node)}
    (member : task ∈ tasks call disk) (here : task.place = installed item)
    (listed : item ∈ runtimeItems) :
    task.last = call.staged disk item ∧ (call.staged disk item).isSome := by
  obtain ⟨different, apart, -⟩ := installed_facts
  have inside := mem_part (k := .items) member here (List.mem_map_of_mem listed)
    (apart item listed)
  obtain ⟨other, listed', installs⟩ := List.mem_flatMap.mp inside
  obtain ⟨there, last, some⟩ := mem_installItem installs
  have same : other = item :=
    List.inj_on_of_nodup_map different listed' listed (there.symm.trans here)
  rw [same] at last some
  exact ⟨last, some⟩

/-! ### What a history leaves alone -/

/-- A run changes nothing, or has done some of the writes. -/
theorem result_cases (run : Run) (disk : Disk) : run.result disk = disk ∨
    validate run.call disk = .ok () ∧ (stopWorker run.call.supervisor disk).verdict = .ok () ∧
      ∃ n, run.result disk = stopped (tasks run.call disk) n disk := by
  unfold Run.result
  cases starts : (update run.call disk).verdict with
  | error message => exact Or.inl rfl
  | ok replaced =>
    obtain ⟨same, checked, stops⟩ := update_ok starts
    refine Or.inr ⟨checked, stops, ?_⟩
    cases run.stop with
    | some n => exact ⟨n, by rw [same]⟩
    | none => exact ⟨_, by rw [same]; exact finish_eq_stopped _ disk⟩

/-- What every run keeps is kept by a history. -/
theorem after_keeps (Holds : Disk → Prop) {history : List Run}
    (step : ∀ run ∈ history, ∀ disk, Holds disk → Holds (run.result disk)) {disk : Disk}
    (start : Holds disk) : Holds (after history disk) := by
  induction history generalizing disk with
  | nil => exact start
  | cons run rest ih =>
    obtain ⟨first, later⟩ := List.forall_mem_cons.mp step
    exact ih later (first disk start)

/-- What a place may hold is kept by a run, if its tasks write nothing else. -/
theorem result_holds (Holds : Option Node → Prop) {run : Run} {path : String}
    (start : Holds (disk path))
    (kept : validate run.call disk = .ok () → ∀ task ∈ tasks run.call disk, task.place = path →
      Holds task.last ∧ ∀ content ∈ task.passing, Holds content) :
    Holds (run.result disk path) := by
  rcases result_cases run disk with same | ⟨checked, -, n, stops⟩
  · rw [same]
    exact start
  · rw [stops]
    exact stopped_holds Holds n start (kept checked)

/-- What is not owned is left alone. -/
theorem result_of_not_owned {path : String} (foreign : path ∉ owned) (run : Run) (disk : Disk) :
    run.result disk path = disk path := by
  apply result_holds (· = disk path) rfl
  intro _ task member here
  exact absurd (here ▸ place_mem_owned member) foreign

theorem after_of_not_owned {path : String} (foreign : path ∉ owned) (history : List Run)
    (disk : Disk) : after history disk path = disk path :=
  after_keeps (fun later => later path = disk path)
    (fun run _ later kept => (result_of_not_owned foreign run later).trans kept) rfl

/-- A path that no run writes: it is not owned, nor in a directory that is replaced. -/
def Outside (path : String) : Prop :=
  path ∉ owned ∧ ∀ item ∈ runtimeItems ++ staleTopLevel,
    ¬ (installed item ++ "/").toList <+: path.toList

/-- Whatever is at the link stays there. -/
theorem result_link {node : Node} (there : disk serviceLink = some node) (run : Run) :
    run.result disk serviceLink = some node := by
  apply result_holds (· = some node) there
  intro checked task member here
  obtain ⟨-, layout⟩ := validate_ok checked
  obtain ⟨-, -, -, -, other, -⟩ := installed_facts
  obtain ⟨-, none⟩ := mem_linkService
    (mem_part (k := .link) member here List.mem_cons_self other)
  cases layout.link with
  | inl absent =>
    rw [absent] at there
    cases there
  | inr valid => exact absurd valid (none _)

/-- The paths of the layout are not that of the configuration, and the old one is not owned. -/
theorem layout_facts : legacyOpt ∉ owned ∧
    (∀ directory ∈ serviceDirectories, directory ≠ installed localOnly) := by
  decide +kernel

/-- **A run keeps the layout.** -/
theorem result_layout (layout : Layout disk) (run : Run) : Layout (run.result disk) := by
  obtain ⟨foreign, apart⟩ := layout_facts
  obtain ⟨-, -, -, -, other, -⟩ := installed_facts
  refine ⟨?_, fun directory listed => ?_, ?_⟩
  · refine result_holds (fun node => node = none ∨ node = some (.link serviceTarget))
      layout.link fun _ task member here => ?_
    obtain ⟨rfl, -⟩ := mem_linkService (mem_part (k := .link) member here List.mem_cons_self other)
    exact ⟨Or.inr rfl, fun content inside => absurd inside List.not_mem_nil⟩
  · refine result_holds FitsDirectory (layout.directories directory listed)
      fun _ task member here => ?_
    obtain ⟨one, _, makes⟩ := List.mem_flatMap.mp
      (mem_part (k := .serviceDirectories) member here listed (apart directory listed))
    obtain ⟨-, passing, last, -⟩ := place_of_makeDirectory makes
    rw [passing, last]
    exact ⟨trivial, fun content inside => absurd inside List.not_mem_nil⟩
  · rw [result_of_not_owned foreign]
    exact layout.legacy

/-- `svstat` never shows the worker down. -/
def Supervisor.NeverDown (supervisor : Supervisor) : Prop :=
  ∀ waited < 25, isDown (supervisor.svstat waited) = false

/-- Beside a worker that does not stop nothing is changed. -/
theorem result_of_neverDown {run : Run} (up : run.call.supervisor.NeverDown)
    (service : (resolve disk serviceLink).isSome) : run.result disk = disk := by
  rcases result_cases run disk with same | ⟨-, stops, -⟩
  · exact same
  · rcases stopWorker_ok stops with absent | ⟨waited, soon, down⟩
    · rw [absent] at service
      cases service
    · rw [up waited soon] at down
      cases down

/-- What is written over the configuration, if none is pushed, is the configuration. -/
theorem config_of_mem_tasks (kept : call.pushLocalConfig = false)
    {task : Task String (Option Node)} (member : task ∈ tasks call disk)
    (here : task.place = installed localOnly) : ∃ lines,
      disk (installed localOnly) = some (.file lines) ∧
        task = copyFile call (installed localOnly) lines := by
  obtain ⟨k, member⟩ := mem_tasks.mp member
  have inside := place_mem_places member
  rw [here] at inside
  have only : k = .restore ∨ k = .push := by
    revert inside
    cases k <;> decide +kernel
  rcases only with rfl | rfl
  · exact mem_restoreConfig member
  · obtain ⟨pushed, -⟩ := mem_pushConfig member
    rw [kept] at pushed
    cases pushed

/-- A run to its end keeps the configuration. -/
theorem finish_config (kept : call.pushLocalConfig = false) (disk : Disk) :
    finish (tasks call disk) disk (installed localOnly) = disk (installed localOnly) := by
  rcases finish_cases (tasks call disk) disk (installed localOnly) with same | found
  · exact same
  · obtain ⟨task, member, here, last⟩ := found
    obtain ⟨lines, there, shape⟩ := config_of_mem_tasks kept member here
    rw [last, shape, there]
    rfl

/-- A run keeps the configuration, or is stopped while it copies it back. -/
theorem result_config {run : Run} (kept : run.call.pushLocalConfig = false) (disk : Disk) :
    run.result disk (installed localOnly) = disk (installed localOnly) ∨
      run.stop.isSome ∧ ∃ lines,
        run.result disk (installed localOnly) = run.call.left (.file lines) := by
  cases stops : run.stop with
  | some n =>
    refine (result_holds (fun node => node = disk (installed localOnly) ∨
      ∃ lines, node = run.call.left (.file lines)) (Or.inl rfl) ?_).imp id fun cut => ⟨rfl, cut⟩
    intro _ task member here
    obtain ⟨lines, there, rfl⟩ := config_of_mem_tasks kept member here
    refine ⟨Or.inl there.symm, fun content inside => Or.inr ⟨lines, ?_⟩⟩
    exact List.mem_singleton.mp inside
  | none =>
    left
    unfold Run.result
    cases starts : (update run.call disk).verdict with
    | error message => rfl
    | ok replaced =>
      obtain ⟨rfl, -⟩ := update_ok starts
      rw [stops]
      exact finish_config kept disk

/-- A history keeps the configuration, unless a run of it is stopped while it copies it back. -/
theorem after_config {history : List Run}
    (kept : ∀ run ∈ history, run.call.pushLocalConfig = false) (disk : Disk) :
    after history disk (installed localOnly) = disk (installed localOnly) ∨
      ∃ run ∈ history, run.stop.isSome ∧ ∃ lines,
        after history disk (installed localOnly) = run.call.left (.file lines) := by
  refine after_keeps (fun later => later (installed localOnly) = disk (installed localOnly) ∨
    ∃ run ∈ history, run.stop.isSome ∧ ∃ lines,
      later (installed localOnly) = run.call.left (.file lines)) ?_ (Or.inl rfl)
  intro run member later holds
  rcases result_config (kept run member) later with same | ⟨cut, lines, rest⟩
  · rwa [same]
  · exact Or.inr ⟨run, member, cut, lines, rest⟩

/-! ### A release -/

/-- The release is a directory of its own. -/
structure Apart (directory : String) : Prop where
  around : ∀ path ∈ owned, ¬ (directory ++ "/").toList <+: path.toList
  inside : ∀ item ∈ runtimeItems ++ staleTopLevel, installed item ≠ directory ∧
    ¬ (installed item ++ "/").toList <+: directory.toList

instance (directory : String) : Decidable (Apart directory) :=
  decidable_of_iff ((∀ path ∈ owned, ¬ (directory ++ "/").toList <+: path.toList) ∧
      ∀ item ∈ runtimeItems ++ staleTopLevel, installed item ≠ directory ∧
        ¬ (installed item ++ "/").toList <+: directory.toList)
    ⟨fun both => ⟨both.1, both.2⟩, fun apart => ⟨apart.around, apart.inside⟩⟩

theorem Apart.not_owned {directory : String} (apart : Apart directory) (name : String) :
    join directory name ∉ owned := by
  intro member
  apply apart.around _ member
  unfold join
  rw [String.toList_append (s := directory ++ "/")]
  exact List.prefix_append _ _

/-- A history leaves a release alone. -/
theorem staged_after (apart : Apart call.srcDir) (history : List Run) {item : String} {node : Node}
    (there : disk (join call.srcDir item) = some node) (real : ∀ target, node ≠ .link target) :
    call.staged (after history disk) item = some (withoutSupervise node) := by
  have same := after_of_not_owned (apart.not_owned item) history disk
  have found : resolve (after history disk) (join call.srcDir item) = some node := by
    unfold resolve follow
    rw [same, there]
    cases node with
    | link target => exact absurd rfl (real target)
    | file lines => rfl
    | directory files => rfl
  unfold Call.staged
  rw [found, same, there]
  rfl

theorem unitFile_after (apart : Apart call.srcDir) (history : List Run) (disk : Disk)
    (file : String) : call.unitFile (after history disk) file = call.unitFile disk file := by
  have same : call.unitSource (after history disk) = call.unitSource disk := by
    unfold Call.unitSource
    rw [after_of_not_owned (apart.not_owned _)]
  unfold Call.unitFile
  rw [same, after_of_not_owned (apart.not_owned _)]

/-- The release of a call, on the device as a whole. -/
structure Installed (call : Call) (disk device : Disk) : Prop where
  items : ∀ item ∈ runtimeItems,
    device (installed item) = (disk (join call.srcDir item)).map withoutSupervise
  scripts : ∀ file ∈ runFiles, device (join serviceTarget file) = call.unitFile disk file
  enabled : ∀ file ∈ ["down", "log/down"], device (join serviceTarget file) = none
  stale : ∀ item ∈ staleTopLevel, device (installed item) = none
  link : device serviceLink = some (.link serviceTarget)
  boot : ∃ lines, device rcLocal = some (.file lines) ∧ Once lines ∧ Placed lines

theorem once_refresh (lines : List String) : Once (refresh lines) := by
  refine ⟨front lines, back lines, refresh_eq lines, fun first second same => ?_⟩
  rw [refresh_eq] at same
  exact block_unique (unmarked_front lines) (unmarked_back lines) same

theorem placed_refresh (lines : List String) : Placed (refresh lines) := by
  intro first second same
  rw [refresh_eq] at same
  rw [(block_unique (unmarked_front lines) (unmarked_back lines) same).1]
  exact front_not_exit lines

section Finished

variable (call disk)

/-- The parts whose places are written whole, by a run that is not stopped. -/
theorem finish_item {item : String} (listed : item ∈ runtimeItems)
    (staged : (call.staged disk item).isSome) :
    finish (tasks call disk) disk (installed item) = call.staged disk item := by
  have replaced : ∃ task ∈ installItem call disk item, task.place = installed item := by
    obtain ⟨node, found⟩ := Option.isSome_iff_exists.mp staged
    unfold installItem
    rw [found]
    exact ⟨_, List.mem_singleton_self _, rfl⟩
  obtain ⟨task, member, here⟩ := replaced
  exact finish_eq_last (fun task member here => (last_of_item member here listed).1)
    (Or.inr ⟨task, mem_tasks.mpr ⟨.items, List.mem_flatMap.mpr ⟨item, listed, member⟩⟩, here⟩)

theorem finish_runFile {file : String} (listed : file ∈ runFiles) :
    finish (tasks call disk) disk (join serviceTarget file) = call.unitFile disk file := by
  have other : join serviceTarget file ≠ installed localOnly := by
    obtain ⟨-, -, -, apart, -⟩ := installed_facts
    exact apart file (List.mem_append_left _ listed)
  have different : (runFiles.map (join serviceTarget)).Nodup := by decide +kernel
  refine finish_eq_last (fun task member here => ?_) (Or.inr ⟨_, mem_tasks.mpr ⟨.runFiles,
    List.mem_map_of_mem listed⟩, rfl⟩)
  obtain ⟨one, listed', rfl⟩ := List.mem_map.mp
    (mem_part (k := .runFiles) member here (List.mem_map_of_mem listed) other)
  rw [List.inj_on_of_nodup_map different listed' listed here]

theorem finish_downFile {file : String} (listed : file ∈ ["down", "log/down"]) :
    finish (tasks call disk) disk (join serviceTarget file) = none := by
  have other : join serviceTarget file ≠ installed localOnly := by
    obtain ⟨-, -, -, apart, -⟩ := installed_facts
    exact apart file (List.mem_append_right _ listed)
  refine finish_eq_last (fun task member here => ?_) (Or.inr ⟨_, mem_tasks.mpr ⟨.downFiles,
    List.mem_map_of_mem listed⟩, rfl⟩)
  obtain ⟨one, _, rfl⟩ := List.mem_map.mp
    (mem_part (k := .downFiles) member here (List.mem_map_of_mem listed) other)
  rfl

theorem finish_stale {item : String} (listed : item ∈ staleTopLevel) :
    finish (tasks call disk) disk (installed item) = none := by
  obtain ⟨-, -, other, -⟩ := installed_facts
  refine finish_eq_last (fun task member here => ?_) (Or.inr ⟨_, mem_tasks.mpr ⟨.stale,
    List.mem_map_of_mem listed⟩, rfl⟩)
  obtain ⟨one, _, rfl⟩ := List.mem_map.mp
    (mem_part (k := .stale) member here (List.mem_map_of_mem listed) (other item listed))
  rfl

theorem finish_boot :
    finish (tasks call disk) disk rcLocal = some (.file (refresh (bootLines disk))) := by
  obtain ⟨-, -, -, -, -, other⟩ := installed_facts
  refine finish_eq_last (fun task member here => ?_) (Or.inr ⟨_, mem_tasks.mpr ⟨.boot,
    List.mem_singleton_self _⟩, rfl⟩)
  rw [List.mem_singleton.mp (mem_part (k := .boot) member here List.mem_cons_self other)]
  rfl

variable {disk}

theorem finish_link (layout : Layout disk) :
    finish (tasks call disk) disk serviceLink = some (.link serviceTarget) := by
  obtain ⟨-, -, -, -, other, -⟩ := installed_facts
  refine finish_eq_last (fun task member here => ?_) ?_
  · rw [(mem_linkService (mem_part (k := .link) member here List.mem_cons_self other)).1]
  · refine layout.link.symm.imp id fun absent => ?_
    have made : linkService disk = [⟨serviceLink, [], some (.link serviceTarget)⟩] := by
      unfold linkService
      rw [absent]
    refine ⟨⟨serviceLink, [], some (.link serviceTarget)⟩, mem_tasks.mpr ⟨.link, ?_⟩, rfl⟩
    show _ ∈ linkService disk
    rw [made]
    exact List.mem_singleton_self _

end Finished

/-- A configuration that is pushed is the one the device has afterwards. -/
theorem finish_pushed {lines : List String} (pushed : call.pushLocalConfig = true)
    (staged : call.staged disk localOnly = some (.file lines)) :
    finish (tasks call disk) disk (installed localOnly) = some (.file lines) := by
  have split : tasks call disk =
      (Part.all.take 7).flatMap (part call disk) ++ (Part.all.drop 7).flatMap (part call disk) := by
    rw [← List.flatMap_append, List.take_append_drop]
    rfl
  have push : pushConfig call disk = makeDirectory disk setupOptionsDir ++
      [copyFile call (installed localOnly) lines,
        copyFile call (join setupOptionsDir localOnly) lines] := by
    unfold pushConfig
    rw [pushed, staged]
  have copied : copyFile call (installed localOnly) lines ∈ pushConfig call disk := by
    rw [push]
    exact List.mem_append_right _ List.mem_cons_self
  rw [split, finish_append]
  refine finish_eq_last (fun task member here => ?_) (Or.inr ⟨_, List.mem_flatMap.mpr
    ⟨.push, by decide, copied⟩, rfl⟩)
  obtain ⟨k, late, member⟩ := List.mem_flatMap.mp member
  have inside := place_mem_places member
  rw [here] at inside
  have only : k = .push := by
    revert late inside
    cases k <;> decide +kernel
  rw [only] at member
  have apart : installed localOnly ≠ setupOptionsDir ∧
      installed localOnly ≠ join setupOptionsDir localOnly := by
    decide +kernel
  obtain ⟨-, lines', staged', made | rfl | rfl⟩ := mem_pushConfig member
  · exact absurd (here.symm.trans (place_of_makeDirectory made).1) apart.1
  · rw [staged] at staged'
    exact staged'.symm
  · exact absurd here.symm apart.2

theorem after_append (history : List Run) (last : Run) (disk : Disk) :
    after (history ++ [last]) disk = last.result (after history disk) := by
  unfold after
  rw [List.foldl_append]
  rfl

/-- A device with an old installation, and a release beside it. -/
def someNodes : List (String × Node) :=
  (runtimeItems.map fun item => (installed item, .file ["old"])) ++
    (runtimeItems.map fun item => (join "/data/.dbus-ev-deploy" item, .file ["new"])) ++
    [("/data/.dbus-ev-deploy/services/dbus-ev/run", .file ["exec python3 -m dbus_ev"]),
      ("/data/.dbus-ev-deploy/services/dbus-ev/log/run", .file ["exec multilog"]),
      (installDir, .directory []), ("/data/dbus-ev/service", .directory []),
      (serviceTarget, .directory []), (join serviceTarget "log", .directory []),
      (join serviceTarget "run", .file ["old"]), (join serviceTarget "log/run", .file ["old"]),
      (installed localOnly, .file ["HA_TOKEN = 1"]), (installed "main.py", .file ["old"]),
      (serviceLink, .link serviceTarget), (rcLocal, .file ["#!/bin/sh", "exit 0"])]

def someDevice : Disk := fun path => List.lookup path someNodes

/-- A call of the release; what is cut is lost. -/
def someCall : Call where
  argument := ""
  srcDir := "/data/.dbus-ev-deploy"
  pushLocalConfig := false
  dependencies := fun _ => .ok ()
  chargerEnabled := fun _ => false
  commands := true
  supervisor := ⟨true, true, fun _ => "/service/dbus-ev: down 0 seconds"⟩
  left := fun _ => none

theorem withoutSupervise_idem (node : Node) :
    withoutSupervise (withoutSupervise node) = withoutSupervise node := by
  cases node with
  | directory files => exact congrArg Node.directory (List.filter_eq_self.mpr fun file member =>
      (List.mem_filter.mp member).2)
  | file lines => rfl
  | link target => rfl

/-- What a run of the installed package stages of an item is the item. -/
theorem staged_in_place (inPlace : call.srcDir = installDir) {item : String}
    (staged : (call.staged disk item).isSome) :
    call.staged disk item = (disk (installed item)).map withoutSupervise := by
  unfold Call.staged at staged ⊢
  rw [inPlace] at staged ⊢
  split at staged
  · exact if_pos ‹_›
  · cases staged

/-- A run spoils one place at most, and none if it is not stopped. -/
theorem result_spoils (run : Run) (disk : Disk) : ∃ spoiled : List String,
    spoiled.length ≤ (if run.stop.isSome then 1 else 0) ∧ ∀ path, path ∉ spoiled →
      run.result disk path = disk path ∨
        ∃ task ∈ tasks run.call disk, task.place = path ∧ run.result disk path = task.last := by
  unfold Run.result
  cases starts : (update run.call disk).verdict with
  | error message => exact ⟨[], Nat.zero_le _, fun path _ => Or.inl rfl⟩
  | ok replaced =>
    obtain ⟨rfl, -⟩ := update_ok starts
    cases run.stop with
    | some n => exact stopped_spoils _ n disk
    | none => exact ⟨[], le_rfl, fun path _ => finish_cases _ disk path⟩

/-- **A package that updates itself in place** keeps every item, but for those that its stopped runs
were replacing: one for each, at most. And what it has lost it does not get back, however often it
is run. -/
theorem in_place_spoils (history : List Run) (disk : Disk)
    (inPlace : ∀ run ∈ history, run.call.srcDir = installDir) :
    ∃ spoiled : List String, spoiled.length ≤ history.countP (·.stop.isSome) ∧
      ∀ item ∈ runtimeItems,
        (installed item ∉ spoiled →
          after history disk (installed item) = disk (installed item) ∨
            after history disk (installed item) =
              (disk (installed item)).map withoutSupervise) ∧
        (disk (installed item) = none → after history disk (installed item) = none) := by
  induction history generalizing disk with
  | nil => exact ⟨[], le_rfl, fun item _ => ⟨fun _ => Or.inl rfl, id⟩⟩
  | cons run rest ih =>
    obtain ⟨here, later⟩ := List.forall_mem_cons.mp inPlace
    obtain ⟨first, atMost, kept⟩ := result_spoils run disk
    obtain ⟨others, atMost', kept'⟩ := ih (run.result disk) later
    refine ⟨first ++ others, ?_, fun item listed => ⟨fun intact => ?_, fun lost => ?_⟩⟩
    · rw [List.length_append, List.countP_cons]
      omega
    · rw [List.mem_append, not_or] at intact
      have now : run.result disk (installed item) = disk (installed item) ∨
          run.result disk (installed item) = (disk (installed item)).map withoutSupervise := by
        refine (kept _ intact.1).imp id fun found => ?_
        obtain ⟨task, member, there, last⟩ := found
        obtain ⟨same, staged⟩ := last_of_item member there listed
        rw [last, same, staged_in_place here staged]
      rw [after_cons]
      rcases (kept' item listed).1 intact.2 with same | same <;> rw [same] <;>
        rcases now with before | before <;> rw [before]
      · exact Or.inl rfl
      · exact Or.inr rfl
      · exact Or.inr rfl
      · right
        rw [Option.map_map]
        exact congrArg (Option.map · _) (funext withoutSupervise_idem)
    · refine (kept' item listed).2 (result_holds (· = none) lost fun _ task member there => ?_)
      obtain ⟨-, staged⟩ := last_of_item member there listed
      rw [staged_in_place here staged, lost] at staged
      cases staged

/-- The installed package is run twice, and stopped both times. -/
theorem someDevice_spoils : ∃ spoiled : List String, spoiled.length ≤ 2 ∧
    ∀ item ∈ runtimeItems, installed item ∉ spoiled →
      after [⟨{ someCall with srcDir := installDir }, some 6⟩,
        ⟨{ someCall with srcDir := installDir }, some 9⟩] someDevice (installed item) =
          some (.file ["old"]) := by
  have old : ∀ item ∈ runtimeItems, someDevice (installed item) = some (.file ["old"]) := by
    decide +kernel
  obtain ⟨spoiled, atMost, kept⟩ := in_place_spoils
    [⟨{ someCall with srcDir := installDir }, some 6⟩,
      ⟨{ someCall with srcDir := installDir }, some 9⟩] someDevice
    (by rintro run (_ | ⟨_, _ | ⟨_, ⟨⟩⟩⟩) <;> rfl)
  refine ⟨spoiled, atMost, fun item listed intact => ?_⟩
  rcases (kept item listed).1 intact with same | same <;> rw [same, old item listed]
  rfl

end DbusEv.Update
