import CredentialSync.Bridge.Basic
import CredentialSync.CommandLine.Directory
import CredentialSync.CommandLine.Failure
import CredentialSync.CommandLine.Forwarder
import CredentialSync.CommandLine.Listing
import CredentialSync.CommandLine.Usage
import CredentialSync.Config.Document
import CredentialSync.Logging.Filter
import CredentialSync.Text.LowerCase

/-!
# Processes

One run of the program: it reads its arguments and its configuration, opens the database, connects
the bridge, carries out a command, and leaves a `Report` and the database.

* `run` is the whole of it, given what the process sees of its machine;
* `Directory.run` runs a process in a working directory and gives the directory afterwards.
-/

namespace CredentialSync.CommandLine

/-- What a process leaves. -/
structure Report where
  /-- The exit code: 0 for success, 1 for a failure, 2 for arguments that were rejected. -/
  code : Nat
  /-- The standard output. -/
  output : String := ""
  /-- The lines that were logged. -/
  logs : List String := []
  /-- The text about what went wrong. -/
  complaint : String := ""
  /-- The file of the database with its path, if it has changed. -/
  left : Option (List UInt8 × FileContent) := none
  deriving DecidableEq

/-! ## 1. Configuration -/

/-- The configuration before the options of the command line count. -/
def baseConfig (s : Surroundings) (i : Invocation) : Except Failure Config :=
  match i.config with
  | some path =>
    (Config.ofFile (s.expand path) (s.file (s.expand path))).mapError fun e =>
      (Failure.ofConfig e).within ("loading config from " ++ path)
  | none => (Config.ofEnvironment s.environment).mapError Failure.ofConfig

/-- Lays the options of the command line over a configuration. -/
def overlay (s : Surroundings) (i : Invocation) (c : Config) : Config :=
  { c with
    store.path := (i.database.map s.expand).getD c.store.path
    logging.level := (i.logLevel.map Text.LowerCase.lower).getD c.logging.level
    logging.jsonFormat := i.jsonLogs || c.logging.jsonFormat }

/-- The configuration of a process. -/
def configuration (s : Surroundings) (i : Invocation) : Except Failure Config :=
  (baseConfig s i).bind fun c => (overlay s i c).validated.mapError Failure.ofConfig

/-! ## 2. Opening the database -/

/-- The report of a process that gave up. -/
def failed (f : Failure) : Report := { code := 1, complaint := f.report ++ "\n" }

/-- The report of a process that gave up because of its store. -/
def refused (e : SyncError) : Report := failed (Failure.ofSync e)

/-- The report of a process that crashed. -/
def crashed : Report := { code := 101 }

/-- The longest time in milliseconds that a process can wait for a database. -/
def longestWait : Nat := 2147483647

/-- A database that is ready for work. -/
structure Opened where
  connection : Connection
  database : Database
  /-- Whether the file notes that changes go through a write-ahead log. -/
  writeAhead : Bool

/-- An event of the store. -/
def storeEvent (level : LogLevel) (message : String) (details : List (String × Detail)) : Event :=
  { level, target := "syncbridge_core::core_bridge::store::sqlite_store", message, details }

/-- What is logged when a database is opened; `journal` is the answer if a write-ahead log was asked
for. -/
def openingEvents (journal : Option Journal) (path : String) : List Event :=
  (journal.map fun j =>
    storeEvent .debug "journal mode set" [("journal_mode", .plain j.name)]).toList ++
  [storeEvent .info "opened record store" [("path", .plain path)]]

/-- What is logged about the migrations that took a database from some versions to others. -/
def migrationEvents (before after : List Int64) : List Event :=
  let done := Migration.all.filter fun m =>
    !before.contains (Int64.ofNat m.version) && after.contains (Int64.ofNat m.version)
  done.map fun m =>
    { level := .info
      target := "syncbridge_core::core_bridge::store::migrations"
      message := "applied migration"
      details := [("version", .number m.version), ("description", .quoted m.description)] }

/-- Opens the database that a name leads to. -/
def connect (s : Surroundings) (name : String) : Except DatabaseFault Connection :=
  (Location.read name).bind fun location =>
    (s.database location).map fun site => { location, site }

/-- Looks into a database and brings it to the current schema. -/
def prepare (c : Connection) (journal : Option Journal) : List Event × Except SyncError Opened :=
  match c.look with
  | .error fault => ([], .error fault.store)
  | .ok file =>
    let (outcome, tables) := Tables.migrate.perform file.tables
    let obstacle := if tables == file.tables then none else c.obstacle? file
    match obstacle, outcome with
    | some fault, _ => ([], .error fault.store)
    | none, .error e => ([], .error e)
    | none, .ok _ =>
      (migrationEvents (file.tables.versions.getD []) (tables.versions.getD []),
        .ok {
          connection := c
          database := { tables, readOnly := c.readOnly file }
          writeAhead := file.writeAhead || journal == some .writeAhead })

/-- Opens the database of a process, or says how the process ends. -/
def openDatabase (s : Surroundings) (settings : StoreSettings) :
    List Event × Except Report Opened :=
  match connect s settings.path with
  | .error fault => ([], .error (refused fault.store))
  | .ok c =>
    let ending (r : Report) : Report := { r with left := c.untouched }
    if settings.busyTimeout.millis > longestWait then ([], .error (ending crashed))
    else
      let journal := if settings.writeAhead then c.askForLog.map some else .ok none
      match journal with
      | .error fault => ([], .error (ending (refused fault.store)))
      | .ok journal =>
        let (events, outcome) := prepare c journal
        (openingEvents journal settings.path ++ events,
          outcome.mapError fun e => ending (refused e))

/-! ## 3. Connecting the bridge -/

/-- The name of the receiver that hears of committed batches. -/
def receiver : String := "committed"

/-- A device of a process, with its bridge. -/
def device (c : Config) (track : Bool) (database : Database) : Device Forwarder :=
  let notifier := Notifier.ofCapacity c.bridge.broadcastCapacity.toNat
  let d : Device Forwarder :=
    { store := .database database
      processor := { tracking := track }
      notifier := { notifier with channel := notifier.channel.subscribe receiver } }
  d.connect c.bridge.placeholder

/-- What is logged when the bridge starts. -/
def startEvents (d : Device Forwarder) : List Event :=
  let event (level : LogLevel) (message : String) (details : List (String × Detail)) : Event :=
    { level, target := "syncbridge_core::core_bridge::bridge", message, details }
  let loading := match (Store.readMetadata.perform d.store).1 with
    | .ok metadata => event .info "sync metadata loaded"
        [("entities", .number metadata.entities.size),
          ("initial_sync_done", .truth metadata.modelState.initialSyncDone)]
    | .error e => event .error "failed to load sync metadata" [("error", .plain e.message)]
  loading :: d.processor.events

/-! ## 4. Commands -/

/-- A write of one change. -/
def single (e : Edit) : Write Unit :=
  .edit e fun
    | .ok _ => .done () none
    | .error cause => .done () (some cause)

/-- What is logged about the changes that an edit made. -/
def editEvents (e : Edit) (cs : List LocalChange) : List Event :=
  let event (message : String) (c : LocalChange) (details : List (String × Detail)) : Event :=
    storeEvent .debug message (("primary_key", .plain c.storageKey) :: details)
  match e with
  | .add _ => (cs.getLast?.map fun c =>
      event "record added" c [("replaced", .truth (cs.length > 1))]).toList
  | .remove _ => cs.map fun c => event "record removed" c []
  | _ => cs.map fun c => event "record updated" c []

/-- What is logged when a batch is relayed; `told` is what the processor logged. -/
def relayEvents (tracking : Bool) (told : List Event) (cs : List LocalChange) : List Event :=
  let event (level : LogLevel) (message : String) (details : List (String × Detail)) : Event :=
    { level, target := "syncbridge_core::core_bridge::sync::relay", message, details }
  if tracking then
    let deletes := cs.countP (·.kind = .remove)
    told ++ [event .debug "local changes forwarded"
      [("puts", .number (cs.length - deletes : Nat)), ("deletes", .number deletes)]]
  else
    [event .trace "relay skipped batch"
      [("reason", .quoted "not tracking"), ("changes", .number cs.length)]]

/-- What is logged about a committed batch. -/
def batchEvents (before after : Device Forwarder) (cs : List LocalChange) : List Event :=
  let committed : Event :=
    { level := .debug
      target := "syncbridge_core::core_bridge::batch"
      message := "batch committed"
      details := [("origin", .plain Side.device.name), ("changes", .number cs.length)] }
  let delivered : Event :=
    { level := .trace
      target := "syncbridge_core::core_bridge::store::notifier"
      message := "change batch delivered"
      details := [("observers", .number after.notifier.observerCount),
        ("subscribers", .number after.notifier.channel.receivers.length),
        ("changes", .number cs.length)] }
  let told := after.processor.events.drop before.processor.events.length
  committed :: if cs.isEmpty then [] else
    relayEvents after.processor.tracking told cs ++ [delivered]

/-- What is logged about a batch that was rolled back. -/
def abandonedEvents (cause : SyncError) : List Event :=
  [{ level := .warn
     target := "syncbridge_core::core_bridge::batch"
     message := "rolling back batch"
     details := [("error", .plain cause.message)] }]

/-- How a command ended. -/
structure Ending where
  events : List Event := []
  /-- The lines to print, or why there are none. -/
  result : Except Failure (List String)
  device : Device Forwarder

/-- Makes one change to the store; `lines` are printed about what it brought. -/
def change (e : Edit) (lines : List LocalChange → Except Failure (List String))
    (d : Device Forwarder) : Ending :=
  match d.write (single e) with
  | (.refused cause, after) => { result := .error (Failure.ofSync cause), device := after }
  | (.abandoned _ cause, after) =>
    { events := abandonedEvents cause, result := .error (Failure.ofSync cause), device := after }
  | (.committed _ cs, after) =>
    { events := editEvents e cs ++ batchEvents d after cs, result := lines cs, device := after }

/-- Prints what the store is asked for. -/
def ask (a : Attempt (Device Forwarder) (List String)) (d : Device Forwarder) : Ending :=
  let (outcome, after) := a.perform d
  { result := outcome.mapError Failure.ofSync, device := after }

/-- The record to update, with its key. -/
def located (key : NaturalKey) : Attempt Store (Option (PrimaryKey × Option Record)) := do
  match ← Store.find? key with
  | none => return none
  | some k => return some (k, ← Store.record? k)

/-- Carries out a command. -/
def perform (c : Command) (d : Device Forwarder) : Ending :=
  match c with
  | .add credential password =>
    let record := (Record.ofNaturalKey credential.naturalKey).withPassword password
    change (.add record) (fun cs => .ok (changeLines cs)) d
  | .update credential password =>
    let refuse (message : String) (d : Device Forwarder) : Ending :=
      { result := .error ⟨message, []⟩, device := d }
    match (Device.onStore (located credential.naturalKey)).perform d with
    | (.error e, d) => { result := .error (Failure.ofSync e), device := d }
    | (.ok none, d) =>
      refuse ("no credential matches " ++ credential.origin ++ " / " ++ credential.username) d
    | (.ok (some (_, none)), d) => refuse "credential vanished" d
    | (.ok (some (key, some record)), d) =>
      change (.update (record.withPassword password))
        (fun _ => .ok ["Update " ++ PrimaryKey.storageKey key]) d
  | .remove key =>
    change (.remove key)
      (fun cs =>
        if cs.isEmpty then .error ⟨"no credential with id " ++ PrimaryKey.storageKey key, []⟩
        else .ok ["Remove " ++ PrimaryKey.storageKey key]) d
  | .list json =>
    ask (do
      let records ← Device.onStore Store.readAll
      return if json then [(recordsJson records).pretty] else recordLines records) d
  | .tag credential =>
    { result := .ok (tagLines (Record.ofNaturalKey credential.naturalKey).specifics), device := d }
  | .dump => ask (return [(entitiesJson (← Device.dump)).pretty]) d
  | .status =>
    ask (do
      let stored ← Device.onStore Store.readMetadata
      let records ← Device.onStore Store.count
      return statusLines records stored ((← get).processor.loaded.getD {})) d

/-- What is logged at the end of a process. -/
def closingEvents (d : Device Forwarder) : List Event :=
  let stats := (d.bridge.map (·.stats)).getD {}
  ((d.notifier.channel.drain receiver).1.map fun batch =>
    programEvent .info "batch committed"
      [("origin", .plain batch.side.name), ("changes", .number batch.size)]) ++
  [programEvent .info "syncbridge finished"
    [("forwarded", .number d.processor.forwarded),
      ("committed", .number stats.committed.toNat), ("relayed", .number stats.relayed.toNat)]]

/-! ## 5. Whole processes -/

/-- The file that a process leaves: an open transaction is undone. -/
def Opened.left (o : Opened) : Store → Option (List UInt8 × FileContent)
  | .database d => o.connection.left (d.saved.getD d.tables) o.writeAhead
  | .table _ => none

/-- Runs a command on a database that was opened. -/
def runCommand (c : Config) (track : Bool) (command : Command) (o : Opened) :
    List Event × Report :=
  if c.bridge.broadcastCapacity.toNat > Notifier.greatestCapacity then
    ([], { crashed with left := o.left (.database o.database) })
  else
    let d := device c track o.database
    let ending := perform command d
    let report : Report := match ending.result with
      | .ok lines => { code := 0, output := printed lines }
      | .error f => failed f
    let closing := if report.code == 0 then closingEvents ending.device else []
    (startEvents d ++ ending.events ++ closing,
      { report with left := o.left ending.device.store })

/-- Runs an invocation with its configuration. -/
def runConfigured (s : Surroundings) (i : Invocation) (c : Config) : List Event × Report :=
  match i.command with
  | none =>
    ([programEvent .info "No command specified. Use --help for usage information." []],
      { code := 0 })
  | some command =>
    match openDatabase s c.store with
    | (events, .error report) => (events, report)
    | (events, .ok opened) =>
      let (more, report) := runCommand c i.track command opened
      (events ++ more, report)

/-- Runs an invocation. -/
def runInvocation (s : Surroundings) (i : Invocation) : Report :=
  match configuration s i with
  | .error f => failed f
  | .ok c =>
    match LogOutput.installSettings none c.logging with
    | .error e => failed ⟨e.message, []⟩
    | .ok o =>
      match Filter.choose? s.environment o.level with
      | none => crashed
      | some filter =>
        let (events, report) := runConfigured s i c
        { report with logs := (events.filter filter.allows).map (·.line o) }

/-- The complaint about arguments that were rejected. -/
def usageComplaint : String := "error: invalid arguments\n\nFor more information, try '--help'.\n"

/-- Runs the program with some arguments. -/
def run (s : Surroundings) (args : List String) : Report :=
  match readRequest args with
  | .rejected => { code := 2, complaint := usageComplaint }
  | .version => { code := 0, output := versionText }
  | .help topic => { code := 0, output := helpText topic }
  | .run i => runInvocation s i

/-- Runs the program in a working directory; gives the directory afterwards. -/
def Directory.run (d : Directory) (environment : Environment) (home : Option String)
    (args : List String) : Report × Directory :=
  let report := CommandLine.run (d.surroundings environment home) args
  match report.left with
  | none => (report, d)
  | some (path, content) => (report, d.put path content)

end CredentialSync.CommandLine
