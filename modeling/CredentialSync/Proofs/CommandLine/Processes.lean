import CredentialSync.Proofs.CommandLine.Opening

/-!
# Processes as a credential map

Processes that run one after another in a directory, each with a command on the same database, which is
not there at first. What the file of the database holds behind each of them is what folding their
commands over a credential map gives (`processes_fold_commands`), and each process is handed the metadata
that the one before has left.

`Directory.Carries.performed` takes a process apart, `Directory.Carries.run` is the step for one process,
and `Directory.Carries.after` the induction over all of them.
-/

namespace CredentialSync.CommandLine

open Attempt

/-! ## 1. Runs of processes -/

/-- How a process is started. -/
structure Start where
  environment : Environment := []
  home : Option String := none
  args : List String

/-- Runs a process in a directory. -/
def Start.run (s : Start) (d : Directory) : Report × Directory :=
  d.run s.environment s.home s.args

namespace Directory

/-- The directory behind some processes. -/
def after (d : Directory) (starts : List Start) : Directory := starts.foldl (fun d s => (s.run d).2) d

/-- The database in the file at a place; one that is missing is new. -/
def store? (d : Directory) (place : FilePlace) : Option Store :=
  match d.files.lookup place with
  | none => some (.database .fresh)
  | some (.database tables _) => some (.database { tables })
  | some (.bytes _) => none

/-- The records in the file at a place. -/
def records? (d : Directory) (place : FilePlace) : Option (SortedMap PrimaryKey Record) :=
  (d.store? place).bind fun s => (Store.readAll.perform s).1.toOption

/-- The metadata in the file at a place. -/
def metadata? (d : Directory) (place : FilePlace) : Option MetadataBatch :=
  (d.store? place).bind fun s => (Store.readMetadata.perform s).1.toOption

/-- The metadata that the processor of a process is handed. -/
def handed? (d : Directory) (s : Start) : Option MetadataBatch :=
  match readRequest s.args with
  | .run i =>
    match configuration (d.surroundings s.environment s.home) i with
    | .error _ => none
    | .ok c =>
      match (openDatabase (d.surroundings s.environment s.home) c.store).2 with
      | .error _ => none
      | .ok o => (device c i.track o.database).processor.loaded
  | _ => none

theorem Carries.store? {d : Directory} {place : FilePlace} {v : Vault} {b : MetadataBatch}
    (h : d.Carries place v b) : ∃ s, d.store? place = some s ∧ s.Carries v b := by
  unfold Directory.store?
  cases h with
  | absent hnone hv hb =>
    subst hv hb
    rw [hnone]
    exact ⟨_, rfl, carries_fresh⟩
  | kept hfile hs =>
    rw [hfile]
    exact ⟨_, rfl, hs⟩

/-- What is carried is what is read. -/
theorem Carries.read {d : Directory} {place : FilePlace} {v : Vault} {b : MetadataBatch}
    (h : d.Carries place v b) :
    d.records? place = some v.records ∧ d.metadata? place = some b := by
  obtain ⟨s, hstore, hs⟩ := h.store?
  unfold records? metadata?
  rw [hstore, Option.bind_some, Option.bind_some, hs.readAll, hs.readMetadata]
  exact ⟨rfl, rfl⟩

end Directory

/-! ## 2. One process -/

/-- The process reads an invocation and a configuration that it can work with, and its database stands
    for a place of the directory. -/
structure Start.Reads (s : Start) (d : Directory) (place : FilePlace) (i : Invocation) (c : Config)
    (path : List UInt8) : Prop where
  request : readRequest s.args = .run i
  configuration : configuration (d.surroundings s.environment s.home) i = .ok c
  output : ∃ o filter, LogOutput.installSettings none c.logging = .ok o ∧
    Filter.choose? s.environment o.level = some filter
  wait : c.store.busyTimeout.millis ≤ longestWait
  capacity : c.bridge.broadcastCapacity.toNat ≤ Notifier.greatestCapacity
  names : d.Names place c.store.path path

/-- The process carries out a command on the database at a place, with tracking or without. -/
def Start.Asks (s : Start) (d : Directory) (place : FilePlace) (track : Bool) (command : Command) :
    Prop :=
  ∃ i c path, s.Reads d place i c path ∧ i.track = track ∧ i.command = some command

variable {v : Vault} {b : MetadataBatch} {d base : Directory} {place : FilePlace} {s : Start}
  {i : Invocation} {c : Config} {path : List UInt8} {command : Command}

/-- **The device of a process.** Its processor is handed the metadata, and its relay is the one
    observer. -/
theorem device_spec {database : Database} (h : (Store.database database).Carries v b) (c : Config)
    (track : Bool) :
    (device c track database).store = .database database ∧
      (device c track database).processor.loaded = some b ∧
      (track = true → (device c track database).Engaged) := by
  have hread : ∀ d : Device Forwarder, d.store = .database database →
      d.start = { d with processor := Processor.ready b d.processor } := by
    intro d hd
    have hperform : (Device.onStore Store.readMetadata).perform d = (.ok b, d) :=
      Device.perform_onStore (by rw [hd]; exact h.readMetadata)
    rw [Device.start, hperform]
  unfold device Device.connect
  simp only
  rw [hread _ rfl]
  exact ⟨rfl, rfl, fun htrack => ⟨⟨_, rfl, rfl⟩, htrack⟩⟩

/-- **What a process does**, once its database is open: it carries the command out on its device, and
    leaves the database of the device. -/
theorem Start.Reads.run_eq (h : s.Reads base place i c path) (hcommand : i.command = some command)
    (hc : CommandLine.configuration (d.surroundings s.environment s.home) i = .ok c)
    {events : List Event} {o : Opened}
    (hopen : openDatabase (d.surroundings s.environment s.home) c.store = (events, .ok o)) :
    let x := perform command (device c i.track o.database)
    let report := CommandLine.run (d.surroundings s.environment s.home) s.args
    report.code = (if x.result.toOption.isSome then 0 else 1) ∧
      report.output = (x.result.toOption.map printed).getD "" ∧
      report.left = o.left x.device.store := by
  obtain ⟨log, filter, hlog, hfilter⟩ := h.output
  intro x report
  have hreport : report = { (runCommand c i.track command o).2 with
      logs := ((events ++ (runCommand c i.track command o).1).filter filter.allows).map
        (·.line log) } := by
    show CommandLine.run _ _ = _
    have hfilter' : Filter.choose? (d.surroundings s.environment s.home).environment log.level =
        some filter := hfilter
    unfold CommandLine.run runInvocation runConfigured
    simp only [h.request, hc, hlog, hfilter', hcommand, hopen]
  have hcapacity : ¬ c.bridge.broadcastCapacity.toNat > Notifier.greatestCapacity :=
    Nat.not_lt.2 h.capacity
  rw [hreport]
  unfold runCommand
  simp only [if_neg hcapacity]
  refine ⟨?_, ?_, rfl⟩ <;> cases x.result <;> rfl

/-- The files behind a process that leaves one: only the one at the place has changed. -/
theorem Directory.put_spec (h : base.Names place c.store.path path) (hd : SameBut place base d)
    (content : FileContent) :
    (d.put path content).files.lookup place = some content ∧
      SameBut place base (d.put path content) := by
  have hput : d.put path content =
      { d with files := (place, content) :: d.files.filter (·.1 != place) } := by
    rw [Directory.put, h.leads d hd]
  rw [hput]
  refine ⟨List.lookup_cons_self, hd.working, hd.folders, fun p hp => ?_⟩
  rw [List.lookup_cons, beq_eq_false_iff_ne.2 hp, Directory.lookup_others hp]
  exact hd.files p hp

/-- The database of a store that carries something is not open, and can be changed. -/
theorem Opened.left_spec {o : Opened} {store : Store} {name : String}
    (hlocation : o.connection.location = { given := name, place := .file path })
    (h : store.Carries v b) :
    ∃ tables, o.left store = some (path, .database tables o.writeAhead) ∧
      (Store.database { tables }).Carries v b := by
  cases store with
  | table t => exact h.current.elim
  | database database =>
    obtain ⟨tables, saved, locked, readOnly, busy⟩ := database
    obtain rfl : saved = none := by
      have hclosed := h.shows.saved_eq_none.2 rfl
      simpa [Store.saved] using hclosed
    obtain ⟨hbarrier, rfl⟩ : Database.barrier? { tables, locked, readOnly, busy } = none ∧ busy = false :=
      h.shows.quiet
    obtain ⟨rfl, rfl⟩ := Database.barrier?_eq_none.1 hbarrier
    refine ⟨tables, ?_, h⟩
    simp only [Opened.left, Connection.left, hlocation, Option.getD_none]
    rfl

theorem Start.fst_run (s : Start) (d : Directory) :
    (s.run d).1 = CommandLine.run (d.surroundings s.environment s.home) s.args := by
  unfold Start.run Directory.run
  dsimp only
  split <;> rfl

/-- **A process finds what the file carries**, carries its command out on a device, and leaves in the
    file what that device carries then. -/
theorem Directory.Carries.performed (h : d.Carries place v b) (hd : SameBut place base d)
    (hnone : base.files.lookup place = none) {track : Bool} (hs : s.Asks base place track command) :
    ∃ dev, dev.store.Carries v b ∧ dev.processor.loaded = some b ∧ (track = true → dev.Engaged) ∧
      d.handed? s = some b ∧
      (s.run d).1.code = (if (perform command dev).result.toOption.isSome then 0 else 1) ∧
      (s.run d).1.output = ((perform command dev).result.toOption.map printed).getD "" ∧
      ∀ v' b', (perform command dev).device.store.Carries v' b' →
        SameBut place base (s.run d).2 ∧ (s.run d).2.Carries place v' b' := by
  obtain ⟨i, c, path, hreads, rfl, hcommand⟩ := hs
  have hconfig := configuration_ok hd hnone hreads.configuration
  obtain ⟨events, o, hopen, hconnection, hcarries⟩ :=
    h.openDatabase hreads.names hd hreads.wait s.environment s.home
  obtain ⟨hstore, hloaded, hengaged⟩ := device_spec hcarries c i.track
  obtain ⟨hcode, houtput, hleft⟩ := hreads.run_eq hcommand hconfig hopen
  rw [← Start.fst_run] at hcode houtput
  refine ⟨device c i.track o.database, hstore ▸ hcarries, hloaded, hengaged, ?_, hcode, houtput,
    fun v' b' hafter => ?_⟩
  · unfold Directory.handed?
    simp only [hreads.request, hconfig, hopen, hloaded]
  · obtain ⟨tables, hfile, hkept⟩ := Opened.left_spec (o := o) (by rw [hconnection]; rfl) hafter
    have hrun : (s.run d).2 = d.put path (.database tables o.writeAhead) := by
      unfold Start.run Directory.run
      simp only [hleft, hfile]
    obtain ⟨hlookup, hsame⟩ := Directory.put_spec hreads.names hd (.database tables o.writeAhead)
    rw [hrun]
    exact ⟨hsame, .kept hlookup hkept⟩

/-- **One process with a command that changes records.** -/
theorem Directory.Carries.run (h : d.Carries place v b) (hd : SameBut place base d)
    (hnone : base.files.lookup place = none) (hs : s.Asks base place true command)
    (hc : command.isChange = true) :
    (s.run d).1.code = (if (command.outcome v).isSome then 0 else 1) ∧
      d.handed? s = some b ∧ SameBut place base (s.run d).2 ∧
      ∃ b', (s.run d).2.Carries place (command.step v) b' := by
  obtain ⟨dev, hbefore, -, hengaged, hhanded, hcode, -, hleaves⟩ := h.performed hd hnone hs
  obtain ⟨hresult, b', hafter⟩ := (hengaged rfl).perform_spec hbefore hc
  obtain ⟨hsame, hcarries⟩ := hleaves _ _ hafter
  exact ⟨by rw [hcode, hresult], hhanded, hsame, b', hcarries⟩

/-! ## 3. The state of synchronisation -/

/-- The metadata that is carried consists of the memos of the records. -/
theorem Directory.Carries.memos (h : d.Carries place v b) : b.MemosOf v := by
  cases h with
  | absent _ hv hb =>
    subst hv hb
    exact .empty
  | kept _ hs => exact hs.memos

/-- What is printed about the state of synchronisation if there are so many records, all of them are
    tracked, and no merge has been. -/
def statusText (n : Nat) : String :=
  "records:           " ++ Text.Decimal.ofNat n ++ "\n" ++
    ("tracked entities:  " ++ Text.Decimal.ofNat n ++ "\n") ++
    "initial sync done: false\n" ++
    ("loaded at start:   " ++ Text.Decimal.ofNat n ++ "\n")

theorem printed_statusLines (h : b.MemosOf v) :
    printed (statusLines v.records.size b b) = statusText v.records.size := by
  have hdone : "initial sync done: " ++ "false" ++ "\n" = "initial sync done: false\n" := by decide
  unfold statusLines statusText printed
  rw [h.size_eq, h.modelState_eq]
  simp only [List.map_cons, List.map_nil, String.join, List.foldl_cons, List.foldl_nil,
    String.empty_append, Bool.false_eq_true, if_false, hdone]

/-- **A process that asks for the state of synchronisation** is told of as many tracked entities as
    records, before the process and in it. -/
theorem Directory.Carries.run_status (h : d.Carries place v b) (hd : SameBut place base d)
    (hnone : base.files.lookup place = none) {track : Bool} (hs : s.Asks base place track .status) :
    (s.run d).1.code = 0 ∧ (s.run d).1.output = statusText v.records.size := by
  obtain ⟨dev, hbefore, hloaded, -, -, hcode, houtput, -⟩ := h.performed hd hnone hs
  rw [hbefore.perform_status, hloaded] at hcode houtput
  exact ⟨hcode, houtput.trans (printed_statusLines h.memos)⟩

/-! ## 4. All processes -/

/-- **Processes one after another** do to the file what their commands do to the credential map. -/
theorem Directory.Carries.after {past : List (Start × Command)} (h : d.Carries place v b)
    (hd : SameBut place base d) (hnone : base.files.lookup place = none)
    (hpast : ∀ x ∈ past, x.1.Asks base place true x.2 ∧ x.2.isChange = true) :
    SameBut place base (d.after (past.map Prod.fst)) ∧
      ∃ b', (d.after (past.map Prod.fst)).Carries place ((past.map Prod.snd).foldl Command.step v) b' := by
  induction past generalizing d v b with
  | nil => exact ⟨hd, b, h⟩
  | cons x past ih =>
    obtain ⟨hasks, hchange⟩ := hpast x List.mem_cons_self
    obtain ⟨-, -, hsame, b', hcarries⟩ := h.run hd hnone hasks hchange
    exact ih hcarries hsame fun y hy => hpast y (List.mem_cons_of_mem _ hy)

/-- A process does to the database at a place what its command does to the credential map. The
    directory `base` is the one in which processes are told where the place is. -/
structure Start.Follows (s : Start) (base before : Directory) (place : FilePlace) (v : Vault)
    (c : Command) : Prop where
  /-- It finds the records of the map. -/
  found : before.records? place = some v.records
  /-- Its processor is handed the metadata that was left. -/
  handed : ∃ b, before.handed? s = some b ∧ before.metadata? place = some b
  /-- It succeeds exactly if the command has an outcome. -/
  code : (s.run before).1.code = if (c.outcome v).isSome then 0 else 1
  /-- It leaves the records that the command makes of those before. -/
  records : (s.run before).2.records? place = some (c.step v).records
  /-- It leaves the metadata alone if the command has no outcome. -/
  unchanged : c.outcome v = none → (s.run before).2.metadata? place = before.metadata? place
  /-- It leaves metadata for just the records: for their storage keys and no other text, and so as many
      entries as records, which is what the state of synchronisation is said to be afterwards. -/
  tracked : ∃ b, (s.run before).2.metadata? place = some b ∧
    (∀ text, (b.entities.get? text).isSome = true ↔
      ∃ key : PrimaryKey, key.storageKey = text ∧ ((c.step v).records.get? key).isSome = true) ∧
    b.entities.size = (c.step v).records.size ∧
    ∀ (t : Start) (track : Bool), t.Asks base place track .status →
      (t.run (s.run before).2).1.code = 0 ∧
        (t.run (s.run before).2).1.output = statusText (c.step v).records.size

/-- **The command line is a credential map.** Processes are run one after another, each with tracking and
    with an addition, an update or a removal on a database that is not there at first. Whatever they were
    asked for, folding their commands says what the next one finds, whether it succeeds, and what it
    leaves; both kinds of keys name one record, and additions succeed as long as there have been no more
    processes than there are primary keys. -/
theorem processes_fold_commands (hnone : base.files.lookup place = none)
    {past : List (Start × Command)}
    (hpast : ∀ x ∈ past, x.1.Asks base place true x.2 ∧ x.2.isChange = true)
    (hs : s.Asks base place true command) (hc : command.isChange = true) :
    s.Follows base (base.after (past.map Prod.fst)) place (Command.fold (past.map Prod.snd)) command ∧
      (Command.fold (past.map Prod.snd)).Identified ∧
      ∀ credential password, command = .add credential password →
        past.length < PrimaryKey.greatest.toInt →
        (command.outcome (Command.fold (past.map Prod.snd))).isSome = true := by
  obtain ⟨hsame, b, hbefore⟩ :=
    (Directory.Carries.absent hnone rfl rfl).after (.refl place base) hnone hpast
  rw [← Command.fold] at hbefore
  obtain ⟨hcode, hhanded, hsame', b', hafter⟩ := hbefore.run hsame hnone hs hc
  obtain ⟨hfound, hmetadata⟩ := hbefore.read
  obtain ⟨hleft, hmetadata'⟩ := hafter.read
  refine ⟨⟨hfound, ⟨b, hhanded, hmetadata⟩, hcode, hleft, fun hfails => ?_, b', hmetadata',
    hafter.memos.isSome_iff, hafter.memos.size_eq, fun t track ht => ?_⟩, ?_, ?_⟩
  · have hsteady : command.step (Command.fold (past.map Prod.snd)) =
        Command.fold (past.map Prod.snd) := by
      rw [Command.step, hfails]
      rfl
    have hmemos := hafter.memos
    rw [hsteady] at hmemos
    rw [hmetadata, hmetadata', hmemos.unique hbefore.memos]
  · exact hafter.run_status hsame' hnone ht
  · exact Command.identified_foldl Vault.identified_empty _
  · rintro credential password rfl hlength
    refine Command.add_isSome credential password (Int.lt_of_le_of_lt ?_ hlength)
    have hkeys := Command.lastKey_foldl {} (past.map Prod.snd)
    rw [List.length_map] at hkeys
    exact Int.le_trans hkeys (by simp)

/-- A working directory with another directory in it. -/
def cellar : Directory :=
  { working := [Text.Utf8.encode "data"], folders := [[Text.Utf8.encode "data", Text.Utf8.encode "sub"]] }

/-- The place of a file in the other directory. -/
def shelf : FilePlace := ["data", "sub", "a.db"].map Text.Utf8.encode

/-- The file has a name from the working directory on. -/
theorem names_shelf_below : cellar.Names shelf "sub/a.db" (Text.Utf8.encode "sub/a.db") :=
  .of_spelled rfl rfl (by decide) (by decide) rfl rfl (by decide) (by decide)

/-- The file has a name from the root on. -/
theorem names_shelf_root : cellar.Names shelf "/data/sub/a.db" (Text.Utf8.encode "/data/sub/a.db") :=
  .of_spelled rfl rfl (by decide) (by decide) rfl rfl (by decide) (by decide)

/-- The configuration does not depend on the command. -/
theorem configuration_command (surroundings : Surroundings) (i : Invocation) (command : Option Command) :
    configuration surroundings { i with command } = configuration surroundings i := rfl

/-- A process with tracking on the file. -/
theorem asks_shelf {home : Option String} {args : List String} {typed name : String} {path : List UInt8}
    (hrequest : readRequest args = .run { database := some typed, track := true, command := some command })
    (hconfig : configuration (cellar.surroundings [] home) { database := some typed, track := true } =
      .ok { store.path := name })
    (hnames : cellar.Names shelf name path) : Start.Asks { home, args } cellar shelf true command := by
  have hwhole := (configuration_command (cellar.surroundings [] home)
    { database := some typed, track := true } (some command)).trans hconfig
  have houtput : ∃ o filter, LogOutput.installSettings none {} = .ok o ∧
    Filter.choose? [] o.level = some filter := ⟨_, _, rfl, rfl⟩
  have hwait : ({} : StoreSettings).busyTimeout.millis ≤ longestWait := by decide
  have hcapacity : ({} : BridgeSettings).broadcastCapacity.toNat ≤ Notifier.greatestCapacity := by decide
  exact ⟨_, { store.path := name }, path, ⟨hrequest, hwhole, houtput, hwait, hcapacity, hnames⟩, rfl, rfl⟩

/-- A process that adds a record. -/
def addition : Start :=
  { args := ["--db", "sub/a.db", "--track", "add", "--origin", "o", "--username", "u", "--password", "p"] }

/-- A process that removes the first record; it finds the file from the home directory on. -/
def removal : Start :=
  { home := some "/data", args := ["--db", "~/sub/a.db", "--track", "remove", "1"] }

/-- What the first process is asked to do. -/
def added : Command := .add { origin := "o", username := "u" } "p"

theorem processes_fold_commands_removal :
    cellar.files.lookup shelf = none ∧
      (∀ x ∈ [(addition, added)], x.1.Asks cellar shelf true x.2 ∧ x.2.isChange = true) ∧
      removal.Asks cellar shelf true (.remove 1) ∧ (Command.remove 1).isChange = true ∧
      ((Command.fold [added]).records.get? 1).isSome = true ∧
      removal.Follows cellar (cellar.after [addition]) shelf (Command.fold [added]) (.remove 1) := by
  have hpast : ∀ x ∈ [(addition, added)], x.1.Asks cellar shelf true x.2 ∧ x.2.isChange = true := by
    intro x hx
    obtain rfl := List.mem_singleton.1 hx
    exact ⟨asks_shelf rfl rfl names_shelf_below, rfl⟩
  have hremoval : removal.Asks cellar shelf true (.remove 1) := asks_shelf rfl rfl names_shelf_root
  exact ⟨rfl, hpast, hremoval, rfl, rfl, (processes_fold_commands rfl hpast hremoval rfl).1⟩

end CredentialSync.CommandLine
