import CredentialSync.Proofs.CommandLine.Commands
import CredentialSync.Proofs.Store.Lockstep

/-!
# Opening the database of a directory

A process finds its configuration and its database among the files of a machine. This file says what of
them that depends on.

* A path leads where it leads whatever files there are (`Directory.walk_ok`); so the configuration stays
  the same while only one file changes that was not there at first (`configuration_ok`).
* A database name that is `Directory.Names` for a place leads there whether or not there is a file. It may
  begin at the root or at the working directory and go through any directories; if it does so without
  dots, it names the place that it spells out (`Directory.Names.of_spelled`).
* If the file at the place carries some records, or there is none, opening it succeeds, and the database
  carries them (`Directory.Carries.openDatabase`). A new database is brought to the current schema; one
  that is there has been.
-/

namespace CredentialSync.CommandLine

namespace Directory

variable {d d' : Directory} {place : FilePlace}

theorem file_surroundings (d : Directory) (environment : Environment) (home : Option String) :
    (d.surroundings environment home).file = d.file := rfl

theorem database_surroundings (d : Directory) (environment : Environment) (home : Option String) :
    (d.surroundings environment home).database = d.database := rfl

/-! ## 1. Files -/

/-- Taking the file at one place away leaves the others. -/
theorem lookup_others {p : FilePlace} (hp : p ≠ place) (files : List (FilePlace × FileContent)) :
    (files.filter (·.1 != place)).lookup p = files.lookup p := by
  induction files with
  | nil => rfl
  | cons x files ih =>
    by_cases hx : x.1 = place
    · rw [List.filter_cons_of_neg (by simpa using hx), List.lookup_cons, hx, beq_eq_false_iff_ne.2 hp, ih]
    · rw [List.filter_cons_of_pos (by simpa using hx), List.lookup_cons, List.lookup_cons, ih]

/-- Both have the same directories, and the same files except at one place. -/
structure SameBut (place : FilePlace) (d d' : Directory) : Prop where
  working : d'.working = d.working
  folders : d'.folders = d.folders
  files : ∀ p, p ≠ place → d'.files.lookup p = d.files.lookup p

theorem SameBut.refl (place : FilePlace) (d : Directory) : SameBut place d d := ⟨rfl, rfl, fun _ _ => rfl⟩

theorem SameBut.isDirectory (h : SameBut place d d') (p : FilePlace) :
    d'.isDirectory p = d.isDirectory p := by
  rw [Directory.isDirectory, h.working, h.folders, Directory.isDirectory]

/-- **Where a path leads does not depend on the files**, only what is wrong if it leads nowhere. -/
theorem SameBut.walk_ok (h : SameBut place d d') {creating : Bool} {p : FilePlace}
    {names : List (List UInt8)} {g : Goal} (hwalk : d.walk creating p names = .ok g) :
    d'.walk creating p names = .ok g := by
  fun_induction walk d creating p names with
  | case1 => exact hwalk
  | case2 p part rest hskip ih => rw [walk, if_pos hskip, ih hwalk]
  | case3 p part rest hskip habove ih => rw [walk, if_neg hskip, if_pos habove, ih hwalk]
  | case4 | case5 => cases hwalk
  | case6 p part rest hskip habove hslash hlong hdirectory ih =>
    rw [walk, if_neg hskip, if_neg habove, if_neg hslash, if_neg hlong, h.isDirectory,
      if_pos hdirectory, ih hwalk]
  | case7 p part rest hskip habove hslash hlong hdirectory hlast =>
    rw [walk, if_neg hskip, if_neg habove, if_neg hslash, if_neg hlong, h.isDirectory,
      if_neg hdirectory, if_pos hlast, hwalk]
  | case8 | case9 => cases hwalk

theorem SameBut.goal_ok (h : SameBut place d d') {creating : Bool} {path : List UInt8} {g : Goal}
    (hgoal : d.goal creating path = .ok g) : d'.goal creating path = .ok g := by
  unfold goal at hgoal ⊢
  rw [h.working]
  split_ifs at hgoal ⊢ <;> exact h.walk_ok hgoal

theorem SameBut.resolve_ok (h : SameBut place d d') {creating : Bool} {path : List UInt8}
    {p : FilePlace} (hresolve : d.resolve creating path = .ok p) : d'.resolve creating path = .ok p := by
  unfold resolve at hresolve ⊢
  cases hg : d.goal creating path with
  | error e =>
    rw [hg] at hresolve
    cases hresolve
  | ok g => rw [h.goal_ok hg, ← hg, hresolve]

/-- A file that is read is read also while another place changes where there was no file. -/
theorem SameBut.file_ok (h : SameBut place d d') (hnone : d.files.lookup place = none) {path : String}
    {bs : List UInt8} (hfile : d.file path = .ok bs) : d'.file path = .ok bs := by
  unfold Directory.file at hfile ⊢
  cases hp : d.resolve false (Text.Utf8.encode path) with
  | error e =>
    rw [hp] at hfile
    cases hfile
  | ok p =>
    rw [hp] at hfile
    rw [h.resolve_ok hp]
    have hne : p ≠ place := by
      rintro rfl
      simp only [Except.bind, hnone] at hfile
      cases hfile
    simpa only [Except.bind, h.files p hne] using hfile

end Directory

section Configuration

variable {d d' : Directory} {place : FilePlace} {environment : Environment} {home : Option String}
  {i : Invocation} {c : Config}

theorem baseConfig_ok (h : Directory.SameBut place d d') (hnone : d.files.lookup place = none)
    (hc : baseConfig (d.surroundings environment home) i = .ok c) :
    baseConfig (d'.surroundings environment home) i = .ok c := by
  unfold baseConfig at hc ⊢
  cases hconfig : i.config with
  | none =>
    rw [hconfig] at hc
    exact hc
  | some path =>
    rw [hconfig] at hc
    simp only [Directory.file_surroundings] at hc ⊢
    cases hfile : d.file ((d.surroundings environment home).expand path) with
    | error fault =>
      rw [hfile] at hc
      cases hc
    | ok bs =>
      have hfile' : d'.file ((d'.surroundings environment home).expand path) = .ok bs :=
        h.file_ok hnone hfile
      rw [hfile] at hc
      rw [hfile']
      exact hc

/-- **The configuration stays the same** while a place changes where there was no file. -/
theorem configuration_ok (h : Directory.SameBut place d d') (hnone : d.files.lookup place = none)
    (hc : configuration (d.surroundings environment home) i = .ok c) :
    configuration (d'.surroundings environment home) i = .ok c := by
  unfold configuration at hc ⊢
  cases hb : baseConfig (d.surroundings environment home) i with
  | error f =>
    rw [hb] at hc
    cases hc
  | ok base =>
    rw [hb] at hc
    rw [baseConfig_ok h hnone hb]
    exact hc

end Configuration

namespace Directory

variable {d d' : Directory} {place : FilePlace} {v : Vault} {b : MetadataBatch}

/-! ## 2. Databases -/

/-- The name of a database stands for a place in a directory, whether or not there is a file. Nothing
    special is asked for, and there is room beside the file for what belongs to it. -/
structure Names (d : Directory) (place : FilePlace) (name : String) (path : List UInt8) : Prop where
  location : Location.read name = .ok { given := name, place := .file path }
  leads : ∀ d', SameBut place d d' → d'.locate path = some place
  parent : d.isDirectory place.dropLast = true
  free : d.isDirectory place = false
  room : (place.getLastD []).length + Connection.journalEnding.length ≤ longestName

/-- The place that the parts of a path spell out, if none of them goes up. -/
def spelled (names : List (List UInt8)) : FilePlace :=
  names.filter fun part => !(part.isEmpty || part == here)

@[simp] theorem spelled_nil : spelled [] = [] := rfl

theorem spelled_cons (name : List UInt8) (names : List (List UInt8)) :
    spelled (name :: names) =
      if name.isEmpty || name == here then spelled names else name :: spelled names := by
  rw [spelled, List.filter_cons]
  cases name.isEmpty || name == here <;> rfl

theorem pathLength_append (p q : FilePlace) : pathLength (p ++ q) = pathLength p + pathLength q := by
  rw [pathLength, List.flatten_append, List.length_append, List.length_append, pathLength, pathLength]
  omega

/-- What stands above a directory is a directory. -/
theorem isDirectory_of_above {p q : FilePlace} (hpq : p <+: q) (h : d.isDirectory q = true) :
    d.isDirectory p = true := by
  simp only [isDirectory, List.any_eq_true, List.isPrefixOf_iff_prefix] at h ⊢
  obtain ⟨place, hplace, hq⟩ := h
  exact ⟨place, hplace, hpq.trans hq⟩

/-- **A path that goes down through directories leads to the place that it spells out.** -/
theorem shorten_spelled {p : FilePlace} {names : List (List UInt8)} (habove : above ∉ names)
    (hshort : ∀ name ∈ names, name.length ≤ longestName)
    (hdirectory : ∀ q, q <+: spelled names → q ≠ spelled names → d.isDirectory (p ++ q) = true)
    (hlength : pathLength (p ++ spelled names) ≤ longestPath) :
    d.shorten p names = some (p ++ spelled names) := by
  fun_induction shorten d p names with
  | case1 p => rw [spelled_nil, List.append_nil]
  | case2 p name rest hskip ih =>
    rw [spelled_cons, if_pos hskip] at hdirectory hlength ⊢
    exact ih (fun h => habove (List.mem_cons_of_mem _ h))
      (fun n hn => hshort n (List.mem_cons_of_mem _ hn)) hdirectory hlength
  | case3 p name rest _ hup => exact absurd (eq_of_beq hup ▸ List.mem_cons_self) habove
  | case4 p name rest hskip _ hrefused =>
    -- the way so far is a directory and part of a path that is short enough
    rw [spelled_cons, if_neg hskip] at hdirectory hlength
    have hp : d.isDirectory p = true := by
      simpa using hdirectory [] List.nil_prefix (by simp)
    have hrefuses : d.refuses p name = false := by
      simp [refuses, isFile, hp, Nat.not_lt.2 (hshort name List.mem_cons_self)]
    rw [List.append_cons, pathLength_append] at hlength
    simp [hrefuses] at hrefused
    omega
  | case5 p name rest hskip _ _ ih =>
    rw [spelled_cons, if_neg hskip] at hdirectory hlength ⊢
    rw [List.append_cons p name (spelled rest)] at hlength ⊢
    refine ih (fun h => habove (List.mem_cons_of_mem _ h))
      (fun n hn => hshort n (List.mem_cons_of_mem _ hn)) (fun q hq hne => ?_) hlength
    rw [← List.append_cons]
    exact hdirectory (name :: q) ((List.prefix_cons_inj name).2 hq) (by simpa using hne)

/-- **A name that goes down through directories is the name of the place that it spells out.** -/
theorem Names.of_spelled {place : FilePlace} {name : String} {path : List UInt8}
    (location : Location.read name = .ok { given := name, place := .file path })
    (hspelled : spelled (d.fromRoot path) = place) (habove : above ∉ d.fromRoot path)
    (hshort : ∀ name ∈ d.fromRoot path, name.length ≤ longestName)
    (parent : d.isDirectory place.dropLast = true) (free : d.isDirectory place = false)
    (hlength : pathLength place ≤ longestPath)
    (room : (place.getLastD []).length + Connection.journalEnding.length ≤ longestName) :
    d.Names place name path where
  location := location
  leads d' hd := by
    subst hspelled
    have hroot : d'.fromRoot path = d.fromRoot path := by rw [fromRoot, hd.working, fromRoot]
    rw [locate, hroot]
    refine shorten_spelled habove hshort (fun q hq hne => ?_) hlength
    -- a shorter place stands above the parent, or is it
    have hlast : spelled (d.fromRoot path) ≠ [] := fun h => by
      rw [h] at hq hne
      exact hne (List.prefix_nil.1 hq)
    rw [← List.dropLast_append_getLast hlast, List.prefix_concat_iff] at hq
    rw [List.dropLast_append_getLast] at hq
    exact (hd.isDirectory _).trans (isDirectory_of_above (hq.resolve_left hne) parent)
  parent := parent
  free := free
  room := room

/-- Whoever opens the database at the place finds these records and this metadata: the file there
    carries them, or there is none and nothing to be carried. -/
inductive Carries (place : FilePlace) (v : Vault) (b : MetadataBatch) (d : Directory) : Prop where
  | absent (hnone : d.files.lookup place = none) (hv : v = {}) (hb : b = {})
  | kept {tables : Tables} {writeAhead : Bool}
      (hfile : d.files.lookup place = some (.database tables writeAhead))
      (hs : (Store.database { tables }).Carries v b)

/-- A new database carries nothing. -/
theorem carries_fresh : (Store.database .fresh).Carries {} {} :=
  ⟨Request.shows_database, ⟨by decide, nofun⟩, .empty⟩

/-- The connection to the database at a place. -/
def connection (d : Directory) (place : FilePlace) (name : String) (path : List UInt8) : Connection where
  location := { given := name, place := .file path }
  site := { content := d.files.lookup place, room := longestName - (place.getLastD []).length }

section Names

variable {name : String} {path : List UInt8}

theorem Names.connect (h : d.Names place name path) (hd : SameBut place d d')
    (environment : Environment) (home : Option String) :
    connect (d'.surroundings environment home) name = .ok (d'.connection place name path) := by
  have hparent : d'.isDirectory place.dropLast = true := (hd.isDirectory _).trans h.parent
  have hfree : d'.isDirectory place = false := (hd.isDirectory _).trans h.free
  have hdatabase : d'.database { given := name, place := .file path } =
      .ok (d'.connection place name path).site := by
    unfold Directory.database
    simp only [h.leads d' hd]
    cases place with
    | nil => cases hfree
    | cons first more =>
      simp only [Option.any_none, Bool.false_eq_true, if_false, hparent, hfree, Bool.not_true,
        bne_self_eq_false, Bool.and_false, Bool.or_false]
      rfl
  unfold CommandLine.connect
  rw [h.location]
  simp only [Except.bind, database_surroundings, hdatabase]
  rfl

/-- Nothing keeps the database from being changed. -/
theorem Names.closed? (h : d.Names place name path) (d' : Directory) (file : DatabaseFile)
    (hfile : file.sealed = false) : (d'.connection place name path).closed? file = none := by
  have hroom : ¬ (d'.connection place name path).site.room < Connection.journalEnding.length := by
    have := h.room
    show ¬ longestName - (place.getLastD []).length < _
    omega
  rw [Connection.closed?, if_neg hroom, Connection.readOnly, hfile]
  rfl

variable {tables tables' : Tables} {writeAhead : Bool}

theorem Names.askForLog (h : d.Names place name path)
    (hlook : (d'.connection place name path).look = .ok { tables, writeAhead }) :
    (d'.connection place name path).askForLog = .ok .writeAhead := by
  have hclosed := h.closed? d' { tables, writeAhead } rfl
  unfold Connection.askForLog
  simp only [hlook, Except.bind, hclosed]
  cases writeAhead <;> rfl

theorem Names.prepare (h : d.Names place name path)
    (hlook : (d'.connection place name path).look = .ok { tables, writeAhead })
    (hmigrate : Tables.migrate.perform tables = (.ok (), tables')) (journal : Option Journal) :
    prepare (d'.connection place name path) journal =
      (migrationEvents (tables.versions.getD []) (tables'.versions.getD []),
        .ok {
          connection := d'.connection place name path
          database := { tables := tables' }
          writeAhead := writeAhead || journal == some .writeAhead }) := by
  have hobstacle : (d'.connection place name path).obstacle? { tables, writeAhead } = none := by
    rw [Connection.obstacle?, h.closed? d' _ rfl]
    rfl
  have hreadOnly : (d'.connection place name path).readOnly { tables, writeAhead } = false := rfl
  unfold CommandLine.prepare
  simp only [hlook, hmigrate, hobstacle, ite_self, hreadOnly]

end Names

/-- What is found in the file, and what becomes of it when it is brought to the current schema. -/
theorem Carries.look (h : d.Carries place v b) (name : String) (path : List UInt8) :
    ∃ tables writeAhead tables', (d.connection place name path).look = .ok { tables, writeAhead } ∧
      Tables.migrate.perform tables = (.ok (), tables') ∧
      (Store.database { tables := tables' }).Carries v b := by
  unfold connection Connection.look
  cases h with
  | absent hnone hv hb =>
    subst hv hb
    rw [hnone]
    exact ⟨{}, false, Database.fresh.tables, rfl, rfl, carries_fresh⟩
  | @kept tables writeAhead hfile hs =>
    rw [hfile]
    refine ⟨tables, writeAhead, tables, ?_, Tables.migrate_of_noted hs.current.tables, hs⟩
    cases writeAhead <;> rfl

/-- **Opening a database** that carries some records, or one that is missing, succeeds. -/
theorem Carries.openDatabase {base : Directory} (h : d.Carries place v b) {settings : StoreSettings}
    {path : List UInt8} (hnames : base.Names place settings.path path) (hd : SameBut place base d)
    (hwait : settings.busyTimeout.millis ≤ longestWait) (environment : Environment)
    (home : Option String) :
    ∃ events o, openDatabase (d.surroundings environment home) settings = (events, .ok o) ∧
      o.connection = d.connection place settings.path path ∧
      (Store.database o.database).Carries v b := by
  obtain ⟨tables, writeAhead, tables', hlook, hmigrate, hs⟩ := h.look settings.path path
  obtain ⟨journal, hjournal⟩ : ∃ journal, (if settings.writeAhead then
      (d.connection place settings.path path).askForLog.map some else .ok none) = .ok journal := by
    cases settings.writeAhead with
    | false => exact ⟨none, rfl⟩
    | true => exact ⟨some .writeAhead, by rw [hnames.askForLog hlook]; rfl⟩
  have hopen : CommandLine.openDatabase (d.surroundings environment home) settings =
      (openingEvents journal settings.path ++
          migrationEvents (tables.versions.getD []) (tables'.versions.getD []),
        .ok {
          connection := d.connection place settings.path path
          database := { tables := tables' }
          writeAhead := writeAhead || journal == some .writeAhead }) := by
    unfold CommandLine.openDatabase
    rw [hnames.connect hd]
    simp only [if_neg (Nat.not_lt.2 hwait), hjournal, hnames.prepare hlook hmigrate, Except.mapError]
  exact ⟨_, _, hopen, rfl, hs⟩

end Directory

end CredentialSync.CommandLine
