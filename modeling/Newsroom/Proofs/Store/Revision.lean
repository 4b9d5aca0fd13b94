import Newsroom.Store.Revision

/-!
# What becomes of a database that is made current

Making a database current either fails, and then nothing has changed, or it leads to the latest
revision (`Database.migrations_settle`). What was there stays: tables, indexes and rows are only
added to (`Database.Extends`), by each step and hence by every number of runs.

Whether the database can then be used is not settled by that. A step takes a table of the right
name as it is, and a database of the latest revision is not looked at, so a database that was made
current is ready exactly when it was ready before or had neither a revision nor the table
(`Database.migrated_ready_iff`). `Database.narrowTable_not_ready` is a database that is made
current and lacks columns.
-/

namespace Newsroom

namespace Database

/-- The steps above a revision. -/
def pendingSteps (found : Nat) : List RevisionStep :=
  revisionSteps.filter fun s => found < s.version

/-- The database after a number of runs. -/
def afterRuns (d : Database) : Nat → Database
  | 0 => d
  | n + 1 => (d.afterRuns n).migrate.database

/-- The second database has everything that the first one has, in place. -/
structure Extends (d e : Database) : Prop where
  tables : d.tables <+: e.tables
  indexes : d.indexes <+: e.indexes
  rows : e.rows = d.rows

theorem Extends.refl (d : Database) : d.Extends d :=
  ⟨List.prefix_rfl, List.prefix_rfl, rfl⟩

theorem Extends.trans {d e f : Database} (h : d.Extends e) (h' : e.Extends f) : d.Extends f :=
  ⟨h.tables.trans h'.tables, h.indexes.trans h'.indexes, h'.rows.trans h.rows⟩

variable {d e : Database} {name table : String} {columns : List String}
  {steps : List RevisionStep} {found : Nat}

/-! ### One step -/

/-- A table is there already, or it is added behind the others. -/
theorem createTable_cases (h : createTable name columns d = some e) :
    (d.table? name ≠ none ∧ e = d) ∨
      d.table? name = none ∧ e = { d with tables := d.tables ++ [⟨name, columns⟩] } := by
  rw [createTable] at h
  split at h
  case h_1 t hfound =>
    rw [hfound]
    exact .inl ⟨Option.some_ne_none t, (Option.some.inj h).symm⟩
  case h_2 hnone =>
    split at h
    case isTrue => cases h
    case isFalse => exact .inr ⟨hnone, (Option.some.inj h).symm⟩

/-- An index is there already, or it is added behind the others. -/
theorem createIndex_cases (h : createIndex name table columns d = some e) :
    e = d ∨ e = { d with indexes := d.indexes ++ [name] } := by
  rw [createIndex] at h
  split at h
  case h_1 => cases h
  case h_2 =>
    split at h
    case isTrue => cases h
    case isFalse =>
      split at h
      case isTrue => exact .inl (Option.some.inj h).symm
      case isFalse =>
        split at h
        case isTrue => exact .inr (Option.some.inj h).symm
        case isFalse => cases h

theorem extends_createTable (h : createTable name columns d = some e) : d.Extends e := by
  obtain ⟨-, rfl⟩ | ⟨-, rfl⟩ := createTable_cases h
  · exact Extends.refl _
  · exact ⟨List.prefix_append _ _, List.prefix_rfl, rfl⟩

theorem extends_createIndex (h : createIndex name table columns d = some e) : d.Extends e := by
  obtain rfl | rfl := createIndex_cases h
  · exact Extends.refl _
  · exact ⟨List.prefix_rfl, List.prefix_append _ _, rfl⟩

theorem tables_createIndex (h : createIndex name table columns d = some e) :
    e.tables = d.tables := by
  obtain rfl | rfl := createIndex_cases h
  · rfl
  · rfl

/-- **One step** leaves in place what is there. -/
theorem extends_of_step {s : RevisionStep} (hs : s ∈ revisionSteps) (h : s.run d = some e) :
    d.Extends e := by
  simp only [revisionSteps, List.mem_cons, List.not_mem_nil, or_false] at hs
  obtain rfl | rfl := hs
  · exact extends_createTable h
  · obtain ⟨f, hfirst, hsecond⟩ := Option.bind_eq_some_iff.1 h
    exact (extends_createIndex hfirst).trans (extends_createIndex hsecond)

/-! ### Steps in sequence -/

theorem runSteps_cons_eq_ok_iff {s : RevisionStep} :
    (runSteps d (s :: steps)).1 = .ok e ↔
      ∃ f, s.run d = some f ∧ (runSteps { f with revision := s.version } steps).1 = .ok e := by
  rw [runSteps]
  cases s.run d with
  | none => simp
  | some f => simp

theorem extends_runSteps (hsteps : ∀ s ∈ steps, s ∈ revisionSteps)
    (h : (runSteps d steps).1 = .ok e) : d.Extends e := by
  induction steps generalizing d with
  | nil =>
    cases h
    exact Extends.refl _
  | cons s rest ih =>
    obtain ⟨hs, hrest⟩ := List.forall_mem_cons.1 hsteps
    obtain ⟨f, hf, hrun⟩ := runSteps_cons_eq_ok_iff.1 h
    have hlater := ih hrest hrun
    exact (extends_of_step hs hf).trans ⟨hlater.tables, hlater.indexes, hlater.rows⟩

/-- The last step leaves its own revision. -/
theorem revision_runSteps (h : (runSteps d steps).1 = .ok e) :
    e.revision = steps.foldl (fun _ s => (s.version : Int)) d.revision := by
  induction steps generalizing d with
  | nil =>
    cases h
    rfl
  | cons s rest ih =>
    obtain ⟨f, -, hrun⟩ := runSteps_cons_eq_ok_iff.1 h
    exact ih hrun

/-- There is one pending step for each revision that is missing. -/
theorem length_pendingSteps (h : found ≤ latestRevision) :
    (pendingSteps found).length = latestRevision - found := by
  have hsmall : found = 0 ∨ found = 1 ∨ found = 2 := by
    simp only [latestRevision] at h
    omega
  obtain rfl | rfl | rfl := hsmall <;> rfl

/-- The pending steps end with the latest revision. -/
theorem foldl_pendingSteps (h : found < latestRevision) (revision : Int) :
    (pendingSteps found).foldl (fun _ s => (s.version : Int)) revision = latestRevision := by
  have hsmall : found = 0 ∨ found = 1 := by
    simp only [latestRevision] at h
    omega
  obtain rfl | rfl := hsmall <;> rfl

/-! ### A run -/

/-- A run fails and changes nothing, or there is nothing to do, or all pending steps succeed. -/
theorem migrate_cases (d : Database) :
    (∃ err, d.migrate.result = .error err ∧ d.migrate.database = d) ∨
    (d.revision = latestRevision ∧ d.migrate.result = .ok 0 ∧ d.migrate.database = d) ∨
    ∃ found : Nat, d.revision = found ∧ found < latestRevision ∧
      d.migrate.result = .ok (latestRevision - found) ∧
      (runSteps d (pendingSteps found)).1 = .ok d.migrate.database := by
  rw [migrate, version]
  by_cases hnegative : d.revision < 0
  · rw [if_pos hnegative]
    exact .inl ⟨_, rfl, rfl⟩
  rw [if_neg hnegative]
  dsimp only
  obtain ⟨found, hfound⟩ := Int.eq_ofNat_of_zero_le (Int.not_lt.1 hnegative)
  rw [hfound, Int.toNat_natCast]
  by_cases hnew : latestRevision < found
  · rw [if_pos hnew]
    exact .inl ⟨_, rfl, rfl⟩
  rw [if_neg hnew]
  by_cases hcurrent : found = latestRevision
  · rw [if_pos hcurrent]
    exact .inr (.inl ⟨congrArg Nat.cast hcurrent, rfl, rfl⟩)
  rw [if_neg hcurrent]
  have hlength := length_pendingSteps (Nat.le_of_not_lt hnew)
  rw [pendingSteps] at hlength
  cases hrun : runSteps d (revisionSteps.filter fun s => found < s.version) with
  | mk result records =>
    cases result with
    | error err => exact .inl ⟨err, rfl, rfl⟩
    | ok e =>
      refine .inr (.inr ⟨found, rfl, by omega, congrArg Except.ok hlength, ?_⟩)
      rw [pendingSteps, hrun]

/-- A run leaves in place what is there, whether it succeeds or fails. -/
theorem extends_migrate (d : Database) : d.Extends d.migrate.database := by
  rcases migrate_cases d with ⟨err, -, hsame⟩ | ⟨-, -, hsame⟩ | ⟨found, -, -, -, hrun⟩
  · rw [hsame]
    exact Extends.refl d
  · rw [hsame]
    exact Extends.refl d
  · exact extends_runSteps (fun s hs => (List.mem_filter.1 hs).1) hrun

/-- A run that succeeds starts from a revision up to the latest and leads to that. -/
theorem revision_migrate {k : Nat} (h : d.migrate.result = .ok k) :
    0 ≤ d.revision ∧ d.revision + k = latestRevision ∧
      d.migrate.database.revision = latestRevision := by
  rcases migrate_cases d with
    ⟨err, herr, -⟩ | ⟨hrevision, hok, hsame⟩ | ⟨found, hfound, hlt, hok, hrun⟩
  · rw [herr] at h
    cases h
  · rw [hok] at h
    cases h
    rw [hsame, hrevision]
    exact ⟨Int.natCast_nonneg _, Int.add_zero _, rfl⟩
  · rw [hok] at h
    cases h
    rw [revision_runSteps hrun, foldl_pendingSteps hlt, hfound]
    omega

/-- A database of the latest revision is left alone. -/
theorem migrate_of_current (h : d.revision = latestRevision) :
    d.migrate.result = .ok 0 ∧ d.migrate.database = d := by
  rw [migrate, version, h]
  exact ⟨rfl, rfl⟩

/-- Further runs leave a database of the latest revision alone. -/
theorem afterRuns_of_current {n : Nat} (h : (d.afterRuns n).revision = latestRevision) (m : Nat) :
    d.afterRuns (n + m) = d.afterRuns n := by
  induction m with
  | zero => rfl
  | succ m ih =>
    show (d.afterRuns (n + m)).migrate.database = _
    rw [ih]
    exact (migrate_of_current h).2

/-- **Making current is atomic, monotone and idempotent**: from every database and after every
number of runs, the next run changes nothing if it fails. If it succeeds, it started from a
revision between zero and the latest, leads to the latest, answers how many revisions were between
the two, and every later run answers zero and changes nothing. No run takes away tables, indexes or
rows. -/
theorem migrations_settle (d : Database) (n : Nat) :
    (∀ err, (d.afterRuns n).migrate.result = .error err →
      d.afterRuns (n + 1) = d.afterRuns n) ∧
    (∀ k, (d.afterRuns n).migrate.result = .ok k →
      0 ≤ (d.afterRuns n).revision ∧ (d.afterRuns n).revision ≤ latestRevision ∧
      (d.afterRuns (n + 1)).revision = latestRevision ∧
      (k : Int) = latestRevision - (d.afterRuns n).revision ∧
      ∀ m, n < m → (d.afterRuns m).migrate.result = .ok 0 ∧
        d.afterRuns (m + 1) = d.afterRuns m) ∧
    (d.afterRuns n).Extends (d.afterRuns (n + 1)) := by
  refine ⟨fun err herr => ?_, fun k hk => ?_, extends_migrate _⟩
  · rcases migrate_cases (d.afterRuns n) with ⟨_, -, hsame⟩ | ⟨-, hok, -⟩ | ⟨_, -, -, hok, -⟩
    · exact hsame
    · rw [hok] at herr
      cases herr
    · rw [hok] at herr
      cases herr
  · obtain ⟨hnonneg, hsum, hlatest⟩ := revision_migrate hk
    have hlater : (d.afterRuns (n + 1)).revision = latestRevision := hlatest
    refine ⟨hnonneg, by omega, hlater, by omega, fun m hm => ?_⟩
    -- every later database is the one that the run led to
    obtain ⟨i, rfl⟩ := Nat.exists_eq_add_of_le hm
    have hcurrent : (d.afterRuns (n + 1 + i)).revision = latestRevision := by
      rw [afterRuns_of_current hlater]
      exact hlater
    exact migrate_of_current hcurrent

/-! ### Readiness -/

/-- The database has the table of vocabularies, and that has every column that is asked for. -/
def Usable (d : Database) : Prop :=
  ∃ t, d.tables.find? (fun t => t.name = vocabularyTable) = some t ∧
    ∀ c ∈ vocabularyColumns, c ∈ t.columns

/-- The database has no table of vocabularies, under no spelling of its name. -/
def LacksTable (d : Database) : Prop := d.table? vocabularyTable = none

theorem ready_eq_ok_iff : d.ready = .ok () ↔ d.Usable := by
  rw [ready, Usable]
  cases d.tables.find? fun t => t.name = vocabularyTable with
  | none => simp
  | some t =>
    dsimp only
    split
    case h_1 c hmissing =>
      refine iff_of_false nofun fun ⟨t', hsame, hall⟩ => ?_
      cases hsame
      have hc := List.find?_some hmissing
      simp [hall c (List.mem_of_find?_eq_some hmissing)] at hc
    case h_2 hnone =>
      refine iff_of_true rfl ⟨t, rfl, fun c hc => ?_⟩
      simpa using List.find?_eq_none.1 hnone c hc

/-- Only the tables matter to readiness. -/
theorem usable_congr (h : e.tables = d.tables) : e.Usable ↔ d.Usable := by
  rw [Usable, Usable, h]

/-- The table that the first step creates has every column that is asked for. -/
theorem usable_of_created (hlacks : d.LacksTable)
    (h : e.tables = d.tables ++ [⟨vocabularyTable, vocabularyColumns⟩]) : e.Usable := by
  have hnone : d.tables.find? (fun t => t.name = vocabularyTable) = none := by
    refine List.find?_eq_none.2 fun t ht hname => ?_
    have hother := List.find?_eq_none.1 hlacks t ht
    rw [of_decide_eq_true hname] at hother
    exact hother (decide_eq_true rfl)
  refine ⟨⟨vocabularyTable, vocabularyColumns⟩, ?_, fun c hc => hc⟩
  rw [h, List.find?_append, hnone, Option.none_or]
  rfl

/-- A run that succeeds adds the table if it started without revision and table, and no other. -/
theorem tables_migrate {k : Nat} (h : d.migrate.result = .ok k) :
    (d.revision = 0 ∧ d.LacksTable ∧
      d.migrate.database.tables = d.tables ++ [⟨vocabularyTable, vocabularyColumns⟩]) ∨
    ¬ (d.revision = 0 ∧ d.LacksTable) ∧ d.migrate.database.tables = d.tables := by
  rcases migrate_cases d with
    ⟨err, herr, -⟩ | ⟨hrevision, -, hsame⟩ | ⟨found, hfound, hlt, -, hrun⟩
  · rw [herr] at h
    cases h
  · rw [hsame, hrevision]
    exact .inr ⟨fun hzero => absurd hzero.1 (by decide), rfl⟩
  · -- the second step, which is pending in both cases, adds indexes only
    have hindexes : ∀ {f : Database},
        (runSteps f (pendingSteps 1)).1 = .ok d.migrate.database →
        d.migrate.database.tables = f.tables := by
      intro f hrun
      obtain ⟨g, hg, hlast⟩ := runSteps_cons_eq_ok_iff.1 hrun
      obtain ⟨g', hfirst, hsecond⟩ := Option.bind_eq_some_iff.1 hg
      rw [← Except.ok.inj hlast]
      exact (tables_createIndex hsecond).trans (tables_createIndex hfirst)
    have hsmall : found = 0 ∨ found = 1 := by
      simp only [latestRevision] at hlt
      omega
    obtain rfl | rfl := hsmall
    · obtain ⟨f, hcreated, hrest⟩ := runSteps_cons_eq_ok_iff.1 hrun
      have htables := hindexes hrest
      obtain ⟨hthere, rfl⟩ | ⟨hlacks, rfl⟩ := createTable_cases hcreated
      · exact .inr ⟨fun hzero => hthere hzero.2, htables⟩
      · exact .inl ⟨hfound, hlacks, htables⟩
    · refine .inr ⟨fun hzero => ?_, hindexes hrun⟩
      rw [hfound] at hzero
      exact absurd hzero.1 (by decide)

/-- **When a database that was made current can be used**: exactly when it had the table of
vocabularies with all its columns before, or had neither a revision nor such a table. -/
theorem migrated_ready_iff {d : Database} {k : Nat} (h : d.migrate.result = .ok k) :
    d.migrate.database.ready = .ok () ↔ d.Usable ∨ d.revision = 0 ∧ d.LacksTable := by
  rw [ready_eq_ok_iff]
  rcases tables_migrate h with ⟨hzero, hlacks, hadded⟩ | ⟨hnot, hsame⟩
  · exact iff_of_true (usable_of_created hlacks hadded) (.inr ⟨hzero, hlacks⟩)
  · rw [usable_congr hsame, or_iff_left hnot]

/-- A database of another program, without revision. -/
def foreignDatabase : Database := ⟨0, [⟨"articles", ["id"]⟩], [], ∅⟩

/-- The database of another program gets its table and can be used. -/
theorem foreignDatabase_ready :
    foreignDatabase.migrate.result = .ok 2 ∧
    foreignDatabase.migrate.database.ready = .ok () := by
  have hmigrated : foreignDatabase.migrate.result = .ok 2 := rfl
  have hlacks : foreignDatabase.table? vocabularyTable = none := rfl
  exact ⟨hmigrated, (migrated_ready_iff hmigrated).2 (.inr ⟨rfl, hlacks⟩)⟩

/-- A database without revision whose table of vocabularies has little more than the columns that
the indexes are on. -/
def narrowTable : Database :=
  ⟨0, [⟨"vocabularies", ["id", "field_type", "vocabulary_type", "is_deleted"]⟩], [], ∅⟩

/-- The database is made current by both steps and lacks a column; so does one of the latest
revision without any table. -/
theorem narrowTable_not_ready :
    narrowTable.migrate.result = .ok 2 ∧
    narrowTable.migrate.database.ready = .error (.missingColumn "document") ∧
    (Database.empty.withRevision 2).migrate.result = .ok 0 ∧
    (Database.empty.withRevision 2).migrate.database.ready = .error .missingTable ∧
    ¬ ∀ (d : Database) (k : Nat), d.migrate.result = .ok k →
      d.migrate.database.ready = .ok () := by
  have hmigrated : narrowTable.migrate.result = .ok 2 := rfl
  have hlacking : narrowTable.migrate.database.ready = .error (.missingColumn "document") := rfl
  refine ⟨hmigrated, hlacking, rfl, rfl, fun h => ?_⟩
  have hready := h narrowTable 2 hmigrated
  rw [hlacking] at hready
  cases hready

end Database

end Newsroom
