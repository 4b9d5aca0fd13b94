import Newsroom.Logging.Basic

/-!
# The log settles once

A call to start the log asks for settings in words. It comes to settings (`LogConfig.ComesTo`) or it
is refused for one reason (`LogConfig.Refused`), and that depends on its words only. The first call
that comes to settings fixes those of the log (`Log.FirstAsks`); what a later call can do is agree
with them. `Log.settles_once` says so for every sequence of calls, as long as the directories that
are asked for can be created.
-/

namespace Newsroom

namespace Level

theorem ofName?_eq_some_iff {s : String} {l : Level} : ofName? s = some l ↔ s = l.name := by
  constructor
  · intro h
    grind [ofName?, name]
  · rintro rfl
    exact ofName?_name l

/-- No level has the long name of warnings. -/
theorem name_ne_warning (l : Level) : l.name ≠ "warning" := by
  cases l <;> decide

end Level

namespace LogConfig

/-- The word for the level, without blanks around it and in lower case. -/
def word (c : LogConfig) : String := Text.asciiLower (Text.trim c.level)

/-- The directory that is given, without blanks around it. -/
def place (c : LogConfig) : String := Text.trim (c.directory.getD "")

/-- The word names the level; warnings have two names. -/
def Names (c : LogConfig) (l : Level) : Prop := c.word = l.name ∨ c.word = "warning" ∧ l = .warn

/-- The configuration comes to the settings: its word names their level, and its directory is theirs
and absolute. -/
structure ComesTo (c : LogConfig) (s : LogSettings) : Prop where
  level : c.Names s.level
  directory : c.place = s.directory
  filled : s.directory ≠ ""
  absolute : Place.isAbsolute s.directory = true

/-- Why a configuration comes to no settings; the level is looked at before the directory. -/
inductive Refused (c : LogConfig) : LoggingError → Prop where
  /-- The word names no level. -/
  | level (hlevel : ∀ l, ¬ c.Names l) : Refused c (.unsupportedLevel c.word)
  /-- There is no directory but for blanks. -/
  | missing {l : Level} (hlevel : c.Names l) (hplace : c.place = "") : Refused c .missingDirectory
  /-- The directory is not absolute. -/
  | relative {l : Level} (hlevel : c.Names l) (hplace : c.place ≠ "")
      (hrelative : Place.isAbsolute c.place = false) : Refused c (.relativeDirectory c.place)

variable {c : LogConfig} {l : Level} {s t : LogSettings} {err : LoggingError} {d : String}

theorem directory?_eq : c.directory? =
    if c.place.isEmpty then .error .missingDirectory
    else if !Place.isAbsolute c.place then .error (.relativeDirectory c.place)
    else .ok c.place := by
  rw [directory?, place]

/-- A word is read as the level that it names. -/
theorem names_iff : c.Names l ↔
    Level.ofName? (if c.word = "warning" then "warn" else c.word) = some l := by
  rw [Level.ofName?_eq_some_iff, Names]
  by_cases hword : c.word = "warning"
  · have hlong : "warning" ≠ l.name := fun h => Level.name_ne_warning l h.symm
    rw [if_pos hword, hword]
    constructor
    · rintro (h | ⟨-, rfl⟩)
      · exact absurd h hlong
      · rfl
    · intro h
      exact .inr ⟨rfl, (Level.ofName?_eq_some_iff.2 h).symm.trans rfl |> Option.some.inj⟩
  · rw [if_neg hword]
    exact or_iff_left fun h => hword h.1

theorem level?_eq_ok_iff : c.level? = .ok l ↔ c.Names l := by
  rw [names_iff, level?, word]
  cases Level.ofName? _ <;> simp

theorem level?_eq_error_iff :
    c.level? = .error err ↔ (∀ l, ¬ c.Names l) ∧ .unsupportedLevel c.word = err := by
  simp only [names_iff]
  rw [level?, word]
  cases Level.ofName? _ <;> simp

theorem directory?_eq_ok_iff : c.directory? = .ok d ↔
    c.place = d ∧ c.place ≠ "" ∧ Place.isAbsolute c.place = true := by
  rw [directory?_eq]
  generalize c.place = p
  by_cases hempty : p = "" <;> cases habsolute : Place.isAbsolute p <;>
    simp [hempty, String.isEmpty_iff]

theorem directory?_eq_error_iff : c.directory? = .error err ↔
    (c.place = "" ∧ .missingDirectory = err) ∨
      c.place ≠ "" ∧ Place.isAbsolute c.place = false ∧ .relativeDirectory c.place = err := by
  rw [directory?_eq]
  generalize c.place = p
  by_cases hempty : p = "" <;> cases habsolute : Place.isAbsolute p <;>
    simp [hempty, String.isEmpty_iff]

theorem settings?_eq_ok_iff : c.settings? = .ok s ↔ c.ComesTo s := by
  constructor
  · intro h
    rw [settings?] at h
    cases hlevel : c.level? with
    | error e => simp [hlevel] at h
    | ok l =>
      cases hdirectory : c.directory? with
      | error e => simp [hlevel, hdirectory] at h
      | ok d =>
        simp only [hlevel, hdirectory, Except.ok.injEq] at h
        obtain ⟨rfl, hfilled, habsolute⟩ := directory?_eq_ok_iff.1 hdirectory
        subst h
        exact ⟨level?_eq_ok_iff.1 hlevel, rfl, hfilled, habsolute⟩
  · rintro ⟨hlevel, hplace, hfilled, habsolute⟩
    have hdirectory : c.directory? = .ok s.directory :=
      directory?_eq_ok_iff.2 ⟨hplace, hplace ▸ hfilled, hplace ▸ habsolute⟩
    simp only [settings?, level?_eq_ok_iff.2 hlevel, hdirectory]

theorem settings?_eq_error_iff : c.settings? = .error err ↔ c.Refused err := by
  constructor
  · intro h
    rw [settings?] at h
    cases hlevel : c.level? with
    | error e =>
      simp only [hlevel, Except.error.injEq] at h
      obtain ⟨hnone, rfl⟩ := level?_eq_error_iff.1 hlevel
      exact h ▸ .level hnone
    | ok l =>
      have hnames := level?_eq_ok_iff.1 hlevel
      cases hdirectory : c.directory? with
      | ok d => simp [hlevel, hdirectory] at h
      | error e =>
        simp only [hlevel, hdirectory, Except.error.injEq] at h
        subst h
        obtain ⟨hplace, rfl⟩ | ⟨hplace, hrelative, rfl⟩ := directory?_eq_error_iff.1 hdirectory
        · exact .missing hnames hplace
        · exact .relative hnames hplace hrelative
  · intro h
    cases h with
    | level hnone =>
      have hlevel : c.level? = .error (.unsupportedLevel c.word) :=
        level?_eq_error_iff.2 ⟨hnone, rfl⟩
      simp only [settings?, hlevel]
    | @missing l hnames hplace =>
      have hlevel : c.level? = .ok l := level?_eq_ok_iff.2 hnames
      have hdirectory : c.directory? = .error .missingDirectory :=
        directory?_eq_error_iff.2 (.inl ⟨hplace, rfl⟩)
      simp only [settings?, hlevel, hdirectory]
    | @relative l hnames hplace hrelative =>
      have hlevel : c.level? = .ok l := level?_eq_ok_iff.2 hnames
      have hdirectory : c.directory? = .error (.relativeDirectory c.place) :=
        directory?_eq_error_iff.2 (.inr ⟨hplace, hrelative, rfl⟩)
      simp only [settings?, hlevel, hdirectory]

/-- A call is refused iff it comes to no settings. -/
theorem not_comesTo_iff : (∀ s, ¬ c.ComesTo s) ↔ ∃ err, c.Refused err := by
  simp only [← settings?_eq_ok_iff, ← settings?_eq_error_iff]
  cases c.settings? <;> simp

theorem Refused.not_comesTo (h : c.Refused err) : ¬ c.ComesTo s :=
  not_comesTo_iff.2 ⟨err, h⟩ s

theorem ComesTo.unique (hs : c.ComesTo s) (ht : c.ComesTo t) : s = t :=
  Except.ok.inj ((settings?_eq_ok_iff.2 hs).symm.trans (settings?_eq_ok_iff.2 ht))

end LogConfig

namespace Log

variable {l : Log} {c : LogConfig} {calls : List LogConfig} {s active : LogSettings}
  {err : LoggingError}

/-- The log after the calls, one after another. -/
def after (l : Log) : List LogConfig → Log
  | [] => l
  | c :: rest => (l.start c).2.after rest

/-- The settings that the first call asks for that comes to any. -/
inductive FirstAsks : List LogConfig → LogSettings → Prop where
  /-- The first call comes to settings. -/
  | here {c : LogConfig} {rest : List LogConfig} {s : LogSettings} (hc : c.ComesTo s) :
      FirstAsks (c :: rest) s
  /-- The first call is refused. -/
  | later {c : LogConfig} {rest : List LogConfig} {s : LogSettings} {err : LoggingError}
      (hc : c.Refused err) (hrest : FirstAsks rest s) : FirstAsks (c :: rest) s

theorem FirstAsks.unique {t : LogSettings} (hs : FirstAsks calls s) (ht : FirstAsks calls t) :
    s = t := by
  induction hs with
  | here hc =>
    cases ht with
    | here hd => exact hc.unique hd
    | later hd => exact absurd hc hd.not_comesTo
  | later hc _ ih =>
    cases ht with
    | here hd => exact absurd hd hc.not_comesTo
    | later _ ht => exact ih ht

/-! ### Records leave the settings and the files -/

theorem settings_write (l : Log) (r : Record) : (l.write r).settings = l.settings := by
  rw [write]
  split
  · split <;> rfl
  · rfl

theorem files_write (l : Log) (r : Record) : (l.write r).files = l.files := by
  rw [write]
  split
  · split <;> rfl
  · rfl

theorem settings_foldl_write (rs : List Record) (l : Log) :
    (rs.foldl write l).settings = l.settings := by
  induction rs generalizing l with
  | nil => rfl
  | cons r rs ih => rw [List.foldl_cons, ih, settings_write]

theorem files_foldl_write (rs : List Record) (l : Log) : (rs.foldl write l).files = l.files := by
  induction rs generalizing l with
  | nil => rfl
  | cons r rs ih => rw [List.foldl_cons, ih, files_write]

/-! ### One call -/

theorem start_of_refused (hc : c.Refused err) : l.start c = (.error err, l) := by
  rw [start, LogConfig.settings?_eq_error_iff.2 hc]

theorem start_of_none (hl : l.settings = none) (hc : c.ComesTo s)
    (hdir : l.canCreate s.directory = true) :
    l.start c = (.ok (), (startRecords s).foldl write { l with settings := some s }) := by
  rw [start, LogConfig.settings?_eq_ok_iff.2 hc]
  simp only [hl, hdir, if_true]

theorem start_of_some (hl : l.settings = some active) (hc : c.ComesTo s) :
    l.start c =
      (if !Place.same active.directory s.directory then
        .error (.directoryConflict active.directory s.directory)
      else if active.level ≠ s.level then .error (.levelConflict active.level s.level)
      else .ok (), l) := by
  rw [start, LogConfig.settings?_eq_ok_iff.2 hc]
  simp only [hl]
  split
  · rfl
  · split <;> rfl

theorem files_start (l : Log) (c : LogConfig) : (l.start c).2.files = l.files := by
  rw [start]
  split
  · rfl
  · split
    · split
      · exact files_foldl_write _ _
      · rfl
    · split
      · rfl
      · split <;> rfl

theorem canCreate_start {d : String} : (l.start c).2.canCreate d = l.canCreate d := by
  rw [canCreate, canCreate, files_start]

/-- A log that has settings is left as it is by every call. -/
theorem snd_start_of_some (hl : l.settings = some active) : (l.start c).2 = l := by
  by_cases hc : ∃ s, c.ComesTo s
  · obtain ⟨s, hc⟩ := hc
    rw [start_of_some hl hc]
  · obtain ⟨err, hc⟩ := LogConfig.not_comesTo_iff.1 (not_exists.1 hc)
    rw [start_of_refused hc]

/-! ### Many calls -/

theorem after_of_some (hl : l.settings = some active) : l.after calls = l := by
  induction calls with
  | nil => rfl
  | cons c rest ih => rw [after, snd_start_of_some hl, ih]

theorem canCreate_after {d : String} : (l.after calls).canCreate d = l.canCreate d := by
  induction calls generalizing l with
  | nil => rfl
  | cons c rest ih => rw [after, ih, canCreate_start]

/-- The settings of a log that was off are those that are asked for first. -/
theorem settings_after (hl : l.settings = none)
    (hdirs : ∀ d ∈ calls, ∀ s, d.ComesTo s → l.canCreate s.directory = true) :
    (l.after calls).settings = some s ↔ FirstAsks calls s := by
  induction calls generalizing l with
  | nil =>
    constructor
    · intro h
      rw [after, hl] at h
      cases h
    · nofun
  | cons c rest ih =>
    rw [after]
    by_cases hc : ∃ t, c.ComesTo t
    · obtain ⟨t, hc⟩ := hc
      have hstart := start_of_none hl hc (hdirs c List.mem_cons_self t hc)
      have hsettled : (l.start c).2.settings = some t := by
        rw [hstart]
        exact settings_foldl_write _ _
      rw [after_of_some hsettled, hsettled]
      constructor
      · intro h
        cases h
        exact .here hc
      · intro h
        rw [FirstAsks.unique h (.here hc)]
    · obtain ⟨err, hc⟩ := LogConfig.not_comesTo_iff.1 (not_exists.1 hc)
      rw [start_of_refused hc, ih hl fun d hd => hdirs d (List.mem_cons_of_mem _ hd)]
      constructor
      · exact .later hc
      · intro h
        cases h with
        | here hd => exact absurd hd hc.not_comesTo
        | later _ h => exact h

/-- No settings are asked for first iff no call comes to any. -/
theorem not_firstAsks_iff :
    (∀ s, ¬ FirstAsks calls s) ↔ ∀ c ∈ calls, ∀ s, ¬ c.ComesTo s := by
  constructor
  · intro h c hc s hs
    induction calls with
    | nil => cases hc
    | cons d rest ih =>
      by_cases hd : ∃ t, d.ComesTo t
      · obtain ⟨t, hd⟩ := hd
        exact h t (.here hd)
      · obtain ⟨err, hrefused⟩ := LogConfig.not_comesTo_iff.1 (not_exists.1 hd)
        cases hc with
        | head => exact hd ⟨s, hs⟩
        | tail _ hc => exact ih (fun t ht => h t (.later hrefused ht)) hc
  · intro h s hs
    induction hs with
    | here hc => exact h _ List.mem_cons_self _ hc
    | later _ _ ih => exact ih fun c hc => h c (List.mem_cons_of_mem _ hc)

/-- **The log settles once.** Let the directories that are asked for be ones that can be created.
After any calls, a log that was off has the settings that the first call asked for that came to any,
whatever is called later, and none while all calls were refused. The next call is refused as its
words alone say, and changes nothing then; it starts a log that is off; and it is accepted by a log
that runs iff it asks for the same level and the same directory, component by component. Another
directory is reported before another level, and a log that runs stays as it is. -/
theorem settles_once (hoff : l.settings = none)
    (hdirs : ∀ d ∈ c :: calls, ∀ s, d.ComesTo s → l.canCreate s.directory = true) :
    (∀ s, (l.after calls).settings = some s ↔ FirstAsks calls s) ∧
      ((l.after calls).settings = none ↔ ∀ d ∈ calls, ∀ s, ¬ d.ComesTo s) ∧
      (∀ s, (l.after calls).settings = some s →
        ∀ more, ((l.after calls).after more).settings = some s) ∧
      ((∀ s, ¬ c.ComesTo s) ↔ ∃ err, c.Refused err) ∧
      (∀ err, c.Refused err → (l.after calls).start c = (.error err, l.after calls)) ∧
      (∀ s, c.ComesTo s → (l.after calls).settings = none →
        ((l.after calls).start c).1 = .ok () ∧
          ((l.after calls).start c).2.settings = some s) ∧
      ∀ s active, c.ComesTo s → (l.after calls).settings = some active →
        ((l.after calls).start c).2 = l.after calls ∧
          (((l.after calls).start c).1 = .ok () ↔
            s.level = active.level ∧
              Place.components s.directory = Place.components active.directory) ∧
          (((l.after calls).start c).1 =
              .error (.directoryConflict active.directory s.directory) ↔
            Place.components s.directory ≠ Place.components active.directory) ∧
          (((l.after calls).start c).1 = .error (.levelConflict active.level s.level) ↔
            s.level ≠ active.level ∧
              Place.components s.directory = Place.components active.directory) := by
  have hcalls : ∀ d ∈ calls, ∀ s, d.ComesTo s → l.canCreate s.directory = true :=
    fun d hd => hdirs d (List.mem_cons_of_mem _ hd)
  refine ⟨fun s => settings_after hoff hcalls, ?_, ?_, LogConfig.not_comesTo_iff,
    fun err hc => start_of_refused hc, ?_, ?_⟩
  · rw [← not_firstAsks_iff, Option.eq_none_iff_forall_ne_some]
    exact forall_congr' fun s => not_congr (settings_after hoff hcalls)
  · intro s hs more
    rw [after_of_some hs, hs]
  · intro s hc hnone
    have hdir : (l.after calls).canCreate s.directory = true := by
      rw [canCreate_after]
      exact hdirs c List.mem_cons_self s hc
    rw [start_of_none hnone hc hdir]
    exact ⟨rfl, settings_foldl_write _ _⟩
  · intro s active hc hactive
    rw [start_of_some hactive hc]
    refine ⟨rfl, ?_⟩
    simp only [Place.same, Bool.not_eq_true', decide_eq_false_iff_not, ne_eq]
    by_cases hplace : Place.components s.directory = Place.components active.directory <;>
      by_cases hlevel : s.level = active.level <;>
        simp [hplace, hlevel, Ne.symm, eq_comm]

/-- Calls of which two are refused, one starts the log and one asks for another directory. -/
def warningCalls : List LogConfig :=
  [⟨"verbose", some "/var/log"⟩, ⟨"info", some "logs"⟩, ⟨" WARNING ", some " /var/log/ "⟩,
    ⟨"info", some "/tmp"⟩]

/-- The log runs with warnings, and another spelling of the same directory is accepted. -/
theorem warnings_settle :
    off.settings = none ∧
      (∀ d ∈ (⟨"warn", some "/var//log/."⟩ : LogConfig) :: warningCalls,
        ∀ s, d.ComesTo s → off.canCreate s.directory = true) ∧
      (off.after warningCalls).settings = some ⟨.warn, "/var/log/"⟩ ∧
      ((off.after warningCalls).start ⟨"warn", some "/var//log/."⟩).1 = .ok () := by
  have hdirs : ∀ d ∈ (⟨"warn", some "/var//log/."⟩ : LogConfig) :: warningCalls,
      ∀ s, d.ComesTo s → off.canCreate s.directory = true := by
    intro d _ s _
    simp [canCreate, off]
  have hfirst : FirstAsks warningCalls ⟨.warn, "/var/log/"⟩ :=
    .later (LogConfig.settings?_eq_error_iff.1 rfl)
      (.later (LogConfig.settings?_eq_error_iff.1 rfl)
        (.here (LogConfig.settings?_eq_ok_iff.1 rfl)))
  obtain ⟨hsettings, -, -, -, -, -, hagain⟩ := settles_once rfl hdirs
  have hactive := (hsettings _).2 hfirst
  have hasks : (⟨"warn", some "/var//log/."⟩ : LogConfig).ComesTo ⟨.warn, "/var//log/."⟩ :=
    LogConfig.settings?_eq_ok_iff.1 rfl
  exact ⟨rfl, hdirs, hactive, (hagain _ _ hasks hactive).2.1.2 ⟨rfl, by decide⟩⟩

end Log
end Newsroom
