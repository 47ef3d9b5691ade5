/-
The last configuration of the log counts, and one that fails changes nothing.

A call makes its outlets before it touches a logger. If they cannot be made it ends there; else it goes
through the loggers of the packages, takes off and closes what is on them, and puts the new outlets on
(`Logging.Reconfigured`, by induction on the loggers still to come). So after a call that returns these
loggers have the outlets made by it and no others, whatever was on them before, and no other logger has
changed (`Logging.configure_last_call_wins`).
-/
import DataContract.Journal.Logbook
import DataContract.Proofs.Files.Reading
import DataContract.Proofs.Value.Keys

namespace DataContract

namespace Logging

variable {g : Logging} {name other : String} {names : List String} {f : Logger → Logger}
  {is js : List Nat} {i j : Nat} {v : Value} {level : Int}

/-! ### Loggers by their names -/

theorem name_logger (g : Logging) (name : String) : (g.logger name).name = name := by
  rw [logger]
  cases found : g.loggers.find? (·.name = name) with
  | none => rfl
  | some l => simpa using List.find?_some found

theorem logger_congr {g' : Logging} (same : g.loggers = g'.loggers) (name : String) :
    g.logger name = g'.logger name := by
  rw [logger, same, logger]

/-- A logger that is changed is the only one. -/
theorem logger_update (keeps : ∀ l, (f l).name = l.name) (g : Logging) (name other : String) :
    (g.update name f).logger other = if other = name then f (g.logger name) else g.logger other := by
  rw [update]
  split
  · next there =>
    have renamed : ((fun l : Logger => decide (l.name = other)) ∘
        fun l => if l.name = name then f l else l) = fun l => decide (l.name = other) := by
      funext l
      simp only [Function.comp_apply]
      split <;> simp [keeps]
    rw [logger, List.find?_map, renamed]
    cases found : g.loggers.find? (·.name = other) with
    | none =>
      have apart : other ≠ name := by
        rintro rfl
        obtain ⟨l, mem, same⟩ := List.any_eq_true.mp there
        exact List.find?_eq_none.mp found l mem same
      rw [if_neg apart, logger, found]
      rfl
    | some l =>
      have named : l.name = other := by simpa using List.find?_some found
      by_cases same : other = name
      · subst same
        simp only [Option.map_some, Option.getD_some, named, if_true, logger, found]
      · simp only [Option.map_some, Option.getD_some, named, same, if_false, logger, found]
  · next missing =>
    have absent : g.loggers.find? (·.name = name) = none := by
      simpa using missing
    rw [logger, List.find?_append]
    by_cases same : other = name
    · subst same
      rw [absent, if_pos rfl, Option.none_or, List.find?_cons_of_pos]
      · rfl
      · simp [keeps, name_logger]
    · rw [if_neg same, List.find?_cons_of_neg, List.find?_nil, Option.or_none, logger]
      simp [keeps, name_logger, Ne.symm same]

/-! ### Outlets taken off and put on -/

/-- Outlets that have been made, with those at some places closed. -/
def closing (is : List Nat) (made : List MadeOutlet) : List MadeOutlet :=
  made.mapIdx fun j m => ⟨m.outlet, m.isClosed || decide (j ∈ is)⟩

theorem length_closing (is : List Nat) (made : List MadeOutlet) :
    (closing is made).length = made.length :=
  List.length_mapIdx

theorem getElem?_closing (is : List Nat) (made : List MadeOutlet) (i : Nat) :
    (closing is made)[i]? = made[i]?.map fun m => ⟨m.outlet, m.isClosed || decide (i ∈ is)⟩ :=
  List.getElem?_mapIdx

/-- Closing an outlet does not make another one of it. -/
theorem exists_mem_of_mem_closing {made : List MadeOutlet} {m : MadeOutlet}
    (mem : m ∈ closing is made) : ∃ m' ∈ made, m'.outlet = m.outlet := by
  obtain ⟨i, bound, rfl⟩ := List.mem_mapIdx.mp mem
  exact ⟨made[i], List.getElem_mem bound, rfl⟩

theorem closing_nil (made : List MadeOutlet) : closing [] made = made := by
  refine List.ext_getElem? fun j => ?_
  rw [getElem?_closing]
  cases made[j]? <;> simp

theorem closing_closing (is js : List Nat) (made : List MadeOutlet) :
    closing js (closing is made) = closing (is ++ js) made := by
  simp only [closing, List.mapIdx_mapIdx, Function.comp_def, List.mem_append, Bool.or_assoc,
    Bool.decide_or]

theorem modify_eq_closing (i : Nat) (made : List MadeOutlet) :
    made.modify i (fun m => { m with isClosed := true }) = closing [i] made := by
  refine List.ext_getElem? fun j => ?_
  rw [List.getElem?_modify, getElem?_closing]
  cases made[j]? with
  | none => rfl
  | some m =>
    by_cases same : i = j
    · simp [same]
    · simp [same, Ne.symm same]

theorem foldl_erase_self (is : List Nat) : is.foldl List.erase is = [] := by
  induction is with
  | nil => rfl
  | cons i rest ih => rw [List.foldl_cons, List.erase_cons_head, ih]

/-- Outlets taken off a logger are closed, and on other loggers as they were. -/
theorem foldl_takeOff (is : List Nat) (g : Logging) (name : String) :
    (∀ other, (is.foldl (takeOff name) g).logger other = if other = name then
      { g.logger name with outlets := is.foldl List.erase (g.logger name).outlets }
      else g.logger other) ∧
    (is.foldl (takeOff name) g).made = closing is g.made ∧
    (is.foldl (takeOff name) g).files = g.files ∧
    (is.foldl (takeOff name) g).console = g.console := by
  induction is generalizing g with
  | nil =>
    refine ⟨fun other => ?_, (closing_nil g.made).symm, rfl, rfl⟩
    split
    · next same => rw [same]; rfl
    · rfl
  | cons i rest ih =>
    obtain ⟨loggers, made, files, console⟩ := ih (takeOff name g i)
    have one : ∀ other, (takeOff name g i).logger other = if other = name then
        { g.logger name with outlets := (g.logger name).outlets.erase i } else g.logger other :=
      logger_update (f := fun l => { l with outlets := l.outlets.erase i }) (fun _ => rfl) _ name
    have closed : (takeOff name g i).made = closing [i] g.made := modify_eq_closing i g.made
    rw [List.foldl_cons]
    refine ⟨fun other => ?_, ?_, files, console⟩
    · rw [loggers, one, one]
      split <;> simp_all
    · rw [made, closed, closing_closing, List.singleton_append]

/-- Outlets that are not there yet are put on behind the others. -/
theorem foldl_putOn (nodup : is.Nodup) (g : Logging) (name : String)
    (fresh : ∀ i ∈ is, i ∉ (g.logger name).outlets) :
    (∀ other, (is.foldl (putOn name) g).logger other = if other = name then
      { g.logger name with outlets := (g.logger name).outlets ++ is } else g.logger other) ∧
    (is.foldl (putOn name) g).made = g.made ∧
    (is.foldl (putOn name) g).files = g.files ∧
    (is.foldl (putOn name) g).console = g.console := by
  induction is generalizing g with
  | nil =>
    refine ⟨fun other => ?_, rfl, rfl, rfl⟩
    split
    · next same =>
      rw [same, List.append_nil]
      rfl
    · rfl
  | cons i rest ih =>
    obtain ⟨notThere, apart⟩ := List.forall_mem_cons.mp fresh
    obtain ⟨notBehind, nodup⟩ := List.nodup_cons.mp nodup
    have one : ∀ other, (putOn name g i).logger other = if other = name then
        { g.logger name with outlets := (g.logger name).outlets ++ [i] } else g.logger other := by
      intro other
      rw [putOn, logger_update]
      · rw [if_neg notThere]
      · intro l
        split <;> rfl
    obtain ⟨loggers, same⟩ := ih nodup (putOn name g i) (by
      rw [one, if_pos rfl]
      intro j mem there
      obtain there | there := List.mem_append.mp there
      · exact apart j mem there
      · rw [List.mem_singleton.mp there] at mem
        exact notBehind mem)
    refine ⟨fun other => ?_, same⟩
    rw [List.foldl_cons, loggers, one, one]
    split <;> simp_all

/-! ### One logger after the other -/

/-- The loggers with some names have been given outlets and a level, in the place of what was on them,
and nothing else has changed. -/
structure Reconfigured (level : Int) (fresh : List Nat) (names : List String) (before after : Logging) :
    Prop where
  loggers : ∀ name, after.logger name =
    if name ∈ names then ⟨name, level, fresh⟩ else before.logger name
  made : after.made = closing (names.flatMap fun name => (before.logger name).outlets) before.made
  files : after.files = before.files
  console : after.console = before.console

/-- One logger: what was on it is taken off, so that nothing is left but what is put on. -/
theorem reconfigure_ok {fresh : List Nat} (asked : levelIn v = .ok level) (nodup : fresh.Nodup)
    (g : Logging) (name : String) : (reconfigure v fresh name g).2.result = .ok () ∧
      Reconfigured level fresh [name] g (reconfigure v fresh name g).1 := by
  let bare := (g.logger name).outlets.foldl (takeOff name) g
  let filled := fresh.foldl (putOn name) bare
  have run : reconfigure v fresh name g = (filled.update name fun l => { l with level }, .ok ()) := by
    simp only [reconfigure, bind, Action.andThen, Action.update, Action.of, Noted.of, Noted.ok, asked]
    rfl
  obtain ⟨emptied, closed, files, console⟩ := foldl_takeOff (g.logger name).outlets g name
  have none : (bare.logger name).outlets = [] := by
    rw [emptied, if_pos rfl]
    exact foldl_erase_self _
  have held : ∀ o ∈ fresh, o ∉ (bare.logger name).outlets := by
    rw [none]
    exact fun _ _ => List.not_mem_nil
  obtain ⟨put, made, files', console'⟩ := foldl_putOn nodup bare name held
  have levelled : ∀ other, (filled.update name fun l => { l with level }).logger other =
      if other = name then { filled.logger name with level } else filled.logger other :=
    logger_update (f := fun l => { l with level }) (fun _ => rfl) filled name
  rw [run]
  refine ⟨rfl, ⟨fun other => ?_, ?_, files'.trans files, console'.trans console⟩⟩
  · rw [levelled]
    by_cases same : other = name
    · subst same
      rw [if_pos rfl, if_pos List.mem_cons_self, put, if_pos rfl, none, List.nil_append, emptied,
        if_pos rfl]
      simp only [name_logger]
    · rw [if_neg same, if_neg (mt List.mem_singleton.mp same), put, if_neg same, emptied, if_neg same]
  · rw [List.flatMap_singleton]
    exact made.trans closed

/-- Loggers one after the other: each is reached as it was before the first. -/
theorem reconfigureAll_ok {fresh : List Nat} (asked : levelIn v = .ok level) (nodup : fresh.Nodup)
    (apart : names.Nodup) (g : Logging) : (reconfigureAll v fresh names g).2.result = .ok () ∧
      Reconfigured level fresh names g (reconfigureAll v fresh names g).1 := by
  induction names generalizing g with
  | nil =>
    refine ⟨rfl, ⟨fun name => ?_, (closing_nil g.made).symm, rfl, rfl⟩⟩
    rw [if_neg List.not_mem_nil]
    rfl
  | cons name rest ih =>
    obtain ⟨other, apart⟩ := List.nodup_cons.mp apart
    obtain ⟨done, first⟩ := reconfigure_ok asked nodup g name
    obtain ⟨result, behind⟩ := ih apart (reconfigure v fresh name g).1
    obtain ⟨state, end_⟩ := Action.bind_of_ok (f := fun _ => reconfigureAll v fresh rest) done
    have untouched : rest.flatMap (fun n => ((reconfigure v fresh name g).1.logger n).outlets) =
        rest.flatMap fun n => (g.logger n).outlets := by
      refine List.flatMap_congr fun n mem => ?_
      have apart : n ≠ name := fun same => other (same ▸ mem)
      rw [first.loggers, if_neg (mt List.mem_singleton.mp apart)]
    refine ⟨end_.trans result, ?_⟩
    rw [show (reconfigureAll v fresh (name :: rest) g).1 = _ from state]
    refine ⟨fun n => ?_, ?_, behind.files.trans first.files, behind.console.trans first.console⟩
    · rw [behind.loggers, first.loggers]
      simp only [List.mem_cons, List.not_mem_nil, or_false]
      by_cases mem : n ∈ rest
      · rw [if_pos mem, if_pos (.inr mem)]
      · rw [if_neg mem]
        simp only [mem, or_false]
    · rw [behind.made, untouched, first.made, closing_closing, List.flatMap_singleton]
      rfl

/-! ### What is asked for -/

/-- A value asks for a level: an integer for itself, and a text for the level that it names in capitals,
or that of `info` if it names none. -/
inductive AsksForLevel : Value → Int → Prop where
  | number {v : Value} {n : Int} (other : v.asText? = none) (integer : v.asInteger? = some n) :
    AsksForLevel v n
  | named {v : Value} {s : String} (l : LogLevel) (text : v.asText? = some s)
    (name : s.map LogLevel.capital = l.name) : AsksForLevel v l.number
  | unset {v : Value} {s : String} (text : v.asText? = some s)
    (name : s.map LogLevel.capital = "NOTSET") : AsksForLevel v 0
  | warn {v : Value} {s : String} (text : v.asText? = some s)
    (name : s.map LogLevel.capital = "WARN") : AsksForLevel v LogLevel.warning.number
  | fatal {v : Value} {s : String} (text : v.asText? = some s)
    (name : s.map LogLevel.capital = "FATAL") : AsksForLevel v LogLevel.critical.number
  | unknown {v : Value} {s : String} (text : v.asText? = some s)
    (noLevel : ∀ l : LogLevel, s.map LogLevel.capital ≠ l.name)
    (other : s.map LogLevel.capital ∉ ["NOTSET", "WARN", "FATAL"]) :
    AsksForLevel v LogLevel.info.number

/-- A path that is given for the directory of the log file, as such or as a text that is not empty. -/
inductive Gives : LogDirectory → Path → Prop where
  | path (p : Path) : Gives (.path p) p
  | text {v : Value} {s : String} (text : v.asText? = some s) (some : s ≠ "") :
    Gives (.value v) (Path.ofText s)

/-- The outlets that options ask for: one to the console, and behind it one to the log file if a
directory is given for it. -/
inductive AsksForOutlets (o : LoggingOptions) : List Outlet → Prop where
  | console {v : Value} (nothing : o.directory = .value v) (counts : v.truthy = false) :
    AsksForOutlets o [.console o.console]
  | file {p : Path} (given : Gives o.directory p) :
    AsksForOutlets o [.console o.console,
      .file (p.join (Path.ofText "perimeter.log")).settled o.limit o.kept.toNat]

/-- What a call may be refused for: a directory, or a file in it, that cannot be made, or a directory that
is no path. -/
inductive Refuses (o : LoggingOptions) : LoggingFault → Prop where
  | file {p : Path} (given : Gives o.directory p) (fault : FileFault) : Refuses o (.file fault)
  | notPath {v : Value} (given : o.directory = .value v) (counts : v.truthy = true)
    (other : v.asText? = none) : Refuses o (.notPath v)

theorem numberOf?_of_unknown {t : String} (noLevel : ∀ l : LogLevel, t ≠ l.name)
    (other : t ∉ ["NOTSET", "WARN", "FATAL"]) : LogLevel.numberOf? t = none := by
  simp only [List.mem_cons, List.not_mem_nil, or_false, not_or] at other
  have names : LogLevel.all.find? (fun l => l.name = t) = none := by
    rw [List.find?_eq_none]
    exact fun l _ => by simpa using (noLevel l).symm
  rw [LogLevel.numberOf?, if_neg (show ¬t = LogLevel.unsetName from other.1), names]
  simp [LogLevel.aliases, Ne.symm other.2.1, Ne.symm other.2.2]

theorem asksForLevel_of_levelIn (h : levelIn v = .ok level) : AsksForLevel v level := by
  unfold levelIn at h
  split at h
  · next s text =>
    cases h
    rw [LogLevel.named]
    by_cases known : ∃ l : LogLevel, s.map LogLevel.capital = l.name
    · obtain ⟨l, name⟩ := known
      have number : LogLevel.numberOf? l.name = some l.number := by cases l <;> decide +kernel
      rw [name, number]
      exact .named l text name
    · by_cases other : s.map LogLevel.capital ∈ ["NOTSET", "WARN", "FATAL"]
      · simp only [List.mem_cons, List.not_mem_nil, or_false] at other
        rcases other with name | name | name
        · rw [name]
          exact .unset text name
        · rw [name]
          exact .warn text name
        · rw [name]
          exact .fatal text name
      · rw [not_exists] at known
        rw [numberOf?_of_unknown known other]
        exact .unknown text known other
  · next n none integer =>
    cases h
    exact .number none integer
  · cases h

/-- The number of a level is the one that a value asks for. -/
theorem levelIn_eq_ok_iff : levelIn v = .ok level ↔ AsksForLevel v level := by
  refine ⟨asksForLevel_of_levelIn, fun h => ?_⟩
  cases h with
  | number other integer => rw [levelIn, other, integer]
  | named l text name =>
    have number : LogLevel.numberOf? l.name = some l.number := by cases l <;> decide +kernel
    rw [levelIn, text]
    dsimp only
    rw [LogLevel.named, name, number]
    rfl
  | unset text name | warn text name | fatal text name =>
    rw [levelIn, text]
    dsimp only
    rw [LogLevel.named, name]
    rfl
  | unknown text noLevel other =>
    rw [levelIn, text]
    dsimp only
    rw [LogLevel.named, numberOf?_of_unknown noLevel other]
    rfl

/-- A level is a text or an integer. -/
def IsLevel (v : Value) : Prop :=
  (∃ s, v.asText? = some s) ∨ ∃ n, v.asInteger? = some n

theorem exists_levelIn (h : IsLevel v) : ∃ level, levelIn v = .ok level := by
  unfold levelIn
  cases text : v.asText? with
  | some s => exact ⟨_, rfl⟩
  | none =>
    obtain ⟨s, some⟩ | ⟨n, integer⟩ := h
    · cases text.symm.trans some
    · rw [integer]
      exact ⟨n, rfl⟩

theorem truthy_of_text {s : String} (text : v.asText? = some s) : v.truthy = true ↔ s ≠ "" := by
  obtain rfl | ⟨family, name, rfl⟩ := Value.eq_of_asText text <;> exact decide_eq_true_iff

/-- A directory counts as false, gives a path, or is refused. -/
theorem directoryOf_cases (d : LogDirectory) :
    (directoryOf d = .ok none ∧ ∃ v, d = .value v ∧ v.truthy = false) ∨
      (∃ p, directoryOf d = .ok (some p) ∧ Gives d p) ∨
      ∃ v, directoryOf d = .error (.notPath v) ∧ d = .value v ∧ v.truthy = true ∧
        v.asText? = none := by
  cases d with
  | path p => exact .inr (.inl ⟨p, rfl, .path p⟩)
  | value v =>
    cases counts : v.truthy with
    | false => exact .inl ⟨by rw [directoryOf, counts], v, rfl, counts⟩
    | true =>
      refine .inr ?_
      cases text : v.asText? with
      | some s =>
        refine .inl ⟨Path.ofText s, by rw [directoryOf, counts, text], .text text ?_⟩
        exact (truthy_of_text text).mp counts
      | none => exact .inr ⟨v, by rw [directoryOf, counts, text], rfl, counts, text⟩

/-- The log file is opened in its directory, or refused. -/
theorem openFile_cases (files : FileTree) (p : Path) :
    (openFile p files).2.result = .ok (p.join (Path.ofText fileName)).settled ∨
      ∃ fault, (openFile p files).2.result = .error fault := by
  cases made : (makeDirectory p files).2.result with
  | error fault => exact .inr ⟨fault, (Action.bind_of_error made).2⟩
  | ok done =>
    rw [openFile, (Action.bind_of_ok made).2]
    simp only [bind, Action.andThen, Action.state, Noted.ok]
    split
    · exact .inr ⟨_, rfl⟩
    · generalize FileTree.entry? _ _ = there
      cases there with
      | none => exact .inl rfl
      | some entry =>
        cases entry with
        | directory => exact .inr ⟨_, rfl⟩
        | file content => exact .inl rfl

/-- With a directory for it the log file is opened. -/
theorem result_outletsOf {o : LoggingOptions} {p : Path} (files : FileTree)
    (read : directoryOf o.directory = .ok (some p)) : (outletsOf o files).2.result =
      ((openFile p files).2.result.mapError LoggingFault.file).map fun names =>
        [.console o.console, .file names o.limit o.kept.toNat] := by
  rw [outletsOf, read]
  simp only [bind, Action.andThen, Action.of, Noted.of, Action.mapError, Noted.mapError]
  cases (openFile p files).2.result <;> rfl

/-- The outlets are made as they are asked for, or refused. -/
theorem outletsOf_cases (o : LoggingOptions) (files : FileTree) :
    (∃ outlets, (outletsOf o files).2.result = .ok outlets ∧ AsksForOutlets o outlets) ∨
      ∃ fault, (outletsOf o files).2.result = .error fault ∧ Refuses o fault := by
  obtain ⟨read, v, nothing, counts⟩ | ⟨p, read, gives⟩ | ⟨v, read, given, counts, other⟩ :=
    directoryOf_cases o.directory
  · refine .inl ⟨[.console o.console], ?_, .console nothing counts⟩
    rw [outletsOf, read]
    rfl
  · rw [result_outletsOf files read]
    obtain opened | ⟨fault, refused⟩ := openFile_cases files p
    · rw [opened]
      exact .inl ⟨_, rfl, .file gives⟩
    · rw [refused]
      exact .inr ⟨_, rfl, .file gives fault⟩
  · refine .inr ⟨.notPath v, ?_, .notPath given counts other⟩
    rw [outletsOf, read]
    rfl

/-! ### One call -/

/-- No logger has an outlet that has not been made. -/
def Sound (g : Logging) : Prop :=
  ∀ name, ∀ i ∈ (g.logger name).outlets, i < g.made.length

/-- The outlets are made among the files of the log. -/
theorem zoom_outletsOf (o : LoggingOptions) (g : Logging) :
    (Action.zoom (·.files) (fun g files => { g with files }) (outletsOf o) g : Logging × _) =
      ({ g with files := (outletsOf o g.files).1 }, (outletsOf o g.files).2) :=
  rfl

/-- A call that fails may leave a directory behind, but makes no outlets and leaves all loggers
alone. -/
theorem configure_of_error {o : LoggingOptions} {fault : LoggingFault}
    (refused : (outletsOf o g.files).2.result = .error fault) :
    (configure o g).1 = { g with files := (outletsOf o g.files).1 } ∧
      (configure o g).2.result = .error fault :=
  Action.bind_of_error (s := g) (by rw [zoom_outletsOf]; exact refused)

/-- A call that makes its outlets goes on to put them on the loggers of the packages. -/
theorem configure_of_ok {o : LoggingOptions} {outlets : List Outlet}
    (made : (outletsOf o g.files).2.result = .ok outlets) (asked : levelIn o.level = .ok level) :
    (configure o g).2.result = .ok () ∧
      Reconfigured level (List.range' g.made.length outlets.length) packageNames
        { g with
          files := (outletsOf o g.files).1, made := g.made ++ outlets.map (⟨·, false⟩) }
        (configure o g).1 := by
  have run : (configure o g).1 = (reconfigureAll o.level (List.range' g.made.length outlets.length)
        packageNames { g with
          files := (outletsOf o g.files).1, made := g.made ++ outlets.map (⟨·, false⟩) }).1 ∧
      (configure o g).2.result = (reconfigureAll o.level
        (List.range' g.made.length outlets.length) packageNames
        { g with
          files := (outletsOf o g.files).1,
          made := g.made ++ outlets.map (⟨·, false⟩) }).2.result := by
    simp only [configure, bind, Action.andThen, Action.state, Noted.ok, zoom_outletsOf, made,
      Action.replace, true_and]
  rw [run.1, run.2]
  exact reconfigureAll_ok asked List.nodup_range' (by decide) _

/-- What a call that returns makes of the log. -/
structure Configured (o : LoggingOptions) (before after : Logging) : Prop where
  /-- The outlets asked for are made, and open; each logger of the packages has all of them, no others,
  and the level asked for. -/
  loggers : ∃ level outlets, AsksForLevel o.level level ∧ AsksForOutlets o outlets ∧
    after.made.drop before.made.length = outlets.map (⟨·, false⟩) ∧
    ∀ name ∈ packageNames,
      after.logger name = ⟨name, level, List.range' before.made.length outlets.length⟩
  /-- The other loggers are as they were. -/
  others : ∀ name, name ∉ packageNames → after.logger name = before.logger name
  /-- Of the outlets made before, those are closed that were on a logger of the packages. -/
  earlier : ∀ i m, before.made[i]? = some m → ∃ isClosed, after.made[i]? = some ⟨m.outlet, isClosed⟩ ∧
    (isClosed = true ↔ m.isClosed = true ∨ ∃ name ∈ packageNames, i ∈ (before.logger name).outlets)

/-- A call that returns: nothing that was on a logger is among the outlets that it makes. -/
theorem configured_of_reconfigured {o : LoggingOptions} {files : FileTree} {outlets : List Outlet}
    {after : Logging} (sound : g.Sound) (asked : AsksForLevel o.level level)
    (wanted : AsksForOutlets o outlets)
    (h : Reconfigured level (List.range' g.made.length outlets.length) packageNames
      { g with files, made := g.made ++ outlets.map (⟨·, false⟩) } after) :
    Configured o g after ∧ after.Sound := by
  have count : after.made.length = g.made.length + outlets.length := by
    rw [h.made, length_closing, List.length_append, List.length_map]
  have made : ∀ i : Nat, after.made[i]? =
      (g.made ++ outlets.map fun x => (⟨x, false⟩ : MadeOutlet))[i]?.map fun m =>
        (⟨m.outlet, m.isClosed ||
          decide (i ∈ packageNames.flatMap fun name => (g.logger name).outlets)⟩ : MadeOutlet) := by
    intro i
    rw [h.made, getElem?_closing]
    rfl
  have before : ∀ i ∈ packageNames.flatMap (fun name => (g.logger name).outlets),
      i < g.made.length := by
    intro i mem
    obtain ⟨name, -, there⟩ := List.mem_flatMap.mp mem
    exact sound name i there
  refine ⟨⟨⟨level, outlets, asked, wanted, ?_, ?_⟩, ?_, ?_⟩, ?_⟩
  · refine List.ext_getElem? fun i => ?_
    have behind : g.made.length + i ∉ packageNames.flatMap fun name => (g.logger name).outlets :=
      fun mem => absurd (before _ mem) (by omega)
    rw [List.getElem?_drop, made, List.getElem?_append_right (by omega), Nat.add_sub_cancel_left]
    cases (outlets.map fun x => (⟨x, false⟩ : MadeOutlet))[i]? with
    | none => rfl
    | some m => simp only [Option.map_some, behind, decide_false, Bool.or_false]
  · intro name mem
    rw [h.loggers, if_pos mem]
  · intro name other
    rw [h.loggers, if_neg other]
    rfl
  · intro i m there
    have bound : i < g.made.length := (List.getElem?_eq_some_iff.mp there).1
    refine ⟨_, by rw [made, List.getElem?_append_left bound, there, Option.map_some], ?_⟩
    simp only [Bool.or_eq_true, decide_eq_true_eq, List.mem_flatMap]
  · intro name i mem
    rw [count]
    rw [h.loggers] at mem
    split at mem
    · exact (List.mem_range'_1.mp mem).2
    · exact Nat.lt_of_lt_of_le (sound name i mem) (Nat.le_add_right _ _)

/-! ### Calls one after the other -/

/-- The log after calls in order. -/
def afterCalls (g : Logging) (calls : List LoggingOptions) : Logging :=
  calls.foldl (fun g o => (configure o g).1) g

/-- One call either returns, and has given the loggers of the packages what it was asked for, or is
refused, and has changed no logger and no outlet. -/
theorem configure_step (sound : g.Sound) {o : LoggingOptions} (isLevel : IsLevel o.level) :
    (configure o g).1.Sound ∧
      ((configure o g).2.result = .ok () ∧ Configured o g (configure o g).1 ∨
        ∃ fault, (configure o g).2.result = .error fault ∧ Refuses o fault ∧
          (configure o g).1.loggers = g.loggers ∧ (configure o g).1.made = g.made) := by
  obtain ⟨level, asked⟩ := exists_levelIn isLevel
  obtain ⟨outlets, made, wanted⟩ | ⟨fault, refused, refuses⟩ := outletsOf_cases o g.files
  · obtain ⟨result, reconfigured⟩ := configure_of_ok made asked
    obtain ⟨configured, still⟩ := configured_of_reconfigured sound
      (asksForLevel_of_levelIn asked) wanted reconfigured
    exact ⟨still, .inl ⟨result, configured⟩⟩
  · obtain ⟨state, result⟩ := configure_of_error refused
    rw [state]
    exact ⟨sound, .inr ⟨fault, result, refuses, rfl, rfl⟩⟩

/-- No call changes a logger that is not one of the packages. -/
theorem logger_configure (sound : g.Sound) {o : LoggingOptions} (isLevel : IsLevel o.level)
    (other : name ∉ packageNames) : (configure o g).1.logger name = g.logger name := by
  obtain ⟨-, ⟨-, configured⟩ | ⟨-, -, -, loggers, -⟩⟩ := configure_step sound isLevel
  · exact configured.others name other
  · exact logger_congr loggers name

/-- Nor do any calls in order. -/
theorem afterCalls_kept {calls : List LoggingOptions} (sound : g.Sound)
    (levels : ∀ o ∈ calls, IsLevel o.level) : (g.afterCalls calls).Sound ∧
      ∀ name, name ∉ packageNames → (g.afterCalls calls).logger name = g.logger name := by
  induction calls generalizing g with
  | nil => exact ⟨sound, fun _ _ => rfl⟩
  | cons o rest ih =>
    obtain ⟨isLevel, levels⟩ := List.forall_mem_cons.mp levels
    obtain ⟨still, others⟩ := ih (configure_step sound isLevel).1 levels
    exact ⟨still, fun name other => (others name other).trans (logger_configure sound isLevel other)⟩

/-- The last call that returns counts, and one that is refused changes nothing.

* After each call that returns, the loggers of the packages have the outlets made by it, the same for
  all, and the level it asks for, whatever calls came before.
* A call that is refused, for a directory or a file that cannot be made, leaves all loggers and all
  outlets as they were.
* All calls leave the other loggers as they were before the first. -/
theorem configure_last_call_wins (sound : g.Sound) {calls : List LoggingOptions}
    (levels : ∀ o ∈ calls, IsLevel o.level) :
    ∀ earlier o later, calls = earlier ++ o :: later →
      let before := g.afterCalls earlier
      let after := (configure o before).1
      ((configure o before).2.result = .ok () ∧ Configured o before after ∨
        ∃ fault, (configure o before).2.result = .error fault ∧ Refuses o fault ∧
          after.loggers = before.loggers ∧ after.made = before.made) ∧
      ∀ name, name ∉ packageNames → after.logger name = g.logger name := by
  rintro earlier o later rfl before after
  obtain ⟨first, behind⟩ := List.forall_mem_append.mp levels
  have isLevel : IsLevel o.level := behind o List.mem_cons_self
  obtain ⟨still, others⟩ := afterCalls_kept sound first
  exact ⟨(configure_step still isLevel).2, fun name other =>
    (logger_configure still isLevel other).trans (others name other)⟩

/-- A file with the name of a directory that the log is to go to. -/
def occupiedFiles : FileTree := ⟨[(["logs"], .file [])]⟩

/-- A call for a level that there is not. -/
def loudCall : LoggingOptions :=
  { LoggingOptions.default with level := .text "loud" }

/-- A call for that directory. -/
def occupiedCall : LoggingOptions :=
  { LoggingOptions.default with level := .int 10, directory := .value (.text "logs") }

/-- The second call is refused, and the log stays as the first has left it: with one outlet, and the
level of `info`. -/
theorem occupiedCall_refused :
    let before := (ofFiles occupiedFiles).afterCalls [loudCall]
    let after := (configure occupiedCall before).1
    (∀ name ∈ packageNames, before.logger name = ⟨name, 20, [0]⟩) ∧
      (∃ fault, (configure occupiedCall before).2.result = .error fault) ∧
      after.loggers = before.loggers ∧ after.made = before.made ∧
      after.logger rootName = ⟨"root", 30, []⟩ := by
  intro before after
  have sound : (ofFiles occupiedFiles).Sound := fun name i mem => by cases mem
  have levels : ∀ o ∈ [loudCall, occupiedCall], IsLevel o.level := by
    simp only [List.forall_mem_cons]
    exact ⟨.inl ⟨"loud", rfl⟩, .inr ⟨10, rfl⟩, nofun⟩
  obtain ⟨first, -⟩ := configure_last_call_wins sound levels [] loudCall [occupiedCall] rfl
  obtain ⟨second, others⟩ := configure_last_call_wins sound levels [loudCall] occupiedCall [] rfl
  have loud : AsksForLevel loudCall.level 20 := levelIn_eq_ok_iff.mp (by cbv)
  -- the first call has no directory that it could be refused for
  have configured : ∀ name ∈ packageNames, before.logger name = ⟨name, 20, [0]⟩ := by
    obtain ⟨-, configured⟩ | ⟨fault, -, refuses, -⟩ := first
    · obtain ⟨level, outlets, asked, wanted, -, same⟩ := configured.loggers
      cases (levelIn_eq_ok_iff.mpr asked).symm.trans (levelIn_eq_ok_iff.mpr loud)
      cases wanted with
      | console => exact same
      | file given =>
        cases given with
        | text text => cases text
    · cases refuses with
      | file given =>
        cases given with
        | text text => cases text
      | notPath given counts =>
        cases given
        cases counts
  have files : before.files = occupiedFiles :=
    (configure_of_ok (g := ofFiles occupiedFiles) (o := loudCall) rfl
      (levelIn_eq_ok_iff.mpr loud)).2.files
  have refused : ∃ fault, (outletsOf occupiedCall before.files).2.result = .error fault := by
    have path : Path.ofText "logs" = ⟨"", ["logs"]⟩ := by
      rw [Path.ofText_eq]
      decide +kernel
    have there : occupiedFiles.locate ⟨"", ["logs"]⟩ = .found ["logs"] (.file []) := by
      decide +kernel
    have occupied : (makeDirectory (Path.ofText "logs") occupiedFiles).2.result =
        .error (.occupied (Path.text ⟨"", ["logs"]⟩)) := by
      rw [path, makeDirectory, FileTree.makeDirectory, there]
      rfl
    refine ⟨.file (.occupied (Path.text ⟨"", ["logs"]⟩)), ?_⟩
    rw [files, result_outletsOf (p := Path.ofText "logs") _ rfl, openFile,
      (Action.bind_of_error occupied).2]
    rfl
  obtain ⟨fault, refused⟩ := refused
  obtain ⟨result, -⟩ | ⟨fault', result, -, loggers, made⟩ := second
  · cases (configure_of_error refused).2.symm.trans result
  · exact ⟨configured, ⟨fault', result⟩, loggers, made, others rootName (by decide)⟩

end Logging

end DataContract
