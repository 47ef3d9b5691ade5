/-
Configuration files are kept from when they are first parsed.

While a directory of configuration files is in use, variables are set and files are written around it,
and now and then a file is loaded by its name, or a value asked for under a key that begins with the
name (`Config.Event`). What is kept for a name is what its file held at the first of these moments at
which it could be parsed: nothing is kept if there was none (`Config.KeepsTo`). One event preserves
that (`Config.KeepsTo.step`), so all do (`Config.Session.keepsTo`), and each answer follows from it
(`Config.Moment.Answered`).

A file that is missing counts as an empty map, but a name with which no file could be looked for is
refused, though there can be no file with it either (`Config.longName_refused`).

Names do not influence each other: an event changes what is kept for the name that it asks for alone
(`Config.Session.kept?_perform`), so the answers for a name are the same without the events that ask
for others (`Config.Session.answersFor_concerns`).
-/
import DataContract.Proofs.Settings.Keeping
import DataContract.Proofs.Value.Keys

namespace DataContract

namespace Config

/-! ### What a name stands for -/

/-- The file with a name in a directory: of the two endings, the second only where there is nothing
with the first. A name may be too long to be looked for with them. -/
inductive FileFor (files : FileTree) (d : Path) (name : String) :
    Except FileFault (Option Path) → Prop where
  | yaml (there : files.holds (d.join (Path.ofText (name ++ ".yaml"))) = .ok true) :
    FileFor files d name (.ok (some (d.join (Path.ofText (name ++ ".yaml")))))
  | yml (missing : files.holds (d.join (Path.ofText (name ++ ".yaml"))) = .ok false)
    (there : files.holds (d.join (Path.ofText (name ++ ".yml"))) = .ok true) :
    FileFor files d name (.ok (some (d.join (Path.ofText (name ++ ".yml")))))
  | none (missing : files.holds (d.join (Path.ofText (name ++ ".yaml"))) = .ok false)
    (neither : files.holds (d.join (Path.ofText (name ++ ".yml"))) = .ok false) :
    FileFor files d name (.ok Option.none)
  | tooLong {fault : FileFault}
    (fails : files.holds (d.join (Path.ofText (name ++ ".yaml"))) = .error fault) :
    FileFor files d name (.error fault)
  | tooLongBehind {fault : FileFault}
    (missing : files.holds (d.join (Path.ofText (name ++ ".yaml"))) = .ok false)
    (fails : files.holds (d.join (Path.ofText (name ++ ".yml"))) = .error fault) :
    FileFor files d name (.error fault)

/-- What the files of a directory come to for a name: nothing if there is none, else the value that its
file writes once the environment is put into its text. A value that counts as false is an empty map.
They come to a fault if the file cannot be looked for, read or parsed. -/
inductive Finds (s : Surroundings) (d : Path) (name : String) :
    Except ConfigFault (Option Value) → Prop where
  | missing (absent : FileFor s.files d name (.ok none)) : Finds s d name (.ok none)
  | unsought {fault : FileFault} (fails : FileFor s.files d name (.error fault)) :
    Finds s d name (.error (.file (.file fault)))
  | unreadable {p : Path} {fault : TextFileFault} (found : FileFor s.files d name (.ok (some p)))
    (fails : s.files.readText p p.text = .error fault) : Finds s d name (.error (.file fault))
  | malformed {p : Path} {content : String} {fault : YamlFault}
    (found : FileFor s.files d name (.ok (some p))) (text : s.files.readText p p.text = .ok content)
    (fails : Yaml.read (s.environment.substitute content) = .error fault) :
    Finds s d name (.error (.yaml fault))
  | parsed {p : Path} {content : String} {v : Value} (found : FileFor s.files d name (.ok (some p)))
    (text : s.files.readText p p.text = .ok content)
    (reads : Yaml.read (s.environment.substitute content) = .ok v) (counts : v.truthy = true) :
    Finds s d name (.ok (some v))
  | empty {p : Path} {content : String} {v : Value} (found : FileFor s.files d name (.ok (some p)))
    (text : s.files.readText p p.text = .ok content)
    (reads : Yaml.read (s.environment.substitute content) = .ok v) (counts : v.truthy = false) :
    Finds s d name (.ok (some (.map [])))

variable {s : Surroundings} {files : FileTree} {c : Config} {d : Path} {name other : String}
  {found : Except FileFault (Option Path)} {p : Path} {v w : Value} {fault : ConfigFault}
  {outcome : Except ConfigFault (Option Value)}

theorem fileFor_iff : FileFor files c.directory name found ↔ c.find? files name = found := by
  rw [find?, endings, List.map_cons, List.map_cons, List.map_nil, path, path, FileTree.first?_pair]
  constructor
  · intro h
    cases h with
    | yaml there | tooLong there =>
      rw [there]
      rfl
    | yml missing there | none missing there | tooLongBehind missing there =>
      rw [missing, there]
      rfl
  · rintro rfl
    cases first : files.holds (c.directory.join (Path.ofText (name ++ ".yaml"))) with
    | error fault => exact .tooLong first
    | ok here =>
      cases here with
      | true => exact .yaml first
      | false =>
        cases second : files.holds (c.directory.join (Path.ofText (name ++ ".yml"))) with
        | error fault => exact .tooLongBehind first second
        | ok there =>
          cases there with
          | true => exact .yml first second
          | false => exact .none first second

/-- A file that is found comes to its content. -/
theorem finds_contentOf (found : FileFor s.files d name (.ok (some p))) :
    Finds s d name ((contentOf s p).map some) := by
  rw [contentOf]
  cases text : s.files.readText p p.text with
  | error fault => exact .unreadable found text
  | ok content =>
    dsimp only
    cases reads : Yaml.read (s.environment.substitute content) with
    | error fault => exact .malformed found text reads
    | ok v =>
      dsimp only
      cases counts : v.truthy with
      | true => exact .parsed found text reads counts
      | false => exact .empty found text reads counts

theorem finds_iff : Finds s c.directory name outcome ↔ c.found? s name = outcome := by
  rw [found?]
  constructor
  · intro h
    cases h with
    | missing absent => rw [fileFor_iff.mp absent]
    | unsought fails => rw [fileFor_iff.mp fails]
    | unreadable found fails => simp only [fileFor_iff.mp found, contentOf, fails, Except.map]
    | malformed found text fails =>
      simp only [fileFor_iff.mp found, contentOf, text, fails, Except.map]
    | parsed found text reads counts =>
      simp only [fileFor_iff.mp found, contentOf, text, reads, counts, if_true, Except.map]
    | empty found text reads counts =>
      simp only [fileFor_iff.mp found, contentOf, text, reads, counts, Bool.false_eq_true, if_false,
        Except.map]
  · rintro rfl
    cases found : c.find? s.files name with
    | error fault => exact .unsought (fileFor_iff.mpr found)
    | ok there =>
      cases there with
      | none => exact .missing (fileFor_iff.mpr found)
      | some p => exact finds_contentOf (fileFor_iff.mpr found)

/-- The files come to one thing for each name. -/
theorem existsUnique_finds (s : Surroundings) (d : Path) (name : String) :
    ∃! outcome, Finds s d name outcome :=
  ⟨_, (finds_iff (c := ⟨d, []⟩)).mpr rfl, fun _ h => ((finds_iff (c := ⟨d, []⟩)).mp h).symm⟩

/-! ### One load -/

/-- What is kept for a name. -/
def kept? (c : Config) (name : String) : Option Value :=
  (c.loaded.find? (·.1 = name)).map (·.2)

/-- What is kept is given, and nothing is looked at. -/
theorem load_of_kept (kept : c.kept? name = some v) :
    (load s name c).1 = c ∧ (load s name c).2.result = .ok v := by
  obtain ⟨⟨_, _⟩, held, rfl⟩ := Option.map_eq_some_iff.mp kept
  simp only [load, bind, Action.andThen, Action.state, Noted.ok, held]
  exact ⟨rfl, rfl⟩

theorem load_of_missing (unkept : c.kept? name = none)
    (missing : Finds s c.directory name (.ok none)) :
    (load s name c).1 = c ∧ (load s name c).2.result = .ok (.map []) := by
  have held := Option.map_eq_none_iff.mp unkept
  simp only [load, bind, Action.andThen, Action.state, Noted.ok, held, Action.of,
    finds_iff.mp missing]
  exact ⟨rfl, rfl⟩

theorem load_of_failing (unkept : c.kept? name = none)
    (failing : Finds s c.directory name (.error fault)) :
    (load s name c).1 = c ∧ (load s name c).2.result = .error fault := by
  have held := Option.map_eq_none_iff.mp unkept
  simp only [load, bind, Action.andThen, Action.state, Noted.ok, held, Action.of,
    finds_iff.mp failing]
  exact ⟨rfl, rfl⟩

/-- What is parsed is given, and kept. -/
theorem load_of_parsed (unkept : c.kept? name = none)
    (parsed : Finds s c.directory name (.ok (some v))) :
    (load s name c).1 = { c with loaded := (name, v) :: c.loaded } ∧
      (load s name c).2.result = .ok v := by
  have held := Option.map_eq_none_iff.mp unkept
  simp only [load, bind, Action.andThen, Action.state, Noted.ok, held, Action.of,
    finds_iff.mp parsed]
  exact ⟨rfl, rfl⟩

theorem kept?_cons : kept? ⟨d, (name, v) :: c.loaded⟩ other =
    if other = name then some v else c.kept? other := by
  rw [kept?, List.find?_cons]
  by_cases same : other = name
  · subst same
    simp
  · simp [same, Ne.symm same, kept?]

/-- A load keeps the directory, and what is kept for other names. -/
theorem load_frame : (load s name c).1.directory = c.directory ∧
    ∀ other, other ≠ name → (load s name c).1.kept? other = c.kept? other := by
  cases kept : c.kept? name with
  | some v =>
    rw [(load_of_kept kept).1]
    exact ⟨rfl, fun _ _ => rfl⟩
  | none =>
    obtain ⟨outcome, finds, -⟩ := existsUnique_finds s c.directory name
    match outcome with
    | .ok none =>
      rw [(load_of_missing kept finds).1]
      exact ⟨rfl, fun _ _ => rfl⟩
    | .error fault =>
      rw [(load_of_failing kept finds).1]
      exact ⟨rfl, fun _ _ => rfl⟩
    | .ok (some v) =>
      rw [(load_of_parsed kept finds).1]
      exact ⟨rfl, fun other apart => by rw [kept?_cons, if_neg apart]⟩

/-- What a load comes to, and what is kept for its name then, is up to what was kept for it before and
to what the files come to. -/
theorem load_outcome (finds : Finds s c.directory name outcome) :
    (load s name c).2.result =
        (c.kept? name).elim (outcome.map fun found => found.getD (.map [])) .ok ∧
      (load s name c).1.kept? name = (c.kept? name).or (outcome.toOption.bind id) := by
  cases kept : c.kept? name with
  | some v =>
    rw [(load_of_kept kept).1, (load_of_kept kept).2]
    exact ⟨rfl, kept⟩
  | none =>
    match outcome with
    | .ok none =>
      rw [(load_of_missing kept finds).1, (load_of_missing kept finds).2]
      exact ⟨rfl, kept⟩
    | .error fault =>
      rw [(load_of_failing kept finds).1, (load_of_failing kept finds).2]
      exact ⟨rfl, kept⟩
    | .ok (some v) =>
      rw [(load_of_parsed kept finds).1, (load_of_parsed kept finds).2, kept?_cons, if_pos rfl]
      exact ⟨rfl, rfl⟩

/-- Nothing that is kept for other names counts. -/
theorem load_congr {c' : Config} (directory : c.directory = c'.directory)
    (kept : c.kept? name = c'.kept? name) :
    (load s name c).2.result = (load s name c').2.result ∧
      (load s name c).1.kept? name = (load s name c').1.kept? name := by
  obtain ⟨outcome, finds, -⟩ := existsUnique_finds s c.directory name
  have here := load_outcome finds
  rw [directory] at finds
  have there := load_outcome finds
  rw [here.1, here.2, there.1, there.2, kept]
  exact ⟨rfl, rfl⟩

/-! ### A directory in use -/

/-- A directory of configuration files in use, and what is around it. -/
structure Session where
  surroundings : Surroundings
  config : Config

/-- What can happen to a directory of configuration files in use. -/
inductive Event where
  | change (c : Change)
  | load (name : String)
  | get (key : String) (default : Value)

namespace Event

/-- What an event makes of a session, and what it comes to if it asks for something. -/
def perform (e : Event) (x : Session) : Session × Option (Except ConfigFault Value) :=
  match e with
  | change c => (⟨c.apply x.surroundings, x.config⟩, none)
  | load name =>
    let (config, loaded) := Config.load x.surroundings name x.config
    (⟨x.surroundings, config⟩, some loaded.result)
  | get key default =>
    let (config, found) := Config.get x.surroundings key default x.config
    (⟨x.surroundings, config⟩, some found.result)

/-- The name of the file that an event asks for. -/
def asks? : Event → Option String
  | change _ => none
  | load name => some name
  | get key _ => (key.splitOn ".").head?

/-- What an event gives of the value of its file. -/
def view : Event → Value → Value
  | get key default, v => follow default v (key.splitOn ".").tail
  | _, v => v

/-- Whether an event counts for a name: one that asks for another does not. -/
def concerns (name : String) (e : Event) : Bool :=
  e.asks? = none || e.asks? = some name

variable {e : Event} {x : Session}

theorem exists_asks?_get (key : String) (default : Value) :
    ∃ name, (get key default).asks? = some name := by
  have some : key.splitOn "." ≠ [] := by
    rw [show "." = String.singleton '.' from rfl, splitOn_singleton]
    simp
  exact ⟨_, List.head?_eq_some_head some⟩

/-- An event that asks for nothing changes what is around. -/
theorem eq_change_of_asks? (asks : e.asks? = none) : ∃ c, e = change c := by
  cases e with
  | change c => exact ⟨c, rfl⟩
  | load name => cases asks
  | get key default =>
    obtain ⟨name, named⟩ := exists_asks?_get key default
    cases asks.symm.trans named

/-- An event that asks for a file loads it, and gives what it asks for of the file's value. -/
theorem perform_of_asks (asks : e.asks? = some name) : e.perform x =
    (⟨x.surroundings, (Config.load x.surroundings name x.config).1⟩,
      some ((Config.load x.surroundings name x.config).2.result.map e.view)) := by
  cases e with
  | change c => cases asks
  | load name' =>
    obtain rfl := Option.some.inj asks
    simp only [perform]
    cases (Config.load x.surroundings name' x.config).2.result <;> rfl
  | get key default =>
    obtain ⟨keys, parts⟩ : ∃ keys, key.splitOn "." = name :: keys := List.head?_eq_some_iff.mp asks
    have state : (Config.get x.surroundings key default x.config).1 =
        (Config.load x.surroundings name x.config).1 := by
      rw [Config.get, parts]
      cases loaded : (Config.load x.surroundings name x.config).2.result with
      | error fault => exact (Action.bind_of_error loaded).1
      | ok v => exact (Action.bind_of_ok loaded).1
    have tail : (get key default).view = fun v => follow default v keys := by
      funext v
      rw [view, parts, List.tail_cons]
    simp only [perform, state, result_get parts, tail]

end Event

/-- An event that happens to a directory in use. -/
structure Moment where
  before : Session
  event : Event

namespace Moment

/-- The directory and what is around it after the event. -/
def after (m : Moment) : Session := (m.event.perform m.before).1

/-- What the event comes to. -/
def answer (m : Moment) : Option (Except ConfigFault Value) := (m.event.perform m.before).2

/-- The event asks for a name, and the files come to a value for it. -/
def Parses (d : Path) (name : String) (m : Moment) (v : Value) : Prop :=
  m.event.asks? = some name ∧ Finds m.before.surroundings d name (.ok (some v))

end Moment

/-- At the first of the moments at which a name was asked for and its file could be parsed, it came to
a value. -/
inductive FirstParsed (d : Path) (name : String) : List Moment → Value → Prop where
  | here {m : Moment} {rest : List Moment} {v : Value} (parses : m.Parses d name v) :
    FirstParsed d name (m :: rest) v
  | later {m : Moment} {rest : List Moment} {v : Value} (not : ∀ w, ¬m.Parses d name w)
    (first : FirstParsed d name rest v) : FirstParsed d name (m :: rest) v

/-- A directory in use keeps to the moments in front of it: for each name it has kept what the file
was first parsed to. -/
structure KeepsTo (x : Session) (d : Path) (ms : List Moment) : Prop where
  directory : x.config.directory = d
  kept : ∀ name v, x.config.kept? name = some v ↔ FirstParsed d name ms v

namespace Session

/-- Events in order, each with the directory in use that it happens to. -/
def moments : Session → List Event → List Moment
  | _, [] => []
  | x, e :: rest => ⟨x, e⟩ :: moments (e.perform x).1 rest

/-- What events come to that ask for a name, in order. -/
def answersFor (x : Session) (name : String) (events : List Event) :
    List (Option (Except ConfigFault Value)) :=
  ((x.moments events).filter fun m => m.event.asks? = some name).map (·.answer)

end Session

/-! ### One moment -/

section Moments

variable {m : Moment} {x y : Session} {earlier later ms : List Moment} {events : List Event}

/-- Nothing is parsed where the files come to nothing, or to a fault. -/
theorem Moment.not_parses (finds : Finds m.before.surroundings d name outcome)
    (other : ∀ v, outcome ≠ .ok (some v)) (v : Value) : ¬m.Parses d name v :=
  fun parses => other v ((existsUnique_finds m.before.surroundings d name).unique finds parses.2)

/-- No value was parsed first if none was parsed at all. -/
theorem not_firstParsed (none : ∀ m ∈ ms, ∀ v, ¬m.Parses d name v) :
    ¬∃ v, FirstParsed d name ms v := by
  rintro ⟨v, first⟩
  induction first with
  | here parses => exact none _ List.mem_cons_self _ parses
  | later _ _ ih => exact ih fun m mem => none m (List.mem_cons_of_mem _ mem)

/-- One more moment counts only if none before it did. -/
theorem firstParsed_concat : FirstParsed d name (earlier ++ [m]) v ↔
    FirstParsed d name earlier v ∨
      (¬∃ w, FirstParsed d name earlier w) ∧ m.Parses d name v := by
  induction earlier with
  | nil =>
    constructor
    · intro h
      cases h with
      | here parses => exact .inr ⟨nofun, parses⟩
      | later _ behind => cases behind
    · rintro (behind | ⟨-, parses⟩)
      · cases behind
      · exact .here parses
  | cons first rest ih =>
    rw [List.cons_append]
    constructor
    · intro h
      cases h with
      | here parses => exact .inl (.here parses)
      | later not h =>
        obtain h | ⟨unparsed, parses⟩ := ih.mp h
        · exact .inl (.later not h)
        · refine .inr ⟨?_, parses⟩
          rintro ⟨w, h⟩
          cases h with
          | here parses => exact not _ parses
          | later _ h => exact unparsed ⟨w, h⟩
    · rintro (h | ⟨unparsed, parses⟩)
      · cases h with
        | here parses => exact .here parses
        | later not h => exact .later not (ih.mpr (.inl h))
      · have not : ∀ w, ¬first.Parses d name w := fun w parses => unparsed ⟨w, .here parses⟩
        exact .later not (ih.mpr (.inr ⟨fun ⟨w, h⟩ => unparsed ⟨w, .later not h⟩, parses⟩))

/-- How an event that asks for a name is answered behind others. -/
structure Moment.Answered (d : Path) (name : String) (earlier : List Moment) (m : Moment) : Prop where
  /-- With what was parsed first, whatever has become of the files and of the environment. -/
  kept : ∀ v, FirstParsed d name earlier v →
    m.answer = some (.ok (m.event.view v)) ∧ m.after = m.before
  /-- Before anything was parsed a missing file counts as an empty map, and nothing is kept. -/
  missing : (¬∃ v, FirstParsed d name earlier v) → Finds m.before.surroundings d name (.ok none) →
    m.answer = some (.ok (m.event.view (.map []))) ∧ m.after = m.before
  /-- A file that cannot be looked for, read or parsed is refused, and nothing is kept. -/
  failing : (¬∃ v, FirstParsed d name earlier v) → ∀ fault,
    Finds m.before.surroundings d name (.error fault) →
    m.answer = some (.error fault) ∧ m.after = m.before
  /-- A file that can be parsed is, and its value is the one that is kept. -/
  parsed : (¬∃ v, FirstParsed d name earlier v) → ∀ v,
    Finds m.before.surroundings d name (.ok (some v)) →
    m.answer = some (.ok (m.event.view v)) ∧ FirstParsed d name (earlier ++ [m]) v ∧
      m.after.config.kept? name = some v
  /-- For other names there is kept what was kept before. -/
  others : ∀ other, other ≠ name → m.after.config.kept? other = m.before.config.kept? other

/-- What is kept after an event: for the name that it asks for, if any, what the files come to where
nothing was kept. -/
theorem Moment.kept?_after (m : Moment) (name : String) : m.after.config.kept? name = some v ↔
    m.before.config.kept? name = some v ∨ m.before.config.kept? name = none ∧
      m.Parses m.before.config.directory name v := by
  obtain ⟨x, e⟩ := m
  cases asks : e.asks? with
  | none =>
    obtain ⟨c, rfl⟩ := Event.eq_change_of_asks? asks
    exact (or_iff_left fun ⟨_, parses, _⟩ => Option.some_ne_none _ parses.symm).symm
  | some asked =>
    simp only [after, Event.perform_of_asks asks, Parses, asks, Option.some.injEq]
    by_cases same : asked = name
    · subst same
      rw [(load_outcome (finds_iff.mpr rfl)).2, finds_iff, eq_self_iff_true, true_and]
      generalize x.config.found? x.surroundings asked = outcome
      cases x.config.kept? asked with
      | some w => simp
      | none => rcases outcome with _ | _ | _ <;> simp [Except.toOption]
    · rw [load_frame.2 name (Ne.symm same)]
      simp only [same, false_and, and_false, or_false]

theorem Moment.directory_after (m : Moment) :
    m.after.config.directory = m.before.config.directory := by
  obtain ⟨x, e⟩ := m
  cases asks : e.asks? with
  | none =>
    obtain ⟨c, rfl⟩ := Event.eq_change_of_asks? asks
    rfl
  | some asked =>
    rw [after, Event.perform_of_asks asks]
    exact load_frame.1

/-- An event keeps a directory in use to the moments up to it. -/
theorem KeepsTo.step (h : KeepsTo m.before d earlier) : KeepsTo m.after d (earlier ++ [m]) where
  directory := m.directory_after.trans h.directory
  kept name v := by
    have unkept : m.before.config.kept? name = none ↔ ¬∃ w, FirstParsed d name earlier w := by
      simp only [← h.kept, not_exists, Option.eq_none_iff_forall_ne_some]
    rw [Moment.kept?_after, firstParsed_concat, h.kept, unkept, h.directory]

/-- A directory in use that keeps to what was before answers so. -/
theorem KeepsTo.answered (h : KeepsTo m.before d earlier) (asks : m.event.asks? = some name) :
    m.Answered d name earlier := by
  have unkept : (¬∃ v, FirstParsed d name earlier v) → m.before.config.kept? name = none := by
    simp only [← h.kept, not_exists, Option.eq_none_iff_forall_ne_some, imp_self]
  have after : m.after = ⟨m.before.surroundings,
      (Config.load m.before.surroundings name m.before.config).1⟩ := by
    rw [Moment.after, Event.perform_of_asks asks]
  have answer : m.answer = some
      ((Config.load m.before.surroundings name m.before.config).2.result.map m.event.view) := by
    rw [Moment.answer, Event.perform_of_asks asks]
  obtain ⟨rfl, held⟩ := h
  refine ⟨fun v first => ?_, fun unparsed finds => ?_, fun unparsed fault finds => ?_,
    fun unparsed v finds => ?_, fun other apart => ?_⟩
  · obtain ⟨state, result⟩ := load_of_kept (s := m.before.surroundings) ((held name v).mpr first)
    rw [after, answer, state, result]
    exact ⟨rfl, rfl⟩
  · obtain ⟨state, result⟩ := load_of_missing (unkept unparsed) finds
    rw [after, answer, state, result]
    exact ⟨rfl, rfl⟩
  · obtain ⟨state, result⟩ := load_of_failing (unkept unparsed) finds
    rw [after, answer, state, result]
    exact ⟨rfl, rfl⟩
  · obtain ⟨state, result⟩ := load_of_parsed (unkept unparsed) finds
    refine ⟨?_, firstParsed_concat.mpr (.inr ⟨unparsed, asks, finds⟩), ?_⟩
    · rw [answer, result]
      rfl
    · rw [after, state, kept?_cons, if_pos rfl]
  · rw [after]
    exact load_frame.2 other apart

/-! ### All moments -/

/-- Each event happens to a directory in use that keeps to the moments in front of it. -/
theorem Session.keepsTo (h : KeepsTo x d ms) (split : x.moments events = earlier ++ m :: later) :
    KeepsTo m.before d (ms ++ earlier) := by
  induction events generalizing x ms earlier with
  | nil => simp [moments] at split
  | cons e rest ih =>
    cases earlier with
    | nil =>
      obtain ⟨rfl, -⟩ := List.cons.inj split
      rwa [List.append_nil]
    | cons first between =>
      obtain ⟨rfl, behind⟩ := List.cons.inj split
      -- the event joins the moments in front, and the invariant goes with them
      have after : KeepsTo (e.perform x).1 d (ms ++ [⟨x, e⟩]) := KeepsTo.step (m := ⟨x, e⟩) h
      rw [List.append_cons]
      exact ih after behind

/-! ### Names apart from each other -/

/-- Two directories in use are alike for a name if they are one directory, in the same surroundings,
with the same value kept for the name. -/
structure Session.AlikeFor (name : String) (x y : Session) : Prop where
  surroundings : x.surroundings = y.surroundings
  directory : x.config.directory = y.config.directory
  kept : x.config.kept? name = y.config.kept? name

/-- An event that asks for another name leaves a directory in use as it was for the name. -/
theorem Session.AlikeFor.perform_other {e : Event} (h : Session.AlikeFor name x y)
    (other : e.concerns name = false) : Session.AlikeFor name (e.perform x).1 y := by
  simp only [Event.concerns, Bool.or_eq_false_iff, decide_eq_false_iff_not] at other
  obtain ⟨asked, asks⟩ := Option.ne_none_iff_exists'.mp other.1
  have apart : name ≠ asked := fun same => other.2 (asks.trans (congrArg some same.symm))
  rw [Event.perform_of_asks asks]
  exact ⟨h.surroundings, load_frame.1.trans h.directory, (load_frame.2 name apart).trans h.kept⟩

/-- An event that counts for a name comes to the same in both, and leaves them alike. -/
theorem Session.AlikeFor.perform {e : Event} (h : Session.AlikeFor name x y)
    (counts : e.concerns name = true) :
    (e.perform x).2 = (e.perform y).2 ∧ Session.AlikeFor name (e.perform x).1 (e.perform y).1 := by
  obtain ⟨same, directory, kept⟩ := h
  simp only [Event.concerns, Bool.or_eq_true, decide_eq_true_eq] at counts
  obtain asks | asks := counts
  · obtain ⟨c, rfl⟩ := Event.eq_change_of_asks? asks
    exact ⟨rfl, congrArg c.apply same, directory, kept⟩
  · obtain ⟨s, c⟩ := x
    obtain rfl : s = y.surroundings := same
    obtain ⟨result, state⟩ := load_congr (s := y.surroundings) directory kept
    rw [Event.perform_of_asks asks, Event.perform_of_asks asks, result]
    exact ⟨rfl, rfl, load_frame.1.trans (directory.trans load_frame.1.symm), state⟩

theorem Session.answersFor_cons (x : Session) (name : String) (e : Event) (rest : List Event) :
    x.answersFor name (e :: rest) =
      (if e.asks? = some name then [(e.perform x).2] else []) ++
        (e.perform x).1.answersFor name rest := by
  simp only [answersFor, moments, List.filter_cons, decide_eq_true_eq]
  split <;> rfl

/-- Whatever else is asked for, the answers for a name are those without it. -/
theorem Session.answersFor_concerns (h : Session.AlikeFor name x y) (events : List Event) :
    x.answersFor name events = y.answersFor name (events.filter (Event.concerns name)) := by
  induction events generalizing x y with
  | nil => rfl
  | cons e rest ih =>
    rw [answersFor_cons, List.filter_cons]
    cases counts : e.concerns name with
    | true =>
      obtain ⟨answer, after⟩ := h.perform counts
      rw [if_pos rfl, answersFor_cons, answer, ih after]
    | false =>
      have other : e.asks? ≠ some name := by
        intro asks
        simp [Event.concerns, asks] at counts
      rw [if_neg other, if_neg Bool.false_ne_true, List.nil_append, ih (h.perform_other counts)]

end Moments

/-- Configuration files are kept once they have been parsed, and only then.

* What the files come to for a name is one thing at each moment: nothing, a fault, or a value. It is a
  fault, too, if the name is too long to be looked for.
* Whatever else happened, an event that asks for a name is answered with the value that was parsed
  first for the name; before that, with what the files come to at the moment, of which nothing but a
  value is kept.
* An event that is no change asks for a name.
* The answers for a name are the same if no other name is asked for. -/
theorem files_kept_once_parsed (s : Surroundings) (directory : String) (events : List Event) :
    let start : Session := ⟨s, ofDirectory directory⟩
    let d := Path.ofText directory
    (∀ t name, ∃! outcome, Finds t d name outcome) ∧
    (∀ earlier m later, start.moments events = earlier ++ m :: later →
      (∀ name, m.event.asks? = some name → m.Answered d name earlier) ∧
      (m.event.asks? = none → ∃ c, m.event = .change c)) ∧
    ∀ name, start.answersFor name events =
      start.answersFor name (events.filter (Event.concerns name)) := by
  intro start d
  refine ⟨fun t name => existsUnique_finds t d name, fun earlier m later split =>
    ⟨fun name asks => ?_, Event.eq_change_of_asks?⟩,
    fun name => Session.answersFor_concerns ⟨rfl, rfl, rfl⟩ events⟩
  have fresh : KeepsTo start d [] := ⟨rfl, fun name v => ⟨nofun, nofun⟩⟩
  have before : KeepsTo m.before d earlier := Session.keepsTo fresh split
  exact before.answered asks

/-- A working directory with the file of an application, and nothing else. -/
def appFiles (text : String) : FileTree := ⟨[(["app.yml"], .file text.toUTF8.toList)]⟩

/-- The file of an application is asked for before it is there, while it is broken and when it is
repaired, and once more with another file in front of it. -/
def appEvents : List Event :=
  [.load "app", .change (.writeFile ⟨"", ["app.yml"]⟩ "'a".toUTF8.toList), .load "app",
    .change (.writeFile ⟨"", ["app.yml"]⟩ "'a': 1".toUTF8.toList), .get "app.a" .null,
    .change (.writeFile ⟨"", ["app.yaml"]⟩ "'a': 2".toUTF8.toList), .load "app"]

theorem appPath_yaml :
    (Path.ofText "").join (Path.ofText ("app" ++ ".yaml")) = ⟨"", ["app.yaml"]⟩ := by
  rw [Path.ofText_eq "", Path.ofText_eq ("app" ++ ".yaml")]
  decide +kernel

theorem appPath_yml :
    (Path.ofText "").join (Path.ofText ("app" ++ ".yml")) = ⟨"", ["app.yml"]⟩ := by
  rw [Path.ofText_eq "", Path.ofText_eq ("app" ++ ".yml")]
  decide +kernel

theorem fileFor_appFiles (text : String) :
    FileFor (appFiles text) (Path.ofText "") "app" (.ok (some ⟨"", ["app.yml"]⟩)) := by
  rw [← appPath_yml]
  have yaml : ¬Path.nameLimit < "app.yaml".utf8ByteSize := by decide
  have yml : ¬Path.nameLimit < "app.yml".utf8ByteSize := by decide
  refine .yml ?_ ?_
  · rw [appPath_yaml, FileTree.holds, FileTree.locate_of_short (by decide) (by decide)]
    simp [FileTree.follow, FileTree.entry?, appFiles, Path.start, Path.top, yaml]
  · rw [appPath_yml, FileTree.holds, FileTree.locate_of_short (by decide) (by decide)]
    simp [FileTree.follow, FileTree.entry?, appFiles, Path.start, Path.top, yml]

theorem finds_appMissing : Finds ⟨⟨[]⟩, .empty⟩ (Path.ofText "") "app" (.ok none) := by
  refine .missing (.none ?_ ?_)
  · rw [appPath_yaml]
    decide +kernel
  · rw [appPath_yml]
    decide +kernel

/-- A quote that is not closed. -/
theorem finds_appBroken : ∃ fault, Finds ⟨⟨[]⟩, appFiles "'a"⟩ (Path.ofText "") "app"
    (.error fault) := by
  have unread : ∃ fault, Yaml.read "'a" = .error fault := by
    have unscanned : (Yaml.Token.ofText "'a".toList).isOk = false := by decide +kernel
    rw [Yaml.read]
    cases scan : Yaml.Token.ofText "'a".toList with
    | ok tokens =>
      rw [scan] at unscanned
      cases unscanned
    | error fault => exact ⟨fault, rfl⟩
  obtain ⟨fault, unread⟩ := unread
  have text : (appFiles "'a").readText ⟨"", ["app.yml"]⟩ (Path.text ⟨"", ["app.yml"]⟩) = .ok "'a" := by
    decide +kernel
  have plain : (Environment.mk []).substitute "'a" = "'a" := by decide +kernel
  exact ⟨_, .malformed (fileFor_appFiles _) text ((congrArg Yaml.read plain).trans unread)⟩

theorem finds_appRepaired : Finds ⟨⟨[]⟩, appFiles "'a': 1"⟩ (Path.ofText "") "app"
    (.ok (some (.map [(.text "a", .int 1)]))) := by
  have tokens : Yaml.Token.ofText "'a': 1".toList = .ok [.blockMappingStart, .key,
      .scalar "a" false, .value, .scalar "1" true, .blockEnd] := by
    decide +kernel
  have read : Yaml.read "'a': 1" = .ok (.map [(.text "a", .int 1)]) := by
    rw [Yaml.read, tokens]
    cbv
  have text : (appFiles "'a': 1").readText ⟨"", ["app.yml"]⟩ (Path.text ⟨"", ["app.yml"]⟩) =
      .ok "'a': 1" := by
    decide +kernel
  have plain : (Environment.mk []).substitute "'a': 1" = "'a': 1" := by decide +kernel
  exact .parsed (fileFor_appFiles _) text ((congrArg Yaml.read plain).trans read) rfl

theorem write_appFiles (text : String) :
    FileTree.empty.write ⟨"", ["app.yml"]⟩ text.toUTF8.toList = appFiles text ∧
    ∀ other, (appFiles other).write ⟨"", ["app.yml"]⟩ text.toUTF8.toList = appFiles text := by
  constructor
  · rw [FileTree.write, FileTree.makeDirectory]
    rfl
  · intro other
    rw [FileTree.write, FileTree.makeDirectory]
    rfl

/-- The value that the repaired file has is kept; that the file was missing, and then broken, is
not. -/
theorem appEvents_kept :
    let start : Session := ⟨⟨⟨[]⟩, .empty⟩, ofDirectory ""⟩
    ∃ fault, start.answersFor "app" appEvents =
      [some (.ok (.map [])), some (.error fault), some (.ok (.int 1)),
        some (.ok (.map [(.text "a", .int 1)]))] := by
  intro start
  have keys : "app.a".splitOn "." = ["app", "a"] := by
    rw [show "." = String.singleton '.' from rfl, splitOn_singleton]
    decide +kernel
  have asks : (Event.get "app.a" .null).asks? = some "app" := by
    rw [Event.asks?, keys, List.head?_cons]
  have view : (Event.get "app.a" .null).view (.map [(.text "a", .int 1)]) = .int 1 := by
    have held : Value.lookup? (.text "a") [(.text "a", .int 1)] = some (.int 1) :=
      Value.lookup?_singleton rfl
    rw [Event.view, keys, List.tail_cons, Value.map, follow, held]
    rfl
  obtain ⟨-, answered, -⟩ := files_kept_once_parsed ⟨⟨[]⟩, .empty⟩ "" appEvents
  have missing := finds_appMissing
  obtain ⟨fault, broken⟩ := finds_appBroken
  have repaired := finds_appRepaired
  rw [← (write_appFiles "'a").1] at broken
  rw [← (write_appFiles "'a': 1").2 "'a", ← (write_appFiles "'a").1] at repaired
  have idle : ∀ x c v, ¬Moment.Parses (Path.ofText "") "app" ⟨x, .change c⟩ v := nofun
  -- nothing is parsed before the file is repaired
  have first := ((answered [] _ _ rfl).1 "app" rfl).missing nofun missing
  have third := ((answered [_, _] _ _ rfl).1 "app" rfl).failing
    (not_firstParsed (by
      simp only [List.forall_mem_cons]
      exact ⟨Moment.not_parses missing nofun, idle _ _, nofun⟩)) fault broken
  have fifth := ((answered [_, _, _, _] _ _ rfl).1 "app" asks).parsed
    (not_firstParsed (by
      simp only [List.forall_mem_cons]
      exact ⟨Moment.not_parses missing nofun, idle _ _, Moment.not_parses broken nofun, idle _ _,
        nofun⟩)) _ repaired
  -- from then on its value is kept, also when the other file comes
  have seventh := ((answered [_, _, _, _, _, _] _ _ rfl).1 "app" rfl).kept _
    (firstParsed_concat.mpr (.inl fifth.2.1))
  refine ⟨fault, ?_⟩
  rw [view] at fifth
  simp only [appEvents, Session.answersFor_cons, Event.asks?, keys, List.head?_cons, reduceCtorEq,
    if_true, if_false, List.nil_append, List.cons_append]
  exact congrArg₂ _ first.1 (congrArg₂ _ third.1 (congrArg₂ _ fifth.1 (congrArg₂ _ seventh.1 rfl)))

/-- A load that fails is answered with the fault. -/
theorem Session.answersFor_load_of_failing {x : Session} (unkept : x.config.kept? name = none)
    (failing : Finds x.surroundings x.config.directory name (.error fault)) :
    x.answersFor name [.load name] = [some (.error fault)] := by
  obtain ⟨-, result⟩ := load_of_failing unkept failing
  rw [answersFor_cons, Event.asks?, if_pos rfl, Event.perform_of_asks rfl, result]
  rfl

/-- A name with more letters than the name of a file may have together with an ending. -/
def longName : String := String.ofList (List.replicate 251 'x')

/-- A directory for configuration files, and no file anywhere. -/
def bareFiles : FileTree := ⟨[(["conf"], .directory)]⟩

theorem mem_longFile {c : Char} (mem : c ∈ (longName ++ ".yaml").toList) :
    c = 'x' ∨ c ∈ ".yaml".toList := by
  have letters : longName.toList = List.replicate 251 'x' := String.toList_ofList
  rw [String.toList_append, List.mem_append, letters, List.mem_replicate] at mem
  exact mem.imp And.right id

theorem not_mem_longFile {c : Char} (other : c ≠ 'x') (outside : c ∉ ".yaml".toList) :
    c ∉ (longName ++ ".yaml").toList :=
  fun mem => (mem_longFile mem).elim other outside

theorem locate_longFile : bareFiles.locate ⟨"", ["conf", longName ++ ".yaml"]⟩ = .tooLong := by
  have whole : Path.hasNull ⟨"", ["conf", longName ++ ".yaml"]⟩ = false := by
    have null : '\x00' ∉ (longName ++ ".yaml").toList := not_mem_longFile (by decide) (by decide)
    simpa [Path.hasNull] using null
  have long : Path.nameLimit < (longName ++ ".yaml").utf8ByteSize := by decide +kernel
  generalize longName ++ ".yaml" = file at whole long
  have other : file ≠ ".." := by
    rintro rfl
    exact absurd long (by decide)
  have short : ¬Path.nameLimit < "conf".utf8ByteSize := by decide
  rw [FileTree.locate, whole, if_neg Bool.false_ne_true]
  split
  · rfl
  · simp [FileTree.follow, FileTree.entry?, bareFiles, Path.start, Path.top, short, other, long]

theorem holds_longFile : bareFiles.holds ((Path.ofText "conf").join
    (Path.ofText (longName ++ ".yaml"))) = .error (.tooLong ("conf/" ++ longName ++ ".yaml")) := by
  have plain : '/' ∉ (longName ++ ".yaml").toList := not_mem_longFile (by decide) (by decide)
  have several : 1 < (longName ++ ".yaml").length := by
    rw [String.length_append]
    exact Nat.lt_of_lt_of_le (by decide) (Nat.le_add_left _ _)
  have lies : (Path.ofText "conf").join (Path.ofText (longName ++ ".yaml")) =
      ⟨"", ["conf", longName ++ ".yaml"]⟩ := by
    rw [Path.ofText_of_name (by decide) (by decide), Path.ofText_of_name plain several]
    rfl
  rw [lies, FileTree.holds, locate_longFile, String.append_assoc]
  generalize longName ++ ".yaml" = file
  rfl

theorem finds_longName : Finds ⟨⟨[]⟩, bareFiles⟩ (Path.ofText "conf") longName
    (.error (.file (.file (.tooLong ("conf/" ++ longName ++ ".yaml"))))) :=
  .unsought (.tooLong holds_longFile)

/-- No file with the name is there, and yet it is refused: it does not count as an empty map. -/
theorem longName_refused :
    let start : Session := ⟨⟨⟨[]⟩, bareFiles⟩, ofDirectory "conf"⟩
    (∀ p bytes, ¬bareFiles.Opens p bytes) ∧
      start.answersFor longName [.load longName] =
        [some (.error (.file (.file (.tooLong ("conf/" ++ longName ++ ".yaml")))))] ∧
      start.answersFor longName [.load longName] ≠ [some (.ok (.map []))] := by
  intro start
  have refused : start.answersFor longName [.load longName] =
      [some (.error (.file (.file (.tooLong ("conf/" ++ longName ++ ".yaml")))))] :=
    Session.answersFor_load_of_failing rfl finds_longName
  refine ⟨FileTree.not_opens_of_bare (by simp [bareFiles]), refused, ?_⟩
  rw [refused]
  intro same
  cases List.head_eq_of_cons_eq same

end Config

end DataContract
