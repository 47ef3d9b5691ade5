/-
Settings key by key.

Under each of its keys the settings have what the key's variable says unless it is not set or empty,
else what the section of the settings file has under the key, else the default (`Settings.chosen`),
as what the key takes it for (`SettingKey.Takes`). Which file that is, and what its section is, is
told by `LoadsFrom`, `FileIn`, `SectionOf` and `SectionIn`. So the settings are made from the values
chosen and nothing else (`result_load_of_section`), and they cannot be loaded exactly if one of
these values is not admissible for its key (`SettingKey.Admits`).
-/
import DataContract.Proofs.Reading.Field
import DataContract.Proofs.Reading.Scalar
import DataContract.Proofs.Settings.Loading

namespace DataContract

/-! ### The settings under their keys -/

/-- What a variable says: nothing if it is not set, or empty. -/
def Environment.said? (e : Environment) (name : String) : Option String :=
  (e.get? name).filter fun raw => raw ≠ ""

theorem SettingKey.name_inj {key other : SettingKey} : key.name = other.name ↔ key = other := by
  constructor
  · cases key <;> cases other <;> simp [name]
  · rintro rfl
    rfl

theorem SettingKey.forall_iff {P : SettingKey → Prop} :
    (∀ key, P key) ↔ P .guardStrict ∧ P .logLevel ∧ P .logDir ∧ P .contractsPath := by
  constructor
  · intro h
    exact ⟨h _, h _, h _, h _⟩
  · rintro ⟨strict, level, dir, path⟩ key
    cases key
    case guardStrict => exact strict
    case logLevel => exact level
    case logDir => exact dir
    case contractsPath => exact path

namespace Settings

theorem textOrNull_inj {a b : Option String} : textOrNull a = textOrNull b ↔ a = b := by
  cases a <;> cases b <;> simp [textOrNull]

/-- What the settings have under a key. -/
def valueOf (s : Settings) : SettingKey → Value
  | .guardStrict => .bool s.guardStrict
  | .logLevel => .text s.logLevel
  | .logDir => textOrNull s.logDir
  | .contractsPath => textOrNull s.contractsPath

end Settings

namespace SettingKey

open Reading (StandsForTruth StandsForText)

/-- What a value is where a text or null is wanted. -/
inductive TextOrNull : Value → Value → Prop where
  | null : TextOrNull .null .null
  | text {v : Value} {s : String} (h : StandsForText v s) : TextOrNull v (.text s)

/-- What a key takes a value for: the truth value, the text, or the text or null that it stands
for. -/
def Takes (key : SettingKey) (v w : Value) : Prop :=
  match key with
  | .guardStrict => ∃ b, StandsForTruth v b ∧ .bool b = w
  | .logLevel => ∃ s, StandsForText v s ∧ .text s = w
  | .logDir => TextOrNull v w
  | .contractsPath => TextOrNull v w

/-- A value is admissible for a key if the key takes it for something. -/
def Admits (key : SettingKey) (v : Value) : Prop :=
  ∃ w, key.Takes v w

/-- A value read as what a key takes it for. -/
def read (key : SettingKey) (v : Value) : Reading Value :=
  match key with
  | .guardStrict => (Reading.boolean v).map .bool
  | .logLevel => (Reading.text v).map .text
  | .logDir => (Reading.optionalText v).map Settings.textOrNull
  | .contractsPath => (Reading.optionalText v).map Settings.textOrNull

variable {key : SettingKey} {v w : Value}

theorem textOrNull_iff :
    TextOrNull v w ↔ ∃ o, Reading.optionalText v = .ok o ∧ Settings.textOrNull o = w := by
  simp only [Reading.optionalText_eq_ok_iff]
  constructor
  · intro h
    cases h with
    | null => exact ⟨none, .inl ⟨rfl, rfl⟩, rfl⟩
    | @text _ s h => exact ⟨some s, .inr ⟨s, h, rfl⟩, rfl⟩
  · rintro ⟨_, ⟨rfl, rfl⟩ | ⟨s, h, rfl⟩, rfl⟩
    · exact .null
    · exact .text h

theorem takes_iff : key.Takes v w ↔ key.read v = .ok w := by
  cases key with
  | guardStrict => simp only [Takes, read, map_eq_ok_iff, Reading.boolean_eq_ok_iff]
  | logLevel => simp only [Takes, read, map_eq_ok_iff, Reading.text_eq_ok_iff]
  | logDir => simp only [Takes, read, map_eq_ok_iff, textOrNull_iff]
  | contractsPath => simp only [Takes, read, map_eq_ok_iff, textOrNull_iff]

end SettingKey

namespace Settings

/-- The value that is chosen for a key: what its variable says, else what entries have under it, else
the default. -/
def chosen (e : Environment) (es : List (Value × Value)) (key : SettingKey) : Value :=
  (((e.said? key.environmentName).map .text).or (Value.lookup? (.text key.name) es)).getD
    (default.valueOf key)

/-! ### Settings from values -/

/-- Settings from a value for each key. -/
def ofValues (v : SettingKey → Value) : Reading Settings :=
  (Reading.both (.under (.name SettingKey.guardStrict.name) (Reading.boolean (v .guardStrict))) <|
    Reading.both (.under (.name SettingKey.logLevel.name) (Reading.text (v .logLevel))) <|
    Reading.both (.under (.name SettingKey.logDir.name) (Reading.optionalText (v .logDir)))
      (.under (.name SettingKey.contractsPath.name)
        (Reading.optionalText (v .contractsPath)))).map
          fun (guardStrict, logLevel, logDir, contractsPath) =>
            ⟨guardStrict, logLevel, logDir, contractsPath⟩

end Settings

namespace Reading

variable {α : Type} {read : Value → Reading α} {name : String} {a : α} {v : Value}
  {es : List (Value × Value)}

/-- A default is as good as the value that is read as it. -/
theorem optional_eq (reads : read v = .ok a) : optional name a es read =
    under (.name name) (read ((Value.lookup? (.text name) es).getD v)) := by
  rw [optional]
  cases Value.lookup? (.text name) es with
  | none => rw [Option.getD_none, reads]
  | some w => rfl

theorem settingsOf_eq (es : List (Value × Value)) : settingsOf es = Settings.ofValues fun key =>
    (Value.lookup? (.text key.name) es).getD (Settings.default.valueOf key) := by
  -- each default is read as itself, so it can stand in for a value
  have strict : boolean (Settings.default.valueOf .guardStrict) = .ok Settings.default.guardStrict :=
    rfl
  have level : text (Settings.default.valueOf .logLevel) = .ok Settings.default.logLevel := rfl
  have dir : optionalText (Settings.default.valueOf .logDir) = .ok Settings.default.logDir := rfl
  have path : optionalText (Settings.default.valueOf .contractsPath) =
      .ok Settings.default.contractsPath := rfl
  rw [settingsOf, optional_eq strict, optional_eq level, optional_eq dir, optional_eq path]
  rfl

end Reading

namespace Settings

variable {e : Environment} {es : List (Value × Value)} {key : SettingKey} {settings : Settings}
  {v : SettingKey → Value}

/-- Settings are made from values exactly if they have, under each key, what it takes its value
for. -/
theorem ofValues_eq_ok_iff :
    ofValues v = .ok settings ↔ ∀ key : SettingKey, key.Takes (v key) (settings.valueOf key) := by
  obtain ⟨strict, level, dir, path⟩ := settings
  simp only [ofValues, map_eq_ok_iff, Reading.both_eq_ok_iff, Reading.under_eq_ok_iff,
    SettingKey.takes_iff, SettingKey.forall_iff, SettingKey.read, valueOf, Value.bool.injEq,
    Value.text.injEq, textOrNull_inj, exists_eq_right]
  constructor
  · rintro ⟨p, ⟨hs, hl, hd, hp⟩, same⟩
    cases same
    exact ⟨hs, hl, hd, hp⟩
  · rintro ⟨hs, hl, hd, hp⟩
    exact ⟨(strict, level, dir, path), ⟨hs, hl, hd, hp⟩, rfl⟩

/-- They can be made if each value is admissible for its key. -/
theorem exists_ofValues_iff :
    (∃ settings, ofValues v = .ok settings) ↔ ∀ key : SettingKey, key.Admits (v key) := by
  constructor
  · rintro ⟨settings, made⟩ key
    exact ⟨_, ofValues_eq_ok_iff.mp made key⟩
  · intro each
    simp only [SettingKey.Admits, SettingKey.takes_iff, SettingKey.forall_iff, SettingKey.read,
      map_eq_ok_iff] at each
    -- what the four values are read as makes the settings
    obtain ⟨⟨_, strict, hs, -⟩, ⟨_, level, hl, -⟩, ⟨_, dir, hd, -⟩, ⟨_, path, hp, -⟩⟩ := each
    refine ⟨⟨strict, level, dir, path⟩, ofValues_eq_ok_iff.mpr ?_⟩
    simp only [SettingKey.takes_iff, SettingKey.forall_iff, SettingKey.read, hs, hl, hd, hp]
    exact ⟨rfl, rfl, rfl, rfl⟩

/-! ### What the environment says over entries -/

/-- Entries with what the environment says under one key. -/
def put (e : Environment) (es : List (Value × Value)) (key : SettingKey) : List (Value × Value) :=
  match e.said? key.environmentName with
  | some raw => Value.insert es (.text key.name) (.text raw)
  | none => es

theorem overridden_eq : overridden e es = SettingKey.all.foldl (put e) es := by
  rw [overridden]
  congr 1
  funext es key
  rw [put, Environment.said?]
  cases e.get? key.environmentName with
  | none => rfl
  | some raw =>
    by_cases empty : raw = ""
    · simp [Option.filter, empty]
    · simp [Option.filter, empty]

/-- One key at a time: the others keep what they have. -/
theorem lookup?_put (other : SettingKey) : Value.lookup? (.text key.name) (put e es other) =
    if key = other then
      ((e.said? key.environmentName).map .text).or (Value.lookup? (.text key.name) es)
    else Value.lookup? (.text key.name) es := by
  rw [put]
  by_cases same : key = other
  · subst same
    rw [if_pos rfl]
    cases e.said? key.environmentName with
    | none => rfl
    | some raw =>
      show Value.lookup? _ (Value.insert _ _ _) = _
      rw [Value.lookup?_insert, if_pos rfl]
      rfl
  · rw [if_neg same]
    cases e.said? other.environmentName with
    | none => rfl
    | some raw =>
      show Value.lookup? _ (Value.insert _ _ _) = _
      rw [Value.lookup?_insert, if_neg (mt SettingKey.name_inj.mp same)]

/-- Key by key: what counts is whether a key is among those gone through. -/
theorem lookup?_foldl_put (keys : List SettingKey) :
    Value.lookup? (.text key.name) (keys.foldl (put e) es) = if key ∈ keys then
      ((e.said? key.environmentName).map .text).or (Value.lookup? (.text key.name) es)
    else Value.lookup? (.text key.name) es := by
  induction keys generalizing es with
  | nil => rw [if_neg List.not_mem_nil, List.foldl_nil]
  | cons other rest ih =>
    rw [List.foldl_cons, ih, lookup?_put]
    by_cases same : key = other
    · subst same
      -- a key that comes again is put once more, to no effect
      rw [if_pos rfl, if_pos List.mem_cons_self, ← Option.or_assoc, Option.or_self, ite_self]
    · rw [if_neg same]
      simp only [List.mem_cons, same, false_or]

theorem lookup?_overridden (key : SettingKey) : Value.lookup? (.text key.name) (overridden e es) =
    ((e.said? key.environmentName).map .text).or (Value.lookup? (.text key.name) es) := by
  have among : key ∈ SettingKey.all := by cases key <;> decide
  rw [overridden_eq, lookup?_foldl_put, if_pos among]

/-- The keys of entries are texts. -/
def Texts (es : List (Value × Value)) : Prop :=
  ∀ f ∈ es, ∃ t, f.1.asText? = some t

theorem Texts.put (h : Texts es) (key : SettingKey) : Texts (put e es key) := by
  rw [Settings.put]
  cases e.said? key.environmentName with
  | none => exact h
  | some raw =>
    intro f mem
    obtain new | ⟨g, mem, same⟩ := Value.mem_insert mem
    · exact ⟨key.name, by rw [new]; rfl⟩
    · rw [← same]
      exact h g mem

theorem Texts.overridden (h : Texts es) : Texts (overridden e es) := by
  rw [overridden_eq]
  generalize SettingKey.all = keys
  induction keys generalizing es with
  | nil => exact h
  | cons key rest ih => exact ih (h.put key)

/-- Why values cannot be read, as a refusal of settings. -/
def refusal : Unreadable → SettingsFault
  | .faults fs => .model ⟨"Settings", fs⟩
  | .repetitionTooLarge => .repetitionTooLarge

theorem ofEntries_of_texts (h : Texts es) :
    ofEntries es = (Reading.settingsOf es).mapError refusal := by
  have all : (es.all fun e => e.1.asText?.isSome) = true := by
    rw [List.all_eq_true]
    intro f mem
    exact Option.isSome_iff_exists.mpr (h f mem)
  rw [ofEntries, all]
  cases Reading.settingsOf es with
  | ok settings => rfl
  | error fault => cases fault <;> rfl

/-- Settings of entries with the environment over them are those of the values chosen. -/
theorem ofEntries_overridden (h : Texts es) :
    ofEntries (overridden e es) = (ofValues (chosen e es)).mapError refusal := by
  rw [ofEntries_of_texts h.overridden, Reading.settingsOf_eq]
  simp only [lookup?_overridden]
  rfl

/-! ### The section of the settings file -/

/-- The directory that settings are loaded from: the one asked for unless it is empty, else the one
that the variable names, where no name is the working directory, else the common one. -/
inductive LoadsFrom (e : Environment) : Option String → Path → Prop where
  | asked {d : String} (given : d ≠ "") : LoadsFrom e (some d) (Path.ofText d)
  | named {asked : Option String} {d : String} (unasked : asked.getD "" = "")
    (set : e.get? "PERIMETER_CONFIG_DIR" = some d) (given : d ≠ "") :
    LoadsFrom e asked (Path.ofText d)
  | here {asked : Option String} (unasked : asked.getD "" = "")
    (set : e.get? "PERIMETER_CONFIG_DIR" = some "") : LoadsFrom e asked ⟨"", []⟩
  | common {asked : Option String} (unasked : asked.getD "" = "")
    (unset : e.get? "PERIMETER_CONFIG_DIR" = none) : LoadsFrom e asked ⟨"", ["config"]⟩

/-- The settings file in a directory: of the two with its name, the second only where the first is not
there. In a directory with a name too long to be looked for there is not even none. -/
inductive FileIn (files : FileTree) (d : Path) : Option Path → Prop where
  | yaml (there : files.holds (d.join ⟨"", ["perimeter.yaml"]⟩) = .ok true) :
    FileIn files d (some (d.join ⟨"", ["perimeter.yaml"]⟩))
  | yml (missing : files.holds (d.join ⟨"", ["perimeter.yaml"]⟩) = .ok false)
    (there : files.holds (d.join ⟨"", ["perimeter.yml"]⟩) = .ok true) :
    FileIn files d (some (d.join ⟨"", ["perimeter.yml"]⟩))
  | none (missing : files.holds (d.join ⟨"", ["perimeter.yaml"]⟩) = .ok false)
    (neither : files.holds (d.join ⟨"", ["perimeter.yml"]⟩) = .ok false) : FileIn files d none

/-- The section of the settings in a document: a map whose keys are texts, or none, which is where the
document is no map, or has nothing or null under the section's name. -/
inductive SectionOf : Value → List (Value × Value) → Prop where
  | noMap {document : Value} (other : document.asEntries? = none) : SectionOf document []
  | absent {parts : List (Value × Value)}
    (missing : Value.lookup? (.text "perimeter") parts = none) : SectionOf (.map parts) []
  | null {parts : List (Value × Value)}
    (held : Value.lookup? (.text "perimeter") parts = some .null) : SectionOf (.map parts) []
  | map {parts es : List (Value × Value)}
    (held : Value.lookup? (.text "perimeter") parts = some (.map es)) (texts : Texts es) :
    SectionOf (.map parts) es

/-- The section that settings are loaded from: that of the document in the settings file, once the
environment is put into its text, and none if there is no such file. -/
inductive SectionIn (s : Surroundings) (asked : Option String) : List (Value × Value) → Prop where
  | noFile {d : Path} (directory : LoadsFrom s.environment asked d)
    (absent : FileIn s.files d none) : SectionIn s asked []
  | file {d p : Path} {bytes : List UInt8} {content : String} {document : Value}
    {es : List (Value × Value)} (directory : LoadsFrom s.environment asked d)
    (found : FileIn s.files d (some p)) (opens : s.files.Opens p bytes)
    (text : textOf bytes = .ok content)
    (reads : Yaml.read (s.environment.substitute content) = .ok document)
    (held : SectionOf document es) : SectionIn s asked es

variable {s : Surroundings} {files : FileTree} {asked : Option String} {d : Path}
  {found : Option Path} {document : Value}

theorem loadsFrom_iff : LoadsFrom e asked d ↔ Path.ofText (directory e asked) = d := by
  have empty : Path.ofText "" = ⟨"", []⟩ := by
    rw [Path.ofText_eq]
    decide +kernel
  have common : Path.ofText Config.defaultDirectory = ⟨"", ["config"]⟩ := by
    rw [Path.ofText_eq]
    decide +kernel
  have fallback : asked.getD "" = "" → directory e asked = directory.fallback e := by
    intro unasked
    cases asked with
    | none => rfl
    | some d => exact if_pos unasked
  constructor
  · intro h
    cases h with
    | asked given => rw [directory, if_neg given]
    | named unasked set _ =>
      rw [fallback unasked, directory.fallback, directoryVariable, set]
      rfl
    | here unasked set =>
      rw [fallback unasked, directory.fallback, directoryVariable, set]
      exact empty
    | common unasked unset =>
      rw [fallback unasked, directory.fallback, directoryVariable, unset]
      exact common
  · rintro rfl
    by_cases unasked : asked.getD "" = ""
    · rw [fallback unasked, directory.fallback, directoryVariable]
      cases set : e.get? "PERIMETER_CONFIG_DIR" with
      | none => exact common ▸ .common unasked set
      | some d =>
        by_cases given : d = ""
        · subst given
          exact empty ▸ .here unasked set
        · exact .named unasked set given
    · cases asked with
      | none => exact absurd rfl unasked
      | some d =>
        have given : d ≠ "" := unasked
        rw [directory, if_neg given]
        exact .asked given

theorem fileIn_iff : FileIn files d found ↔ (Config.mk d []).find? files fileName = .ok found := by
  have yaml : (Config.mk d []).path fileName ".yaml" = d.join ⟨"", ["perimeter.yaml"]⟩ := by
    rw [Config.path, Path.ofText_eq]
    exact congrArg d.join (by decide +kernel)
  have yml : (Config.mk d []).path fileName ".yml" = d.join ⟨"", ["perimeter.yml"]⟩ := by
    rw [Config.path, Path.ofText_eq]
    exact congrArg d.join (by decide +kernel)
  rw [Config.find?, Config.endings, List.map_cons, List.map_cons, List.map_nil, yaml, yml,
    FileTree.first?_pair]
  constructor
  · intro h
    cases h with
    | yaml there =>
      rw [there]
      rfl
    | yml missing there =>
      rw [missing, there]
      rfl
    | none missing neither =>
      rw [missing, neither]
      rfl
  · intro h
    cases first : files.holds (d.join ⟨"", ["perimeter.yaml"]⟩) with
    | error fault =>
      rw [first] at h
      cases h
    | ok here =>
      rw [first] at h
      cases here with
      | true =>
        cases h
        exact .yaml first
      | false =>
        cases second : files.holds (d.join ⟨"", ["perimeter.yml"]⟩) with
        | error fault =>
          rw [second] at h
          cases h
        | ok there =>
          rw [second] at h
          cases there with
          | true =>
            cases h
            exact .yml first second
          | false =>
            cases h
            exact .none first second

theorem follow_map (parts : List (Value × Value)) (name : String) :
    Config.follow (.map []) (.map parts) [name] =
      Config.follow (.map []) ((Value.lookup? (.text name) parts).getD .null) [] :=
  rfl

/-- A document that counts as false is taken for an empty map, which has no section either. -/
theorem entriesOf_of_sectionOf (h : SectionOf document es) :
    entriesOf (Config.follow (.map []) (if document.truthy then document else .map []) [fileName]) =
      .ok es := by
  cases h with
  | noMap other =>
    split
    · cases document with
      | mapping m parts => cases other
      | _ => rfl
    · rfl
  | @absent parts missing =>
    have held : Value.lookup? (.text fileName) parts = none := missing
    split
    · rw [follow_map, held]
      rfl
    · rfl
  | @null parts held =>
    have held : Value.lookup? (.text fileName) parts = some .null := held
    split
    · rw [follow_map, held]
      rfl
    · rfl
  | @map parts es held =>
    have held : Value.lookup? (.text fileName) parts = some (.map es) := held
    have some : (Value.map parts).truthy = true := by
      cases parts with
      | nil => cases held
      | cons first rest => rfl
    rw [if_pos some, follow_map, held]
    -- a section without entries counts as false, which comes to no entries too
    cases es <;> rfl

theorem entriesOf_of_sectionIn (h : SectionIn s asked es) :
    ((Config.get s (fileName ++ "." ++ fileName) (.map [])
      (Config.ofDirectory (directory s.environment asked))).2.result.mapError SettingsFault.config
        >>= entriesOf) = .ok es := by
  rw [Config.result_get fileName_splitOn]
  cases h with
  | noFile directory absent =>
    rw [Config.ofDirectory, loadsFrom_iff.mp directory, Config.result_load_of_fresh, Config.found?,
      fileIn_iff.mp absent]
    rfl
  | @file d p bytes content document _ directory found opens text reads held =>
    have written : s.files.readText p p.text = .ok content := by
      rw [FileTree.readText_of_opens opens, text]
      rfl
    have read : Config.contentOf s p = .ok (if document.truthy then document else .map []) := by
      simp only [Config.contentOf, written, reads]
    rw [Config.ofDirectory, loadsFrom_iff.mp directory, Config.result_load_of_fresh, Config.found?,
      fileIn_iff.mp found]
    dsimp only
    rw [read]
    exact entriesOf_of_sectionOf held

/-- With a section the settings are those of the values chosen from it. -/
theorem result_load_of_section (h : SectionIn s asked es) :
    (load s asked).result = (ofValues (chosen s.environment es)).mapError refusal := by
  have texts : Texts es := by
    cases h with
    | noFile => exact List.forall_mem_nil _
    | file _ _ _ _ _ held =>
      cases held with
      | map _ texts => exact texts
      | _ => exact List.forall_mem_nil _
  rw [result_load, entriesOf_of_sectionIn h]
  exact ofEntries_overridden texts

/-- Settings are what is chosen for each of their keys.

* They are loaded exactly with what their keys take the values chosen for.
* They cannot be loaded exactly if one of these values is not admissible for its key.
* Nothing else counts: neither other keys, nor values that are not chosen, nor where a value is from.
* What they have under a key depends on what is chosen for it alone. -/
theorem loads_chosen_by_key (h : SectionIn s asked es) :
    (∀ settings, (load s asked).result = .ok settings ↔
      ∀ key : SettingKey, key.Takes (chosen s.environment es key) (settings.valueOf key)) ∧
    ((∃ fault, (load s asked).result = .error fault) ↔
      ∃ key : SettingKey, ¬key.Admits (chosen s.environment es key)) ∧
    ∀ t other fs, SectionIn t other fs →
      ((∀ key, chosen s.environment es key = chosen t.environment fs key) →
        (load s asked).result = (load t other).result) ∧
      ∀ settings settings', (load s asked).result = .ok settings →
        (load t other).result = .ok settings' →
        ∀ key, chosen s.environment es key = chosen t.environment fs key →
          settings.valueOf key = settings'.valueOf key := by
  have loads : ∀ {s asked es}, SectionIn s asked es → ∀ settings,
      (load s asked).result = .ok settings ↔
        ∀ key : SettingKey, key.Takes (chosen s.environment es key) (settings.valueOf key) := by
    intro s asked es h settings
    rw [result_load_of_section h, mapError_eq_ok_iff, ofValues_eq_ok_iff]
  refine ⟨loads h, ?_, fun t other fs h' => ⟨fun same => ?_, ?_⟩⟩
  · rw [exists_error_iff, result_load_of_section h]
    simp only [mapError_eq_ok_iff, exists_ofValues_iff, not_forall]
  · rw [result_load_of_section h, result_load_of_section h', funext same]
  · intro settings settings' first second key same
    have read := SettingKey.takes_iff.mp ((loads h settings).mp first key)
    rw [same, SettingKey.takes_iff.mp ((loads h' settings').mp second key)] at read
    exact (Except.ok.inj read).symm

/-- A settings file in which the strictness is no truth value, and the level a placeholder. -/
def draft : String :=
  "'perimeter':\n  'guard_strict': 7\n  'log_level': '$\x7bLEVEL:DEBUG\x7d'\n  'color': 'red'\n"

/-- The same with the default in the place of the placeholder. -/
def draftFilled : String :=
  "'perimeter':\n  'guard_strict': 7\n  'log_level': 'DEBUG'\n  'color': 'red'\n"

def draftSection : List (Value × Value) :=
  [(.text "guard_strict", .int 7), (.text "log_level", .text "DEBUG"), (.text "color", .text "red")]

/-- A working directory with the file, under the second of its names. -/
def draftFiles : FileTree := ⟨[(["perimeter.yml"], .file draft.toUTF8.toList)]⟩

theorem read_draftFilled :
    Yaml.read draftFilled = .ok (.map [(.text "perimeter", .map draftSection)]) := by
  have tokens : Yaml.Token.ofText draftFilled.toList = .ok [.blockMappingStart, .key,
      .scalar "perimeter" false, .value, .blockMappingStart, .key, .scalar "guard_strict" false,
      .value, .scalar "7" true, .key, .scalar "log_level" false, .value, .scalar "DEBUG" false, .key,
      .scalar "color" false, .value, .scalar "red" false, .blockEnd, .blockEnd] := by
    decide +kernel
  rw [Yaml.read, tokens]
  cbv

/-- Settings are loaded from the working directory. -/
def unsaid : Environment := ⟨[("PERIMETER_CONFIG_DIR", ""), ("PERIMETER_LOG_DIR", "")]⟩

/-- The same, and they are not to be strict. -/
def lenient : Environment := unsaid.set "PERIMETER_GUARD_STRICT" "no"

theorem sectionIn_draft (set : e.get? "PERIMETER_CONFIG_DIR" = some "")
    (filled : e.substitute draft = draftFilled) : SectionIn ⟨e, draftFiles⟩ none draftSection := by
  have first : draftFiles.holds ⟨"", ["perimeter.yaml"]⟩ = .ok false := by decide +kernel
  have second : draftFiles.locate ⟨"", ["perimeter.yml"]⟩ =
      .found ["perimeter.yml"] (.file draft.toUTF8.toList) := by
    decide +kernel
  have opens : draftFiles.Opens ⟨"", ["perimeter.yml"]⟩ draft.toUTF8.toList := ⟨_, second⟩
  have texts : Texts draftSection := by
    intro f mem
    simp only [draftSection, List.mem_cons, List.not_mem_nil, or_false] at mem
    rcases mem with rfl | rfl | rfl <;> exact ⟨_, rfl⟩
  have held : Value.lookup? (.text "perimeter") [(.text "perimeter", .map draftSection)] =
      some (.map draftSection) :=
    Value.lookup?_singleton rfl
  exact .file (.here rfl set) (.yml first opens.holds) opens (by decide +kernel)
    ((congrArg Yaml.read filled).trans read_draftFilled) (.map held texts)

/-- What a file says is of no account where a variable says otherwise. -/
theorem draft_loaded :
    SectionIn ⟨lenient, draftFiles⟩ none draftSection ∧
    (load ⟨lenient, draftFiles⟩ none).result = .ok ⟨false, "DEBUG", none, none⟩ ∧
    SectionIn ⟨unsaid, draftFiles⟩ none draftSection ∧
    ∃ fault, (load ⟨unsaid, draftFiles⟩ none).result = .error fault := by
  have first : SectionIn ⟨lenient, draftFiles⟩ none draftSection :=
    sectionIn_draft (by decide +kernel) (by decide +kernel)
  have second : SectionIn ⟨unsaid, draftFiles⟩ none draftSection :=
    sectionIn_draft (by decide +kernel) (by decide +kernel)
  refine ⟨first, ((loads_chosen_by_key first).1 _).mpr fun key => ?_, second,
    (loads_chosen_by_key second).2.1.mpr ⟨.guardStrict, ?_⟩⟩
  · rw [SettingKey.takes_iff]
    cases key <;> cbv
  · have refused : SettingKey.read .guardStrict (chosen unsaid draftSection .guardStrict) =
        Reading.fault .unreadableBoolean := by
      cbv
    rintro ⟨w, taken⟩
    cases refused.symm.trans (SettingKey.takes_iff.mp taken)

end Settings

end DataContract
