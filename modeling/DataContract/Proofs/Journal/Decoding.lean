/-
A line of the log is one line, and is read back.

A JSON line is made of visible characters only, so nothing that a record holds breaks it. Read as
JSON it is the record again: its own fields with the extra ones put over them
(`LogRecord.jsonLine_of_short`). A record has a line unless its time cannot be shown or an integer in
its extra fields has too many digits (`LogRecord.exists_jsonLine_iff`). An entry with structured fields
makes a record that carries those fields that say something and shows them behind its message
(`LogEntry.structured_eq_ok_iff`); so it is with the entries that policies write
(`Policy.jsonLine_of_entry`). `LogRecord.lines_read_back` puts this together.
-/
import DataContract.Journal.Logbook
import DataContract.Proofs.Guard.Enforcement
import DataContract.Proofs.Journal.Overlay
import DataContract.Proofs.JsonText.Visible

namespace DataContract

open JsonText (Jsonable keyed)
open Value (decodedFields)

/-! ### Records -/

namespace LogRecord

/-- A record carries extra fields: those of a map of any kind, or none. -/
def Carries (r : LogRecord) (fields : List (String × Value)) : Prop :=
  r.extra = none ∧ fields = [] ∨ ∃ kind, r.extra = some (.mapping kind (fields.map keyed))

/-- The fields that the line of every record has. -/
def ownFields (r : LogRecord) (message : String) : List (String × Value) :=
  [("timestamp", .text r.time.stamp), ("level", .text (LogLevel.textOf r.level)),
    ("logger", .text r.logger), ("message", .text message)]

/-- What the line of a record is read as: an object with the record's own fields, and the extra ones
put over them. -/
def object (r : LogRecord) (message : String) (fields : List (String × Value)) : Value :=
  .map ((overlaidFields (r.ownFields message) (decodedFields fields)).map keyed)

section

variable {r : LogRecord} {message : String} {fields : List (String × Value)}

theorem message_of_no_arguments (none : r.arguments = []) : r.message = .ok r.template := by
  rw [LogRecord.message, none]
  rfl

theorem extraEntries_of_carries (carries : r.Carries fields) :
    r.extraEntries = .ok (fields.map keyed) := by
  rcases carries with ⟨none, rfl⟩ | ⟨kind, some⟩
  · rw [extraEntries, none]
    rfl
  · rw [extraEntries, some]
    rfl

theorem nodup_ownFields (r : LogRecord) (message : String) :
    ((r.ownFields message).map (·.1)).Nodup := by
  show ["timestamp", "level", "logger", "message"].Nodup
  decide

/-- The own fields of a record are texts. -/
theorem exists_text_of_mem_ownFields {f : String × Value} (mem : f ∈ r.ownFields message) :
    ∃ s, f.2 = .text s := by
  simp only [ownFields, List.mem_cons, List.not_mem_nil, or_false] at mem
  rcases mem with rfl | rfl | rfl | rfl <;> exact ⟨_, rfl⟩

theorem timestamp_of_shown (shown : r.time.fault? = none) : r.timestamp = .ok r.time.stamp := by
  rw [timestamp, ClockReading.shown, shown]
  rfl

/-- A record whose time cannot be shown has no line. -/
theorem jsonLine_of_fault {fault : ClockFault} (h : r.time.fault? = some fault) :
    r.jsonLine = .error (.clock fault) := by
  rw [jsonLine, timestamp, ClockReading.shown, h]
  rfl

/-- The line of a record is written from its fields. -/
theorem jsonLine_eq (shown : r.time.fault? = none) (told : r.message = .ok message)
    (carries : r.Carries fields) (distinct : (fields.map (·.1)).Nodup) :
    r.jsonLine = (JsonText.line (.map
      ((overlaidFields (r.ownFields message) fields).map keyed))).mapError LineFault.json := by
  rw [jsonLine, timestamp_of_shown shown, told, extraEntries_of_carries carries,
    ← overlaid_keyed distinct]
  rfl

theorem jsonable_overlaidFields (r : LogRecord) (message : String)
    (distinct : (fields.map (·.1)).Nodup) (jsonable : ∀ f ∈ fields, Jsonable f.2) :
    Jsonable (.map ((overlaidFields (r.ownFields message) fields).map keyed)) := by
  refine .mapping (by decide) rfl (nodup_overlaidFields (r.nodup_ownFields message) distinct) ?_
  intro f mem
  obtain ⟨g, own | extra, same⟩ := exists_of_mem_overlaidFields mem
  · obtain ⟨s, text⟩ := exists_text_of_mem_ownFields own
    rw [← same, text]
    exact .text s
  · exact same ▸ jsonable g extra

/-- The line has an integer with too many digits exactly if an extra field has one. -/
theorem overlong_overlaidFields_iff (distinct : (fields.map (·.1)).Nodup) :
    (Value.map ((overlaidFields (r.ownFields message) fields).map keyed)).Overlong ↔
      ∃ f ∈ fields, f.2.Overlong := by
  constructor
  · intro long
    cases long with
    | key mem long =>
      obtain ⟨f, -, rfl⟩ := List.mem_map.mp mem
      cases long
    | entry mem long =>
      obtain ⟨f, there, rfl⟩ := List.mem_map.mp mem
      obtain ⟨g, own | extra, same⟩ := exists_of_mem_overlaidFields there
      · obtain ⟨s, text⟩ := exists_text_of_mem_ownFields own
        rw [keyed, ← same, text] at long
        cases long
      · rw [keyed, ← same] at long
        exact ⟨g, extra, long⟩
  · rintro ⟨f, mem, long⟩
    exact .entry (List.mem_map_of_mem (mem_overlaidFields distinct mem)) long

/-- The line of a record is read as the record again. -/
theorem jsonLine_of_short (shown : r.time.fault? = none) (told : r.message = .ok message)
    (carries : r.Carries fields) (distinct : (fields.map (·.1)).Nodup)
    (jsonable : ∀ f ∈ fields, Jsonable f.2) (short : ∀ f ∈ fields, ¬f.2.Overlong) :
    ∃ line, r.jsonLine = .ok line ∧ Visible line.toList ∧
      JsonText.read line = .ok (r.object message fields) := by
  have fits : ¬(Value.map ((overlaidFields (r.ownFields message) fields).map keyed)).Overlong := by
    rw [overlong_overlaidFields_iff distinct]
    rintro ⟨f, mem, long⟩
    exact short f mem long
  obtain ⟨cs, done, writes⟩ := JsonText.written_of_short
    (jsonable_overlaidFields r message distinct jsonable) fits .line 0
  have own : ∀ f ∈ r.ownFields message, f.2.decoded = f.2 := by
    intro f mem
    obtain ⟨s, text⟩ := exists_text_of_mem_ownFields mem
    rw [text]
    rfl
  rw [Value.decoded, Value.decodedEntries_keyed, decodedFields_overlaidFields own] at writes
  refine ⟨String.ofList cs, ?_, ?_, JsonText.read_of_writes writes⟩
  · rw [jsonLine_eq shown told carries distinct, JsonText.line, done]
    rfl
  · rw [String.toList_ofList]
    exact JsonText.visible_written done

/-- There is no line if an extra field holds an integer with too many digits. -/
theorem jsonLine_of_overlong (shown : r.time.fault? = none) (told : r.message = .ok message)
    (carries : r.Carries fields) (distinct : (fields.map (·.1)).Nodup)
    (jsonable : ∀ f ∈ fields, Jsonable f.2) (long : ∃ f ∈ fields, f.2.Overlong) :
    r.jsonLine = .error (.json .tooManyDigits) := by
  have refused := JsonText.written_of_overlong
    (jsonable_overlaidFields r message distinct jsonable)
    ((overlong_overlaidFields_iff distinct).mpr long) .line 0
  rw [jsonLine_eq shown told carries distinct, JsonText.line, refused]
  rfl

/-- A record whose extra fields JSON has a form for has a line exactly if its time can be shown and no
integer in the fields has too many digits. -/
theorem exists_jsonLine_iff (told : r.message = .ok message) (carries : r.Carries fields)
    (distinct : (fields.map (·.1)).Nodup) (jsonable : ∀ f ∈ fields, Jsonable f.2) :
    (∃ line, r.jsonLine = .ok line) ↔ r.time.fault? = none ∧ ∀ f ∈ fields, ¬f.2.Overlong := by
  constructor
  · rintro ⟨line, made⟩
    have shown : r.time.fault? = none := by
      cases h : r.time.fault? with
      | none => rfl
      | some fault => cases made.symm.trans (jsonLine_of_fault h)
    refine ⟨shown, fun f mem long => ?_⟩
    cases made.symm.trans (jsonLine_of_overlong shown told carries distinct jsonable ⟨f, mem, long⟩)
  · rintro ⟨shown, short⟩
    obtain ⟨line, made, -⟩ := jsonLine_of_short shown told carries distinct jsonable short
    exact ⟨line, made⟩

end

end LogRecord

/-! ### Entries with fields -/

theorem display_eq_error_iff_of_jsonable {v : Value} (h : Jsonable v) {e : TooManyDigits} :
    v.display = .error e ↔ v.Overlong := by
  cases h with
  | null => constructor <;> (intro h; cases h)
  | bool b => constructor <;> (intro h; cases h)
  | int n => exact Value.quoted_eq_error_iff e _
  | text s => constructor <;> (intro h; cases h)
  | @sequence kind plain vs items =>
    have shown : (Value.sequence kind vs).display = (Value.sequence kind vs).quoted := by
      simp only [Value.display, Value.asMember?, plain]
    rw [shown, Value.quoted_eq_error_iff]
  | @mapping kind own plain es distinct values =>
    have shown : (Value.mapping kind (es.map keyed)).display =
        (Value.mapping kind (es.map keyed)).quoted := by
      cases kind with
      | view => exact absurd rfl own
      | _ => simp only [Value.display, Value.asMember?, plain]
    rw [shown, Value.quoted_eq_error_iff]

namespace LogEntry

/-- A text shows a field: its name and the text of its value. -/
def Shows (f : String × Value) (s : String) : Prop :=
  ∃ text, f.2.display = .ok text ∧ s = f.1 ++ "=" ++ text

/-- A message with the fields shown behind it, if there are any. -/
def told (message : String) (shown : List String) : String :=
  if shown = [] then message else message ++ " [" ++ " ".intercalate shown ++ "]"

variable {logger message : String} {level : Int} {fields : List (String × Value)}
  {shown : List String} {e : LogEntry}

theorem isPresent_iff {f : String × Value} : isPresent f = true ↔ f.2 ≠ .null := by
  obtain ⟨name, v⟩ := f
  cases v <;> simp [isPresent]

theorem shownField_eq_ok_iff {f : String × Value} {s : String} :
    shownField f = .ok s ↔ Shows f s := by
  rw [shownField, bind_eq_ok_iff]
  exact exists_congr fun text => and_congr_right fun _ => pure_eq_ok_iff.trans eq_comm

theorem shownFields_eq_ok_iff :
    shownFields fields = .ok shown ↔ List.Forall₂ Shows fields shown := by
  simp only [shownFields_eq_mapM, mapM_eq_ok_iff, shownField_eq_ok_iff]

/-- The fields of an entry are those that say something, and its message shows them. -/
theorem structured_eq_ok_iff : structured logger level message fields = .ok e ↔
    ∃ shown, List.Forall₂ Shows (fields.filter isPresent) shown ∧
      e = ⟨logger, level, told message shown, some (fields.filter isPresent)⟩ := by
  simp only [structured, bind_eq_ok_iff, pure_eq_ok_iff, shownFields_eq_ok_iff]
  refine exists_congr fun shown => and_congr_right fun _ => ?_
  rw [told, eq_comm]
  cases shown <;> rfl

/-- An entry cannot be made only if one of its fields cannot be shown. -/
theorem exists_of_structured_error {fault : TooManyDigits}
    (h : structured logger level message fields = .error fault) :
    ∃ f ∈ fields.filter isPresent, f.2.display = .error fault := by
  rcases bind_eq_error_iff.mp h with hidden | ⟨_, -, h⟩
  · rw [shownFields_eq_mapM] at hidden
    obtain ⟨f, mem, hidden⟩ := exists_of_mapM_error hidden
    rcases bind_eq_error_iff.mp hidden with hidden | ⟨_, -, h⟩
    · exact ⟨f, mem, hidden⟩
    · exact absurd h pure_ne_error
  · exact absurd h pure_ne_error

theorem record_carries (e : LogEntry) (time : ClockReading) {fields : List (String × Value)}
    (own : e.fields = some fields) : (e.record time).Carries fields := by
  refine .inr ⟨.plain, ?_⟩
  rw [record, own]
  rfl

/-- An entry that is written with fields that JSON has a form for has a line. -/
theorem jsonLine_of_structured (h : structured logger level message fields = .ok e)
    (distinct : (fields.map (·.1)).Nodup) (jsonable : ∀ f ∈ fields, Jsonable f.2)
    {time : ClockReading} (shown : time.fault? = none) :
    ∃ line, (e.record time).jsonLine = .ok line ∧ Visible line.toList ∧ JsonText.read line =
      .ok ((e.record time).object e.message (fields.filter isPresent)) := by
  obtain ⟨told, all, rfl⟩ := structured_eq_ok_iff.mp h
  refine LogRecord.jsonLine_of_short shown (LogRecord.message_of_no_arguments rfl)
    (record_carries _ time rfl) (distinct.sublist (List.filter_sublist.map _))
    (fun f mem => jsonable f (List.mem_filter.mp mem).1) fun f mem long => ?_
  -- a value that is too long could not have been shown behind the message
  obtain ⟨given, present⟩ := List.mem_filter.mp mem
  have hidden : f.2.display = .error .mk :=
    (display_eq_error_iff_of_jsonable (jsonable f given)).mpr long
  cases h.symm.trans (structured_eq_error given present hidden)

end LogEntry

/-- The entry that a policy writes of data is one line, however many lines the report in its message
has. -/
theorem Policy.jsonLine_of_entry {d : Decision} {label : String} {name target : Value}
    {violations : List Violation} {e : LogEntry}
    (h : entry? d label name target violations = some (.ok e)) (named : Jsonable name)
    (placed : Jsonable target) {time : ClockReading} (shown : time.fault? = none) :
    ∃ line, (e.record time).jsonLine = .ok line ∧ Visible line.toList ∧
      JsonText.read line = .ok ((e.record time).object e.message
        ([("contract", name), ("target", target), ("violations", .int violations.length)].filter
          LogEntry.isPresent)) := by
  have distinct : ["contract", "target", "violations"].Nodup := by decide
  have jsonable : ∀ f ∈ [("contract", name), ("target", target),
      ("violations", Value.int violations.length)], Jsonable f.2 := by
    simp only [List.forall_mem_cons, List.not_mem_nil, false_implies, implies_true, and_true]
    exact ⟨named, placed, .int _⟩
  cases d with
  | passed => cases h
  | rejected => exact LogEntry.jsonLine_of_structured (Option.some.inj h) distinct jsonable shown
  | warned => exact LogEntry.jsonLine_of_structured (Option.some.inj h) distinct jsonable shown

namespace Logging

variable {time : ClockReading} {logger message : String} {level : Int}
  {fields : List (String × Value)} {g : Logging}

/-- A log that nothing has been said about writes warnings and what is worse. -/
theorem levelOf_ofFiles (files : FileTree) (name : String) :
    (ofFiles files).levelOf name = LogLevel.warning.number := by
  have root : ∀ ns : List String, rootName ∉ ns →
      ((ns ++ [rootName]).map (ofFiles files).logger).find? (·.level ≠ 0) =
        some ⟨rootName, LogLevel.warning.number, []⟩ := by
    intro ns
    induction ns with
    | nil => exact fun _ => rfl
    | cons n rest ih =>
      intro other
      obtain ⟨here, behind⟩ := not_or.mp (mt List.mem_cons.mpr other)
      have unset : (ofFiles files).logger n = ⟨n, 0, []⟩ := by
        show Logger.mk n (if n = rootName then _ else 0) [] = _
        rw [if_neg (Ne.symm here)]
      rw [List.cons_append, List.map_cons, unset]
      exact ih behind
  rw [levelOf, lineage, root _ (by simp)]
  rfl

/-- An entry with fields is written as it is made, and if it cannot be made nothing is written. -/
theorem writeFields_eq (free : ∀ f ∈ fields, f.1 ∉ ownParts)
    (enabled : g.isEnabled logger level = true) :
    writeFields time logger level message fields g =
      match LogEntry.structured logger level message fields with
      | .ok e => (g.write (e.record time), .ok ())
      | .error _ => (g, .fail .tooManyDigits) := by
  have every : ∀ f ∈ fields, ¬ownParts.contains f.1 = true := fun f mem own =>
    free f mem (List.contains_iff_mem.mp own)
  have none := List.find?_eq_none.mpr every
  cases made : LogEntry.structured logger level message fields with
  | ok e =>
    simp only [writeFields, bind, Action.andThen, Action.state, Noted.ok, none, enabled, if_true,
      made, Except.mapError, Action.of, Noted.of, Action.replace, List.append_nil]
  | error e =>
    simp only [writeFields, bind, Action.andThen, Action.state, Noted.ok, none, enabled, if_true,
      made, Except.mapError, Action.of, Noted.of, List.append_nil]
    rfl

end Logging

namespace LogRecord

/-- Lines are read back.

* A record whose extra fields JSON has a form for has a line exactly if its time can be shown and no
  integer in the fields has too many digits. The line is made of visible characters, and is read as the
  record again.
* So it is with the entry that a policy writes, however many lines the report in its message has.
* A record that is written with fields carries those that say something, and shows them behind its
  message; if one of them cannot be shown, nothing is written. -/
theorem lines_read_back (time : ClockReading) (fields : List (String × Value)) :
    (∀ (r : LogRecord) (message : String), r.message = .ok message → r.Carries fields →
      (fields.map (·.1)).Nodup → (∀ f ∈ fields, Jsonable f.2) →
      ((∃ line, r.jsonLine = .ok line) ↔ r.time.fault? = none ∧ ∀ f ∈ fields, ¬f.2.Overlong) ∧
        ∀ line, r.jsonLine = .ok line →
          Visible line.toList ∧ JsonText.read line = .ok (r.object message fields)) ∧
    (∀ (d : Decision) (label : String) (name target : Value) (violations : List Violation)
      (e : LogEntry), Policy.entry? d label name target violations = some (.ok e) →
      Jsonable name → Jsonable target → time.fault? = none →
      ∃ line, (e.record time).jsonLine = .ok line ∧ Visible line.toList ∧
        JsonText.read line = .ok ((e.record time).object e.message
          ([("contract", name), ("target", target), ("violations", .int violations.length)].filter
            LogEntry.isPresent))) ∧
    (∀ f, LogEntry.isPresent f = true ↔ f.2 ≠ .null) ∧
    ∀ (logger message : String) (level : Int) (g : Logging),
      (∀ f ∈ fields, f.1 ∉ Logging.ownParts) → g.isEnabled logger level = true →
      ((∃ f ∈ fields.filter LogEntry.isPresent, f.2.display = .error .mk) →
        Logging.writeFields time logger level message fields g = (g, .fail .tooManyDigits)) ∧
      ((∀ f ∈ fields.filter LogEntry.isPresent, ∃ text, f.2.display = .ok text) →
        ∃ r shown, Logging.writeFields time logger level message fields g = (g.write r, .ok ()) ∧
          r.time = time ∧ r.logger = logger ∧ r.level = level ∧
          r.Carries (fields.filter LogEntry.isPresent) ∧
          List.Forall₂ LogEntry.Shows (fields.filter LogEntry.isPresent) shown ∧
          r.message = .ok (LogEntry.told message shown)) := by
  refine ⟨?_, fun d label name target violations e h named placed shown =>
    Policy.jsonLine_of_entry h named placed shown, fun f => LogEntry.isPresent_iff, ?_⟩
  · intro r message told carries distinct jsonable
    have condition := exists_jsonLine_iff told carries distinct jsonable
    refine ⟨condition, fun line made => ?_⟩
    obtain ⟨shown, short⟩ := condition.mp ⟨line, made⟩
    obtain ⟨line', made', visible, read⟩ :=
      jsonLine_of_short shown told carries distinct jsonable short
    cases made.symm.trans made'
    exact ⟨visible, read⟩
  · intro logger message level g free enabled
    rw [Logging.writeFields_eq free enabled]
    constructor
    · rintro ⟨f, mem, hidden⟩
      obtain ⟨given, present⟩ := List.mem_filter.mp mem
      rw [LogEntry.structured_eq_error given present hidden]
    · intro each
      cases made : LogEntry.structured logger level message fields with
      | ok e =>
        obtain ⟨shown, all, rfl⟩ := LogEntry.structured_eq_ok_iff.mp made
        exact ⟨_, shown, rfl, rfl, rfl, rfl, LogEntry.record_carries _ time rfl, all,
          message_of_no_arguments rfl⟩
      | error e =>
        obtain ⟨f, mem, hidden⟩ := LogEntry.exists_of_structured_error made
        obtain ⟨text, told⟩ := each f mem
        cases hidden.symm.trans told

/-- An integer with one digit too many. -/
def longNumber : Value := .int (Nat.pow 10 digitLimit : Nat)

/-- A record that carries the number. -/
def longRecord : LogRecord := ⟨⟨0, 0⟩, "a", 20, "m", [], some (.map [(.text "n", longNumber)])⟩

/-- A record of a time that no calendar shows. -/
def farRecord : LogRecord := ⟨⟨100000000000000000, 0⟩, "a", 20, "m", [], none⟩

/-- The formatter has no line for either, though one carries only an integer and the other nothing. -/
theorem longRecord_unwritten :
    (longRecord.message = .ok "m" ∧ longRecord.Carries [("n", longNumber)] ∧ Jsonable longNumber) ∧
      longRecord.jsonLine = .error (.json .tooManyDigits) ∧
      (farRecord.message = .ok "m" ∧ farRecord.Carries []) ∧
        farRecord.jsonLine = .error (.clock .yearOutOfRange) := by
  have carries : longRecord.Carries [("n", longNumber)] := .inr ⟨.plain, rfl⟩
  have long : longNumber.Overlong := .int (by rw [IsOverlong, Int.natAbs_natCast])
  have jsonable : Jsonable longNumber := .int _
  refine ⟨⟨message_of_no_arguments rfl, carries, jsonable⟩, ?_,
    ⟨message_of_no_arguments rfl, .inl ⟨rfl, rfl⟩⟩, jsonLine_of_fault (by decide +kernel)⟩
  exact jsonLine_of_overlong (by decide +kernel) (message_of_no_arguments rfl) carries (by simp)
    (List.forall_mem_singleton.mpr jsonable) ⟨_, List.mem_singleton_self _, long⟩

/-- A report of two lines. -/
def twoLines : String := "Contract user violated (not enforced)\n  \"name\": é"

/-- Fields of a report, one of which says nothing. -/
def reportFields : List (String × Value) :=
  [("contract", .text "user"), ("target", .null), ("violations", .int 2),
    ("place", .tuple [.bool true, .null])]

/-- Those that say something. -/
def toldFields : List (String × Value) :=
  [("contract", .text "user"), ("violations", .int 2), ("place", .tuple [.bool true, .null])]

theorem shownFields_toldFields : LogEntry.shownFields toldFields =
    .ok ["contract=user", "violations=2", "place=(True, None)"] := by
  have two : (Value.int 2).display = .ok "2" := by
    rw [Value.display_int, decimalText_eq_ok (not_isOverlong_of_lt (by decide))]
    rfl
  rw [toldFields, LogEntry.shownFields, LogEntry.shownFields, two]
  rfl

theorem jsonable_toldFields : ∀ f ∈ toldFields, Jsonable f.2 := by
  simp only [toldFields, List.forall_mem_cons, List.not_mem_nil, false_implies, implies_true,
    and_true]
  refine ⟨.text "user", .int 2, .sequence rfl ?_⟩
  simp only [List.forall_mem_cons, List.not_mem_nil, false_implies, implies_true, and_true]
  exact ⟨.bool true, .null⟩

theorem object_toldFields {r : LogRecord} (time : r.time = ⟨0, 0⟩)
    (logger : r.logger = "middleware.policy") (level : r.level = 30) (message : String) :
    r.object message toldFields = .map [
      (.text "timestamp", .text "1970-01-01 00:00:00,000"), (.text "level", .text "WARNING"),
      (.text "logger", .text "middleware.policy"), (.text "message", .text message),
      (.text "contract", .text "user"), (.text "violations", .int 2),
      (.text "place", .list [.bool true, .null])] := by
  have stamp : (⟨0, 0⟩ : ClockReading).stamp = "1970-01-01 00:00:00,000" := by decide +kernel
  have warning : LogLevel.textOf 30 = "WARNING" := rfl
  have back : decodedFields toldFields = [("contract", .text "user"), ("violations", .int 2),
    ("place", .list [.bool true, .null])] := rfl
  rw [object, ownFields, time, logger, level, stamp, warning, back]
  simp [overlaidFields, keyed, List.lookup_cons]

/-- A report of two lines is written on one, and is read as it was. -/
theorem twoLines_read_back :
    ∃ r line, Logging.writeFields ⟨0, 0⟩ "middleware.policy" 30 twoLines reportFields
        (.ofFiles default) = ((Logging.ofFiles default).write r, .ok ()) ∧
      r.jsonLine = .ok line ∧ Visible line.toList ∧ JsonText.read line = .ok (.map [
        (.text "timestamp", .text "1970-01-01 00:00:00,000"), (.text "level", .text "WARNING"),
        (.text "logger", .text "middleware.policy"),
        (.text "message", .text (twoLines ++ " [contract=user violations=2 place=(True, None)]")),
        (.text "contract", .text "user"), (.text "violations", .int 2),
        (.text "place", .list [.bool true, .null])]) := by
  obtain ⟨-, -, -, records⟩ := lines_read_back ⟨0, 0⟩ reportFields
  obtain ⟨lines, -⟩ := lines_read_back ⟨0, 0⟩ toldFields
  have free : ∀ f ∈ reportFields, f.1 ∉ Logging.ownParts := by
    simp [reportFields, Logging.ownParts]
  have enabled : (Logging.ofFiles default).isEnabled "middleware.policy" 30 = true := by
    rw [Logging.isEnabled, Logging.levelOf_ofFiles]
    rfl
  have kept : reportFields.filter LogEntry.isPresent = toldFields := rfl
  have each : ∀ f ∈ toldFields, ∃ text, f.2.display = .ok text := by
    intro f mem
    have all := LogEntry.shownFields_eq_ok_iff.mp shownFields_toldFields
    obtain ⟨-, -, text, told, -⟩ := exists_of_forall₂ all f mem
    exact ⟨text, told⟩
  obtain ⟨r, shown, written, time, logger, level, carries, all, message⟩ :=
    (records "middleware.policy" twoLines 30 _ free enabled).2 (kept ▸ each)
  rw [kept] at carries all
  cases shownFields_toldFields.symm.trans (LogEntry.shownFields_eq_ok_iff.mpr all)
  have told : LogEntry.told twoLines ["contract=user", "violations=2", "place=(True, None)"] =
    twoLines ++ " [contract=user violations=2 place=(True, None)]" := by decide +kernel
  have distinct : (toldFields.map (·.1)).Nodup := by decide
  obtain ⟨condition, reads⟩ := lines r _ message carries distinct jsonable_toldFields
  have short : ∀ f ∈ toldFields, ¬f.2.Overlong := by
    intro f mem long
    obtain ⟨text, told⟩ := each f mem
    have hidden : f.2.display = .error .mk :=
      (display_eq_error_iff_of_jsonable (jsonable_toldFields f mem)).mpr long
    cases hidden.symm.trans told
  obtain ⟨line, made⟩ := condition.mpr ⟨by rw [time]; decide +kernel, short⟩
  obtain ⟨visible, read⟩ := reads line made
  refine ⟨r, line, written, made, visible, ?_⟩
  rw [read, object_toldFields time logger level, told]

end LogRecord

end DataContract
