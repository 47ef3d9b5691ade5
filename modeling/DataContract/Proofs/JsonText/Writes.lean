/-
Characters that write a value.

Characters write a value if the reader finds the value there and goes on behind it
(`JsonText.Writes`), whatever follows but what would go on with a number; it never needs more fuel
than twice the characters. Texts and integers write what they are. Items between brackets and entries
between braces are read alike, part by part (`JsonText.Marks`), so they write lists and maps, on one
line or each on its own: `JsonText.Writes.list`, `JsonText.Writes.map`.
-/
import DataContract.Proofs.JsonText.Numeral
import DataContract.Proofs.Lists
import DataContract.Proofs.Value.Keys

namespace DataContract

namespace JsonText

/-! ### Blanks -/

section

variable {gap cs : List Char} {c : Char}

theorem skipBlanks_append (blank : ∀ c ∈ gap, isBlank c = true) :
    skipBlanks (gap ++ cs) = skipBlanks cs :=
  List.dropWhile_append_of_pos blank

theorem skipBlanks_cons (visible : isBlank c = false) : skipBlanks (c :: cs) = c :: cs :=
  List.dropWhile_cons_of_neg (by rw [visible]; exact Bool.false_ne_true)

theorem Layout.isBlank_start (l : Layout) (depth : Nat) : ∀ c ∈ l.start depth, isBlank c = true := by
  intro c mem
  cases l with
  | line => cases mem
  | block blanks =>
    rcases List.mem_cons.mp mem with rfl | mem
    · rfl
    · rw [List.eq_of_mem_replicate mem]
      rfl

/-- Between two parts there is a comma, and nothing else but blanks. -/
theorem Layout.exists_comma (l : Layout) (depth : Nat) :
    ∃ gap, l.comma depth = ',' :: gap ∧ ∀ c ∈ gap, isBlank c = true := by
  cases l with
  | line => exact ⟨[' '], rfl, List.forall_mem_singleton.mpr rfl⟩
  | block blanks => exact ⟨_, rfl, Layout.isBlank_start (.block blanks) depth⟩

end

/-! ### What characters write -/

/-- What a number begins with. -/
def numberOpenings : List Char := '-' :: (List.range 10).map Nat.digitChar

/-- What the text of a value begins with. -/
def openings : List Char := ['"', '[', '\x7b', 'n', 't', 'f'] ++ numberOpenings

/-- Characters begin as the text of a value. -/
def Starts (cs : List Char) : Prop := ∃ c tail, cs = c :: tail ∧ c ∈ openings

/-- Characters write a value: the reader finds it there, and goes on behind it if what follows ends a
number. -/
structure Writes (cs : List Char) (v : Value) : Prop where
  starts : Starts cs
  reads : ∀ rest fuel, EndsNumber rest → 2 * cs.length ≤ fuel →
    value fuel (cs ++ rest) = .ok (v, rest)

/-- Characters write an entry of a map, with a text as its key. -/
def WritesEntry (cs : List Char) (e : String × Value) : Prop :=
  ∃ text, cs = string e.1 ++ ':' :: ' ' :: text ∧ Writes text e.2

/-- The key and the value of an entry whose key is a text. -/
def keyed (e : String × Value) : Value × Value := (.text e.1, e.2)

namespace Starts

variable {cs : List Char}

theorem append (h : Starts cs) (more : List Char) : Starts (cs ++ more) := by
  obtain ⟨c, tail, rfl, opening⟩ := h
  exact ⟨c, tail ++ more, rfl, opening⟩

theorem intercalate (h : Starts cs) (separator : List Char) (others : List (List Char)) :
    Starts (separator.intercalate (cs :: others)) := by
  cases others with
  | nil => rwa [List.intercalate_singleton]
  | cons next others =>
    rw [List.intercalate_cons_cons, List.append_assoc]
    exact h.append _

theorem skipBlanks (h : Starts cs) : JsonText.skipBlanks cs = cs := by
  obtain ⟨c, tail, rfl, opening⟩ := h
  have visible : openings.all (!isBlank ·) = true := rfl
  have here := List.all_eq_true.mp visible c opening
  exact skipBlanks_cons ((Bool.not_eq_true' _).mp here)

theorem length_pos (h : Starts cs) : 0 < cs.length := by
  obtain ⟨c, tail, rfl, -⟩ := h
  exact Nat.succ_pos _

end Starts

section

variable {cs text rest : List Char} {v : Value} {e : String × Value} {fuel : Nat}

/-- A word writes the value that it stands for if it is read so with any fuel. -/
theorem Writes.of_reads (starts : Starts cs)
    (reads : ∀ rest fuel, EndsNumber rest → value (fuel + 1) (cs ++ rest) = .ok (v, rest)) :
    Writes cs v := by
  refine ⟨starts, fun rest fuel ends fits => ?_⟩
  have some := starts.length_pos
  obtain ⟨fuel, rfl⟩ : ∃ n, fuel = n + 1 := Nat.exists_eq_succ_of_ne_zero (by omega)
  exact reads rest fuel ends

theorem writes_null : Writes "null".toList .null :=
  .of_reads ⟨'n', _, rfl, by decide⟩ fun _ _ _ => rfl

theorem writes_truth (b : Bool) : Writes (truth b) (.bool b) := by
  cases b with
  | true => exact .of_reads ⟨'t', _, rfl, by decide⟩ fun _ _ _ => rfl
  | false => exact .of_reads ⟨'f', _, rfl, by decide⟩ fun _ _ _ => rfl

theorem numeral_opens (n : Int) : ∃ c tail, numeral n = c :: tail ∧ c ∈ numberOpenings := by
  obtain ⟨d, ds, whole, -⟩ := exists_toDigits n.natAbs
  obtain ⟨k, small, digit⟩ : ∃ k < 10, d = Nat.digitChar k :=
    exists_digit_of_mem_toDigits (by decide) (whole ▸ List.mem_cons_self)
  have opens : d ∈ (List.range 10).map Nat.digitChar :=
    List.mem_map.mpr ⟨k, List.mem_range.mpr small, digit.symm⟩
  rw [numeral, whole]
  cases decide (n < 0) with
  | true => exact ⟨'-', d :: ds, rfl, List.mem_cons_self⟩
  | false => exact ⟨d, ds, rfl, List.mem_cons_of_mem _ opens⟩

/-- What begins as a number is read as one, or as a word. -/
theorem value_number {c : Char} (opens : c ∈ numberOpenings) (tail : List Char) :
    value (fuel + 1) (c :: tail) = scalar (c :: tail) := by
  have plain : numberOpenings.all (fun c => c ≠ '"' ∧ c ≠ '[' ∧ c ≠ '\x7b') = true := rfl
  obtain ⟨quote, bracket, brace⟩ := of_decide_eq_true (List.all_eq_true.mp plain c opens)
  rw [value, if_neg quote, if_neg bracket, if_neg brace]

theorem writes_int {n : Int} (short : ¬IsOverlong n) : Writes (numeral n) (.int n) := by
  obtain ⟨c, tail, whole, opens⟩ := numeral_opens n
  refine .of_reads ⟨c, tail, whole, List.mem_append_right _ opens⟩ fun rest fuel ends => ?_
  have begins : numeral n ++ rest = c :: (tail ++ rest) := by rw [whole, List.cons_append]
  rw [begins, value_number opens, ← begins]
  exact scalar_numeral short ends

theorem string_append (s : String) : string s ++ rest =
    '"' :: (s.toList.flatMap escaped ++ '"' :: rest) := by
  rw [string, List.cons_append, List.append_assoc]
  rfl

theorem writes_string (s : String) : Writes (string s) (.text s) := by
  refine .of_reads ⟨'"', _, rfl, by decide⟩ fun rest fuel _ => ?_
  rw [string_append]
  simp only [value, if_true, stringAfterQuote_string, bind, Except.bind]
  rfl

theorem entryKey_string (s : String) (h : Writes text v) :
    entryKey (string s ++ ':' :: ' ' :: (text ++ rest)) = .ok (s, text ++ rest) := by
  have colon : JsonText.skipBlanks (':' :: ' ' :: (text ++ rest)) = ':' :: ' ' :: (text ++ rest) :=
    rfl
  have blank : JsonText.skipBlanks (' ' :: (text ++ rest)) = text ++ rest :=
    (h.starts.append rest).skipBlanks
  rw [string_append]
  simp only [entryKey, stringAfterQuote_string, bind, Except.bind, colon, blank]
  rfl

end

/-! ### One step of the reader -/

section

variable {cs left more rest : List Char} {c : Char} {v : Value} {vs : List Value} {k : String}
  {es : List (Value × Value)} {fuel : Nat}

theorem items_last (first : value fuel cs = .ok (v, left)) (closed : skipBlanks left = ']' :: rest) :
    items (fuel + 1) cs = .ok ([v], rest) := by
  simp only [items, first, bind, Except.bind, closed]
  rfl

theorem items_more (first : value fuel cs = .ok (v, left)) (comma : skipBlanks left = ',' :: more)
    (behind : items fuel (skipBlanks more) = .ok (vs, rest)) :
    items (fuel + 1) cs = .ok (v :: vs, rest) := by
  simp only [items, first, bind, Except.bind, comma, behind]
  rfl

theorem entries_last (key : entryKey cs = .ok (k, more)) (first : value fuel more = .ok (v, left))
    (closed : skipBlanks left = '\x7d' :: rest) :
    entries (fuel + 1) cs = .ok ([(.text k, v)], rest) := by
  simp only [entries, key, first, bind, Except.bind, closed]
  rfl

theorem entries_more {after : List Char} (key : entryKey cs = .ok (k, more))
    (first : value fuel more = .ok (v, left)) (comma : skipBlanks left = ',' :: after)
    (behind : entries fuel (skipBlanks after) = .ok (es, rest)) :
    entries (fuel + 1) cs = .ok ((.text k, v) :: es, rest) := by
  simp only [entries, key, first, bind, Except.bind, comma, behind]
  rfl

theorem value_list (inside : skipBlanks cs = more) (starts : Starts more)
    (behind : items fuel more = .ok (vs, rest)) :
    value (fuel + 1) ('[' :: cs) = .ok (.list vs, rest) := by
  have bracket : '[' ≠ '"' := by decide
  obtain ⟨c, tail, rfl, opening⟩ := starts
  simp only [value, if_neg bracket, if_true, inside]
  -- a value does not begin with the closing bracket
  split
  case h_1 same =>
    cases (List.cons.inj same).1
    exact absurd opening (by decide)
  case h_2 =>
    simp only [behind, bind, Except.bind]
    rfl

theorem value_map (inside : skipBlanks cs = more) (starts : Starts more)
    (behind : entries fuel more = .ok (es, rest)) :
    value (fuel + 1) ('\x7b' :: cs) = .ok (.map (Value.ofEntries es), rest) := by
  have brace : '\x7b' ≠ '"' ∧ '\x7b' ≠ '[' := by decide
  obtain ⟨c, tail, rfl, opening⟩ := starts
  simp only [value, if_neg brace.1, if_neg brace.2, if_true, inside]
  split
  case h_1 same =>
    cases (List.cons.inj same).1
    exact absurd opening (by decide)
  case h_2 =>
    simp only [behind, bind, Except.bind]
    rfl

end

/-! ### Parts between marks -/

theorem WritesEntry.starts {cs : List Char} {e : String × Value} (h : WritesEntry cs e) :
    Starts cs := by
  obtain ⟨text, rfl, -⟩ := h
  exact (writes_string e.1).starts.append _

/-- How the reader goes through what stands between two marks: part by part with a loop, which gives
what it sees in each, and from these it makes a value. -/
structure Marks {α β : Type} (opening closing : Char) (WritesPart : List Char → α → Prop)
    (seen : α → β) (loop : Nat → List Char → Except JsonReadFault (WithRest (List β)))
    (make : List β → Value) : Prop where
  opens : opening ∈ openings
  closes : isBlank closing = false
  starts {cs : List Char} {a : α} : WritesPart cs a → Starts cs
  last {cs left rest : List Char} {a : α} {fuel : Nat} : WritesPart cs a → 2 * cs.length ≤ fuel →
    skipBlanks left = closing :: rest → loop (fuel + 1) (cs ++ left) = .ok ([seen a], rest)
  more {cs left after rest : List Char} {a : α} {bs : List β} {fuel : Nat} : WritesPart cs a →
    2 * cs.length ≤ fuel → skipBlanks left = ',' :: after →
    loop fuel (skipBlanks after) = .ok (bs, rest) →
    loop (fuel + 1) (cs ++ left) = .ok (seen a :: bs, rest)
  empty (rest : List Char) (fuel : Nat) :
    value (fuel + 1) (opening :: closing :: rest) = .ok (make [], rest)
  filled {cs inside rest : List Char} {bs : List β} {fuel : Nat} : skipBlanks cs = inside →
    Starts inside → loop fuel inside = .ok (bs, rest) →
    value (fuel + 1) (opening :: cs) = .ok (make bs, rest)

/-- A mark behind a part ends a number. -/
theorem endsNumber_of_mark {left more : List Char} {mark : Char}
    (h : skipBlanks left = mark :: more) (ends : continuesNumber mark = false) : EndsNumber left :=
  .of_skipBlanks (h ▸ endsNumber_cons_iff.mpr ends)

/-- Between brackets stand items. -/
theorem marks_list : Marks '[' ']' Writes id items .list where
  opens := by decide
  closes := by decide
  starts h := h.starts
  last h fits closed := items_last (h.reads _ _ (endsNumber_of_mark closed rfl) fits) closed
  more h fits comma behind :=
    items_more (h.reads _ _ (endsNumber_of_mark comma rfl) fits) comma behind
  empty _ _ := rfl
  filled inside starts behind := value_list inside starts behind

/-- Between braces stand entries. -/
theorem marks_map : Marks '\x7b' '\x7d' WritesEntry keyed entries
    fun es => .map (Value.ofEntries es) where
  opens := by decide
  closes := by decide
  starts h := h.starts
  last := by
    rintro _ left rest e fuel ⟨text, rfl, first⟩ fits closed
    simp only [List.length_append, List.length_cons] at fits
    simp only [List.append_assoc, List.cons_append]
    have value := first.reads left fuel (endsNumber_of_mark closed rfl) (by omega)
    exact entries_last (entryKey_string e.1 first) value closed
  more := by
    rintro _ left after rest e es fuel ⟨text, rfl, first⟩ fits comma behind
    simp only [List.length_append, List.length_cons] at fits
    simp only [List.append_assoc, List.cons_append]
    have value := first.reads left fuel (endsNumber_of_mark comma rfl) (by omega)
    exact entries_more (entryKey_string e.1 first) value comma behind
  empty _ _ := rfl
  filled inside starts behind := value_map inside starts behind

/-- What stands between the marks around parts. -/
theorem Layout.around_cons (l : Layout) (depth : Nat) (opening closing : Char) (part : List Char)
    (parts : List (List Char)) : l.around depth opening closing (part :: parts) =
      opening :: (l.start (depth + 1) ++ ((l.comma (depth + 1)).intercalate (part :: parts) ++
        (l.start depth ++ [closing]))) := by
  rw [around, if_neg (by simp), List.append_assoc, List.append_assoc]

namespace Marks

variable {α β : Type} {opening closing : Char} {WritesPart : List Char → α → Prop} {seen : α → β}
  {loop : Nat → List Char → Except JsonReadFault (WithRest (List β))} {make : List β → Value}
  {parts : List (List Char)} {xs : List α} {gap trail rest : List Char} {fuel : Nat}

/-- The loop sees all parts that stand between commas, and stops behind the closing mark. -/
theorem loop_intercalate (m : Marks opening closing WritesPart seen loop make)
    (written : List.Forall₂ WritesPart parts xs) (some : parts ≠ [])
    (gaps : ∀ c ∈ gap, isBlank c = true) (trails : ∀ c ∈ trail, isBlank c = true)
    (fits : 2 * ((',' :: gap).intercalate parts).length < fuel) :
    loop fuel ((',' :: gap).intercalate parts ++ (trail ++ closing :: rest)) =
      .ok (xs.map seen, rest) := by
  -- each turn of the loop takes one unit of fuel, and each part leaves at least the comma behind it
  induction written generalizing fuel with
  | nil => exact absurd rfl some
  | @cons part x parts xs first later ih =>
    obtain ⟨fuel, rfl⟩ := Nat.exists_eq_succ_of_ne_zero (Nat.ne_zero_of_lt fits)
    cases later with
    | nil =>
      rw [List.intercalate_singleton] at fits ⊢
      refine m.last first (by omega) ?_
      rw [skipBlanks_append trails]
      exact skipBlanks_cons m.closes
    | @cons next y parts ys second later =>
      rw [List.intercalate_cons_cons] at fits ⊢
      simp only [List.length_append, List.length_cons] at fits
      simp only [List.append_assoc, List.cons_append]
      refine m.more first (by omega) (skipBlanks_cons (by decide)) ?_
      have behind : Starts ((',' :: gap).intercalate (next :: parts) ++
          (trail ++ closing :: rest)) := ((m.starts second).intercalate _ _).append _
      rw [skipBlanks_append gaps, behind.skipBlanks]
      exact ih (List.cons_ne_nil _ _) (by omega)

/-- Parts between marks write what is made from them, in any layout. -/
theorem writes (m : Marks opening closing WritesPart seen loop make) (l : Layout) (depth : Nat)
    (written : List.Forall₂ WritesPart parts xs) :
    Writes (l.around depth opening closing parts) (make (xs.map seen)) := by
  cases written with
  | nil => exact .of_reads ⟨opening, [closing], rfl, m.opens⟩ fun rest fuel _ => m.empty rest fuel
  | @cons part x parts xs first later =>
    obtain ⟨gap, comma, gaps⟩ := l.exists_comma (depth + 1)
    rw [l.around_cons, comma]
    refine ⟨⟨opening, _, rfl, m.opens⟩, fun rest fuel _ fits => ?_⟩
    simp only [List.length_cons, List.length_append] at fits
    obtain ⟨fuel, rfl⟩ : ∃ n, fuel = n + 1 := Nat.exists_eq_succ_of_ne_zero (by omega)
    have inside : Starts ((',' :: gap).intercalate (part :: parts) ++
        (l.start depth ++ closing :: rest)) := ((m.starts first).intercalate _ _).append _
    have behind : loop fuel ((',' :: gap).intercalate (part :: parts) ++
        (l.start depth ++ closing :: rest)) = .ok ((x :: xs).map seen, rest) :=
      m.loop_intercalate (.cons first later) (List.cons_ne_nil _ _) gaps (l.isBlank_start depth)
        (by omega)
    simp only [List.cons_append, List.append_assoc, List.nil_append]
    refine m.filled ?_ inside behind
    rw [skipBlanks_append (l.isBlank_start _), inside.skipBlanks]

end Marks

/-! ### Lists and maps -/

section

variable {parts : List (List Char)} {vs : List Value} {es : List (String × Value)}

/-- Parts that write values write the list of them. -/
theorem Writes.list (l : Layout) (depth : Nat) (h : List.Forall₂ Writes parts vs) :
    Writes (l.around depth '[' ']' parts) (.list vs) := by
  have whole := marks_list.writes l depth h
  rwa [List.map_id] at whole

theorem insert_keyed {e : String × Value} (fresh : e.1 ∉ es.map (·.1)) :
    Value.insert (es.map keyed) (.text e.1) e.2 = (es ++ [e]).map keyed := by
  have absent : ¬(es.map keyed).any (fun d => Value.text e.1 == d.1) = true := by
    intro found
    obtain ⟨_, mem, same⟩ := List.any_eq_true.mp found
    obtain ⟨d, there, rfl⟩ := List.mem_map.mp mem
    have key : d.1 = e.1 := Option.some.inj ((Value.beq_iff_of_text rfl).mp same)
    exact fresh (key ▸ List.mem_map_of_mem there)
  rw [Value.insert, if_neg absent, List.map_append]
  rfl

/-- Entries are put one by one behind those that are there. -/
theorem foldl_insert_keyed {before : List (String × Value)}
    (distinct : ((before ++ es).map (·.1)).Nodup) :
    (es.map keyed).foldl (fun es e => Value.insert es e.1 e.2) (before.map keyed) =
      (before ++ es).map keyed := by
  induction es generalizing before with
  | nil => rw [List.append_nil, List.map_nil, List.foldl_nil]
  | cons e es ih =>
    have fresh : e.1 ∉ before.map (·.1) := by
      rw [List.map_append, List.map_cons, List.nodup_append] at distinct
      exact fun mem => distinct.2.2 _ mem _ List.mem_cons_self rfl
    rw [List.map_cons, List.foldl_cons]
    show List.foldl _ (Value.insert _ (.text e.1) e.2) _ = _
    rw [List.append_cons] at distinct ⊢
    rw [insert_keyed fresh]
    exact ih distinct

/-- A map with text keys that are all different is the same once it is put together. -/
theorem ofEntries_keyed (distinct : (es.map (·.1)).Nodup) :
    Value.ofEntries (es.map keyed) = es.map keyed :=
  @foldl_insert_keyed es [] distinct

/-- Parts that write entries with different keys write the map of them. -/
theorem Writes.map (l : Layout) (depth : Nat) (h : List.Forall₂ WritesEntry parts es)
    (distinct : (es.map (·.1)).Nodup) :
    Writes (l.around depth '\x7b' '\x7d' parts) (.map (es.map keyed)) := by
  rw [← ofEntries_keyed distinct]
  exact marks_map.writes l depth h

end

end JsonText

end DataContract
