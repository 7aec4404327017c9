import Mathlib
import PeriodCompare.Proofs.Numerals
import PeriodCompare.Time.DurationText

set_option autoImplicit false

namespace PeriodCompare.Duration

structure Part where
  count : Nat
  name : String
  unit : NamedUnit
  count_lt : count < limit
  named : unit? name.toList = some unit

def Part.text (p : Part) : String :=
  toString p.count ++ p.name

def Part.addTo (p : Part) (d : Duration) : Option Duration :=
  d.addWhole? p.count p.unit

def textOf (parts : List Part) : String :=
  " ".intercalate (parts.map Part.text)

section Reading

theorem spelled_of_listed : ∀ entry ∈ unitNames, ∀ name ∈ entry.1, name.toList ≠ [] ∧
    name.toList.all fun c => isUnitChar c && !isCountChar c := by
  decide

theorem spelled_of_unit? {name : List Char} {unit : NamedUnit} (named : unit? name = some unit) :
    name ≠ [] ∧ ∀ c ∈ name, isUnitChar c = true ∧ isCountChar c = false := by
  obtain ⟨entry, found, -⟩ := Option.map_eq_some_iff.1 named
  have listed := List.mem_of_find?_eq_some found
  have holds := List.find?_some found
  obtain ⟨spelling, member, same⟩ := List.any_eq_true.1 holds
  obtain rfl : spelling.toList = name := by simpa using same
  obtain ⟨nonempty, letters⟩ := spelled_of_listed entry listed spelling member
  refine ⟨nonempty, fun c inside => ?_⟩
  simpa using List.all_eq_true.1 letters c inside

theorem isCountChar_of_mem_toDigits {n : Nat} {c : Char} (member : c ∈ Nat.toDigits 10 n) :
    isCountChar c = true := by
  simp only [isCountChar, Numeric.isDigit_of_mem_toDigits member, Bool.true_or]

theorem takeCount_append {n : Nat} {rest : List Char}
    (stops : rest.head?.all fun c => !isCountChar c) :
    takeCount (Nat.toDigits 10 n ++ rest) = (Nat.toDigits 10 n, rest) := by
  have counts : ∀ c ∈ Nat.toDigits 10 n, isCountChar c := fun c => isCountChar_of_mem_toDigits
  have digits : (Nat.toDigits 10 n).filter Char.isDigit = Nat.toDigits 10 n :=
    List.filter_eq_self.2 fun c => Numeric.isDigit_of_mem_toDigits
  rw [takeCount, List.takeWhile_append_of_pos counts, List.dropWhile_append_of_pos counts]
  cases rest with
  | nil => simp [digits]
  | cons c rest =>
    have stop : isCountChar c = false := by simpa using stops
    simp [stop, digits]

theorem takePart?_append (p : Part) (d : Duration) (rest : List Char)
    (follows : rest.head?.all (· == ' ')) :
    takePart? d (p.text.toList ++ rest) = (p.addTo d).map (·, rest) := by
  obtain ⟨nonempty, letters⟩ := spelled_of_unit? p.named
  have units : ∀ c ∈ p.name.toList, isUnitChar c := fun c member => (letters c member).1
  have counted : takeCount (Nat.toDigits 10 p.count ++ (p.name.toList ++ rest)) =
      (Nat.toDigits 10 p.count, p.name.toList ++ rest) := by
    refine takeCount_append ?_
    cases spelled : p.name.toList with
    | nil => exact absurd spelled nonempty
    | cons c more =>
      have first := (letters c (by simp [spelled])).2
      simp [first]
  have whole : takeFraction? (p.name.toList ++ rest) = some (none, p.name.toList ++ rest) := by
    cases spelled : p.name.toList with
    | nil => exact absurd spelled nonempty
    | cons c more =>
      have first := (letters c (by simp [spelled])).1
      rw [List.cons_append]
      unfold takeFraction?
      split
      next same =>
        cases same
        exact absurd first (by decide)
      next => rfl
  have named : (p.name.toList ++ rest).takeWhile isUnitChar = p.name.toList ∧
      (p.name.toList ++ rest).dropWhile isUnitChar = rest := by
    rw [List.takeWhile_append_of_pos units, List.dropWhile_append_of_pos units]
    cases rest with
    | nil => simp
    | cons c rest =>
      obtain rfl : c = ' ' := by simpa using follows
      simp [show isUnitChar ' ' = false by decide]
  have goes : rest.head?.all isCountChar := by
    cases rest with
    | nil => rfl
    | cons c rest =>
      obtain rfl : c = ' ' := by simpa using follows
      simp [show isCountChar ' ' = true by decide]
  have small : small? p.count = some p.count := if_pos p.count_lt
  rw [Part.text, String.toList_append, Numeric.toList_toString, List.append_assoc]
  simp only [takePart?, counted, Numeric.digits?_toDigits, small, whole, named.1, named.2, p.named,
    goes, Option.bind_eq_bind, Option.bind_some, if_true]
  rw [Part.addTo]
  cases d.addWhole? p.count p.unit <;> rfl

theorem isBlank_of_isDigit {c : Char} (digit : c.isDigit) : Text.isBlank c = false := by
  obtain ⟨low, high⟩ := Numeric.toNat_of_isDigit digit
  simp [Text.isBlank, Text.inRanges, Text.blankRanges]
  omega

theorem exists_cons_text (p : Part) :
    ∃ c rest, p.text.toList = c :: rest ∧ Text.isBlank c = false := by
  rw [Part.text, String.toList_append, Numeric.toList_toString]
  cases digits : Nat.toDigits 10 p.count with
  | nil => simp at digits
  | cons c rest =>
    have digit : c.isDigit := Numeric.isDigit_of_mem_toDigits (n := p.count) (by simp [digits])
    exact ⟨c, rest ++ p.name.toList, rfl, isBlank_of_isDigit digit⟩

theorem textOf_singleton (p : Part) : (textOf [p]).toList = p.text.toList := by
  simp [textOf]

theorem textOf_cons (p q : Part) (parts : List Part) :
    (textOf (p :: q :: parts)).toList = p.text.toList ++ ' ' :: (textOf (q :: parts)).toList := by
  simp [textOf, String.toList_intercalate, List.intercalate]

theorem exists_cons_textOf (p : Part) (parts : List Part) :
    ∃ c rest, (textOf (p :: parts)).toList = c :: rest ∧ Text.isBlank c = false := by
  obtain ⟨c, rest, same, visible⟩ := exists_cons_text p
  cases parts with
  | nil => exact ⟨c, rest, by rw [textOf_singleton, same], visible⟩
  | cons q parts => exact ⟨c, _, by rw [textOf_cons, same, List.cons_append], visible⟩

theorem takeParts?_blank (fuel : Nat) (d : Duration) (cs : List Char) :
    takeParts? fuel d (' ' :: cs) = takeParts? fuel d cs := by
  cases fuel with
  | zero => rfl
  | succ fuel => simp [takeParts?, show Text.isBlank ' ' = true by decide]

theorem takeParts?_textOf (p : Part) (parts : List Part) (d : Duration) {fuel : Nat}
    (enough : (textOf (p :: parts)).toList.length ≤ fuel) :
    takeParts? fuel d (textOf (p :: parts)).toList =
      (p :: parts).foldlM (fun d p => p.addTo d) d := by
  induction parts generalizing p d fuel with
  | nil =>
    obtain ⟨c, rest, same, visible⟩ := exists_cons_text p
    have read := takePart?_append p d [] rfl
    rw [List.append_nil] at read
    rw [textOf_singleton] at enough ⊢
    cases fuel with
    | zero => simp [same] at enough
    | succ fuel =>
      have start : p.text.toList.dropWhile Text.isBlank = p.text.toList := by
        simp [same, visible]
      simp only [takeParts?, start, read, List.foldlM_cons, List.foldlM_nil]
      cases p.addTo d <;> rfl
  | cons q parts ih =>
    obtain ⟨c, rest, same, visible⟩ := exists_cons_text p
    obtain ⟨e, others, later, shown⟩ := exists_cons_textOf q parts
    have read := takePart?_append p d (' ' :: (textOf (q :: parts)).toList) rfl
    rw [textOf_cons] at enough ⊢
    cases fuel with
    | zero => simp [same] at enough
    | succ fuel =>
      have start : (p.text.toList ++ ' ' :: (textOf (q :: parts)).toList).dropWhile Text.isBlank =
          p.text.toList ++ ' ' :: (textOf (q :: parts)).toList := by
        simp [same, visible]
      have more : (' ' :: (textOf (q :: parts)).toList).all Text.isBlank = false := by
        simp [later, shown]
      have fits : (textOf (q :: parts)).toList.length ≤ fuel := by
        simp only [List.length_append, List.length_cons] at enough
        omega
      rw [takeParts?, start, read, List.foldlM_cons]
      cases p.addTo d with
      | none => rfl
      | some sum =>
        simp only [Option.map_some, Option.bind_eq_bind, Option.bind_some, more, takeParts?_blank]
        exact ih q sum fits

end Reading

section Adding

variable {secs nanos : Nat} {rest : Duration → Option Duration}

theorem make?_addWhole?_seconds (count each : Nat) (proper : nanos < nanosPerSecond) :
    ((make? secs nanos).bind fun d => (d.addWhole? count (.seconds each)).bind rest) =
      (make? (secs + count * each) nanos).bind rest := by
  have small : nanos < limit := by
    simp only [nanosPerSecond, limit] at proper ⊢
    omega
  by_cases fits : secs < limit
  · have made : make? secs nanos = some ⟨secs, nanos, fits, proper⟩ := dif_pos ⟨fits, proper⟩
    by_cases whole : count * each < limit
    · simp [made, addWhole?, plus?, small?, whole, small, Nat.div_eq_of_lt proper,
        Nat.mod_eq_of_lt proper]
    · have beyond : make? (secs + count * each) nanos = none := dif_neg fun h => whole (by
        simp only [limit]
        omega)
      simp [made, addWhole?, small?, whole, beyond]
  · have before : make? secs nanos = none := dif_neg fun h => fits h.1
    have after : make? (secs + count * each) nanos = none := dif_neg fun h => fits (by
      simp only [limit]
      omega)
    simp [before, after]

theorem make?_addWhole?_nanos (count each : Nat) (proper : nanos + count * each < nanosPerSecond) :
    ((make? secs nanos).bind fun d => (d.addWhole? count (.nanos each)).bind rest) =
      (make? secs (nanos + count * each)).bind rest := by
  have small : nanos + count * each < limit := by
    simp only [nanosPerSecond, limit] at proper ⊢
    omega
  have whole : count * each < limit := by omega
  by_cases fits : secs < limit
  · have made : make? secs nanos = some ⟨secs, nanos, fits, by omega⟩ := dif_pos ⟨fits, by omega⟩
    simp [made, addWhole?, plus?, small?, whole, small, Nat.div_eq_of_lt proper,
      Nat.mod_eq_of_lt proper]
  · have before (n : Nat) : make? secs n = none := dif_neg fun h => fits h.1
    simp [before]

end Adding

section Writing

def Part.plural (count : Nat) (name : String) (unit : NamedUnit) (count_lt : count < limit)
    (one : unit? name.toList = some unit) (many : unit? (name ++ "s").toList = some unit) : Part :=
  ⟨count, if 1 < count then name ++ "s" else name, unit, count_lt, by split <;> assumption⟩

theorem lt_limit_of_le_secs (d : Duration) {n : Nat} (le : n ≤ d.secs) : n < limit :=
  Nat.lt_of_le_of_lt le d.secs_lt

theorem lt_limit_of_le_nanos (d : Duration) {n : Nat} (le : n ≤ d.nanos) : n < limit := by
  have proper := d.nanos_lt
  simp only [nanosPerSecond, limit] at proper ⊢
  omega

def amounts (d : Duration) : List Part :=
  let afterYears := d.secs % 31557600
  let afterMonths := afterYears % 2630016
  let ofDay := afterMonths % 86400
  [.plural (d.secs / 31557600) "year" (.seconds 31557600) (d.lt_limit_of_le_secs (by omega))
      (by decide) (by decide),
    .plural (afterYears / 2630016) "month" (.seconds 2630016) (d.lt_limit_of_le_secs (by omega))
      (by decide) (by decide),
    .plural (afterMonths / 86400) "day" (.seconds 86400) (d.lt_limit_of_le_secs (by omega))
      (by decide) (by decide),
    ⟨ofDay / 3600, "h", .seconds 3600, d.lt_limit_of_le_secs (by omega), by decide⟩,
    ⟨ofDay % 3600 / 60, "m", .seconds 60, d.lt_limit_of_le_secs (by omega), by decide⟩,
    ⟨ofDay % 60, "s", .seconds 1, d.lt_limit_of_le_secs (by omega), by decide⟩,
    ⟨d.nanos / 1000000, "ms", .nanos 1000000, d.lt_limit_of_le_nanos (by omega), by decide⟩,
    ⟨d.nanos / 1000 % 1000, "us", .nanos 1000, d.lt_limit_of_le_nanos (by omega), by decide⟩,
    ⟨d.nanos % 1000, "ns", .nanos 1, d.lt_limit_of_le_nanos (by omega), by decide⟩]

theorem make?_fields (d : Duration) : make? d.secs d.nanos = some d :=
  dif_pos ⟨d.secs_lt, d.nanos_lt⟩

theorem foldlM_amounts (d : Duration) :
    d.amounts.foldlM (fun d p => p.addTo d) zero = some d := by
  have start (f : Duration → Option Duration) : f zero = (make? 0 0).bind f := rfl
  have positive : 0 < nanosPerSecond := by decide
  have proper := d.nanos_lt
  rw [start (fun z => List.foldlM _ z _)]
  simp only [amounts, List.foldlM_cons, List.foldlM_nil, Part.addTo, Part.plural,
    Option.bind_eq_bind, make?_addWhole?_seconds _ _ positive]
  rw [make?_addWhole?_nanos _ _ (by omega), make?_addWhole?_nanos _ _ (by omega),
    make?_addWhole?_nanos _ _ (by omega)]
  have secs : d.secs = 0 + d.secs / 31557600 * 31557600 + d.secs % 31557600 / 2630016 * 2630016 +
      d.secs % 31557600 % 2630016 / 86400 * 86400 +
      d.secs % 31557600 % 2630016 % 86400 / 3600 * 3600 +
      d.secs % 31557600 % 2630016 % 86400 % 3600 / 60 * 60 +
      d.secs % 31557600 % 2630016 % 86400 % 60 * 1 := by
    omega
  have nanos : d.nanos = 0 + d.nanos / 1000000 * 1000000 + d.nanos / 1000 % 1000 * 1000 +
      d.nanos % 1000 * 1 := by
    omega
  rw [← secs, ← nanos, make?_fields]
  rfl

def shown (d : Duration) : List Part :=
  d.amounts.filter (0 < ·.count)

theorem addTo_of_count_eq_zero {p : Part} (none : p.count = 0) (d : Duration) :
    p.addTo d = some d := by
  have positive : 0 < limit := by decide
  have small := d.lt_limit_of_le_nanos (Nat.le_refl _)
  rw [Part.addTo, none]
  cases p.unit <;>
    simp [addWhole?, plus?, small?, positive, small, Nat.div_eq_of_lt d.nanos_lt,
      Nat.mod_eq_of_lt d.nanos_lt, make?_fields]

theorem foldlM_filter_count (parts : List Part) (d : Duration) :
    (parts.filter (0 < ·.count)).foldlM (fun d p => p.addTo d) d =
      parts.foldlM (fun d p => p.addTo d) d := by
  induction parts generalizing d with
  | nil => rfl
  | cons p parts ih =>
    by_cases counts : 0 < p.count
    · rw [List.filter_cons_of_pos (by simpa using counts)]
      simp only [List.foldlM_cons, ih]
    · rw [List.filter_cons_of_neg (by simpa using counts), ih, List.foldlM_cons,
        addTo_of_count_eq_zero (by omega)]
      rfl

theorem map_text_filter (parts : List Part) :
    (parts.filter (0 < ·.count)).map Part.text =
      parts.flatMap fun p => writtenPart p.count p.name := by
  induction parts with
  | nil => rfl
  | cons p parts ih =>
    by_cases counts : 0 < p.count
    · rw [List.filter_cons_of_pos (by simpa using counts), List.map_cons, ih, List.flatMap_cons,
        writtenPart, if_neg (by omega)]
      rfl
    · rw [List.filter_cons_of_neg (by simpa using counts), ih, List.flatMap_cons, writtenPart,
        if_pos (by omega)]
      rfl

theorem writtenParts_eq (d : Duration) : d.writtenParts = d.shown.map Part.text := by
  rw [shown, map_text_filter]
  simp [writtenParts, amounts, plural, Part.plural]

theorem written_eq (d : Duration) :
    d.written = if d.shown = [] then "0s" else textOf d.shown := by
  rw [written, writtenParts_eq]
  cases d.shown <;> rfl

theorem read?_written (d : Duration) : read? d.written = some d := by
  have adds : d.shown.foldlM (fun d p => p.addTo d) zero = some d := by
    rw [shown, foldlM_filter_count, foldlM_amounts]
  rw [written_eq]
  cases same : d.shown with
  | nil =>
    rw [same] at adds
    cases adds
    decide
  | cons p parts =>
    have taken := takeParts?_textOf p parts zero (Nat.le_refl _)
    rw [← same, adds, same, String.length_toList] at taken
    -- A lone zero is read apart from the numbers with units.
    have ne : textOf (p :: parts) ≠ "0" := by
      intro lone
      have unitless : takeParts? "0".length zero "0".toList = none := by decide
      rw [lone, unitless] at taken
      cases taken
    exact (if_neg ne).trans taken

end Writing

end PeriodCompare.Duration
