import Mathlib
import PeriodCompare.Proofs.Numerals
import PeriodCompare.Toml.Line

set_option autoImplicit false

namespace PeriodCompare.Toml

open Numeric (isDigit_of_mem_toDigits ne_of_isDigit)

section Counts

variable {digits : List Char}

theorem isDigit_of_digitsFrom {base acc n : Nat} {cs : List Char}
    (read : Numeric.digitsFrom base acc cs = some n) : ∀ c ∈ cs, Numeric.isDigit base c := by
  induction cs generalizing acc with
  | nil => simp
  | cons c cs ih =>
    simp only [Numeric.digitsFrom, Option.bind_eq_bind, Option.bind_eq_some_iff] at read
    obtain ⟨value, digit, later⟩ := read
    intro d member
    rcases List.mem_cons.1 member with rfl | member
    · simp only [Numeric.isDigit, digit, Option.isSome_some]
    · exact ih later d member

theorem isDigit_of_digits? {base n : Nat} {cs : List Char}
    (read : Numeric.digits? base cs = some n) : ∀ c ∈ cs, Numeric.isDigit base c := by
  rw [Numeric.digits?] at read
  split at read
  · cases read
  · exact isDigit_of_digitsFrom read

theorem takeMark?_of_takeField? {rest after : List Char} {count low high n : Nat} {mark : Char}
    (allDigits : ∀ c ∈ digits, c.isDigit) (foreign : mark.isDigit = false) (ne : mark ≠ '\n')
    (taken : takeField? count low high (digits ++ '\n' :: rest) = some (n, after)) :
    takeMark? mark after = none := by
  simp only [takeField?, Option.bind_eq_bind, Option.bind_eq_some_iff] at taken
  obtain ⟨m, read, same⟩ := taken
  split at same <;> cases same
  next full =>
    have within : count ≤ digits.length := by
      by_contra beyond
      have member : '\n' ∈ (digits ++ '\n' :: rest).take count := by
        obtain ⟨k, left⟩ : ∃ k, count - digits.length = k + 1 :=
          Nat.exists_eq_succ_of_ne_zero (by omega)
        rw [List.take_append, left, List.take_succ_cons]
        exact List.mem_append_right _ List.mem_cons_self
      exact absurd (isDigit_of_digits? read _ member) (by decide)
    rw [List.drop_append_of_le_length within]
    cases shown : digits.drop count with
    | nil => simp [takeMark?, Ne.symm ne]
    | cons c more =>
      have inside : c ∈ digits.drop count := by simp [shown]
      have other := ne_of_isDigit (allDigits c (List.mem_of_mem_drop inside)) foreign
      simp [takeMark?, other]

theorem takeDateTime?_of_digits (allDigits : ∀ c ∈ digits, c.isDigit) (rest : List Char) :
    takeDateTime? (digits ++ '\n' :: rest) = none := by
  have date : takeDate? (digits ++ '\n' :: rest) = none := by
    cases year : takeField? 4 0 9999 (digits ++ '\n' :: rest) with
    | none => simp [takeDate?, year]
    | some found =>
      have unmarked : takeMark? '-' found.2 = none :=
        takeMark?_of_takeField? allDigits (by decide) (by decide) year
      simp [takeDate?, year, unmarked]
  have time : takeTime? (digits ++ '\n' :: rest) = none := by
    cases hour : takeField? 2 0 23 (digits ++ '\n' :: rest) with
    | none => simp [takeTime?, hour]
    | some found =>
      have unmarked : takeMark? ':' found.2 = none :=
        takeMark?_of_takeField? allDigits (by decide) (by decide) hour
      simp [takeTime?, hour, unmarked]
  simp [takeDateTime?, date, time]

theorem takeGrouped_of_digits (allDigits : ∀ c ∈ digits, c.isDigit) (rest : List Char) :
    takeGrouped (Numeric.isDigit 10) (digits ++ '\n' :: rest) = (digits, '\n' :: rest) := by
  induction digits with
  | nil => simp [takeGrouped, show Numeric.isDigit 10 '\n' = false by decide]
  | cons c more ih =>
    have digit := allDigits c List.mem_cons_self
    have later := ih fun d member => allDigits d (List.mem_cons_of_mem _ member)
    rw [List.cons_append]
    unfold takeGrouped
    split
    next same => exact absurd (List.cons.inj same).1 (ne_of_isDigit digit (by decide))
    next same =>
      obtain ⟨rfl, rfl⟩ := List.cons.inj same
      simp [Numeric.isDigit_ten digit, later]
    next same => cases same

theorem takeWhole?_toDigits (n : Nat) (rest : List Char) :
    takeWhole? (Nat.toDigits 10 n ++ '\n' :: rest) = some (Nat.toDigits 10 n, '\n' :: rest) := by
  have allDigits : ∀ c ∈ Nat.toDigits 10 n, c.isDigit := fun c => isDigit_of_mem_toDigits
  have grouped := takeGrouped_of_digits allDigits rest
  cases shown : Nat.toDigits 10 n with
  | nil => simp at shown
  | cons c more =>
    rw [shown] at grouped allDigits
    rw [List.cons_append] at grouped ⊢
    unfold takeWhole?
    split
    next same =>
      obtain ⟨rfl, rfl⟩ := List.cons.inj same
      rw [Numeric.eq_nil_of_toDigits_eq_zero_cons shown, List.nil_append]
    next =>
      have digit := Numeric.isDigit_ten (allDigits c List.mem_cons_self)
      simp [takeDigits?, digit, grouped]

theorem takeSign_of_isDigit {c : Char} (digit : c.isDigit) (cs : List Char) :
    takeSign (c :: cs) = (false, c :: cs) := by
  unfold takeSign
  split
  case h_1 same | h_2 same =>
    exact absurd (List.cons.inj same).1 (ne_of_isDigit digit (by decide))
  case h_3 => rfl

theorem exists_cons_toDigits (n : Nat) :
    ∃ c more, Nat.toDigits 10 n = c :: more ∧ c.isDigit := by
  cases shown : Nat.toDigits 10 n with
  | nil => simp at shown
  | cons c more => exact ⟨c, more, rfl, isDigit_of_mem_toDigits (n := n) (by simp [shown])⟩

theorem takeFloat?_toDigits (n : Nat) (rest : List Char) :
    takeFloat? (Nat.toDigits 10 n ++ '\n' :: rest) = none := by
  have whole := takeWhole?_toDigits n rest
  obtain ⟨c, more, shown, digit⟩ := exists_cons_toDigits n
  rw [shown, List.cons_append] at whole ⊢
  simp only [takeFloat?, takeSign_of_isDigit digit]
  split
  case h_1 same | h_2 same =>
    exact absurd (List.cons.inj same).1 (ne_of_isDigit digit (by decide))
  case h_3 => simp [whole, takePoint?, takePower?]

theorem takeInteger?_toDigits {n : Nat} (small : IsCount n) (rest : List Char) :
    takeInteger? (Nat.toDigits 10 n ++ '\n' :: rest) = some (.integer n, '\n' :: rest) := by
  have whole := takeWhole?_toDigits n rest
  -- A base follows a zero, which ends the line here.
  have based {mark : Char} {others : List Char}
      (same : Nat.toDigits 10 n ++ '\n' :: rest = '0' :: mark :: others) : mark = '\n' := by
    obtain ⟨c, more, shown, -⟩ := exists_cons_toDigits n
    rw [shown, List.cons_append] at same
    obtain ⟨rfl, later⟩ := List.cons.inj same
    rw [Numeric.eq_nil_of_toDigits_eq_zero_cons shown] at later
    exact (List.cons.inj later).1.symm
  have fits : minInteger ≤ (n : Int) ∧ (n : Int) ≤ maxInteger := by
    refine ⟨?_, small⟩
    simp only [minInteger]
    omega
  unfold takeInteger?
  split
  case h_1 same | h_2 same | h_3 same => exact absurd (based same) (by decide)
  case h_4 =>
    obtain ⟨c, more, shown, digit⟩ := exists_cons_toDigits n
    rw [shown, List.cons_append] at whole ⊢
    simp only [takeSign_of_isDigit digit, whole]
    rw [← shown]
    simp [Numeric.digits?_toDigits, integer?, fits]

theorem takeNumber?_toDigits {n : Nat} (small : IsCount n) (rest : List Char) :
    takeNumber? (Nat.toDigits 10 n ++ '\n' :: rest) = some (.integer n, '\n' :: rest) := by
  simp only [takeNumber?, takeDateTime?_of_digits fun c => isDigit_of_mem_toDigits,
    takeFloat?_toDigits, takeInteger?_toDigits small, Option.none_or]

end Counts

section Texts

variable {content : List Char}

theorem ne_of_isPlainChar {c : Char} (plain : isPlainChar c) :
    isTextChar c ∧ c ≠ doubleQuote ∧ c ≠ '\\' := by
  simpa [isPlainChar, and_assoc] using plain

theorem takeBasic?_of_isPlainChar (plain : ∀ c ∈ content, isPlainChar c) (rest : List Char)
    (fuel : Nat) (enough : content.length < fuel) :
    takeBasic? fuel (content ++ doubleQuote :: rest) = some (content, rest) := by
  induction content generalizing fuel with
  | nil =>
    cases fuel with
    | zero => simp at enough
    | succ fuel => simp [takeBasic?, doubleQuote]
  | cons c more ih =>
    obtain ⟨readable, unquoted, unescaped⟩ := ne_of_isPlainChar (plain c List.mem_cons_self)
    cases fuel with
    | zero => simp at enough
    | succ fuel =>
      have later := ih (fun d member => plain d (List.mem_cons_of_mem _ member)) fuel
        (by simpa using enough)
      simp [takeBasic?, readable, unquoted, later]

theorem takeString?_of_isPlainChar (plain : ∀ c ∈ content, isPlainChar c) (rest : List Char) :
    takeString? (doubleQuote :: (content ++ doubleQuote :: '\n' :: rest)) =
      some (String.ofList content, '\n' :: rest) := by
  have read := takeBasic?_of_isPlainChar plain ('\n' :: rest)
  -- Two quotes in a row are all of an empty text, as its line ends there.
  have single : ∀ more, content ++ doubleQuote :: '\n' :: rest ≠ '\x22' :: '\x22' :: more := by
    intro more same
    cases content with
    | nil => exact absurd (List.cons.inj (List.cons.inj same).2).1 (by decide)
    | cons c others =>
      exact (ne_of_isPlainChar (plain c List.mem_cons_self)).2.1 (List.cons.inj same).1
  unfold takeString?
  split
  next same => exact absurd (List.cons.inj same).2 (single _)
  next same => exact absurd (List.cons.inj same).1 (by decide)
  next same =>
    obtain ⟨-, rfl⟩ := List.cons.inj same
    rw [read _ (by simp)]
    rfl
  next same => exact absurd (List.cons.inj same).1 (by decide)
  next quoted _ => exact absurd rfl (quoted _)

end Texts

theorem takeValue?_of_start {c : Char} (start : c = doubleQuote ∨ c.isDigit) (fuel depth : Nat)
    (cs : List Char) :
    takeValue? (fuel + 1) (depth + 1) (c :: cs) =
      match takeString? (c :: cs) with
      | some (content, rest) => some (.string content, rest)
      | none => takeNumber? (c :: cs) := by
  have foreign {d : Char} (unquoted : d ≠ doubleQuote) (letter : d.isDigit = false) : c ≠ d := by
    rintro rfl
    simp [unquoted, letter] at start
  conv_lhs => unfold takeValue?
  split
  case h_1 none => cases none
  case h_2 none _ _ | h_3 none _ _ => cases none
  case h_4 same | h_5 same | h_6 same _ | h_7 same _ =>
    exact absurd (List.cons.inj same).1 (foreign (by decide) (by decide))
  case h_8 => rfl

theorem takeString?_of_isDigit {c : Char} (digit : c.isDigit) (cs : List Char) :
    takeString? (c :: cs) = none := by
  unfold takeString?
  split
  case h_1 same | h_2 same | h_3 same | h_4 same =>
    exact absurd (List.cons.inj same).1 (ne_of_isDigit digit (by decide))
  case h_5 => rfl

theorem takeValue?_written {s : Scalar} (plain : s.IsPlain) (fuel depth : Nat) (rest : List Char) :
    takeValue? (fuel + 1) (depth + 1) (s.written.toList ++ '\n' :: rest) =
      some (s.value, '\n' :: rest) := by
  cases s with
  | text content =>
    have spelled : (Scalar.text content).written.toList ++ '\n' :: rest =
        doubleQuote :: (content.toList ++ doubleQuote :: '\n' :: rest) := by
      simp [Scalar.written, doubleQuote]
    rw [spelled, takeValue?_of_start (.inl rfl), takeString?_of_isPlainChar plain]
    simp [Scalar.value]
  | count n =>
    have read := takeNumber?_toDigits plain rest
    obtain ⟨c, more, shown, digit⟩ := exists_cons_toDigits n
    rw [Scalar.written, Numeric.toList_toString]
    rw [shown, List.cons_append] at read ⊢
    rw [takeValue?_of_start (.inr digit), takeString?_of_isDigit digit, read]
    rfl

section Keys

variable {key : String}

theorem exists_cons_of_isBareKey (bare : IsBareKey key) :
    ∃ c more, key.toList = c :: more ∧ ∀ d, isBareKeyChar d = false → c ≠ d := by
  obtain ⟨nonempty, chars⟩ := bare
  cases spelled : key.toList with
  | nil => exact absurd spelled nonempty
  | cons c more =>
    have first : isBareKeyChar c := chars c (by simp [spelled])
    refine ⟨c, more, rfl, ?_⟩
    rintro d foreign rfl
    rw [first] at foreign
    cases foreign

theorem isBareKey_of_all (bare : !key.toList.isEmpty && key.toList.all isBareKeyChar) :
    IsBareKey key := by
  simpa [IsBareKey] using bare

theorem takeSimpleKey?_of_isBareKey (bare : IsBareKey key) {c : Char}
    (stop : isBareKeyChar c = false) (rest : List Char) :
    takeSimpleKey? (key.toList ++ c :: rest) = some (key, c :: rest) := by
  have all := bare.2
  have taken : (key.toList ++ c :: rest).takeWhile isBareKeyChar = key.toList := by
    simp [List.takeWhile_append_of_pos all, stop]
  have left : (key.toList ++ c :: rest).dropWhile isBareKeyChar = c :: rest := by
    simp [List.dropWhile_append_of_pos all, stop]
  obtain ⟨d, more, spelled, foreign⟩ := exists_cons_of_isBareKey bare
  unfold takeSimpleKey?
  split
  case h_1 same | h_2 same =>
    rw [spelled] at same
    exact absurd (List.cons.inj same).1 (foreign _ (by decide))
  case h_3 => simp [taken, left, bare.1]

theorem takeKey?_of_isBareKey (bare : IsBareKey key) {c : Char} (stop : isBareKeyChar c = false)
    (rest : List Char) (undotted : ((c :: rest).dropWhile isSpace).head? ≠ some '.') :
    takeKey? (key.toList ++ c :: rest) = some (([], key), c :: rest) := by
  have read := takeSimpleKey?_of_isBareKey bare stop rest
  have parts (fuel : Nat) :
      takeKeyParts? (fuel + 1) (key.toList ++ c :: rest) = some (([], key), c :: rest) := by
    simp only [takeKeyParts?, read, Option.bind_eq_bind, Option.bind_some]
    split
    case h_1 same => simp [same] at undotted
    case h_2 => rfl
  obtain ⟨fuel, enough⟩ : ∃ fuel, (key.toList ++ c :: rest).length = fuel + 1 :=
    Nat.exists_eq_succ_of_ne_zero (by simp)
  rw [takeKey?, enough, parts]
  rfl

end Keys

section Lines

theorem takeLineEnd?_newline (rest : List Char) : takeLineEnd? ('\n' :: rest) = some rest := rfl

theorem exists_cons_written (s : Scalar) :
    ∃ c more, s.written.toList = c :: more ∧ isSpace c = false := by
  cases s with
  | text content =>
    exact ⟨doubleQuote, content.toList ++ [doubleQuote], by simp [Scalar.written, doubleQuote],
      by decide⟩
  | count n =>
    obtain ⟨c, more, shown, digit⟩ := exists_cons_toDigits n
    refine ⟨c, more, by rw [Scalar.written, Numeric.toList_toString, shown], ?_⟩
    simp only [isSpace, Bool.or_eq_false_iff, beq_eq_false_iff_ne]
    exact ⟨ne_of_isDigit digit (by decide), ne_of_isDigit digit (by decide)⟩

theorem takeValue?_blank {s : Scalar} (plain : s.IsPlain) (fuel : Nat) (rest : List Char) :
    takeValue? (fuel + 1) maxDepth ((' ' :: (s.written.toList ++ '\n' :: rest)).dropWhile isSpace) =
      some (s.value, '\n' :: rest) := by
  obtain ⟨c, more, shown, visible⟩ := exists_cons_written s
  have start : (' ' :: (s.written.toList ++ '\n' :: rest)).dropWhile isSpace =
      s.written.toList ++ '\n' :: rest := by
    rw [List.dropWhile_cons_of_pos (by decide), shown, List.cons_append,
      List.dropWhile_cons_of_neg (by simp [visible])]
  rw [start]
  exact takeValue?_written plain fuel 78 rest

theorem takeLine?_entry (r : Reading) {key : String} (bare : IsBareKey key) {s : Scalar}
    (plain : s.IsPlain) (rest : List Char) :
    takeLine? r ((Line.entry key s).written.toList ++ rest) =
      ((Line.entry key s).addTo? r).map (·, rest) := by
  have spelled : (Line.entry key s).written.toList ++ rest =
      key.toList ++ ' ' :: '=' :: ' ' :: (s.written.toList ++ '\n' :: rest) := by
    simp [Line.written]
  have value := fun (fuel : Nat) => takeValue?_blank plain fuel rest
  rw [spelled]
  generalize s.written.toList ++ '\n' :: rest = text at value ⊢
  have read := takeKey?_of_isBareKey bare (by decide : isBareKeyChar ' ' = false)
    ('=' :: ' ' :: text) (by simp [isSpace])
  have equals : takeMark? '=' ((' ' :: '=' :: ' ' :: text).dropWhile isSpace) =
      some (' ' :: text) := by
    simp [isSpace, takeMark?]
  obtain ⟨fuel, enough⟩ : ∃ fuel, (key.toList ++ ' ' :: '=' :: ' ' :: text).length = fuel + 1 :=
    Nat.exists_eq_succ_of_ne_zero (by simp)
  obtain ⟨c, more, shown, foreign⟩ := exists_cons_of_isBareKey bare
  unfold takeLine?
  split
  case h_1 same | h_2 same | h_3 same =>
    rw [shown] at same
    exact absurd (List.cons.inj same).1 (foreign _ (by decide))
  case h_4 =>
    simp only [read, equals, enough, value, takeLineEnd?_newline, Option.bind_eq_bind,
      Option.bind_some, Line.addTo?]
    cases r.root.addUnder? r.opened [] key s.value <;> rfl

theorem takeLine?_header (r : Reading) {key : String} (bare : IsBareKey key) (rest : List Char) :
    takeLine? r ((Line.header key).written.toList ++ rest) =
      ((Line.header key).addTo? r).map (·, rest) := by
  have spelled : (Line.header key).written.toList ++ rest =
      '[' :: (key.toList ++ ']' :: '\n' :: rest) := by
    simp [Line.written]
  have read := takeKey?_of_isBareKey bare (by decide : isBareKeyChar ']' = false)
    ('\n' :: rest) (by simp [isSpace])
  obtain ⟨c, more, shown, foreign⟩ := exists_cons_of_isBareKey bare
  have start : (key.toList ++ ']' :: '\n' :: rest).dropWhile isSpace =
      key.toList ++ ']' :: '\n' :: rest := by
    rw [shown, List.cons_append, List.dropWhile_cons_of_neg]
    simp [isSpace, foreign ' ' (by decide), foreign '\t' (by decide)]
  have header : takeHeader? (key.toList ++ ']' :: '\n' :: rest) =
      some (([], key), ']' :: '\n' :: rest) := by
    simp [takeHeader?, start, read, isSpace]
  rw [spelled]
  unfold takeLine?
  split
  case h_1 same => exact absurd (List.cons.inj same).1 (by decide)
  case h_2 same =>
    rw [shown] at same
    exact absurd (List.cons.inj (List.cons.inj same).2).1 (foreign _ (by decide))
  case h_3 same =>
    obtain ⟨-, rfl⟩ := List.cons.inj same
    simp only [header, takeMark?, takeLineEnd?_newline, Option.bind_eq_bind, Option.bind_some,
      Line.addTo?, if_true]
    cases r.root.openTable? [] key <;> rfl
  case h_4 opens => exact absurd rfl (opens _)

theorem takeLines?_of_takeLine? (fuel : Nat) (r : Reading) {c : Char} {more : List Char}
    (visible : isSpace c = false) (feed : c ≠ '\n') (carriage : c ≠ '\r') :
    takeLines? (fuel + 1) r (c :: more) =
      (takeLine? r (c :: more)).bind fun taken => takeLines? fuel taken.1 taken.2 := by
  have start : (c :: more).dropWhile isSpace = c :: more :=
    List.dropWhile_cons_of_neg (by simp [visible])
  have unbroken : takeNewline? (c :: more) = none := by
    simp [takeNewline?, feed, carriage]
  rw [takeLines?, start]
  simp only [unbroken, Option.bind_eq_bind]

theorem exists_cons_line {line : Line} (plain : line.IsPlain) :
    ∃ c more, line.written.toList = c :: more ∧ c ≠ '\ufeff' ∧
      (line = .blank ∨ isSpace c = false ∧ c ≠ '\n' ∧ c ≠ '\r') := by
  cases line with
  | blank => exact ⟨'\n', [], rfl, by decide, .inl rfl⟩
  | header key =>
    exact ⟨'[', key.toList ++ [']', '\n'], by simp [Line.written], by decide, .inr (by decide)⟩
  | entry key s =>
    obtain ⟨c, more, shown, foreign⟩ := exists_cons_of_isBareKey plain.1
    refine ⟨c, more ++ (" = " ++ s.written ++ "\n").toList, by simp [Line.written, shown],
      foreign _ (by decide), .inr ⟨?_, foreign _ (by decide), foreign _ (by decide)⟩⟩
    simp [isSpace, foreign ' ' (by decide), foreign '\t' (by decide)]

theorem takeLines?_cons (fuel : Nat) (r : Reading) {line : Line} (plain : line.IsPlain)
    (rest : List Char) :
    takeLines? (fuel + 1) r (line.written.toList ++ rest) =
      (line.addTo? r).bind fun r => takeLines? fuel r rest := by
  obtain ⟨c, more, shown, -, rfl | ⟨visible, feed, carriage⟩⟩ := exists_cons_line plain
  · simp [Line.written, Line.addTo?, takeLines?, isSpace, takeNewline?]
  · have taken : takeLine? r (line.written.toList ++ rest) = (line.addTo? r).map (·, rest) := by
      cases line with
      | blank => exact absurd (List.cons.inj shown).1.symm feed
      | header key => exact takeLine?_header r plain rest
      | entry key s => exact takeLine?_entry r plain.1 plain.2 rest
    rw [shown, List.cons_append] at taken ⊢
    rw [takeLines?_of_takeLine? fuel r visible feed carriage, taken, Option.bind_map]
    rfl

theorem takeLines?_written {lines : List Line} (plain : ∀ line ∈ lines, line.IsPlain)
    (fuel : Nat) (enough : lines.length < fuel) (r : Reading) :
    takeLines? fuel r (lines.flatMap (·.written.toList)) = lines.foldlM Line.addTo? r := by
  induction lines generalizing fuel r with
  | nil =>
    cases fuel with
    | zero => simp at enough
    | succ fuel => rfl
  | cons line lines ih =>
    cases fuel with
    | zero => simp at enough
    | succ fuel =>
      have others := ih (fun line member => plain line (List.mem_cons_of_mem _ member)) fuel
        (by simpa using enough)
      rw [List.flatMap_cons, takeLines?_cons _ _ (plain line List.mem_cons_self), List.foldlM_cons]
      simp only [others, Option.bind_eq_bind]

theorem read?_document {lines : List Line} (plain : ∀ line ∈ lines, line.IsPlain) :
    read? (document lines) = (lines.foldlM Line.addTo? ⟨[], []⟩).map (·.root) := by
  have spelled : (document lines).toList = lines.flatMap (·.written.toList) := by
    simp [document, List.flatMap_map]
  have unmarked : withoutMark (lines.flatMap (·.written.toList)) =
      lines.flatMap (·.written.toList) := by
    cases lines with
    | nil => rfl
    | cons line lines =>
      obtain ⟨c, more, shown, visible, -⟩ := exists_cons_line (plain line List.mem_cons_self)
      rw [List.flatMap_cons, shown, List.cons_append]
      unfold withoutMark
      split
      next same => exact absurd (List.cons.inj same).1 visible
      next => rfl
  have enough : lines.length < (lines.flatMap (·.written.toList)).length + 1 := by
    have visible : ∀ size ∈ lines.map (·.written.toList.length), 1 ≤ size := by
      intro size member
      obtain ⟨line, inside, rfl⟩ := List.mem_map.1 member
      obtain ⟨c, more, shown, -⟩ := exists_cons_line (plain line inside)
      simp [shown]
    have total := List.length_le_sum_of_one_le _ visible
    rw [List.length_map] at total
    rw [List.length_flatMap]
    exact Nat.lt_succ_of_le total
  rw [read?, spelled, unmarked]
  simp only [takeLines?_written plain _ enough]

end Lines

end PeriodCompare.Toml
