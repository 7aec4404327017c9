import Mathlib
import PeriodCompare.Proofs.Checked
import PeriodCompare.Proofs.Document
import PeriodCompare.Proofs.DurationText
import PeriodCompare.Proofs.Integers
import PeriodCompare.Settings

set_option autoImplicit false

namespace PeriodCompare

section Plain

open Toml (isPlainChar isTextChar doubleQuote)

theorem isPlainChar_of_toNat {c : Char} (low : 0x20 ≤ c.toNat)
    (other : c.toNat ≠ 0x22 ∧ c.toNat ≠ 0x5c ∧ c.toNat ≠ 0x7f) : isPlainChar c := by
  obtain ⟨quote, escape, delete⟩ := other
  have visible : ' ' ≤ c := low
  have unquoted : c ≠ doubleQuote := by
    rintro rfl
    exact quote rfl
  have unescaped : c ≠ '\\' := by
    rintro rfl
    exact escape rfl
  simp [isPlainChar, isTextChar, visible, delete, unquoted, unescaped]

theorem isPlainChar_of_isDigit {c : Char} (digit : c.isDigit) : isPlainChar c := by
  obtain ⟨low, high⟩ := Numeric.toNat_of_isDigit digit
  exact isPlainChar_of_toNat (by omega) (by omega)

theorem isPlainChar_of_isUnitChar {c : Char} (letter : Duration.isUnitChar c) : isPlainChar c := by
  simp only [Duration.isUnitChar, Char.isAlpha, Char.isUpper, Char.isLower, Bool.or_eq_true,
    Bool.and_eq_true, decide_eq_true_eq, beq_iff_eq] at letter
  rcases letter with (upper | lower) | rfl
  · have low : 0x41 ≤ c.toNat := upper.1
    have high : c.toNat ≤ 0x5a := upper.2
    exact isPlainChar_of_toNat (by omega) (by omega)
  · have low : 0x61 ≤ c.toNat := lower.1
    have high : c.toNat ≤ 0x7a := lower.2
    exact isPlainChar_of_toNat (by omega) (by omega)
  · decide

theorem isPlainChar_of_mem_text {p : Duration.Part} {c : Char} (member : c ∈ p.text.toList) :
    isPlainChar c := by
  rw [Duration.Part.text, String.toList_append, Numeric.toList_toString, List.mem_append] at member
  rcases member with digit | letter
  · exact isPlainChar_of_isDigit (Numeric.isDigit_of_mem_toDigits digit)
  · exact isPlainChar_of_isUnitChar ((Duration.spelled_of_unit? p.named).2 c letter).1

theorem isPlainChar_of_mem_textOf {parts : List Duration.Part} {c : Char}
    (member : c ∈ (Duration.textOf parts).toList) : isPlainChar c := by
  induction parts with
  | nil => cases member
  | cons p parts ih =>
    cases parts with
    | nil =>
      rw [Duration.textOf_singleton] at member
      exact isPlainChar_of_mem_text member
    | cons q parts =>
      rw [Duration.textOf_cons, List.mem_append, List.mem_cons] at member
      rcases member with first | rfl | later
      · exact isPlainChar_of_mem_text first
      · decide
      · exact ih later

theorem isPlainChar_of_mem_written {d : Duration} :
    ∀ c ∈ d.written.toList, isPlainChar c := by
  rw [Duration.written_eq]
  split
  · exact List.all_eq_true.1 (by decide)
  · exact fun c => isPlainChar_of_mem_textOf

end Plain

theorem Toml.duration?_written (d : Duration) : Toml.Value.duration? (.string d.written) = some d :=
  d.read?_written

theorem Toml.count?_ofNat (n : Nat) : Toml.Value.count? (.integer n) = some n := by
  simp [Toml.Value.count?]

namespace CacheSettings

def entries (c : CacheSettings) : Toml.Entries :=
  [("max_capacity", .integer c.maxCapacity), ("time_to_live", .string c.timeToLive.written)]

theorem ofValue_entries (c : CacheSettings) (form : Toml.Form) :
    ofValue (.table form c.entries) = .ok c := by
  have capacity : Toml.Entries.get? c.entries "max_capacity" = some (.integer c.maxCapacity) := rfl
  have life : Toml.Entries.get? c.entries "time_to_live" =
      some (.string c.timeToLive.written) := rfl
  simp only [ofValue, ofParts, capacity, life, Toml.read, Toml.count?_ofNat,
    Toml.duration?_written, Checked.ok_bind]
  rfl

end CacheSettings

namespace Settings

open Toml (Entries Line IsCount)

def entries (s : Settings) : Entries :=
  ("query_timeout", .string s.queryTimeout.written) :: ("top_k", .integer s.topK) ::
    s.cache.elim [] fun c => [("cache", .table .explicit c.entries)]

theorem foldlM_lines (s : Settings) :
    (s.lines.foldlM Line.addTo? ⟨[], []⟩).map (·.root) = some s.entries := by
  rcases s with ⟨timeout, count, _ | c⟩ <;> rfl

theorem ofEntries_entries (s : Settings) :
    ofEntries s.entries = .ok { s with cache := some (s.cache.getD .default) } := by
  rcases s with ⟨timeout, count, cache⟩
  have waits : Entries.get? (entries ⟨timeout, count, cache⟩) "query_timeout" =
      some (.string timeout.written) := rfl
  have keeps : Entries.get? (entries ⟨timeout, count, cache⟩) "top_k" = some (.integer count) := rfl
  simp only [ofEntries, waits, keeps, Toml.read, Toml.count?_ofNat, Toml.duration?_written,
    Checked.ok_bind]
  cases cache with
  | none => rfl
  | some c =>
    have cached : Entries.get? (entries ⟨timeout, count, some c⟩) "cache" =
      some (.table .explicit c.entries) := rfl
    simp only [cached, CacheSettings.ofValue_entries]
    rfl

def HasCounts (s : Settings) : Prop :=
  IsCount s.topK ∧ ∀ c ∈ s.cache, IsCount c.maxCapacity

theorem isPlain_lines {s : Settings} (counts : s.HasCounts) :
    ∀ line ∈ s.lines, line.IsPlain := by
  have timeout : Toml.IsBareKey "query_timeout" := Toml.isBareKey_of_all (by decide)
  have topK : Toml.IsBareKey "top_k" := Toml.isBareKey_of_all (by decide)
  have cache : Toml.IsBareKey "cache" := Toml.isBareKey_of_all (by decide)
  have capacity : Toml.IsBareKey "max_capacity" := Toml.isBareKey_of_all (by decide)
  have life : Toml.IsBareKey "time_to_live" := Toml.isBareKey_of_all (by decide)
  intro line member
  simp only [lines, List.mem_cons] at member
  rcases member with rfl | rfl | member
  · exact ⟨timeout, isPlainChar_of_mem_written⟩
  · exact ⟨topK, counts.1⟩
  cases cached : s.cache with
  | none => simp [cached] at member
  | some c =>
    simp only [cached, Option.elim_some, CacheSettings.lines, List.mem_cons, List.not_mem_nil,
      or_false] at member
    rcases member with rfl | rfl | rfl | rfl
    · trivial
    · exact cache
    · exact ⟨capacity, counts.2 c cached⟩
    · exact ⟨life, isPlainChar_of_mem_written⟩

theorem ofDocument_document {s : Settings} (counts : s.HasCounts) :
    ofDocument s.document = .ok { s with cache := some (s.cache.getD .default) } := by
  have read : Toml.read? s.document = some s.entries := by
    rw [document, Toml.read?_document (isPlain_lines counts), foldlM_lines]
  rw [ofDocument, read]
  exact ofEntries_entries s

example : Settings.default.document = "query_timeout = \x221m\x22\ntop_k = 25\n" ++
    "\n[cache]\nmax_capacity = 10000\ntime_to_live = \x225m\x22\n" := by
  decide

end Settings

section Image

open Toml (Entries IsCount Value)

theorem Toml.read_eq_ok {α : Type} {found : Option Value} {f : Value → Option α} {otherwise a : α}
    (read : Toml.read found f otherwise = .ok a) : a = otherwise ∨ ∃ v ∈ found, f v = some a := by
  unfold Toml.read at read
  split at read
  · cases read
    exact .inl rfl
  split at read
  · cases read
    exact .inr ⟨_, rfl, by assumption⟩
  · cases read

theorem Toml.isCount_of_count? {v : Value} {n : Nat} (inRange : v.InRange)
    (counted : v.count? = some n) : IsCount n := by
  cases inRange with
  | integer low high =>
    simp only [Value.count?] at counted
    split at counted <;> cases counted
    simp only [IsCount]
    omega
  | _ => cases counted

theorem Toml.isCount_of_read {found : Option Value} {otherwise n : Nat}
    (inRange : ∀ v ∈ found, v.InRange) (usual : IsCount otherwise)
    (read : Toml.read found Value.count? otherwise = .ok n) : IsCount n := by
  rcases Toml.read_eq_ok read with rfl | ⟨v, isFound, counted⟩
  · exact usual
  · exact Toml.isCount_of_count? (inRange v isFound) counted

theorem CacheSettings.isCount_of_ofParts {capacity life : Option Value} {c : CacheSettings}
    (inRange : ∀ v ∈ capacity, v.InRange) (read : ofParts capacity life = .ok c) :
    IsCount c.maxCapacity := by
  simp only [ofParts, Checked.bind_eq_ok, Checked.pure_eq_ok] at read
  obtain ⟨n, counted, _, -, rfl⟩ := read
  exact Toml.isCount_of_read inRange (by decide) counted

theorem CacheSettings.isCount_of_ofValue {v : Value} {c : CacheSettings} (inRange : v.InRange)
    (read : ofValue v = .ok c) : IsCount c.maxCapacity := by
  unfold ofValue at read
  split at read
  next entries =>
    have inside := Entries.InRange.of_table inRange
    exact isCount_of_ofParts (fun v found => inside.of_get? found) read
  next items =>
    cases inRange with
    | array all => exact isCount_of_ofParts (fun v found => all v (List.mem_of_getElem? found)) read
  next =>
    cases read
    decide
  next => cases read

theorem Settings.of_ofEntries {entries : Entries} {s : Settings} (inRange : entries.InRange)
    (read : ofEntries entries = .ok s) : s.cache.isSome ∧ s.HasCounts := by
  simp only [ofEntries, Checked.bind_eq_ok] at read
  obtain ⟨timeout, -, n, counted, read⟩ := read
  have count : IsCount n :=
    Toml.isCount_of_read (fun v found => inRange.of_get? found) (by decide) counted
  split at read
  next v found =>
    simp only [Checked.bind_eq_ok, Checked.pure_eq_ok] at read
    obtain ⟨cache, cached, rfl⟩ := read
    obtain ⟨c, value, rfl⟩ := Checked.map_eq_ok.1 cached
    refine ⟨rfl, count, fun d same => ?_⟩
    cases same
    exact CacheSettings.isCount_of_ofValue (inRange.of_get? found) value
  next =>
    cases read
    refine ⟨rfl, count, fun d same => ?_⟩
    cases same
    decide

theorem Settings.of_ofDocument {source : String} {s : Settings}
    (read : ofDocument source = .ok s) : s.cache.isSome ∧ s.HasCounts := by
  unfold ofDocument at read
  split at read
  next entries taken => exact of_ofEntries (Toml.inRange_of_read? taken) read
  next => cases read

theorem Settings.exists_document_iff (s : Settings) :
    (∃ source, ofDocument source = .ok s) ↔ s.cache.isSome ∧ s.HasCounts := by
  constructor
  · rintro ⟨source, read⟩
    exact of_ofDocument read
  · rintro ⟨cached, counts⟩
    obtain ⟨c, isCache⟩ := Option.isSome_iff_exists.1 cached
    refine ⟨s.document, (ofDocument_document counts).trans ?_⟩
    rw [isCache, Option.getD_some, ← isCache]

def Settings.uncached : Settings :=
  { Settings.default with cache := none }

theorem Settings.ofDocument_ne_uncached :
    ofDocument uncached.document = .ok .default ∧
      ∀ source, ofDocument source ≠ .ok uncached := by
  refine ⟨ofDocument_document ⟨by decide, by decide⟩, fun source read => ?_⟩
  exact absurd (of_ofDocument read).1 (by decide)

end Image

end PeriodCompare
