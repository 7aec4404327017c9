import Mathlib.Algebra.Order.Floor.Semiring
import Mathlib.Data.List.Chain
import Mathlib.Data.Rat.Floor
import PeriodCompare.Proofs.Checked
import PeriodCompare.Request

set_option autoImplicit false

namespace PeriodCompare

inductive Tiles : Instant → List Interval → Instant → Prop where
  | nil (t : Instant) : Tiles t [] t
  | cons {i : Interval} {rest : List Interval} {finish : Instant}
    (later : Tiles i.finish rest finish) : Tiles i.start (i :: rest) finish

namespace Tiles

variable {start finish : Instant} {buckets : List Interval}

theorem head? (tiles : Tiles start buckets finish) :
    ∀ b ∈ buckets.head?, b.start = start := by
  cases tiles <;> simp

theorem eq_of_nil (tiles : Tiles start [] finish) : start = finish := by
  cases tiles
  rfl

theorem getLast? (tiles : Tiles start buckets finish) :
    ∀ b ∈ buckets.getLast?, b.finish = finish := by
  induction tiles with
  | nil t => simp
  | @cons i rest finish later ih =>
    cases rest with
    | nil => simpa using later.eq_of_nil
    | cons b rest => simpa using ih

theorem isChain (tiles : Tiles start buckets finish) :
    buckets.IsChain fun a b => b.start = a.finish := by
  induction tiles with
  | nil t => exact .nil
  | cons later ih => exact List.isChain_cons.2 ⟨later.head?, ih⟩

end Tiles

section Cut

variable {step : Nat} {start finish : Instant}

-- Saturation never shows: what lies beyond the last instant lies beyond the end of the window.
theorem Instant.millis_earlier_shift (finish : Instant) (step : Nat) (start : Instant) :
    ((start.shift step).earlier finish).millis = min (start.millis + step) finish.millis := by
  have low := start.min_le
  have high := finish.le_max
  simp only [Instant.millis_earlier, Instant.shift, Instant.millis_ofMillis]
  omega

theorem tiles_cut (pos : 0 < step) (ordered : start ≤ finish) :
    Tiles start (cut step pos start finish) finish := by
  fun_induction cut step pos start finish with
  | case1 start less next ih =>
    apply Tiles.cons (i := ⟨start, next, _⟩)
    apply ih
    simp only [next, Instant.le_def, Instant.millis_earlier]
    omega
  | case2 start done =>
    obtain rfl : start = finish := by
      ext
      simp only [Instant.le_def, Instant.lt_def] at ordered done
      omega
    exact .nil start

theorem lt_length_cut (pos : 0 < step) (i : Nat) :
    i < (cut step pos start finish).length ↔ start.millis + i * step < finish.millis := by
  fun_induction cut step pos start finish generalizing i with
  | case1 start less next ih =>
    rw [Instant.lt_def] at less
    cases i with
    | zero => simpa using less
    | succ i =>
      have offset := Int.mul_nonneg (Int.natCast_nonneg i) (Int.natCast_nonneg step)
      rw [List.length_cons, Nat.add_lt_add_iff_right, ih, Instant.millis_earlier_shift]
      push_cast
      rw [add_one_mul]
      omega
  | case2 start done =>
    have offset := Int.mul_nonneg (Int.natCast_nonneg i) (Int.natCast_nonneg step)
    rw [Instant.lt_def] at done
    simp only [List.length_nil, Nat.not_lt_zero, false_iff]
    omega

theorem length_cut (pos : 0 < step) :
    (cut step pos start finish).length = ⌈(finish.millisSince start : ℚ) / step⌉₊ := by
  refine eq_of_forall_lt_iff fun i => ?_
  have positive : (0 : ℚ) < step := by exact_mod_cast pos
  have before : start.millis + i * step < finish.millis ↔ (i : ℤ) * step < finish.millisSince start := by
    rw [Instant.millisSince]
    omega
  rw [lt_length_cut, before, Nat.lt_ceil, lt_div_iff₀ positive]
  exact_mod_cast Iff.rfl

theorem millis_of_getElem?_cut (pos : 0 < step) (i : Nat) (b : Interval)
    (found : (cut step pos start finish)[i]? = some b) :
    b.start.millis = start.millis + i * step ∧
      b.finish.millis = min (start.millis + i * step + step) finish.millis := by
  fun_induction cut step pos start finish generalizing i b with
  | case1 start less next ih =>
    have nextMillis : next.millis = min (start.millis + step) finish.millis :=
      Instant.millis_earlier_shift finish step start
    cases i with
    | zero =>
      obtain rfl := Option.some.inj found
      simp [nextMillis]
    | succ i =>
      rw [List.getElem?_cons_succ] at found
      have inside := (lt_length_cut pos i).1 (List.getElem?_eq_some_iff.1 found).1
      have offset := Int.mul_nonneg (Int.natCast_nonneg i) (Int.natCast_nonneg step)
      obtain ⟨starts, finishes⟩ := ih i b found
      push_cast
      rw [add_one_mul]
      omega
  | case2 start done => simp at found

theorem millis_eq_of_early (pos : 0 < step) {i : Nat} {b : Interval}
    (found : (cut step pos start finish)[i]? = some b)
    (early : i + 1 < (cut step pos start finish).length) : b.millis = step := by
  have room := (lt_length_cut pos (i + 1)).1 early
  obtain ⟨starts, finishes⟩ := millis_of_getElem?_cut pos i b found
  push_cast at room
  rw [add_one_mul] at room
  rw [Interval.millis, Instant.millisSince]
  omega

theorem millis_eq_of_mem_dropLast (pos : 0 < step) {b : Interval}
    (member : b ∈ (cut step pos start finish).dropLast) : b.millis = step := by
  obtain ⟨i, found⟩ := List.mem_iff_getElem?.1 member
  rw [List.getElem?_dropLast] at found
  split at found
  · next early => exact millis_eq_of_early pos found (by omega)
  · simp at found

theorem millis_le_of_mem (pos : 0 < step) {b : Interval}
    (member : b ∈ cut step pos start finish) : b.millis ≤ step := by
  obtain ⟨i, found⟩ := List.mem_iff_getElem?.1 member
  obtain ⟨starts, finishes⟩ := millis_of_getElem?_cut pos i b found
  rw [Interval.millis, Instant.millisSince]
  omega

theorem millis_eq_of_last (pos : 0 < step) {i : Nat} {b : Interval}
    (found : (cut step pos start finish)[i]? = some b)
    (last : ¬ i + 1 < (cut step pos start finish).length) :
    b.millis = finish.millisSince start - i * step := by
  rw [lt_length_cut pos (i + 1)] at last
  obtain ⟨starts, finishes⟩ := millis_of_getElem?_cut pos i b found
  push_cast at last
  rw [add_one_mul] at last
  rw [Interval.millis, Instant.millisSince, Instant.millisSince]
  omega

theorem correspond_of_getElem?_cut (pos : 0 < step) {other last : Instant} {i : Nat}
    {b c : Interval} (found : (cut step pos start finish)[i]? = some b)
    (foundToo : (cut step pos other last)[i]? = some c)
    (same : (cut step pos start finish).length = (cut step pos other last).length) :
    c.start.millis = b.start.millis + other.millisSince start ∧
      (i + 1 < (cut step pos start finish).length → c.millis = b.millis) ∧
      (i + 1 = (cut step pos start finish).length →
        (c.millis = b.millis ↔ last.millisSince other = finish.millisSince start)) := by
  refine ⟨?_, fun early => ?_, fun final => ?_⟩
  · rw [(millis_of_getElem?_cut pos i b found).1, (millis_of_getElem?_cut pos i c foundToo).1,
      Instant.millisSince]
    omega
  · rw [millis_eq_of_early pos found early, millis_eq_of_early pos foundToo (same ▸ early)]
  · rw [millis_eq_of_last pos found (by omega), millis_eq_of_last pos foundToo (by omega)]
    omega

theorem exists_create_earlier_shift (pos : 0 < step) {t : Instant} (before : t < finish) :
    ∃ b, Interval.create t ((t.shift step).earlier finish) = .ok b :=
  ⟨_, dif_pos (Instant.lt_earlier_shift pos before)⟩

end Cut

section Between

variable {granularity : Option Granularity} {g : Granularity} {start finish : Instant}
  {buckets : List Interval}

theorem bucketsBetween_of_le (inverted : finish ≤ start) :
    bucketsBetween granularity start finish = .error (.invalidRange start finish) := by
  have empty : ¬ start < finish := Int.not_lt.2 inverted
  simp [bucketsBetween, Interval.create, empty]

theorem bucketsBetween_none (ordered : start < finish) :
    bucketsBetween none start finish = .ok [⟨start, finish, ordered⟩] := by
  simp [bucketsBetween, Interval.create, ordered]

theorem bucketsBetween_of_width_eq_zero (ordered : start < finish) (zero : g.width = 0) :
    bucketsBetween (some g) start finish = .error (.invalidRequest (.zeroWidth g)) := by
  simp [bucketsBetween, Interval.create, ordered, zero]

theorem bucketsBetween_of_width_pos (ordered : start < finish) (pos : 0 < g.width) :
    bucketsBetween (some g) start finish = .ok (cut g.width pos start finish) := by
  simp [bucketsBetween, Interval.create, ordered, pos]

theorem bucketsBetween_eq_ok (cutInto : bucketsBetween granularity start finish = .ok buckets) :
    ∃ ordered : start < finish, (granularity = none ∧ buckets = [⟨start, finish, ordered⟩]) ∨
      ∃ g, ∃ pos : 0 < g.width, granularity = some g ∧ buckets = cut g.width pos start finish := by
  by_cases ordered : start < finish
  · refine ⟨ordered, ?_⟩
    cases granularity with
    | none =>
      rw [bucketsBetween_none ordered] at cutInto
      exact .inl ⟨rfl, (Except.ok.inj cutInto).symm⟩
    | some g =>
      rcases Nat.eq_zero_or_pos g.width with zero | pos
      · simp [bucketsBetween_of_width_eq_zero ordered zero] at cutInto
      · rw [bucketsBetween_of_width_pos ordered pos] at cutInto
        exact .inr ⟨g, pos, rfl, (Except.ok.inj cutInto).symm⟩
  · simp [bucketsBetween_of_le (Int.not_lt.1 ordered)] at cutInto

theorem exists_bucketsBetween (ordered : start < finish)
    (wide : ∀ g, granularity = some g → g.width ≠ 0) :
    ∃ buckets, bucketsBetween granularity start finish = .ok buckets := by
  cases granularity with
  | none => exact ⟨_, bucketsBetween_none ordered⟩
  | some g => exact ⟨_, bucketsBetween_of_width_pos ordered (Nat.pos_of_ne_zero (wide g rfl))⟩

theorem bucketsBetween_ne_nil
    (cutInto : bucketsBetween granularity start finish = .ok buckets) : buckets ≠ [] := by
  obtain ⟨ordered, ⟨-, rfl⟩ | ⟨g, pos, -, rfl⟩⟩ := bucketsBetween_eq_ok cutInto
  · simp
  · rw [← List.length_pos_iff, lt_length_cut pos 0]
    simpa [Instant.lt_def] using ordered

theorem tiles_bucketsBetween
    (cutInto : bucketsBetween granularity start finish = .ok buckets) :
    Tiles start buckets finish := by
  obtain ⟨ordered, ⟨-, rfl⟩ | ⟨g, pos, -, rfl⟩⟩ := bucketsBetween_eq_ok cutInto
  · exact Tiles.cons (i := ⟨start, finish, ordered⟩) (.nil finish)
  · exact tiles_cut pos (Int.le_of_lt ordered)

theorem bucketsBetween_outcome (granularity : Option Granularity) (start finish : Instant) :
    (bucketsBetween granularity start finish = .error (.invalidRange start finish) ↔
      finish ≤ start) ∧
    ((∃ fault, bucketsBetween granularity start finish = .error (.invalidRequest fault)) ↔
      start < finish ∧ ∃ g, granularity = some g ∧ g.width = 0) ∧
    (start < finish → (∀ g, granularity = some g → g.width ≠ 0) → ∃ buckets,
      bucketsBetween granularity start finish = .ok buckets ∧ buckets ≠ [] ∧
      (∀ b ∈ buckets.head?, b.start = start) ∧ (∀ b ∈ buckets.getLast?, b.finish = finish) ∧
      buckets.IsChain (fun a b => b.start = a.finish) ∧ (∀ b ∈ buckets, b.start < b.finish) ∧
      (granularity = none → buckets.length = 1) ∧
      ∀ g, granularity = some g →
        (∀ b ∈ buckets.dropLast, b.millis = g.size.toNat * g.unit.millis) ∧
        (∀ b ∈ buckets.getLast?, b.millis ≤ g.size.toNat * g.unit.millis) ∧
        buckets.length =
          ⌈(finish.millisSince start : ℚ) / (g.size.toNat * g.unit.millis)⌉₊ ∧
        ∀ t < finish, ∃ b, Interval.create t ((t.shift g.width).earlier finish) = .ok b) := by
  by_cases ordered : start < finish
  · have straight : ¬ finish ≤ start := Int.not_le.2 ordered
    by_cases flat : ∃ g, granularity = some g ∧ g.width = 0
    · obtain ⟨g, rfl, zero⟩ := flat
      simp [bucketsBetween_of_width_eq_zero ordered zero, straight, ordered, zero]
    · obtain ⟨buckets, cutInto⟩ := exists_bucketsBetween ordered fun g some zero => flat ⟨g, some, zero⟩
      have tiles := tiles_bucketsBetween cutInto
      refine ⟨by simp [cutInto, straight], by simp [cutInto, flat], fun _ _ => ⟨buckets, cutInto,
        bucketsBetween_ne_nil cutInto, tiles.head?, tiles.getLast?, tiles.isChain,
        fun b _ => b.start_lt_finish, ?_, ?_⟩⟩
      · rintro rfl
        rw [bucketsBetween_none ordered] at cutInto
        obtain rfl := Except.ok.inj cutInto
        rfl
      · rintro g rfl
        have pos : 0 < g.width := Nat.pos_of_ne_zero fun zero => flat ⟨g, rfl, zero⟩
        rw [bucketsBetween_of_width_pos ordered pos] at cutInto
        obtain rfl := Except.ok.inj cutInto
        refine ⟨fun b member => ?_, fun b last => ?_, ?_, fun t before => ?_⟩
        · exact_mod_cast millis_eq_of_mem_dropLast pos member
        · exact_mod_cast millis_le_of_mem pos (List.mem_of_getLast? last)
        · exact_mod_cast length_cut pos
        · exact exists_create_earlier_shift pos before
  · have inverted : finish ≤ start := Int.not_lt.1 ordered
    simp [bucketsBetween_of_le inverted, inverted, ordered]

end Between

namespace Windows

def Aligned (w : Windows) : Prop :=
  w.baseline.length = w.current.length

theorem pair?_eq_some {w : Windows} {bucket : Nat} {pair : Interval × Interval} :
    w.pair? bucket = some pair ↔
      w.baseline[bucket]? = some pair.1 ∧ w.current[bucket]? = some pair.2 := by
  rcases pair with ⟨baseline, current⟩
  simp [pair?, Option.bind_eq_some_iff]

theorem lt_size_of_pair? {w : Windows} {bucket : Nat} {pair : Interval × Interval}
    (found : w.pair? bucket = some pair) : bucket < w.size :=
  (List.getElem?_eq_some_iff.1 (pair?_eq_some.1 found).1).1

theorem exists_pair? {w : Windows} (aligned : w.Aligned) {bucket : Nat} (inside : bucket < w.size) :
    ∃ pair, w.pair? bucket = some pair := by
  have inBaseline : bucket < w.baseline.length := inside
  have inCurrent : bucket < w.current.length := aligned ▸ inside
  exact ⟨(w.baseline[bucket], w.current[bucket]),
    pair?_eq_some.2 ⟨List.getElem?_eq_getElem inBaseline, List.getElem?_eq_getElem inCurrent⟩⟩

theorem mem_zipIdx_zip {w : Windows} {pair : Interval × Interval} {bucket : Nat} :
    (pair, bucket) ∈ (w.baseline.zip w.current).zipIdx ↔ w.pair? bucket = some pair := by
  rw [List.mem_zipIdx_iff_getElem?, List.getElem?_zip_eq_some, pair?_eq_some]

end Windows

namespace Request

variable {r : Request} {windows : Windows}

theorem windows_eq_ok :
    r.windows = .ok windows ↔
      bucketsBetween r.granularity r.baseline.start r.baseline.finish = .ok windows.baseline ∧
        bucketsBetween r.granularity r.current.start r.current.finish = .ok windows.current ∧
          windows.baseline.length = windows.current.length := by
  simp only [Request.windows, Checked.bind_eq_ok]
  constructor
  · intro steps
    obtain ⟨baseline, cutBaseline, current, cutCurrent, counted⟩ := steps
    by_cases same : baseline.length = current.length
    · rw [if_pos same] at counted
      obtain rfl := Except.ok.inj counted
      exact ⟨cutBaseline, cutCurrent, same⟩
    · simp [same] at counted
  · intro cutInto
    obtain ⟨cutBaseline, cutCurrent, same⟩ := cutInto
    exact ⟨_, cutBaseline, _, cutCurrent, if_pos same⟩

theorem windows_aligned (cutInto : r.windows = .ok windows) : windows.Aligned :=
  (windows_eq_ok.1 cutInto).2.2

theorem windows_size_pos (cutInto : r.windows = .ok windows) : 0 < windows.size :=
  List.length_pos_of_ne_nil (bucketsBetween_ne_nil (windows_eq_ok.1 cutInto).1)

theorem windows_of_granularity_eq_none (whole : r.granularity = none) :
    r.windows = .ok r.wholeWindows := by
  rw [windows_eq_ok, whole]
  exact ⟨bucketsBetween_none r.baseline.start_lt_finish,
    bucketsBetween_none r.current.start_lt_finish, rfl⟩

theorem windows_of_no_granularity (whole : r.granularity = none)
    (cutInto : r.windows = .ok windows) : windows = r.wholeWindows := by
  rw [windows_of_granularity_eq_none whole] at cutInto
  exact (Except.ok.inj cutInto).symm

theorem pair?_wholeWindows {bucket : Nat} {pair : Interval × Interval} :
    r.wholeWindows.pair? bucket = some pair ↔ bucket = 0 ∧ (r.baseline, r.current) = pair := by
  cases bucket <;> simp [Windows.pair?, wholeWindows, Windows.whole]

theorem windows_of_width_eq_zero {g : Granularity} (some : r.granularity = some g)
    (zero : g.width = 0) : r.windows = .error (.invalidRequest (.zeroWidth g)) := by
  rw [Request.windows, some, bucketsBetween_of_width_eq_zero r.baseline.start_lt_finish zero]
  rfl

theorem windows_of_width_pos {g : Granularity} (some : r.granularity = some g)
    (pos : 0 < g.width) :
    let baseline := cut g.width pos r.baseline.start r.baseline.finish
    let current := cut g.width pos r.current.start r.current.finish
    r.windows = if baseline.length = current.length then .ok ⟨baseline, current⟩
      else .error (.invalidRequest (.bucketCounts baseline.length current.length)) := by
  simp only [Request.windows, some, bucketsBetween_of_width_pos r.baseline.start_lt_finish pos,
    bucketsBetween_of_width_pos r.current.start_lt_finish pos, Checked.ok_bind]

theorem windows_correspond (r : Request) :
    (r.granularity = none → r.windows = .ok ⟨[r.baseline], [r.current]⟩) ∧
    (∀ g, r.granularity = some g → 0 < g.width →
      let baseline := ⌈(r.baseline.millis : ℚ) / g.width⌉₊
      let current := ⌈(r.current.millis : ℚ) / g.width⌉₊
      ((∃ windows, r.windows = .ok windows) ↔ baseline = current) ∧
      (baseline ≠ current →
        r.windows = .error (.invalidRequest (.bucketCounts baseline current)) ∧
        (RequestFault.bucketCounts baseline current).message = "baseline window has " ++
          toString baseline ++ " buckets but current window has " ++ toString current)) ∧
    ∀ windows, r.windows = .ok windows → windows.current.length = windows.size ∧
      ∀ i < windows.size, ∃ b c, windows.pair? i = some (b, c) ∧
        c.start.millis = b.start.millis + r.current.start.millisSince r.baseline.start ∧
        (i + 1 < windows.size → c.millis = b.millis) ∧
        (i + 1 = windows.size → (c.millis = b.millis ↔ r.current.millis = r.baseline.millis)) := by
  refine ⟨windows_of_granularity_eq_none, fun g some pos => ?_, fun windows cutInto => ?_⟩
  · intro baseline current
    have counted : r.windows = _ := windows_of_width_pos some pos
    rw [length_cut, length_cut] at counted
    by_cases same : baseline = current
    · exact ⟨iff_of_true ⟨_, counted.trans (if_pos same)⟩ same, (absurd same ·)⟩
    · have refused := counted.trans (if_neg same)
      exact ⟨by simp [refused, same], fun _ => ⟨refused, rfl⟩⟩
  · obtain ⟨cutBaseline, cutCurrent, same⟩ := windows_eq_ok.1 cutInto
    refine ⟨same.symm, fun i inside => ?_⟩
    obtain ⟨⟨b, c⟩, found⟩ := Windows.exists_pair? same inside
    refine ⟨b, c, found, ?_⟩
    obtain ⟨inBaseline, inCurrent⟩ := Windows.pair?_eq_some.1 found
    obtain ⟨-, ⟨whole, -⟩ | ⟨g, pos, some, cutWith⟩⟩ := bucketsBetween_eq_ok cutBaseline
    · obtain rfl := windows_of_no_granularity whole cutInto
      obtain rfl : i = 0 := Nat.lt_one_iff.1 inside
      obtain rfl : r.baseline = b := Option.some.inj inBaseline
      obtain rfl : r.current = c := Option.some.inj inCurrent
      simp [Instant.millisSince, Windows.size, wholeWindows, Windows.whole]
    · rw [some, bucketsBetween_of_width_pos r.current.start_lt_finish pos] at cutCurrent
      rw [← Except.ok.inj cutCurrent] at inCurrent same
      rw [cutWith] at inBaseline same
      rw [Windows.size, cutWith]
      exact correspond_of_getElem?_cut pos inBaseline inCurrent same

end Request

end PeriodCompare
