import Mathlib.Data.List.Forall2
import PeriodCompare.Derivation
import PeriodCompare.Proofs.Checked
import PeriodCompare.Proofs.Splits

set_option autoImplicit false

namespace PeriodCompare

theorem isFinite_finitePart (x : Float) : (finitePart x).isFinite = true := by
  unfold finitePart
  split
  · assumption
  · decide

def Row.Extends (extended r : Row) : Prop :=
  ∃ added, extended = { r with metrics := r.metrics ++ added }

namespace Row.Extends

variable {extended r : Row}

theorem baseline (grown : extended.Extends r) : extended.baseline = r.baseline := by
  obtain ⟨added, rfl⟩ := grown
  rfl

theorem current (grown : extended.Extends r) : extended.current = r.current := by
  obtain ⟨added, rfl⟩ := grown
  rfl

theorem dimension (grown : extended.Extends r) : extended.dimension = r.dimension := by
  obtain ⟨added, rfl⟩ := grown
  rfl

theorem metric (grown : extended.Extends r) {i : Nat} {m : Metric}
    (found : r.metrics[i]? = some m) : extended.metrics[i]? = some m := by
  obtain ⟨added, rfl⟩ := grown
  obtain ⟨inside, -⟩ := List.getElem?_eq_some_iff.1 found
  rwa [List.getElem?_append_left inside]

end Row.Extends

def Checked.ofPartial {β : Type} : List β × Option Failure → Checked (List β)
  | (results, none) => .ok results
  | (_, some e) => .error e

section Partial

variable {α β : Type} {f : α → Checked β} {l : List α} {results : List β}

theorem ofPartial_eq_ok {traversed : List β × Option Failure} :
    Checked.ofPartial traversed = .ok results ↔ traversed = (results, none) := by
  rcases traversed with ⟨made, _ | e⟩ <;> simp [Checked.ofPartial]

theorem ofPartial_mapUntilFailure (f : α → Checked β) (l : List α) :
    Checked.ofPartial (mapUntilFailure f l) = l.mapM f := by
  induction l with
  | nil => rfl
  | cons a rest ih =>
    rw [List.mapM_cons, ← ih, mapUntilFailure]
    cases f a with
    | error e => rfl
    | ok b => rcases mapUntilFailure f rest with ⟨results, _ | e⟩ <;> rfl

theorem mapUntilFailure_eq_none :
    mapUntilFailure f l = (results, none) ↔ List.Forall₂ (fun a b => f a = .ok b) l results := by
  rw [← ofPartial_eq_ok, ofPartial_mapUntilFailure, Checked.mapM_eq_ok]

theorem mapUntilFailure_eq_some {e : Failure} :
    mapUntilFailure f l = (results, some e) ↔
      ∃ before a after, l = before ++ a :: after ∧
        List.Forall₂ (fun a b => f a = .ok b) before results ∧ f a = .error e := by
  induction l generalizing results with
  | nil => simp [mapUntilFailure]
  | cons a rest ih =>
    rw [exists_split_cons, mapUntilFailure]
    cases made : f a with
    | error other =>
      cases results with
      | nil => simp
      | cons first later => simp [made]
    | ok b =>
      rcases traversed : mapUntilFailure f rest with ⟨others, failure⟩
      rw [traversed] at ih
      constructor
      · intro same
        obtain ⟨rfl, rfl⟩ := Prod.mk.inj same
        obtain ⟨before, c, after, split, all, failed⟩ := ih.1 rfl
        exact .inr ⟨before, c, after, split, .cons made all, failed⟩
      · intro either
        rcases either with ⟨-, failed⟩ | ⟨before, c, after, split, all, failed⟩
        · simp at failed
        · cases all with
          | cons first later =>
            obtain rfl := Except.ok.inj (made.symm.trans first)
            obtain ⟨rfl, rfl⟩ := Prod.mk.inj (ih.2 ⟨before, c, after, split, later, failed⟩)
            rfl

end Partial

theorem Row.values_eq_some {r : Row} {window : Window} {name : String} {x : Float} :
    r.values window name = some x ↔
      ∃ before m after, r.metrics = before ++ m :: after ∧ m.name = name ∧
        m.value window = x ∧ ∀ later ∈ after, later.name ≠ name := by
  simp only [values, Option.map_eq_some_iff, getLast?_filter_eq_some, decide_eq_true_eq,
    decide_eq_false_iff_not]
  constructor
  · intro found
    obtain ⟨m, ⟨before, after, split, named, last⟩, rfl⟩ := found
    exact ⟨before, m, after, split, named, rfl, last⟩
  · intro found
    obtain ⟨before, m, after, split, named, rfl, last⟩ := found
    exact ⟨m, ⟨before, after, split, named, last⟩, rfl⟩

namespace Evaluator

variable {v : Evaluator} {r row : Row} {m : MetricExpression} {metric : Metric} {e : Failure}
  {metrics : List MetricExpression} {functions : List MetricFunction} {rows out : List Row}

structure Derives (v : Evaluator) (r : Row) (m : MetricExpression) (metric : Metric) : Prop where
  name : metric.name = m.name
  value : ∀ window, ∃ x, v.evaluate m.expression (r.values window) = .ok x ∧
    metric.value window = if x.isFinite then x else 0.0

/-- The baseline is looked at first. -/
inductive FailsAt (v : Evaluator) (r : Row) (m : MetricExpression) (e : Failure) : Prop where
  | baseline (failed : v.evaluate m.expression (r.values .baseline) = .error e)
  | current {x : Float} (first : v.evaluate m.expression (r.values .baseline) = .ok x)
    (failed : v.evaluate m.expression (r.values .current) = .error e)

theorem derive_eq_ok : v.derive r m = .ok metric ↔ v.Derives r m metric := by
  simp only [derive, Checked.bind_eq_ok, Checked.pure_eq_ok]
  constructor
  · intro derived
    obtain ⟨x, baseline, y, current, rfl⟩ := derived
    refine ⟨rfl, fun window => ?_⟩
    cases window with
    | baseline => exact ⟨x, baseline, rfl⟩
    | current => exact ⟨y, current, rfl⟩
  · intro derives
    rcases metric with ⟨name, first, second⟩
    obtain ⟨x, baseline, rfl⟩ := derives.value .baseline
    obtain ⟨y, current, rfl⟩ := derives.value .current
    obtain rfl := derives.name
    exact ⟨x, baseline, y, current, rfl⟩

theorem derive_eq_error : v.derive r m = .error e ↔ v.FailsAt r m e := by
  constructor
  · intro failed
    cases first : v.evaluate m.expression (r.values .baseline) with
    | error other =>
      obtain rfl : other = e := by simpa [derive, first] using failed
      exact .baseline first
    | ok x =>
      cases second : v.evaluate m.expression (r.values .current) with
      | error other =>
        obtain rfl : other = e := by simpa [derive, first, second] using failed
        exact .current first second
      | ok y => simp [derive, first, second, pure, Except.pure] at failed
  · intro fails
    cases fails with
    | baseline failed => simp [derive, failed]
    | current first failed => simp [derive, first, failed]

@[simp] theorem extendRows_nil (rows : List Row) : v.extendRows [] rows = (rows, none) := by
  induction rows with
  | nil => rfl
  | cons r rest ih => simp [extendRows, extendRow, mapUntilFailure, ih]

def Extended (v : Evaluator) (metrics : List MetricExpression) (r row : Row) : Prop :=
  ∃ added, List.Forall₂ (v.Derives r) metrics added ∧
    { r with metrics := r.metrics ++ added } = row

theorem extendRow_eq_none :
    v.extendRow metrics r = (row, none) ↔ v.Extended metrics r row := by
  constructor
  · intro extended
    rcases traversed : mapUntilFailure (v.derive r) metrics with ⟨added, failure⟩
    rw [extendRow, traversed] at extended
    obtain ⟨rfl, rfl⟩ := Prod.mk.inj extended
    exact ⟨added, (mapUntilFailure_eq_none.1 traversed).imp fun _ _ => derive_eq_ok.1, rfl⟩
  · intro extended
    obtain ⟨added, all, rfl⟩ := extended
    rw [extendRow, mapUntilFailure_eq_none.2 (all.imp fun _ _ => derive_eq_ok.2)]

theorem extendRow_eq_some :
    v.extendRow metrics r = (row, some e) ↔
      ∃ before m after, metrics = before ++ m :: after ∧
        v.Extended before r row ∧ v.FailsAt r m e := by
  constructor
  · intro extended
    rcases traversed : mapUntilFailure (v.derive r) metrics with ⟨added, failure⟩
    rw [extendRow, traversed] at extended
    obtain ⟨rfl, rfl⟩ := Prod.mk.inj extended
    obtain ⟨before, m, after, split, all, failed⟩ := mapUntilFailure_eq_some.1 traversed
    exact ⟨before, m, after, split, ⟨added, all.imp fun _ _ => derive_eq_ok.1, rfl⟩,
      derive_eq_error.1 failed⟩
  · intro stopped
    obtain ⟨before, m, after, split, ⟨added, all, rfl⟩, fails⟩ := stopped
    have traversed := mapUntilFailure_eq_some.2
      ⟨before, m, after, split, all.imp fun _ _ => derive_eq_ok.2, derive_eq_error.2 fails⟩
    rw [extendRow, traversed]

variable (v metrics)

def complete (functions : List MetricFunction) (r : Row) : Checked Row :=
  ((derived functions metrics).mapM (v.derive r)).map fun added =>
    { r with metrics := r.metrics ++ added }

theorem ofPartial_addDerived (functions : List MetricFunction) (rows : List Row) :
    Checked.ofPartial (v.addDerived metrics functions rows) =
      rows.mapM (v.complete metrics functions) := by
  unfold addDerived
  induction rows with
  | nil => rfl
  | cons r rest ih =>
    rw [List.mapM_cons, ← ih, complete, ← ofPartial_mapUntilFailure, extendRows, extendRow]
    rcases mapUntilFailure (v.derive r) (derived functions metrics) with ⟨added, _ | e⟩
    · rcases v.extendRows (derived functions metrics) rest with ⟨rows, _ | e⟩ <;> rfl
    · rfl

variable {v metrics}

theorem complete_eq_ok {functions : List MetricFunction} {raw row : Row} :
    v.complete metrics functions raw = .ok row ↔
      ∃ added, (derived functions metrics).mapM (v.derive raw) = .ok added ∧
        { raw with metrics := raw.metrics ++ added } = row :=
  Checked.map_eq_ok

section Completed

variable {raw : Row}

theorem name_of_derive (derived : v.derive raw m = .ok metric) : metric.name = m.name :=
  (derive_eq_ok.1 derived).name

theorem isFinite_of_derive (derived : v.derive raw m = .ok metric) (window : Window) :
    (metric.value window).isFinite = true := by
  obtain ⟨x, -, value⟩ := (derive_eq_ok.1 derived).value window
  rw [value]
  exact isFinite_finitePart x

theorem names_of_derive {ms : List MetricExpression} {added : List Metric}
    (all : List.Forall₂ (fun m metric => v.derive raw m = .ok metric) ms added) :
    added.map (·.name) = ms.map (·.name) := by
  induction all with
  | nil => rfl
  | cons first _ ih => rw [List.map_cons, List.map_cons, name_of_derive first, ih]

theorem metricNames_of_complete (completed : v.complete metrics functions raw = .ok row) :
    row.metricNames = raw.metricNames ++ (derived functions metrics).map (·.name) := by
  obtain ⟨added, all, rfl⟩ := complete_eq_ok.1 completed
  rw [← names_of_derive (Checked.mapM_eq_ok.1 all)]
  exact List.map_append

theorem isFinite_of_complete (completed : v.complete metrics functions raw = .ok row)
    (isAdded : metric ∈ row.metrics.drop raw.metrics.length) (window : Window) :
    (metric.value window).isFinite = true := by
  obtain ⟨added, all, rfl⟩ := complete_eq_ok.1 completed
  rw [List.drop_left] at isAdded
  obtain ⟨m, -, derived⟩ := Checked.exists_of_mem_mapM all isAdded
  exact isFinite_of_derive derived window

theorem extends_of_complete (completed : v.complete metrics functions raw = .ok row) :
    row.Extends raw := by
  obtain ⟨added, -, rfl⟩ := complete_eq_ok.1 completed
  exact ⟨added, rfl⟩

end Completed

theorem derived_eq :
    derived functions metrics = metrics.filter fun m => ∀ f ∈ functions, f.metric ≠ m.name :=
  List.filter_congr fun m _ => by rw [Bool.eq_iff_iff]; simp

theorem complete_eq_ok_iff_extended :
    v.complete metrics functions r = .ok row ↔ v.Extended (derived functions metrics) r row := by
  simp only [complete_eq_ok, Checked.mapM_eq_ok, derive_eq_ok, Extended]

theorem addDerived_eq_none :
    v.addDerived metrics functions rows = (out, none) ↔
      List.Forall₂ (v.Extended (derived functions metrics)) rows out := by
  simp only [← ofPartial_eq_ok, ofPartial_addDerived, Checked.mapM_eq_ok,
    complete_eq_ok_iff_extended]

theorem extendRows_eq_some :
    v.extendRows metrics rows = (out, some e) ↔
      ∃ before r after, rows = before ++ r :: after ∧
        ∃ done row, List.Forall₂ (v.Extended metrics) before done ∧
          v.extendRow metrics r = (row, some e) ∧ out = done ++ row :: after := by
  -- The first row is extended in full and the rest decides, or it decides itself.
  induction rows generalizing out with
  | nil => simp [extendRows]
  | cons r rest ih =>
    rw [exists_split_cons, extendRows]
    rcases extended : v.extendRow metrics r with ⟨row, _ | other⟩
    · rcases later : v.extendRows metrics rest with ⟨others, failure⟩
      rw [later] at ih
      constructor
      · intro same
        obtain ⟨rfl, rfl⟩ := Prod.mk.inj same
        obtain ⟨before, stopped, after, split, done, last, all, failed, rfl⟩ := ih.1 rfl
        exact .inr ⟨before, stopped, after, split, row :: done, last,
          .cons (extendRow_eq_none.1 extended) all, failed, rfl⟩
      · intro either
        rcases either with ⟨_, _, -, failed, -⟩ |
          ⟨before, stopped, after, split, _, last, _ | ⟨first, all⟩, failed, rfl⟩
        · simp at failed
        · obtain ⟨rfl, -⟩ := Prod.mk.inj ((extendRow_eq_none.2 first).symm.trans extended)
          have stops := ih.2 ⟨before, stopped, after, split, _, last, all, failed, rfl⟩
          obtain ⟨rfl, rfl⟩ := Prod.mk.inj stops
          rfl
    · constructor
      · intro same
        obtain ⟨rfl, failed⟩ := Prod.mk.inj same
        exact .inl ⟨[], row, .nil, Prod.ext rfl failed, rfl⟩
      · intro either
        rcases either with ⟨_, _, _ | _, failed, rfl⟩ | ⟨_, _, _, -, _, _, _ | ⟨first, _⟩, -, -⟩
        · obtain ⟨rfl, same⟩ := Prod.mk.inj failed
          exact Prod.ext rfl same
        · simp [extendRow_eq_none.2 first] at extended

theorem extends_extendRows : List.Forall₂ Row.Extends (v.extendRows metrics rows).1 rows := by
  induction rows with
  | nil => exact .nil
  | cons r rest ih =>
    rw [extendRows]
    rcases extended : v.extendRow metrics r with ⟨row, _ | e⟩
    · exact .cons ⟨_, (congrArg Prod.fst extended).symm⟩ ih
    · exact .cons ⟨_, (congrArg Prod.fst extended).symm⟩ (List.forall₂_same.2 fun r _ => ⟨[], by simp⟩)

theorem exists_extended :
    (∃ row, v.Extended metrics r row) ↔
      ∀ m ∈ metrics, ∀ window, ∃ x, v.evaluate m.expression (r.values window) = .ok x := by
  constructor
  · intro extended m member window
    obtain ⟨_, added, all, rfl⟩ := extended
    obtain ⟨metric, -, derives⟩ := exists_of_forall₂ all member
    obtain ⟨x, evaluated, -⟩ := derives.value window
    exact ⟨x, evaluated⟩
  · intro evaluated
    have each : ∀ m ∈ metrics, ∃ metric, v.Derives r m metric := by
      intro m member
      obtain ⟨x, baseline⟩ := evaluated m member .baseline
      obtain ⟨y, current⟩ := evaluated m member .current
      refine ⟨⟨m.name, finitePart x, finitePart y⟩, rfl, fun window => ?_⟩
      cases window with
      | baseline => exact ⟨x, baseline, rfl⟩
      | current => exact ⟨y, current, rfl⟩
    obtain ⟨added, all⟩ := exists_forall₂ each
    exact ⟨_, added, all, rfl⟩

/-- Deriving stops at the first expression without a value; the rows before are complete, and those
behind are left as they are. -/
theorem addDerived_outcome (v : Evaluator) (metrics : List MetricExpression)
    (functions : List MetricFunction) (rows : List Row) :
    let fresh := metrics.filter fun m => ∀ f ∈ functions, f.metric ≠ m.name
    let result := v.addDerived metrics functions rows
    (∀ (r : Row) window name x, r.values window name = some x ↔
      ∃ before m after, r.metrics = before ++ m :: after ∧ m.name = name ∧
        m.value window = x ∧ ∀ later ∈ after, later.name ≠ name) ∧
    (∀ out, result = (out, none) ↔ List.Forall₂ (v.Extended fresh) rows out) ∧
    (∀ out e, result = (out, some e) ↔
      ∃ before r after, rows = before ++ r :: after ∧
        ∃ done row, List.Forall₂ (v.Extended fresh) before done ∧
          (∃ first m rest, fresh = first ++ m :: rest ∧
            v.Extended first r row ∧ v.FailsAt r m e) ∧
          out = done ++ row :: after) ∧
    (result.2 = none ↔ ∀ r ∈ rows, ∀ m ∈ fresh, ∀ window, ∃ x,
      v.evaluate m.expression (r.values window) = .ok x) ∧
    List.Forall₂ Row.Extends result.1 rows := by
  intro fresh result
  have fresh_eq : derived functions metrics = fresh := derived_eq
  refine ⟨fun r window name x => Row.values_eq_some, fun out => ?_, fun out e => ?_, ?_,
    extends_extendRows⟩
  · rw [← fresh_eq]
    exact addDerived_eq_none
  · rw [← fresh_eq]
    simp only [result, addDerived, extendRows_eq_some, extendRow_eq_some]
  · simp only [← exists_extended, ← fresh_eq]
    constructor
    · intro succeeded r member
      have all := addDerived_eq_none.1 (Prod.ext rfl succeeded : result = (result.1, none))
      obtain ⟨row, -, extended⟩ := exists_of_forall₂ all member
      exact ⟨row, extended⟩
    · intro each
      obtain ⟨out, all⟩ := exists_forall₂ each
      exact congrArg Prod.snd (addDerived_eq_none.2 all)

end Evaluator

end PeriodCompare
