import PeriodCompare.Evaluator
import PeriodCompare.Proofs.Cell

set_option autoImplicit false

namespace PeriodCompare

namespace Expr

def BinaryOp.valued : List BinaryOp :=
  [.add, .sub, .mul, .div, .mod, .pow, .eq, .ne, .lt, .gt, .le, .ge]

theorem BinaryOp.value?_eq_none (op : BinaryOp) (left right : Float) :
    op.value? left right = none ↔ op ∉ valued := by
  cases op <;> simp [value?, valued]

namespace Tree

variable {t : Tree} {values others : Values} {names : List String}

def selectorNames (t : Tree) : List String :=
  t.selectors.filterMap (·.name)

theorem selectorNames_binary (op : BinaryOp) (pairing : Pairing) (left right : Tree) :
    (binary op pairing left right).selectorNames = left.selectorNames ++ right.selectorNames :=
  List.filterMap_append

theorem eval_congr (agree : ∀ name ∈ t.selectorNames, values name = others name) :
    t.eval values = t.eval others := by
  induction t with
  | selector s =>
    rcases s with ⟨_ | name, matchers, shift⟩
    · rfl
    · have same : values name = others name := agree name List.mem_cons_self
      simp only [eval, Selector.name?, Checked.ok_bind, same]
  | paren inner ih => exact ih agree
  | neg inner ih => rw [eval, eval, ih agree]
  | binary op pairing left right ihLeft ihRight =>
    rw [selectorNames_binary, List.forall_mem_append] at agree
    rw [eval, eval, ihLeft agree.1, ihRight agree.2]
  | _ => rfl

inductive IsArithmetic : Tree → Prop where
  | number (value : Float) : IsArithmetic (.number value)
  | selector {s : Selector} (named : s.name.isSome) : IsArithmetic (.selector s)
  | paren {inner : Tree} (arithmetic : IsArithmetic inner) : IsArithmetic (.paren inner)
  | neg {inner : Tree} (arithmetic : IsArithmetic inner) : IsArithmetic (.neg inner)
  | binary {left right : Tree} (op : BinaryOp) (pairing : Pairing)
    (first : IsArithmetic left) (second : IsArithmetic right) :
    IsArithmetic (.binary op pairing left right)

theorem references_eq_ok :
    t.references = .ok names ↔ t.IsArithmetic ∧ t.selectorNames = names := by
  constructor
  · intro read
    induction t generalizing names with
    | number value => exact ⟨.number value, Except.ok.inj read⟩
    | selector s =>
      rcases s with ⟨_ | name, matchers, shift⟩
      · simp [references, Selector.name?] at read
      · exact ⟨.selector rfl, Except.ok.inj read⟩
    | paren inner ih =>
      obtain ⟨arithmetic, same⟩ := ih read
      exact ⟨.paren arithmetic, same⟩
    | neg inner ih =>
      obtain ⟨arithmetic, same⟩ := ih read
      exact ⟨.neg arithmetic, same⟩
    | binary op pairing left right ihLeft ihRight =>
      simp only [references, Checked.bind_eq_ok, Checked.pure_eq_ok] at read
      obtain ⟨leftNames, readLeft, rightNames, readRight, rfl⟩ := read
      obtain ⟨first, rfl⟩ := ihLeft readLeft
      obtain ⟨second, rfl⟩ := ihRight readRight
      exact ⟨.binary op pairing first second, selectorNames_binary op pairing left right⟩
    | _ => simp [references] at read
  · rintro ⟨arithmetic, rfl⟩
    induction arithmetic with
    | number value => rfl
    | @selector s named =>
      obtain ⟨name, named⟩ := Option.isSome_iff_exists.1 named
      simp [references, Selector.name?, selectorNames, selectors, named]
    | paren _ ih => exact ih
    | neg _ ih => exact ih
    | binary op pairing first second ihFirst ihSecond =>
      rw [references, ihFirst, ihSecond, selectorNames_binary]
      rfl

theorem names_eq_ok :
    t.names = .ok names ↔ t.IsArithmetic ∧ distinct t.selectorNames = names := by
  simp only [Tree.names, Checked.map_eq_ok, references_eq_ok]
  constructor
  · rintro ⟨_, ⟨arithmetic, rfl⟩, once⟩
    exact ⟨arithmetic, once⟩
  · rintro ⟨arithmetic, once⟩
    exact ⟨_, ⟨arithmetic, rfl⟩, once⟩

mutual

def operators : Tree → List BinaryOp
  | .number _ | .text _ | .selector _ | .range _ _ _ => []
  | .subquery inner _ _ _ => inner.operators
  | .paren inner => inner.operators
  | .neg inner => inner.operators
  | .binary op _ left right => left.operators ++ right.operators ++ [op]
  | .call _ arguments => operatorsOfAll arguments

def operatorsOfAll : List Tree → List BinaryOp
  | [] => []
  | t :: rest => t.operators ++ operatorsOfAll rest

end

def operatorFault? (t : Tree) : Option Failure :=
  if ∀ op ∈ t.operators, op ∈ BinaryOp.valued then none
  else some (.expression .unsupportedOperator)

theorem operatorFault?_binary (op : BinaryOp) (pairing : Pairing) (left right : Tree) :
    (binary op pairing left right).operatorFault? =
      left.operatorFault?.or (right.operatorFault?.or
        (if op ∈ BinaryOp.valued then none else some (.expression .unsupportedOperator))) := by
  simp only [operatorFault?, operators, List.forall_mem_append, List.forall_mem_singleton,
    and_assoc]
  split_ifs <;> simp_all

theorem operatorFault?_eq_some {e : Failure} :
    t.operatorFault? = some e ↔
      e = .expression .unsupportedOperator ∧ ∃ op ∈ t.operators, op ∉ BinaryOp.valued := by
  unfold operatorFault?
  split <;> simp_all [eq_comm]

theorem failure?_eval (read : t.references = .ok names)
    (bound : ∀ name ∈ names, (values name).isSome) :
    (t.eval values).failure? = t.operatorFault? := by
  induction t generalizing names with
  | number value => rfl
  | selector s =>
    simp only [references, Checked.bind_eq_ok, Checked.pure_eq_ok] at read
    obtain ⟨name, named, rfl⟩ := read
    obtain ⟨x, found⟩ := Option.isSome_iff_exists.1 (bound name List.mem_cons_self)
    rw [eval, named, Checked.ok_bind, found]
    rfl
  | paren inner ih => exact ih read bound
  | neg inner ih =>
    rw [eval, Checked.failure?_bind_pure]
    exact ih read bound
  | binary op pairing left right ihLeft ihRight =>
    simp only [references, Checked.bind_eq_ok, Checked.pure_eq_ok] at read
    obtain ⟨leftNames, readLeft, rightNames, readRight, rfl⟩ := read
    rw [List.forall_mem_append] at bound
    rw [eval, operatorFault?_binary, ← ihLeft readLeft bound.1, ← ihRight readRight bound.2]
    refine Checked.failure?_bind fun x => Checked.failure?_bind fun y => ?_
    by_cases valued : op ∈ BinaryOp.valued
    · obtain ⟨z, value⟩ :=
        Option.ne_none_iff_exists'.1 (mt (op.value?_eq_none x y).1 (not_not.2 valued))
      rw [value, if_pos valued]
      rfl
    · rw [(op.value?_eq_none x y).2 valued, if_neg valued]
      rfl
  | _ => simp [references] at read

theorem bound_of_eval {x : Float} (evaluated : t.eval values = .ok x) :
    t.IsArithmetic ∧ ∀ name ∈ t.selectorNames, (values name).isSome := by
  induction t generalizing x with
  | number value => exact ⟨.number value, by simp [selectorNames, selectors]⟩
  | selector s =>
    rcases s with ⟨_ | name, matchers, shift⟩
    · simp [eval, Selector.name?] at evaluated
    · refine ⟨.selector rfl, fun other member => ?_⟩
      obtain rfl := List.mem_singleton.1 member
      cases found : values other with
      | none => simp [eval, Selector.name?, found] at evaluated
      | some value => rfl
  | paren inner ih =>
    obtain ⟨arithmetic, bound⟩ := ih evaluated
    exact ⟨.paren arithmetic, bound⟩
  | neg inner ih =>
    simp only [eval, Checked.bind_eq_ok] at evaluated
    obtain ⟨y, evaluated, -⟩ := evaluated
    obtain ⟨arithmetic, bound⟩ := ih evaluated
    exact ⟨.neg arithmetic, bound⟩
  | binary op pairing left right ihLeft ihRight =>
    simp only [eval, Checked.bind_eq_ok] at evaluated
    obtain ⟨y, evaluatedLeft, z, evaluatedRight, -⟩ := evaluated
    obtain ⟨first, boundLeft⟩ := ihLeft evaluatedLeft
    obtain ⟨second, boundRight⟩ := ihRight evaluatedRight
    refine ⟨.binary op pairing first second, ?_⟩
    rw [selectorNames_binary, List.forall_mem_append]
    exact ⟨boundLeft, boundRight⟩
  | _ => simp [eval] at evaluated

theorem exists_eval :
    (∃ x, t.eval values = .ok x) ↔
      (t.IsArithmetic ∧ ∀ name ∈ t.selectorNames, (values name).isSome) ∧
        ∀ op ∈ t.operators, op ∈ BinaryOp.valued := by
  have valued (read : t.IsArithmetic ∧ ∀ name ∈ t.selectorNames, (values name).isSome) :
      (∃ x, t.eval values = .ok x) ↔ ∀ op ∈ t.operators, op ∈ BinaryOp.valued := by
    rw [← Checked.failure?_eq_none, failure?_eval (references_eq_ok.2 ⟨read.1, rfl⟩) read.2]
    simp [operatorFault?]
  constructor
  · rintro ⟨x, evaluated⟩
    have read := bound_of_eval evaluated
    exact ⟨read, (valued read).1 ⟨x, evaluated⟩⟩
  · rintro ⟨read, operators⟩
    exact (valued read).2 operators

theorem names_and_value (t : Tree) :
    ((∃ names, t.names = .ok names) ↔ t.IsArithmetic) ∧
    (∀ names, t.names = .ok names →
      names.Nodup ∧ (∀ name, name ∈ names ↔ name ∈ t.selectorNames) ∧
        names.Pairwise fun a b => t.selectorNames.idxOf a < t.selectorNames.idxOf b) ∧
    (∀ values, (∃ x, t.eval values = .ok x) ↔
      (∃ names, t.names = .ok names ∧ ∀ name ∈ names, (values name).isSome) ∧
        ∀ op ∈ t.operators, op ∈ BinaryOp.valued) ∧
    ∀ values others, (∀ name ∈ t.selectorNames, values name = others name) →
      t.eval values = t.eval others := by
  refine ⟨?_, fun names listed => ?_, fun values => ?_, fun values others => eval_congr⟩
  · simp [names_eq_ok]
  · obtain ⟨-, rfl⟩ := names_eq_ok.1 listed
    exact ⟨nodup_distinct _, fun name => mem_distinct, pairwise_distinct _⟩
  · have bound : (∃ names, t.names = .ok names ∧ ∀ name ∈ names, (values name).isSome) ↔
        t.IsArithmetic ∧ ∀ name ∈ t.selectorNames, (values name).isSome := by
      simp only [names_eq_ok, and_assoc, exists_and_left, exists_eq_left', mem_distinct]
    rw [bound, exists_eval]

end Tree

end Expr

/-- The value of an expression depends on the values of the names it refers to and on no other. -/
def Evaluator.Local (v : Evaluator) : Prop :=
  ∀ source names, v.references source = .ok names →
    ∀ values others : Expr.Values, (∀ name ∈ names, values name = others name) →
      v.evaluate source values = v.evaluate source others

theorem Evaluator.local_reading (parse : String → Checked Expr.Tree) : (reading parse).Local := by
  intro source names read values others agree
  simp only [reading, Checked.bind_eq_ok] at read
  obtain ⟨t, parsed, named⟩ := read
  obtain ⟨references, read, rfl⟩ := Checked.map_eq_ok.1 named
  simp only [reading, parsed, Checked.ok_bind]
  obtain ⟨-, rfl⟩ := Expr.Tree.references_eq_ok.1 read
  exact Expr.Tree.eval_congr fun name member => agree name (mem_distinct.2 member)

section Distinct

variable {α : Type} [DecidableEq α]

theorem exists_distinctAfter_append (seen l more : List α) :
    ∃ added, distinctAfter seen (l ++ more) = distinctAfter seen l ++ added := by
  induction l generalizing seen with
  | nil => exact ⟨_, rfl⟩
  | cons a rest ih =>
    rw [List.cons_append, distinctAfter, distinctAfter]
    split
    · exact ih seen
    · obtain ⟨added, later⟩ := ih (a :: seen)
      exact ⟨added, congrArg (a :: ·) later⟩

theorem exists_distinct_append (l more : List α) :
    ∃ added, distinct (l ++ more) = distinct l ++ added ∧ ∀ a ∈ added, a ∈ more ∧ a ∉ l := by
  obtain ⟨added, appended⟩ := exists_distinctAfter_append [] l more
  have split : distinct (l ++ more) = distinct l ++ added := appended
  refine ⟨added, split, fun a member => ?_⟩
  have apart : a ∉ l := by
    have nodup := split ▸ nodup_distinct (l ++ more)
    obtain ⟨-, -, disjoint⟩ := List.nodup_append.1 nodup
    exact fun before => disjoint a (mem_distinct.2 before) a member rfl
  have inside : a ∈ distinct (l ++ more) := split ▸ List.mem_append_right _ member
  exact ⟨(List.mem_append.1 (mem_distinct.1 inside)).resolve_left apart, apart⟩

end Distinct

theorem MetricFunction.eq_sum (f : MetricFunction) : f = .sum f.metric := by
  rcases f with ⟨⟨⟩, metric⟩
  rfl

theorem MetricFunction.map_metric_sum (names : List String) :
    (names.map MetricFunction.sum).map (·.metric) = names := by
  rw [List.map_map]
  exact List.map_id _

namespace Evaluator

variable {v : Evaluator} {metrics : List MetricExpression} {functions wider : List MetricFunction}

theorem columns_of_references {perMetric : List (List String)}
    (read : List.Forall₂ (fun m names => v.references m.expression = .ok names) metrics perMetric)
    (once : (distinct perMetric.flatten).map .sum = functions) :
    v.columns metrics = .ok functions := by
  rw [columns, Checked.mapM_eq_ok.2 read, ← once]
  rfl

theorem exists_references_of_columns (read : v.columns metrics = .ok functions)
    {m : MetricExpression} (member : m ∈ metrics) :
    ∃ names, v.references m.expression = .ok names ∧
      ∀ name ∈ names, MetricFunction.sum name ∈ functions := by
  simp only [columns, Checked.bind_eq_ok, Checked.pure_eq_ok] at read
  obtain ⟨perMetric, all, rfl⟩ := read
  obtain ⟨names, inAll, read⟩ := exists_of_forall₂ (Checked.mapM_eq_ok.1 all) member
  refine ⟨names, read, fun name named => List.mem_map_of_mem (mem_distinct.2 ?_)⟩
  exact List.mem_flatten.2 ⟨names, inAll, named⟩

theorem columns_append {m : MetricExpression} (read : v.columns (metrics ++ [m]) = .ok wider) :
    ∃ functions names added, v.columns metrics = .ok functions ∧
      v.references m.expression = .ok names ∧ wider = functions ++ added ∧
        ∀ f ∈ added, f.metric ∈ names ∧ f ∉ functions := by
  simp only [columns, List.mapM_append, List.mapM_cons, List.mapM_nil, Checked.bind_eq_ok,
    Checked.pure_eq_ok] at read
  obtain ⟨_, ⟨perMetric, all, _, ⟨names, last, _, rfl, rfl⟩, rfl⟩, rfl⟩ := read
  obtain ⟨added, appended, new⟩ := exists_distinct_append perMetric.flatten names
  have before : v.columns metrics = _ := columns_of_references (Checked.mapM_eq_ok.1 all) rfl
  refine ⟨_, names, added.map .sum, before, last, ?_, ?_⟩
  · simp [appended]
  · intro f member
    obtain ⟨name, inAdded, rfl⟩ := List.mem_map.1 member
    refine ⟨(new name inAdded).1, fun before => (new name inAdded).2 ?_⟩
    obtain ⟨other, inBefore, same⟩ := List.mem_map.1 before
    cases same
    exact mem_distinct.1 inBefore

end Evaluator

end PeriodCompare
