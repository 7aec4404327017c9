import PeriodCompare.Proofs.Words

set_option autoImplicit false

namespace PeriodCompare

inductive Checked.FailsByExpression {α : Type} : Checked α → Prop where
  | ok (a : α) : FailsByExpression (.ok a)
  | fault (fault : ExpressionFault) : FailsByExpression (.error (.expression fault))

theorem Checked.FailsByExpression.bind {α β : Type} {step : Checked α} {next : α → Checked β}
    (first : FailsByExpression step) (later : ∀ a, FailsByExpression (next a)) :
    FailsByExpression (step >>= next) := by
  cases first with
  | ok a => exact later a
  | fault fault => exact .fault fault

theorem Checked.FailsByExpression.map {α β : Type} {step : Checked α}
    (fails : FailsByExpression step) (f : α → β) : FailsByExpression (step.map f) := by
  cases fails with
  | ok a => exact .ok (f a)
  | fault fault => exact .fault fault

namespace Expr

def Selector.IsBare (s : Selector) : Prop :=
  s.matchers = [] ∧ s.shift.offset = none ∧ s.shift.fixed = none

def Selector.bare (s : Selector) : Selector :=
  ⟨s.name, [], .still⟩

theorem Selector.isBare_bare (s : Selector) : s.bare.IsBare :=
  ⟨rfl, rfl, rfl⟩

namespace Tree

variable {t : Tree} {values : Values}

mutual

def bare : Tree → Tree
  | .number value => .number value
  | .text content => .text content
  | .selector s => .selector s.bare
  | .range s span _ => .range s.bare span .still
  | .subquery inner span step _ => .subquery inner.bare span step .still
  | .paren inner => .paren inner.bare
  | .neg inner => .neg inner.bare
  | .binary op pairing left right => .binary op pairing left.bare right.bare
  | .call f arguments => .call f (bareAll arguments)

def bareAll : List Tree → List Tree
  | [] => []
  | t :: rest => t.bare :: bareAll rest

end

theorem bareAll_eq (arguments : List Tree) : bareAll arguments = arguments.map bare := by
  induction arguments with
  | nil => rfl
  | cons t rest ih => rw [bareAll, ih, List.map_cons]

theorem selectors_bare (t : Tree) : t.bare.selectors = t.selectors.map Selector.bare := by
  induction t with
  | number _ | text _ | selector _ | range _ _ _ => rfl
  | subquery _ _ _ _ ih | paren _ ih | neg _ ih => exact ih
  | binary _ _ left right ihLeft ihRight =>
    simp only [bare, selectors, ihLeft, ihRight, List.map_append]
  | call f arguments ih =>
    rw [bare, selectors, selectors, selectorsOfAll_eq, selectorsOfAll_eq, bareAll_eq,
      List.flatMap_map, List.map_flatMap]
    exact List.flatMap_congr ih

theorem isBare_of_mem_bare {s : Selector} (member : s ∈ t.bare.selectors) : s.IsBare := by
  rw [selectors_bare] at member
  obtain ⟨old, -, rfl⟩ := List.mem_map.1 member
  exact old.isBare_bare

theorem references_bare (t : Tree) : t.bare.references = t.references := by
  induction t with
  | paren inner ih => exact ih
  | neg inner ih => exact ih
  | binary op pairing left right ihLeft ihRight => simp only [bare, references, ihLeft, ihRight]
  | _ => rfl

theorem names_bare (t : Tree) : t.bare.names = t.names := by
  rw [Tree.names, Tree.names, references_bare]

theorem eval_bare (t : Tree) (values : Values) : t.bare.eval values = t.eval values := by
  induction t with
  | paren inner ih => exact ih
  | neg inner ih => simp only [bare, eval, ih]
  | binary op pairing left right ihLeft ihRight => simp only [bare, eval, ihLeft, ihRight]
  | _ => rfl

theorem failsByExpression_name? (s : Selector) : Checked.FailsByExpression s.name? := by
  unfold Selector.name?
  split
  · exact .ok _
  · exact .fault _

theorem failsByExpression_references (t : Tree) : Checked.FailsByExpression t.references := by
  induction t with
  | number value => exact .ok _
  | selector s => exact (failsByExpression_name? s).bind fun name => .ok _
  | paren inner ih => exact ih
  | neg inner ih => exact ih
  | binary op pairing left right ihLeft ihRight =>
    exact ihLeft.bind fun names => ihRight.bind fun others => .ok _
  | _ => exact .fault _

theorem failsByExpression_eval (t : Tree) (values : Values) :
    Checked.FailsByExpression (t.eval values) := by
  induction t with
  | number value => exact .ok _
  | selector s =>
    refine (failsByExpression_name? s).bind fun name => ?_
    split
    · exact .ok _
    · exact .fault _
  | paren inner ih => exact ih
  | neg inner ih => exact ih.bind fun x => .ok _
  | binary op pairing left right ihLeft ihRight =>
    refine ihLeft.bind fun x => ihRight.bind fun y => ?_
    split
    · exact .ok _
    · exact .fault _
  | _ => exact .fault _

end Tree

theorem inherited_isBare {words : List Token} (noBrace : .symbol .leftBrace ∉ words)
    (still : ¬ MovesTime words) : Inherited Selector.IsBare words where
  named token _ name _ matchers braces := by
    have none : matchers = [] := by_contra fun some => noBrace (braces some)
    exact ⟨none, rfl, rfl⟩
  unnamed brace := absurd brace noBrace
  moved moves := absurd moves still

end Expr

namespace Evaluator

variable {parse? : String → Option Expr.Tree} {source : String}

theorem failsByExpression_parsedBy (parse? : String → Option Expr.Tree) (source : String) :
    Checked.FailsByExpression (parsedBy parse? source) := by
  unfold parsedBy
  split
  · exact .ok _
  · exact .fault _

theorem evaluate_of_parse? {t : Expr.Tree} (parsed : parse? source = some t)
    (values : Expr.Values) :
    (reading (parsedBy parse?)).evaluate source values = t.eval values := by
  simp only [reading, parsedBy, parsed, Checked.ok_bind]

theorem evaluate_eq_ok {values : Expr.Values} {x : Float} :
    (reading (parsedBy parse?)).evaluate source values = .ok x ↔
      ∃ t, parse? source = some t ∧ t.eval values = .ok x := by
  cases parsed : parse? source with
  | none => simp [reading, parsedBy, parsed]
  | some t => simp [evaluate_of_parse? parsed]

def HasModifier (source : String) : Prop :=
  ∃ tokens, Expr.tokens? source.toList = some tokens ∧
    (.symbol .leftBrace ∈ tokens ∨ Expr.MovesTime tokens)

theorem hasModifier_of_parse? {t : Expr.Tree} (parsed : Expr.Tree.parse? source = some t)
    {s : Expr.Selector} (member : s ∈ t.selectors) (modified : ¬ s.IsBare) :
    HasModifier source := by
  cases lexed : Expr.tokens? source.toList with
  | none => simp [Expr.Tree.parse?, lexed] at parsed
  | some tokens =>
    refine ⟨tokens, lexed, by_contra fun plain => ?_⟩
    rw [not_or] at plain
    exact modified ((Expr.inherited_isBare plain.1 plain.2).of_parse? lexed parsed s member)

/-- Whatever the grammar, matchers, `offset` and `@` do not count in what is accepted. In this one
they stand in the text as braces, `offset` or `@`. -/
theorem reads_bare (parse? : String → Option Expr.Tree) (source : String) :
    let v := reading (parsedBy parse?)
    ((∃ names, v.references source = .ok names) ↔
      ∃ t, parse? source = some t ∧ t.IsArithmetic) ∧
    ((∃ values x, v.evaluate source values = .ok x) ↔
      ∃ t, parse? source = some t ∧ t.IsArithmetic ∧
        ∀ op ∈ t.operators, op ∈ Expr.BinaryOp.valued) ∧
    Checked.FailsByExpression (v.references source) ∧
    (∀ values, Checked.FailsByExpression (v.evaluate source values)) ∧
    (∀ t, parse? source = some t →
      v.references source = t.bare.names ∧
      (∀ values, v.evaluate source values = t.bare.eval values) ∧
        ∀ s ∈ t.bare.selectors, s.IsBare) ∧
    ∀ t, Expr.Tree.parse? source = some t → (∃ s ∈ t.selectors, ¬ s.IsBare) →
      HasModifier source := by
  refine ⟨?_, ?_, ?_, fun values => ?_, fun t parsed => ⟨?_, fun values => ?_, ?_⟩, ?_⟩
  · simp only [references_eq_ok, Expr.Tree.names_eq_ok]
    constructor
    · rintro ⟨names, t, parsed, isArithmetic, -⟩
      exact ⟨t, parsed, isArithmetic⟩
    · rintro ⟨t, parsed, isArithmetic⟩
      exact ⟨_, t, parsed, isArithmetic, rfl⟩
  · simp only [evaluate_eq_ok]
    constructor
    · rintro ⟨values, x, t, parsed, evaluated⟩
      obtain ⟨⟨isArithmetic, -⟩, operators⟩ := Expr.Tree.exists_eval.1 ⟨x, evaluated⟩
      exact ⟨t, parsed, isArithmetic, operators⟩
    · rintro ⟨t, parsed, isArithmetic, operators⟩
      have bound : ∀ name ∈ t.selectorNames, ((fun _ => some 1.0) name : Option Float).isSome :=
        fun _ _ => rfl
      obtain ⟨x, evaluated⟩ := Expr.Tree.exists_eval.2 ⟨⟨isArithmetic, bound⟩, operators⟩
      exact ⟨_, x, t, parsed, evaluated⟩
  · exact (failsByExpression_parsedBy parse? source).bind
      fun t => t.failsByExpression_references.map _
  · exact (failsByExpression_parsedBy parse? source).bind
      fun t => t.failsByExpression_eval values
  · rw [t.names_bare, references_of_parse? parsed]
  · rw [t.eval_bare, evaluate_of_parse? parsed]
  · exact fun s member => Expr.Tree.isBare_of_mem_bare member
  · rintro t parsed ⟨s, member, modified⟩
    exact hasModifier_of_parse? parsed member modified

def earlierClicks : Expr.Selector :=
  ⟨some "clicks", [⟨"country", .equal, ['D', 'E']⟩], ⟨some (Expr.spanSeconds 300000), none⟩⟩

theorem references_earlierClicks :
    Expr.Tree.parse? "clicks\x7bcountry=\"DE\"\x7d offset 5m" = some (.selector earlierClicks) ∧
      ¬ earlierClicks.IsBare ∧
      arithmetic.references "clicks\x7bcountry=\"DE\"\x7d offset 5m" = .ok ["clicks"] := by
  have parsed : Expr.Tree.parse? "clicks\x7bcountry=\"DE\"\x7d offset 5m" =
      some (.selector earlierClicks) := by
    have lexed : Expr.tokens? "clicks\x7bcountry=\"DE\"\x7d offset 5m".toList =
        some [.name "clicks", .symbol .leftBrace, .name "country", .symbol .assign,
          .text ['D', 'E'], .symbol .rightBrace, .keyword .offset "offset", .span 300000] := by
      cbv
    rw [Expr.Tree.parse?, lexed]
    rfl
  refine ⟨parsed, fun bare => ?_, references_of_parse? parsed⟩
  cases bare.1

end Evaluator

end PeriodCompare
