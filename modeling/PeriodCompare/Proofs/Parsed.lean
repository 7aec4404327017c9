import PeriodCompare.Expr.Grammar

set_option autoImplicit false

namespace PeriodCompare.Expr

section Rests

variable {tokens rest : List Token} {labels : List String} {matchers : List Matcher}

theorem subset_of_takeLabelsRest? (taken : takeLabelsRest? tokens = some (labels, rest)) :
    rest ⊆ tokens := by
  fun_induction takeLabelsRest? tokens generalizing labels rest with
  | case1 after =>
    cases taken
    exact List.subset_cons_self _ _
  | case2 token after _ ih =>
    simp only [Option.bind_eq_bind, Option.bind_eq_some_iff] at taken
    obtain ⟨_, -, ⟨_, _⟩, read, same⟩ := taken
    cases same
    exact List.Subset.trans (ih read) (List.subset_append_right [_, _] _)
  | case3 token after =>
    simp only [Option.bind_eq_bind, Option.bind_eq_some_iff] at taken
    obtain ⟨_, -, same⟩ := taken
    cases same
    exact List.subset_append_right [_, _] _
  | case4 => cases taken

theorem subset_of_takeLabels? (taken : takeLabels? tokens = some (labels, rest)) :
    rest ⊆ tokens := by
  unfold takeLabels? at taken
  split at taken
  · exact List.subset_cons_of_subset _ (subset_of_takeLabelsRest? taken)
  · cases taken

theorem subset_of_takeChoice? {choice : Option LabelChoice}
    (taken : takeChoice? tokens = some (choice, rest)) : rest ⊆ tokens := by
  unfold takeChoice? at taken
  split at taken
  case h_3 =>
    cases taken
    exact List.Subset.refl _
  all_goals
    simp only [Option.bind_eq_bind, Option.bind_eq_some_iff] at taken
    obtain ⟨⟨_, _⟩, read, same⟩ := taken
    cases same
    exact List.subset_cons_of_subset _ (subset_of_takeLabels? read)

theorem subset_of_takeGroupLabels? (taken : takeGroupLabels? tokens = some (labels, rest)) :
    rest ⊆ tokens := by
  unfold takeGroupLabels? at taken
  split at taken
  · exact List.subset_cons_of_subset _ (subset_of_takeLabelsRest? taken)
  · cases taken
    exact List.Subset.refl _

theorem subset_of_takeGroup? {chosen : Bool} {group : Option (List String)}
    (taken : takeGroup? chosen tokens = some (group, rest)) : rest ⊆ tokens := by
  unfold takeGroup? at taken
  split at taken
  case h_3 =>
    cases taken
    exact List.Subset.refl _
  all_goals
    split at taken
    · simp only [Option.map_eq_some_iff] at taken
      obtain ⟨⟨_, _⟩, read, same⟩ := taken
      cases same
      exact List.subset_cons_of_subset _ (subset_of_takeGroupLabels? read)
    · cases taken

theorem takeBool_subset (tokens : List Token) : (takeBool tokens).2 ⊆ tokens := by
  unfold takeBool
  split
  · exact List.subset_cons_self _ _
  · exact List.Subset.refl _

theorem subset_of_takePairing? {pairing : Pairing}
    (taken : takePairing? tokens = some (pairing, rest)) : rest ⊆ tokens := by
  simp only [takePairing?, Option.bind_eq_bind, Option.bind_eq_some_iff] at taken
  obtain ⟨⟨_, _⟩, chosen, ⟨_, _⟩, grouped, same⟩ := taken
  cases same
  have beforeChoice := List.Subset.trans (subset_of_takeChoice? chosen) (takeBool_subset tokens)
  exact List.Subset.trans (subset_of_takeGroup? grouped) beforeChoice

theorem subset_of_takeGrouping? {grouping : Option Grouping}
    (taken : takeGrouping? tokens = some (grouping, rest)) : rest ⊆ tokens := by
  unfold takeGrouping? at taken
  split at taken
  case h_3 =>
    cases taken
    exact List.Subset.refl _
  all_goals
    simp only [Option.bind_eq_bind, Option.bind_eq_some_iff] at taken
    obtain ⟨⟨_, _⟩, read, same⟩ := taken
    cases same
    exact List.subset_cons_of_subset _ (subset_of_takeLabels? read)

theorem subset_of_takeMatchersRest? (taken : takeMatchersRest? tokens = some (matchers, rest)) :
    rest ⊆ tokens := by
  fun_induction takeMatchersRest? tokens generalizing matchers rest with
  | case1 =>
    simp only [Option.bind_eq_bind, Option.bind_eq_some_iff] at taken
    obtain ⟨_, -, same⟩ := taken
    cases same
    exact List.subset_append_right [_, _, _, _] _
  | case2 =>
    simp only [Option.bind_eq_bind, Option.bind_eq_some_iff] at taken
    obtain ⟨_, -, same⟩ := taken
    cases same
    exact List.subset_append_right [_, _, _, _, _] _
  | case3 label op value after _ ih | case4 label op value spelling after ih =>
    simp only [Option.bind_eq_bind, Option.bind_eq_some_iff] at taken
    obtain ⟨_, -, ⟨_, _⟩, read, same⟩ := taken
    cases same
    exact List.Subset.trans (ih read) (List.subset_append_right [_, _, _, _] _)
  | case5 => cases taken

theorem subset_of_takeMatchers? (taken : takeMatchers? tokens = some (matchers, rest)) :
    rest ⊆ tokens := by
  unfold takeMatchers? at taken
  split at taken
  · cases taken
    exact List.subset_cons_self _ _
  · simp only [Option.bind_eq_bind, Option.bind_eq_some_iff] at taken
    obtain ⟨⟨_, _⟩, read, same⟩ := taken
    split at same
    · cases same
      exact subset_of_takeMatchersRest? read
    · cases same

theorem subset_of_takeOffset? {seconds : Float}
    (taken : takeOffset? tokens = some (seconds, rest)) : rest ⊆ tokens := by
  unfold takeOffset? at taken
  split at taken
  case h_4 => cases taken
  all_goals
    simp only [Option.bind_eq_bind, Option.bind_eq_some_iff] at taken
    obtain ⟨_, -, same⟩ := taken
    cases same
  case h_1 | h_2 => exact List.subset_append_right [_, _] _
  case h_3 => exact List.subset_cons_self _ _

theorem subset_of_takeFixed? {time : FixedTime}
    (taken : takeFixed? tokens = some (time, rest)) : rest ⊆ tokens := by
  unfold takeFixed? at taken
  split at taken
  case h_3 | h_4 =>
    cases taken
    exact List.subset_append_right [_, _, _] _
  case h_6 => cases taken
  all_goals
    simp only [Option.bind_eq_bind, Option.bind_eq_some_iff] at taken
    obtain ⟨_, -, same⟩ := taken
    cases same
  case h_1 | h_2 => exact List.subset_append_right [_, _] _
  case h_5 => exact List.subset_cons_self _ _

end Rests

namespace Tree

variable {e inner left right : Tree} {arguments : List Tree}

theorem selectors_of_negate? (made : inner.negate? = some e) : e.selectors = inner.selectors := by
  unfold negate? at made
  split at made <;> cases made
  rfl

theorem selectors_of_binary? {op : BinaryOp} {pairing : Pairing}
    (made : binary? op pairing left right = some e) :
    e.selectors = left.selectors ++ right.selectors := by
  unfold binary? at made
  split at made <;> cases made
  rfl

theorem selectors_of_call? {f : Callee} (made : call? f arguments = some e) :
    e.selectors = arguments.flatMap selectors := by
  unfold call? at made
  split at made <;> cases made
  exact selectorsOfAll_eq arguments

theorem selectors_of_range? {span : Float} (made : range? span inner = some e) :
    e.selectors = inner.selectors := by
  unfold range? at made
  split at made
  · split at made <;> cases made
    rfl
  · cases made

theorem selectors_of_subquery? {span : Float} {step : Option Float}
    (made : subquery? span step inner = some e) : e.selectors = inner.selectors := by
  unfold subquery? at made
  split at made <;> cases made
  rfl

theorem selectors_of_reshift? {change : Shift → Option Shift}
    (made : inner.reshift? change = some e) {s : Selector} (member : s ∈ e.selectors) :
    ∃ old ∈ inner.selectors, ∃ shift, s = { old with shift } := by
  unfold reshift? at made
  split at made
  case h_4 => cases made
  all_goals
    simp only [Option.bind_eq_bind, Option.bind_eq_some_iff] at made
    obtain ⟨shift, -, same⟩ := made
    cases same
  case h_1 => exact ⟨_, List.mem_cons_self, shift, List.mem_singleton.1 member⟩
  case h_2 | h_3 => exact ⟨s, member, s.shift, rfl⟩

end Tree

def MovesTime (tokens : List Token) : Prop :=
  .symbol .at ∈ tokens ∨ ∃ spelling, .keyword .offset spelling ∈ tokens

/-- A property that each selector has when it is read off these words, and keeps. -/
structure Inherited (P : Selector → Prop) (tokens : List Token) : Prop where
  named : ∀ token ∈ tokens, ∀ name, metricOf? token = some name →
    ∀ matchers, (matchers ≠ [] → .symbol .leftBrace ∈ tokens) → P ⟨some name, matchers, .still⟩
  unnamed : .symbol .leftBrace ∈ tokens → ∀ matchers, P ⟨none, matchers, .still⟩
  moved : MovesTime tokens → ∀ s, P s → ∀ shift, P { s with shift }

section Selectors

variable {P : Selector → Prop} {words tokens rest : List Token} {e left : Tree} {fuel level : Nat}

theorem Inherited.of_takeNamed? (inherited : Inherited P words) {token : Token} {name : String}
    (word : token ∈ words) (named : metricOf? token = some name) (inside : tokens ⊆ words)
    (taken : takeNamed? name tokens = some (e, rest)) :
    rest ⊆ words ∧ ∀ s ∈ e.selectors, P s := by
  have built {matchers : List Matcher} (braces : matchers ≠ [] → .symbol .leftBrace ∈ words)
      (made : namedSelector? name matchers = some e) : ∀ s ∈ e.selectors, P s := by
    unfold namedSelector? at made
    split at made <;> cases made
    exact List.forall_mem_singleton.2 (inherited.named token word name named matchers braces)
  unfold takeNamed? at taken
  split at taken
  next after =>
    simp only [Option.bind_eq_bind, Option.bind_eq_some_iff] at taken
    obtain ⟨⟨matchers, _⟩, read, _, made, same⟩ := taken
    cases same
    have brace : .symbol .leftBrace ∈ words := inside List.mem_cons_self
    refine ⟨?_, built (fun _ => brace) made⟩
    exact List.Subset.trans (subset_of_takeMatchers? read) (List.subset_of_cons_subset inside)
  next =>
    simp only [Option.bind_eq_bind, Option.bind_eq_some_iff] at taken
    obtain ⟨_, made, same⟩ := taken
    cases same
    exact ⟨inside, built (absurd rfl) made⟩

theorem Inherited.of_unnamedSelector? (inherited : Inherited P words) {matchers : List Matcher}
    (brace : .symbol .leftBrace ∈ words) (made : unnamedSelector? matchers = some e) :
    ∀ s ∈ e.selectors, P s := by
  unfold unnamedSelector? at made
  split at made <;> cases made
  exact List.forall_mem_singleton.2 (inherited.unnamed brace matchers)

theorem Inherited.of_reshift? (inherited : Inherited P words) (moves : MovesTime words)
    {change : Shift → Option Shift} (all : ∀ s ∈ left.selectors, P s)
    (made : left.reshift? change = some e) : ∀ s ∈ e.selectors, P s := by
  intro s member
  obtain ⟨old, inside, shift, rfl⟩ := Tree.selectors_of_reshift? made member
  exact inherited.moved moves old (all old inside) shift

theorem Inherited.of_takeSuffixes? (inherited : Inherited P words) (inside : tokens ⊆ words)
    (all : ∀ s ∈ left.selectors, P s) (taken : takeSuffixes? fuel left tokens = some (e, rest)) :
    rest ⊆ words ∧ ∀ s ∈ e.selectors, P s := by
  fun_induction takeSuffixes? fuel left tokens with
  | case1 left fuel spelling after ih =>
    simp only [Option.bind_eq_bind, Option.bind_eq_some_iff] at taken
    obtain ⟨⟨_, later⟩, read, moved, made, taken⟩ := taken
    have moves : MovesTime words := .inr ⟨spelling, inside List.mem_cons_self⟩
    refine ih later moved ?_ (inherited.of_reshift? moves all made) taken
    exact List.Subset.trans (subset_of_takeOffset? read) (List.subset_of_cons_subset inside)
  | case2 left fuel after ih =>
    simp only [Option.bind_eq_bind, Option.bind_eq_some_iff] at taken
    obtain ⟨⟨_, later⟩, read, moved, made, taken⟩ := taken
    have moves : MovesTime words := .inl (inside List.mem_cons_self)
    refine ih later moved ?_ (inherited.of_reshift? moves all made) taken
    exact List.Subset.trans (subset_of_takeFixed? read) (List.subset_of_cons_subset inside)
  | case3 left fuel span after ih =>
    simp only [Option.bind_eq_bind, Option.bind_eq_some_iff] at taken
    obtain ⟨_, -, range, made, taken⟩ := taken
    refine ih range (List.Subset.trans (List.subset_append_right [_, _, _] _) inside) ?_ taken
    rwa [Tree.selectors_of_range? made]
  | case4 left fuel span after ih =>
    simp only [Option.bind_eq_bind, Option.bind_eq_some_iff] at taken
    obtain ⟨_, -, subquery, made, taken⟩ := taken
    refine ih subquery (List.Subset.trans (List.subset_append_right [_, _, _, _] _) inside) ?_ taken
    rwa [Tree.selectors_of_subquery? made]
  | case5 left fuel span step after _ ih =>
    simp only [Option.bind_eq_bind, Option.bind_eq_some_iff] at taken
    obtain ⟨_, -, _, -, subquery, made, taken⟩ := taken
    have insideToo := List.Subset.trans (List.subset_append_right [_, _, _, _, _] _) inside
    refine ih subquery insideToo ?_ taken
    rwa [Tree.selectors_of_subquery? made]
  | case6 =>
    cases taken
    exact ⟨inside, all⟩

/-- What is read with so much fuel off some of the words leaves some of them, and its selectors have
the property. -/
structure Reads (P : Selector → Prop) (words : List Token) (fuel : Nat) : Prop where
  expr : ∀ {level tokens e rest}, tokens ⊆ words →
    takeExpr? fuel level tokens = some (e, rest) → rest ⊆ words ∧ ∀ s ∈ e.selectors, P s
  operators : ∀ {level left tokens e rest}, tokens ⊆ words → (∀ s ∈ left.selectors, P s) →
    takeOperators? fuel level left tokens = some (e, rest) →
      rest ⊆ words ∧ ∀ s ∈ e.selectors, P s
  operand : ∀ {tokens e rest}, tokens ⊆ words →
    takeOperand? fuel tokens = some (e, rest) → rest ⊆ words ∧ ∀ s ∈ e.selectors, P s
  primary : ∀ {tokens e rest}, tokens ⊆ words →
    takePrimary? fuel tokens = some (e, rest) → rest ⊆ words ∧ ∀ s ∈ e.selectors, P s
  arguments : ∀ {tokens list rest}, tokens ⊆ words →
    takeArguments? fuel tokens = some (list, rest) →
      rest ⊆ words ∧ ∀ s ∈ list.flatMap Tree.selectors, P s
  argumentList : ∀ {tokens list rest}, tokens ⊆ words →
    takeArgumentList? fuel tokens = some (list, rest) →
      rest ⊆ words ∧ ∀ s ∈ list.flatMap Tree.selectors, P s

namespace Reads

theorem zero : Reads P words 0 where
  expr _ taken := by simp [takeExpr?] at taken
  operators _ _ taken := by simp [takeOperators?] at taken
  operand _ taken := by simp [takeOperand?] at taken
  primary _ taken := by simp [takePrimary?] at taken
  arguments _ taken := by simp [takeArguments?] at taken
  argumentList _ taken := by simp [takeArgumentList?] at taken

theorem expr_succ (reads : Reads P words fuel) (inside : tokens ⊆ words)
    (taken : takeExpr? (fuel + 1) level tokens = some (e, rest)) :
    rest ⊆ words ∧ ∀ s ∈ e.selectors, P s := by
  simp only [takeExpr?, Option.bind_eq_bind, Option.bind_eq_some_iff] at taken
  obtain ⟨⟨left, after⟩, first, taken⟩ := taken
  obtain ⟨inside, all⟩ := reads.operand inside first
  exact reads.operators inside all taken

theorem operators_succ (reads : Reads P words fuel) (inside : tokens ⊆ words)
    (all : ∀ s ∈ left.selectors, P s)
    (taken : takeOperators? (fuel + 1) level left tokens = some (e, rest)) :
    rest ⊆ words ∧ ∀ s ∈ e.selectors, P s := by
  unfold takeOperators? at taken
  split at taken
  next zero => cases zero
  next =>
    cases taken
    exact ⟨inside, all⟩
  next same =>
    cases same
    split at taken
    next =>
      cases taken
      exact ⟨inside, all⟩
    next op _ =>
      simp only [Option.bind_eq_bind, Option.bind_eq_some_iff] at taken
      obtain ⟨⟨pairing, afterPairing⟩, paired, ⟨right, afterRight⟩, second, both, made, taken⟩ :=
        taken
      have inside := List.Subset.trans (subset_of_takePairing? paired)
        (List.subset_of_cons_subset inside)
      obtain ⟨inside, allRight⟩ := reads.expr inside second
      refine reads.operators inside ?_ taken
      rw [Tree.selectors_of_binary? made, List.forall_mem_append]
      exact ⟨all, allRight⟩

theorem operand_succ (reads : Reads P words fuel) (inherited : Inherited P words)
    (inside : tokens ⊆ words) (taken : takeOperand? (fuel + 1) tokens = some (e, rest)) :
    rest ⊆ words ∧ ∀ s ∈ e.selectors, P s := by
  unfold takeOperand? at taken
  split at taken
  next zero => cases zero
  next => cases taken
  next same =>
    cases same
    exact reads.expr (List.subset_of_cons_subset inside) taken
  next same =>
    cases same
    simp only [Option.bind_eq_bind, Option.bind_eq_some_iff] at taken
    obtain ⟨⟨inner, after⟩, read, _, made, same⟩ := taken
    cases same
    rw [Tree.selectors_of_negate? made]
    exact reads.expr (List.subset_of_cons_subset inside) read
  next same _ _ _ =>
    cases same
    simp only [Option.bind_eq_bind, Option.bind_eq_some_iff] at taken
    obtain ⟨⟨first, after⟩, read, taken⟩ := taken
    obtain ⟨inside, all⟩ := reads.primary inside read
    exact inherited.of_takeSuffixes? inside all taken

theorem arguments_succ (reads : Reads P words fuel) {list : List Tree} (inside : tokens ⊆ words)
    (taken : takeArguments? (fuel + 1) tokens = some (list, rest)) :
    rest ⊆ words ∧ ∀ s ∈ list.flatMap Tree.selectors, P s := by
  unfold takeArguments? at taken
  split at taken
  next zero => cases zero
  next =>
    cases taken
    exact ⟨List.subset_of_cons_subset inside, by simp⟩
  next same _ =>
    cases same
    exact reads.argumentList inside taken

theorem argumentList_succ (reads : Reads P words fuel) {list : List Tree} (inside : tokens ⊆ words)
    (taken : takeArgumentList? (fuel + 1) tokens = some (list, rest)) :
    rest ⊆ words ∧ ∀ s ∈ list.flatMap Tree.selectors, P s := by
  simp only [takeArgumentList?, Option.bind_eq_bind, Option.bind_eq_some_iff] at taken
  obtain ⟨⟨first, after⟩, read, taken⟩ := taken
  obtain ⟨inside, all⟩ := reads.expr inside read
  dsimp only at taken
  split at taken
  next =>
    simp only [Option.bind_eq_some_iff] at taken
    obtain ⟨⟨others, afterOthers⟩, read, same⟩ := taken
    cases same
    obtain ⟨inside, allOthers⟩ :=
      reads.argumentList (List.subset_of_cons_subset inside) read
    refine ⟨inside, ?_⟩
    rw [List.flatMap_cons, List.forall_mem_append]
    exact ⟨all, allOthers⟩
  next =>
    cases taken
    exact ⟨List.subset_of_cons_subset inside, by simpa using all⟩
  next => cases taken

theorem primary_succ (reads : Reads P words fuel) (inherited : Inherited P words)
    (inside : tokens ⊆ words) (taken : takePrimary? (fuel + 1) tokens = some (e, rest)) :
    rest ⊆ words ∧ ∀ s ∈ e.selectors, P s := by
  unfold takePrimary? at taken
  split at taken
  next zero => cases zero
  next => cases taken
  next =>
    cases taken
    exact ⟨List.subset_of_cons_subset inside, by simp [Tree.selectors]⟩
  next =>
    cases taken
    exact ⟨List.subset_of_cons_subset inside, by simp [Tree.selectors]⟩
  next =>
    cases taken
    exact ⟨List.subset_of_cons_subset inside, by simp [Tree.selectors]⟩
  -- Braces without a name.
  next after _ =>
    simp only [Option.bind_eq_bind, Option.bind_eq_some_iff] at taken
    obtain ⟨⟨matchers, later⟩, read, _, made, same⟩ := taken
    cases same
    have brace : .symbol .leftBrace ∈ words := inside List.mem_cons_self
    refine ⟨?_, inherited.of_unnamedSelector? brace made⟩
    exact List.Subset.trans (subset_of_takeMatchers? read) (List.subset_of_cons_subset inside)
  next same =>
    cases same
    simp only [Option.bind_eq_bind, Option.bind_eq_some_iff] at taken
    obtain ⟨⟨inner, after⟩, read, taken⟩ := taken
    obtain ⟨inside, all⟩ := reads.expr (List.subset_of_cons_subset inside) read
    dsimp only at taken
    split at taken <;> cases taken
    exact ⟨List.subset_of_cons_subset inside, all⟩
  -- An aggregation whose grouping stands behind the arguments.
  next same =>
    cases same
    simp only [Option.bind_eq_bind, Option.bind_eq_some_iff] at taken
    obtain ⟨⟨arguments, after⟩, read, ⟨grouping, later⟩, grouped, _, made, same⟩ := taken
    cases same
    have insideToo := List.Subset.trans (List.subset_append_right [_, _] _) inside
    obtain ⟨inside, all⟩ := reads.arguments insideToo read
    rw [Tree.selectors_of_call? made]
    exact ⟨List.Subset.trans (subset_of_takeGrouping? grouped) inside, all⟩
  -- The word of an aggregation also names a metric, if no arguments follow.
  next op spelling after _ same =>
    cases same
    simp only [Option.bind_eq_bind, Option.bind_eq_some_iff] at taken
    obtain ⟨⟨grouping, afterGrouping⟩, grouped, taken⟩ := taken
    have word := inside List.mem_cons_self
    have inside := List.subset_of_cons_subset inside
    dsimp only at taken
    split at taken
    next => exact inherited.of_takeNamed? word rfl inside taken
    next =>
      simp only [Option.bind_eq_some_iff] at taken
      obtain ⟨⟨arguments, later⟩, read, _, made, same⟩ := taken
      cases same
      have inside := List.Subset.trans (subset_of_takeGrouping? grouped) inside
      obtain ⟨inside, all⟩ := reads.arguments (List.subset_of_cons_subset inside) read
      rw [Tree.selectors_of_call? made]
      exact ⟨inside, all⟩
    next => cases taken
  next same =>
    cases same
    simp only [Option.bind_eq_bind, Option.bind_eq_some_iff] at taken
    obtain ⟨⟨arguments, after⟩, read, _, -, _, made, same⟩ := taken
    cases same
    rw [Tree.selectors_of_call? made]
    exact reads.arguments (List.Subset.trans (List.subset_append_right [_, _] _) inside) read
  next =>
    simp only [Option.bind_eq_bind, Option.bind_eq_some_iff] at taken
    obtain ⟨name, named, taken⟩ := taken
    have word := inside List.mem_cons_self
    exact inherited.of_takeNamed? word named (List.subset_of_cons_subset inside) taken

theorem succ (reads : Reads P words fuel) (inherited : Inherited P words) :
    Reads P words (fuel + 1) where
  expr := reads.expr_succ
  operators := reads.operators_succ
  operand := reads.operand_succ inherited
  primary := reads.primary_succ inherited
  arguments := reads.arguments_succ
  argumentList := reads.argumentList_succ

theorem all (inherited : Inherited P words) (fuel : Nat) : Reads P words fuel := by
  induction fuel with
  | zero => exact zero
  | succ fuel ih => exact ih.succ inherited

end Reads

theorem Inherited.of_parse? {source : String} {t : Tree} {tokens : List Token}
    (lexed : tokens? source.toList = some tokens) (inherited : Inherited P tokens)
    (parsed : Tree.parse? source = some t) : ∀ s ∈ t.selectors, P s := by
  simp only [Tree.parse?, lexed, Option.bind_eq_bind, Option.bind_some,
    Option.bind_eq_some_iff] at parsed
  obtain ⟨⟨e, rest⟩, taken, parsed⟩ := parsed
  split at parsed <;> cases parsed
  next same =>
    cases same
    exact ((Reads.all inherited _).expr (List.Subset.refl _) taken).2

end Selectors

end PeriodCompare.Expr
