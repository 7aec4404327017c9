import Mathlib
import PeriodCompare.Proofs.Derivation
import PeriodCompare.Proofs.Expression
import PeriodCompare.Proofs.Parsed

set_option autoImplicit false

namespace PeriodCompare

namespace Expr

def isWord : List Char → Bool
  | [] => false
  | c :: rest => (isLetter c || c == ':') && rest.all fun c => isWordChar c || c == ':'

def reserved : List String :=
  ["on", "ignoring", "group_left", "group_right", "bool", "atan2", "inf", "nan"]

def IsMetricName (s : String) : Prop :=
  isWord s.toList ∧ String.ofList (s.toList.map Char.toLower) ∉ reserved

instance (s : String) : Decidable (IsMetricName s) :=
  inferInstanceAs (Decidable (_ ∧ _))

theorem canBeMetric_of_keyword : ∀ p ∈ keywords, p.2.canBeMetric = decide (p.1 ∉ reserved) := by
  decide

theorem keyword_of_reserved :
    ∀ word ∈ reserved, word = "inf" ∨ word = "nan" ∨ word ∈ keywords.map (·.1) := by
  decide

theorem metricOf?_ofWord (word : List Char) :
    metricOf? (Token.ofWord word) =
      if String.ofList (word.map Char.toLower) ∈ reserved then none
      else some (String.ofList word) := by
  unfold Token.ofWord
  generalize String.ofList (word.map Char.toLower) = folded
  dsimp only
  by_cases isInf : folded = "inf"
  · rw [if_pos isInf, if_pos (by simp [isInf, reserved])]
    rfl
  by_cases isNan : folded = "nan"
  · rw [if_neg isInf, if_pos isNan, if_pos (by simp [isNan, reserved])]
    rfl
  rw [if_neg isInf, if_neg isNan]
  cases found : keywords.find? (·.1 = folded) with
  | some p =>
    obtain rfl : p.1 = folded := by simpa using List.find?_some found
    simp only [metricOf?, canBeMetric_of_keyword p (List.mem_of_find?_eq_some found),
      decide_eq_true_eq]
    split_ifs <;> rfl
  | none =>
    have free : folded ∉ reserved := by
      intro inside
      rcases keyword_of_reserved folded inside with same | same | listed
      · exact isInf same
      · exact isNan same
      · obtain ⟨p, member, same⟩ := List.mem_map.1 listed
        simpa [same] using List.find?_eq_none.1 found p member
    rw [if_neg free]
    dsimp only
    split <;> rfl

theorem isBlank_of_start {c : Char} (start : isLetter c || c == ':') : isBlank c = false := by
  rw [Bool.eq_false_iff]
  intro blank
  simp only [isBlank, Bool.or_eq_true, beq_iff_eq] at blank
  rcases blank with (((rfl | rfl) | rfl) | rfl) | rfl <;> exact absurd start (by decide)

theorem isQuote_of_start {c : Char} (start : isLetter c || c == ':') : isQuote c = false := by
  rw [Bool.eq_false_iff]
  intro quote
  simp only [isQuote, Bool.or_eq_true, beq_iff_eq] at quote
  rcases quote with (rfl | rfl) | rfl <;> exact absurd start (by decide)

theorem takePlain?_of_isWord {word : List Char} (spelled : isWord word) :
    takePlain? word = some (some (Token.ofWord word), .plain, []) := by
  cases word with
  | nil => simp [isWord] at spelled
  | cons c rest =>
    simp only [isWord, Bool.and_eq_true, List.all_eq_true] at spelled
    obtain ⟨start, inner⟩ := spelled
    unfold takePlain?
    split
    case h_19 same =>
      cases same
      simp only [isBlank_of_start start, isQuote_of_start start, start, Bool.false_eq_true,
        if_false, if_true, List.takeWhile_eq_self_iff.2 inner, List.dropWhile_eq_nil_iff.2 inner]
    case h_20 same => cases same
    -- No sign starts a word.
    all_goals next same =>
      cases same
      exact absurd start (by decide)

theorem takeToken?_of_isWord {word : List Char} (spelled : isWord word) :
    takeToken? .plain word = some (some (Token.ofWord word), .plain, []) := by
  rw [← takePlain?_of_isWord spelled]
  unfold takeToken?
  split
  case h_1 same => cases same
  case h_2 => exact absurd spelled (by simp [isWord, isLetter])
  case h_3 => rfl
  case h_4 same _ => cases same

theorem tokens?_of_isWord {word : List Char} (spelled : isWord word) :
    tokens? word = some [Token.ofWord word] := by
  cases word with
  | nil => simp [isWord] at spelled
  | cons c rest =>
    simp only [tokens?, List.length_cons, tokensFrom?, takeToken?_of_isWord spelled,
      Option.bind_eq_bind, Option.bind_some]
    rfl

section Spelling

variable {token : Token} {name : String} {cs rest : List Char} {place next : Place}

theorem isWord_of_metricOf?_ofWord {word : List Char} (spelled : isWord word)
    (named : metricOf? (Token.ofWord word) = some name) : isWord name.toList := by
  rw [metricOf?_ofWord] at named
  split at named <;> cases named
  rwa [String.toList_ofList]

theorem metricOf?_of_takeNumeral? (taken : takeNumeral? cs = some (token, rest)) :
    metricOf? token = none := by
  have hex {digits : List Char} (taken : takeHex? digits = some (token, rest)) :
      metricOf? token = none := by
    simp only [takeHex?] at taken
    split at taken
    · cases taken
    · simp only [Option.bind_eq_bind, Option.bind_eq_some_iff] at taken
      obtain ⟨_, -, same⟩ := taken
      cases same
      rfl
  unfold takeNumeral? at taken
  split at taken
  · exact hex taken
  · exact hex taken
  · simp only [takeNumberOrSpan?] at taken
    split at taken
    · simp only [takeSpan?, Option.bind_eq_bind, Option.bind_eq_some_iff] at taken
      obtain ⟨_, -, same⟩ := taken
      split at same <;> cases same
      rfl
    · simp only [Option.bind_eq_bind, Option.bind_eq_some_iff] at taken
      obtain ⟨_, -, same⟩ := taken
      cases same
      rfl

theorem isWord_of_takePlain? (taken : takePlain? cs = some (some token, next, rest))
    (named : metricOf? token = some name) : isWord name.toList := by
  unfold takePlain? at taken
  split at taken
  -- Only what starts a word can name a metric.
  case h_19 =>
    split at taken
    · cases taken
    split at taken
    · simp only [Option.bind_eq_bind, Option.bind_eq_some_iff] at taken
      obtain ⟨_, -, same⟩ := taken
      cases same
      cases named
    split at taken
    next start =>
      cases taken
      refine isWord_of_metricOf?_ofWord ?_ named
      simp only [isWord, start, Bool.true_and, List.all_takeWhile]
    split at taken
    · simp only [Option.bind_eq_bind, Option.bind_eq_some_iff] at taken
      obtain ⟨⟨_, _⟩, numeral, same⟩ := taken
      cases same
      rw [metricOf?_of_takeNumeral? numeral] at named
      cases named
    · cases taken
  case h_20 => cases taken
  all_goals
    cases taken
    cases named

theorem isWord_of_takeInBraces? (taken : takeInBraces? cs = some (some token, next, rest))
    (named : metricOf? token = some name) : isWord name.toList := by
  unfold takeInBraces? at taken
  split at taken
  case h_7 c after _ _ _ _ _ _ =>
    split at taken
    · cases taken
    split at taken
    · simp only [Option.bind_eq_bind, Option.bind_eq_some_iff] at taken
      obtain ⟨_, -, same⟩ := taken
      cases same
      cases named
    split at taken
    next start =>
      cases taken
      have spelled : name = String.ofList (c :: after.takeWhile isWordChar) := by
        unfold labelToken at named
        split at named <;> exact (Option.some.inj named).symm
      rw [spelled, String.toList_ofList]
      simp only [isWord, start, Bool.true_or, Bool.true_and, List.all_eq_true, Bool.or_eq_true]
      exact fun d member => .inl (List.mem_takeWhile_imp member)
    · cases taken
  case h_8 => cases taken
  all_goals
    cases taken
    cases named

theorem isWord_of_takeInBrackets? {colon : Bool}
    (taken : takeInBrackets? colon cs = some (some token, next, rest))
    (named : metricOf? token = some name) : isWord name.toList := by
  unfold takeInBrackets? at taken
  split at taken
  · split at taken <;> cases taken
    cases named
  · cases taken
    cases named
  · split at taken
    · cases taken
    split at taken
    · simp only [Option.bind_eq_bind, Option.bind_eq_some_iff] at taken
      obtain ⟨⟨_, _⟩, numeral, same⟩ := taken
      cases same
      rw [metricOf?_of_takeNumeral? numeral] at named
      cases named
    · cases taken
  · cases taken

theorem isWord_of_takeToken? (taken : takeToken? place cs = some (some token, next, rest))
    (named : metricOf? token = some name) : isWord name.toList := by
  unfold takeToken? at taken
  split at taken
  · exact isWord_of_takeInBrackets? taken named
  · cases taken
  · exact isWord_of_takePlain? taken named
  · exact isWord_of_takeInBraces? taken named

theorem isWord_of_tokensFrom? {fuel : Nat} {tokens : List Token}
    (lexed : tokensFrom? fuel place cs = some tokens) (member : token ∈ tokens)
    (named : metricOf? token = some name) : isWord name.toList := by
  fun_induction tokensFrom? fuel place cs generalizing tokens with
  | case1 =>
    cases lexed
    cases member
  | case2 => cases lexed
  | case3 => cases lexed
  | case4 place fuel cs _ ih =>
    simp only [Option.bind_eq_bind, Option.bind_eq_some_iff] at lexed
    obtain ⟨⟨first, next, after⟩, taken, others, later, same⟩ := lexed
    cases first with
    | none =>
      cases same
      exact ih next after later member
    | some first =>
      cases same
      rcases List.mem_cons.1 member with rfl | member
      · exact isWord_of_takeToken? taken named
      · exact ih next after later member

end Spelling

theorem inherited_spelled (words : List Token) :
    Inherited (fun s => ∀ name, s.name = some name → ∃ token ∈ words, metricOf? token = some name)
      words where
  named token member name named matchers _ other same := by
    obtain rfl : name = other := Option.some.inj same
    exact ⟨token, member, named⟩
  unnamed _ matchers name same := by cases same
  moved _ s spelled shift := spelled

theorem exists_token_of_parse? {source : String} {t : Tree} (parsed : Tree.parse? source = some t)
    {name : String} (member : name ∈ t.selectorNames) :
    ∃ tokens, tokens? source.toList = some tokens ∧
      ∃ token ∈ tokens, metricOf? token = some name := by
  cases lexed : tokens? source.toList with
  | none => simp [Tree.parse?, lexed] at parsed
  | some tokens =>
    obtain ⟨s, inside, named⟩ := List.mem_filterMap.1 member
    exact ⟨tokens, rfl, (inherited_spelled tokens).of_parse? lexed parsed s inside name named⟩

theorem isWord_of_parse? {source : String} {t : Tree} (parsed : Tree.parse? source = some t)
    {name : String} (member : name ∈ t.selectorNames) : isWord name.toList := by
  obtain ⟨tokens, lexed, token, inside, named⟩ := exists_token_of_parse? parsed member
  exact isWord_of_tokensFrom? lexed inside named

theorem metricOf?_of_isMetricName {s : String} (name : IsMetricName s) :
    metricOf? (Token.ofWord s.toList) = some s := by
  rw [metricOf?_ofWord, if_neg name.2, String.ofList_toList]

theorem isMetricName_of_parse? {s : String} {t : Tree} (parsed : Tree.parse? s = some t)
    (member : s ∈ t.selectorNames) : IsMetricName s := by
  have spelled := isWord_of_parse? parsed member
  obtain ⟨tokens, lexed, token, inside, named⟩ := exists_token_of_parse? parsed member
  rw [tokens?_of_isWord spelled] at lexed
  cases lexed
  rw [List.mem_singleton.1 inside, metricOf?_ofWord] at named
  refine ⟨spelled, fun inReserved => ?_⟩
  rw [if_pos inReserved] at named
  cases named

theorem takeExpr?_of_metricOf? {token : Token} {name : String} {fuel level : Nat}
    (named : metricOf? token = some name) :
    takeExpr? (fuel + 3) level [token] = some (.selector (.named name), []) := by
  cases token with
  | name spelling =>
    cases named
    rfl
  | metricName spelling =>
    cases named
    rfl
  | keyword k spelling =>
    cases k <;> cases named <;> rfl
  | _ => cases named

theorem parse?_of_isMetricName {s : String} (name : IsMetricName s) :
    Tree.parse? s = some (.selector (.named s)) := by
  have read : takeExpr? 8 1 [Token.ofWord s.toList] = some (.selector (.named s), []) :=
    takeExpr?_of_metricOf? (metricOf?_of_isMetricName name)
  simp only [Tree.parse?, tokens?_of_isWord name.1, Option.bind_eq_bind, Option.bind_some,
    List.length_singleton, read]

end Expr

namespace Evaluator

section Reading

variable {parse? : String → Option Expr.Tree} {source : String}

theorem references_of_parse? {t : Expr.Tree} (parsed : parse? source = some t) :
    (reading (parsedBy parse?)).references source = t.names := by
  simp only [reading, parsedBy, parsed, Checked.ok_bind]

theorem references_eq_ok {names : List String} :
    (reading (parsedBy parse?)).references source = .ok names ↔
      ∃ t, parse? source = some t ∧ t.names = .ok names := by
  cases parsed : parse? source with
  | none => simp [reading, parsedBy, parsed]
  | some t => simp [references_of_parse? parsed]

end Reading

theorem columns_raw_eq_ok {v : Evaluator} {s : String} {functions : List MetricFunction} :
    v.columns [.raw s] = .ok functions ↔
      ∃ names, v.references s = .ok names ∧ (distinct names).map .sum = functions := by
  simp only [columns, Checked.bind_eq_ok, Checked.pure_eq_ok, Checked.mapM_eq_ok]
  constructor
  · rintro ⟨perMetric, all, rfl⟩
    rcases all with _ | ⟨read, _ | _⟩
    exact ⟨_, read, by simp⟩
  · rintro ⟨names, read, rfl⟩
    exact ⟨[names], .cons read .nil, by simp⟩

theorem columns_raw_parsedBy {parse? : String → Option Expr.Tree} {s : String}
    {functions : List MetricFunction} :
    (reading (parsedBy parse?)).columns [.raw s] = .ok functions ↔
      ∃ t, parse? s = some t ∧ t.IsArithmetic ∧
        (distinct t.selectorNames).map .sum = functions := by
  simp only [columns_raw_eq_ok, references_eq_ok, Expr.Tree.names_eq_ok]
  constructor
  · rintro ⟨_, ⟨t, parsed, isArithmetic, rfl⟩, once⟩
    exact ⟨t, parsed, isArithmetic, by rw [← once, distinct_of_nodup (nodup_distinct _)]⟩
  · rintro ⟨t, parsed, isArithmetic, once⟩
    exact ⟨_, ⟨t, parsed, isArithmetic, rfl⟩, by rw [distinct_of_nodup (nodup_distinct _), once]⟩

theorem columns_raw_of_isMetricName {s : String} (name : Expr.IsMetricName s) :
    arithmetic.columns [.raw s] = .ok [.sum s] :=
  columns_raw_parsedBy.2 ⟨_, Expr.parse?_of_isMetricName name, .selector rfl, rfl⟩

theorem exists_tree_of_columns_raw {s : String} {functions : List MetricFunction}
    (read : arithmetic.columns [.raw s] = .ok functions) :
    ∃ t, Expr.Tree.parse? s = some t ∧ ∀ name, .sum name ∈ functions ↔ name ∈ t.selectorNames := by
  obtain ⟨t, parsed, -, rfl⟩ := columns_raw_parsedBy.1 read
  exact ⟨t, parsed, fun name => by simp [MetricFunction.sum]⟩

theorem derived_raw_eq_nil {s : String} {functions : List MetricFunction} :
    derived functions [.raw s] = [] ↔ .sum s ∈ functions := by
  have column : .sum s ∈ functions ↔ ∃ f ∈ functions, f.metric = s := by
    constructor
    · intro member
      exact ⟨_, member, rfl⟩
    · rintro ⟨f, member, rfl⟩
      rwa [← f.eq_sum]
  rw [column]
  simp [derived, MetricExpression.raw]

theorem addDerived_raw {s : String} {functions : List MetricFunction}
    (column : .sum s ∈ functions) (v : Evaluator) (rows : List Row) :
    v.addDerived [.raw s] functions rows = (rows, none) := by
  rw [addDerived, derived_raw_eq_nil.2 column, extendRows_nil]

/-- In any grammar a raw metric is what its name reads as. In this one it is a column by itself iff
its name is a word that is not reserved. -/
theorem columns_raw (s : String) :
    (∀ parse? functions, (reading (parsedBy parse?)).columns [.raw s] = .ok functions ↔
      ∃ t, parse? s = some t ∧ t.IsArithmetic ∧
        (distinct t.selectorNames).map .sum = functions) ∧
    (∀ functions, (derived functions [.raw s] = [] ↔ .sum s ∈ functions) ∧
      (.sum s ∈ functions → ∀ (v : Evaluator) rows,
        v.addDerived [.raw s] functions rows = (rows, none))) ∧
    (arithmetic.columns [.raw s] = .ok [.sum s] ↔ Expr.IsMetricName s) ∧
    ∀ functions, arithmetic.columns [.raw s] = .ok functions →
      (.sum s ∈ functions ↔ Expr.IsMetricName s) ∧
      (derived functions [.raw s] = [] ↔ Expr.IsMetricName s) ∧
      (Expr.IsMetricName s → ∀ rows, arithmetic.addDerived [.raw s] functions rows = (rows, none)) ∧
        ∀ f ∈ functions, Expr.isWord f.metric.toList := by
  have column {functions : List MetricFunction}
      (read : arithmetic.columns [.raw s] = .ok functions) :
      .sum s ∈ functions ↔ Expr.IsMetricName s := by
    obtain ⟨t, parsed, names⟩ := exists_tree_of_columns_raw read
    refine ⟨fun member => Expr.isMetricName_of_parse? parsed ((names s).1 member), fun name => ?_⟩
    obtain rfl := Except.ok.inj ((columns_raw_of_isMetricName name).symm.trans read)
    exact List.mem_cons_self
  refine ⟨fun _ _ => columns_raw_parsedBy, fun _ => ⟨derived_raw_eq_nil, addDerived_raw⟩,
    ⟨fun read => (column read).1 List.mem_cons_self, columns_raw_of_isMetricName⟩, ?_⟩
  intro functions read
  refine ⟨column read, derived_raw_eq_nil.trans (column read), fun name => ?_, fun f member => ?_⟩
  · exact addDerived_raw ((column read).2 name) arithmetic
  · obtain ⟨t, parsed, names⟩ := exists_tree_of_columns_raw read
    rw [f.eq_sum] at member
    exact Expr.isWord_of_parse? parsed ((names f.metric).1 member)

example : Expr.IsMetricName "page_views" ∧ ¬ Expr.IsMetricName "page-views" ∧
    ¬ Expr.IsMetricName "NaN" := by
  decide

theorem columns_raw_pageViews :
    arithmetic.columns [.raw "page-views"] = .ok [.sum "page", .sum "views"] := by
  have parsed : Expr.Tree.parse? "page-views" =
      some (.binary .sub .plain (.selector (.named "page")) (.selector (.named "views"))) := by
    cbv
  exact columns_raw_parsedBy.2
    ⟨_, parsed, .binary .sub .plain (.selector rfl) (.selector rfl), by decide⟩

end Evaluator

end PeriodCompare
