import PeriodCompare.Proofs.Order
import PeriodCompare.Proofs.Splits
import PeriodCompare.Proofs.Table

set_option autoImplicit false

namespace PeriodCompare

theorem Answer.dimension?_eq_some {a : Answer} {q : Query} {row : AnswerRow} {d : Dimension} :
    a.dimension? q row = some d ↔
      q.groupBy.or a.columns.getLast? = some d.name ∧ row.dimensions.head? = some d.value := by
  rcases d with ⟨dName, dValue⟩
  cases name : q.groupBy.or a.columns.getLast? <;> cases value : row.dimensions.head? <;>
    simp [dimension?, dimensionName?, name, value]

namespace Layout

/-- The key under which a row is filed. The row names its bucket, or else its query does; the
dimension is the one the query is grouped by, or else the last column of the answer. -/
inductive Files (q : Query) (a : Answer) (row : AnswerRow) : Layout → Key → Prop where
  | tabular : Files q a row .tabular ⟨some (row.bucket.getD q.bucket), none⟩
  | contributor {d : Dimension} (name : q.groupBy.or a.columns.getLast? = some d.name)
      (value : row.dimensions.head? = some d.value) :
      Files q a row .contributor ⟨some (row.bucket.getD q.bucket), some d⟩
  | heatmap {d : Dimension} (name : q.groupBy.or a.columns.getLast? = some d.name)
      (value : row.dimensions.head? = some d.value) :
      Files q a row .heatmap ⟨none, some d⟩

theorem key?_eq_some {layout : Layout} {q : Query} {a : Answer} {row : AnswerRow} {key : Key} :
    layout.key? q a row = some key ↔ layout.Files q a row key := by
  constructor
  · intro keyed
    cases layout with
    | tabular =>
      obtain rfl := Option.some.inj keyed
      exact .tabular
    | contributor =>
      obtain ⟨d, found, rfl⟩ := Option.map_eq_some_iff.1 keyed
      obtain ⟨name, value⟩ := Answer.dimension?_eq_some.1 found
      exact .contributor name value
    | heatmap =>
      obtain ⟨d, found, rfl⟩ := Option.map_eq_some_iff.1 keyed
      obtain ⟨name, value⟩ := Answer.dimension?_eq_some.1 found
      exact .heatmap name value
  · intro files
    cases files with
    | tabular => rfl
    | contributor name value =>
      exact Option.map_eq_some_iff.2 ⟨_, Answer.dimension?_eq_some.2 ⟨name, value⟩, rfl⟩
    | heatmap name value =>
      exact Option.map_eq_some_iff.2 ⟨_, Answer.dimension?_eq_some.2 ⟨name, value⟩, rfl⟩

def keyedIn (layout : Layout) (window : Window) (pair : Query × Answer) : List (Key × AnswerRow) :=
  if pair.1.window = window then layout.keyed pair.1 pair.2 else []

theorem mem_keyed {layout : Layout} {q : Query} {a : Answer} {key : Key} {row : AnswerRow} :
    (key, row) ∈ layout.keyed q a ↔ row ∈ a.rows ∧ layout.key? q a row = some key := by
  simp only [keyed, List.mem_filterMap, Option.map_eq_some_iff, Prod.mk.injEq]
  constructor
  · intro found
    obtain ⟨other, member, found, keyed, rfl, rfl⟩ := found
    exact ⟨member, keyed⟩
  · intro both
    obtain ⟨member, keyed⟩ := both
    exact ⟨row, member, key, keyed, rfl, rfl⟩

def Yields (layout : Layout) (pair : Query × Answer) (key : Key) : Prop :=
  ∃ row ∈ pair.2.rows, layout.Files pair.1 pair.2 row key

theorem mem_keys_keyedIn {layout : Layout} {window : Window} {pair : Query × Answer} {key : Key} :
    key ∈ (layout.keyedIn window pair).map (·.1) ↔
      pair.1.window = window ∧ layout.Yields pair key := by
  by_cases asked : pair.1.window = window
  · simp [keyedIn, asked, mem_keyed, Yields, key?_eq_some]
  · simp [keyedIn, asked]

theorem flatMap_keyedIn {layout : Layout} {window : Window} (answers : List (Query × Answer)) :
    answers.flatMap (layout.keyedIn window) =
      (answers.filter (·.1.window = window)).flatMap fun pair => layout.keyed pair.1 pair.2 := by
  induction answers with
  | nil => rfl
  | cons pair rest ih =>
    by_cases asked : pair.1.window = window <;> simp [keyedIn, asked, ih]

def Apart (layout : Layout) (answers : List (Query × Answer)) : Prop :=
  ∀ first ∈ answers, ∀ second ∈ answers, first.1.window = second.1.window →
    (∃ key, layout.Yields first key ∧ layout.Yields second key) → first = second

end Layout

structure AnsweredRow where
  query : Query
  answer : Answer
  row : AnswerRow

def answeredRows (answers : List (Query × Answer)) : List AnsweredRow :=
  answers.flatMap fun (q, a) => a.rows.map fun row => ⟨q, a, row⟩

namespace Index

def addAll (layout : Layout) (start : Index) (answers : List (Query × Answer)) : Index :=
  answers.foldl (fun index pair => index.add layout pair.1 pair.2) start

variable {layout : Layout} {start : Index} {answers : List (Query × Answer)}

theorem addAll_eq :
    addAll layout start answers =
      start.insertAll (answers.flatMap fun pair => layout.keyed pair.1 pair.2) := by
  unfold addAll
  induction answers generalizing start with
  | nil => rfl
  | cons pair rest ih =>
    rw [List.foldl_cons, ih, add, List.flatMap_cons, Table.insertAll_append]

theorem flatMap_keyed :
    (answers.flatMap fun pair => layout.keyed pair.1 pair.2) =
      (answeredRows answers).filterMap fun filed =>
        (layout.key? filed.query filed.answer filed.row).map fun key => (key, filed.row) := by
  simp only [answeredRows, List.filterMap_flatMap, List.filterMap_map]
  rfl

theorem get?_add_of_nodup {q : Query} {a : Answer} {key : Key} {row : AnswerRow}
    (nodup : ((layout.keyed q a).map (·.1)).Nodup) (member : row ∈ a.rows)
    (files : layout.Files q a row key) : (Index.add layout start q a).get? key = some row := by
  have keyed := Layout.mem_keyed.2 ⟨member, Layout.key?_eq_some.2 files⟩
  rw [add, Table.get?_insertAll, Table.lastValue_eq_some_of_mem nodup keyed, Option.some_or]

theorem get?_addAll_eq_some {key : Key} {row : AnswerRow} :
    (addAll layout start answers).get? key = some row ↔
      (∃ before q a after, answeredRows answers = before ++ ⟨q, a, row⟩ :: after ∧
        layout.Files q a row key ∧
          ∀ later ∈ after, ¬ layout.Files later.query later.answer later.row key) ∨
      (∀ filed ∈ answeredRows answers, ¬ layout.Files filed.query filed.answer filed.row key) ∧
        start.get? key = some row := by
  have last := Table.lastValue_filterMap key
    (fun filed => layout.key? filed.query filed.answer filed.row) AnsweredRow.row
    (answeredRows answers)
  rw [addAll_eq, Table.get?_insertAll, flatMap_keyed, last, Option.or_eq_some_iff,
    Option.map_eq_some_iff, Option.map_eq_none_iff, List.getLast?_eq_none_iff,
    List.filter_eq_nil_iff]
  simp only [getLast?_filter_eq_some, decide_eq_true_eq, decide_eq_false_iff_not,
    Layout.key?_eq_some]
  apply or_congr_left
  constructor
  · intro found
    obtain ⟨⟨q, a, _⟩, ⟨before, after, split, files, none⟩, rfl⟩ := found
    exact ⟨before, q, a, after, split, files, none⟩
  · intro found
    obtain ⟨before, q, a, after, split, files, none⟩ := found
    exact ⟨_, ⟨before, after, split, files, none⟩, rfl⟩

end Index

namespace PairedIndex

theorem side_add (w : PairedIndex) (layout : Layout) (pair : Query × Answer) (window : Window) :
    (w.add layout pair.1 pair.2).side window =
      (w.side window).insertAll (layout.keyedIn window pair) := by
  cases asked : pair.1.window <;> cases window <;>
    simp [add, side, asked, Layout.keyedIn, Index.add]

theorem side_foldl (w : PairedIndex) (layout : Layout) (answers : List (Query × Answer))
    (window : Window) :
    (answers.foldl (fun w pair => w.add layout pair.1 pair.2) w).side window =
      (w.side window).insertAll (answers.flatMap (layout.keyedIn window)) := by
  induction answers generalizing w with
  | nil => rfl
  | cons pair rest ih =>
    rw [List.foldl_cons, ih, side_add, List.flatMap_cons, Table.insertAll_append]

theorem side_ofAnswers (layout : Layout) (answers : List (Query × Answer)) (window : Window) :
    (ofAnswers layout answers).side window =
      .ofList (answers.flatMap (layout.keyedIn window)) := by
  rw [ofAnswers, side_foldl]
  cases window <;> rfl

theorem get?_ofAnswers (layout : Layout) (answers : List (Query × Answer)) (window : Window)
    (key : Key) :
    (ofAnswers layout answers).get? window key =
      Table.lastValue key (answers.flatMap (layout.keyedIn window)) := by
  rw [get?, side_ofAnswers, Table.get?_ofList]

theorem get?_ofAnswers_perm {layout : Layout} {answers other : List (Query × Answer)}
    (perm : answers.Perm other) (apart : layout.Apart answers) (window : Window) (key : Key) :
    (ofAnswers layout answers).get? window key = (ofAnswers layout other).get? window key := by
  rw [get?_ofAnswers, get?_ofAnswers]
  refine Table.lastValue_flatMap_perm _ perm fun first inFirst second inSecond has hasToo => ?_
  obtain ⟨asked, yields⟩ := Layout.mem_keys_keyedIn.1 has
  obtain ⟨askedToo, yieldsToo⟩ := Layout.mem_keys_keyedIn.1 hasToo
  exact apart first inFirst second inSecond (asked.trans askedToo.symm) ⟨key, yields, yieldsToo⟩

theorem entries_ofAnswers_perm {layout : Layout} {answers other : List (Query × Answer)}
    (perm : answers.Perm other) (apart : layout.Apart answers) (window : Window) :
    ((ofAnswers layout answers).side window).entries.Perm
      ((ofAnswers layout other).side window).entries := by
  apply Table.entries_perm
  · rw [side_ofAnswers]
    exact Table.nodup_keys_ofList _
  · rw [side_ofAnswers]
    exact Table.nodup_keys_ofList _
  · exact get?_ofAnswers_perm perm apart window

theorem mem_side_dimensions (layout : Layout) (answers : List (Query × Answer)) (window : Window)
    (d : Dimension) :
    d ∈ ((ofAnswers layout answers).side window).dimensions ↔
      ∃ pair ∈ answers, pair.1.window = window ∧
        ∃ row ∈ pair.2.rows, ∃ key, layout.key? pair.1 pair.2 row = some key ∧
          key.dimension = some d := by
  simp only [Index.dimensions, List.mem_filterMap, side_ofAnswers, Table.mem_keys_ofList,
    List.mem_map, List.mem_flatMap]
  constructor
  · intro held
    obtain ⟨_, ⟨⟨key, row⟩, ⟨pair, member, keyed⟩, rfl⟩, found⟩ := held
    by_cases asked : pair.1.window = window
    · rw [Layout.keyedIn, if_pos asked, Layout.mem_keyed] at keyed
      exact ⟨pair, member, asked, row, keyed.1, key, keyed.2, found⟩
    · simp [Layout.keyedIn, asked] at keyed
  · intro answered
    obtain ⟨pair, member, asked, row, inRows, key, keyed, found⟩ := answered
    refine ⟨key, ⟨(key, row), ⟨pair, member, ?_⟩, rfl⟩, found⟩
    rw [Layout.keyedIn, if_pos asked, Layout.mem_keyed]
    exact ⟨inRows, keyed⟩

theorem mem_orderedDimensions_ofAnswers (layout : Layout) (answers : List (Query × Answer))
    (groupBy : List String) (d : Dimension) :
    d ∈ (ofAnswers layout answers).orderedDimensions groupBy ↔
      ∃ pair ∈ answers, ∃ row ∈ pair.2.rows, ∃ key,
        layout.key? pair.1 pair.2 row = some key ∧ key.dimension = some d := by
  have baseline := mem_side_dimensions layout answers .baseline d
  have current := mem_side_dimensions layout answers .current d
  simp only [side] at baseline current
  rw [mem_orderedDimensions, baseline, current]
  constructor
  · intro either
    rcases either with ⟨pair, member, -, rest⟩ | ⟨pair, member, -, rest⟩
    · exact ⟨pair, member, rest⟩
    · exact ⟨pair, member, rest⟩
  · intro answered
    obtain ⟨pair, member, rest⟩ := answered
    cases asked : pair.1.window
    · exact .inl ⟨pair, member, asked, rest⟩
    · exact .inr ⟨pair, member, asked, rest⟩

theorem indexing_keeps_last (layout : Layout) (start : Index) (answers : List (Query × Answer)) :
    (∀ key row, (Index.addAll layout start answers).get? key = some row ↔
      (∃ before q a after, answeredRows answers = before ++ ⟨q, a, row⟩ :: after ∧
        layout.Files q a row key ∧
          ∀ later ∈ after, ¬ layout.Files later.query later.answer later.row key) ∨
      (∀ filed ∈ answeredRows answers, ¬ layout.Files filed.query filed.answer filed.row key) ∧
        start.get? key = some row) ∧
    (∀ window, (ofAnswers layout answers).side window =
      Index.addAll layout .empty (answers.filter (·.1.window = window))) ∧
    ∀ other, answers.Perm other → layout.Apart answers → ∀ window,
      ((ofAnswers layout answers).side window).entries.Perm
          ((ofAnswers layout other).side window).entries ∧
        ∀ key, (ofAnswers layout answers).get? window key =
          (ofAnswers layout other).get? window key := by
  refine ⟨fun key row => Index.get?_addAll_eq_some, fun window => ?_, ?_⟩
  · rw [side_ofAnswers, Index.addAll_eq, Layout.flatMap_keyedIn]
    rfl
  · intro other perm apart window
    exact ⟨entries_ofAnswers_perm perm apart window, get?_ofAnswers_perm perm apart window⟩

end PairedIndex

end PeriodCompare
