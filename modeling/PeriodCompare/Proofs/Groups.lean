import PeriodCompare.Proofs.StoreComparison

set_option autoImplicit false

namespace PeriodCompare

section Cut

variable (topK : Option Nat) (values : List String)

def Mislabelled : Prop :=
  otherLabel ∈ shownValues topK values ∧ otherValues topK values ≠ []

theorem shownValues_append_otherValues :
    shownValues topK values ++ otherValues topK values = values := by
  cases topK <;> simp [shownValues, otherValues]

variable {topK values}

theorem disjoint_shownValues (nodup : values.Nodup) {value : String}
    (shown : value ∈ shownValues topK values) : value ∉ otherValues topK values := by
  rw [← shownValues_append_otherValues topK values] at nodup
  exact List.disjoint_of_nodup_append nodup shown

theorem nodup_labels_iff (nodup : values.Nodup) :
    (shownValues topK values ++
        if otherValues topK values = [] then [] else [otherLabel]).Nodup ↔
      ¬ Mislabelled topK values := by
  rw [← shownValues_append_otherValues topK values] at nodup
  have shown := nodup.of_append_left
  by_cases whole : otherValues topK values = []
  · simp [Mislabelled, whole, shown]
  · simp [Mislabelled, whole, List.nodup_append', shown]

end Cut

section Rows

variable (nan : List Record → Numeric.NaN) (functions : List MetricFunction) (dimension : String)
  (records : List Record) (topK : Option Nat)

/-- The row that counts the records of a value: its own with its totals, or the shared one with the
sums of all that share it. -/
inductive Represents (value : String) : AnswerRow → Prop where
  | own (shown : value ∈ shownValues topK (ranking nan functions dimension records)) :
      Represents value ⟨none, [value], functions.map fun f =>
        groupTotal records dimension f.metric value⟩
  | shared (folded : value ∈ otherValues topK (ranking nan functions dimension records)) :
      Represents value ⟨none, [otherLabel], functions.map fun f =>
        (otherValues topK (ranking nan functions dimension records)).foldl
          (fun sum other => sum + groupTotal records dimension f.metric other) 0.0⟩

variable {nan functions dimension records}

theorem nodup_values_capped :
    ((capped functions topK (ranked nan functions dimension records)).map (·.value)).Nodup ↔
      ¬ Mislabelled topK (ranking nan functions dimension records) := by
  rw [← nodup_labels_iff (nodup_ranking nan dimension records), capped_eq, List.map_append,
    List.map_map]
  have labels : ((shownValues topK (ranking nan functions dimension records)).map
      ((·.value) ∘ groupOf functions dimension records)) = _ := List.map_id _
  rw [labels]
  split <;> rfl

theorem exists_represents {value : String}
    (member : value ∈ ranking nan functions dimension records) :
    ∃ g ∈ capped functions topK (ranked nan functions dimension records),
      Represents nan functions dimension records topK value g.toRow := by
  rw [← shownValues_append_otherValues topK (ranking nan functions dimension records),
    List.mem_append] at member
  rw [capped_eq]
  rcases member with shown | folded
  · exact ⟨_, List.mem_append_left _ (List.mem_map_of_mem shown), .own shown⟩
  · refine ⟨sharedGroup functions dimension records
      (otherValues topK (ranking nan functions dimension records)), ?_, .shared folded⟩
    rw [if_neg (List.ne_nil_of_mem folded)]
    exact List.mem_append_right _ (List.mem_singleton_self _)

variable {topK}

theorem Represents.unique {value : String} {row other : AnswerRow}
    (first : Represents nan functions dimension records topK value row)
    (second : Represents nan functions dimension records topK value other) : other = row := by
  have nodup : (ranking nan functions dimension records).Nodup := nodup_ranking ..
  cases first with
  | own shown =>
    cases second with
    | own => rfl
    | shared folded => exact absurd folded (disjoint_shownValues nodup shown)
  | shared folded =>
    cases second with
    | own shown => exact absurd folded (disjoint_shownValues nodup shown)
    | shared => rfl

end Rows

section Answers

variable {nan : Option MetricFunction → List Record → Numeric.NaN} {records : List Record}
  {q : Query} {dimension : String} {layout : Layout}

variable (nan records q dimension) in
def rankingFor : List String :=
  ranking (nan q.functions.head?) q.functions dimension (records.filter (·.isMatch q))

theorem rows_answerFrom (grouped : q.groupBy = some dimension) :
    (answerFrom nan records q).rows =
      (capped q.functions q.topK
        (ranked (nan q.functions.head?) q.functions dimension
          (records.filter (·.isMatch q)))).map Group.toRow := by
  simp only [answerFrom, grouped]

theorem key?_toRow (a : Answer) (grouped : q.groupBy = some dimension)
    (keyed : layout.keysDimension = true) (g : Group) :
    layout.key? q a g.toRow = some (layout.keyOf ⟨some ⟨dimension, g.value⟩, q.bucket⟩) :=
  (Layout.key?_eq_keyOf_of_keysDimension keyed grouped).2 ⟨fun _ => rfl, rfl, rfl⟩

theorem keyed_answerFrom (grouped : q.groupBy = some dimension)
    (keyed : layout.keysDimension = true) :
    layout.keyed q (answerFrom nan records q) =
      (capped q.functions q.topK
        (ranked (nan q.functions.head?) q.functions dimension
          (records.filter (·.isMatch q)))).map fun g =>
            (layout.keyOf ⟨some ⟨dimension, g.value⟩, q.bucket⟩, g.toRow) := by
  rw [Layout.keyed, rows_answerFrom grouped, List.filterMap_map, ← List.filterMap_eq_map]
  apply List.filterMap_congr
  intro g _
  rw [Function.comp_apply, key?_toRow _ grouped keyed]
  rfl

theorem nodup_dimensions_answerFrom (grouped : q.groupBy = some dimension) :
    ((answerFrom nan records q).rows.map (·.dimensions)).Nodup ↔
      ¬ Mislabelled q.topK (rankingFor nan records q dimension) := by
  have single : Function.Injective fun label : String => [label] := fun _ _ => List.singleton_inj.1
  rw [rankingFor, ← nodup_values_capped, ← List.nodup_map_iff single, rows_answerFrom grouped,
    List.map_map, List.map_map]
  rfl

theorem nodup_keys_answerFrom (grouped : q.groupBy = some dimension)
    (keyed : layout.keysDimension = true) :
    ((layout.keyed q (answerFrom nan records q)).map (·.1)).Nodup ↔
      ¬ Mislabelled q.topK (rankingFor nan records q dimension) := by
  have apart : Function.Injective fun label : String =>
      layout.keyOf ⟨some ⟨dimension, label⟩, q.bucket⟩ := by
    intro label other same
    simpa [Layout.keyOf] using same
  rw [rankingFor, ← nodup_values_capped, ← List.nodup_map_iff apart, keyed_answerFrom grouped keyed,
    List.map_map, List.map_map]
  rfl

theorem size_add_answerFrom (grouped : q.groupBy = some dimension)
    (keyed : layout.keysDimension = true) :
    (Index.add layout .empty q (answerFrom nan records q)).size =
        (answerFrom nan records q).rows.length ↔
      ¬ Mislabelled q.topK (rankingFor nan records q dimension) := by
  have length : (answerFrom nan records q).rows.length =
      (layout.keyed q (answerFrom nan records q)).length := by
    rw [keyed_answerFrom grouped keyed, rows_answerFrom grouped, List.length_map, List.length_map]
  rw [← nodup_keys_answerFrom grouped keyed, length]
  exact Table.size_ofList_eq_iff _

theorem exists_files_answerFrom (grouped : q.groupBy = some dimension)
    (keyed : layout.keysDimension = true) {row : AnswerRow}
    (member : row ∈ (answerFrom nan records q).rows) :
    ∃ key, layout.Files q (answerFrom nan records q) row key := by
  rw [rows_answerFrom grouped] at member
  obtain ⟨g, -, rfl⟩ := List.mem_map.1 member
  exact ⟨_, Layout.key?_eq_some.1 (key?_toRow _ grouped keyed g)⟩

theorem Group.toRow_injective : Function.Injective Group.toRow := by
  intro g other same
  cases g
  cases other
  simpa [toRow] using same

theorem existsUnique_represents (grouped : q.groupBy = some dimension)
    (keyed : layout.keysDimension = true)
    (nodup : ((layout.keyed q (answerFrom nan records q)).map (·.1)).Nodup) {value : String}
    (member : value ∈ rankingFor nan records q dimension) :
    ∃! entry, entry ∈ (Index.add layout .empty q (answerFrom nan records q)).entries ∧
      Represents (nan q.functions.head?) q.functions dimension (records.filter (·.isMatch q)) q.topK
        value entry.2 := by
  have filed (entry : Key × AnswerRow) :
      entry ∈ (Index.add layout .empty q (answerFrom nan records q)).entries ↔
        ∃ g ∈ capped q.functions q.topK
            (ranked (nan q.functions.head?) q.functions dimension (records.filter (·.isMatch q))),
          (layout.keyOf ⟨some ⟨dimension, g.value⟩, q.bucket⟩, g.toRow) = entry := by
    rw [← List.mem_map, ← keyed_answerFrom grouped keyed]
    exact Table.mem_entries_ofList nodup
  obtain ⟨g, shown, represents⟩ := exists_represents q.topK member
  refine ⟨_, ⟨(filed _).2 ⟨g, shown, rfl⟩, represents⟩, ?_⟩
  intro entry both
  obtain ⟨inEntries, representsToo⟩ := both
  obtain ⟨other, -, rfl⟩ := (filed entry).1 inEntries
  obtain rfl := Group.toRow_injective (represents.unique representsToo)
  rfl

/-- No two rows of an answer share a label, unless a value with a row of its own is called like the
shared one. -/
theorem rows_apart_iff_not_mislabelled (nan : Option MetricFunction → List Record → Numeric.NaN)
    (records : List Record) (q : Query) {dimension : String} (grouped : q.groupBy = some dimension) :
    let answer := answerFrom nan records q
    let admitted := records.filter (·.isMatch q)
    let values := ranking (nan q.functions.head?) q.functions dimension admitted
    ((answer.rows.map (·.dimensions)).Nodup ↔ ¬ Mislabelled q.topK values) ∧
    ∀ layout : Layout, layout.keysDimension = true →
      ((Index.add layout .empty q answer).size = answer.rows.length ↔
        ¬ Mislabelled q.topK values) ∧
      (¬ Mislabelled q.topK values →
        (∀ start, ∀ row ∈ answer.rows, ∃ key, layout.Files q answer row key ∧
          (Index.add layout start q answer).get? key = some row) ∧
        ∀ record ∈ admitted, ∀ value, record.dimensions.get? dimension = some value →
          ∃! entry, entry ∈ (Index.add layout .empty q answer).entries ∧
            Represents (nan q.functions.head?) q.functions dimension admitted q.topK value
              entry.2) := by
  intro answer admitted values
  refine ⟨nodup_dimensions_answerFrom grouped, fun layout keyed => ?_⟩
  refine ⟨size_add_answerFrom grouped keyed, fun own => ?_⟩
  have nodup := (nodup_keys_answerFrom grouped keyed).2 own
  constructor
  · intro start row member
    obtain ⟨key, files⟩ := exists_files_answerFrom grouped keyed member
    exact ⟨key, files, Index.get?_add_of_nodup nodup member files⟩
  · intro record inAdmitted value carried
    exact existsUnique_represents grouped keyed nodup
      ((mem_ranking _ dimension admitted value).2 ⟨record, inAdmitted, carried⟩)

end Answers

def leadingCountry : Query where
  collection := "orders"
  functions := [.sum "total"]
  filters := .empty
  start := .ofMillis 0
  finish := .ofMillis 10
  groupBy := some "country"
  topK := some 1
  window := .baseline
  bucket := 0

theorem rows_apart_leadingCountry :
    let answer := answerFrom metricNaN (Store.sales.records "orders") leadingCountry
    leadingCountry.groupBy = some "country" ∧ (answer.rows.map (·.dimensions)).Nodup ∧
      (Index.add .heatmap .empty leadingCountry answer).size = answer.rows.length := by
  intro answer
  have own : ¬ Mislabelled leadingCountry.topK (ranking (metricNaN leadingCountry.functions.head?)
      leadingCountry.functions "country"
      ((Store.sales.records "orders").filter (·.isMatch leadingCountry))) := by
    intro mislabelled
    have member := List.mem_of_mem_take mislabelled.1
    rw [mem_ranking] at member
    revert member
    decide
  obtain ⟨labels, indexed⟩ :=
    rows_apart_iff_not_mislabelled metricNaN (Store.sales.records "orders") leadingCountry rfl
  exact ⟨rfl, labels.2 own, (indexed .heatmap rfl).1.2 own⟩

/-- Two sales of one size, the first in a country that is called like the row for the others. -/
def namesakes : List Record :=
  [Store.sale 0 otherLabel 2.0, Store.sale 4 "US" 2.0]

theorem ranked_namesakes :
    ranked (metricNaN leadingCountry.functions.head?) leadingCountry.functions "country"
        (namesakes.filter (·.isMatch leadingCountry)) =
      [⟨otherLabel, [total [2.0]]⟩, ⟨"US", [total [2.0]]⟩] := by
  apply List.mergeSort_of_pairwise
  change [(⟨otherLabel, [total [2.0]]⟩ : Group), ⟨"US", [total [2.0]]⟩].Pairwise _
  exact .cons (List.forall_mem_singleton.2 (by decide)) (List.pairwise_singleton _ _)

theorem namesakes_share_label :
    let answer := answerFrom metricNaN namesakes leadingCountry
    answer.rows.map (·.dimensions) = [["OTHER"], ["OTHER"]] ∧
      (Index.add .heatmap .empty leadingCountry answer).size = 1 := by
  constructor
  · rw [rows_answerFrom rfl, ranked_namesakes]
    rfl
  · rw [Index.add, keyed_answerFrom rfl rfl, ranked_namesakes]
    rfl

end PeriodCompare
