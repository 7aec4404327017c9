import PeriodCompare.Proofs.Order
import PeriodCompare.Proofs.Records

set_option autoImplicit false

namespace PeriodCompare

namespace Numeric

open Float.Model.UnpackedFloat in
theorem magnitude_le_of_not_isNaN {x : Float} (number : x.isNaN = false) :
    x.toBits.toNat % signBit ≤ 2047 * hiddenBit := by
  by_contra more
  change ¬ x.toModel.toBits.toNat % 2 ^ 63 ≤ 2047 * 2 ^ 52 at more
  have exponent : @unpackExponent .binary64 x.toModel.toBits.toBitVec = -1#11 := by
    have field : (@unpackExponent .binary64 x.toModel.toBits.toBitVec).toNat =
        x.toModel.toBits.toNat / 2 ^ 52 % 2 ^ 11 := by
      simp [unpackExponent, Nat.shiftRight_eq_div_pow]
    apply BitVec.eq_of_toNat_eq
    change _ = 2047
    omega
  have mantissa : @unpackMantissa .binary64 x.toModel.toBits.toBitVec ≠ 0#52 := by
    have field : (@unpackMantissa .binary64 x.toModel.toBits.toBitVec).toNat =
        x.toModel.toBits.toNat % 2 ^ 52 := by
      simp [unpackMantissa]
    intro zero
    have nothing : x.toModel.toBits.toNat % 2 ^ 52 = 0 := field.symm.trans (congrArg _ zero)
    omega
  have isNaN : x.isNaN = true := by
    change (unpack .binary64 x.toModel.toBits.toBitVec).isNaN = true
    delta unpack
    dsimp only
    rw [if_pos exponent, if_neg mantissa]
    rfl
  exact Bool.false_ne_true (number.symm.trans isNaN)

-- Which side of all numbers a NaN is on.
theorem NaN.beyond_infinities (nan : NaN) {x y : Float} (isNaN : x.isNaN = true)
    (number : y.isNaN = false) :
    if nan.negative then rank nan x < rank nan y else rank nan y < rank nan x := by
  have word := y.toBits.toNat_lt
  have magnitude := magnitude_le_of_not_isNaN number
  obtain ⟨negative, fraction, positive, small⟩ := nan
  simp only [rank, NaN.bits, isNaN, number, if_true, Bool.false_eq_true, if_false]
  unfold signBit hiddenBit at *
  cases negative with
  | false =>
    simp only [Bool.false_eq_true, if_false]
    split <;> split <;> omega
  | true =>
    simp only [if_true]
    split <;> split <;> omega

end Numeric

def groupTotal (records : List Record) (dimension metric value : String) : Float :=
  total ((recordsOf dimension value records).filterMap (·.metrics.get? metric))

-- Where a total is no number it has the bits of `nan`.
def groupRank (nan : List Record → Numeric.NaN) (records : List Record)
    (dimension metric value : String) : Int :=
  Numeric.rank (nan (recordsOf dimension value records)) (groupTotal records dimension metric value)

/-- The values of a dimension, once each, by descending total of a metric and then by value. -/
structure IsRanking (nan : List Record → Numeric.NaN) (records : List Record)
    (dimension metric : String) (ranking : List String) : Prop where
  mem : ∀ value, value ∈ ranking ↔
    ∃ record ∈ records, record.dimensions.get? dimension = some value
  ordered : ranking.Pairwise fun a b =>
    groupRank nan records dimension metric b < groupRank nan records dimension metric a ∨
      groupRank nan records dimension metric b = groupRank nan records dimension metric a ∧ a < b

theorem IsRanking.unique {nan : List Record → Numeric.NaN} {records : List Record}
    {dimension metric : String} {ranking other : List String}
    (first : IsRanking nan records dimension metric ranking)
    (second : IsRanking nan records dimension metric other) : other = ranking := by
  refine eq_of_mem_iff_of_asymm ?_ second.ordered first.ordered
    fun value => (second.mem value).trans (first.mem value).symm
  rintro a b (before | ⟨same, before⟩) (after | ⟨sameToo, after⟩)
  · omega
  · omega
  · omega
  · exact lt_asymm before after

/-- A ranking cut behind the first `k` values shows those, and a label for the rest if any. -/
def Listed (k : Nat) (ranking : List String) (value : String) : Prop :=
  value ∈ ranking.take k ∨ value = otherLabel ∧ k < ranking.length

def listedTotal (records : List Record) (dimension metric : String) (k : Nat)
    (ranking : List String) (value : String) : Float :=
  if value ∈ ranking.take k then groupTotal records dimension metric value
  else if value = otherLabel ∧ k < ranking.length then
    (ranking.drop k).foldl (fun sum rest => sum + groupTotal records dimension metric rest) 0.0
  else 0.0

section Cut

variable (topK : Option Nat) (values : List String)

def shownValues : List String :=
  topK.elim values values.take

def otherValues : List String :=
  topK.elim [] values.drop

end Cut

variable (nan : List Record → Numeric.NaN) (functions : List MetricFunction) (dimension : String)
  (records : List Record)

def groupOf (value : String) : Group :=
  ⟨value, functions.map fun f => groupTotal records dimension f.metric value⟩

def sharedGroup (values : List String) : Group :=
  ⟨otherLabel, functions.map fun f =>
    values.foldl (fun sum value => sum + groupTotal records dimension f.metric value) 0.0⟩

def ranking : List String :=
  (ranked nan functions dimension records).map (·.value)

theorem groups_eq :
    groups functions dimension records =
      (distinct (records.filterMap (·.dimensions.get? dimension))).map
        (groupOf functions dimension records) := rfl

theorem ranked_eq :
    ranked nan functions dimension records =
      (ranking nan functions dimension records).map (groupOf functions dimension records) := by
  rw [ranking, List.map_map]
  refine (List.map_id _).symm.trans (List.map_congr_left fun g member => ?_)
  rw [ranked, List.mem_mergeSort, groups_eq] at member
  obtain ⟨value, -, rfl⟩ := List.mem_map.1 member
  rfl

def Group.place (nan : String → Numeric.NaN) (g : Group) : Intᵒᵈ ×ₗ String :=
  toLex (OrderDual.toDual (g.lead nan), g.value)

theorem Group.before_iff_place (nan : String → Numeric.NaN) (a b : Group) :
    a.before nan b = true ↔ a.place nan ≤ b.place nan := by
  simp [before, place, Prod.Lex.toLex_le_toLex, @eq_comm _ (b.lead nan) (a.lead nan)]

theorem Group.place_lt_iff (nan : String → Numeric.NaN) (a b : Group) :
    a.place nan < b.place nan ↔
      b.lead nan < a.lead nan ∨ b.lead nan = a.lead nan ∧ a.value < b.value := by
  simp [place, Prod.Lex.toLex_lt_toLex, @eq_comm _ (b.lead nan) (a.lead nan)]

variable {functions}

theorem lead_groupOf {first : MetricFunction} (leads : functions.head? = some first)
    (value : String) :
    (groupOf functions dimension records value).lead
        (fun value => nan (recordsOf dimension value records)) =
      groupRank nan records dimension first.metric value := by
  simp [groupOf, Group.lead, groupRank, leads]

theorem mem_ranking (value : String) :
    value ∈ ranking nan functions dimension records ↔
      ∃ record ∈ records, record.dimensions.get? dimension = some value := by
  simp [ranking, ranked, groups_eq, groupOf, List.mem_filterMap]

theorem nodup_ranking : (ranking nan functions dimension records).Nodup := by
  have values : (groups functions dimension records).map (·.value) =
      distinct (records.filterMap (·.dimensions.get? dimension)) := by
    rw [groups_eq, List.map_map]
    exact List.map_id _
  rw [ranking, ranked, ((List.mergeSort_perm _ _).map _).nodup_iff, values]
  exact nodup_distinct _

theorem isRanking_ranking {first : MetricFunction} (leads : functions.head? = some first) :
    IsRanking nan records dimension first.metric (ranking nan functions dimension records) where
  mem := mem_ranking nan dimension records
  ordered := by
    let bits value := nan (recordsOf dimension value records)
    have nodup : ((groups functions dimension records).map (Group.place bits)).Nodup := by
      rw [groups_eq, List.map_map]
      apply (nodup_distinct _).map
      intro a b same
      exact (Prod.mk.inj (toLex.injective same)).2
    have strict := strict_mergeSort_of_key (Group.before_iff_place bits) nodup
    change (ranked nan functions dimension records).Pairwise _ at strict
    rw [ranked_eq, List.pairwise_map] at strict
    apply strict.imp
    intro a b less
    simp only [Group.place_lt_iff, bits, lead_groupOf nan dimension records leads] at less
    exact less

variable {nan dimension records}

theorem getElem?_groupOf {i : Nat} {f : MetricFunction} (column : functions[i]? = some f)
    (value : String) :
    (groupOf functions dimension records value).totals[i]? =
      some (groupTotal records dimension f.metric value) := by
  simp [groupOf, column]

theorem foldl_totals (rest : List String) (sum : MetricFunction → Float) :
    (rest.map (groupOf functions dimension records)).foldl
        (fun sums g => List.zipWith (· + ·) sums g.totals) (functions.map sum) =
      functions.map fun f =>
        rest.foldl (fun sum value => sum + groupTotal records dimension f.metric value) (sum f) := by
  induction rest generalizing sum with
  | nil => rfl
  | cons value rest ih =>
    have step : List.zipWith (· + ·) (functions.map sum)
        (groupOf functions dimension records value).totals =
          functions.map fun f => sum f + groupTotal records dimension f.metric value := by
      rw [groupOf, List.zipWith_map, List.zipWith_self]
    rw [List.map_cons, List.foldl_cons, step, ih]
    rfl

theorem merged_eq (rest : List String) :
    merged functions (rest.map (groupOf functions dimension records)) =
      functions.map fun f =>
        rest.foldl (fun sum value => sum + groupTotal records dimension f.metric value) 0.0 :=
  foldl_totals rest fun _ => 0.0

theorem getElem?_sharedGroup {i : Nat} {f : MetricFunction} (column : functions[i]? = some f)
    (values : List String) :
    (sharedGroup functions dimension records values).totals[i]? =
      some (values.foldl (fun sum value => sum + groupTotal records dimension f.metric value) 0.0) := by
  simp [sharedGroup, column]

theorem capped_eq (topK : Option Nat) :
    capped functions topK (ranked nan functions dimension records) =
      (shownValues topK (ranking nan functions dimension records)).map
          (groupOf functions dimension records) ++
        if otherValues topK (ranking nan functions dimension records) = [] then []
        else [sharedGroup functions dimension records
          (otherValues topK (ranking nan functions dimension records))] := by
  rw [ranked_eq]
  generalize ranking nan functions dimension records = values
  cases topK with
  | none => simp [capped, shownValues, otherValues]
  | some k =>
    simp only [capped, List.length_map, shownValues, otherValues, Option.elim_some,
      List.drop_eq_nil_iff]
    by_cases more : k < values.length
    · rw [if_pos more, if_neg (not_le.2 more), ← List.map_take, ← List.map_drop, merged_eq]
      rfl
    · rw [if_neg more, if_pos (not_lt.1 more), List.take_of_length_le (not_lt.1 more),
        List.append_nil]

theorem getLast?_groups (values : List String) (value : String) :
    ((values.map (groupOf functions dimension records)).filter (·.value = value)).getLast? =
      if value ∈ values then some (groupOf functions dimension records value) else none := by
  have kept : (values.map (groupOf functions dimension records)).filter (·.value = value) =
      (values.filter (· = value)).map (groupOf functions dimension records) := by
    rw [List.filter_map]
    rfl
  rw [kept, List.filter_eq, List.getLast?_map, List.getLast?_replicate]
  by_cases member : value ∈ values <;> simp [List.count_eq_zero, member]

theorem getLast?_capped {k : Nat}
    (unlabelled : otherLabel ∉ ranking nan functions dimension records) (value : String) :
    ((capped functions (some k) (ranked nan functions dimension records)).filter
        (·.value = value)).getLast? =
      if value ∈ (ranking nan functions dimension records).take k then
        some (groupOf functions dimension records value)
      else if value = otherLabel ∧ k < (ranking nan functions dimension records).length then
        some (sharedGroup functions dimension records
          ((ranking nan functions dimension records).drop k))
      else none := by
  rw [capped_eq]
  generalize ranking nan functions dimension records = values at unlabelled
  -- The row for the rest comes last, so it would hide a value that has its label.
  have absent : otherLabel ∉ values.take k := fun member => unlabelled (List.mem_of_mem_take member)
  simp only [shownValues, otherValues, Option.elim_some, List.drop_eq_nil_iff]
  rw [List.filter_append, List.getLast?_append, getLast?_groups]
  by_cases more : k < values.length
  · rw [if_neg (not_le.2 more)]
    by_cases labelled : value = otherLabel
    · simp [labelled, absent, more, sharedGroup]
    · simp [labelled, Ne.symm labelled, sharedGroup]
  · simp [more, not_lt.1 more]

section Query

variable {r : Request} {topK : Nat} {pair : Interval × Interval} {bucket : Nat} {window : Window}

theorem Store.lastRow?_grouped (st : Store) (value : String) :
    (st.answer ((r.withWindows pair.1 pair.2).query topK functions bucket (some dimension)
        window)).lastRow? (some value) =
      (((capped functions (some topK)
        (ranked (st.nan r.collection functions.head?) functions dimension
          (st.admitted r (window.pick pair)))).filter
            (·.value = value)).getLast?).map Group.toRow := by
  simp only [answer, answerFrom, Answer.lastRow?, st.filter_query, Request.query_groupBy,
    Request.query_functions, Request.query_topK, Option.map_some, List.filter_map, List.getLast?_map]
  congr 3
  funext g
  simp [AnswerRow.carries, Group.toRow]

theorem Store.listed_iff (st : Store)
    (unlabelled : otherLabel ∉ ranking (st.nan r.collection functions.head?) functions dimension
      (st.admitted r (window.pick pair)))
    (value : String) :
    (∃ row ∈ (st.answer ((r.withWindows pair.1 pair.2).query topK functions bucket (some dimension)
        window)).rows, row.dimensions.head? = some value) ↔
      Listed topK (ranking (st.nan r.collection functions.head?) functions dimension
        (st.admitted r (window.pick pair))) value := by
  rw [← Answer.isSome_lastRow?, st.lastRow?_grouped, getLast?_capped unlabelled, Listed]
  split
  · simp [*]
  · split <;> simp [*]

theorem Store.listedTotal_eq (st : Store)
    (unlabelled : otherLabel ∉ ranking (st.nan r.collection functions.head?) functions dimension
      (st.admitted r (window.pick pair)))
    {i : Nat} {f : MetricFunction} (column : functions[i]? = some f) (value : String) :
    (((st.answer ((r.withWindows pair.1 pair.2).query topK functions bucket (some dimension)
        window)).lastRow? (some value)).bind (·.metrics[i]?)).getD 0.0 =
      listedTotal (st.admitted r (window.pick pair)) dimension f.metric topK
        (ranking (st.nan r.collection functions.head?) functions dimension
          (st.admitted r (window.pick pair))) value := by
  rw [st.lastRow?_grouped, getLast?_capped unlabelled, listedTotal]
  split
  · simp [Group.toRow, getElem?_groupOf column]
  · split
    · simp only [Option.map_some, Option.bind_some, Group.toRow, getElem?_sharedGroup column,
        Option.getD_some]
    · rfl

end Query

end PeriodCompare
