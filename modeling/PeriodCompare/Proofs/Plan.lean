import Mathlib.Data.List.Nodup
import PeriodCompare.Query
import PeriodCompare.Proofs.Buckets

set_option autoImplicit false

namespace PeriodCompare

namespace Request

variable {r : Request} {topK : Nat} {functions : List MetricFunction} {windows : Windows}
  {queries : List Query}

def breakdowns (r : Request) : List (Option String) :=
  if r.isGrouped then r.groupBy.map some else [none]

def query (r : Request) (topK : Nat) (functions : List MetricFunction) (bucket : Nat) :
    Option String → Window → Query
  | none, window => r.totalQuery functions bucket window
  | some dimension, window => r.groupQuery topK functions bucket dimension window

@[simp] theorem query_window (bucket : Nat) (dimension : Option String) (window : Window) :
    (r.query topK functions bucket dimension window).window = window := by
  cases dimension <;> rfl

@[simp] theorem query_bucket (bucket : Nat) (dimension : Option String) (window : Window) :
    (r.query topK functions bucket dimension window).bucket = bucket := by
  cases dimension <;> rfl

@[simp] theorem query_groupBy (bucket : Nat) (dimension : Option String) (window : Window) :
    (r.query topK functions bucket dimension window).groupBy = dimension := by
  cases dimension <;> rfl

@[simp] theorem query_collection (bucket : Nat) (dimension : Option String) (window : Window) :
    (r.query topK functions bucket dimension window).collection = r.collection := by
  cases dimension <;> rfl

@[simp] theorem query_functions (bucket : Nat) (dimension : Option String) (window : Window) :
    (r.query topK functions bucket dimension window).functions = functions := by
  cases dimension <;> rfl

@[simp] theorem query_topK (bucket : Nat) (dimension : Option String) (window : Window) :
    (r.query topK functions bucket dimension window).topK = dimension.map fun _ => topK := by
  cases dimension <;> rfl

theorem queries_eq_ok {bucket : Nat} (planned : r.queries topK functions bucket = .ok queries) :
    queries = r.breakdowns.flatMap fun dimension =>
      Window.all.map (r.query topK functions bucket dimension) := by
  cases grouped : r.isGrouped with
  | true =>
    simp only [Request.queries, grouped, if_true, groupQueries, Checked.bind_eq_ok] at planned
    obtain ⟨-, -, planned⟩ := planned
    rw [← Checked.pure_eq_ok.1 planned, breakdowns, if_pos grouped, List.flatMap_map]
    rfl
  | false =>
    simp only [Request.queries, grouped, Bool.false_eq_true, if_false, totalQueries,
      Checked.bind_eq_ok] at planned
    obtain ⟨-, -, planned⟩ := planned
    rw [← Checked.pure_eq_ok.1 planned, breakdowns, if_neg (by simp [grouped]),
      List.flatMap_singleton]
    rfl

theorem bucketQueries_eq_ok (planned : r.bucketQueries topK functions windows = .ok queries) :
    queries = (windows.baseline.zip windows.current).zipIdx.flatMap fun (pair, bucket) =>
      r.breakdowns.flatMap fun dimension =>
        Window.all.map ((r.withWindows pair.1 pair.2).query topK functions bucket dimension) := by
  simp only [bucketQueries, Checked.bind_eq_ok, Checked.mapM_eq_ok, Checked.pure_eq_ok] at planned
  obtain ⟨perBucket, each, rfl⟩ := planned
  generalize (windows.baseline.zip windows.current).zipIdx = buckets at each
  induction each with
  | nil => rfl
  | cons first _ ih =>
    rw [List.flatten_cons, List.flatMap_cons, ih, queries_eq_ok first]
    rfl

theorem exists_head?_of_queries {bucket : Nat}
    (planned : r.queries topK functions bucket = .ok queries) :
    ∃ first, functions.head? = some first := by
  cases functions with
  | cons first rest => exact ⟨first, rfl⟩
  | nil => simp [Request.queries, groupQueries, totalQueries, needMetrics] at planned

theorem exists_head?_of_bucketQueries (cutInto : r.windows = .ok windows)
    (planned : r.bucketQueries topK functions windows = .ok queries) :
    ∃ first, functions.head? = some first := by
  simp only [bucketQueries, Checked.bind_eq_ok] at planned
  obtain ⟨perBucket, each, -⟩ := planned
  obtain ⟨pair, found⟩ := Windows.exists_pair? (windows_aligned cutInto) (windows_size_pos cutInto)
  obtain ⟨_, asked⟩ := Checked.exists_of_mapM each (Windows.mem_zipIdx_zip.2 found)
  exact exists_head?_of_queries asked

theorem mem_bucketQueries (planned : r.bucketQueries topK functions windows = .ok queries)
    (q : Query) :
    q ∈ queries ↔ ∃ bucket pair dimension window, windows.pair? bucket = some pair ∧
      dimension ∈ r.breakdowns ∧
        q = (r.withWindows pair.1 pair.2).query topK functions bucket dimension window := by
  simp only [bucketQueries_eq_ok planned, List.mem_flatMap, List.mem_map]
  constructor
  · intro asked
    obtain ⟨⟨pair, bucket⟩, inside, dimension, declared, window, -, rfl⟩ := asked
    exact ⟨bucket, pair, dimension, window, Windows.mem_zipIdx_zip.1 inside, declared, rfl⟩
  · intro planned
    obtain ⟨bucket, pair, dimension, window, found, declared, rfl⟩ := planned
    refine ⟨(pair, bucket), Windows.mem_zipIdx_zip.2 found, dimension, declared, window, ?_, rfl⟩
    cases window <;> simp [Window.all]

theorem eq_of_mem_bucketQueries (planned : r.bucketQueries topK functions windows = .ok queries)
    {q other : Query} (member : q ∈ queries) (alsoMember : other ∈ queries)
    (sameWindow : q.window = other.window) (sameBucket : q.bucket = other.bucket)
    (sameGroup : q.groupBy = other.groupBy) : q = other := by
  obtain ⟨bucket, pair, dimension, window, found, -, rfl⟩ := (mem_bucketQueries planned q).1 member
  obtain ⟨_, otherPair, _, _, otherFound, -, rfl⟩ := (mem_bucketQueries planned other).1 alsoMember
  simp only [query_window, query_bucket, query_groupBy] at sameWindow sameBucket sameGroup
  subst sameWindow sameBucket sameGroup
  obtain rfl := Option.some.inj (found.symm.trans otherFound)
  rfl

theorem nodup_breakdowns (distinct : r.groupBy.Nodup) : r.breakdowns.Nodup := by
  unfold breakdowns
  split
  · exact distinct.map fun _ _ => Option.some.inj
  · exact List.nodup_singleton none

theorem nodup_bucketQueries (distinct : r.groupBy.Nodup)
    (planned : r.bucketQueries topK functions windows = .ok queries) : queries.Nodup := by
  rw [bucketQueries_eq_ok planned, List.nodup_flatMap]
  constructor
  · rintro ⟨pair, bucket⟩ -
    rw [List.nodup_flatMap]
    constructor
    · intro dimension _
      refine List.Nodup.map (fun first second same => ?_) (by decide)
      simpa using congrArg Query.window same
    · refine (nodup_breakdowns distinct).imp fun {first second} apart => ?_
      rw [Function.onFun_apply, List.disjoint_left]
      intro q inFirst inSecond
      simp only [List.mem_map] at inFirst inSecond
      obtain ⟨_, -, rfl⟩ := inFirst
      obtain ⟨_, -, same⟩ := inSecond
      exact apart (by simpa using congrArg Query.groupBy same.symm)
  · have buckets : ((windows.baseline.zip windows.current).zipIdx.map (·.2)).Nodup := by
      rw [List.zipIdx_map_snd]
      exact List.nodup_range'
    refine (List.pairwise_map.1 buckets).imp fun {first second} apart => ?_
    rw [Function.onFun_apply, List.disjoint_left]
    intro q inFirst inSecond
    simp only [List.mem_flatMap, List.mem_map] at inFirst inSecond
    obtain ⟨_, -, _, -, rfl⟩ := inFirst
    obtain ⟨_, -, _, -, same⟩ := inSecond
    exact apart (by simpa using congrArg Query.bucket same.symm)

theorem mem_breakdowns_of_grouped (grouped : r.isGrouped = true) (dimension : Option String) :
    dimension ∈ r.breakdowns ↔ ∃ name ∈ r.groupBy, dimension = some name := by
  simp [breakdowns, grouped, eq_comm]

theorem mem_breakdowns_of_ungrouped (ungrouped : r.isGrouped = false) (dimension : Option String) :
    dimension ∈ r.breakdowns ↔ dimension = none := by
  simp [breakdowns, ungrouped]

end Request

end PeriodCompare
