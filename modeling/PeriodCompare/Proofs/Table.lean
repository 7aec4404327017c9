import Mathlib.Data.List.Nodup
import Mathlib.Data.List.Perm.Subperm
import PeriodCompare.Distinct
import PeriodCompare.Table

set_option autoImplicit false

namespace PeriodCompare

section Distinct

variable {α : Type} [DecidableEq α]

theorem distinctAfter_congr {seen other : List α} (same : ∀ a, a ∈ seen ↔ a ∈ other) (l : List α) :
    distinctAfter seen l = distinctAfter other l := by
  induction l generalizing seen other with
  | nil => rfl
  | cons a rest ih =>
    have extended : ∀ b, b ∈ a :: seen ↔ b ∈ a :: other := by simp [same]
    by_cases member : a ∈ other <;> simp [distinctAfter, same, member, ih same, ih extended]

theorem distinctAfter_sublist (seen l : List α) : (distinctAfter seen l).Sublist l := by
  induction l generalizing seen with
  | nil => exact .refl _
  | cons a rest ih =>
    by_cases member : a ∈ seen
    · simpa only [distinctAfter, member, if_true] using (ih seen).cons a
    · simpa only [distinctAfter, member, if_false] using (ih _).cons_cons a

theorem length_distinct_eq_iff {l : List α} : (distinct l).length = l.length ↔ l.Nodup := by
  constructor
  · intro same
    exact (distinctAfter_sublist [] l).eq_of_length same ▸ nodup_distinct l
  · intro nodup
    rw [distinct_of_nodup nodup]

end Distinct

namespace Table

variable {κ ν : Type} [DecidableEq κ]

def lastValue (key : κ) (pairs : List (κ × ν)) : Option ν :=
  ((pairs.filter (·.1 = key)).getLast?).map (·.2)

theorem lastValue_append (key : κ) (first second : List (κ × ν)) :
    lastValue key (first ++ second) = (lastValue key second).or (lastValue key first) := by
  simp only [lastValue, List.filter_append, List.getLast?_append]
  cases (second.filter (·.1 = key)).getLast? <;> rfl

theorem lastValue_cons (key : κ) (pair : κ × ν) (rest : List (κ × ν)) :
    lastValue key (pair :: rest) =
      (lastValue key rest).or (if pair.1 = key then some pair.2 else none) := by
  have single : lastValue key [pair] = if pair.1 = key then some pair.2 else none := by
    by_cases same : pair.1 = key <;> simp [lastValue, same]
  rw [← single, ← lastValue_append]
  rfl

theorem lastValue_eq_none {key : κ} {pairs : List (κ × ν)} (absent : ∀ pair ∈ pairs, pair.1 ≠ key) :
    lastValue key pairs = none := by
  have empty : pairs.filter (·.1 = key) = [] := by simpa using absent
  simp [lastValue, empty]

theorem lastValue_filterMap {α : Type} (key : κ) (f : α → Option κ) (g : α → ν) (l : List α) :
    lastValue key (l.filterMap fun a => (f a).map fun found => (found, g a)) =
      ((l.filter (f · = some key)).getLast?).map g := by
  have keyed : (l.filterMap fun a => (f a).map fun found => (found, g a)).filter (·.1 = key) =
      (l.filter (f · = some key)).map fun a => (key, g a) := by
    induction l with
    | nil => rfl
    | cons a rest ih =>
      cases found : f a with
      | none => simpa [List.filterMap_cons, found] using ih
      | some other => by_cases same : other = key <;> simpa [List.filterMap_cons, found, same] using ih
  rw [lastValue, keyed, List.getLast?_map, Option.map_map]
  rfl

theorem lastValue_flatMap {α : Type} {key : κ} (f : α → List (κ × ν)) {chosen : α} {l : List α}
    (only : ∀ a ∈ l, ∀ pair ∈ f a, pair.1 = key → a = chosen) (member : chosen ∈ l) :
    lastValue key (l.flatMap f) = lastValue key (f chosen) := by
  induction l with
  | nil => simp at member
  | cons a rest ih =>
    have later : ∀ b ∈ rest, ∀ pair ∈ f b, pair.1 = key → b = chosen :=
      fun b inRest => only b (List.mem_cons_of_mem a inRest)
    rw [List.flatMap_cons, lastValue_append]
    by_cases again : chosen ∈ rest
    · rw [ih later again]
      by_cases same : a = chosen
      · simp [same]
      · have absent : lastValue key (f a) = none :=
          lastValue_eq_none fun pair inPairs e => same (only a List.mem_cons_self pair inPairs e)
        simp [absent]
    · have same : chosen = a := (List.mem_cons.1 member).resolve_right again
      have absent : lastValue key (rest.flatMap f) = none := by
        refine lastValue_eq_none fun pair inPairs e => again ?_
        obtain ⟨b, inRest, inGroup⟩ := List.mem_flatMap.1 inPairs
        exact later b inRest pair inGroup e ▸ inRest
      simp [absent, same]

theorem lastValue_flatMap_perm {α : Type} {key : κ} (f : α → List (κ × ν)) {l other : List α}
    (perm : l.Perm other)
    (alone : ∀ a ∈ l, ∀ b ∈ l, key ∈ (f a).map (·.1) → key ∈ (f b).map (·.1) → a = b) :
    lastValue key (l.flatMap f) = lastValue key (other.flatMap f) := by
  by_cases held : ∃ a ∈ l, key ∈ (f a).map (·.1)
  · obtain ⟨chosen, member, has⟩ := held
    have only : ∀ a ∈ l, ∀ pair ∈ f a, pair.1 = key → a = chosen := fun a inL pair inPairs same =>
      alone a inL chosen member (List.mem_map.2 ⟨pair, inPairs, same⟩) has
    rw [lastValue_flatMap f only member, lastValue_flatMap f
      (fun a inOther => only a (perm.mem_iff.2 inOther)) (perm.mem_iff.1 member)]
  · have absent (l' : List α) (same : l.Perm l') : lastValue key (l'.flatMap f) = none := by
      refine lastValue_eq_none fun pair inPairs e => held ?_
      obtain ⟨a, member, inGroup⟩ := List.mem_flatMap.1 inPairs
      exact ⟨a, same.mem_iff.2 member, List.mem_map.2 ⟨pair, inGroup, e⟩⟩
    rw [absent l (.refl l), absent other perm]

@[simp] theorem insertAll_nil (t : Table κ ν) : t.insertAll [] = t := rfl

@[simp] theorem insertAll_cons (t : Table κ ν) (pair : κ × ν) (rest : List (κ × ν)) :
    t.insertAll (pair :: rest) = (t.insert pair.1 pair.2).insertAll rest := rfl

theorem insertAll_append (t : Table κ ν) (first second : List (κ × ν)) :
    t.insertAll (first ++ second) = (t.insertAll first).insertAll second :=
  List.foldl_append

theorem get?_insertAll (t : Table κ ν) (pairs : List (κ × ν)) (key : κ) :
    (t.insertAll pairs).get? key = (lastValue key pairs).or (t.get? key) := by
  induction pairs generalizing t with
  | nil => rfl
  | cons pair rest ih =>
    rw [insertAll_cons, ih, get?_insert, lastValue_cons, Option.or_assoc]
    by_cases same : pair.1 = key <;> simp [same]

theorem get?_ofList (pairs : List (κ × ν)) (key : κ) :
    (ofList pairs).get? key = lastValue key pairs := by
  simp [ofList, get?_insertAll]

theorem keys_insert (t : Table κ ν) (key : κ) (value : ν) :
    (t.insert key value).keys = if key ∈ t.keys then t.keys else t.keys ++ [key] := by
  rcases t with ⟨l⟩
  simp only [insert, keys]
  induction l with
  | nil => simp [write]
  | cons entry rest ih =>
    rcases entry with ⟨head, previous⟩
    by_cases same : head = key
    · simp [write, same]
    · simp only [write, same, if_false, List.map_cons, ih, List.mem_cons, Ne.symm same, false_or]
      by_cases known : key ∈ rest.map (·.1) <;> simp [known]

theorem keys_insertAll (t : Table κ ν) (pairs : List (κ × ν)) :
    (t.insertAll pairs).keys = t.keys ++ distinctAfter t.keys (pairs.map (·.1)) := by
  induction pairs generalizing t with
  | nil => simp [distinctAfter]
  | cons pair rest ih =>
    rw [insertAll_cons, ih, keys_insert, List.map_cons]
    by_cases known : pair.1 ∈ t.keys
    · simp [distinctAfter, known]
    · have same : ∀ key, key ∈ t.keys ++ [pair.1] ↔ key ∈ pair.1 :: t.keys := by simp [or_comm]
      simp [distinctAfter, known, distinctAfter_congr same]

theorem keys_ofList (pairs : List (κ × ν)) :
    (ofList pairs).keys = distinct (pairs.map (·.1)) :=
  keys_insertAll empty pairs

theorem nodup_keys_ofList (pairs : List (κ × ν)) : (ofList pairs).keys.Nodup := by
  rw [keys_ofList]
  exact nodup_distinct _

theorem mem_keys_ofList (pairs : List (κ × ν)) (key : κ) :
    key ∈ (ofList pairs).keys ↔ key ∈ pairs.map (·.1) := by
  rw [keys_ofList, mem_distinct]

theorem get?_ofList_eq_none {pairs : List (κ × ν)} {key : κ} (absent : key ∉ pairs.map (·.1)) :
    (ofList pairs).get? key = none := by
  rw [← Option.not_isSome_iff_eq_none, get?_isSome_iff, mem_keys_ofList]
  exact absent

theorem mem_entries_iff (t : Table κ ν) (nodup : t.keys.Nodup) (key : κ) (value : ν) :
    (key, value) ∈ t.entries ↔ t.get? key = some value := by
  rcases t with ⟨l⟩
  simp only [keys, get?] at nodup ⊢
  induction l with
  | nil => simp [lookup]
  | cons entry rest ih =>
    rcases entry with ⟨head, first⟩
    simp only [List.map_cons, List.nodup_cons] at nodup
    by_cases same : head = key
    · subst same
      have absent : (head, value) ∉ rest := fun member => nodup.1 (List.mem_map_of_mem member)
      simp [lookup, absent, eq_comm]
    · simp [lookup, same, Ne.symm same, ih nodup.2]

theorem mem_of_mem_entries_ofList {pairs : List (κ × ν)} {pair : κ × ν}
    (member : pair ∈ (ofList pairs).entries) : pair ∈ pairs := by
  rcases pair with ⟨key, value⟩
  have found := (mem_entries_iff _ (nodup_keys_ofList pairs) key value).1 member
  rw [get?_ofList, lastValue, Option.map_eq_some_iff] at found
  obtain ⟨⟨other, _⟩, last, rfl⟩ := found
  obtain ⟨inPairs, same⟩ := List.mem_filter.1 (List.mem_of_getLast? last)
  obtain rfl : other = key := by simpa using same
  exact inPairs

theorem mem_entries_ofList {pairs : List (κ × ν)} (nodup : (pairs.map (·.1)).Nodup)
    {pair : κ × ν} : pair ∈ (ofList pairs).entries ↔ pair ∈ pairs := by
  refine ⟨mem_of_mem_entries_ofList, fun member => ?_⟩
  obtain ⟨held, inEntries, same⟩ :=
    List.mem_map.1 ((mem_keys_ofList pairs pair.1).2 (List.mem_map_of_mem member))
  have inPairs := mem_of_mem_entries_ofList inEntries
  obtain rfl := List.inj_on_of_nodup_map nodup inPairs member same
  exact inEntries

theorem lastValue_eq_some_of_mem {pairs : List (κ × ν)} (nodup : (pairs.map (·.1)).Nodup)
    {key : κ} {value : ν} (member : (key, value) ∈ pairs) : lastValue key pairs = some value := by
  rw [← get?_ofList, ← mem_entries_iff _ (nodup_keys_ofList pairs)]
  exact (mem_entries_ofList nodup).2 member

theorem size_ofList_eq_iff (pairs : List (κ × ν)) :
    (ofList pairs).size = pairs.length ↔ (pairs.map (·.1)).Nodup := by
  have size : (ofList pairs).size = (distinct (pairs.map (·.1))).length := by
    rw [← keys_ofList, keys, List.length_map, Table.size]
  rw [size, ← length_distinct_eq_iff, List.length_map]

theorem mem_entries_ofList_map {f : κ → ν} {keys : List κ} {key : κ} {value : ν} :
    (key, value) ∈ (ofList (keys.map fun key => (key, f key))).entries ↔
      key ∈ keys ∧ value = f key := by
  constructor
  · intro member
    obtain ⟨_, inKeys, same⟩ := List.mem_map.1 (mem_of_mem_entries_ofList member)
    cases same
    exact ⟨inKeys, rfl⟩
  · intro both
    obtain ⟨inKeys, rfl⟩ := both
    have known : key ∈ (ofList (keys.map fun key => (key, f key))).keys := by
      simpa [mem_keys_ofList] using inKeys
    obtain ⟨⟨_, value⟩, member, rfl⟩ := List.mem_map.1 known
    obtain ⟨_, _, same⟩ := List.mem_map.1 (mem_of_mem_entries_ofList member)
    cases same
    exact member

theorem entries_perm {t other : Table κ ν} (nodup : t.keys.Nodup) (alsoNodup : other.keys.Nodup)
    (same : ∀ key, t.get? key = other.get? key) : t.entries.Perm other.entries := by
  apply (List.perm_ext_iff_of_nodup nodup.of_map alsoNodup.of_map).2
  rintro ⟨key, value⟩
  rw [mem_entries_iff t nodup, mem_entries_iff other alsoNodup, same]

end Table

end PeriodCompare
