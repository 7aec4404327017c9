set_option autoImplicit false

namespace PeriodCompare

structure Table (κ ν : Type) where
  entries : List (κ × ν)
  deriving DecidableEq

namespace Table

variable {κ ν : Type}

def empty : Table κ ν := ⟨[]⟩

instance : Inhabited (Table κ ν) := ⟨empty⟩

def size (t : Table κ ν) : Nat :=
  t.entries.length

def keys (t : Table κ ν) : List κ :=
  t.entries.map (·.1)

variable [DecidableEq κ]

def lookup (key : κ) : List (κ × ν) → Option ν
  | [] => none
  | (other, value) :: rest => if other = key then some value else lookup key rest

def get? (t : Table κ ν) (key : κ) : Option ν :=
  lookup key t.entries

def write (key : κ) (value : ν) : List (κ × ν) → List (κ × ν)
  | [] => [(key, value)]
  | (other, previous) :: rest =>
    if other = key then (key, value) :: rest else (other, previous) :: write key value rest

def insert (t : Table κ ν) (key : κ) (value : ν) : Table κ ν :=
  ⟨write key value t.entries⟩

def insertAll (t : Table κ ν) (pairs : List (κ × ν)) : Table κ ν :=
  pairs.foldl (fun t pair => t.insert pair.1 pair.2) t

def ofList (pairs : List (κ × ν)) : Table κ ν :=
  empty.insertAll pairs

theorem lookup_write (key other : κ) (value : ν) (l : List (κ × ν)) :
    lookup other (write key value l) = if key = other then some value else lookup other l := by
  induction l with
  | nil => simp [write, lookup]
  | cons entry rest ih =>
    rcases entry with ⟨head, previous⟩
    by_cases hh : head = key
    · subst hh
      by_cases ho : head = other <;> simp [write, lookup, ho]
    · by_cases ho : head = other
      · subst ho
        simp [write, lookup, hh, Ne.symm hh]
      · simp [write, lookup, hh, ho, ih]

@[simp] theorem get?_empty (key : κ) : (empty : Table κ ν).get? key = none := rfl

@[simp] theorem get?_insert (t : Table κ ν) (key other : κ) (value : ν) :
    (t.insert key value).get? other = if key = other then some value else t.get? other :=
  lookup_write key other value t.entries

theorem mem_keys_write (key other : κ) (value : ν) (l : List (κ × ν)) :
    other ∈ (write key value l).map (·.1) ↔ other = key ∨ other ∈ l.map (·.1) := by
  induction l with
  | nil => simp [write]
  | cons entry rest ih =>
    rcases entry with ⟨head, previous⟩
    by_cases hh : head = key
    · subst hh
      simp [write]
    · simp only [write, hh, if_false, List.map_cons, List.mem_cons, ih]
      constructor
      · rintro (h | h | h)
        · exact .inr (.inl h)
        · exact .inl h
        · exact .inr (.inr h)
      · rintro (h | h | h)
        · exact .inr (.inl h)
        · exact .inl h
        · exact .inr (.inr h)

@[simp] theorem mem_keys_insert (t : Table κ ν) (key other : κ) (value : ν) :
    other ∈ (t.insert key value).keys ↔ other = key ∨ other ∈ t.keys :=
  mem_keys_write key other value t.entries

theorem get?_isSome_iff (t : Table κ ν) (key : κ) : (t.get? key).isSome ↔ key ∈ t.keys := by
  rcases t with ⟨l⟩
  simp only [get?, keys]
  induction l with
  | nil => simp [lookup]
  | cons entry rest ih =>
    rcases entry with ⟨head, value⟩
    by_cases hh : head = key
    · simp [lookup, hh]
    · simp [lookup, hh, Ne.symm hh, ih]

end Table

end PeriodCompare
