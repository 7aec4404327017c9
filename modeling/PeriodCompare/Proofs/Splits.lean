import Mathlib.Data.List.Basic

set_option autoImplicit false

namespace PeriodCompare

variable {α : Type}

section Cons

variable {a : α} {rest : List α}

theorem exists_split_cons {P : List α → α → List α → Prop} :
    (∃ before b after, a :: rest = before ++ b :: after ∧ P before b after) ↔
      P [] a rest ∨ ∃ before b after, rest = before ++ b :: after ∧ P (a :: before) b after := by
  constructor
  · rintro ⟨_ | ⟨first, before⟩, b, after, split, holds⟩
    · obtain ⟨rfl, rfl⟩ := List.cons.inj split
      exact .inl holds
    · obtain ⟨rfl, rfl⟩ := List.cons.inj split
      exact .inr ⟨before, b, after, rfl, holds⟩
  · rintro (holds | ⟨before, b, after, rfl, holds⟩)
    · exact ⟨[], a, rest, rfl, holds⟩
    · exact ⟨a :: before, b, after, rfl, holds⟩

theorem forall_split_cons {P : List α → α → Prop} :
    (∀ before b after, a :: rest = before ++ b :: after → P before b) ↔
      P [] a ∧ ∀ before b after, rest = before ++ b :: after → P (a :: before) b := by
  constructor
  · intro all
    exact ⟨all [] a rest rfl, fun before b after split => all (a :: before) b after (split ▸ rfl)⟩
  · rintro ⟨first, later⟩ (_ | ⟨_, before⟩) b after split
    · obtain ⟨rfl, -⟩ := List.cons.inj split
      exact first
    · obtain ⟨rfl, rfl⟩ := List.cons.inj split
      exact later before b after rfl

end Cons

theorem getLast?_filter_eq_some {p : α → Bool} {l : List α} {a : α} :
    (l.filter p).getLast? = some a ↔
      ∃ before after, l = before ++ a :: after ∧ p a = true ∧ ∀ later ∈ after, p later = false := by
  rw [List.getLast?_filter, List.find?_eq_some_iff_append]
  constructor
  · rintro ⟨has, later, before, split, none⟩
    refine ⟨before.reverse, later.reverse, ?_, has, ?_⟩
    · rw [← List.reverse_reverse l, split]
      simp
    · simpa using none
  · rintro ⟨before, after, rfl, has, none⟩
    exact ⟨has, after.reverse, before.reverse, by simp, by simpa using none⟩

end PeriodCompare
