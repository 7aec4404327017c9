import Mathlib.Data.List.Nodup
import Mathlib.Data.Prod.Lex
import Mathlib.Data.String.Basic
import PeriodCompare.Join

set_option autoImplicit false

namespace PeriodCompare

section Sorting

variable {α β : Type} [LinearOrder β] {le : α → α → Bool} {key : α → β}

theorem pairwise_mergeSort_of_key (spec : ∀ a b, le a b = true ↔ key a ≤ key b) (l : List α) :
    (l.mergeSort le).Pairwise (key · ≤ key ·) := by
  have sorted : (l.mergeSort le).Pairwise (le · · = true) := by
    apply List.pairwise_mergeSort
    · intro a b c first second
      exact (spec a c).2 (((spec a b).1 first).trans ((spec b c).1 second))
    · intro a b
      simp only [Bool.or_eq_true, spec]
      exact le_total (key a) (key b)
  exact sorted.imp fun ordered => (spec _ _).1 ordered

theorem strict_mergeSort_of_key (spec : ∀ a b, le a b = true ↔ key a ≤ key b) {l : List α}
    (nodup : (l.map key).Nodup) : (l.mergeSort le).Pairwise (key · < key ·) := by
  have keys : ((l.mergeSort le).map key).Nodup :=
    ((List.mergeSort_perm l le).map key).nodup_iff.2 nodup
  have distinct : (l.mergeSort le).Pairwise (key · ≠ key ·) := List.pairwise_map.1 keys
  exact ((pairwise_mergeSort_of_key spec l).and distinct).imp fun both => lt_of_le_of_ne both.1 both.2

variable {r : α → α → Prop} {l other : List α}

theorem nodup_of_asymm (asymm : ∀ a b, r a b → ¬ r b a) (ordered : l.Pairwise r) : l.Nodup := by
  refine ordered.imp ?_
  rintro a _ before rfl
  exact asymm a a before before

theorem eq_of_mem_iff_of_asymm (asymm : ∀ a b, r a b → ¬ r b a) (ordered : l.Pairwise r)
    (orderedToo : other.Pairwise r) (same : ∀ a, a ∈ l ↔ a ∈ other) : l = other :=
  ((List.perm_ext_iff_of_nodup (nodup_of_asymm asymm ordered)
    (nodup_of_asymm asymm orderedToo)).2 same).eq_of_pairwise
      (fun a b _ _ before after => (asymm a b before after).elim) ordered orderedToo

end Sorting

namespace Dimension

def place (d : Dimension) : String ×ₗ String :=
  toLex (d.name, d.value)

theorem le_iff_place (a b : Dimension) : a.le b = true ↔ a.place ≤ b.place := by
  simp [Dimension.le, place, Prod.Lex.toLex_le_toLex]

def declaredPlace (groupBy : List String) (d : Dimension) : Nat ×ₗ String ×ₗ String :=
  toLex (declaredRank groupBy d.name, d.place)

theorem declaredLe_iff_place (groupBy : List String) (a b : Dimension) :
    a.declaredLe groupBy b = true ↔ a.declaredPlace groupBy ≤ b.declaredPlace groupBy := by
  simp [declaredLe, declaredPlace, Prod.Lex.toLex_le_toLex, le_iff_place]

theorem place_injective : Function.Injective place := by
  rintro ⟨name, value⟩ ⟨otherName, otherValue⟩ same
  simpa [place] using same

theorem declaredPlace_injective (groupBy : List String) :
    Function.Injective (declaredPlace groupBy) := by
  intro a b same
  simp only [declaredPlace, EmbeddingLike.apply_eq_iff_eq, Prod.mk.injEq] at same
  exact place_injective same.2

def Before (groupBy : List String) (a b : Dimension) : Prop :=
  groupBy.idxOf a.name < groupBy.idxOf b.name ∨
    groupBy.idxOf a.name = groupBy.idxOf b.name ∧ a.value < b.value

theorem before_of_place {groupBy : List String} {a b : Dimension} (declared : a.name ∈ groupBy)
    (less : a.declaredPlace groupBy < b.declaredPlace groupBy) : a.Before groupBy b := by
  simp only [declaredPlace, declaredRank, place, Prod.Lex.toLex_lt_toLex] at less
  rcases less with earlier | ⟨sameRank, byName | ⟨-, byValue⟩⟩
  · exact .inl earlier
  · have sameName : a.name = b.name := (List.idxOf_inj declared).1 sameRank
    simp [sameName] at byName
  · exact .inr ⟨sameRank, byValue⟩

theorem before_asymm {groupBy : List String} {a b : Dimension} (before : a.Before groupBy b) :
    ¬ b.Before groupBy a := by
  rintro (later | ⟨same, later⟩) <;> rcases before with earlier | ⟨sameToo, earlier⟩
  · exact lt_asymm earlier later
  · exact absurd later (sameToo ▸ lt_irrefl _)
  · exact absurd earlier (same ▸ lt_irrefl _)
  · exact lt_asymm earlier later

end Dimension

namespace PairedIndex

theorem nodup_dimensions (w : PairedIndex) : w.dimensions.Nodup :=
  (List.mergeSort_perm _ _).nodup_iff.2 (nodup_distinct _)

theorem mem_orderedDimensions (w : PairedIndex) (groupBy : List String) (d : Dimension) :
    d ∈ w.orderedDimensions groupBy ↔ d ∈ w.baseline.dimensions ∨ d ∈ w.current.dimensions := by
  simp [orderedDimensions, dimensions]

theorem strict_orderedDimensions (w : PairedIndex) (groupBy : List String) :
    (w.orderedDimensions groupBy).Pairwise
      fun a b => a.declaredPlace groupBy < b.declaredPlace groupBy :=
  strict_mergeSort_of_key (Dimension.declaredLe_iff_place groupBy)
    (List.Nodup.map (Dimension.declaredPlace_injective groupBy) w.nodup_dimensions)

end PairedIndex

end PeriodCompare
