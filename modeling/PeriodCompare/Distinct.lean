set_option autoImplicit false

namespace PeriodCompare

variable {α : Type} [DecidableEq α]

def distinctAfter (seen : List α) : List α → List α
  | [] => []
  | a :: rest =>
    if a ∈ seen then distinctAfter seen rest else a :: distinctAfter (a :: seen) rest

def distinct (l : List α) : List α :=
  distinctAfter [] l

theorem mem_distinctAfter {seen l : List α} {a : α} :
    a ∈ distinctAfter seen l ↔ a ∈ l ∧ a ∉ seen := by
  induction l generalizing seen with
  | nil => simp [distinctAfter]
  | cons b rest ih =>
    by_cases hb : b ∈ seen
    · simp only [distinctAfter, hb, if_true, ih, List.mem_cons]
      constructor
      · rintro ⟨h, hs⟩
        exact ⟨.inr h, hs⟩
      · rintro ⟨rfl | h, hs⟩
        · exact absurd hb hs
        · exact ⟨h, hs⟩
    · simp only [distinctAfter, hb, if_false, List.mem_cons, ih, not_or]
      constructor
      · rintro (rfl | ⟨h, hne, hs⟩)
        · exact ⟨.inl rfl, hb⟩
        · exact ⟨.inr h, hs⟩
      · rintro ⟨rfl | h, hs⟩
        · exact .inl rfl
        · by_cases e : a = b
          · exact .inl e
          · exact .inr ⟨h, e, hs⟩

@[simp] theorem mem_distinct {l : List α} {a : α} : a ∈ distinct l ↔ a ∈ l := by
  simp [distinct, mem_distinctAfter]

theorem nodup_distinctAfter (seen l : List α) : (distinctAfter seen l).Nodup := by
  induction l generalizing seen with
  | nil => exact List.nodup_nil
  | cons b rest ih =>
    by_cases hb : b ∈ seen
    · simpa [distinctAfter, hb] using ih seen
    · simp [distinctAfter, hb, ih, mem_distinctAfter]

theorem pairwise_distinctAfter (seen l : List α) :
    (distinctAfter seen l).Pairwise fun a b => l.idxOf a < l.idxOf b := by
  induction l generalizing seen with
  | nil => exact .nil
  | cons b rest ih =>
    have later (more : List α) (member : b ∈ more) (x : α) (inside : x ∈ distinctAfter more rest) :
        (b :: rest).idxOf x = rest.idxOf x + 1 := by
      have apart : b ≠ x := fun same => (mem_distinctAfter.1 inside).2 (same ▸ member)
      rw [List.idxOf_cons, beq_eq_false_iff_ne.2 apart, cond_false]
    have shifted (more : List α) (member : b ∈ more) :
        (distinctAfter more rest).Pairwise fun x y => (b :: rest).idxOf x < (b :: rest).idxOf y := by
      refine (ih more).imp_of_mem fun {x y} inX inY before => ?_
      rw [later more member x inX, later more member y inY]
      exact Nat.succ_lt_succ before
    by_cases hb : b ∈ seen
    · simpa only [distinctAfter, hb, if_true] using shifted seen hb
    · simp only [distinctAfter, hb, if_false, List.pairwise_cons]
      refine ⟨fun x inside => ?_, shifted _ List.mem_cons_self⟩
      rw [List.idxOf_cons_self, later _ List.mem_cons_self x inside]
      exact Nat.succ_pos _

theorem pairwise_distinct (l : List α) :
    (distinct l).Pairwise fun a b => l.idxOf a < l.idxOf b :=
  pairwise_distinctAfter [] l

theorem nodup_distinct (l : List α) : (distinct l).Nodup :=
  nodup_distinctAfter [] l

theorem distinctAfter_of_nodup {seen l : List α} (once : l.Nodup) (fresh : ∀ a ∈ l, a ∉ seen) :
    distinctAfter seen l = l := by
  induction l generalizing seen with
  | nil => rfl
  | cons a rest ih =>
    rw [List.nodup_cons] at once
    rw [List.forall_mem_cons] at fresh
    rw [distinctAfter, if_neg fresh.1]
    refine congrArg (a :: ·) (ih once.2 fun b member => ?_)
    rw [List.mem_cons, not_or]
    exact ⟨fun same => once.1 (same ▸ member), fresh.2 b member⟩

theorem distinct_of_nodup {l : List α} (once : l.Nodup) : distinct l = l :=
  distinctAfter_of_nodup once fun _ _ => List.not_mem_nil

end PeriodCompare
