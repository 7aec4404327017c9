import Mathlib.Data.List.Forall2
import PeriodCompare.Failure

set_option autoImplicit false

namespace PeriodCompare

variable {α β : Type}

theorem exists_of_forall₂ {p : α → β → Prop} {as : List α} {bs : List β}
    (all : List.Forall₂ p as bs) {a : α} (member : a ∈ as) : ∃ b ∈ bs, p a b := by
  induction all with
  | nil => simp at member
  | @cons _ b _ _ first _ ih =>
    rcases List.mem_cons.1 member with rfl | later
    · exact ⟨b, List.mem_cons_self, first⟩
    · obtain ⟨other, inRest, related⟩ := ih later
      exact ⟨other, List.mem_cons_of_mem _ inRest, related⟩

theorem exists_forall₂ {p : α → β → Prop} {as : List α}
    (each : ∀ a ∈ as, ∃ b, p a b) : ∃ bs, List.Forall₂ p as bs := by
  induction as with
  | nil => exact ⟨[], .nil⟩
  | cons a rest ih =>
    rw [List.forall_mem_cons] at each
    obtain ⟨b, first⟩ := each.1
    obtain ⟨bs, later⟩ := ih each.2
    exact ⟨b :: bs, .cons first later⟩

namespace Checked

@[simp] theorem ok_bind (a : α) (next : α → Checked β) : ((.ok a : Checked α) >>= next) = next a := rfl

@[simp] theorem error_bind (e : Failure) (next : α → Checked β) :
    ((.error e : Checked α) >>= next) = .error e := rfl

@[simp] theorem map_ok (f : α → β) (a : α) : (.ok a : Checked α).map f = .ok (f a) := rfl

@[simp] theorem map_error (f : α → β) (e : Failure) :
    (.error e : Checked α).map f = .error e := rfl

theorem bind_eq_ok {step : Checked α} {next : α → Checked β} {b : β} :
    (step >>= next) = .ok b ↔ ∃ a, step = .ok a ∧ next a = .ok b := by
  cases step <;> simp [bind, Except.bind]

@[simp] theorem pure_eq_ok {a b : α} : (pure a : Checked α) = .ok b ↔ a = b := by
  simp [pure, Except.pure]

theorem map_eq_ok {f : α → β} {step : Checked α} {b : β} :
    step.map f = .ok b ↔ ∃ a, step = .ok a ∧ f a = b := by
  cases step <;> simp [Except.map]

theorem map_eq_error {f : α → β} {step : Checked α} {e : Failure} :
    step.map f = .error e ↔ step = .error e := by
  cases step <;> simp [Except.map]

theorem mapM_eq_ok {f : α → Checked β} {l : List α} {results : List β} :
    l.mapM f = .ok results ↔ List.Forall₂ (fun a b => f a = .ok b) l results := by
  induction l generalizing results with
  | nil => cases results <;> simp [pure, Except.pure]
  | cons a rest ih =>
    simp only [List.mapM_cons, bind_eq_ok, pure_eq_ok, ih]
    constructor
    · intro both
      obtain ⟨b, first, others, later, rfl⟩ := both
      exact .cons first later
    · intro both
      rcases both with _ | ⟨first, later⟩
      exact ⟨_, first, _, later, rfl⟩

theorem exists_of_mapM {f : α → Checked β} {l : List α} {results : List β}
    (all : l.mapM f = .ok results) {a : α} (member : a ∈ l) : ∃ b, f a = .ok b := by
  obtain ⟨b, -, made⟩ := exists_of_forall₂ (mapM_eq_ok.1 all) member
  exact ⟨b, made⟩

theorem exists_of_mem_mapM {f : α → Checked β} {l : List α} {results : List β}
    (all : l.mapM f = .ok results) {b : β} (member : b ∈ results) : ∃ a ∈ l, f a = .ok b :=
  exists_of_forall₂ (mapM_eq_ok.1 all).flip member

def failure? : Checked α → Option Failure
  | .ok _ => none
  | .error e => some e

theorem failure?_eq_some {step : Checked α} {e : Failure} :
    step.failure? = some e ↔ step = .error e := by
  cases step <;> simp [failure?]

theorem failure?_eq_none {step : Checked α} : step.failure? = none ↔ ∃ a, step = .ok a := by
  cases step <;> simp [failure?]

theorem failure?_bind {step : Checked α} {next : α → Checked β} {fault : Option Failure}
    (later : ∀ a, (next a).failure? = fault) :
    Checked.failure? (step >>= next) = step.failure?.or fault := by
  cases step with
  | error e => rfl
  | ok a => exact later a

theorem failure?_bind_pure (step : Checked α) (g : α → β) :
    Checked.failure? (step >>= fun a => pure (g a)) = step.failure? := by
  cases step <;> rfl

theorem failure?_mapM (f : α → Checked β) (l : List α) :
    Checked.failure? (l.mapM f) = l.findSome? fun a => (f a).failure? := by
  induction l with
  | nil => rfl
  | cons a rest ih =>
    rw [List.mapM_cons, List.findSome?_cons, ← ih]
    cases f a with
    | error e => rfl
    | ok b => cases rest.mapM f <;> rfl

theorem exists_of_mapM_error {f : α → Checked β} {l : List α} {e : Failure}
    (failed : l.mapM f = .error e) : ∃ a ∈ l, f a = .error e := by
  rw [← failure?_eq_some, failure?_mapM] at failed
  obtain ⟨a, member, first⟩ := List.exists_of_findSome?_eq_some failed
  exact ⟨a, member, failure?_eq_some.1 first⟩

end Checked

end PeriodCompare
