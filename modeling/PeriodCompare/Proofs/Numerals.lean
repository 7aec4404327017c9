import Mathlib
import PeriodCompare.Numeric.Decimal

set_option autoImplicit false

namespace PeriodCompare.Numeric

theorem toList_toString (n : Nat) : (toString n).toList = Nat.toDigits 10 n :=
  Nat.toList_repr

theorem isDigit_of_mem_toDigits {n : Nat} {c : Char} (member : c ∈ Nat.toDigits 10 n) :
    c.isDigit :=
  Nat.isDigit_of_mem_toDigits (by decide) (by decide) member

theorem ne_of_isDigit {c d : Char} (digit : c.isDigit) (other : d.isDigit = false) : c ≠ d :=
  ne_of_apply_ne Char.isDigit (by simp [digit, other])

theorem toNat_of_isDigit {c : Char} (digit : c.isDigit) : 0x30 ≤ c.toNat ∧ c.toNat ≤ 0x39 := by
  simp only [Char.isDigit, Bool.and_eq_true, decide_eq_true_eq] at digit
  exact digit

theorem digitValue?_of_isDigit {c : Char} (digit : c.isDigit) :
    digitValue? 10 c = some (c.toNat - '0'.toNat) := by
  have within : '0' ≤ c ∧ c ≤ '9' := toNat_of_isDigit digit
  have high := (toNat_of_isDigit digit).2
  have small : c.toNat - '0'.toNat < 10 := by
    simp
    omega
  rw [digitValue?, if_pos within]
  exact if_pos (decide_eq_true small)

theorem isDigit_ten {c : Char} (digit : c.isDigit) : isDigit 10 c := by
  simp only [isDigit, digitValue?_of_isDigit digit, Option.isSome_some]

theorem digitsFrom_of_isDigit {cs : List Char} (digits : ∀ c ∈ cs, c.isDigit) (acc : Nat) :
    digitsFrom 10 acc cs = some (Nat.ofDigitChars 10 cs acc) := by
  induction cs generalizing acc with
  | nil => rfl
  | cons c rest ih =>
    have first := digitValue?_of_isDigit (digits c List.mem_cons_self)
    have later := ih fun c member => digits c (List.mem_cons_of_mem _ member)
    simp only [digitsFrom, first, Option.bind_eq_bind, Option.bind_some, later,
      Nat.ofDigitChars_cons, Nat.mul_comm]

theorem digits?_toDigits (n : Nat) : digits? 10 (Nat.toDigits 10 n) = some n := by
  have digits := digitsFrom_of_isDigit (fun c => isDigit_of_mem_toDigits (n := n)) 0
  rw [digits?, if_neg (by simp), digits, Nat.ofDigitChars_ten_toDigits]

theorem eq_nil_of_toDigits_eq_zero_cons {n : Nat} {more : List Char}
    (zero : Nat.toDigits 10 n = '0' :: more) : more = [] := by
  have digit : ∀ m < 10, some (Nat.digitChar m) = some '0' → m = 0 := by decide
  have leading (m : Nat) (start : (Nat.toDigits 10 m).head? = some '0') : m = 0 := by
    induction m using Nat.strong_induction_on with
    | _ m ih =>
      by_cases single : m < 10
      · rw [Nat.toDigits_of_lt_base single] at start
        exact digit m single start
      · have split := Nat.toDigits_of_base_le (b := 10) (by decide) (Nat.le_of_not_lt single)
        rw [split, List.head?_append_of_ne_nil _ Nat.toDigits_ne_nil] at start
        have := ih (m / 10) (by omega) start
        omega
  obtain rfl := leading n (by simp [zero])
  rw [Nat.toDigits_zero] at zero
  exact (List.cons.inj zero).2.symm

end PeriodCompare.Numeric
