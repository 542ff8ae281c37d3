/-
Whole numbers as decimal digits. The digits of a number read back as the number
(`digitsValue_toDigits`), and only the digits of zero start with a zero (`head?_toDigits`). Integers
are written as they are shown (`ofList_writeInt`).
-/
import TemplateEngines.Json.Parser
import TemplateEngines.Json.Printer
import Mathlib.Tactic

namespace TemplateEngines

theorem digitsValue_eq (cs : List Char) : digitsValue cs = Nat.ofDigitChars 10 cs 0 := by
  rw [digitsValue, Nat.ofDigitChars_eq_foldl]
  congr
  funext n c
  rw [digitValue, Nat.mul_comm]

theorem digitsValue_toDigits (n : Nat) : digitsValue (Nat.toDigits 10 n) = n := by
  rw [digitsValue_eq, Nat.ofDigitChars_ten_toDigits]

theorem isDigit_of_mem_toDigits {n : Nat} {c : Char} (h : c ∈ Nat.toDigits 10 n) : c.isDigit :=
  Nat.isDigit_of_mem_toDigits (by decide) (by decide) h

/-- No zero stands in front of the digits of a number. -/
theorem head?_toDigits {n : Nat} (hn : n ≠ 0) : (Nat.toDigits 10 n).head? ≠ some '0' := by
  induction n using Nat.strong_induction_on with
  | _ n ih =>
    rw [Nat.toDigits_eq_if (by decide)]
    split
    · rw [List.head?_singleton, ne_eq, Option.some.injEq, Nat.digitChar_eq_zero]
      exact hn
    · rw [List.head?_append_of_ne_nil _ Nat.toDigits_ne_nil]
      exact ih (n / 10) (by omega) (by omega)

theorem takeDigits_append {ds rest : List Char} (hds : ∀ c ∈ ds, c.isDigit)
    (hrest : ∀ c ∈ rest.head?, ¬ c.isDigit) : Number.takeDigits (ds ++ rest) = (ds, rest) := by
  rw [Number.takeDigits, List.span_eq_takeWhile_dropWhile, List.takeWhile_append_of_pos hds,
    List.dropWhile_append_of_pos hds]
  cases rest with
  | nil => simp
  | cons c cs => simp [hrest c rfl]

theorem ofList_writeInt (n : Int) : String.ofList (writeInt n) = toString n := by
  cases n with
  | ofNat k =>
    have hnat : ¬ (Int.ofNat k < 0) := Int.not_lt.2 (Int.natCast_nonneg k)
    rw [writeInt, if_neg hnat]
    exact Nat.repr_eq_ofList_toDigits.symm
  | negSucc k =>
    rw [writeInt, if_pos (Int.negSucc_lt_zero k), String.ofList_cons]
    show "-" ++ String.ofList (Nat.toDigits 10 (k + 1)) = "-" ++ Nat.repr (k + 1)
    rw [Nat.repr_eq_ofList_toDigits]

end TemplateEngines
