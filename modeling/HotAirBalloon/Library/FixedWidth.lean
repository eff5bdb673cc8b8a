import Mathlib.Tactic
import Mathlib.Data.String.Basic

/-!
# Texts of fixed-width fields

Texts that are built from fields of fixed width are ordered as their fields are, the first field
that differs deciding. A number written with a fixed count of decimal digits is such a field.
-/

namespace HotAirBalloon.Library

section

variable {α : Type} [LinearOrder α]

theorem append_lt_append {a b : List α} (hlength : a.length = b.length) (h : a < b)
    (u v : List α) : a ++ u < b ++ v := by
  induction a generalizing b with
  | nil =>
    rw [List.length_nil, eq_comm, List.length_eq_zero_iff] at hlength
    rw [hlength] at h
    exact absurd h (lt_irrefl _)
  | cons x xs ih =>
    cases b with
    | nil => cases hlength
    | cons y ys =>
      rw [List.cons_append, List.cons_append, List.cons_lt_cons_iff]
      rcases List.cons_lt_cons_iff.mp h with hlt | ⟨rfl, hlt⟩
      · exact Or.inl hlt
      · exact Or.inr ⟨rfl, ih (Nat.succ.inj hlength) hlt⟩

theorem append_lt_append_left {u v : List α} (h : u < v) (a : List α) : a ++ u < a ++ v := by
  induction a with
  | nil => exact h
  | cons x xs ih => exact List.cons_lt_cons_iff.mpr (Or.inr ⟨rfl, ih⟩)

end

/-! ## Texts -/

theorem text_append_lt {a b : String} (hlength : a.length = b.length) (h : a < b) (u v : String) :
    a ++ u < b ++ v := by
  rw [String.lt_iff_toList_lt] at h ⊢
  rw [String.toList_append, String.toList_append]
  exact append_lt_append (by rwa [String.length_toList, String.length_toList]) h _ _

theorem text_append_le (a : String) {u v : String} (h : u ≤ v) : a ++ u ≤ a ++ v := by
  rcases h.lt_or_eq with h | rfl
  · apply le_of_lt
    rw [String.lt_iff_toList_lt] at h ⊢
    rw [String.toList_append, String.toList_append]
    exact append_lt_append_left h _
  · exact le_rfl

/-! ## Decimal fields -/

/-- The last `width` decimal digits of a number. -/
def decimalField : Nat → Nat → List Char
  | 0, _ => []
  | width + 1, n => decimalField width (n / 10) ++ [Nat.digitChar (n % 10)]

@[simp] theorem length_decimalField (width n : Nat) : (decimalField width n).length = width := by
  induction width generalizing n with
  | zero => rfl
  | succ width ih => simp [decimalField, ih]

theorem digitChar_lt {m n : Nat} (h : m < n) (hn : n < 10) : Nat.digitChar m < Nat.digitChar n := by
  rw [Char.lt_def, UInt32.lt_iff_toNat_lt]
  have hm := Nat.toNat_digitChar_of_lt_ten (n := m) (by omega)
  have hn := Nat.toNat_digitChar_of_lt_ten hn
  simp only [Char.toNat] at hm hn
  omega

theorem decimalField_lt {width m n : Nat} (h : m < n) (hn : n < 10 ^ width) :
    decimalField width m < decimalField width n := by
  induction width generalizing m n with
  | zero => omega
  | succ width ih =>
    unfold decimalField
    have hpow : n / 10 < 10 ^ width := by
      rw [Nat.pow_succ] at hn
      omega
    by_cases heq : m / 10 = n / 10
    · have hdigit : m % 10 < n % 10 := by omega
      rw [heq]
      apply append_lt_append_left
      exact List.cons_lt_cons_iff.mpr (Or.inl (digitChar_lt hdigit (by omega)))
    · exact append_lt_append (by simp) (ih (by omega) hpow) _ _

theorem decimalField_zero (width : Nat) : decimalField width 0 = List.replicate width '0' := by
  induction width with
  | zero => rfl
  | succ width ih =>
    rw [List.replicate_succ', ← ih]
    rfl

/-- The shortest decimal form, padded with zeros, is a field. -/
theorem padded_toDigits {width n : Nat} (hwidth : 0 < width) (hn : n < 10 ^ width) :
    List.replicate (width - (Nat.toDigits 10 n).length) '0' ++ Nat.toDigits 10 n =
      decimalField width n := by
  induction width generalizing n with
  | zero => omega
  | succ width ih =>
    unfold decimalField
    by_cases hsmall : n < 10
    · rw [Nat.toDigits_of_lt_base hsmall, Nat.div_eq_of_lt hsmall, Nat.mod_eq_of_lt hsmall,
        decimalField_zero, List.length_singleton, Nat.add_sub_cancel]
    · have hpos : 0 < width := by
        rcases Nat.eq_zero_or_pos width with rfl | hpos
        · omega
        · exact hpos
      have hpow : n / 10 < 10 ^ width := by
        rw [Nat.pow_succ] at hn
        omega
      rw [Nat.toDigits_of_base_le (by decide) (by omega), ← ih hpos hpow, List.length_append,
        List.length_singleton, Nat.add_sub_add_right, List.append_assoc]

/-- The first field that differs decides. -/
theorem decimalField_append_le {width m n : Nat} (hn : n < 10 ^ width) {u v : String}
    (h : m < n ∨ m = n ∧ u ≤ v) :
    String.ofList (decimalField width m) ++ u ≤ String.ofList (decimalField width n) ++ v := by
  rcases h with hlt | ⟨rfl, hle⟩
  · apply le_of_lt
    apply text_append_lt
    · simp
    · rw [String.lt_iff_toList_lt, String.toList_ofList, String.toList_ofList]
      exact decimalField_lt hlt hn
  · exact text_append_le _ hle

end HotAirBalloon.Library
