import Mathlib

namespace CountdownOutside
set_option autoImplicit true

/-- The elements of a list whose index, counted from `i`, is not skipped. -/
def keep (skip : Nat → Bool) : Nat → List α → List α
  | _, [] => []
  | i, x :: xs => if skip i then keep skip (i + 1) xs else x :: keep skip (i + 1) xs

variable {α : Type u} {l xs ys : List α} {x y d : α}

theorem keep_congr {s t : Nat → Bool} (h : ∀ j, i ≤ j → j < i + l.length → s j = t j) :
    keep s i l = keep t i l := by
  induction l generalizing i with
  | nil => rfl
  | cons x xs ih =>
    have hx := h i (Nat.le_refl i) (by simp only [List.length_cons]; omega)
    have hxs := ih (i := i + 1) (fun j hj hl => h j (by omega)
      (by simp only [List.length_cons]; omega))
    simp only [keep, hx, hxs]

theorem keep_none (h : ∀ j, i ≤ j → j < i + l.length → skip j = false) : keep skip i l = l := by
  induction l generalizing i with
  | nil => rfl
  | cons x xs ih =>
    have hx := h i (Nat.le_refl i) (by simp only [List.length_cons]; omega)
    have hxs := ih (i := i + 1) (fun j hj hl => h j (by omega)
      (by simp only [List.length_cons]; omega))
    simp only [keep, hx, hxs, Bool.false_eq_true, ↓reduceIte]

theorem keep_shift : keep skip (i + 1) l = keep (fun j => skip (j + 1)) i l := by
  induction l generalizing i with
  | nil => rfl
  | cons x xs ih => simp only [keep, ih]

theorem length_keep_le : (keep s i l).length ≤ l.length := by
  induction l generalizing i with
  | nil => exact Nat.le_refl 0
  | cons x xs ih =>
    rw [keep]
    split
    · exact Nat.le_succ_of_le ih
    · exact Nat.succ_le_succ ih

theorem keep_insertIdx (hp : p ≤ l.length) (hs : skip (i + p) = true) :
    keep skip i (l.insertIdx p x) =
      keep (fun j => skip (if j < i + p then j else j + 1)) i l := by
  induction l generalizing i p with
  | nil =>
    obtain rfl : p = 0 := Nat.le_zero.1 hp
    rw [Nat.add_zero] at hs
    simp only [List.insertIdx_zero, keep, hs, ↓reduceIte]
  | cons a l ih =>
    cases p with
    | zero =>
      rw [List.insertIdx_zero, keep, if_pos (by simpa only [Nat.add_zero] using hs), keep_shift]
      apply keep_congr
      intro j hj hl
      rw [if_neg (by omega)]
    | succ p =>
      have hrec := ih (i := i + 1) (p := p) (Nat.le_of_succ_le_succ hp)
        (by rwa [Nat.add_assoc, Nat.add_comm 1 p])
      have he : i + 1 + p = i + (p + 1) := by omega
      rw [List.insertIdx_succ_cons, keep, hrec, he]
      simp only [keep, if_pos (show i < i + (p + 1) by omega)]

def shifted (p q : Nat) : Nat := if p < q then p else p + 1

theorem shifted_ne (p q : Nat) : shifted p q ≠ q := by
  rw [shifted]
  split <;> omega

theorem keep_insertIdx_insertIdx (hp : p ≤ l.length) (hq : q ≤ l.length + 1) :
    keep (fun j => decide (j = i + shifted p q ∨ j = i + q)) i
      ((l.insertIdx p x).insertIdx q y) = l := by
  rw [keep_insertIdx (by rwa [List.length_insertIdx_of_le_length hp])
    (decide_eq_true (.inr rfl)), keep_insertIdx hp, keep_none]
  · intro j hj hl
    rw [decide_eq_false_iff_not, shifted]
    split_ifs <;> omega
  · rw [decide_eq_true_eq, shifted]
    split_ifs <;> omega

theorem getD_insertIdx_insertIdx (hp : p ≤ l.length) :
    ((l.insertIdx p x).insertIdx q y).getD (shifted p q) d = x := by
  have hself : (l.insertIdx p x)[p]? = some x := by
    rw [List.getElem?_insertIdx_self, if_pos hp]
  rw [List.getD_eq_getElem?_getD, shifted]
  split
  · rename_i hlt
    rw [List.getElem?_insertIdx_of_lt hlt, hself]
    rfl
  · rename_i hlt
    rw [List.getElem?_insertIdx_of_gt (by omega), Nat.add_sub_cancel, hself]
    rfl

theorem getD_insertIdx_self (hq : q ≤ l.length) : (l.insertIdx q y).getD q d = y := by
  rw [List.getD_eq_getElem?_getD, List.getElem?_insertIdx_self, if_pos hq]
  rfl

end CountdownOutside
