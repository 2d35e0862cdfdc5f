import Mathlib

namespace CountdownOutside
set_option autoImplicit true

section Window

variable {α : Type u} {cells : Nat → α} {n start : Nat} {l : List α}

def around (n i : Nat) : Nat := if i + 1 ≥ n then 0 else i + 1

theorem around_eq (h : i < n) : around n i = (i + 1) % n := by
  rw [around]
  split
  · have hn : i + 1 = n := by omega
    rw [hn, Nat.mod_self]
  · rw [Nat.mod_eq_of_lt (by omega)]

theorem around_lt (h : i < n) : around n i < n := by
  rw [around_eq h]
  exact Nat.mod_lt _ (by omega)

theorem around_add (hn : 0 < n) (k : Nat) : around n ((start + k) % n) = (start + (k + 1)) % n := by
  rw [around_eq (Nat.mod_lt _ hn), Nat.mod_add_mod, Nat.add_assoc]

theorem place_ne (hj : j < n) (hk : k < n) (h : j ≠ k) : (start + j) % n ≠ (start + k) % n := by
  intro he
  have hmod := (Nat.ModEq.add_left_cancel' start he : j ≡ k [MOD n])
  rw [Nat.ModEq, Nat.mod_eq_of_lt hj, Nat.mod_eq_of_lt hk] at hmod
  exact h hmod

/-- The cells of a ring of `n` places from `start` on hold a list. -/
def Window (cells : Nat → α) (n start : Nat) (l : List α) : Prop :=
  ∀ i (h : i < l.length), cells ((start + i) % n) = l[i]

theorem Window.nil : Window cells n start [] := fun _ h => absurd h (Nat.not_lt_zero _)

theorem Window.push (h : Window cells n start l) (hl : l.length < n) (x : α) :
    Window (Function.update cells ((start + l.length) % n) x) n start (l ++ [x]) := by
  intro i hi
  rw [List.length_append, List.length_singleton] at hi
  rcases Nat.lt_or_eq_of_le (Nat.le_of_lt_succ hi) with hlt | rfl
  · rw [Function.update_of_ne (place_ne (by omega) hl (by omega)), h i hlt,
      List.getElem_append_left hlt]
  · rw [Function.update_self, List.getElem_append_right (Nat.le_refl _)]
    simp only [Nat.sub_self, List.getElem_singleton]

theorem Window.head (h : Window cells n start (x :: l)) (hs : start < n) : cells start = x := by
  have h0 := h 0 (Nat.succ_pos _)
  rwa [Nat.add_zero, Nat.mod_eq_of_lt hs] at h0

theorem Window.tail (h : Window cells n start l) (hs : start < n) :
    Window cells n (around n start) l.tail := by
  intro i hi
  rw [List.length_tail] at hi
  rw [List.getElem_tail, ← h (i + 1) (by omega), around_eq hs, Nat.mod_add_mod, Nat.add_right_comm,
    Nat.add_assoc]

theorem length_of_places (hs : start < n) (hl : k < n) :
    (if (start + k) % n ≥ start then (start + k) % n - start
      else n - (start - (start + k) % n)) = k := by
  rcases Nat.lt_or_ge (start + k) n with hlt | hge
  · rw [Nat.mod_eq_of_lt hlt, if_pos (Nat.le_add_right _ _), Nat.add_sub_cancel_left]
  · rw [Nat.mod_eq_sub_mod hge, Nat.mod_eq_of_lt (by omega), if_neg (by omega)]
    omega

theorem place_eq_start_iff (hs : start < n) (hk : k < n) : (start + k) % n = start ↔ k = 0 := by
  constructor
  · intro h
    by_contra hne
    have hplace : (start + k) % n ≠ (start + 0) % n := place_ne hk (Nat.zero_lt_of_lt hs) hne
    rw [Nat.add_zero, Nat.mod_eq_of_lt hs] at hplace
    exact hplace h
  · rintro rfl
    exact Nat.mod_eq_of_lt hs

end Window

section Latest

variable {α : Type u} {n : Nat} {l : List α}

/-- A list of fewer than `n` elements gets another one, in the place of its first if it is full. -/
def pushLast (n : Nat) (l : List α) (x : α) : List α :=
  if l.length + 1 < n then l ++ [x] else l.tail ++ [x]

theorem foldl_pushLast (hn : 1 < n) (h : l.length < n) (xs : List α) :
    xs.foldl (pushLast n) l = (l ++ xs).drop (l.length + xs.length + 1 - n) := by
  induction xs generalizing l with
  | nil =>
    rw [List.foldl_nil, List.append_nil, List.length_nil, Nat.sub_eq_zero_of_le h, List.drop_zero]
  | cons x xs ih =>
    have hsucc (k : Nat) : k + 1 + xs.length + 1 - n = k + (xs.length + 1) + 1 - n := by omega
    rw [List.foldl_cons, pushLast, List.length_cons]
    split
    · rename_i hroom
      rw [ih (by rwa [List.length_append, List.length_singleton]), List.append_assoc,
        List.singleton_append, List.length_append, List.length_singleton, hsucc]
    · rename_i hroom
      have hfull : l.length + 1 = n := Nat.le_antisymm h (Nat.le_of_not_lt hroom)
      cases l with
      | nil => exact absurd hfull (Nat.ne_of_lt hn)
      | cons y l =>
        rw [List.length_cons] at hfull ⊢
        have hdrop : l.length + 1 + (xs.length + 1) + 1 - n = l.length + 1 + xs.length + 1 - n + 1 := by
          omega
        rw [List.tail_cons, ih (by rw [List.length_append, List.length_singleton]; omega),
          List.length_append, List.length_singleton, List.append_assoc, List.singleton_append,
          List.cons_append, hdrop, List.drop_succ_cons]

end Latest

end CountdownOutside
