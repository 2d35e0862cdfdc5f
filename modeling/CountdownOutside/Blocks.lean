import CountdownOutside.Scan

namespace CountdownOutside
set_option autoImplicit true

variable {α : Type u} {β : Type v} {enc : α → List β} {w k j : Nat} {l : List α} {a : α}

theorem length_blocks (h : ∀ a, (enc a).length = w) (l : List α) :
    (l.flatMap enc).length = w * l.length := by
  induction l with
  | nil => rfl
  | cons a l ih =>
    rw [List.flatMap_cons, List.length_append, h, ih, List.length_cons, Nat.mul_succ, Nat.add_comm]

theorem getD_block (h : ∀ a, (enc a).length = w) (ha : l[k]? = some a) (hj : j < w) (d : β) :
    (l.flatMap enc).getD (w * k + j) d = (enc a).getD j d := by
  induction l generalizing k with
  | nil => cases ha
  | cons b l ih =>
    rw [List.flatMap_cons]
    cases k with
    | zero =>
      cases ha
      rw [Nat.mul_zero, Nat.zero_add, List.getD_append _ _ _ _ (by rw [h]; exact hj)]
    | succ k =>
      have hpast : (enc b).length ≤ w * (k + 1) + j := by
        rw [h, Nat.mul_succ]
        omega
      have hoff : w * (k + 1) + j - (enc b).length = w * k + j := by
        rw [h, Nat.mul_succ]
        omega
      rw [List.getD_append_right _ _ _ _ hpast, hoff]
      exact ih ha

/-- A search over the places of a list finds what a search over its elements does. -/
theorem find_place {p : Nat → Bool} {q : α → Bool} (h : ∀ k a, l[k]? = some a → p k = q a) :
    ((List.range l.length).find? p).bind (fun k => l[k]?) = l.find? q := by
  induction l generalizing p with
  | nil => rfl
  | cons a l ih =>
    have h0 := h 0 a rfl
    rw [List.length_cons, List.range_succ_eq_map, List.find?_cons, List.find?_cons, h0]
    cases q a with
    | true => rfl
    | false =>
      rw [List.find?_map]
      have hrest := ih (p := p ∘ Nat.succ) fun k b hb => h (k + 1) b hb
      rw [← hrest]
      cases (List.range l.length).find? (p ∘ Nat.succ) <;> rfl

theorem find_place_none_iff {p : Nat → Bool} {q : α → Bool}
    (h : ∀ k a, l[k]? = some a → p k = q a) :
    (List.range l.length).find? p = none ↔ l.find? q = none := by
  rw [← find_place h]
  constructor
  · intro hn
    rw [hn]
    rfl
  · intro hn
    cases hf : (List.range l.length).find? p with
    | none => rfl
    | some k =>
      have hk := (find_range_some hf).1
      rw [hf, Option.bind_some, List.getElem?_eq_getElem hk] at hn
      cases hn

end CountdownOutside
