import Mathlib

namespace CountdownOutside
set_option autoImplicit true

variable {α : Type u} {key : α → Nat} {a : α} {l : List α}

def InOrder (key : α → Nat) (l : List α) : Prop := l.Pairwise fun a b => key a ≤ key b

/-- The element comes behind all that do not come later. -/
def enqueue (key : α → Nat) (a : α) (l : List α) : List α :=
  l.orderedInsert (fun a b => key a < key b) a

theorem enqueue_perm (key : α → Nat) (a : α) (l : List α) : (enqueue key a l).Perm (a :: l) :=
  List.perm_orderedInsert _ a l

theorem InOrder.enqueue (h : InOrder key l) (a : α) : InOrder key (enqueue key a l) := by
  induction l with
  | nil => exact List.pairwise_singleton _ a
  | cons b l ih =>
    obtain ⟨hb, hl⟩ := List.pairwise_cons.1 h
    rw [CountdownOutside.enqueue, List.orderedInsert_cons]
    split
    · rename_i hlt
      refine List.pairwise_cons.2 ⟨?_, h⟩
      rintro c hc
      rcases List.mem_cons.1 hc with rfl | hc
      · exact Nat.le_of_lt hlt
      · exact Nat.le_trans (Nat.le_of_lt hlt) (hb c hc)
    · rename_i hlt
      refine List.pairwise_cons.2 ⟨?_, ih hl⟩
      intro c hc
      rcases List.mem_cons.1 ((enqueue_perm key a l).mem_iff.1 hc) with rfl | hc
      · exact Nat.le_of_not_lt hlt
      · exact hb c hc

theorem InOrder.congr {key' : α → Nat} (h : InOrder key l) (hk : ∀ b ∈ l, key' b = key b) :
    InOrder key' l := by
  refine List.Pairwise.imp_of_mem ?_ h
  intro b c hb hc hle
  rw [hk b hb, hk c hc]
  exact hle

theorem filter_enqueue {p : α → Bool} (hp : p a = false) :
    (enqueue key a l).filter p = l.filter p := by
  rw [enqueue, List.orderedInsert_eq_take_drop, List.filter_append, List.filter_cons, hp,
    if_neg Bool.false_ne_true, ← List.filter_append, List.takeWhile_append_dropWhile]

theorem InOrder.filter_eq_nil (h : InOrder key (a :: l)) (ha : n < key a) :
    (a :: l).filter (fun b => key b ≤ n) = [] := by
  rw [List.filter_eq_nil_iff]
  intro b hb
  rw [decide_eq_true_eq, Nat.not_le]
  rcases List.mem_cons.1 hb with rfl | hb
  · exact ha
  · exact Nat.lt_of_lt_of_le ha (List.rel_of_pairwise_cons h hb)

end CountdownOutside
