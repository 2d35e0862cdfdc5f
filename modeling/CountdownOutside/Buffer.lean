import Mathlib

namespace CountdownOutside
set_option autoImplicit true

/-- What a C function can do that its source gives no meaning to. -/
inductive Fault
  | outOfBounds
  | diverges
  deriving DecidableEq, Repr

@[simp] theorem ok_bind (a : α) (f : α → Except ε β) : (.ok a >>= f) = f a := rfl

@[simp] theorem error_bind (e : ε) (f : α → Except ε β) : (.error e >>= f) = .error e := rfl

@[simp] theorem pure_eq_ok (a : α) : (pure a : Except ε α) = .ok a := rfl

theorem bind_eq_ok {x : Except ε α} {f : α → Except ε β} (h : (x >>= f) = .ok b) :
    ∃ a, x = .ok a ∧ f a = .ok b := by
  cases x with
  | error e => cases h
  | ok a => exact ⟨a, rfl, h⟩

structure Buffer (n : Nat) where
  bytes : List UInt8
  size : bytes.length = n
  deriving DecidableEq, Repr

namespace Buffer

def zero (n : Nat) : Buffer n := ⟨List.replicate n 0, List.length_replicate⟩

/-- The byte at an index, `0` beyond the end. -/
def get (b : Buffer n) (i : Nat) : UInt8 := b.bytes.getD i 0

/-- `b[i]`, where the index is a C `int` and may be negative. -/
def read (b : Buffer n) (i : Int) : Except Fault UInt8 :=
  if 0 ≤ i ∧ i < n then .ok (b.get i.toNat) else .error .outOfBounds

def write (b : Buffer n) (i : Nat) (x : UInt8) : Except Fault (Buffer n) :=
  if i < n then .ok ⟨b.bytes.set i x, by rw [List.length_set, b.size]⟩
  else .error .outOfBounds

/-- `b[i] = x` where the element behind the array is padding: a store there changes nothing. -/
def put (b : Buffer n) (i : Nat) (x : UInt8) : Buffer n :=
  ⟨b.bytes.set i x, by rw [List.length_set, b.size]⟩

/-- `memcpy(dst, &src[off], len)`. -/
def copy (dst : Buffer n) (src : Buffer m) (off len : Nat) : Except Fault (Buffer n) :=
  if h : off + len ≤ m ∧ len ≤ n then
    .ok ⟨(src.bytes.drop off).take len ++ dst.bytes.drop len, by
      have hs := src.size
      have hd := dst.size
      simp only [List.length_append, List.length_take, List.length_drop]
      omega⟩
  else .error .outOfBounds

def fill (dst : Buffer n) (x : UInt8) (len : Nat) : Except Fault (Buffer n) :=
  if h : len ≤ n then
    .ok ⟨List.replicate len x ++ dst.bytes.drop len, by
      have hd := dst.size
      simp only [List.length_append, List.length_replicate, List.length_drop]
      omega⟩
  else .error .outOfBounds

def ofList (n : Nat) (l : List UInt8) : Buffer n :=
  ⟨(l ++ List.replicate n 0).take n, by
    simp only [List.length_take, List.length_append, List.length_replicate]
    omega⟩

@[simp] theorem get_zero (n i : Nat) : (zero n).get i = 0 := by
  simp only [get, zero, List.getD_eq_getElem?_getD, List.getElem?_replicate]
  split <;> rfl

theorem take_eq (b : Buffer n) (hl : l.length ≤ n)
    (h : ∀ i < l.length, b.get i = l.getD i 0) : b.bytes.take l.length = l := by
  apply List.ext_getElem
  · rw [List.length_take, b.size, Nat.min_eq_left hl]
  · intro i hi hi'
    have hg := h i hi'
    rw [List.getD_eq_getElem _ _ hi', get, List.getD_eq_getElem _ _ (by rw [b.size]; omega)] at hg
    rw [List.getElem_take, hg]

theorem read_of_lt (b : Buffer n) (h : i < n) : b.read (i : Int) = .ok (b.get i) := by
  rw [read, if_pos (by omega), Int.toNat_natCast]

theorem read_of_le (b : Buffer n) (h : n ≤ i) : b.read (i : Int) = .error .outOfBounds := by
  rw [read, if_neg (by omega)]

theorem read_of_neg (b : Buffer n) (h : i < 0) : b.read i = .error .outOfBounds := by
  rw [read, if_neg (by omega)]

theorem get_of_begins (b : Buffer n) (h : l <+: b.bytes) (hi : i < l.length) :
    b.get i = l.getD i 0 := by
  obtain ⟨t, ht⟩ := h
  rw [get, ← ht, List.getD_append _ _ _ _ hi]

theorem ofList_begins (h : l.length ≤ n) : l <+: (ofList n l).bytes := by
  refine ⟨(List.replicate n 0).take (n - l.length), ?_⟩
  change _ = List.take n (l ++ List.replicate n 0)
  rw [List.take_append, List.take_of_length_le h]

theorem ofList_get (h : l.length ≤ n) : (ofList n l).get i = l.getD i 0 := by
  by_cases hi : i < l.length
  · exact (ofList n l).get_of_begins (ofList_begins h) hi
  · rw [List.getD_eq_default _ _ (by omega), get, ofList, List.getD_eq_getElem?_getD,
      List.getElem?_take, List.getElem?_append_right (by omega), List.getElem?_replicate]
    split
    · split <;> rfl
    · rfl

theorem ext_get {a b : Buffer n} (h : ∀ i, a.get i = b.get i) : a = b := by
  obtain ⟨a, ha⟩ := a
  obtain ⟨b, hb⟩ := b
  congr 1
  apply List.ext_getElem
  · rw [ha, hb]
  · intro i hi hi'
    have hg := h i
    simpa only [get, List.getD_eq_getElem _ _ hi, List.getD_eq_getElem _ _ hi'] using hg

theorem write_ok (b : Buffer n) (h : i < n) (x : UInt8) :
    ∃ c, b.write i x = .ok c ∧ ∀ j, c.get j = if j = i then x else b.get j := by
  refine ⟨_, if_pos h, ?_⟩
  intro j
  simp only [get, List.getD_eq_getElem?_getD, List.getElem?_set, b.size, h, ↓reduceIte]
  by_cases hj : j = i
  · simp only [hj, ↓reduceIte, Option.getD_some]
  · rw [if_neg (Ne.symm hj), if_neg hj]

theorem copy_ok (dst : Buffer n) (src : Buffer m) (h : off + len ≤ m) (hn : len ≤ n) :
    ∃ c, dst.copy src off len = .ok c ∧
      ∀ i, c.get i = if i < len then src.get (off + i) else dst.get i := by
  refine ⟨_, dif_pos ⟨h, hn⟩, ?_⟩
  intro i
  have hs := src.size
  simp only [get, List.getD_eq_getElem?_getD]
  split
  · rename_i hi
    rw [List.getElem?_append_left (by simp only [List.length_take, List.length_drop]; omega),
      List.getElem?_take_of_lt hi, List.getElem?_drop]
  · rename_i hi
    have hl : ((src.bytes.drop off).take len).length = len := by
      simp only [List.length_take, List.length_drop]
      omega
    rw [List.getElem?_append_right (by omega), hl, List.getElem?_drop]
    congr 2
    omega

theorem copy_zero (src : Buffer m) (h : off + len ≤ m) (hn : len ≤ n) :
    ∃ c, (zero n).copy src off len = .ok c ∧
      ∀ i, c.get i = if i < len then src.get (off + i) else 0 := by
  obtain ⟨c, hc, hg⟩ := (zero n).copy_ok src h hn
  refine ⟨c, hc, ?_⟩
  intro i
  rw [hg, get_zero]

theorem copy_fault (dst : Buffer n) (src : Buffer m) (h : ¬ (off + len ≤ m ∧ len ≤ n)) :
    dst.copy src off len = .error .outOfBounds :=
  dif_neg h

theorem fill_ok (dst : Buffer n) (x : UInt8) (h : len ≤ n) :
    ∃ c, dst.fill x len = .ok c ∧ ∀ i, c.get i = if i < len then x else dst.get i := by
  refine ⟨_, dif_pos h, ?_⟩
  intro i
  simp only [get, List.getD_eq_getElem?_getD]
  split
  · rename_i hi
    rw [List.getElem?_append_left (by simpa only [List.length_replicate] using hi),
      List.getElem?_replicate, if_pos hi]
    rfl
  · rename_i hi
    rw [List.getElem?_append_right (by rw [List.length_replicate]; omega),
      List.length_replicate, List.getElem?_drop]
    congr 2
    omega

end Buffer

end CountdownOutside
