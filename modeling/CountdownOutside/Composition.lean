import CountdownOutside.Pixels

namespace CountdownOutside
set_option autoImplicit true

section Strips

def superpose (l l' : List Bool) : List Bool := List.zipWith (· || ·) l l'

theorem superpose_blank_left (l : List Bool) :
    superpose (List.replicate l.length false) l = l := by
  induction l with
  | nil => rfl
  | cons x l ih =>
    rw [List.length_cons, List.replicate_succ]
    exact congrArg (x :: ·) ih

theorem superpose_blank_right (l : List Bool) :
    superpose l (List.replicate l.length false) = l := by
  induction l with
  | nil => rfl
  | cons x l ih =>
    rw [List.length_cons, List.replicate_succ]
    exact congrArg₂ List.cons (Bool.or_false x) ih

theorem superpose_apart (l l' : List Bool) :
    superpose (l ++ List.replicate l'.length false) (List.replicate l.length false ++ l') =
      l ++ l' := by
  rw [superpose, List.zipWith_append (by rw [List.length_replicate])]
  exact congrArg₂ (· ++ ·) (superpose_blank_right l) (superpose_blank_left l')

end Strips

section Columns

def byteColumns (x : UInt8) : List Bool := List.ofFn fun n : Fin 8 => x.toNat.testBit n.val

theorem length_byteColumns (x : UInt8) : (byteColumns x).length = 8 := List.length_ofFn

theorem columns_eq (row : Fin w → UInt8) :
    columns row = (List.ofFn fun j => byteColumns (row j)).flatten := by
  rw [columns, List.ofFn_mul']
  congr 2
  funext j
  rw [byteColumns]
  congr 1
  funext n
  have hbyte : (⟨(8 * j.val + n.val) / 8, by omega⟩ : Fin w) = j := Fin.ext (by dsimp only; omega)
  have hplace : (8 * j.val + n.val) % 8 = n.val := by omega
  simp only [hbyte, hplace]

theorem columns_one (row : Fin 1 → UInt8) : columns row = byteColumns (row 0) := by
  rw [columns_eq, List.ofFn_succ, List.ofFn_zero, List.flatten_cons, List.flatten_nil,
    List.append_nil]

theorem columns_two (row : Fin 2 → UInt8) :
    columns row = byteColumns (row 0) ++ byteColumns (row 1) := by
  rw [columns_eq]
  simp only [List.ofFn_succ, List.ofFn_zero, List.flatten_cons, List.flatten_nil, List.append_nil]
  rfl

theorem columns_four (row : Fin 4 → UInt8) : columns row =
    byteColumns (row 0) ++ byteColumns (row 1) ++ byteColumns (row 2) ++ byteColumns (row 3) := by
  rw [columns_eq]
  simp only [List.ofFn_succ, List.ofFn_zero, List.flatten_cons, List.flatten_nil, List.append_nil,
    List.append_assoc]
  rfl

theorem byteColumns_or (x y : UInt8) :
    byteColumns (x ||| y) = superpose (byteColumns x) (byteColumns y) := by
  simp only [byteColumns, superpose, UInt8.toNat_or, Nat.testBit_or, List.ofFn_eq_map,
    List.zipWith_map, List.zipWith_self]

theorem byteColumns_halves (x : UInt8) :
    byteColumns (x &&& 0x0f) = (byteColumns x).take 4 ++ List.replicate 4 false ∧
      byteColumns ((x &&& 0x0f) <<< 4) = List.replicate 4 false ++ (byteColumns x).take 4 ∧
      byteColumns ((x &&& 0xf0) >>> 4) = (byteColumns x).drop 4 ++ List.replicate 4 false := by
  revert x
  apply forall_byte
  decide +kernel

theorem blank_iff (x : UInt8) :
    (byteColumns x).drop 4 = List.replicate 4 false ↔ x &&& 0xf0 = 0 := by
  revert x
  apply forall_byte
  decide +kernel

/-- The third byte of a row: the low halves of two bytes side by side. -/
def lowLow (x y : UInt8) : UInt8 := (x &&& 0x0f : UInt8) ||| (y &&& 0x0f : UInt8) <<< (4 : UInt8)

/-- The fourth byte of a row: the high half of a byte in front of the low half of another. -/
def highLow (x y : UInt8) : UInt8 :=
  (x &&& 0xf0 : UInt8) >>> (4 : UInt8) ||| (y &&& 0x0f : UInt8) <<< (4 : UInt8)

theorem byteColumns_lowLow (x y : UInt8) :
    byteColumns (lowLow x y) = (byteColumns x).take 4 ++ (byteColumns y).take 4 := by
  rw [lowLow, byteColumns_or, (byteColumns_halves x).1, (byteColumns_halves y).2.1]
  exact superpose_apart ((byteColumns x).take 4) ((byteColumns y).take 4)

theorem byteColumns_highLow (x y : UInt8) :
    byteColumns (highLow x y) = (byteColumns x).drop 4 ++ (byteColumns y).take 4 := by
  rw [highLow, byteColumns_or, (byteColumns_halves x).2.2, (byteColumns_halves y).2.1]
  exact superpose_apart ((byteColumns x).drop 4) ((byteColumns y).take 4)

end Columns

section Word

def word (b0 b1 b2 b3 : UInt8) : UInt32 :=
  b0.toUInt32 <<< 24 ||| b1.toUInt32 <<< 16 ||| b2.toUInt32 <<< 8 ||| b3.toUInt32

theorem byte_placed (x : UInt8) (ha : a < 4) (hs : s < 4) (hn : n < 8) :
    (x.toUInt32 <<< UInt32.ofNat (8 * s)).toNat.testBit (8 * a + n) =
      (decide (a = s) && x.toNat.testBit n) := by
  rw [placed_testBit x (by omega) (by omega)]
  rcases Nat.lt_trichotomy a s with h | rfl | h
  · rw [decide_eq_false (by omega : ¬ 8 * s ≤ 8 * a + n), decide_eq_false (Nat.ne_of_lt h),
      Bool.false_and, Bool.false_and]
  · rw [decide_eq_true (Nat.le_add_right _ n), decide_eq_true rfl, Nat.add_sub_cancel_left]
  · rw [testBit_byte x _ (by omega), decide_eq_false (Nat.ne_of_gt h), Bool.and_false,
      Bool.false_and]

theorem word_testBit (b0 b1 b2 b3 : UInt8) (ha : a < 4) (hn : n < 8) :
    (word b0 b1 b2 b3).toNat.testBit (8 * a + n) =
      ([b3, b2, b1, b0].getD a 0).toNat.testBit n := by
  have h0 := byte_placed b0 ha (by decide : 3 < 4) hn
  have h1 := byte_placed b1 ha (by decide : 2 < 4) hn
  have h2 := byte_placed b2 ha (by decide : 1 < 4) hn
  have h3 := byte_placed b3 ha (by decide : 0 < 4) hn
  have hword : word b0 b1 b2 b3 = b0.toUInt32 <<< UInt32.ofNat (8 * 3) |||
      b1.toUInt32 <<< UInt32.ofNat (8 * 2) ||| b2.toUInt32 <<< UInt32.ofNat (8 * 1) |||
        b3.toUInt32 <<< UInt32.ofNat (8 * 0) := by
    rw [word, show UInt32.ofNat (8 * 0) = 0 from rfl, UInt32.shiftLeft_zero]
    rfl
  rw [hword]
  simp only [UInt32.toNat_or, Nat.testBit_or, h0, h1, h2, h3]
  interval_cases a <;> simp

theorem taken_testBit (data mask k : UInt32) (hk : k.toNat = 8 * a) (ha : a < 4)
    (hmask : ∀ n < 8, mask.toNat.testBit (8 * a + n) = true) (hn : n < 8) :
    ((data &&& mask) >>> k).toUInt8.toNat.testBit n = data.toNat.testBit (8 * a + n) := by
  rw [UInt32.toNat_toUInt8, Nat.testBit_mod_two_pow (j := 8), UInt32.toNat_shiftRight, hk,
    Nat.testBit_shiftRight, Nat.mod_eq_of_lt (by omega), UInt32.toNat_and, Nat.testBit_and,
    hmask n hn, Bool.and_true, decide_eq_true hn, Bool.true_and]

theorem taken_eq (b0 b1 b2 b3 : UInt8) (mask k : UInt32) (hk : k.toNat = 8 * a) (ha : a < 4)
    (hmask : ∀ n < 8, mask.toNat.testBit (8 * a + n) = true) :
    ((word b0 b1 b2 b3 &&& mask) >>> k).toUInt8 = [b3, b2, b1, b0].getD a 0 := by
  apply eq_of_testBit_byte
  intro n hn
  rw [taken_testBit _ mask k hk ha hmask hn, word_testBit b0 b1 b2 b3 ha hn]

end Word

section Glyphs

theorem widen_halves (x : UInt8) :
    ((x &&& 0x0f) <<< 4).toUInt32 = (x &&& 0x0f).toUInt32 <<< 4 ∧
      ((x &&& 0xf0) >>> 4).toUInt32 = (x &&& 0xf0).toUInt32 >>> 4 := by
  revert x
  apply forall_byte
  decide +kernel

theorem threeBitDataDecode_eq (tens units : Glyph 2) (i : Fin 32) :
    threeBitDataDecode tens units i = word (Font.firstOne3bit i 0) (tens i 0)
      (lowLow (tens i 1) (units i 0)) (highLow (units i 0) (units i 1)) := by
  rw [threeBitDataDecode, word, lowLow, highLow, UInt8.toUInt32_or, UInt8.toUInt32_or,
    (widen_halves (units i 0)).1, (widen_halves (units i 0)).2, (widen_halves (units i 1)).1,
    UInt32.or_comm ((units i 1 &&& 0x0f).toUInt32 <<< 4)]

theorem threeBuf_bytes (tens units : Glyph 2) (i : Fin 32) :
    threeBuf tens units i 0 = Font.firstOne3bit i 0 ∧ threeBuf tens units i 1 = tens i 0 ∧
      threeBuf tens units i 2 = lowLow (tens i 1) (units i 0) ∧
      threeBuf tens units i 3 = highLow (units i 0) (units i 1) := by
  simp only [threeBuf, threeBitDataDecode_eq]
  refine ⟨?_, ?_, ?_, ?_⟩
  · rw [← UInt32.and_neg_one (a := word _ _ _ _), taken_eq _ _ _ _ (-1) 24 (a := 3) rfl (by decide)
      (by decide)]
    rfl
  · rw [taken_eq _ _ _ _ 0x00ff0000 16 (a := 2) rfl (by decide) (by decide)]
    rfl
  · rw [taken_eq _ _ _ _ 0x0000ff00 8 (a := 1) rfl (by decide) (by decide)]
    rfl
  · rw [← UInt32.shiftRight_zero (a := word _ _ _ _ &&& 0x000000ff),
      taken_eq _ _ _ _ 0x000000ff 0 (a := 0) rfl (by decide) (by decide)]
    rfl

theorem threeBuf_columns (tens units : Glyph 2) (i : Fin 32) : columns (threeBuf tens units i) =
    columns (Font.firstOne3bit i) ++ (columns (tens i)).take 12 ++ (columns (units i)).take 12 := by
  obtain ⟨h0, h1, h2, h3⟩ := threeBuf_bytes tens units i
  have htake (x y : UInt8) : (byteColumns x ++ byteColumns y).take 12 =
      byteColumns x ++ (byteColumns y).take 4 := by
    rw [List.take_append, length_byteColumns, List.take_of_length_le]
    rw [length_byteColumns]
    decide
  rw [columns_four, h0, h1, h2, h3, byteColumns_lowLow, byteColumns_highLow, columns_one,
    columns_two, columns_two, htake, htake]
  have hsplit (l : List Bool) : (byteColumns (units i 0)).take 4 ++
      ((byteColumns (units i 0)).drop 4 ++ l) = byteColumns (units i 0) ++ l := by
    rw [← List.append_assoc, List.take_append_drop]
  simp only [List.append_assoc, hsplit]

/-- The columns 12 to 15 of a glyph are blank. -/
def Narrow (g : Glyph 2) : Prop := ∀ i, (columns (g i)).drop 12 = List.replicate 4 false

instance (g : Glyph 2) : Decidable (Narrow g) := inferInstanceAs (Decidable (∀ _, _ = _))

theorem narrow_iff : Narrow g ↔ ∀ i, g i 1 &&& 0xf0 = 0 := by
  apply forall_congr'
  intro i
  rw [columns_two, List.drop_append, List.drop_of_length_le, List.nil_append, length_byteColumns,
    blank_iff]
  rw [length_byteColumns]
  decide

theorem Narrow.row_eq (h : Narrow g) (h' : Narrow g')
    (he : (columns (g i)).take 12 = (columns (g' i)).take 12) : g i = g' i := by
  apply columns_injective
  rw [← List.take_append_drop 12 (columns (g i)), ← List.take_append_drop 12 (columns (g' i)), he,
    h i, h' i]

theorem length_take_columns (row : Fin 2 → UInt8) : ((columns row).take 12).length = 12 := by
  rw [List.length_take, columns, List.length_ofFn]
  rfl

theorem Narrow.rows_eq (ht : Narrow tens) (hu : Narrow units) (ht' : Narrow tens')
    (hu' : Narrow units') (h : threeBuf tens units i = threeBuf tens' units' i) :
    tens i = tens' i ∧ units i = units' i := by
  have hcolumns := congrArg columns h
  rw [threeBuf_columns, threeBuf_columns] at hcolumns
  obtain ⟨hleft, hunits⟩ := List.append_inj' hcolumns
    ((length_take_columns _).trans (length_take_columns _).symm)
  obtain ⟨_, htens⟩ := List.append_inj' hleft
    ((length_take_columns _).trans (length_take_columns _).symm)
  exact ⟨ht.row_eq ht' htens, hu.row_eq hu' hunits⟩

theorem narrow_digit (d : UInt8) : Narrow (glyph Font.s d) := by
  have hdigits : ∀ k < 10, ∀ i, Font.s.getD k (rows 2 []) i 1 &&& 0xf0 = 0 := by decide +kernel
  rw [narrow_iff]
  by_cases hd : d.toNat < 10
  · exact hdigits _ hd
  · rw [glyph, List.getD_eq_default _ _ (Nat.le_of_not_lt hd)]
    decide +kernel

/-- A row shows the leading one, twelve columns of the tens and twelve of the units, and it tells
both. -/
theorem three_digits_composed (ht : Narrow tens) (hu : Narrow units) (i : Fin 32) :
    columns (threeBuf tens units i) = columns (Font.firstOne3bit i) ++
      (columns (tens i)).take 12 ++ (columns (units i)).take 12 ∧
    ∀ tens' units', Narrow tens' → Narrow units' →
      threeBuf tens' units' i = threeBuf tens units i → tens' i = tens i ∧ units' i = units i := by
  refine ⟨threeBuf_columns tens units i, ?_⟩
  intro tens' units' ht' hu' h
  exact ht'.rows_eq hu' ht hu h

theorem three_digits_composed_twelve :
    columns (threeBuf Font.one3bit Font.two3bit 5) = columns (Font.firstOne3bit 5) ++
      (columns (Font.one3bit 5)).take 12 ++ (columns (Font.two3bit 5)).take 12 ∧
    threeBuf Font.zero3bit Font.two3bit 5 ≠ threeBuf Font.one3bit Font.two3bit 5 := by
  have hzero : Narrow Font.zero3bit := by decide +kernel
  have hone : Narrow Font.one3bit := by decide +kernel
  have htwo : Narrow Font.two3bit := by decide +kernel
  obtain ⟨hcolumns, htells⟩ := three_digits_composed hone htwo 5
  refine ⟨hcolumns, ?_⟩
  intro h
  exact absurd (congrFun (htells _ _ hzero htwo h).1 0) (by decide)

end Glyphs

section Pictures

/-- The full picture that is clocked out for a picture. -/
def Picture.frame : Picture → Glyph 4
  | .oneBit numGe => glyph Font.q numGe
  | .twoBit numShi numGe => beside (glyph Font.p numGe) (glyph Font.p numShi)
  | .threeBit numShi numGe => threeBuf (glyph Font.s numShi) (glyph Font.s numGe)

theorem banks_eq_frame (picture : Picture) : picture.banks = threeBitDecode picture.frame := by
  cases picture <;> rfl

/-- The glyphs are ones that the fonts have. -/
def Picture.Drawn : Picture → Prop
  | .oneBit numGe => numGe.toNat < 10
  | .twoBit numShi numGe => numShi.toNat < 10 ∧ numGe.toNat < 10
  | .threeBit numShi numGe => numShi.toNat < 10 ∧ numGe.toNat < 10

theorem numberPicture_drawn {v : UInt16} (h0 : v ≠ 0) (h : v ≤ 199) : (numberPicture v).Drawn := by
  rcases numberPicture_digits h0 h with ⟨numShi, numGe, hp, h100, htens, hunits⟩ |
    ⟨numShi, numGe, hp, hlt, htens, hunits⟩ | ⟨numGe, hp, hlt, hunits⟩
  · rw [hp]
    exact ⟨by omega, by omega⟩
  · rw [hp]
    exact ⟨by omega, by omega⟩
  · rw [hp]
    change numGe.toNat < 10
    omega

theorem glyph_inj (h : table.Nodup) (hi : i.toNat < table.length) (hi' : i'.toNat < table.length)
    (he : glyph table i = glyph table i') : i = i' := by
  rw [glyph, glyph, List.getD_eq_getElem _ _ hi, List.getD_eq_getElem _ _ hi'] at he
  exact UInt8.toNat_inj.1 (h.getElem_inj_iff.1 he)

theorem nodup_p : Font.p.Nodup := by decide +kernel

theorem nodup_q : Font.q.Nodup := by decide +kernel

theorem nodup_s : Font.s.Nodup := by decide +kernel

theorem beside_inj (h : beside left right = beside left' right') :
    left = left' ∧ right = right' := by
  have hrow (i : Fin 32) : Fin.append (left i) (right i) = Fin.append (left' i) (right' i) :=
    congrFun h i
  refine ⟨?_, ?_⟩
  · funext i j
    have hj := congrFun (hrow i) (Fin.castAdd 2 j)
    rwa [Fin.append_left, Fin.append_left] at hj
  · funext i j
    have hj := congrFun (hrow i) (Fin.natAdd 2 j)
    rwa [Fin.append_right, Fin.append_right] at hj

def glyphsBy (corner : UInt8) : Nat := if corner = 0 then 1 else if corner = 0x10 then 3 else 2

variable {picture picture' : Picture}

def Picture.glyphs : Picture → Nat
  | .oneBit _ => 1
  | .twoBit _ _ => 2
  | .threeBit _ _ => 3

theorem glyphs_eq (h : picture.Drawn) : picture.glyphs = glyphsBy (picture.frame 2 0) := by
  cases picture with
  | oneBit numGe =>
    have hq : ∀ k < 10, glyphsBy (Font.q.getD k (rows 4 []) 2 0) = 1 := by decide +kernel
    exact (hq _ h).symm
  | twoBit numShi numGe =>
    have hp : ∀ k < 10, glyphsBy (Font.p.getD k (rows 2 []) 2 0) = 2 := by decide +kernel
    exact (hp _ h.2).symm
  | threeBit numShi numGe =>
    rw [Picture.frame, (threeBuf_bytes _ _ 2).1]
    rfl

theorem frame_inj (h : picture.Drawn) (h' : picture'.Drawn)
    (he : picture.frame = picture'.frame) : picture = picture' := by
  have hglyphs : picture.glyphs = picture'.glyphs := by rw [glyphs_eq h, glyphs_eq h', he]
  cases picture with
  | oneBit numGe =>
    cases picture' with
    | oneBit numGe' => rw [glyph_inj nodup_q h h' he]
    | twoBit numShi' numGe' => cases hglyphs
    | threeBit numShi' numGe' => cases hglyphs
  | twoBit numShi numGe =>
    cases picture' with
    | oneBit numGe' => cases hglyphs
    | twoBit numShi' numGe' =>
      obtain ⟨htens, hunits⟩ := beside_inj he
      rw [glyph_inj nodup_p h.1 h'.1 hunits, glyph_inj nodup_p h.2 h'.2 htens]
    | threeBit numShi' numGe' => cases hglyphs
  | threeBit numShi numGe =>
    cases picture' with
    | oneBit numGe' => cases hglyphs
    | twoBit numShi' numGe' => cases hglyphs
    | threeBit numShi' numGe' =>
      have hrows (i : Fin 32) := (narrow_digit numShi).rows_eq (narrow_digit numGe)
        (narrow_digit numShi') (narrow_digit numGe') (congrFun he i)
      rw [glyph_inj nodup_s h.1 h'.1 (funext fun i => (hrows i).1),
        glyph_inj nodup_s h.2 h'.2 (funext fun i => (hrows i).2)]

theorem clockedOut_inj (b : Board) (c : Colour) (h : picture.Drawn) (h' : picture'.Drawn)
    (he : b.clockedOut picture.banks c = b.clockedOut picture'.banks c) : picture = picture' := by
  rw [banks_eq_frame, banks_eq_frame] at he
  exact frame_inj h h' (clockedOut_injective b c he)

theorem clockedOut_number (b : Board) (c : Colour) (hv0 : v ≠ 0) (hv : v ≤ 199) (hw0 : w ≠ 0)
    (hw : w ≤ 199)
    (he : b.clockedOut (numberPicture v).banks c = b.clockedOut (numberPicture w).banks c) :
    v = w := by
  have hp := clockedOut_inj b c (numberPicture_drawn hv0 hv) (numberPicture_drawn hw0 hw) he
  have hreads := numberPicture_reads hv0 hv
  rw [hp, numberPicture_reads hw0 hw, Option.some.injEq] at hreads
  exact UInt16.toNat_inj.1 hreads.symm

theorem clockedOut_ne_h (b : Board) (c : Colour) (hv0 : v ≠ 0) (hv : v ≤ 199) :
    b.clockedOut (numberPicture v).banks c ≠ b.clockedOut Picture.h.banks c := by
  intro he
  have hh : Picture.h.Drawn := Nat.lt_succ_self 9
  have hp := clockedOut_inj b c (numberPicture_drawn hv0 hv) hh he
  have hreads := numberPicture_reads hv0 hv
  rw [hp] at hreads
  cases hreads

end Pictures

end CountdownOutside
