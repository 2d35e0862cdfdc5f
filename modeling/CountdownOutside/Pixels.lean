import CountdownOutside.ScanOut

namespace CountdownOutside
set_option autoImplicit true

section Lists

def everyOther : List α → List α
  | [] => []
  | [x] => [x]
  | x :: _ :: l => x :: everyOther l

theorem everyOther_cons (x : α) (l : List α) :
    everyOther (x :: l) = x :: everyOther l.tail := by
  cases l <;> rfl

/-- Two nested loops as one over both counters. -/
theorem flatMap_range (f : Nat → Nat → α) (m : Nat) (hk : 0 < k) :
    ((List.range m).flatMap fun i => (List.range k).map (f i)) =
      (List.range (m * k)).map fun t => f (t / k) (t % k) := by
  induction m with
  | zero => rw [Nat.zero_mul, List.range_zero, List.flatMap_nil, List.map_nil]
  | succ m ih =>
    have hlast : (List.range k).map (f m) =
        (List.range k).map ((fun t => f (t / k) (t % k)) ∘ (m * k + ·)) := by
      apply List.map_congr_left
      intro j hj
      have hlt := List.mem_range.1 hj
      rw [Function.comp_apply, Nat.mul_comm m k, Nat.mul_add_div hk, Nat.mul_add_mod,
        Nat.div_eq_of_lt hlt, Nat.mod_eq_of_lt hlt, Nat.add_zero]
    rw [List.range_succ, List.flatMap_append, ih, List.flatMap_singleton, Nat.succ_mul,
      List.range_add, List.map_append, List.map_map, hlast]

end Lists

namespace Board

/-- The levels at the rising edges of `CLK_PIN`, the latest first: the edges alternate, and the
latest one has left the pin as it is. -/
def rises (b : Board) : List Levels := everyOther (if b.clk then b.edges else b.edges.tail)

def pairs (b : Board) (c : Colour) : List (Bool × Bool) := (b.rises.map fun l => l.of c).reverse

/-- The levels are taken over when `CLK_PIN` goes high, and only then. -/
theorem rises_clk (b : Board) (level : Bool) : (b.rtPinWrite .clk level).rises =
    if level = true ∧ b.clk = false then b.data :: b.rises else b.rises := by
  obtain ⟨data, clk, lat, oe, edges⟩ := b
  cases level <;> cases clk <;> first | rfl | exact everyOther_cons data edges

theorem pairs_fall (b : Board) (c : Colour) : (b.rtPinWrite .clk false).pairs c = b.pairs c := by
  rw [pairs, rises_clk, if_neg (fun h => Bool.false_ne_true h.1), pairs]

theorem pairs_rise {b : Board} (h : b.clk = false) (c : Colour) :
    (b.rtPinWrite .clk true).pairs c = b.pairs c ++ [b.data.of c] := by
  rw [pairs, rises_clk, if_pos ⟨rfl, h⟩, List.map_cons, List.reverse_cons, pairs]

/-- A round of `bank32` hands over the lowest bits of the two words. -/
theorem pairs_round (c : Colour) (b : Board) (up down : Bool) :
    ((((b.rtPinWrite .clk false).rtPinWrite c.pins.1 up).rtPinWrite c.pins.2 down).rtPinWrite
      .clk true).pairs c = b.pairs c ++ [(up, down)] := by
  have hlow : (((b.rtPinWrite .clk false).rtPinWrite c.pins.1 up).rtPinWrite c.pins.2 down).clk =
      false := by
    cases c <;> rfl
  have hdata : (((b.rtPinWrite .clk false).rtPinWrite c.pins.1 up).rtPinWrite
      c.pins.2 down).data.of c = (up, down) := by
    cases c <;> rfl
  have hpairs : (((b.rtPinWrite .clk false).rtPinWrite c.pins.1 up).rtPinWrite
      c.pins.2 down).pairs c = b.pairs c := by
    rw [← pairs_fall b c]
    cases c <;> rfl
  rw [pairs_rise hlow, hdata, hpairs]

theorem pairs_rounds (c : Colour) (n : Nat) (up down : UInt32) (b : Board) :
    (bank32Rounds c.pins.1 c.pins.2 n up down b).pairs c = b.pairs c ++
      (List.range n).map fun i => (up.toNat.testBit i, down.toNat.testBit i) := by
  induction n generalizing up down b with
  | zero => rw [bank32Rounds, List.range_zero, List.map_nil, List.append_nil]
  | succ n ih =>
    rw [bank32Rounds, ih, pairs_round, testBit_low, testBit_low, List.append_assoc,
      List.range_succ_eq_map, List.map_cons, List.map_map, List.singleton_append]
    simp only [testBit_shifted, Function.comp_def]

theorem pairs_banks (c : Colour) (banks : Banks) (m : Nat) (b : Board) :
    ((List.range m).foldl
      (fun b i => b.bank32 (banks.up.getD i 0) (banks.down.getD i 0) c.code) b).pairs c =
    b.pairs c ++ (List.range m).flatMap fun i => (List.range 32).map fun n =>
      ((banks.up.getD i 0).toNat.testBit n, (banks.down.getD i 0).toNat.testBit n) := by
  induction m with
  | zero => rw [List.range_zero, List.foldl_nil, List.flatMap_nil, List.append_nil]
  | succ m ih =>
    rw [foldl_range_succ, bank32_eq, pairs_rounds, ih, List.range_succ (n := m),
      List.flatMap_append, List.flatMap_singleton, List.append_assoc]

def clockedOut (b : Board) (banks : Banks) (c : Colour) : List (Bool × Bool) :=
  ({ b with edges := [] }.dispaly banks c.code).pairs c

theorem clockedOut_eq (b : Board) (banks : Banks) (c : Colour) : b.clockedOut banks c =
    (List.range 512).map fun t => ((banks.up.getD (t / 32) 0).toNat.testBit (t % 32),
      (banks.down.getD (t / 32) 0).toNat.testBit (t % 32)) := by
  have hbanks := pairs_banks c banks 16 ({ b with edges := [] }.rtPinWrite .lat false)
  have hnone : ({ b with edges := [] }.rtPinWrite .lat false).pairs c = [] := by
    obtain ⟨data, clk, lat, oe, edges⟩ := b
    cases clk <;> rfl
  rw [hnone, List.nil_append, flatMap_range (fun i n => ((banks.up.getD i 0).toNat.testBit n,
    (banks.down.getD i 0).toNat.testBit n)) 16 (by decide)] at hbanks
  exact hbanks

end Board

section Decode

/-- The halves of a byte as `decode` places them: the low halves of the four bytes make the low half
of the word, and the high halves its high half. -/
def spread (x : UInt8) (j : Nat) : UInt32 :=
  ((x &&& 0xf0).toUInt32 <<< UInt32.ofNat (4 * (3 + j))) |||
    ((x &&& 0x0f).toUInt32 <<< UInt32.ofNat (4 * j))

theorem half_placed (x mask : UInt8) (hmask : ∀ m < 8, mask.toNat.testBit m = decide (m / 4 = a))
    (ha : a < 2) (hs : s < 8) (hn : n < 32) :
    ((x &&& mask).toUInt32 <<< UInt32.ofNat (4 * s)).toNat.testBit n =
      (decide (n / 4 = s + a) && x.toNat.testBit (4 * a + n % 4)) := by
  rw [placed_testBit _ (by omega) hn, UInt8.toNat_and, Nat.testBit_and]
  by_cases hp : n / 4 = s + a
  · have hbit : n - 4 * s = 4 * a + n % 4 := by omega
    rw [hbit, hmask _ (by omega), decide_eq_true hp, decide_eq_true (by omega : 4 * s ≤ n),
      decide_eq_true (by omega), Bool.and_true]
  · rw [decide_eq_false hp, Bool.false_and]
    by_cases hle : 4 * s ≤ n
    · by_cases hm : n - 4 * s < 8
      · rw [hmask _ hm, decide_eq_false (by omega : ¬ (n - 4 * s) / 4 = a), Bool.and_false,
          Bool.and_false]
      · rw [testBit_byte x _ (by omega), Bool.false_and, Bool.and_false]
    · rw [decide_eq_false hle, Bool.false_and]

theorem spread_testBit (x : UInt8) (hj : j < 4) (hn : n < 32) : (spread x j).toNat.testBit n =
    (decide (n % 16 / 4 = j) && x.toNat.testBit (4 * (n / 16) + n % 4)) := by
  have hhigh := half_placed x 0xf0 (a := 1) (by decide) (by decide) (by omega : 3 + j < 8) hn
  have hlow := half_placed x 0x0f (a := 0) (by decide) (by decide) (by omega : j < 8) hn
  rw [spread, UInt32.toNat_or, Nat.testBit_or, hhigh, hlow]
  rcases Nat.lt_or_ge n 16 with hlt | hge
  · have hhalf : n / 16 = 0 := by omega
    rw [decide_eq_false (by omega : ¬ n / 4 = 3 + j + 1), Bool.false_and, Bool.false_or, hhalf,
      Nat.mod_eq_of_lt hlt, Nat.add_zero]
  · have hhalf : n / 16 = 1 := by omega
    have hplace : n % 16 / 4 = j ↔ n / 4 = 3 + j + 1 := by omega
    rw [decide_eq_false (by omega : ¬ n / 4 = j + 0), Bool.false_and, Bool.or_false, hhalf,
      decide_eq_decide.2 hplace]

theorem low_shifted_twice (x : UInt8) :
    ((x &&& 0x0f).toUInt32 <<< 4) <<< 8 = (x &&& 0x0f).toUInt32 <<< 12 ∧
      ((x &&& 0x0f).toUInt32 <<< 4) <<< 4 = (x &&& 0x0f).toUInt32 <<< 8 ∧
      (x &&& 0x0f).toUInt32 = (x &&& 0x0f).toUInt32 <<< 0 := by
  revert x
  apply forall_byte
  decide +kernel

theorem or_pairs (a1 a2 a3 a4 b1 b2 b3 b4 : UInt32) :
    a4 ||| a3 ||| a2 ||| a1 ||| b4 ||| b3 ||| b2 ||| b1 =
      (a1 ||| b1) ||| (a2 ||| b2) ||| (a3 ||| b3) ||| (a4 ||| b4) := by
  ac_rfl

theorem decode_eq (data1 data2 data3 data4 : UInt8) : decode data1 data2 data3 data4 =
    spread data1 0 ||| spread data2 1 ||| spread data3 2 ||| spread data4 3 := by
  rw [decode, (low_shifted_twice data4).1, (low_shifted_twice data3).2.1,
    (low_shifted_twice data1).2.2]
  exact or_pairs _ _ _ _ _ _ _ _

theorem decode_testBit (data : Nat → UInt8) (hn : n < 32) :
    (decode (data 0) (data 1) (data 2) (data 3)).toNat.testBit n =
      (data (n % 16 / 4)).toNat.testBit (4 * (n / 16) + n % 4) := by
  have hq : n % 16 / 4 = 0 ∨ n % 16 / 4 = 1 ∨ n % 16 / 4 = 2 ∨ n % 16 / 4 = 3 := by omega
  simp (disch := omega) only [decode_eq, UInt32.toNat_or, Nat.testBit_or, spread_testBit]
  rcases hq with h | h | h | h <;> simp [h]

end Decode

section Columns

def columns (row : Fin w → UInt8) : List Bool :=
  List.ofFn fun n : Fin (8 * w) => (row ⟨n.val / 8, by omega⟩).toNat.testBit (n.val % 8)

theorem columns_injective : Function.Injective (columns : (Fin w → UInt8) → List Bool) := by
  intro row row' h
  have hbits := List.ofFn_injective h
  funext j
  apply eq_of_testBit_byte
  intro n hn
  have hbit := congrFun hbits ⟨8 * j.val + n, by omega⟩
  have hbyte : (⟨(8 * j.val + n) / 8, by omega⟩ : Fin w) = j := Fin.ext (by dsimp only; omega)
  have hplace : (8 * j.val + n) % 8 = n := by omega
  simp only [hbyte, hplace] at hbit
  exact hbit

/-- A pixel of a picture; the columns are counted from the lowest bit of the first byte. -/
def Glyph.pixel (frame : Glyph 4) (p : Fin 32 × Fin 32) : Bool :=
  (frame p.1 ⟨p.2.val / 8, by omega⟩).toNat.testBit (p.2.val % 8)

theorem columns_pixel (frame : Glyph 4) (i : Fin 32) :
    columns (frame i) = List.ofFn fun col => frame.pixel (i, col) := rfl

/-- The pixels tell the picture. -/
theorem pixel_injective : Function.Injective Glyph.pixel := by
  intro frame frame' h
  funext i
  apply columns_injective
  rw [columns_pixel, columns_pixel, h]

end Columns

def scanRow (t : Nat) (down : Bool) : Nat :=
  16 * (t / 128 % 2) + 4 * (1 - t / 64 % 2) + (3 - t % 16 / 4) + if down then 8 else 0

def scanCol (t : Nat) : Nat :=
  8 * (2 * (1 - t / 256) + t / 32 % 2) + (4 * (t % 32 / 16) + t % 4)

def scanClock (row col : Nat) : Nat :=
  32 * (8 * (1 - col / 16) + 4 * (row / 16) + 2 * (1 - row / 4 % 2) + col / 8 % 2) +
    (16 * (col % 8 / 4) + 4 * (3 - row % 4) + col % 4)

theorem scanRow_lt (t : Nat) (down : Bool) : scanRow t down < 32 := by
  rw [scanRow]
  split <;> omega

theorem scanCol_lt (t : Nat) : scanCol t < 32 := by
  rw [scanCol]
  omega

theorem scanClock_lt (hr : row < 32) : scanClock row col < 512 := by
  rw [scanClock]
  omega

/-- The pixel that each of the two data pins hands over at each clock. -/
def scanPlace : Fin 512 × Bool ≃ Fin 32 × Fin 32 where
  toFun p := (⟨scanRow p.1.val p.2, scanRow_lt _ _⟩, ⟨scanCol p.1.val, scanCol_lt _⟩)
  invFun p := (⟨scanClock p.1.val p.2.val, scanClock_lt p.1.isLt⟩, decide (8 ≤ p.1.val % 16))
  left_inv := by
    have hall : ∀ t : Fin 512, ∀ down : Bool,
        scanClock (scanRow t.val down) (scanCol t.val) = t.val ∧
          decide (8 ≤ scanRow t.val down % 16) = down := by decide +kernel
    rintro ⟨t, down⟩
    exact Prod.ext (Fin.ext (hall t down).1) (hall t down).2
  right_inv := by
    have hall : ∀ row col : Fin 32,
        scanRow (scanClock row.val col.val) (decide (8 ≤ row.val % 16)) = row.val ∧
          scanCol (scanClock row.val col.val) = col.val := by decide +kernel
    rintro ⟨row, col⟩
    exact Prod.ext (Fin.ext (hall row col).1) (Fin.ext (hall row col).2)

def wordByte (frame : Glyph 4) (w : Nat) (down : Bool) (j : Nat) : UInt8 :=
  frame ⟨16 * (w / 4 % 2) + 4 * (1 - w / 2 % 2) + (3 - j) + if down then 8 else 0,
    by split <;> omega⟩ ⟨2 * (1 - w / 8) + w % 2, by omega⟩

theorem up_word (frame : Glyph 4) (hw : w < 16) : (threeBitDecode frame).up.getD w 0 =
    decode (wordByte frame w false 0) (wordByte frame w false 1) (wordByte frame w false 2)
      (wordByte frame w false 3) := by
  interval_cases w <;> rfl

theorem down_word (frame : Glyph 4) (hw : w < 16) : (threeBitDecode frame).down.getD w 0 =
    decode (wordByte frame w true 0) (wordByte frame w true 1) (wordByte frame w true 2)
      (wordByte frame w true 3) := by
  interval_cases w <;> rfl

theorem word_pixel (frame : Glyph 4) (t : Fin 512) (down : Bool) :
    (wordByte frame (t.val / 32) down (t.val % 32 % 16 / 4)).toNat.testBit
      (4 * (t.val % 32 / 16) + t.val % 32 % 4) = frame.pixel (scanPlace (t, down)) := by
  obtain ⟨t, ht⟩ := t
  have hrow : 16 * (t / 32 / 4 % 2) + 4 * (1 - t / 32 / 2 % 2) + (3 - t % 32 % 16 / 4) +
      (if down then 8 else 0) = scanRow t down := by
    rw [scanRow]
    omega
  have hcol : 2 * (1 - t / 32 / 8) + t / 32 % 2 = scanCol t / 8 := by
    rw [scanCol, Nat.div_div_eq_div_mul]
    omega
  have hbit : 4 * (t % 32 / 16) + t % 32 % 4 = scanCol t % 8 := by
    rw [scanCol]
    omega
  simp only [wordByte, hrow, hcol, hbit]
  rfl

theorem clockedOut_pixels (b : Board) (c : Colour) (frame : Glyph 4) :
    b.clockedOut (threeBitDecode frame) c = List.ofFn fun t : Fin 512 =>
      (frame.pixel (scanPlace (t, false)), frame.pixel (scanPlace (t, true))) := by
  rw [Board.clockedOut_eq]
  apply List.ext_getElem
  · rw [List.length_map, List.length_range, List.length_ofFn]
  · intro t ht ht'
    have hlt : t < 512 := by rwa [List.length_ofFn] at ht'
    have hw : t / 32 < 16 := by omega
    have hn : t % 32 < 32 := by omega
    have hup := decode_testBit (wordByte frame (t / 32) false) hn
    have hdown := decode_testBit (wordByte frame (t / 32) true) hn
    rw [List.getElem_map, List.getElem_range, List.getElem_ofFn, up_word frame hw,
      down_word frame hw, hup, hdown]
    exact Prod.ext (word_pixel frame ⟨t, hlt⟩ false) (word_pixel frame ⟨t, hlt⟩ true)

theorem clockedOut_injective (b : Board) (c : Colour) :
    Function.Injective fun frame : Glyph 4 => b.clockedOut (threeBitDecode frame) c := by
  intro frame frame' h
  dsimp only at h
  rw [clockedOut_pixels, clockedOut_pixels] at h
  have hpairs := List.ofFn_injective h
  apply pixel_injective
  funext p
  obtain ⟨⟨t, down⟩, rfl⟩ := scanPlace.surjective p
  have ht := congrFun hpairs t
  cases down with
  | false => exact congrArg Prod.fst ht
  | true => exact congrArg Prod.snd ht

/-- The panel takes over every pixel of the picture once: the pins of the upper halves those of the
rows 0 to 7 and 16 to 23, and with them the others those eight rows below. -/
theorem scan_out_permutation (b : Board) (c : Colour) :
    (∀ frame : Glyph 4, b.clockedOut (threeBitDecode frame) c = List.ofFn fun t : Fin 512 =>
      (frame.pixel (scanPlace (t, false)), frame.pixel (scanPlace (t, true)))) ∧
    (∀ t : Fin 512, (scanPlace (t, false)).1.val % 16 < 8 ∧
      (scanPlace (t, true)).1.val = (scanPlace (t, false)).1.val + 8 ∧
      (scanPlace (t, true)).2 = (scanPlace (t, false)).2) ∧
    Function.Injective fun frame : Glyph 4 => b.clockedOut (threeBitDecode frame) c := by
  exact ⟨clockedOut_pixels b c, by decide +kernel, clockedOut_injective b c⟩

def beside (left right : Glyph 2) : Glyph 4 := fun i => Fin.append (left i) (right i)

/-- The glyphs of a two-digit number are shifted out as the picture they make up. -/
theorem two_bit_as_three (frame frameT : Glyph 2) :
    twoBitDecode frame frameT = threeBitDecode (beside frameT frame) := rfl

end CountdownOutside
