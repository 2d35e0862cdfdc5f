import CountdownOutside.Font
import CountdownOutside.Panel

namespace CountdownOutside
set_option autoImplicit true

/-- `up` and `down`: the words that are shifted out to the upper and the lower half of the panel. -/
structure Banks where
  up : List UInt32
  down : List UInt32
  deriving DecidableEq, Repr

def decode (data1 data2 data3 data4 : UInt8) : UInt32 :=
  ((data4 &&& 0xf0).toUInt32 <<< 24) ||| ((data3 &&& 0xf0).toUInt32 <<< 20) |||
    ((data2 &&& 0xf0).toUInt32 <<< 16) ||| ((data1 &&& 0xf0).toUInt32 <<< 12) |||
    (((data4 &&& 0x0f).toUInt32 <<< 4) <<< 8) ||| (((data3 &&& 0x0f).toUInt32 <<< 4) <<< 4) |||
    ((data2 &&& 0x0f).toUInt32 <<< 4) ||| (data1 &&& 0x0f).toUInt32

def twoBitDecode (frame frameT : Glyph 2) : Banks where
  up := [
    decode (frame 7 0) (frame 6 0) (frame 5 0) (frame 4 0),
    decode (frame 7 1) (frame 6 1) (frame 5 1) (frame 4 1),
    decode (frame 3 0) (frame 2 0) (frame 1 0) (frame 0 0),
    decode (frame 3 1) (frame 2 1) (frame 1 1) (frame 0 1),
    decode (frame 23 0) (frame 22 0) (frame 21 0) (frame 20 0),
    decode (frame 23 1) (frame 22 1) (frame 21 1) (frame 20 1),
    decode (frame 19 0) (frame 18 0) (frame 17 0) (frame 16 0),
    decode (frame 19 1) (frame 18 1) (frame 17 1) (frame 16 1),
    decode (frameT 7 0) (frameT 6 0) (frameT 5 0) (frameT 4 0),
    decode (frameT 7 1) (frameT 6 1) (frameT 5 1) (frameT 4 1),
    decode (frameT 3 0) (frameT 2 0) (frameT 1 0) (frameT 0 0),
    decode (frameT 3 1) (frameT 2 1) (frameT 1 1) (frameT 0 1),
    decode (frameT 23 0) (frameT 22 0) (frameT 21 0) (frameT 20 0),
    decode (frameT 23 1) (frameT 22 1) (frameT 21 1) (frameT 20 1),
    decode (frameT 19 0) (frameT 18 0) (frameT 17 0) (frameT 16 0),
    decode (frameT 19 1) (frameT 18 1) (frameT 17 1) (frameT 16 1)]
  down := [
    decode (frame 15 0) (frame 14 0) (frame 13 0) (frame 12 0),
    decode (frame 15 1) (frame 14 1) (frame 13 1) (frame 12 1),
    decode (frame 11 0) (frame 10 0) (frame 9 0) (frame 8 0),
    decode (frame 11 1) (frame 10 1) (frame 9 1) (frame 8 1),
    decode (frame 31 0) (frame 30 0) (frame 29 0) (frame 28 0),
    decode (frame 31 1) (frame 30 1) (frame 29 1) (frame 28 1),
    decode (frame 27 0) (frame 26 0) (frame 25 0) (frame 24 0),
    decode (frame 27 1) (frame 26 1) (frame 25 1) (frame 24 1),
    decode (frameT 15 0) (frameT 14 0) (frameT 13 0) (frameT 12 0),
    decode (frameT 15 1) (frameT 14 1) (frameT 13 1) (frameT 12 1),
    decode (frameT 11 0) (frameT 10 0) (frameT 9 0) (frameT 8 0),
    decode (frameT 11 1) (frameT 10 1) (frameT 9 1) (frameT 8 1),
    decode (frameT 31 0) (frameT 30 0) (frameT 29 0) (frameT 28 0),
    decode (frameT 31 1) (frameT 30 1) (frameT 29 1) (frameT 28 1),
    decode (frameT 27 0) (frameT 26 0) (frameT 25 0) (frameT 24 0),
    decode (frameT 27 1) (frameT 26 1) (frameT 25 1) (frameT 24 1)]

def threeBitDecode (frame : Glyph 4) : Banks where
  up := [
    decode (frame 7 2) (frame 6 2) (frame 5 2) (frame 4 2),
    decode (frame 7 3) (frame 6 3) (frame 5 3) (frame 4 3),
    decode (frame 3 2) (frame 2 2) (frame 1 2) (frame 0 2),
    decode (frame 3 3) (frame 2 3) (frame 1 3) (frame 0 3),
    decode (frame 23 2) (frame 22 2) (frame 21 2) (frame 20 2),
    decode (frame 23 3) (frame 22 3) (frame 21 3) (frame 20 3),
    decode (frame 19 2) (frame 18 2) (frame 17 2) (frame 16 2),
    decode (frame 19 3) (frame 18 3) (frame 17 3) (frame 16 3),
    decode (frame 7 0) (frame 6 0) (frame 5 0) (frame 4 0),
    decode (frame 7 1) (frame 6 1) (frame 5 1) (frame 4 1),
    decode (frame 3 0) (frame 2 0) (frame 1 0) (frame 0 0),
    decode (frame 3 1) (frame 2 1) (frame 1 1) (frame 0 1),
    decode (frame 23 0) (frame 22 0) (frame 21 0) (frame 20 0),
    decode (frame 23 1) (frame 22 1) (frame 21 1) (frame 20 1),
    decode (frame 19 0) (frame 18 0) (frame 17 0) (frame 16 0),
    decode (frame 19 1) (frame 18 1) (frame 17 1) (frame 16 1)]
  down := [
    decode (frame 15 2) (frame 14 2) (frame 13 2) (frame 12 2),
    decode (frame 15 3) (frame 14 3) (frame 13 3) (frame 12 3),
    decode (frame 11 2) (frame 10 2) (frame 9 2) (frame 8 2),
    decode (frame 11 3) (frame 10 3) (frame 9 3) (frame 8 3),
    decode (frame 31 2) (frame 30 2) (frame 29 2) (frame 28 2),
    decode (frame 31 3) (frame 30 3) (frame 29 3) (frame 28 3),
    decode (frame 27 2) (frame 26 2) (frame 25 2) (frame 24 2),
    decode (frame 27 3) (frame 26 3) (frame 25 3) (frame 24 3),
    decode (frame 15 0) (frame 14 0) (frame 13 0) (frame 12 0),
    decode (frame 15 1) (frame 14 1) (frame 13 1) (frame 12 1),
    decode (frame 11 0) (frame 10 0) (frame 9 0) (frame 8 0),
    decode (frame 11 1) (frame 10 1) (frame 9 1) (frame 8 1),
    decode (frame 31 0) (frame 30 0) (frame 29 0) (frame 28 0),
    decode (frame 31 1) (frame 30 1) (frame 29 1) (frame 28 1),
    decode (frame 27 0) (frame 26 0) (frame 25 0) (frame 24 0),
    decode (frame 27 1) (frame 26 1) (frame 25 1) (frame 24 1)]

def threeBitDataDecode (frame frame1 : Glyph 2) (i : Fin 32) : UInt32 :=
  ((Font.firstOne3bit i 0).toUInt32 <<< 24) ||| ((frame i 0).toUInt32 <<< 16) |||
    (((frame i 1 &&& 0x0f).toUInt32 ||| ((frame1 i 0 &&& 0x0f).toUInt32 <<< 4)) <<< 8) |||
    (((frame1 i 1 &&& 0x0f).toUInt32 <<< 4) ||| ((frame1 i 0 &&& 0xf0).toUInt32 >>> 4))

/-- `three_buf` as `three_bit_display` fills it. -/
def threeBuf (tens units : Glyph 2) : Glyph 4 := fun i j =>
  let data := threeBitDataDecode tens units i
  match j with
  | 0 => (data >>> 24).toUInt8
  | 1 => ((data &&& 0x00ff0000) >>> 16).toUInt8
  | 2 => ((data &&& 0x0000ff00) >>> 8).toUInt8
  | 3 => (data &&& 0x000000ff).toUInt8

/-- The table entry of a digit; no caller asks for one that a table does not have. -/
def glyph (table : List (Glyph w)) (i : UInt8) : Glyph w := table.getD i.toNat (rows w [])

/-- What is in `up` and `down` when `dispaly` is called for a picture. -/
def Picture.banks : Picture → Banks
  | .oneBit numGe => threeBitDecode (glyph Font.q numGe)
  | .twoBit numShi numGe => twoBitDecode (glyph Font.p numShi) (glyph Font.p numGe)
  | .threeBit numShi numGe => threeBitDecode (threeBuf (glyph Font.s numShi) (glyph Font.s numGe))

inductive Pin
  | rd1
  | rd2
  | gd1
  | gd2
  | bd1
  | bd2
  | clk
  | lat
  | oe
  deriving DecidableEq, Repr

structure Levels where
  rd1 : Bool
  rd2 : Bool
  gd1 : Bool
  gd2 : Bool
  bd1 : Bool
  bd2 : Bool
  deriving DecidableEq, Repr

def Levels.low : Levels := ⟨false, false, false, false, false, false⟩

def Levels.of (l : Levels) : Colour → Bool × Bool
  | .red => (l.rd1, l.rd2)
  | .green => (l.bd1, l.bd2)
  | .yellow => (l.gd1, l.gd2)

/-- The pins, and the levels of the data pins at the edges of `CLK_PIN`, the latest first. -/
structure Board where
  data : Levels
  clk : Bool
  lat : Bool
  oe : Bool
  edges : List Levels
  deriving DecidableEq, Repr

namespace Board

def init : Board := ⟨.low, false, false, true, []⟩

def rtPinWrite (b : Board) : Pin → Bool → Board
  | .rd1, level => { b with data := { b.data with rd1 := level } }
  | .rd2, level => { b with data := { b.data with rd2 := level } }
  | .gd1, level => { b with data := { b.data with gd1 := level } }
  | .gd2, level => { b with data := { b.data with gd2 := level } }
  | .bd1, level => { b with data := { b.data with bd1 := level } }
  | .bd2, level => { b with data := { b.data with bd2 := level } }
  | .clk, level => { b with
      clk := level, edges := if level = b.clk then b.edges else b.data :: b.edges }
  | .lat, level => { b with lat := level }
  | .oe, level => { b with oe := level }

def bank32Rounds (color1 color2 : Pin) : Nat → UInt32 → UInt32 → Board → Board
  | 0, _, _, b => b
  | n + 1, dataUp, dataDown, b =>
    let b := b.rtPinWrite .clk false
    let b := b.rtPinWrite color1 (dataUp &&& 1 ≠ 0)
    let b := b.rtPinWrite color2 (dataDown &&& 1 ≠ 0)
    let b := b.rtPinWrite .clk true
    bank32Rounds color1 color2 n (dataUp >>> 1) (dataDown >>> 1) b

/-- For another colour the pins would not be set at all; no caller passes one. -/
def bank32 (b : Board) (dataUp dataDown : UInt32) (color : UInt8) : Board :=
  if color = redMode then bank32Rounds .rd1 .rd2 32 dataUp dataDown b
  else if color = greenMode then bank32Rounds .bd1 .bd2 32 dataUp dataDown b
  else if color = yellowMode then bank32Rounds .gd1 .gd2 32 dataUp dataDown b
  else if color = blackMode then b.rtPinWrite .oe true
  else b

def dispaly (b : Board) (banks : Banks) (color : UInt8) : Board :=
  let b := b.rtPinWrite .lat false
  let b := (List.range 16).foldl
    (fun b i => b.bank32 (banks.up.getD i 0) (banks.down.getD i 0) color) b
  let b := b.rtPinWrite .lat true
  b.rtPinWrite .oe false

def clearRound (b : Board) : Board :=
  let b := b.rtPinWrite .clk false
  let b := b.rtPinWrite .rd1 false
  let b := b.rtPinWrite .rd2 false
  let b := b.rtPinWrite .gd1 false
  let b := b.rtPinWrite .gd2 false
  let b := b.rtPinWrite .bd1 false
  let b := b.rtPinWrite .bd2 false
  b.rtPinWrite .clk true

def clearDisplay (b : Board) : Board :=
  let b := b.rtPinWrite .lat false
  let b := b.rtPinWrite .oe true
  let b := (List.range 32).foldl
    (fun b _ => (List.range 16).foldl (fun b _ => b.clearRound) b) b
  let b := b.rtPinWrite .lat true
  b.rtPinWrite .oe false

def op (b : Board) : PanelOp → Board
  | .clear => b.clearDisplay
  | .dispaly picture color => b.dispaly picture.banks color
  | .oe level => b.rtPinWrite .oe level

def run (b : Board) (ops : List PanelOp) : Board := ops.foldl op b

end Board

def Colour.pins : Colour → Pin × Pin
  | .red => (.rd1, .rd2)
  | .green => (.bd1, .bd2)
  | .yellow => (.gd1, .gd2)

/-- The two bits that are shifted out last, at which the data pins of the colour stay. -/
def Banks.last (banks : Banks) : Bool × Bool :=
  ((banks.up.getD 15 0).toNat.testBit 31, (banks.down.getD 15 0).toNat.testBit 31)

theorem testBit_shiftLeft (x k : UInt32) (n : Nat) (hk : k.toNat < 32) :
    (x <<< k).toNat.testBit n =
      (decide (n < 32) && (decide (k.toNat ≤ n) && x.toNat.testBit (n - k.toNat))) := by
  rw [UInt32.toNat_shiftLeft, Nat.testBit_mod_two_pow, Nat.testBit_shiftLeft, Nat.mod_eq_of_lt hk]

theorem placed_testBit (x : UInt8) (hk : k < 32) (hn : n < 32) :
    (x.toUInt32 <<< UInt32.ofNat k).toNat.testBit n =
      (decide (k ≤ n) && x.toNat.testBit (n - k)) := by
  have hshift : (UInt32.ofNat k).toNat = k := by
    rw [UInt32.toNat_ofNat']
    omega
  rw [testBit_shiftLeft _ _ _ (by omega), hshift, UInt8.toNat_toUInt32, decide_eq_true hn,
    Bool.true_and]

theorem testBit_byte (x : UInt8) (n : Nat) (h : 8 ≤ n) : x.toNat.testBit n = false :=
  Nat.testBit_lt_two_pow (Nat.lt_of_lt_of_le x.toNat_lt (Nat.pow_le_pow_right (by decide) h))

theorem eq_of_testBit_byte {x y : UInt8} (h : ∀ n < 8, x.toNat.testBit n = y.toNat.testBit n) :
    x = y := by
  apply UInt8.toNat_inj.1
  apply Nat.eq_of_testBit_eq
  intro n
  by_cases hn : n < 8
  · exact h n hn
  · rw [testBit_byte _ _ (by omega), testBit_byte _ _ (by omega)]

theorem decode_top (data1 data2 data3 data4 : UInt8) :
    (decode data1 data2 data3 data4).toNat.testBit 31 = data4.toNat.testBit 7 := by
  have hhigh : Nat.testBit 240 7 = true := by decide
  simp only [decode, UInt32.toNat_or, Nat.testBit_or]
  simp (disch := decide) only [testBit_shiftLeft]
  simp [testBit_byte, hhigh]

/-- The last bits of a full picture are the pixels of column 15 in the rows 16 and 24. -/
theorem last_three (frame : Glyph 4) : (threeBitDecode frame).last =
    ((frame 16 1).toNat.testBit 7, (frame 24 1).toNat.testBit 7) :=
  Prod.ext (decode_top _ _ _ _) (decode_top _ _ _ _)

theorem last_two (frame frameT : Glyph 2) : (twoBitDecode frame frameT).last =
    ((frameT 16 1).toNat.testBit 7, (frameT 24 1).toNat.testBit 7) :=
  Prod.ext (decode_top _ _ _ _) (decode_top _ _ _ _)

theorem last_twoBit (numShi numGe : UInt8) :
    (Picture.twoBit numShi numGe).banks.last = (false, false) := by
  rw [Picture.banks, last_two]
  revert numGe
  apply forall_byte
  decide +kernel

namespace Board

variable {b b' b'' : Board} {c d : Colour} {pin : Pin}

/-- Only data pins of a colour change: at every edge the others are as they were. -/
structure Spares (c : Colour) (b b' : Board) : Prop where
  data : ∀ d, d ≠ c → b'.data.of d = b.data.of d
  kept : ∀ l ∈ b.edges, l ∈ b'.edges
  edges : ∀ l ∈ b'.edges, l ∈ b.edges ∨ ∀ d, d ≠ c → l.of d = b.data.of d

theorem Spares.refl (c : Colour) (b : Board) : Spares c b b :=
  ⟨fun _ _ => rfl, fun _ h => h, fun _ h => .inl h⟩

theorem Spares.trans (h : Spares c b b') (h' : Spares c b' b'') : Spares c b b'' where
  data := by
    intro d hd
    rw [h'.data d hd, h.data d hd]
  kept := fun l hl => h'.kept l (h.kept l hl)
  edges := by
    intro l hl
    rcases h'.edges l hl with hl | hl
    · exact h.edges l hl
    · refine .inr ?_
      intro d hd
      rw [hl d hd, h.data d hd]

theorem Spares.foldl {f : Board → ι → Board} (h : ∀ b i, Spares c b (f b i)) (is : List ι)
    (b : Board) : Spares c b (is.foldl f b) := by
  induction is generalizing b with
  | nil => exact .refl c b
  | cons i is ih => exact (h b i).trans (ih (f b i))

theorem spares_own (b : Board) (level : Bool) (h : pin = c.pins.1 ∨ pin = c.pins.2) :
    Spares c b (b.rtPinWrite pin level) := by
  rcases h with rfl | rfl
  · cases c <;> refine ⟨?_, fun _ h => h, fun _ h => .inl h⟩ <;> intro d hd <;> cases d <;>
      first | rfl | exact absurd rfl hd
  · cases c <;> refine ⟨?_, fun _ h => h, fun _ h => .inl h⟩ <;> intro d hd <;> cases d <;>
      first | rfl | exact absurd rfl hd

theorem spares_clk (c : Colour) (b : Board) (level : Bool) :
    Spares c b (b.rtPinWrite .clk level) := by
  refine ⟨fun _ _ => rfl, ?_, ?_⟩
  · intro l hl
    rw [rtPinWrite]
    split
    · exact hl
    · exact List.mem_cons_of_mem _ hl
  · intro l hl
    rw [rtPinWrite] at hl
    split at hl
    · exact .inl hl
    · rcases List.mem_cons.1 hl with rfl | hl
      · exact .inr (fun _ _ => rfl)
      · exact .inl hl

theorem spares_round (c : Colour) (b : Board) (up down : Bool) :
    Spares c b (((b.rtPinWrite .clk false).rtPinWrite c.pins.1 up).rtPinWrite c.pins.2 down) :=
  ((spares_clk c b false).trans (spares_own _ up (.inl rfl))).trans
    (spares_own _ down (.inr rfl))

theorem spares_rounds (c : Colour) (n : Nat) (up down : UInt32) (b : Board) :
    Spares c b (bank32Rounds c.pins.1 c.pins.2 n up down b) := by
  induction n generalizing up down b with
  | zero => exact .refl c b
  | succ n ih => exact ((spares_round c b _ _).trans (spares_clk c _ true)).trans (ih _ _ _)

theorem testBit_low (x : UInt32) : decide (x &&& 1 ≠ 0) = x.toNat.testBit 0 := by
  rw [Nat.testBit_zero]
  congr 1
  have hand : (x &&& 1).toNat = x.toNat % 2 := by
    rw [UInt32.toNat_and]
    exact Nat.and_one_is_mod _
  apply propext
  rw [ne_eq, ← UInt32.toNat_inj, hand]
  change ¬ _ % 2 = 0 ↔ _
  omega

theorem testBit_shifted (x : UInt32) (n : Nat) :
    (x >>> 1).toNat.testBit n = x.toNat.testBit (n + 1) := by
  rw [UInt32.toNat_shiftRight, Nat.testBit_shiftRight, Nat.add_comm n 1]
  rfl

theorem rounds_last (c : Colour) (n : Nat) (up down : UInt32) (b : Board) :
    (bank32Rounds c.pins.1 c.pins.2 (n + 1) up down b).data.of c =
      (up.toNat.testBit n, down.toNat.testBit n) := by
  induction n generalizing up down b with
  | zero =>
    rw [← testBit_low, ← testBit_low]
    cases c <;> rfl
  | succ n ih =>
    rw [bank32Rounds]
    exact (ih _ _ _).trans (by rw [testBit_shifted, testBit_shifted])

theorem rounds_edge (c : Colour) (n : Nat) (up down : UInt32) (b : Board) :
    ∃ l ∈ (bank32Rounds c.pins.1 c.pins.2 (n + 1) up down b).edges,
      ∀ d, d ≠ c → l.of d = b.data.of d := by
  have hround := spares_round c b (up &&& 1 ≠ 0) (down &&& 1 ≠ 0)
  have hrising : (((b.rtPinWrite .clk false).rtPinWrite c.pins.1 (up &&& 1 ≠ 0)).rtPinWrite
      c.pins.2 (down &&& 1 ≠ 0)).clk = false := by
    cases c <;> rfl
  refine ⟨_, (spares_rounds c n _ _ _).kept _ ?_, hround.data⟩
  rw [rtPinWrite, hrising]
  exact List.mem_cons_self

theorem bank32_eq (b : Board) (up down : UInt32) (c : Colour) :
    b.bank32 up down c.code = bank32Rounds c.pins.1 c.pins.2 32 up down b := by
  cases c <;> rfl

theorem spares_bank32 (c : Colour) (b : Board) (up down : UInt32) :
    Spares c b (b.bank32 up down c.code) := by
  rw [bank32_eq]
  exact spares_rounds c 32 up down b

theorem foldl_range_succ (f : Board → Nat → Board) (n : Nat) (b : Board) :
    (List.range (n + 1)).foldl f b = f ((List.range n).foldl f b) n := by
  rw [List.range_succ, List.foldl_append]
  rfl

theorem dispaly_pins (b : Board) (banks : Banks) (c : Colour) :
    (b.dispaly banks c.code).data = (bank32Rounds c.pins.1 c.pins.2 32 (banks.up.getD 15 0)
        (banks.down.getD 15 0) ((List.range 15).foldl
          (fun b i => b.bank32 (banks.up.getD i 0) (banks.down.getD i 0) c.code)
          (b.rtPinWrite .lat false))).data ∧
      (b.dispaly banks c.code).edges = (bank32Rounds c.pins.1 c.pins.2 32 (banks.up.getD 15 0)
        (banks.down.getD 15 0) ((List.range 15).foldl
          (fun b i => b.bank32 (banks.up.getD i 0) (banks.down.getD i 0) c.code)
          (b.rtPinWrite .lat false))).edges := by
  rw [← bank32_eq, dispaly, foldl_range_succ]
  exact ⟨rfl, rfl⟩

theorem spares_dispaly (c : Colour) (b : Board) (banks : Banks) :
    Spares c b (b.dispaly banks c.code) := by
  have hbanks := Spares.foldl (fun b i => spares_bank32 c b (banks.up.getD i 0)
    (banks.down.getD i 0)) (List.range 16) (b.rtPinWrite .lat false)
  exact ⟨hbanks.data, hbanks.kept, hbanks.edges⟩

theorem dispaly_last (b : Board) (banks : Banks) (c : Colour) :
    (b.dispaly banks c.code).data.of c = banks.last := by
  rw [(dispaly_pins b banks c).1]
  exact rounds_last c 31 _ _ _

theorem dispaly_edge (b : Board) (banks : Banks) (c : Colour) :
    ∃ l ∈ (b.dispaly banks c.code).edges, ∀ d, d ≠ c → l.of d = b.data.of d := by
  have hbefore := Spares.foldl (fun b i => spares_bank32 c b (banks.up.getD i 0)
    (banks.down.getD i 0)) (List.range 15) (b.rtPinWrite .lat false)
  rw [(dispaly_pins b banks c).2]
  obtain ⟨l, hl, hlow⟩ := rounds_edge c 31 (banks.up.getD 15 0) (banks.down.getD 15 0)
    ((List.range 15).foldl (fun b i => b.bank32 (banks.up.getD i 0) (banks.down.getD i 0) c.code)
      (b.rtPinWrite .lat false))
  refine ⟨l, hl, ?_⟩
  intro d hd
  rw [hlow d hd, hbefore.data d hd]
  rfl

theorem clearDisplay_low (b : Board) : b.clearDisplay.data = .low := by
  rw [clearDisplay, foldl_range_succ, foldl_range_succ]
  rfl

theorem run_oe {panel : Panel} (h : b.oe = panel.oe) (ops : List PanelOp) :
    (b.run ops).oe = (panel.run ops).oe := by
  induction ops generalizing b panel with
  | nil => exact h
  | cons o ops ih =>
    have ho : (b.op o).oe = (panel.op o).oe := by
      cases o <;> rfl
    exact ih ho

def clocked (b : Board) (o : PanelOp) : List Levels := ({ b with edges := [] }.op o).edges

def Apart (color : UInt8) (l : Levels) : Prop :=
  ∀ d : Colour, d.code ≠ color → l.of d = (false, false)

/-- While the panel is drawn, every shift-out by `dispaly` finds the data pins of the other colours
low at every edge of the clock. -/
def Clean (b : Board) : List PanelOp → Prop
  | [] => True
  | .dispaly picture color :: ops =>
    (∀ l ∈ b.clocked (.dispaly picture color), Apart color l) ∧
      (b.op (.dispaly picture color)).Clean ops
  | o :: ops => (b.op o).Clean ops

theorem clocked_apart_iff (b : Board) (picture : Picture) (c : Colour) :
    (∀ l ∈ b.clocked (.dispaly picture c.code), Apart c.code l) ↔
      ∀ d, d ≠ c → b.data.of d = (false, false) := by
  have hspares := spares_dispaly c { b with edges := [] } picture.banks
  constructor
  · intro h d hd
    obtain ⟨l, hl, hlow⟩ := dispaly_edge { b with edges := [] } picture.banks c
    exact (hlow d hd).symm.trans (h l hl d (fun he => hd (Colour.code_injective he)))
  · intro h l hl d hd
    have hne : d ≠ c := fun he => hd (congrArg Colour.code he)
    rcases hspares.edges l hl with hnil | hlow
    · cases hnil
    · exact (hlow d hne).trans (h d hne)

end Board

end CountdownOutside
