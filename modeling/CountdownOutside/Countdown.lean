import CountdownOutside.Scan

namespace CountdownOutside
set_option autoImplicit true

inductive Colour
  | red
  | green
  | yellow
  deriving DecidableEq, Repr

def redMode : UInt8 := 1
def greenMode : UInt8 := 2
def yellowMode : UInt8 := 3
def blackMode : UInt8 := 4
def hMode : UInt8 := 5

def Colour.code : Colour → UInt8
  | .red => redMode
  | .green => greenMode
  | .yellow => yellowMode

theorem Colour.code_injective : Function.Injective Colour.code := by
  intro c d h
  cases c <;> cases d <;> first | rfl | cases h

structure Countdown where
  curMode : UInt8
  blind : UInt8
  type : UInt8
  sync : UInt8
  flagR : UInt8
  flagY : UInt8
  flagG : UInt8
  modeR : UInt8
  modeY : UInt8
  modeG : UInt8
  curNum : UInt16
  curTmp : UInt16
  curNumR : UInt16
  curNumY : UInt16
  curNumG : UInt16
  test : UInt8
  deriving DecidableEq, Repr

namespace Countdown

def zero : Countdown := ⟨0, 0, 0, 0, 0, 0, 0, 0, 0, 0, 0, 0, 0, 0, 0, 0⟩

def flag (cd : Countdown) : Colour → UInt8
  | .red => cd.flagR
  | .green => cd.flagG
  | .yellow => cd.flagY

def mode (cd : Countdown) : Colour → UInt8
  | .red => cd.modeR
  | .green => cd.modeG
  | .yellow => cd.modeY

def num (cd : Countdown) : Colour → UInt16
  | .red => cd.curNumR
  | .green => cd.curNumG
  | .yellow => cd.curNumY

/-- `cur_num_x = v; flag_x = 1; mode_x = 1`, as every parser and learner does it. -/
def arm (cd : Countdown) (c : Colour) (v : UInt16) : Countdown :=
  match c with
  | .red => { cd with curNumR := v, flagR := 1, modeR := 1 }
  | .green => { cd with curNumG := v, flagG := 1, modeG := 1 }
  | .yellow => { cd with curNumY := v, flagY := 1, modeY := 1 }

/-- What the display loop stores when it loads a colour: the other colours' modes go to `0`. -/
def load (cd : Countdown) (c : Colour) : Countdown :=
  match c with
  | .red => { cd with modeG := 0, modeY := 0, sync := 0, curNum := cd.curNumR, flagR := 0 }
  | .green => { cd with modeR := 0, modeY := 0, sync := 0, curNum := cd.curNumG, flagG := 0 }
  | .yellow => { cd with modeR := 0, modeG := 0, sync := 0, curNum := cd.curNumY, flagY := 0 }

variable (cd : Countdown) (c d : Colour) (v : UInt16)

@[simp] theorem arm_flag : (cd.arm c v).flag d = if d = c then 1 else cd.flag d := by
  cases c <;> cases d <;> rfl

@[simp] theorem arm_mode : (cd.arm c v).mode d = if d = c then 1 else cd.mode d := by
  cases c <;> cases d <;> rfl

@[simp] theorem arm_num : (cd.arm c v).num d = if d = c then v else cd.num d := by
  cases c <;> cases d <;> rfl

@[simp] theorem arm_curNum : (cd.arm c v).curNum = cd.curNum := by cases c <;> rfl

@[simp] theorem arm_sync : (cd.arm c v).sync = cd.sync := by cases c <;> rfl

@[simp] theorem load_flag : (cd.load c).flag d = if d = c then 0 else cd.flag d := by
  cases c <;> cases d <;> rfl

@[simp] theorem load_mode : (cd.load c).mode d = if d = c then cd.mode c else 0 := by
  cases c <;> cases d <;> rfl

@[simp] theorem load_curNum : (cd.load c).curNum = cd.num c := by cases c <;> rfl

@[simp] theorem load_sync : (cd.load c).sync = 0 := by cases c <;> rfl

@[simp] theorem load_type : (cd.load c).type = cd.type := by cases c <;> rfl

end Countdown

/-- What one message or one learning step stores in the countdown, field by field. -/
structure Update where
  tmp : Option UInt16
  arm : Option (Colour × UInt16)
  curMode : Option UInt8
  type : Option UInt8
  blind : Option UInt8
  test : Option UInt8
  deriving DecidableEq, Repr

namespace Update

def idle : Update := ⟨none, none, none, none, none, none⟩

def armed (u : Update) (cd : Countdown) : Countdown :=
  match u.arm with
  | some (c, v) => cd.arm c v
  | none => cd

def apply (u : Update) (cd : Countdown) : Countdown :=
  { u.armed cd with
    curTmp := u.tmp.getD cd.curTmp
    curMode := u.curMode.getD cd.curMode
    type := u.type.getD cd.type
    blind := u.blind.getD cd.blind
    test := u.test.getD cd.test }

variable (u : Update) (cd : Countdown) (d : Colour)

theorem apply_flag_eq : (u.apply cd).flag d = (u.armed cd).flag d := by cases d <;> rfl

theorem apply_mode_eq : (u.apply cd).mode d = (u.armed cd).mode d := by cases d <;> rfl

theorem apply_num_eq : (u.apply cd).num d = (u.armed cd).num d := by cases d <;> rfl

theorem apply_unarmed (h : u.arm = none) : (u.apply cd).flag d = cd.flag d ∧
    (u.apply cd).mode d = cd.mode d ∧ (u.apply cd).num d = cd.num d := by
  simp only [apply_flag_eq, apply_mode_eq, apply_num_eq, armed, h, and_self]

theorem apply_colour : ((u.apply cd).flag d = 1 ∧ (u.apply cd).mode d = 1) ∨
    ((u.apply cd).flag d = cd.flag d ∧ (u.apply cd).mode d = cd.mode d ∧
      (u.apply cd).num d = cd.num d) := by
  cases ha : u.arm with
  | none => exact .inr (u.apply_unarmed cd d ha)
  | some p =>
    simp only [apply_flag_eq, apply_mode_eq, apply_num_eq, armed, ha, Countdown.arm_flag,
      Countdown.arm_mode, Countdown.arm_num]
    split
    · exact .inl ⟨rfl, rfl⟩
    · exact .inr ⟨rfl, rfl, rfl⟩

@[simp] theorem apply_curNum : (u.apply cd).curNum = cd.curNum := by
  simp only [apply, armed]
  split <;> simp only [Countdown.arm_curNum]

@[simp] theorem apply_sync : (u.apply cd).sync = cd.sync := by
  simp only [apply, armed]
  split <;> simp only [Countdown.arm_sync]

def applyAll (us : List Update) (cd : Countdown) : Countdown :=
  us.foldl (fun cd u => u.apply cd) cd

theorem applyAll_append (us vs : List Update) :
    applyAll (us ++ vs) cd = applyAll vs (applyAll us cd) := List.foldl_append

theorem applyAll_unarmed {us : List Update} (h : ∀ u ∈ us, u.arm = none) :
    (applyAll us cd).flag d = cd.flag d ∧ (applyAll us cd).mode d = cd.mode d ∧
      (applyAll us cd).num d = cd.num d := by
  induction us generalizing cd with
  | nil => exact ⟨rfl, rfl, rfl⟩
  | cons u us ih =>
    obtain ⟨hf, hm, hn⟩ := ih (u.apply cd) (fun v hv => h v (List.mem_cons_of_mem u hv))
    obtain ⟨hf', hm', hn'⟩ := u.apply_unarmed cd d (h u List.mem_cons_self)
    exact ⟨hf.trans hf', hm.trans hm', hn.trans hn'⟩

theorem applyAll_colour (us : List Update) :
    ((applyAll us cd).flag d = 1 ∧ (applyAll us cd).mode d = 1) ∨
    ((applyAll us cd).flag d = cd.flag d ∧ (applyAll us cd).mode d = cd.mode d ∧
      (applyAll us cd).num d = cd.num d) := by
  induction us generalizing cd with
  | nil => exact .inr ⟨rfl, rfl, rfl⟩
  | cons u us ih =>
    rcases ih (u.apply cd) with h | ⟨hf, hm, hn⟩
    · exact .inl h
    · rcases u.apply_colour cd d with ⟨hf', hm'⟩ | ⟨hf', hm', hn'⟩
      · exact .inl ⟨hf.trans hf', hm.trans hm'⟩
      · exact .inr ⟨hf.trans hf', hm.trans hm', hn.trans hn'⟩

@[simp] theorem applyAll_curNum (us : List Update) : (applyAll us cd).curNum = cd.curNum := by
  induction us generalizing cd with
  | nil => rfl
  | cons u us ih => exact (ih (u.apply cd)).trans (u.apply_curNum cd)

@[simp] theorem applyAll_sync (us : List Update) : (applyAll us cd).sync = cd.sync := by
  induction us generalizing cd with
  | nil => rfl
  | cons u us ih => exact (ih (u.apply cd)).trans (u.apply_sync cd)

end Update

end CountdownOutside
