import CountdownOutside.Display

namespace CountdownOutside
set_option autoImplicit true

namespace Countdown

def setFlag (cd : Countdown) (c : Colour) (k : UInt8) : Countdown :=
  match c with
  | .red => { cd with flagR := k }
  | .green => { cd with flagG := k }
  | .yellow => { cd with flagY := k }

def setMode (cd : Countdown) (c : Colour) (k : UInt8) : Countdown :=
  match c with
  | .red => { cd with modeR := k }
  | .green => { cd with modeG := k }
  | .yellow => { cd with modeY := k }

def setNum (cd : Countdown) (c : Colour) (v : UInt16) : Countdown :=
  match c with
  | .red => { cd with curNumR := v }
  | .green => { cd with curNumG := v }
  | .yellow => { cd with curNumY := v }

variable (cd : Countdown) (c d : Colour) (k : UInt8) (v : UInt16)

@[simp] theorem setFlag_flag : (cd.setFlag c k).flag d = if d = c then k else cd.flag d := by
  cases c <;> cases d <;> rfl

@[simp] theorem setFlag_mode : (cd.setFlag c k).mode d = cd.mode d := by
  cases c <;> cases d <;> rfl

@[simp] theorem setMode_flag : (cd.setMode c k).flag d = cd.flag d := by
  cases c <;> cases d <;> rfl

@[simp] theorem setMode_mode : (cd.setMode c k).mode d = if d = c then k else cd.mode d := by
  cases c <;> cases d <;> rfl

@[simp] theorem setNum_flag : (cd.setNum c v).flag d = cd.flag d := by
  cases c <;> cases d <;> rfl

@[simp] theorem setNum_mode : (cd.setNum c v).mode d = cd.mode d := by
  cases c <;> cases d <;> rfl

end Countdown

inductive Store
  | tmp (v : UInt16)
  | num (c : Colour) (v : UInt16)
  | flag (c : Colour)
  | mode (c : Colour)
  | curMode (k : UInt8)
  | test (k : UInt8)
  | blind (k : UInt8)
  | type (k : UInt8)
  deriving DecidableEq, Repr

def Store.apply (cd : Countdown) : Store → Countdown
  | .tmp v => { cd with curTmp := v }
  | .num c v => cd.setNum c v
  | .flag c => cd.setFlag c 1
  | .mode c => cd.setMode c 1
  | .curMode k => { cd with curMode := k }
  | .test k => { cd with test := k }
  | .blind k => { cd with blind := k }
  | .type k => { cd with type := k }

theorem Store.apply_flag (x : Store) (cd : Countdown) (d : Colour) :
    (x.apply cd).flag d = if x = .flag d then 1 else cd.flag d := by
  cases x with
  | num c v => exact (cd.setNum_flag c d v).trans (if_neg nofun).symm
  | flag c =>
    refine (cd.setFlag_flag c d 1).trans (if_congr ?_ rfl rfl)
    rw [Store.flag.injEq, eq_comm]
  | mode c => exact (cd.setMode_flag c d 1).trans (if_neg nofun).symm
  | _ => cases d <;> rfl

theorem Store.apply_mode (x : Store) (cd : Countdown) (d : Colour) :
    (x.apply cd).mode d = if x = .mode d then 1 else cd.mode d := by
  cases x with
  | num c v => exact (cd.setNum_mode c d v).trans (if_neg nofun).symm
  | mode c =>
    refine (cd.setMode_mode c d 1).trans (if_congr ?_ rfl rfl)
    rw [Store.mode.injEq, eq_comm]
  | flag c => exact (cd.setFlag_mode c d 1).trans (if_neg nofun).symm
  | _ => cases d <;> rfl

theorem Store.apply_curNum (x : Store) (cd : Countdown) : (x.apply cd).curNum = cd.curNum := by
  cases x with
  | num c _ => cases c <;> rfl
  | flag c => cases c <;> rfl
  | mode c => cases c <;> rfl
  | _ => rfl

inductive Arming
  | num
  | flag
  | mode
  deriving DecidableEq, Repr

def Arming.store (c : Colour) (v : UInt16) : Arming → Store
  | .num => .num c v
  | .flag => .flag c
  | .mode => .mode c

/-- The orders of the three stores in `parse`, `gat_2004_parse` and `gat_2014_parse`. -/
def geLinWeiOrder : List Arming := [.num, .flag, .mode]

def gat2004Order : List Arming := [.flag, .mode, .num]

def gat2014Order : List Arming := [.num, .mode, .flag]

def Update.stores (order : List Arming) (u : Update) : List Store :=
  u.tmp.toList.map .tmp ++ (u.arm.toList.flatMap fun p => order.map (Arming.store p.1 p.2)) ++
    u.curMode.toList.map .curMode ++ u.test.toList.map .test ++ u.blind.toList.map .blind ++
      u.type.toList.map .type

theorem order_cases {order : List Arming} (h : order.Perm [.num, .flag, .mode]) :
    order ∈ [[Arming.num, .flag, .mode], [.num, .mode, .flag], [.flag, .num, .mode],
      [.flag, .mode, .num], [.mode, .num, .flag], [.mode, .flag, .num]] := by
  obtain ⟨a, b, c, rfl⟩ := List.length_eq_three.1 h.length_eq
  revert h
  cases a <;> cases b <;> cases c <;> decide

theorem stores_arm {order : List Arming} (h : order.Perm [.num, .flag, .mode]) (c : Colour)
    (v : UInt16) (cd : Countdown) :
    (order.map (Arming.store c v)).foldl Store.apply cd = cd.arm c v := by
  have hmem := order_cases h
  simp only [List.mem_cons, List.not_mem_nil, or_false] at hmem
  rcases hmem with rfl | rfl | rfl | rfl | rfl | rfl <;> cases c <;> rfl

theorem stores_apply {order : List Arming} (h : order.Perm [.num, .flag, .mode]) (u : Update)
    (cd : Countdown) : (u.stores order).foldl Store.apply cd = u.apply cd := by
  obtain ⟨tmp, arm, curMode, type, blind, test⟩ := u
  simp only [Update.stores, List.foldl_append, Update.apply, Update.armed]
  cases arm with
  | none => cases tmp <;> cases curMode <;> cases test <;> cases blind <;> cases type <;> rfl
  | some p =>
    obtain ⟨c, v⟩ := p
    simp only [Option.toList_some, List.flatMap_singleton, stores_arm h]
    cases c <;> cases tmp <;> cases curMode <;> cases test <;> cases blind <;> cases type <;> rfl

/-- Where the display thread is inside a call, in front of which statement. -/
inductive Place
  /-- `if(countdown.mode_x ==1)` -/
  | test (c : Colour)
  /-- `countdown_type = countdown.type` -/
  | type (c : Colour)
  /-- `if(countdown.flag_x)` -/
  | flag (c : Colour)
  /-- The stores of `0` in the modes of the other two colours. -/
  | first (c : Colour)
  | second (c : Colour)
  /-- `countdown.sync = 0` -/
  | sync (c : Colour)
  /-- `countdown.cur_num=countdown.cur_num_x` -/
  | num (c : Colour)
  /-- `countdown.flag_x = 0` -/
  | lower (c : Colour)
  /-- `if(countdown.cur_num<=199)` -/
  | fits (c : Colour)
  /-- The call of `Set_LED_Display`. -/
  | show (c : Colour)
  deriving DecidableEq, Repr

/-- The other two colours, in the order in which a load stores in their modes. -/
def Colour.others : Colour → Colour × Colour
  | .red => (.green, .yellow)
  | .green => (.red, .yellow)
  | .yellow => (.red, .green)

/-- The system with a display thread that can be preempted in front of each statement, and what the
parser that is under way has still to store. Outside a colour's branch `sys.pc` says where the
thread is. -/
structure Fine where
  sys : Sys
  place : Option Place
  pending : List Store
  deriving DecidableEq, Repr

namespace Fine

def powerUp : Fine := ⟨.powerUp, none, []⟩

def goTo (s : Fine) (p : Place) : Fine := { s with place := some p }

def write (s : Fine) (cd : Countdown) : Fine := { s with sys := { s.sys with countdown := cd } }

def finish (s : Fine) (d : List PanelOp × Pc) : Fine :=
  { s with sys := { s.sys with pc := d.2, panel := s.sys.panel.run d.1 }, place := none }

def branch (config : Config) (lamps : Lamps) : Option Colour :=
  if config.motorOrPeople = 1 then
    [Colour.red, .green, .yellow].find? fun c =>
      lightChanged config lamps = c.light ∧ Heeds config c
  else none

def statement (s : Fine) : Place → Fine
  | .test c =>
    if s.sys.countdown.mode c = 1 then s.goTo (if c = Colour.yellow then .flag c else .type c)
    else if c = Colour.yellow then s.finish ([], .entry) else s.finish clearDisplay
  | .type c => { s with sys := { s.sys with countdownType := s.sys.countdown.type } }.goTo
      (if c = Colour.yellow then .test c else .flag c)
  | .flag c => if s.sys.countdown.flag c ≠ 0 then s.finish ([.clear], .load c) else s.goTo (.fits c)
  | .first c => (s.write (s.sys.countdown.setMode c.others.1 0)).goTo (.second c)
  | .second c => (s.write (s.sys.countdown.setMode c.others.2 0)).goTo (.sync c)
  | .sync c => (s.write { s.sys.countdown with sync := 0 }).goTo (.num c)
  | .num c => (s.write { s.sys.countdown with curNum := s.sys.countdown.num c }).goTo (.lower c)
  | .lower c => (s.write (s.sys.countdown.setFlag c 0)).goTo (.fits c)
  | .fits c => if s.sys.countdown.curNum ≤ 199 then s.goTo (.show c) else s.finish clearDisplay
  | .show c =>
    s.finish (setLedDisplay s.sys.countdown.curNum c.code s.sys.countdown.blind)

/-- The display thread up to the next place at which it can be preempted. A parser that was preempted
is done before the delay of a load is over. -/
def display (config : Config) (s : Fine) : Option Fine :=
  match s.place with
  | some p => some (s.statement p)
  | none =>
    match s.sys.pc with
    | .load c => if s.pending = [] then some (s.goTo (.first c)) else none
    | .entry =>
      match branch config s.sys.lamps with
      | some c => some ({ s with sys := { s.sys with lightFlg := c.light } }.goTo
          (if c = Colour.yellow then .type c else .test c))
      | none => some { s with sys := CountdownOutside.display config s.sys }
    | _ => some { s with sys := CountdownOutside.display config s.sys }

end Fine

inductive FineEvent
  /-- A parser has accepted what it stores. -/
  | accept (u : Update)
  | store
  /-- A timer, a lamp, or the learner, which the display thread cannot preempt. -/
  | other (e : Event)
  | display
  deriving DecidableEq, Repr

def Event.isOther : Event → Bool
  | .geLinWei _ _ | .gat2014 _ _ | .gat2004 _ _ | .display => false
  | _ => true

def Fine.step (config : Config) (order : List Arming) (s : Fine) : FineEvent → Option Fine
  | .accept u => if s.pending = [] then some { s with pending := u.stores order } else none
  | .store =>
    match s.pending with
    | [] => none
    | x :: pending => some { s.write (x.apply s.sys.countdown) with pending }
  | .other e =>
    if e.isOther then (CountdownOutside.step config s.sys e).map fun sys => { s with sys } else none
  | .display => s.display config

namespace Fine

inductive Steps (config : Config) : Fine → Fine → Prop
  | last (h : s.display config = some t) : Steps config s t
  | head (h : s.display config = some m) (hs : Steps config m t) : Steps config s t

variable {config : Config} {order : List Arming} {s t u m : Fine} {c d : Colour}

theorem display_place {p : Place} (h : s.place = some p) :
    s.display config = some (s.statement p) := by
  rw [display, h]

theorem Steps.statement {p : Place} (h : s.place = some p)
    (hs : Steps config (s.statement p) t) : Steps config s t := .head (display_place h) hs

theorem Steps.done {p : Place} (h : s.place = some p) (ht : s.statement p = t) :
    Steps config s t := .last ((display_place h).trans (congrArg some ht))

theorem branch_eq_some (h : branch config lamps = some c) : config.motorOrPeople = 1 ∧
    lightChanged config lamps = c.light ∧ Heeds config c := by
  rw [branch] at h
  split at h
  · rename_i hm
    have hc := List.find?_some h
    rw [decide_eq_true_iff] at hc
    exact ⟨hm, hc⟩
  · cases h

def drawn (s : Fine) (r : Sys × List PanelOp) : Fine :=
  ⟨{ r.1 with panel := s.sys.panel.run r.2 }, none, s.pending⟩

theorem steps_fits (h : s.place = some (.fits c)) :
    Steps config s (s.drawn (s.sys.showNumber c)) := by
  rw [Sys.showNumber]
  split
  · rename_i hle
    have hfits : s.statement (.fits c) = s.goTo (.show c) := if_pos hle
    refine .statement h ?_
    rw [hfits]
    exact .done rfl rfl
  · rename_i hle
    exact .done h (if_neg hle)

theorem load_stores (cd : Countdown) (c : Colour) :
    ({ ({ (cd.setMode c.others.1 0).setMode c.others.2 0 with sync := 0 } : Countdown) with
      curNum := ({ (cd.setMode c.others.1 0).setMode c.others.2 0 with sync := 0 } : Countdown).num
        c } : Countdown).setFlag c 0 = cd.load c := by
  cases c <;> rfl

theorem steps_first (h : s.place = some (.first c)) : Steps config s
    (s.drawn (({ s.sys with countdown := s.sys.countdown.load c } : Sys).showNumber c)) := by
  rw [← load_stores]
  exact .statement h (.statement rfl (.statement rfl (.statement rfl (.statement rfl
    (steps_fits rfl)))))

theorem steps_flag (h : s.place = some (.flag c)) :
    Steps config s (s.drawn (s.sys.showColour c)) := by
  rw [Sys.showColour]
  split
  · rename_i hf
    exact .done h (if_pos hf)
  · rename_i hf
    have hflag : s.statement (.flag c) = s.goTo (.fits c) := if_neg hf
    refine .statement h ?_
    rw [hflag]
    exact steps_fits rfl

def typed (s : Fine) : Fine :=
  { s with sys := { s.sys with countdownType := s.sys.countdown.type } }

theorem statement_type (s : Fine) (c : Colour) : s.statement (.type c) =
    s.typed.goTo (if c = Colour.yellow then .test c else .flag c) := rfl

theorem statement_test (h : s.sys.countdown.mode c = 1) : s.statement (.test c) =
    s.goTo (if c = Colour.yellow then .flag c else .type c) := if_pos h

theorem statement_test_none (h : s.sys.countdown.mode c ≠ 1) : s.statement (.test c) =
    if c = Colour.yellow then s.finish ([], .entry) else s.finish clearDisplay := if_neg h

theorem steps_branch (h : s.place = some (if c = Colour.yellow then .type c else .test c)) :
    Steps config s (s.drawn (if s.sys.countdown.mode c = 1 then s.typed.sys.showColour c
      else if c = .yellow then s.typed.sys.draw ([], .entry)
      else s.sys.draw clearDisplay)) := by
  by_cases hc : c = .yellow
  · rw [if_pos hc] at h ⊢
    refine .statement h ?_
    rw [statement_type, if_pos hc]
    split
    · rename_i hmode
      have htested : (s.typed.goTo (.test c)).sys.countdown.mode c = 1 := hmode
      refine .statement rfl ?_
      rw [statement_test htested, if_pos hc]
      exact steps_flag rfl
    · rename_i hmode
      have htested : (s.typed.goTo (.test c)).sys.countdown.mode c ≠ 1 := hmode
      refine .done rfl ?_
      rw [statement_test_none htested, if_pos hc]
      rfl
  · rw [if_neg hc] at h ⊢
    split
    · rename_i hmode
      refine .statement h ?_
      rw [statement_test hmode, if_neg hc]
      refine .statement rfl ?_
      rw [statement_type, if_neg hc]
      exact steps_flag rfl
    · rename_i hmode
      refine .done h ?_
      rw [statement_test_none hmode, if_neg hc]
      rfl

/-- A display thread that is not preempted does between two delays what the coarser account has as
one step. -/
theorem steps_display (config : Config) (h : s.place = none) (hp : s.pending = []) :
    Steps config s { s with sys := CountdownOutside.display config s.sys } := by
  have hdrawn : ({ s with sys := CountdownOutside.display config s.sys } : Fine) =
      s.drawn (displayStep config s.sys) := by
    rw [drawn, ← h]
    rfl
  cases hpc : s.sys.pc with
  | load c =>
    refine .head (m := s.goTo (.first c)) ?_ ?_
    · rw [display, h]
      dsimp only
      rw [hpc]
      exact if_pos hp
    · rw [hdrawn, displayStep_load config hpc]
      exact steps_first rfl
  | entry =>
    cases hb : branch config s.sys.lamps with
    | none =>
      refine .last ?_
      rw [display, h]
      dsimp only
      rw [hpc]
      dsimp only
      rw [hb]
    | some c =>
      obtain ⟨hm, hl, hh⟩ := branch_eq_some hb
      refine .head (m := ({ s with sys := { s.sys with lightFlg := c.light } } : Fine).goTo
        (if c = Colour.yellow then .type c else .test c)) ?_ ?_
      · rw [display, h]
        dsimp only
        rw [hpc]
        dsimp only
        rw [hb]
      · rw [hdrawn, displayStep_entry config hpc, rtHwCountdown_motor hm hl, if_pos hh]
        exact steps_branch rfl
  | _ =>
    refine .last ?_
    rw [display, h]
    dsimp only
    rw [hpc]

theorem Steps.run (h : Steps config s t) (order : List Arming) :
    ∃ n, CountdownOutside.run (Fine.step config order) s (List.replicate (n + 1) .display) =
      some t := by
  induction h with
  | last h => exact ⟨0, run_singleton.trans h⟩
  | head h _ ih =>
    obtain ⟨n, hn⟩ := ih
    exact ⟨n + 1, run_cons_eq_some.2 ⟨_, h, hn⟩⟩

theorem run_stores (config : Config) (order : List Arming) (pending : List Store) (s : Fine)
    (h : s.pending = pending) :
    run (Fine.step config order) s (List.replicate pending.length .store) =
      some { s.write (pending.foldl Store.apply s.sys.countdown) with pending := [] } := by
  induction pending generalizing s with
  | nil =>
    obtain ⟨sys, place, _⟩ := s
    cases h
    rfl
  | cons x pending ih =>
    refine run_cons_eq_some.2 ⟨{ s.write (x.apply s.sys.countdown) with pending }, ?_, ?_⟩
    · rw [Fine.step, h]
    · exact ih _ rfl

/-- A parser that is not preempted stores what the coarser account has it store at once. -/
theorem run_accept (config : Config) (horder : order.Perm [.num, .flag, .mode]) (s : Sys)
    (u : Update) : run (Fine.step config order) ⟨s, none, []⟩
      (.accept u :: List.replicate (u.stores order).length .store) =
        some ⟨{ s with countdown := u.apply s.countdown }, none, []⟩ := by
  refine run_cons_eq_some.2 ⟨⟨s, none, u.stores order⟩, by rw [Fine.step, if_pos rfl], ?_⟩
  rw [run_stores config order _ _ rfl]
  simp only [write, stores_apply horder]

/-- What a parser does that is not preempted: it stores each update before it accepts the next. -/
def accepts (order : List Arming) (us : List Update) : List FineEvent :=
  us.flatMap fun u => .accept u :: List.replicate (u.stores order).length .store

theorem run_accepts (config : Config) (horder : order.Perm [.num, .flag, .mode]) (s : Sys)
    (us : List Update) : run (Fine.step config order) ⟨s, none, []⟩ (accepts order us) =
      some ⟨{ s with countdown := Update.applyAll us s.countdown }, none, []⟩ := by
  induction us generalizing s with
  | nil => rfl
  | cons u us ih =>
    rw [accepts, List.flatMap_cons]
    exact run_append_eq_some.2 ⟨_, run_accept config horder s u, ih _⟩

/-- What a parser does in the coarser account. -/
theorem step_reception {a b : Sys} {e : Event} (hz : a.info = .zero) (he : ¬ e.isOther)
    (hd : e ≠ .display) (h : CountdownOutside.step config a e = some b) :
    b = { a with countdown := Update.applyAll (writes config a e) a.countdown } := by
  cases e with
  | geLinWei rxBuffer n =>
    obtain ⟨p, hp, rfl⟩ := toOption_map_eq_some h
    rw [hz] at hp
    rw [geLinWeiParse_enabled hp, writes, ← hz]
  | gat2014 rxBuffer n =>
    obtain ⟨p, hp, rfl⟩ := toOption_map_eq_some h
    rw [Gat2014.parse_eq_write] at hp
    rw [write_enabled hp, writes]
  | gat2004 rxBuffer n =>
    obtain ⟨p, hp, rfl⟩ := toOption_map_eq_some h
    rw [Gat2004.parse_eq_write] at hp
    rw [write_enabled hp, writes]
  | display => exact absurd rfl hd
  | _ => exact absurd rfl he

/-- The statements that stand for one step of the coarser account: those of the display thread up to
its next delay, those of a parser up to its end, or the event itself. -/
inductive Turn (config : Config) (order : List Arming) (a : Sys) : Event → List FineEvent → Prop
  | other (he : e.isOther) : Turn config order a e [.other e]
  | display (n : Nat) : Turn config order a .display (List.replicate (n + 1) .display)
  | reception (he : ¬ e.isOther) (hd : e ≠ .display) :
      Turn config order a e (accepts order (writes config a e))

/-- A run of the coarser account and one of statements, turn by turn: the two are in the same state
after each of them. -/
inductive Turns (config : Config) (order : List Arming) : Sys → List Event → List FineEvent →
    Sys → Prop
  | nil : Turns config order a [] [] a
  | cons (hcoarse : CountdownOutside.step config a e = some a') (hturn : Turn config order a e gs)
      (hfine : CountdownOutside.run (Fine.step config order) ⟨a, none, []⟩ gs =
        some ⟨a', none, []⟩)
      (hturns : Turns config order a' es fs b) : Turns config order a (e :: es) (gs ++ fs) b

theorem Turns.run {a b : Sys} (h : Turns config order a es fs b) :
    CountdownOutside.run (Fine.step config order) ⟨a, none, []⟩ fs = some ⟨b, none, []⟩ := by
  induction h with
  | nil => rfl
  | cons _ _ hfine _ ih => exact run_append_eq_some.2 ⟨_, hfine, ih⟩

theorem turn_exists {a b : Sys} {e : Event} (horder : order.Perm [.num, .flag, .mode])
    (hz : a.info = .zero) (h : CountdownOutside.step config a e = some b) :
    ∃ fs, Turn config order a e fs ∧
      run (Fine.step config order) ⟨a, none, []⟩ fs = some ⟨b, none, []⟩ := by
  by_cases he : e.isOther
  · refine ⟨_, .other he, ?_⟩
    rw [run_singleton, Fine.step, if_pos he, h]
    rfl
  · by_cases hd : e = .display
    · cases hd
      cases h
      obtain ⟨n, hn⟩ := (steps_display (s := ⟨a, none, []⟩) config rfl rfl).run order
      exact ⟨_, .display n, hn⟩
    · rw [step_reception hz he hd h]
      exact ⟨_, .reception he hd, run_accepts config horder a _⟩

theorem turns_exist {a b : Sys} (horder : order.Perm [.num, .flag, .mode]) (hs : Sound config a)
    (h : run (CountdownOutside.step config) a es = some b) :
    ∃ fs, Turns config order a es fs b := by
  induction es generalizing a with
  | nil =>
    cases h
    exact ⟨[], .nil⟩
  | cons e es ih =>
    obtain ⟨a', ha, h⟩ := run_cons_eq_some.1 h
    obtain ⟨gs, hturn, hfine⟩ := turn_exists horder hs.clean ha
    obtain ⟨fs, hfs⟩ := ih (hs.step ha) h
    exact ⟨gs ++ fs, .cons ha hturn hfine hfs⟩

/-- Every run of the system in which each thread's turn is one step is a run of the one in which its
statements are, turn by turn, whatever the order in which the parsers store. -/
theorem coarse_run_preempted (horder : order.Perm [.num, .flag, .mode])
    (h : run (CountdownOutside.step config) .powerUp es = some b) :
    ∃ fs, Turns config order .powerUp es fs b ∧
      run (Fine.step config order) powerUp fs = some ⟨b, none, []⟩ := by
  obtain ⟨fs, hfs⟩ := turns_exist horder sound_powerUp h
  exact ⟨fs, hfs, hfs.run⟩

theorem coarse_run_preempted_green : ∃ b fs, b.countdown.flagG = 1 ∧ Turns vehicleDial gat2014Order
    .powerUp [.display, .gat2004 (.ofList 512 [0xfe, 0x05, 0x00, 0x12, 0x17]) 5, .display] fs b ∧
      run (Fine.step vehicleDial gat2014Order) powerUp fs = some ⟨b, none, []⟩ := by
  have hrun : (run (CountdownOutside.step vehicleDial) .powerUp
      [.display, .gat2004 (.ofList 512 [0xfe, 0x05, 0x00, 0x12, 0x17]) 5, .display]).isSome := by
    decide +kernel
  have hgreen : (Option.get _ hrun).countdown.flagG = 1 := by decide +kernel +revert
  have horder : gat2014Order.Perm [.num, .flag, .mode] := by decide
  obtain ⟨fs, hfs⟩ := coarse_run_preempted horder (Option.some_get hrun).symm
  exact ⟨_, fs, hgreen, hfs⟩

end Fine

end CountdownOutside
