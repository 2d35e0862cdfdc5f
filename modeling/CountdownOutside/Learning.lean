import CountdownOutside.Run
import CountdownOutside.Study

namespace CountdownOutside
set_option autoImplicit true

inductive Learner
  | motor
  | people
  deriving DecidableEq, Repr

/-- What someone who watches the lamps with a stopwatch knows: the colour of the current phase, the
ticks since it began, and the ticks of the completed phases of each colour, the latest first. -/
structure Stopwatch where
  current : Option Colour
  ticks : Nat
  completed : Colour → List Nat

structure Lesson where
  study : Study
  countdown : Countdown
  watch : Stopwatch

inductive LearnEvent
  /-- A step of the learner with what it reads from the lamps. -/
  | step (lamps : Lamps)
  | timerOut
  deriving DecidableEq, Repr

namespace Learner

def mOrP : Learner → UInt8
  | .motor => 1
  | .people => 0

def stduy : Learner → Lamps → Study → Countdown → Study × Countdown
  | .motor => rtHwMotorStduy
  | .people => rtHwPeopleStduy

def write : Learner → Lamps → Study → Update
  | .motor => motorWrite
  | .people => peopleWrite

def sees : Learner → Lamps → Option Colour
  | .motor, lamps =>
    if lamps.aheadR ∧ ¬ lamps.aheadG ∧ ¬ lamps.aheadY then some .red
    else if ¬ lamps.aheadR ∧ lamps.aheadG ∧ ¬ lamps.aheadY then some .green
    else if ¬ lamps.aheadR ∧ ¬ lamps.aheadG ∧ lamps.aheadY then some .yellow
    else none
  | .people, lamps =>
    if lamps.leftR ∧ ¬ lamps.leftG then some .red
    else if ¬ lamps.leftR ∧ lamps.leftG then some .green
    else none

def before : Learner → Colour → Colour
  | .motor, .red => .yellow
  | .motor, .green => .red
  | .motor, .yellow => .green
  | .people, .red => .green
  | .people, .green => .red
  | .people, .yellow => .green

def phase : Learner → Study → Colour → Phase
  | .motor, study, .red => study.red
  | .motor, study, .green => study.green
  | .motor, study, .yellow => study.yellow
  | .people, study, .red => study.peopleRed
  | .people, study, .green => study.peopleGreen
  | .people, _, .yellow => .zero

end Learner

/-- A colour that is seen out of the documented order is none that the stopwatch can follow. -/
def Stopwatch.see (l : Learner) (w : Stopwatch) : Option Colour → Option Stopwatch
  | none => some w
  | some c =>
    if w.current = some c then some w
    else if w.current = none then some { w with current := some c, ticks := 0 }
    else if w.current = some (l.before c) then
      some {
        current := some c
        ticks := 0
        completed := fun d => if d = l.before c then w.ticks :: w.completed d else w.completed d }
    else none

def Lesson.start (l : Learner) (countdown : Countdown) : Lesson where
  study := { Study.zero with mOrP := l.mOrP }
  countdown := countdown
  watch := ⟨none, 0, fun _ => []⟩

def Lesson.step (l : Learner) (s : Lesson) : LearnEvent → Option Lesson
  | .step lamps => (s.watch.see l (l.sees lamps)).map fun watch =>
    { study := (l.stduy lamps s.study s.countdown).1
      countdown := (l.stduy lamps s.study s.countdown).2
      watch }
  | .timerOut => some { s with
      study := timerOut s.study
      watch := { s.watch with ticks := s.watch.ticks + 1 } }

/-- What a phase of so many ticks measures: the counter has 16 bits and a duration 8. -/
def measure (ticks : Nat) : UInt8 := UInt8.ofNat ((ticks % 65536 + 1) / 10)

/-- The history of a colour: its measured durations, and before them what the array began with. -/
def history (completed : List Nat) : List UInt8 := completed.map measure ++ [2, 0]

variable {l : Learner} {s t : Lesson} {c d : Colour} {e : LearnEvent} {es : List LearnEvent}

namespace Phase

/-- What the learner keeps of a colour is what the stopwatch has seen of it: the history, and the
ticks of its phase if that is the current one. -/
def Knows (p : Phase) (completed : List Nat) (running : Option Nat) : Prop :=
  p.time0 = (history completed).getD 0 0 ∧ p.time1 = (history completed).getD 1 0 ∧
    match running with
    | some ticks => p.flag ≠ 0 ∧ p.counter = UInt16.ofNat ticks ∧ (p.t = 0 → p.time1 ≠ p.time0)
    | none => p.flag = 0 ∧ p.counter = 0 ∧ p.t = 0

variable {p : Phase} {ms : List Nat} {n : Nat}

theorem Knows.finish (h : p.Knows ms (some n)) : p.finish.Knows (n :: ms) none := by
  obtain ⟨h0, _, hf, hc, _⟩ := h
  have hm : UInt8.ofNat ((p.counter.toNat + 1) / 10) = measure n := by
    rw [hc, UInt16.toNat_ofNat', measure]
  rw [Phase.finish, if_pos hf]
  exact ⟨hm, h0, rfl, rfl, rfl⟩

theorem Knows.finish_idle (h : p.Knows ms none) : p.finish = p := by
  obtain ⟨_, _, hf, hc, ht⟩ := h
  obtain ⟨flag, counter, time0, time1, t⟩ := p
  cases hf
  cases hc
  cases ht
  rfl

theorem start_phase (p : Phase) (c : Colour) (cd : Countdown) :
    (p.start c cd).1.time0 = p.time0 ∧ (p.start c cd).1.time1 = p.time1 ∧
      (p.start c cd).1.flag ≠ 0 ∧ (p.start c cd).1.counter = p.counter ∧
      ((p.start c cd).1.t = 0 → (p.start c cd).1.time1 ≠ (p.start c cd).1.time0) := by
  have hone : (1 : UInt8) ≠ 0 := by decide
  rw [Phase.start]
  dsimp only
  split
  · exact ⟨rfl, rfl, hone, rfl, fun ht => absurd ht hone⟩
  · rename_i hnew
    split
    · rename_i hne
      exact ⟨rfl, rfl, hone, rfl, fun _ => hne⟩
    · exact ⟨rfl, rfl, hone, rfl, fun ht he => hnew ⟨he, ht⟩⟩

theorem Knows.start (h : p.Knows ms none) (c : Colour) (cd : Countdown) :
    (p.start c cd).1.Knows ms (some 0) := by
  obtain ⟨h0, h1, _, hc, _⟩ := h
  obtain ⟨ht0, ht1, hf, hcounter, ht⟩ := start_phase p c cd
  exact ⟨ht0.trans h0, ht1.trans h1, hf, hcounter.trans hc, ht⟩

theorem Knows.again (h : p.Knows ms (some n)) (c : Colour) (cd : Countdown) :
    (p.start c cd).1.Knows ms (some n) := by
  obtain ⟨h0, h1, _, hc, _⟩ := h
  obtain ⟨ht0, ht1, hf, hcounter, ht⟩ := start_phase p c cd
  exact ⟨ht0.trans h0, ht1.trans h1, hf, hcounter.trans hc, ht⟩

theorem Knows.count (h : p.Knows ms (some n)) : p.count.Knows ms (some (n + 1)) := by
  obtain ⟨h0, h1, hf, hc, ht⟩ := h
  refine ⟨h0, h1, hf, ?_, ht⟩
  rw [Phase.count, hc, UInt16.ofNat_add]
  rfl

theorem Knows.arms (h : p.Knows ms none) (c : Colour) :
    (p.write c).arm = if (history ms).getD 1 0 = (history ms).getD 0 0 then
      some (c, ((history ms).getD 0 0).toUInt16) else none := by
  obtain ⟨h0, h1, _, _, ht⟩ := h
  rw [Phase.write, h0, h1]
  split
  · rename_i he
    rw [if_pos he.1]
  · rename_i he
    rw [if_neg (fun heq => he ⟨heq, ht⟩)]
    split <;> rfl

theorem Knows.arms_once (h : p.Knows ms (some n)) (c : Colour) : (p.write c).arm = none := by
  obtain ⟨_, _, _, _, ht⟩ := h
  rw [Phase.write, if_neg (fun he => ht he.2 he.1)]
  split <;> rfl

end Phase

namespace Learner

theorem before_ne (l : Learner) (c : Colour) : l.before c ≠ c := by
  cases l <;> cases c <;> intro h <;> cases h

theorem stduy_countdown (l : Learner) (lamps : Lamps) (study : Study) (cd : Countdown) :
    (l.stduy lamps study cd).2 = (l.write lamps study).apply cd := by
  cases l with
  | motor => exact motorStduy_countdown lamps study cd
  | people => exact peopleStduy_countdown lamps study cd

theorem stduy_armed {study : Study} (h : (l.write lamps study).arm = some (c, v))
    (cd : Countdown) : (l.stduy lamps study cd).2.flag c = 1 ∧
      (l.stduy lamps study cd).2.num c = v := by
  rw [stduy_countdown, Update.apply_flag_eq, Update.apply_num_eq, Update.armed, h]
  simp only [Countdown.arm_flag, Countdown.arm_num, ↓reduceIte, and_self]

theorem arm_of_flag {study : Study} {cd : Countdown} (hclear : cd.flag c ≠ 1)
    (hset : (l.stduy lamps study cd).2.flag c = 1) : ∃ v, (l.write lamps study).arm = some (c, v) := by
  rw [stduy_countdown, Update.apply_flag_eq, Update.armed] at hset
  cases ha : (l.write lamps study).arm with
  | none =>
    rw [ha] at hset
    exact absurd hset hclear
  | some p =>
    obtain ⟨d, v⟩ := p
    rw [ha] at hset
    simp only [Countdown.arm_flag] at hset
    split at hset
    · rename_i hd
      exact ⟨v, by rw [hd]⟩
    · exact absurd hset hclear

theorem stduy_sees (h : l.sees lamps = some c) (study : Study) (cd : Countdown) :
    (∀ d, l.phase (l.stduy lamps study cd).1 d =
      if d = c then ((l.phase study c).start c cd).1
      else if d = l.before c then (l.phase study d).finish else l.phase study d) ∧
    (l.stduy lamps study cd).1.mOrP = study.mOrP ∧
      l.write lamps study = (l.phase study c).write c := by
  cases l with
  | motor =>
    rw [sees] at h
    rw [stduy, rtHwMotorStduy, write, motorWrite]
    split at h
    · rename_i hred
      cases h
      rw [if_pos hred, if_pos hred]
      refine ⟨?_, rfl, rfl⟩
      intro d
      cases d <;> rfl
    · rename_i hred
      rw [if_neg hred, if_neg hred]
      split at h
      · rename_i hgreen
        cases h
        rw [if_pos hgreen, if_pos hgreen]
        refine ⟨?_, rfl, rfl⟩
        intro d
        cases d <;> rfl
      · rename_i hgreen
        rw [if_neg hgreen, if_neg hgreen]
        obtain ⟨hyellow, he⟩ := Option.ite_none_right_eq_some.1 h
        cases he
        rw [if_pos hyellow, if_pos hyellow]
        refine ⟨?_, rfl, rfl⟩
        intro d
        cases d <;> rfl
  | people =>
    rw [sees] at h
    rw [stduy, rtHwPeopleStduy, write, peopleWrite]
    split at h
    · rename_i hred
      cases h
      rw [if_pos hred, if_pos hred]
      refine ⟨?_, rfl, rfl⟩
      intro d
      cases d <;> rfl
    · rename_i hred
      rw [if_neg hred, if_neg hred]
      obtain ⟨hgreen, he⟩ := Option.ite_none_right_eq_some.1 h
      cases he
      rw [if_pos hgreen, if_pos hgreen]
      refine ⟨?_, rfl, rfl⟩
      intro d
      cases d <;> rfl

theorem stduy_none (h : l.sees lamps = none) (study : Study) (cd : Countdown) :
    l.stduy lamps study cd = (study, cd) ∧ l.write lamps study = .idle := by
  cases l with
  | motor =>
    rw [sees] at h
    rw [stduy, rtHwMotorStduy, write, motorWrite]
    split at h
    · cases h
    · rename_i hred
      rw [if_neg hred, if_neg hred]
      split at h
      · cases h
      · rename_i hgreen
        rw [if_neg hgreen, if_neg hgreen]
        split at h
        · cases h
        · rename_i hyellow
          rw [if_neg hyellow, if_neg hyellow]
          exact ⟨rfl, rfl⟩
  | people =>
    rw [sees] at h
    rw [stduy, rtHwPeopleStduy, write, peopleWrite]
    split at h
    · cases h
    · rename_i hred
      rw [if_neg hred, if_neg hred]
      split at h
      · cases h
      · rename_i hgreen
        rw [if_neg hgreen, if_neg hgreen]
        exact ⟨rfl, rfl⟩

theorem timerOut_mOrP (study : Study) : (timerOut study).mOrP = study.mOrP := by
  rw [timerOut]
  split_ifs <;> rfl

theorem phase_counted {study study' : Study}
    (hone : ∀ c d, (l.phase study c).flag ≠ 0 → (l.phase study d).flag ≠ 0 → c = d)
    (hc : (l.phase study c).flag ≠ 0) (hself : l.phase study' c = (l.phase study c).count)
    (hrest : ∀ d, d ≠ c → l.phase study' d = l.phase study d) (d : Colour) :
    l.phase study' d =
      if (l.phase study d).flag ≠ 0 then (l.phase study d).count else l.phase study d := by
  by_cases hd : d = c
  · rw [hd, if_pos hc, hself]
  · rw [if_neg (fun hf => hd (hone d c hf hc)), hrest d hd]

theorem timerOut_phase {study : Study} (hm : study.mOrP = l.mOrP)
    (hone : ∀ c d, (l.phase study c).flag ≠ 0 → (l.phase study d).flag ≠ 0 → c = d) (d : Colour) :
    l.phase (timerOut study) d =
      if (l.phase study d).flag ≠ 0 then (l.phase study d).count else l.phase study d := by
  cases l with
  | motor =>
    have h1 : study.mOrP = 1 := hm
    rw [timerOut, if_neg (by rw [h1]; decide), if_pos h1]
    split
    · rename_i hf
      apply phase_counted hone (c := .red) hf rfl
      intro d hd
      cases d <;> first | rfl | exact absurd rfl hd
    · rename_i hr
      split
      · rename_i hf
        apply phase_counted hone (c := .green) hf rfl
        intro d hd
        cases d <;> first | rfl | exact absurd rfl hd
      · rename_i hg
        split
        · rename_i hf
          apply phase_counted hone (c := .yellow) hf rfl
          intro d hd
          cases d <;> first | rfl | exact absurd rfl hd
        · rename_i hy
          cases d with
          | red => exact (if_neg hr).symm
          | green => exact (if_neg hg).symm
          | yellow => exact (if_neg hy).symm
  | people =>
    have h0 : study.mOrP = 0 := hm
    rw [timerOut, if_pos h0]
    split
    · rename_i hf
      apply phase_counted hone (c := .red) hf rfl
      intro d hd
      cases d <;> first | rfl | exact absurd rfl hd
    · rename_i hr
      split
      · rename_i hf
        apply phase_counted hone (c := .green) hf rfl
        intro d hd
        cases d <;> first | rfl | exact absurd rfl hd
      · rename_i hg
        cases d with
        | red => exact (if_neg hr).symm
        | green => exact (if_neg hg).symm
        | yellow => rfl

end Learner

structure Lesson.Knows (l : Learner) (s : Lesson) : Prop where
  mOrP : s.study.mOrP = l.mOrP
  phase : ∀ c, (l.phase s.study c).Knows (s.watch.completed c)
    (if s.watch.current = some c then some s.watch.ticks else none)

namespace Lesson

theorem knows_start (l : Learner) (cd : Countdown) : (start l cd).Knows l where
  mOrP := rfl
  phase := by
    intro c
    cases l <;> cases c <;> exact ⟨rfl, rfl, rfl, rfl, rfl⟩

theorem Knows.timerOut (h : s.Knows l) (hs : s.step l .timerOut = some t) : t.Knows l := by
  cases hs
  have hcurrent (c : Colour) (hf : (l.phase s.study c).flag ≠ 0) : s.watch.current = some c := by
    by_contra hne
    have hk := h.phase c
    rw [if_neg hne] at hk
    exact hf hk.2.2.1
  refine ⟨(Learner.timerOut_mOrP s.study).trans h.mOrP, ?_⟩
  intro c
  have hone (c d : Colour) (hc : (l.phase s.study c).flag ≠ 0)
      (hd : (l.phase s.study d).flag ≠ 0) : c = d :=
    Option.some.inj ((hcurrent c hc).symm.trans (hcurrent d hd))
  have hk := h.phase c
  rw [Learner.timerOut_phase h.mOrP hone]
  by_cases hc : s.watch.current = some c
  · rw [if_pos hc] at hk
    rw [if_pos hk.2.2.1]
    simp only [if_pos hc]
    exact hk.count
  · rw [if_neg hc] at hk
    rw [if_neg (not_not.2 hk.2.2.1)]
    simp only [if_neg hc]
    exact hk

theorem see_cases {w w' : Stopwatch} (h : w.see l (some c) = some w') :
    (w.current = some c ∧ w' = w) ∨
    (w.current = none ∧ w' = { w with current := some c, ticks := 0 }) ∨
    (w.current = some (l.before c) ∧ w' = {
      current := some c
      ticks := 0
      completed := fun d =>
        if d = l.before c then w.ticks :: w.completed d else w.completed d }) := by
  rw [Stopwatch.see] at h
  split at h
  · rename_i hc
    exact .inl ⟨hc, (Option.some.inj h).symm⟩
  · split at h
    · rename_i hn
      exact .inr (.inl ⟨hn, (Option.some.inj h).symm⟩)
    · obtain ⟨hb, he⟩ := Option.ite_none_right_eq_some.1 h
      exact .inr (.inr ⟨hb, (Option.some.inj he).symm⟩)

theorem step_eq_some (h : s.step l (.step lamps) = some t) :
    s.watch.see l (l.sees lamps) = some t.watch ∧
      t.study = (l.stduy lamps s.study s.countdown).1 ∧
      t.countdown = (l.stduy lamps s.study s.countdown).2 := by
  obtain ⟨w, hw, rfl⟩ := Option.map_eq_some_iff.1 h
  exact ⟨hw, rfl, rfl⟩

theorem Knows.sees (h : s.Knows l) (hc : l.sees lamps = some c)
    (hs : s.step l (.step lamps) = some t) : t.Knows l := by
  obtain ⟨hwatch, hstudy, _⟩ := step_eq_some hs
  obtain ⟨hphase, hm, _⟩ := Learner.stduy_sees hc s.study s.countdown
  rw [hc] at hwatch
  refine ⟨by rw [hstudy, hm, h.mOrP], ?_⟩
  intro d
  have hself := h.phase c
  have hother := h.phase d
  rw [hstudy, hphase]
  rcases see_cases hwatch with ⟨hcur, hw⟩ | ⟨hcur, hw⟩ | ⟨hcur, hw⟩
  · -- the phase goes on: the one before it was over already
    rw [hw, hcur]
    rw [hcur] at hself hother
    rw [if_pos rfl] at hself
    by_cases hd : d = c
    · rw [if_pos hd, hd, if_pos rfl]
      exact hself.again c s.countdown
    · have hne : ¬ some c = some d := fun he => hd (Option.some.inj he).symm
      rw [if_neg hne] at hother
      rw [if_neg hd, if_neg hne, hother.finish_idle, ite_self]
      exact hother
  · -- the first phase of all
    rw [hw]
    rw [hcur] at hself hother
    rw [if_neg (by intro he; cases he)] at hself hother
    by_cases hd : d = c
    · rw [if_pos hd, hd]
      simp only [↓reduceIte]
      exact hself.start c s.countdown
    · have hne : ¬ some c = some d := fun he => hd (Option.some.inj he).symm
      rw [if_neg hd, hother.finish_idle, ite_self]
      simp only [if_neg hne]
      exact hother
  · -- a new phase, which ends the one before it
    rw [hw]
    rw [hcur] at hself hother
    have hbefore := l.before_ne c
    rw [if_neg (fun he => hbefore (Option.some.inj he))] at hself
    by_cases hd : d = c
    · rw [if_pos hd, hd]
      simp only [↓reduceIte, if_neg hbefore.symm]
      exact hself.start c s.countdown
    · have hne : ¬ some c = some d := fun he => hd (Option.some.inj he).symm
      rw [if_neg hd]
      by_cases hb : d = l.before c
      · rw [if_pos (by rw [hb])] at hother
        simp only [if_pos hb, if_neg hne]
        exact hother.finish
      · rw [if_neg (fun he => hb (Option.some.inj he).symm)] at hother
        simp only [if_neg hb, if_neg hne]
        exact hother

theorem Knows.step (h : s.Knows l) (hs : s.step l e = some t) : t.Knows l := by
  cases e with
  | timerOut => exact h.timerOut hs
  | step lamps =>
    cases hc : l.sees lamps with
    | some c => exact h.sees hc hs
    | none =>
      obtain ⟨hwatch, hstudy, _⟩ := step_eq_some hs
      rw [hc] at hwatch
      have hw : s.watch = t.watch := Option.some.inj hwatch
      rw [(Learner.stduy_none hc s.study s.countdown).1] at hstudy
      refine ⟨by rw [hstudy, h.mOrP], ?_⟩
      intro c
      rw [hstudy, ← hw]
      exact h.phase c

theorem run_knows (h : run (step l) (start l cd) es = some s) : s.Knows l :=
  run_invariant (fun _ _ _ hk hs => hk.step hs) (knows_start l cd) h

theorem Knows.arms (h : s.Knows l) (lamps : Lamps) : (l.write lamps s.study).arm =
    (l.sees lamps).bind fun c => if s.watch.current ≠ some c ∧
        (history (s.watch.completed c)).getD 1 0 = (history (s.watch.completed c)).getD 0 0 then
      some (c, ((history (s.watch.completed c)).getD 0 0).toUInt16) else none := by
  cases hc : l.sees lamps with
  | none =>
    rw [(Learner.stduy_none hc s.study .zero).2]
    rfl
  | some c =>
    rw [(Learner.stduy_sees hc s.study .zero).2.2, Option.bind_some]
    have hk := h.phase c
    by_cases hcur : s.watch.current = some c
    · rw [if_pos hcur] at hk
      rw [hk.arms_once, if_neg (fun hn => hn.1 hcur)]
    · rw [if_neg hcur] at hk
      rw [hk.arms]
      simp only [ne_eq, hcur, not_false_eq_true, true_and]

/-- A step that sets a colour's flag in a countdown, whatever else that holds, has seen two completed
phases of the colour, and the last two measured the number that it leaves there. -/
def ArmsMeasured (l : Learner) (s : Lesson) (e : LearnEvent) (_ : Lesson) : Prop :=
  ∀ lamps cd c, e = .step lamps → cd.flag c ≠ 1 → (l.stduy lamps s.study cd).2.flag c = 1 →
    ∃ m n ms, s.watch.completed c = m :: n :: ms ∧
      (measure m).toUInt16 = (l.stduy lamps s.study cd).2.num c ∧
      (measure n).toUInt16 = (l.stduy lamps s.study cd).2.num c

/-- No phase of a colour begins when just one of that colour has been completed and it measured two
seconds, as the arrays pretend it of a phase before it. -/
def AvoidsSentinel (l : Learner) (s : Lesson) (e : LearnEvent) (_ : Lesson) : Prop :=
  ∀ lamps c m, e = .step lamps → l.sees lamps = some c → s.watch.current ≠ some c →
    s.watch.completed c = [m] → measure m ≠ 2

theorem Knows.arms_measured_iff (h : s.Knows l) :
    ArmsMeasured l s e t ↔ AvoidsSentinel l s e t := by
  constructor
  · rintro ha lamps c m rfl hc hnew hone hm
    have harm := h.arms lamps
    simp only [hc, Option.bind_some, hone, history, List.map_cons, List.map_nil,
      List.cons_append, List.nil_append, List.getD_cons_succ, List.getD_cons_zero, hm] at harm
    rw [if_pos ⟨hnew, trivial⟩] at harm
    obtain ⟨hflag, _⟩ := Learner.stduy_armed harm .zero
    obtain ⟨m', n, ms, he, _⟩ := ha lamps .zero c rfl (by cases c <;> decide) hflag
    rw [hone] at he
    cases he
  · rintro ha lamps cd c rfl hclear hset
    obtain ⟨v, hv⟩ := Learner.arm_of_flag hclear hset
    rw [(Learner.stduy_armed hv cd).2]
    rw [h.arms lamps] at hv
    obtain ⟨d, hd, hif⟩ := Option.bind_eq_some_iff.1 hv
    obtain ⟨⟨hnew, heq⟩, he⟩ := Option.ite_none_right_eq_some.1 hif
    cases he
    cases hcs : s.watch.completed c with
    | nil =>
      rw [hcs] at heq
      cases heq
    | cons m ms =>
      cases ms with
      | nil =>
        have hne := ha lamps c m rfl hd hnew hcs
        rw [hcs] at heq
        exact absurd heq.symm hne
      | cons n ms =>
        rw [hcs] at heq
        exact ⟨m, n, ms, rfl, rfl, congrArg UInt8.toUInt16 heq⟩

end Lesson

/-- In a run every colour is armed on two measured phases exactly if no phase begins on a single one
of two seconds. -/
theorem learns_from_two_phases_iff (l : Learner) (cd : Countdown) (es : List LearnEvent) :
    EveryStep (Lesson.step l) (.start l cd) es (Lesson.ArmsMeasured l) ↔
      EveryStep (Lesson.step l) (.start l cd) es (Lesson.AvoidsSentinel l) := by
  apply everyStep_iff (P := Lesson.Knows l)
  · intro s e t hk _
    exact hk.arms_measured_iff
  · intro s e t hk hs _
    exact hk.step hs
  · exact Lesson.knows_start l cd

namespace Lamps

def ahead (c : Colour) : Lamps :=
  { dark with aheadR := c = .red, aheadY := c = .yellow, aheadG := c = .green }

end Lamps

/-- A first red phase of 19 ticks, which measures two seconds, arms the second. -/
theorem one_phase_arms :
    (run (Lesson.step .motor) (.start .motor .zero) (.step (.ahead .red) ::
      List.replicate 19 .timerOut ++ [.step (.ahead .green), .step (.ahead .yellow),
        .step (.ahead .red)])).map (fun s => (s.countdown.flagR, s.countdown.curNumR,
          s.watch.completed .red)) = some (1, 2, [19]) := by
  decide +kernel

/-- After two phases of the same length the next arms what they measured. -/
theorem learned_measure (h : run (Lesson.step l) (.start l cd) es = some s)
    (hs : s.step l (.step lamps) = some t) (hc : l.sees lamps = some c)
    (hnew : s.watch.current ≠ some c) (hT : s.watch.completed c = T :: T :: ms) :
    t.countdown.flag c = 1 ∧ t.countdown.mode c = 1 ∧
      t.countdown.num c = (measure T).toUInt16 := by
  have harm := (Lesson.run_knows h).arms lamps
  simp only [hc, Option.bind_some, hT, history, List.map_cons, List.cons_append,
    List.getD_cons_succ, List.getD_cons_zero] at harm
  rw [if_pos ⟨hnew, trivial⟩] at harm
  have hcd : t.countdown = (l.write lamps s.study).apply s.countdown := by
    rw [(Lesson.step_eq_some hs).2.2, l.stduy_countdown]
  rw [hcd, Update.apply_flag_eq, Update.apply_mode_eq, Update.apply_num_eq, Update.armed, harm]
  simp only [Countdown.arm_flag, Countdown.arm_mode, Countdown.arm_num, ↓reduceIte, and_self]

namespace Lesson

theorem step_follows (h : s.watch.see l (l.sees lamps) = some w) :
    ∃ t, s.step l (.step lamps) = some t ∧ t.watch = w := by
  refine ⟨_, Option.map_eq_some_iff.2 ⟨w, h, rfl⟩, rfl⟩

theorem run_timerOut (n : Nat) (s : Lesson) :
    ∃ t, run (step l) s (List.replicate n .timerOut) = some t ∧
      t.watch = { s.watch with ticks := s.watch.ticks + n } := by
  induction n generalizing s with
  | zero => exact ⟨s, rfl, rfl⟩
  | succ n ih =>
    obtain ⟨t, ht, hw⟩ := ih { s with
      study := timerOut s.study, watch := { s.watch with ticks := s.watch.ticks + 1 } }
    refine ⟨t, run_cons_eq_some.2 ⟨_, rfl, ht⟩, ?_⟩
    rw [hw, Nat.add_assoc, Nat.add_comm 1 n]

def redCycle (ticks : Nat) : List LearnEvent :=
  .step (.ahead .red) :: (List.replicate ticks .timerOut ++
    [.step (.ahead .green), .step (.ahead .yellow)])

theorem run_redCycle (n : Nat) (hw : s.watch.current = none ∨ s.watch.current = some .yellow) :
    ∃ t, run (step .motor) s (redCycle n) = some t ∧ t.watch.current = some .yellow ∧
      t.watch.completed .red = n :: s.watch.completed .red := by
  have hred : ∃ w, s.watch.see .motor (Learner.motor.sees (.ahead .red)) = some w ∧
      w.current = some .red ∧ w.ticks = 0 ∧ w.completed .red = s.watch.completed .red := by
    change ∃ w, s.watch.see .motor (some .red) = some w ∧ _
    rw [Stopwatch.see]
    rcases hw with h | h <;> rw [h] <;> exact ⟨_, rfl, rfl, rfl, rfl⟩
  obtain ⟨w₁, hsee₁, hcur₁, hticks₁, hdone₁⟩ := hred
  obtain ⟨s₁, hs₁, hw₁⟩ := step_follows hsee₁
  obtain ⟨s₂, hs₂, hw₂⟩ := run_timerOut (l := .motor) n s₁
  rw [hw₁] at hw₂
  have hsee₂ : s₂.watch.see .motor (Learner.motor.sees (.ahead .green)) = some {
      current := some .green, ticks := 0
      completed := fun d => if d = .red then n :: w₁.completed d else w₁.completed d } := by
    change s₂.watch.see .motor (some .green) = _
    rw [Stopwatch.see, hw₂, hcur₁, hticks₁, Nat.zero_add]
    rfl
  obtain ⟨s₃, hs₃, hw₃⟩ := step_follows hsee₂
  have hsee₃ : s₃.watch.see .motor (Learner.motor.sees (.ahead .yellow)) = some {
      current := some .yellow, ticks := 0
      completed := fun d => if d = .green then s₃.watch.ticks :: s₃.watch.completed d
        else s₃.watch.completed d } := by
    change s₃.watch.see .motor (some .yellow) = _
    rw [Stopwatch.see, hw₃]
    rfl
  obtain ⟨s₄, hs₄, hw₄⟩ := step_follows hsee₃
  refine ⟨s₄, ?_, by rw [hw₄], ?_⟩
  · exact run_cons_eq_some.2 ⟨s₁, hs₁, run_append_eq_some.2 ⟨s₂, hs₂,
      run_cons_eq_some.2 ⟨s₃, hs₃, run_cons_eq_some.2 ⟨s₄, hs₄, rfl⟩⟩⟩⟩
  · rw [hw₄, hw₃]
    exact congrArg (n :: ·) hdone₁

theorem run_redCycles (n : Nat) (cd : Countdown) :
    ∃ s t, run (step .motor) (start .motor cd) (redCycle n ++ redCycle n) = some s ∧
      s.step .motor (.step (.ahead .red)) = some t ∧ s.watch.current ≠ some .red ∧
      s.watch.completed .red = [n, n] := by
  obtain ⟨s₁, hs₁, hcur₁, hdone₁⟩ := run_redCycle (s := start .motor cd) n (.inl rfl)
  obtain ⟨s₂, hs₂, hcur₂, hdone₂⟩ := run_redCycle n (.inr hcur₁)
  have hsee : (s₂.watch.see .motor (Learner.motor.sees (.ahead .red))).isSome := by
    change (s₂.watch.see .motor (some .red)).isSome
    rw [Stopwatch.see, hcur₂]
    rfl
  obtain ⟨t, ht, _⟩ := step_follows (Option.some_get hsee).symm
  refine ⟨s₂, t, run_append_eq_some.2 ⟨s₁, hs₁, hs₂⟩, ht, ?_, ?_⟩
  · rw [hcur₂]
    intro he
    cases he
  · rw [hdone₂, hdone₁]
    rfl

end Lesson

open Lesson (redCycle run_redCycles)

/-- After two phases of the same length the next arms that length in seconds exactly if it is not
longer than eight bits of seconds. -/
theorem learned_duration_iff (h : run (Lesson.step l) (.start l cd) es = some s)
    (hs : s.step l (.step lamps) = some t) (hc : l.sees lamps = some c)
    (hnew : s.watch.current ≠ some c) (hT : s.watch.completed c = T :: T :: ms)
    (hle : T ≤ 65534) :
    t.countdown.flag c = 1 ∧ t.countdown.mode c = 1 ∧
      ((t.countdown.num c).toNat = (T + 1) / 10 ↔ T ≤ 2558) := by
  obtain ⟨hflag, hmode, hnum⟩ := learned_measure h hs hc hnew hT
  refine ⟨hflag, hmode, ?_⟩
  rw [hnum, UInt8.toNat_toUInt16, measure, UInt8.toNat_ofNat']
  omega

theorem learned_duration_iff_second : (run (Lesson.step .motor) (.start .motor .zero)
    (redCycle 9 ++ redCycle 9 ++ [.step (.ahead .red)])).map
      (fun t => (t.countdown.num .red).toNat) = some ((9 + 1) / 10) := by
  obtain ⟨s, t, hs, ht, hnew, hdone⟩ := run_redCycles 9 .zero
  have hlearned := learned_duration_iff hs ht rfl hnew hdone (by decide)
  rw [run_append_eq_some.2 ⟨s, hs, by rwa [run_singleton]⟩, Option.map_some,
    hlearned.2.2.2 (by decide)]

/-- Red phases of 256 seconds arm the value zero. -/
theorem long_phase_arms_zero : (run (Lesson.step .motor) (.start .motor .zero)
    (redCycle 2559 ++ redCycle 2559 ++ [.step (.ahead .red)])).map
      (fun t => (t.countdown.flag .red, (t.countdown.num .red).toNat)) = some (1, 0) ∧
    (2559 + 1) / 10 = 256 := by
  obtain ⟨s, t, hs, ht, hnew, hdone⟩ := run_redCycles 2559 .zero
  obtain ⟨hflag, _, hnum⟩ := learned_measure hs ht rfl hnew hdone
  rw [run_append_eq_some.2 ⟨s, hs, by rwa [run_singleton]⟩, Option.map_some, hflag, hnum]
  decide

end CountdownOutside
