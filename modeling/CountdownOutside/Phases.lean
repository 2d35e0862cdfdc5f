import CountdownOutside.Learning

namespace CountdownOutside
set_option autoImplicit true

variable {l : Learner} {s t : Lesson} {c d : Colour} {e : LearnEvent} {es : List LearnEvent}

namespace Phase

variable {p : Phase}

def Flagged (p : Phase) : Prop := p.flag = 0 ∨ p.flag = 1

theorem start_flag (p : Phase) (c : Colour) (cd : Countdown) : (p.start c cd).1.flag = 1 := by
  rw [Phase.start]
  dsimp only
  split
  · rfl
  · split <;> rfl

theorem Flagged.set_iff (h : p.Flagged) : p.flag ≠ 0 ↔ p.flag = 1 := by
  rcases h with h | h <;> rw [h] <;> decide

end Phase

namespace Lesson

/-- What holds of the learner between any two steps. -/
structure Exclusive (l : Learner) (s : Lesson) : Prop where
  knows : s.Knows l
  flagged : ∀ c, (l.phase s.study c).Flagged

theorem exclusive_start (l : Learner) (cd : Countdown) : (start l cd).Exclusive l where
  knows := knows_start l cd
  flagged := by
    intro c
    cases l <;> cases c <;> exact .inl rfl

theorem Exclusive.current_iff (h : s.Exclusive l) :
    (l.phase s.study c).flag = 1 ↔ s.watch.current = some c := by
  have hk := h.knows.phase c
  rw [← (h.flagged c).set_iff]
  by_cases hc : s.watch.current = some c
  · rw [if_pos hc] at hk
    exact ⟨fun _ => hc, fun _ => hk.2.2.1⟩
  · rw [if_neg hc] at hk
    exact ⟨fun hf => absurd hk.2.2.1 hf, fun he => absurd he hc⟩

theorem Exclusive.only (h : s.Exclusive l) (hc : (l.phase s.study c).flag ≠ 0)
    (hd : (l.phase s.study d).flag ≠ 0) : c = d := by
  have hcc := h.current_iff.1 ((h.flagged c).set_iff.1 hc)
  have hcd := h.current_iff.1 ((h.flagged d).set_iff.1 hd)
  exact Option.some.inj (hcc.symm.trans hcd)

theorem Exclusive.counter (h : s.Exclusive l) (c : Colour) :
    ((l.phase s.study c).flag = 0 → (l.phase s.study c).counter = 0) ∧
    ((l.phase s.study c).flag = 1 →
      (l.phase s.study c).counter = UInt16.ofNat s.watch.ticks) := by
  have hk := h.knows.phase c
  by_cases hc : s.watch.current = some c
  · rw [if_pos hc] at hk
    exact ⟨fun hf => absurd hf hk.2.2.1, fun _ => hk.2.2.2.1⟩
  · rw [if_neg hc] at hk
    exact ⟨fun _ => hk.2.2.2.1, fun hf => absurd (h.current_iff.1 hf) hc⟩

theorem Exclusive.step (h : s.Exclusive l) (hs : s.step l e = some t) : t.Exclusive l := by
  refine ⟨h.knows.step hs, ?_⟩
  intro d
  cases e with
  | timerOut =>
    cases hs
    dsimp only
    rw [Learner.timerOut_phase h.knows.mOrP (fun c d hc hd => h.only hc hd)]
    split
    · exact h.flagged d
    · exact h.flagged d
  | step lamps =>
    rw [(step_eq_some hs).2.1]
    cases hc : l.sees lamps with
    | none =>
      rw [(Learner.stduy_none hc s.study s.countdown).1]
      exact h.flagged d
    | some c =>
      rw [(Learner.stduy_sees hc s.study s.countdown).1]
      split
      · exact .inr (Phase.start_flag _ c s.countdown)
      · split
        · exact .inl rfl
        · exact h.flagged d

theorem run_exclusive (h : run (step l) (start l cd) es = some s) : s.Exclusive l :=
  run_invariant (fun _ _ _ hx hs => hx.step hs) (exclusive_start l cd) h

theorem Exclusive.arms_first (h : s.Exclusive l) (hs : s.step l (.step lamps) = some t)
    (ha : (l.write lamps s.study).arm = some (c, v)) :
    s.watch.current ≠ some c ∧ t.watch.current = some c ∧ t.watch.ticks = 0 := by
  rw [h.knows.arms lamps] at ha
  obtain ⟨d, hd, hif⟩ := Option.bind_eq_some_iff.1 ha
  obtain ⟨⟨hnew, _⟩, he⟩ := Option.ite_none_right_eq_some.1 hif
  cases he
  obtain ⟨hwatch, _⟩ := step_eq_some hs
  rw [hd] at hwatch
  rcases see_cases hwatch with ⟨hcur, _⟩ | ⟨_, hw⟩ | ⟨_, hw⟩
  · exact absurd hcur hnew
  · rw [hw]
    exact ⟨hnew, rfl, rfl⟩
  · rw [hw]
    exact ⟨hnew, rfl, rfl⟩

end Lesson

/-- In a run at most one colour is flagged, the current one; the others have counted nothing, it has
counted its ticks; and a step that arms a colour begins the phase. -/
theorem measures_one_phase (h : run (Lesson.step l) (.start l cd) es = some s) :
    (∀ c d, (l.phase s.study c).flag = 1 → (l.phase s.study d).flag = 1 → c = d) ∧
    (∀ c, (l.phase s.study c).flag = 0 ∧ s.watch.current ≠ some c ∧
        (l.phase s.study c).counter = 0 ∨
      (l.phase s.study c).flag = 1 ∧ s.watch.current = some c ∧
        (l.phase s.study c).counter = UInt16.ofNat s.watch.ticks) ∧
    ∀ lamps t, s.step l (.step lamps) = some t →
      t.countdown = (l.write lamps s.study).apply s.countdown ∧
      ∀ c v, (l.write lamps s.study).arm = some (c, v) →
        s.watch.current ≠ some c ∧ t.watch.current = some c ∧ t.watch.ticks = 0 := by
  have hx := Lesson.run_exclusive h
  refine ⟨?_, ?_, ?_⟩
  · intro c d hc hd
    exact Option.some.inj ((hx.current_iff.1 hc).symm.trans (hx.current_iff.1 hd))
  · intro c
    obtain ⟨hzero, hone⟩ := hx.counter c
    rcases hx.flagged c with hf | hf
    · have hne : s.watch.current ≠ some c := by
        intro he
        rw [hx.current_iff.2 he] at hf
        cases hf
      exact .inl ⟨hf, hne, hzero hf⟩
    · exact .inr ⟨hf, hx.current_iff.1 hf, hone hf⟩
  · intro lamps t hs
    refine ⟨?_, fun c v ha => hx.arms_first hs ha⟩
    rw [(Lesson.step_eq_some hs).2.2, l.stduy_countdown]

theorem measures_one_phase_green : ∃ s, run (Lesson.step .motor) (.start .motor .zero)
    [.step (.ahead .green), .timerOut, .step .dark, .timerOut] = some s ∧
      (Learner.motor.phase s.study .red).counter = 0 ∧
      (Learner.motor.phase s.study .green).counter = UInt16.ofNat s.watch.ticks := by
  have hrun : (run (Lesson.step .motor) (.start .motor .zero)
      [.step (.ahead .green), .timerOut, .step .dark, .timerOut]).isSome := by decide +kernel
  have hcurrent : (Option.get _ hrun).watch.current = some .green := by decide +kernel +revert
  have h := (Option.some_get hrun).symm
  obtain ⟨_, hcounters, _⟩ := measures_one_phase h
  refine ⟨_, h, ?_, ?_⟩
  · rcases hcounters .red with ⟨_, _, hred⟩ | ⟨_, hred, _⟩
    · exact hred
    · cases hcurrent.symm.trans hred
  · rcases hcounters .green with ⟨_, hgreen, _⟩ | ⟨_, _, hgreen⟩
    · exact absurd hcurrent hgreen
    · exact hgreen

end CountdownOutside
