import CountdownOutside.Wakeups

namespace CountdownOutside
set_option autoImplicit true

namespace Kernel

open Timers

variable {ι : Type u} {κ : Type v} [DecidableEq ι] {s t u : Kernel ι κ} {j k : ι} {e : κ}
variable {more n : Nat}

structure Apart (k : ι) (s t : Kernel ι κ) : Prop where
  thread : t.thread k = s.thread k
  timer : lone k t.timers = lone k s.timers

theorem Apart.trans (h : Apart k s t) (h' : Apart k t u) : Apart k s u :=
  ⟨h'.thread.trans h.thread, h'.timer.trans h.timer⟩

theorem apart_of_eq (ht : t.thread = s.thread) (hm : t.timers = s.timers) : Apart k s t :=
  ⟨by rw [ht], by rw [hm]⟩

theorem apart_schedule (h : s.rtSchedule = some t) : Apart k s t := by
  obtain ⟨j, _, rfl⟩ := rtSchedule_eq_some.1 h
  exact apart_of_eq rfl rfl

theorem apart_setThread (hj : k ≠ j) (x : Thread) : Apart k s (s.setThread j x) :=
  ⟨setThread_other hj s x, rfl⟩

theorem apart_suspend (h : s.timers.Settled) (hj : k ≠ j) (hr : (s.thread j).stat = .ready) :
    Apart k s (s.rtThreadSuspend j) := by
  rw [rtThreadSuspend_eq hr]
  refine ⟨Function.update_of_ne hj .., ?_⟩
  exact ((h.stop j).2 k).trans (if_neg hj)

theorem apart_resume (h : s.timers.Settled) (hj : k ≠ j) (hr : (s.thread j).stat = .suspend) :
    Apart k s (s.rtThreadResume j) := by
  rw [rtThreadResume_eq hr]
  refine ⟨Function.update_of_ne hj .., ?_⟩
  exact ((h.stop j).2 k).trans (if_neg hj)

theorem apart_startTimer (h : Sound s) (hj : k ≠ j) (hr : (s.thread j).stat = .suspend)
    {time : UInt32} (ht : s.startTimer j time = some t) : Apart k s t := by
  obtain ⟨_, timers, rfl, _, _, hother⟩ := h.startTimer hr ht
  exact ⟨rfl, hother k hj⟩

theorem apart_yield (h : s.rtThreadYield j = some t) : Apart k s t := by
  rw [rtThreadYield] at h
  split at h
  · have hrotate : Apart k s { s with ready := s.ready.rotate (s.thread j).currentPriority j } :=
      apart_of_eq rfl rfl
    exact hrotate.trans (apart_schedule h)
  · cases h
    exact apart_of_eq rfl rfl

/-- A thread that waits and the ticks that are left of its timer. -/
structure Awaits (k : ι) (n : Nat) (s : Kernel ι κ) : Prop where
  stat : (s.thread k).stat = .suspend
  left : (lone k s.timers).left = some n

theorem Awaits.apart (h : Awaits k n s) (ha : Apart k s t) : Awaits k n t :=
  ⟨by rw [ha.thread, h.stat], by rw [ha.timer, h.left]⟩

theorem Awaits.ne (h : Awaits k n s) (hj : (s.thread j).stat ≠ .suspend) : k ≠ j := by
  rintro rfl
  exact hj h.stat

theorem apart_startup (h : Sound s) (hj : k ≠ j) (ht : s.rtThreadStartup j = some t) :
    Apart k s t := by
  rw [rtThreadStartup, Option.ite_none_right_eq_some] at ht
  obtain ⟨_, ht⟩ := ht
  have hset := apart_setThread (s := s) hj { s.thread j with stat := .suspend }
  have hresume := hset.trans (apart_resume h.settled hj (by rw [setThread_self]))
  dsimp only at ht
  split at ht
  · cases ht
    exact hresume
  · exact hresume.trans (apart_schedule ht)

theorem apart_timeouts {l : List ι} (hk : k ∉ l) (h : l.foldlM rtThreadTimeout s = some t) :
    Apart k s t := by
  induction l generalizing s with
  | nil =>
    cases h
    exact apart_of_eq rfl rfl
  | cons j l ih =>
    obtain ⟨hj, hk⟩ := not_or.1 (mt List.mem_cons.2 hk)
    obtain ⟨u, hu, h⟩ := run_cons_eq_some.1 h
    have hstat : (s.thread j).stat = .suspend := by
      rw [rtThreadTimeout, Option.ite_none_right_eq_some] at hu
      exact hu.1
    rw [rtThreadTimeout_eq hstat] at hu
    obtain ⟨i, _, rfl⟩ := rtSchedule_eq_some.1 hu
    refine Apart.trans ?_ (ih hk h)
    exact ⟨Function.update_of_ne hj .., rfl⟩

theorem timeouts_ready {l : List ι} (hs : Sound s) (hc : Scheduled s) (hcurrent : s.current.isSome)
    (hl : ∀ k ∈ l, (s.thread k).stat = .suspend ∧ (lone k s.timers).left = none) (hnodup : l.Nodup)
    (hk : k ∈ l) (h : l.foldlM rtThreadTimeout s = some t) :
    (t.thread k).stat = .ready ∧ (t.thread k).timedOut = true := by
  induction l generalizing s with
  | nil => cases hk
  | cons j l ih =>
    obtain ⟨hj, hnodup⟩ := List.nodup_cons.1 hnodup
    obtain ⟨hstat, hleft⟩ := hl j List.mem_cons_self
    obtain ⟨u, hu, hrest⟩ := run_cons_eq_some.1 h
    obtain ⟨u', hu', hsound, hsched, htimers, _, hucurrent, hthread, _⟩ := hs.timeout hstat hleft
    cases hu'.symm.trans hu
    rcases List.mem_cons.1 hk with rfl | hin
    · rw [(apart_timeouts hj hrest).thread, hthread, Function.update_self]
      exact ⟨rfl, rfl⟩
    · refine ih hsound hsched hucurrent (fun i hi => ?_) hnodup hin hrest
      have hij : i ≠ j := fun he => hj (he ▸ hi)
      rw [hthread, htimers, Function.update_of_ne hij]
      exact hl i (List.mem_cons_of_mem j hi)

theorem Awaits.tick (h : Awaits k n s) (hs : Sound s) (hc : Scheduled s) (hj : s.current = some j)
    (ht : s.rtTickIncrease more j = some t) :
    n ≤ 1 ∧ (t.thread k).stat = .ready ∨ 1 < n ∧ Awaits k (n - 1) t := by
  obtain ⟨u, hu, husound, hused, htimers, hucurrent, hstat, _⟩ := hs.timeSlice hc hj
  obtain ⟨timers, hexpire, hsound, hcalls, htick, hover⟩ := husound.expire more
  rw [rtTickIncrease, hu, Option.bind_some, hexpire, Option.bind_some, hcalls] at ht
  have hleft : (lone k u.timers).left = some n := by rw [htimers, h.left]
  have hlag : k ∈ expired u.timers.timer u.timers.tick u.timers.list ↔ n ≤ 1 := by
    rw [lone, alone, Option.ite_none_right_eq_some] at hleft
    obtain ⟨hactive, hlag⟩ := hleft
    rw [expired, List.mem_filter, decide_eq_true_eq, husound.settled.active, lag,
      Option.some.inj hlag]
    exact and_iff_right hactive
  by_cases hn : n ≤ 1
  · refine .inl ⟨hn, ?_⟩
    exact (timeouts_ready hsound (hused.keep rfl rfl fun _ hj => hj) hucurrent hover
      (husound.settled.nodup.filter _) (hlag.2 hn) ht).1
  · refine .inr ⟨Nat.lt_of_not_le hn, ?_⟩
    have hapart := apart_timeouts (fun hin => hn (hlag.1 hin)) ht
    refine ⟨?_, ?_⟩
    · rw [hapart.thread]
      exact (hstat k).trans h.stat
    · have hone := htick k
      rw [Lone.tick, hleft] at hone
      dsimp only at hone
      rw [if_neg hn] at hone
      rw [hapart.timer]
      dsimp only
      rw [← Option.some.inj hone]

def Free (k : ι) (s : Kernel ι κ) : Prop := ∀ e, k ∉ (s.event e).suspendThread

omit [DecidableEq ι] in
theorem Free.leaves (h : Free k s) (hl : Leaves s t) : Free k t := fun e hk => h e (hl.sub e hk)

variable [DecidableEq κ]

omit [DecidableEq ι] in
theorem take_timers (s : Kernel ι κ) (k : ι) (e : κ) (option : UInt8) (b c : UInt32) :
    (s.take k e option b c).timers = s.timers := by
  rw [take]
  split <;> rfl

theorem apart_resumeIf {p : Kernel ι κ × Bool} (hs : p.1.timers.Settled) (hj : k ≠ j)
    (hstat : (p.1.thread j).stat = .suspend) : Apart k p.1 (resumeIf e p j).1 := by
  rcases resumeIf_cases e p j with ⟨_, heq⟩ | ⟨bits, _, heq⟩
  · rw [heq]
    exact apart_of_eq rfl rfl
  · rw [heq]
    have hset := apart_setThread (s := p.1) hj { p.1.thread j with eventSet := bits }
    have htake := hset.trans (apart_of_eq (take_thread ..) (take_timers _ j e
      (p.1.thread j).eventInfo bits bits))
    refine htake.trans (apart_resume ?_ hj ?_)
    · rw [take_timers]
      exact hs
    · rw [take_thread, setThread_self]
      exact hstat

theorem sub_resumeIf (e : κ) (p : Kernel ι κ × Bool) (j : ι) (f : κ) :
    ((resumeIf e p j).1.event f).suspendThread ⊆ (p.1.event f).suspendThread := by
  rcases resumeIf_cases e p j with ⟨_, heq⟩ | ⟨bits, _, heq⟩
  · rw [heq]
    exact fun _ h => h
  · rw [heq]
    intro i hi
    have hin := (leaves_resume _ j).sub f hi
    rw [(take_event ..).1] at hin
    exact hin

theorem Free.resumeAll {l : List ι} {p : Kernel ι κ × Bool} (h : Free k p.1) :
    Free k (l.foldl (resumeIf e) p).1 := by
  induction l generalizing p with
  | nil => exact h
  | cons j l ih => exact ih fun f hk => h f (sub_resumeIf e p j f hk)

theorem apart_resumeAll {l : List ι} {p : Kernel ι κ × Bool} (hs : Sound p.1) (hk : k ∉ l)
    (hl : ∀ j ∈ l, (p.1.thread j).stat = .suspend) (hnodup : l.Nodup) :
    Apart k p.1 (l.foldl (resumeIf e) p).1 := by
  induction l generalizing p with
  | nil => exact apart_of_eq rfl rfl
  | cons j l ih =>
    obtain ⟨hkj, hk⟩ := not_or.1 (mt List.mem_cons.2 hk)
    obtain ⟨hj, hnodup⟩ := List.nodup_cons.1 hnodup
    have hstat := hl j List.mem_cons_self
    obtain ⟨hsound, hother, _⟩ := hs.resumeIf (e := e) hstat
    refine (apart_resumeIf hs.settled hkj hstat).trans (ih hsound hk (fun i hi => ?_) hnodup)
    rw [hother i fun he => hj (he ▸ hi)]
    exact hl i (List.mem_cons_of_mem j hi)

theorem Awaits.resumeAll {l : List ι} {p : Kernel ι κ × Bool} (h : Awaits k n p.1) (hs : Sound p.1)
    (hl : ∀ j ∈ l, (p.1.thread j).stat = .suspend) (hnodup : l.Nodup) :
    ((l.foldl (resumeIf e) p).1.thread k).stat = .ready ∨
      Awaits k n (l.foldl (resumeIf e) p).1 := by
  induction l generalizing p with
  | nil => exact .inr h
  | cons j l ih =>
    obtain ⟨hj, hnodup'⟩ := List.nodup_cons.1 hnodup
    have hstat := hl j List.mem_cons_self
    obtain ⟨hsound, hother, _, hcases⟩ := hs.resumeIf (e := e) hstat
    have hrest : ∀ i ∈ l, ((resumeIf e p j).1.thread i).stat = .suspend := by
      intro i hi
      rw [hother i fun he => hj (he ▸ hi)]
      exact hl i (List.mem_cons_of_mem j hi)
    by_cases hkj : k = j
    · subst hkj
      have hapart := apart_resumeAll (e := e) hsound hj hrest hnodup'
      rcases hcases with ⟨_, hsame⟩ | ⟨_, hready⟩
      · rw [hsame] at hapart
        exact .inr (h.apart hapart)
      · refine .inl ?_
        rw [List.foldl_cons, hapart.thread, hready]
    · exact ih (h.apart (apart_resumeIf hs.settled hkj hstat)) hsound hrest hnodup'

theorem Awaits.send (h : Awaits k n s) (hs : Sound s) {set : UInt32}
    (ht : s.rtEventSend e set = some t) :
    ((t.thread k).stat = .ready ∨ Awaits k n t) ∧ (Free k s → Awaits k n t ∧ Free k t) := by
  rw [rtEventSend] at ht
  split at ht
  · cases ht
    exact ⟨.inr h, fun hfree => ⟨h, hfree⟩⟩
  · have hset : Sound (s.setEvent e { s.event e with set := (s.event e).set ||| set }) :=
      hs.setEvent rfl
    have hlist : ((s.setEvent e { s.event e with set := (s.event e).set ||| set }).event
        e).suspendThread = (s.event e).suspendThread := by
      rw [setEvent_self]
    have hraised : Awaits k n (s.setEvent e { s.event e with set := (s.event e).set ||| set }) :=
      h.apart (apart_of_eq rfl rfl)
    have hwaiting (j : ι) (hj : j ∈ (s.event e).suspendThread) : (s.thread j).stat = .suspend :=
      hs.waiting.suspended hj
    have hall := hraised.resumeAll (e := e)
      (p := (s.setEvent e { s.event e with set := (s.event e).set ||| set }, false)) hset hwaiting
      (hs.waiting.nodup e)
    have hfree (hk : Free k s) := apart_resumeAll (e := e) (k := k)
      (p := (s.setEvent e { s.event e with set := (s.event e).set ||| set }, false)) hset (hk e)
      hwaiting (hs.waiting.nodup e)
    have hkeeps (hk : Free k s) : Free k (s.setEvent e { s.event e with
        set := (s.event e).set ||| set }) := by
      intro f
      by_cases hf : f = e
      · subst hf
        rw [hlist]
        exact hk f
      · rw [setEvent_other hf]
        exact hk f
    dsimp only at ht
    rw [hlist] at ht
    split at ht
    · have hapart := apart_schedule (k := k) ht
      refine ⟨?_, fun hk => ⟨hraised.apart ((hfree hk).trans hapart), ?_⟩⟩
      · rcases hall with hready | hawaits
        · exact .inl (by rw [hapart.thread, hready])
        · exact .inr (hawaits.apart hapart)
      · exact ((hkeeps hk).resumeAll (e := e)).leaves (leaves_schedule ht)
    · cases ht
      exact ⟨hall, fun hk => ⟨hraised.apart (hfree hk), (hkeeps hk).resumeAll⟩⟩

theorem Free.wait (h : Free k s) (hj : k ≠ j) (e : κ) : Free k (s.rtIpcListSuspend j e) := by
  have hsuspend := h.leaves (leaves_suspend s j)
  intro f hk
  rw [rtIpcListSuspend] at hk
  by_cases hf : f = e
  · subst hf
    rw [setEvent_self] at hk
    rcases List.mem_cons.1 ((suspendAt_perm ..).mem_iff.1 hk) with rfl | hk
    · exact hj rfl
    · exact hsuspend f hk
  · rw [setEvent_other hf] at hk
    exact hsuspend f hk

theorem apart_recv (hs : Sound s) (hj : s.running = some j) (hkj : k ≠ j) {set : UInt32}
    {option : UInt8} {timeout : Int32} (ht : s.rtEventRecv j e set option timeout = some t) :
    Apart k s t ∧ (Free k s → Free k t) := by
  obtain ⟨_, hready⟩ := running_eq_some.1 hj
  rcases rtEventRecv_cases ht with ⟨_, rfl⟩ | ⟨_, rfl⟩ | ⟨_, rfl⟩ | ⟨_, _, u, hu, ht⟩
  · exact ⟨apart_of_eq rfl rfl, id⟩
  · refine ⟨(apart_setThread hkj _).trans (apart_of_eq (take_thread ..) (take_timers ..)), ?_⟩
    intro hfree f hk
    rw [(take_event ..).1] at hk
    exact hfree f hk
  · exact ⟨apart_setThread hkj _, id⟩
  · have hset : Sound (s.setThread j { s.thread j with
        timedOut := false, eventSet := set, eventInfo := option }) := hs.setThread rfl rfl
    have hsetReady : ((s.setThread j { s.thread j with
        timedOut := false, eventSet := set, eventInfo := option }).thread j).stat = .ready :=
      (setThread_stat (by rfl) j).trans hready
    have hsuspend := (apart_setThread (s := s) hkj _).trans
      (apart_suspend hset.settled hkj hsetReady)
    have hwait : Apart k s u := hu ▸ hsuspend.trans (apart_of_eq rfl rfl)
    have hfree (h : Free k s) : Free k u := hu ▸ Free.wait (s := s.setThread j { s.thread j with
      timedOut := false, eventSet := set, eventInfo := option }) h hkj e
    have husound : Sound u := hu ▸ hset.ipcListSuspend hsetReady e
    have hstat : (u.thread j).stat = .suspend := hu ▸ rtThreadSuspend_stat hsetReady
    rcases ht with ⟨_, ht⟩ | ⟨_, rfl⟩
    · exact ⟨hwait.trans (apart_startTimer husound hkj hstat ht), fun h =>
        (hfree h).leaves (leaves_startTimer ht)⟩
    · exact ⟨hwait, hfree⟩

omit [DecidableEq κ] in
theorem apart_sleep (hs : Sound s) (hj : s.running = some j) (hkj : k ≠ j) {tick : UInt32}
    (ht : s.rtThreadSleep j tick = some t) : Apart k s t := by
  obtain ⟨_, hready⟩ := running_eq_some.1 hj
  exact (apart_suspend hs.settled hkj hready).trans
    (apart_startTimer (hs.suspend hready) hkj (rtThreadSuspend_stat hready) ht)

omit [DecidableEq κ] in
theorem apart_exit (hs : Sound s) (hj : s.running = some j) (hkj : k ≠ j)
    (ht : s.rtThreadExit j = some t) : Apart k s t := by
  rw [hs.exit_eq (running_eq_some.1 hj).2] at ht
  obtain ⟨i, _, rfl⟩ := rtSchedule_eq_some.1 ht
  exact ⟨Function.update_of_ne hkj .., rfl⟩

/-- What a step does to a thread that waits: a tick counts, a sending may resume it, and a thread
that waits for no event is resumed by nothing but its timer. -/
theorem Awaits.step {a : KernelEvent ι κ} (h : Awaits k n s) (hs : Sound s) (hc : Scheduled s)
    (ht : Kernel.step more s a = some t) :
    (a = .tick → (n ≤ 1 ∧ (t.thread k).stat = .ready ∨ 1 < n ∧ Awaits k (n - 1) t)) ∧
    (a ≠ .tick → ((t.thread k).stat = .ready ∨ Awaits k n t) ∧ (Free k s → Awaits k n t)) ∧
    (Free k s → Free k t) := by
  have hne {j : ι} (hj : s.running = some j) : k ≠ j :=
    h.ne (by rw [(running_eq_some.1 hj).2]; rintro ⟨⟩)
  have hother (ha : a ≠ .tick) (hapart : Apart k s t) (hfree : Free k s → Free k t) :
      (a = .tick → (n ≤ 1 ∧ (t.thread k).stat = .ready ∨ 1 < n ∧ Awaits k (n - 1) t)) ∧
      (a ≠ .tick → ((t.thread k).stat = .ready ∨ Awaits k n t) ∧ (Free k s → Awaits k n t)) ∧
      (Free k s → Free k t) :=
    ⟨fun he => absurd he ha, fun _ => ⟨.inr (h.apart hapart), fun _ => h.apart hapart⟩, hfree⟩
  have hleaves (hr : ∀ e set option timeout, a ≠ .recv e set option timeout)
      (hs : ∀ e set, a ≠ .send e set) (hk : Free k s) : Free k t := hk.leaves (leaves_step ht hr hs)
  cases a with
  | startup j =>
    have hinit : (s.thread j).stat = .init := by
      have hstart : s.rtThreadStartup j = some t := ht
      rw [rtThreadStartup, Option.ite_none_right_eq_some] at hstart
      exact hstart.1
    refine hother (by rintro ⟨⟩) (apart_startup hs (h.ne (by rw [hinit]; rintro ⟨⟩)) ht) ?_
    exact hleaves (by rintro _ _ _ _ ⟨⟩) (by rintro _ _ ⟨⟩)
  | start =>
    refine hother (by rintro ⟨⟩) (apart_schedule (Option.ite_none_right_eq_some.1 ht).2) ?_
    exact hleaves (by rintro _ _ _ _ ⟨⟩) (by rintro _ _ ⟨⟩)
  | schedule =>
    refine hother (by rintro ⟨⟩) (apart_schedule (Option.ite_none_left_eq_some.1 ht).2) ?_
    exact hleaves (by rintro _ _ _ _ ⟨⟩) (by rintro _ _ ⟨⟩)
  | yield =>
    obtain ⟨j, _, hyield⟩ := Option.bind_eq_some_iff.1 ht
    refine hother (by rintro ⟨⟩) (apart_yield hyield) ?_
    exact hleaves (by rintro _ _ _ _ ⟨⟩) (by rintro _ _ ⟨⟩)
  | sleep tick =>
    obtain ⟨j, hj, hsleep⟩ := Option.bind_eq_some_iff.1 ht
    refine hother (by rintro ⟨⟩) (apart_sleep hs hj (hne hj) hsleep) ?_
    exact hleaves (by rintro _ _ _ _ ⟨⟩) (by rintro _ _ ⟨⟩)
  | exit =>
    obtain ⟨j, hj, hexit⟩ := Option.bind_eq_some_iff.1 ht
    refine hother (by rintro ⟨⟩) (apart_exit hs hj (hne hj) hexit) ?_
    exact hleaves (by rintro _ _ _ _ ⟨⟩) (by rintro _ _ ⟨⟩)
  | recv e set option timeout =>
    obtain ⟨j, hj, hrecv⟩ := Option.bind_eq_some_iff.1 ht
    obtain ⟨hapart, hfree⟩ := apart_recv hs hj (hne hj) hrecv
    exact hother (by rintro ⟨⟩) hapart hfree
  | send e set =>
    obtain ⟨hall, hfree⟩ := h.send hs ht
    exact ⟨by rintro ⟨⟩, fun _ => ⟨hall, fun hk => (hfree hk).1⟩, fun hk => (hfree hk).2⟩
  | tick =>
    obtain ⟨j, hj, htick⟩ := Option.bind_eq_some_iff.1 ht
    refine ⟨fun _ => h.tick hs hc hj htick, fun ha => absurd rfl ha, ?_⟩
    exact hleaves (by rintro _ _ _ _ ⟨⟩) (by rintro _ _ ⟨⟩)

theorem Awaits.run {fs : List (KernelEvent ι κ)} (h : Awaits k n s) (hs : Sound s)
    (hc : Scheduled s) (hr : CountdownOutside.run (Kernel.step more) s fs = some u)
    (hall : EveryState (Kernel.step more) s fs fun v => (v.thread k).stat = .suspend) :
    fs.count .tick < max 1 n := by
  induction fs generalizing s n with
  | nil => exact Nat.lt_of_lt_of_le Nat.one_pos (le_max_left 1 n)
  | cons a fs ih =>
    obtain ⟨t, ht, hrun⟩ := run_cons_eq_some.1 hr
    obtain ⟨hsound, hsched⟩ := hs.step hc ht
    obtain ⟨htick, hother, _⟩ := h.step hs hc ht
    have hstat : (t.thread k).stat = .suspend := hall [a] fs t rfl (run_singleton.trans ht)
    have hrest : EveryState (Kernel.step more) t fs fun v => (v.thread k).stat = .suspend := by
      rintro as bs v rfl hv
      exact hall (a :: as) bs v rfl (run_cons_eq_some.2 ⟨t, ht, hv⟩)
    by_cases ha : a = .tick
    · subst ha
      rcases htick rfl with ⟨_, hready⟩ | ⟨hn, hawaits⟩
      · cases hready.symm.trans hstat
      · have hcount := ih hawaits hsound hsched hrun hrest
        rw [List.count_cons_self]
        omega
    · rw [List.count_cons_of_ne ha]
      rcases (hother ha).1 with hready | hawaits
      · cases hready.symm.trans hstat
      · exact ih hawaits hsound hsched hrun hrest

theorem Awaits.free_run {fs : List (KernelEvent ι κ)} (h : Awaits k n s) (hfree : Free k s)
    (hs : Sound s) (hc : Scheduled s)
    (hr : CountdownOutside.run (Kernel.step more) s fs = some u)
    (hcount : fs.count .tick < max 1 n) : (u.thread k).stat = .suspend := by
  induction fs generalizing s n with
  | nil =>
    cases hr
    exact h.stat
  | cons a fs ih =>
    obtain ⟨t, ht, hrun⟩ := run_cons_eq_some.1 hr
    obtain ⟨hsound, hsched⟩ := hs.step hc ht
    obtain ⟨htick, hother, hkeep⟩ := h.step hs hc ht
    by_cases ha : a = .tick
    · subst ha
      rw [List.count_cons_self] at hcount
      rcases htick rfl with ⟨hn, _⟩ | ⟨hn, hawaits⟩
      · omega
      · exact ih hawaits (hkeep hfree) hsound hsched hrun (by omega)
    · rw [List.count_cons_of_ne ha] at hcount
      exact ih ((hother ha).2 hfree) (hkeep hfree) hsound hsched hrun hcount

omit [DecidableEq κ] in
theorem awaits_sleep (hs : Sound s) (hk : s.running = some k) {tick : UInt32}
    (ht : s.rtThreadSleep k tick = some t) : Awaits k tick.toNat t ∧ Free k t := by
  obtain ⟨_, hready⟩ := running_eq_some.1 hk
  have hstat := rtThreadSuspend_stat hready
  obtain ⟨_, timers, rfl, _, hleft, _⟩ := (hs.suspend hready).startTimer hstat ht
  refine ⟨⟨hstat, hleft⟩, ?_⟩
  have hfree : Free k s := hs.not_waiting (by rw [hready]; rintro ⟨⟩)
  exact (hfree.leaves (leaves_suspend s k)).leaves (.of_eq rfl rfl rfl)

theorem awaits_recv (hs : Sound s) (hk : s.running = some k) {set : UInt32} {option : UInt8}
    {timeout : Int32} (hpos : 0 < timeout) (ht : s.rtEventRecv k e set option timeout = some t)
    (hsuspend : (t.thread k).stat = .suspend) : Awaits k timeout.toUInt32.toNat t := by
  obtain ⟨_, hready⟩ := running_eq_some.1 hk
  rcases rtEventRecv_cases ht with ⟨_, rfl⟩ | ⟨_, rfl⟩ | ⟨_, rfl⟩ | ⟨_, _, u, hu, ht⟩
  · cases hready.symm.trans hsuspend
  · rw [take_thread, setThread_self] at hsuspend
    cases hready.symm.trans hsuspend
  · rw [setThread_self] at hsuspend
    cases hready.symm.trans hsuspend
  · have hset : Sound (s.setThread k { s.thread k with
        timedOut := false, eventSet := set, eventInfo := option }) := hs.setThread rfl rfl
    have hsetReady : ((s.setThread k { s.thread k with
        timedOut := false, eventSet := set, eventInfo := option }).thread k).stat = .ready :=
      (setThread_stat (by rfl) k).trans hready
    have husound : Sound u := hu ▸ hset.ipcListSuspend hsetReady e
    have hstat : (u.thread k).stat = .suspend := hu ▸ rtThreadSuspend_stat hsetReady
    rcases ht with ⟨_, ht⟩ | ⟨hneg, _⟩
    · obtain ⟨_, timers, rfl, _, hleft, _⟩ := husound.startTimer hstat ht
      exact ⟨hstat, hleft⟩
    · exact absurd hpos hneg

/-- In every run a thread that waits for an event with a time-out is ready again when as many ticks
have passed, and a thread that sleeps is exactly then, whatever happens meanwhile; at least one tick
has to pass. -/
theorem waits_end {thread : ι → Thread} {prio : κ → Bool} {es : List (KernelEvent ι κ)}
    (h : CountdownOutside.run (Kernel.step more) (boot thread prio) es = some s)
    (hk : s.running = some k) :
    (∀ e set option timeout t, 0 < timeout →
      Kernel.step more s (.recv e set option timeout) = some t → (t.thread k).stat = .suspend →
      ∀ fs u, CountdownOutside.run (Kernel.step more) t fs = some u →
        EveryState (Kernel.step more) t fs (fun v => (v.thread k).stat = .suspend) →
        fs.count .tick < max 1 timeout.toUInt32.toNat) ∧
    (∀ tick t, Kernel.step more s (.sleep tick) = some t →
      ∀ fs u, CountdownOutside.run (Kernel.step more) t fs = some u →
        (EveryState (Kernel.step more) t fs (fun v => (v.thread k).stat = .suspend) ↔
          fs.count .tick < max 1 tick.toNat)) := by
  obtain ⟨hs, hc⟩ := run_sound h
  constructor
  · intro e set option timeout t hpos ht hsuspend fs u hr hall
    obtain ⟨hsound, hsched⟩ := hs.step hc ht
    obtain ⟨j, hj, hrecv⟩ := Option.bind_eq_some_iff.1 ht
    cases hj.symm.trans hk
    exact (awaits_recv hs hk hpos hrecv hsuspend).run hsound hsched hr hall
  · intro tick t ht fs u hr
    obtain ⟨hsound, hsched⟩ := hs.step hc ht
    obtain ⟨j, hj, hsleep⟩ := Option.bind_eq_some_iff.1 ht
    cases hj.symm.trans hk
    obtain ⟨hawaits, hfree⟩ := awaits_sleep hs hk hsleep
    refine ⟨hawaits.run hsound hsched hr, ?_⟩
    rintro hcount as bs v rfl hv
    refine hawaits.free_run hfree hsound hsched hv (Nat.lt_of_le_of_lt ?_ hcount)
    rw [List.count_append]
    exact Nat.le_add_right _ _

theorem waits_end_unit : ∃ s t u v : Kernel UnitThread Unit,
    CountdownOutside.run (Kernel.step 0) .unit unitStartup = some s ∧
    Kernel.step 0 s (.sleep 2) = some t ∧
    EveryState (Kernel.step 0) t [.schedule, .tick] (fun v => (v.thread .study).stat = .suspend) ∧
    ¬ EveryState (Kernel.step 0) t [.schedule, .tick, .tick]
      (fun v => (v.thread .study).stat = .suspend) ∧
    CountdownOutside.run (Kernel.step 0) t [.schedule, .sleep 100, .schedule] = some u ∧
    Kernel.step 0 u (.recv () 3 6 20) = some v ∧
    ¬ EveryState (Kernel.step 0) v (.schedule :: List.replicate 20 .tick)
      (fun v => (v.thread .rcvProcess).stat = .suspend) := by
  have hany : (CountdownOutside.run (Kernel.step 0) .unit unitStartup).any fun s =>
      s.running = some .study ∧ (Kernel.step 0 s (.sleep 2)).any fun t =>
        (CountdownOutside.run (Kernel.step 0) t [.schedule, .tick]).isSome ∧
        (CountdownOutside.run (Kernel.step 0) t [.schedule, .tick, .tick]).isSome ∧
        (CountdownOutside.run (Kernel.step 0) t [.schedule, .sleep 100, .schedule]).any fun u =>
          u.running = some .rcvProcess ∧ (Kernel.step 0 u (.recv () 3 6 20)).any fun v =>
            (v.thread .rcvProcess).stat = .suspend ∧ (CountdownOutside.run (Kernel.step 0) v
              (.schedule :: List.replicate 20 .tick)).isSome := by
    decide +kernel
  obtain ⟨s, hs, hany⟩ := (Option.any_eq_true ..).1 hany
  obtain ⟨hstudy, hany⟩ := of_decide_eq_true hany
  obtain ⟨t, ht, hany⟩ := (Option.any_eq_true ..).1 hany
  obtain ⟨hone, htwo, hany⟩ := of_decide_eq_true hany
  obtain ⟨u, hu, hany⟩ := (Option.any_eq_true ..).1 hany
  obtain ⟨hrcv, hany⟩ := of_decide_eq_true hany
  obtain ⟨v, hv, hany⟩ := (Option.any_eq_true ..).1 hany
  obtain ⟨hsuspend, hall⟩ := of_decide_eq_true hany
  have hsleeps := (waits_end hs hstudy).2 2 t ht
  have hreaches : CountdownOutside.run (Kernel.step 0) .unit
      (unitStartup ++ .sleep 2 :: [.schedule, .sleep 100, .schedule]) = some u :=
    run_append_eq_some.2 ⟨s, hs, run_cons_eq_some.2 ⟨t, ht, hu⟩⟩
  refine ⟨s, t, u, v, hs, ht, ?_, ?_, hu, hv, fun hwaits => ?_⟩
  · exact (hsleeps _ _ (Option.some_get hone).symm).2 (by decide)
  · intro hwaits
    exact absurd ((hsleeps _ _ (Option.some_get htwo).symm).1 hwaits) (by decide)
  · exact absurd ((waits_end hreaches hrcv).1 () 3 6 20 v (by decide) hv hsuspend _ _
      (Option.some_get hall).symm hwaits) (by decide)

end Kernel

end CountdownOutside
