import CountdownOutside.Threads

namespace CountdownOutside
set_option autoImplicit true

section Satisfied

variable {option : UInt8} {wanted set bits cleared : UInt32}

theorem satisfied_clear (h : satisfied option wanted set = none) (cleared : UInt32) :
    satisfied option wanted (set &&& ~~~ cleared) = none := by
  rw [satisfied] at h ⊢
  split at h
  · rename_i hand
    rw [if_pos hand]
    split at h
    · cases h
    · rename_i hne
      refine if_neg fun heq => hne (hasBit_ext fun p => ?_)
      have hp := congrArg (hasBit · p) heq
      simp only [hasBit_and, hasBit_not] at hp ⊢
      revert hp
      cases hasBit wanted p <;> cases hasBit set p <;> simp
  · rename_i hand
    rw [if_neg hand]
    split at h
    · rename_i hor
      rw [if_pos hor]
      split at h
      · cases h
      · rename_i hzero
        refine if_neg (not_not.2 (hasBit_ext fun p => ?_))
        have hp := congrArg (hasBit · p) (not_not.1 hzero)
        simp only [hasBit_and, hasBit_not, hasBit_zero] at hp ⊢
        revert hp
        cases hasBit wanted p <;> cases hasBit set p <;> simp
    · rename_i hor
      exact if_neg hor

theorem satisfied_bits (h : satisfied option wanted set = some bits) (p : Fin 32) :
    hasBit bits p = (hasBit set p && hasBit bits p) := by
  rw [satisfied] at h
  split at h
  · obtain ⟨hall, hbits⟩ := Option.ite_none_right_eq_some.1 h
    rw [Option.some.injEq] at hbits
    have hp := congrArg (hasBit · p) hall
    simp only [hasBit_and] at hp
    rw [← hbits]
    revert hp
    cases hasBit wanted p <;> cases hasBit set p <;> simp
  · split at h
    · obtain ⟨_, hbits⟩ := Option.ite_none_right_eq_some.1 h
      rw [Option.some.injEq] at hbits
      rw [← hbits, hasBit_and]
      cases hasBit wanted p <;> cases hasBit set p <;> rfl
    · cases h

end Satisfied

namespace Kernel

variable {ι : Type u} {κ : Type v} {s t u : Kernel ι κ} {k : ι} {e : κ} {more : Nat}

/-- Threads may leave the events' lists; nothing else that concerns the events changes. -/
structure Leaves (s t : Kernel ι κ) : Prop where
  set : ∀ e, (t.event e).set = (s.event e).set
  sub : ∀ e, (t.event e).suspendThread ⊆ (s.event e).suspendThread
  info : ∀ k, (t.thread k).eventInfo = (s.thread k).eventInfo
  wanted : ∀ k, (t.thread k).eventSet = (s.thread k).eventSet
  received : t.received = s.received

theorem Leaves.of_eq (ht : t.thread = s.thread) (he : t.event = s.event)
    (hr : t.received = s.received) : Leaves s t :=
  ⟨fun _ => by rw [he], fun _ _ h => he ▸ h, fun _ => by rw [ht], fun _ => by rw [ht], hr⟩

theorem Leaves.trans (h : Leaves s t) (h' : Leaves t u) : Leaves s u where
  set e := (h'.set e).trans (h.set e)
  sub e _ hk := h.sub e (h'.sub e hk)
  info k := (h'.info k).trans (h.info k)
  wanted k := (h'.wanted k).trans (h.wanted k)
  received := h'.received.trans h.received

theorem leaves_schedule (h : s.rtSchedule = some t) : Leaves s t := by
  obtain ⟨k, _, rfl⟩ := rtSchedule_eq_some.1 h
  exact .of_eq rfl rfl rfl

variable [DecidableEq ι]

theorem leaves_setThread {x : Thread} (hi : x.eventInfo = (s.thread k).eventInfo)
    (hw : x.eventSet = (s.thread k).eventSet) : Leaves s (s.setThread k x) where
  set _ := rfl
  sub _ _ h := h
  info j := by
    by_cases hj : j = k
    · subst hj
      rw [setThread_self, hi]
    · rw [setThread_other hj]
  wanted j := by
    by_cases hj : j = k
    · subst hj
      rw [setThread_self, hw]
    · rw [setThread_other hj]
  received := rfl

theorem leaves_unlink (s : Kernel ι κ) (k : ι) : Leaves s (s.unlink k) :=
  ⟨fun _ => rfl, fun _ => List.erase_subset, fun _ => rfl, fun _ => rfl, rfl⟩

theorem leaves_suspend (s : Kernel ι κ) (k : ι) : Leaves s (s.rtThreadSuspend k) := by
  rw [rtThreadSuspend]
  split
  · have hset : Leaves s (s.setThread k { s.thread k with stat := .suspend }) :=
      leaves_setThread rfl rfl
    exact hset.trans (.of_eq rfl rfl rfl)
  · exact .of_eq rfl rfl rfl

theorem leaves_insert (s : Kernel ι κ) (k : ι) : Leaves s (s.rtScheduleInsertThread k) := by
  have hset : Leaves s (s.setThread k { s.thread k with stat := .ready }) :=
    leaves_setThread rfl rfl
  exact hset.trans (.of_eq rfl rfl rfl)

theorem leaves_resume (s : Kernel ι κ) (k : ι) : Leaves s (s.rtThreadResume k) := by
  rw [rtThreadResume]
  split
  · have hstop : Leaves (s.unlink k) { s.unlink k with timers := s.timers.rtTimerStop k } :=
      .of_eq rfl rfl rfl
    exact ((leaves_unlink s k).trans hstop).trans (leaves_insert _ k)
  · exact .of_eq rfl rfl rfl

theorem leaves_timeout (h : s.rtThreadTimeout k = some t) : Leaves s t := by
  rw [rtThreadTimeout, Option.ite_none_right_eq_some] at h
  have hset : Leaves s (s.setThread k { s.thread k with timedOut := true }) :=
    leaves_setThread rfl rfl
  exact ((hset.trans (leaves_unlink _ k)).trans (leaves_insert _ k)).trans (leaves_schedule h.2)

theorem leaves_timeouts {l : List ι} (h : l.foldlM rtThreadTimeout s = some t) : Leaves s t := by
  refine run_invariant (P := Leaves s) (fun u k v hu hs => ?_) (.of_eq rfl rfl rfl) h
  exact hu.trans (leaves_timeout hs)

theorem leaves_startTimer {time : UInt32} (h : s.startTimer k time = some t) : Leaves s t := by
  rw [startTimer, Option.map_eq_some_iff] at h
  obtain ⟨timers, _, rfl⟩ := h
  exact .of_eq rfl rfl rfl

theorem leaves_startup (h : s.rtThreadStartup k = some t) : Leaves s t := by
  rw [rtThreadStartup, Option.ite_none_right_eq_some] at h
  have hset : Leaves s (s.setThread k { s.thread k with stat := .suspend }) :=
    leaves_setThread rfl rfl
  have hresume := hset.trans (leaves_resume _ k)
  obtain ⟨_, h⟩ := h
  dsimp only at h
  split at h
  · cases h
    exact hresume
  · exact hresume.trans (leaves_schedule h)

theorem leaves_yield (h : s.rtThreadYield k = some t) : Leaves s t := by
  rw [rtThreadYield] at h
  split at h
  · have hrotate : Leaves s { s with ready := s.ready.rotate (s.thread k).currentPriority k } :=
      .of_eq rfl rfl rfl
    exact hrotate.trans (leaves_schedule h)
  · cases h
    exact .of_eq rfl rfl rfl

theorem leaves_exit (h : s.rtThreadExit k = some t) : Leaves s t := by
  have hclose : Leaves s (s.setThread k { s.thread k with stat := .close }) :=
    leaves_setThread rfl rfl
  have hremove : Leaves (s.setThread k { s.thread k with stat := .close })
      { (s.rtScheduleRemoveThread k).setThread k { s.thread k with stat := .close } with
        timers := s.timers.remove k } := .of_eq rfl rfl rfl
  exact (hclose.trans hremove).trans (leaves_schedule h)

theorem leaves_tick (h : s.rtTickIncrease more k = some t) : Leaves s t := by
  rw [rtTickIncrease, Option.bind_eq_some_iff] at h
  obtain ⟨u, hu, h⟩ := h
  obtain ⟨timers, _, h⟩ := Option.bind_eq_some_iff.1 h
  have hslice : Leaves s u := by
    obtain ⟨n, hslice⟩ := timeSlice_eq s k
    have hspent : Leaves s (s.setThread k { s.thread k with remainingTick := n }) :=
      leaves_setThread rfl rfl
    rw [hu] at hslice
    rcases hslice with hslice | hslice
    · exact hspent.trans (leaves_yield hslice.symm)
    · cases hslice
      exact hspent
  have htimers : Leaves u { u with timers } := .of_eq rfl rfl rfl
  exact (hslice.trans htimers).trans (leaves_timeouts h)

def Unmet (s : Kernel ι κ) : Prop :=
  ∀ e k, k ∈ (s.event e).suspendThread →
    satisfied (s.thread k).eventInfo (s.thread k).eventSet (s.event e).set = none

/-- The same, but for threads of an event's list that have not been looked at yet. -/
def UnmetBut (e : κ) (l : List ι) (s : Kernel ι κ) : Prop :=
  ∀ f k, k ∈ (s.event f).suspendThread → (f = e → k ∉ l) →
    satisfied (s.thread k).eventInfo (s.thread k).eventSet (s.event f).set = none

omit [DecidableEq ι] in
theorem Unmet.leaves (h : Unmet s) (hl : Leaves s t) : Unmet t := by
  intro e k hk
  rw [hl.info, hl.wanted, hl.set]
  exact h e k (hl.sub e hk)

variable [DecidableEq κ]

omit [DecidableEq ι] in
@[simp] theorem setEvent_self (s : Kernel ι κ) (e : κ) (o : EventObject ι) :
    (s.setEvent e o).event e = o := Function.update_self ..

omit [DecidableEq ι] in
theorem setEvent_other {f : κ} (h : f ≠ e) (s : Kernel ι κ) (o : EventObject ι) :
    (s.setEvent e o).event f = s.event f := Function.update_of_ne h ..

omit [DecidableEq ι] in
theorem take_event (s : Kernel ι κ) (k : ι) (e : κ) (option : UInt8) (b c : UInt32) (f : κ) :
    ((s.take k e option b c).event f).suspendThread = (s.event f).suspendThread ∧
    (((s.take k e option b c).event f).set = (s.event f).set ∨
      ((s.take k e option b c).event f).set = (s.event f).set &&& ~~~ c) := by
  rw [take]
  split
  · by_cases hf : f = e
    · subst hf
      rw [setEvent_self]
      exact ⟨rfl, .inr rfl⟩
    · rw [setEvent_other hf]
      exact ⟨rfl, .inl rfl⟩
  · exact ⟨rfl, .inl rfl⟩

omit [DecidableEq ι] in
theorem satisfied_take {o option : UInt8} {w b c : UInt32} {f : κ}
    (h : satisfied o w (s.event f).set = none) :
    satisfied o w ((s.take k e option b c).event f).set = none := by
  rcases (take_event s k e option b c f).2 with heq | heq
  · rw [heq, h]
  · rw [heq]
    exact satisfied_clear h c

theorem UnmetBut.resumeIf {l : List ι} {p : Kernel ι κ × Bool} (h : UnmetBut e (k :: l) p.1)
    (hs : Sound p.1) (hk : (p.1.thread k).stat = .suspend) :
    UnmetBut e l (resumeIf e p k).1 := by
  rcases resumeIf_cases e p k with ⟨hnone, heq⟩ | ⟨bits, _, heq⟩
  · rw [heq]
    intro f j hj hjl
    by_cases hjk : f = e ∧ j = k
    · obtain ⟨rfl, rfl⟩ := hjk
      exact hnone
    · refine h f j hj fun hf hin => ?_
      rcases List.mem_cons.1 hin with rfl | hin
      · exact hjk ⟨hf, rfl⟩
      · exact hjl hf hin
  · have hstat : (((p.1.setThread k { p.1.thread k with eventSet := bits }).take k e
        (p.1.thread k).eventInfo bits bits).thread k).stat = .suspend := by
      rw [take_thread, setThread_self]
      exact hk
    rw [heq, rtThreadResume_eq hstat]
    intro f j hj hjl
    dsimp only at hj ⊢
    rw [(take_event ..).1] at hj
    obtain ⟨hjk, hin⟩ := (hs.waiting.nodup f).mem_erase_iff.1 hj
    rw [Function.update_of_ne hjk, take_thread, setThread_other hjk]
    refine satisfied_take (h f j hin fun hf hin' => ?_)
    rcases List.mem_cons.1 hin' with rfl | hin'
    · exact hjk rfl
    · exact hjl hf hin'

theorem UnmetBut.resumeAll {l : List ι} {p : Kernel ι κ × Bool} (h : UnmetBut e l p.1)
    (hs : Sound p.1) (hl : ∀ k ∈ l, (p.1.thread k).stat = .suspend) (hnodup : l.Nodup) :
    Unmet (l.foldl (Kernel.resumeIf e) p).1 := by
  induction l generalizing p with
  | nil => exact fun f k hk => h f k hk fun _ => List.not_mem_nil
  | cons k l ih =>
    obtain ⟨hk, hnodup⟩ := List.nodup_cons.1 hnodup
    obtain ⟨hsound, hother, _⟩ := hs.resumeIf (e := e) (hl k List.mem_cons_self)
    refine ih (h.resumeIf hs (hl k List.mem_cons_self)) hsound (fun j hj => ?_) hnodup
    rw [hother j fun he => hk (he ▸ hj)]
    exact hl j (List.mem_cons_of_mem k hj)

theorem Unmet.send (h : Unmet s) (hs : Sound s) {set : UInt32}
    (ht : s.rtEventSend e set = some t) : Unmet t := by
  rw [rtEventSend] at ht
  split at ht
  · cases ht
    exact h
  · have hset : Sound (s.setEvent e { s.event e with set := (s.event e).set ||| set }) :=
      hs.setEvent rfl
    have hlist : ((s.setEvent e { s.event e with set := (s.event e).set ||| set }).event
        e).suspendThread = (s.event e).suspendThread := by
      rw [setEvent_self]
    have hbut : UnmetBut e (s.event e).suspendThread
        (s.setEvent e { s.event e with set := (s.event e).set ||| set }) := by
      intro f k hk hkl
      by_cases hf : f = e
      · subst hf
        rw [hlist] at hk
        exact absurd hk (hkl rfl)
      · rw [setEvent_other hf] at hk ⊢
        exact h f k hk
    have hall := hbut.resumeAll
      (p := (s.setEvent e { s.event e with set := (s.event e).set ||| set }, false)) hset
      (fun k hk => hs.waiting.suspended hk) (hs.waiting.nodup e)
    dsimp only at ht
    rw [hlist] at ht
    split at ht
    · exact hall.leaves (leaves_schedule ht)
    · cases ht
      exact hall

theorem Unmet.wait (h : Unmet s) (hs : Sound s) (hk : (s.thread k).stat = .ready) {x : Thread}
    (hnone : satisfied x.eventInfo x.eventSet (s.event e).set = none) :
    Unmet ((s.setThread k x).rtIpcListSuspend k e) := by
  have hleaves := leaves_suspend (s.setThread k x) k
  have hkept (f : κ) {j : ι}
      (hj : j ∈ (((s.setThread k x).rtThreadSuspend k).event f).suspendThread) :
      j ∈ (s.event f).suspendThread ∧ j ≠ k := by
    have hin := hleaves.sub f hj
    refine ⟨hin, ?_⟩
    rintro rfl
    exact hs.not_waiting (by rw [hk]; rintro ⟨⟩) f hin
  intro f j hj
  change satisfied (((s.setThread k x).rtThreadSuspend k).thread j).eventInfo
    (((s.setThread k x).rtThreadSuspend k).thread j).eventSet _ = none
  rw [rtIpcListSuspend] at hj ⊢
  rw [hleaves.info, hleaves.wanted]
  by_cases hf : f = e
  · subst hf
    rw [setEvent_self] at hj ⊢
    dsimp only at hj ⊢
    rw [hleaves.set]
    rcases List.mem_cons.1 ((suspendAt_perm ..).mem_iff.1 hj) with rfl | hj
    · rw [setThread_self]
      exact hnone
    · obtain ⟨hin, hjk⟩ := hkept f hj
      rw [setThread_other hjk]
      exact h f j hin
  · rw [setEvent_other hf] at hj ⊢
    obtain ⟨hin, hjk⟩ := hkept f hj
    rw [hleaves.set, setThread_other hjk]
    exact h f j hin

theorem Unmet.recv (h : Unmet s) (hs : Sound s) (hk : s.running = some k) {set : UInt32}
    {option : UInt8} {timeout : Int32} (ht : s.rtEventRecv k e set option timeout = some t) :
    Unmet t := by
  obtain ⟨_, hready⟩ := running_eq_some.1 hk
  rcases rtEventRecv_cases ht with ⟨_, rfl⟩ | ⟨_, rfl⟩ | ⟨_, rfl⟩ | ⟨hnone, _, u, rfl, ht⟩
  · exact h
  · have hset : Unmet (s.setThread k { s.thread k with timedOut := false }) :=
      h.leaves (leaves_setThread rfl rfl)
    intro f j hj
    rw [(take_event ..).1] at hj
    rw [take_thread]
    exact satisfied_take (hset f j hj)
  · exact h.leaves (leaves_setThread rfl rfl)
  · have hwaits := h.wait hs hready (e := e)
      (x := { s.thread k with timedOut := false, eventSet := set, eventInfo := option }) hnone
    rcases ht with ⟨_, ht⟩ | ⟨_, rfl⟩
    · exact hwaits.leaves (leaves_startTimer ht)
    · exact hwaits

theorem leaves_step {a : KernelEvent ι κ} (h : Kernel.step more s a = some t)
    (hr : ∀ e set option timeout, a ≠ .recv e set option timeout) (hs : ∀ e set, a ≠ .send e set) :
    Leaves s t := by
  cases a with
  | startup k => exact leaves_startup h
  | start =>
    obtain ⟨_, h⟩ := Option.ite_none_right_eq_some.1 h
    exact leaves_schedule h
  | schedule =>
    obtain ⟨_, h⟩ := Option.ite_none_left_eq_some.1 h
    exact leaves_schedule h
  | yield =>
    obtain ⟨k, _, h⟩ := Option.bind_eq_some_iff.1 h
    exact leaves_yield h
  | sleep tick =>
    obtain ⟨k, _, h⟩ := Option.bind_eq_some_iff.1 h
    exact (leaves_suspend s k).trans (leaves_startTimer h)
  | exit =>
    obtain ⟨k, _, h⟩ := Option.bind_eq_some_iff.1 h
    exact leaves_exit h
  | recv e set option timeout => exact absurd rfl (hr e set option timeout)
  | send e set => exact absurd rfl (hs e set)
  | tick =>
    obtain ⟨k, _, h⟩ := Option.bind_eq_some_iff.1 h
    exact leaves_tick h

theorem Unmet.step {a : KernelEvent ι κ} (h : Unmet s) (hs : Sound s)
    (ht : Kernel.step more s a = some t) : Unmet t := by
  cases a with
  | recv e set option timeout =>
    obtain ⟨k, hk, ht⟩ := Option.bind_eq_some_iff.1 ht
    exact h.recv hs hk ht
  | send e set => exact h.send hs ht
  | startup | start | schedule | yield | sleep | exit | tick =>
    exact h.leaves (leaves_step ht (by rintro _ _ _ _ ⟨⟩) (by rintro _ _ ⟨⟩))

/-- In every run no thread waits for bits that its event has: whatever is sent by threads and
interrupts, in whatever order the threads wait, one for all its bits and another for any, whether or
not they clear them, and whenever their timers end their waiting. -/
theorem no_lost_wakeup {thread : ι → Thread} {prio : κ → Bool} {es : List (KernelEvent ι κ)}
    (h : run (Kernel.step more) (boot thread prio) es = some s) (e : κ) (k : ι)
    (hk : k ∈ (s.event e).suspendThread) :
    (s.thread k).stat = .suspend ∧
      satisfied (s.thread k).eventInfo (s.thread k).eventSet (s.event e).set = none := by
  have hall := run_invariant
    (P := fun s : Kernel ι κ => (Sound s ∧ Scheduled s) ∧ Unmet s)
    (fun s a t hp hs => ⟨hp.1.1.step hp.1.2 hs, hp.2.step hp.1.1 hs⟩)
    ⟨⟨sound_boot thread prio, fun k hk => by cases (running_eq_some.1 hk).1⟩,
      fun e k hk => absurd hk List.not_mem_nil⟩ h
  exact ⟨hall.1.1.waiting.suspended hk, hall.2 e k hk⟩

theorem no_lost_wakeup_unit : ∃ s : Kernel UnitThread Unit,
    run (Kernel.step 0) .unit unitWaits = some s ∧ (s.thread .rcvProcess).stat = .suspend ∧
      satisfied (s.thread .rcvProcess).eventInfo (s.thread .rcvProcess).eventSet (s.event ()).set =
        none := by
  have hany : (run (Kernel.step 0) .unit unitWaits).any fun s =>
      .rcvProcess ∈ (s.event ()).suspendThread := by
    decide +kernel
  obtain ⟨s, hs, hk⟩ := (Option.any_eq_true ..).1 hany
  exact ⟨s, hs, no_lost_wakeup hs () _ (of_decide_eq_true hk)⟩

def watchRaised (m : κ → Fin 32 → Nat) (s : Kernel ι κ) (a : KernelEvent ι κ) (_ : Kernel ι κ) :
    κ → Fin 32 → Nat :=
  match a with
  | .send e set => fun f p =>
    m f p + if f = e ∧ hasBit set p = true ∧ hasBit (s.event e).set p = false then 1 else 0
  | _ => m

def taken (s : Kernel ι κ) (e : κ) (p : Fin 32) : Nat :=
  s.received.countP fun r => decide (r.event = e) && r.clear && hasBit r.bits p

/-- How often a bit has been taken, and once more if it is set. -/
def held (s : Kernel ι κ) (e : κ) (p : Fin 32) : Nat :=
  s.taken e p + (hasBit (s.event e).set p).toNat

omit [DecidableEq ι] in
theorem Leaves.held (h : Leaves s t) : t.held = s.held := by
  funext e p
  rw [Kernel.held, Kernel.held, taken, taken, h.received, h.set]

omit [DecidableEq ι] in
theorem held_take (s : Kernel ι κ) (k : ι) {e : κ} {option : UInt8} {b c : UInt32}
    (hb : ∀ p, hasBit b p = (hasBit (s.event e).set p && hasBit c p)) :
    (s.take k e option b c).held = s.held := by
  funext f p
  rw [held, held, taken, taken, take]
  split
  · rename_i hclear
    rw [setEvent]
    dsimp only
    rw [hclear, List.countP_append, List.countP_singleton]
    by_cases hf : f = e
    · subst hf
      rw [Function.update_self]
      simp only [decide_true, Bool.true_and, hasBit_and, hasBit_not, hb]
      cases hasBit (s.event f).set p <;> cases hasBit c p <;> rfl
    · rw [Function.update_of_ne hf, decide_eq_false (Ne.symm hf)]
      rfl
  · rename_i hclear
    dsimp only
    rw [Bool.eq_false_iff.2 hclear, List.countP_append, List.countP_singleton, Bool.and_false,
      Bool.false_and]
    rfl

theorem held_resumeIf (e : κ) (p : Kernel ι κ × Bool) (k : ι) :
    (resumeIf e p k).1.held = p.1.held := by
  rcases resumeIf_cases e p k with ⟨_, heq⟩ | ⟨bits, hbits, heq⟩
  · rw [heq]
  · rw [heq, (leaves_resume _ k).held]
    exact held_take (p.1.setThread k { p.1.thread k with eventSet := bits }) k
      (satisfied_bits hbits)

theorem held_resumeAll (e : κ) (l : List ι) (p : Kernel ι κ × Bool) :
    (l.foldl (resumeIf e) p).1.held = p.1.held := by
  induction l generalizing p with
  | nil => rfl
  | cons k l ih => exact (ih (resumeIf e p k)).trans (held_resumeIf e p k)

theorem held_send {set : UInt32} (h : s.rtEventSend e set = some t) (f : κ) (p : Fin 32) :
    t.held f p = s.held f p +
      if f = e ∧ hasBit set p = true ∧ hasBit (s.event e).set p = false then 1 else 0 := by
  rw [rtEventSend] at h
  split at h
  · rename_i hzero
    cases h
    rw [hzero, hasBit_zero, if_neg (by simp), Nat.add_zero]
  · have hset : (s.setEvent e { s.event e with set := (s.event e).set ||| set }).held f p =
        s.held f p +
          if f = e ∧ hasBit set p = true ∧ hasBit (s.event e).set p = false then 1 else 0 := by
      rw [held, held]
      by_cases hf : f = e
      · subst hf
        rw [setEvent_self]
        simp only [true_and, hasBit_or]
        cases hasBit (s.event f).set p <;> cases hasBit set p <;> rfl
      · rw [setEvent_other hf, if_neg fun h => hf h.1]
        rfl
    have hall := held_resumeAll e (s.event e).suspendThread
      (s.setEvent e { s.event e with set := (s.event e).set ||| set }, false)
    have hlist : ((s.setEvent e { s.event e with set := (s.event e).set ||| set }).event
        e).suspendThread = (s.event e).suspendThread := by
      rw [setEvent_self]
    dsimp only at h
    rw [hlist] at h
    rw [← hset]
    split at h
    · rw [(leaves_schedule h).held, hall]
    · cases h
      rw [hall]

theorem held_wait (s : Kernel ι κ) (k : ι) (e : κ) (x : Thread) :
    ((s.setThread k x).rtIpcListSuspend k e).held = s.held := by
  have hleaves := leaves_suspend (s.setThread k x) k
  have hsuspend : ((s.setThread k x).rtIpcListSuspend k e).held =
      ((s.setThread k x).rtThreadSuspend k).held := by
    funext f p
    rw [held, held, rtIpcListSuspend]
    by_cases hf : f = e
    · subst hf
      rw [setEvent_self]
      rfl
    · rw [setEvent_other hf]
      rfl
  exact hsuspend.trans hleaves.held

theorem held_recv {set : UInt32} {option : UInt8} {timeout : Int32}
    (h : s.rtEventRecv k e set option timeout = some t) : t.held = s.held := by
  rcases rtEventRecv_cases h with ⟨_, rfl⟩ | ⟨_, rfl⟩ | ⟨_, rfl⟩ | ⟨_, _, u, hu, h⟩
  · rfl
  · exact held_take (s.setThread k { s.thread k with timedOut := false }) k fun p => hasBit_and
  · rfl
  · have hwait : u.held = s.held := hu ▸ held_wait s k e _
    rcases h with ⟨_, h⟩ | ⟨_, rfl⟩
    · exact (leaves_startTimer h).held.trans hwait
    · exact hwait

/-- In every run every raising of a bit has been taken by exactly one thread that clears it, or the
bit is still set. -/
theorem bits_taken_once {thread : ι → Thread} {prio : κ → Bool} {es : List (KernelEvent ι κ)}
    {m : κ → Fin 32 → Nat}
    (h : run (observe (Kernel.step more) watchRaised) (boot thread prio, fun _ _ => 0) es =
      some (s, m)) (e : κ) (p : Fin 32) :
    m e p = s.taken e p + if hasBit (s.event e).set p = true then 1 else 0 := by
  have hall := run_invariant
    (P := fun q : Kernel ι κ × (κ → Fin 32 → Nat) => ∀ e p, q.2 e p = q.1.held e p)
    (fun q a q' hq hs => by
      obtain ⟨hstep, hwatch⟩ := observe_eq_some.1 hs
      intro e p
      rw [hwatch]
      cases a with
      | recv f set option timeout =>
        obtain ⟨k, _, hstep⟩ := Option.bind_eq_some_iff.1 hstep
        rw [held_recv hstep]
        exact hq e p
      | send f set =>
        rw [held_send hstep, ← hq e p]
        rfl
      | startup | start | schedule | yield | sleep | exit | tick =>
        have hleaves := leaves_step hstep (by rintro _ _ _ _ ⟨⟩) (by rintro _ _ ⟨⟩)
        rw [hleaves.held]
        exact hq e p)
    (fun e p => by
      rw [held, boot, taken, hasBit_zero]
      rfl) h
  have hp := hall e p
  rw [held] at hp
  rw [show m e p = _ from hp]
  cases hasBit (s.event e).set p <;> rfl

theorem bits_taken_once_unit : ∃ (s : Kernel UnitThread Unit) (m : Unit → Fin 32 → Nat),
    run (observe (Kernel.step 0) watchRaised) (.unit, fun _ _ => 0)
      (unitWaits ++ [.send () 1, .send () 2, .send () 1]) = some (s, m) ∧
    m () 0 = s.taken () 0 + if hasBit (s.event ()).set 0 = true then 1 else 0 := by
  have hrun : (run (observe (Kernel.step 0) watchRaised) (.unit, fun _ _ => 0)
      (unitWaits ++ [.send () 1, .send () 2, .send () 1])).isSome := by
    decide +kernel
  obtain ⟨⟨s, m⟩, hs⟩ := Option.isSome_iff_exists.1 hrun
  exact ⟨s, m, hs, bits_taken_once hs () 0⟩

end Kernel

end CountdownOutside
