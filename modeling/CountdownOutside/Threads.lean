import CountdownOutside.Kernel

namespace CountdownOutside
set_option autoImplicit true

namespace Ready

variable {ι : Type u} {r : Ready ι} {p q : Fin 32} {j k : ι}

theorem mem_insert : j ∈ (r.insert p k).table q ↔ j ∈ r.table q ∨ q = p ∧ j = k := by
  rw [insert]
  by_cases hq : q = p
  · subst hq
    simp
  · simp [hq]

variable [DecidableEq ι]

theorem mem_remove (h : (r.table p).Nodup) :
    j ∈ (r.remove p k).table q ↔ j ∈ r.table q ∧ ¬ (q = p ∧ j = k) := by
  rw [remove]
  by_cases hq : q = p
  · subst hq
    simp [h.mem_erase_iff, and_comm]
  · simp [hq]

theorem mem_rotate (h : (r.table p).Nodup) (hk : k ∈ r.table p) :
    j ∈ (r.rotate p k).table q ↔ j ∈ r.table q := by
  rw [rotate]
  by_cases hq : q = p
  · subst hq
    by_cases hj : j = k
    · subst hj
      simp [hk]
    · simp [h.mem_erase_iff, hj]
  · simp [hq]

end Ready

/-- Each ready thread stands once in the list of its priority, and no other thread does. -/
structure Queued (thread : ι → Thread) (r : Ready ι) : Prop where
  mem : ∀ {p k}, k ∈ r.table p ↔ (thread k).stat = .ready ∧ (thread k).currentPriority = p
  nodup : ∀ p, (r.table p).Nodup
  marked : r.Marked

namespace Queued

variable {ι : Type u} {thread : ι → Thread} {r : Ready ι} {k : ι} {t : Thread}

theorem highest_isSome (h : Queued thread r) (hk : (thread k).stat = .ready) :
    r.highest.isSome :=
  h.marked.highest_isSome (List.ne_nil_of_mem (h.mem.2 ⟨hk, rfl⟩))

theorem highest (h : Queued thread r) (hk : r.highest = some k) :
    (thread k).stat = .ready ∧ (r.table (thread k).currentPriority).head? = some k ∧
      ∀ j, (thread j).stat = .ready → (thread k).currentPriority ≤ (thread j).currentPriority := by
  obtain ⟨p, hlow, hhead⟩ := h.marked.highest_eq_some.1 hk
  obtain ⟨hready, rfl⟩ := h.mem.1 (List.mem_of_head? hhead)
  refine ⟨hready, hhead, fun j hj => ?_⟩
  by_contra hlt
  have hin : j ∈ r.table (thread j).currentPriority := h.mem.2 ⟨hj, rfl⟩
  rw [hlow _ (not_le.1 hlt)] at hin
  cases hin

variable [DecidableEq ι]

theorem keep (h : Queued thread r) (hs : t.stat = (thread k).stat)
    (hp : t.currentPriority = (thread k).currentPriority) :
    Queued (Function.update thread k t) r where
  mem := by
    intro p j
    by_cases hj : j = k
    · subst hj
      rw [Function.update_self, hs, hp]
      exact h.mem
    · rw [Function.update_of_ne hj]
      exact h.mem
  nodup := h.nodup
  marked := h.marked

theorem wake (h : Queued thread r) (hk : (thread k).stat ≠ .ready) (hs : t.stat = .ready)
    (hp : t.currentPriority = (thread k).currentPriority) :
    Queued (Function.update thread k t) (r.insert (thread k).currentPriority k) where
  mem := by
    intro p j
    rw [Ready.mem_insert, h.mem]
    by_cases hj : j = k
    · subst hj
      rw [Function.update_self, hs, hp]
      simp [hk, eq_comm]
    · rw [Function.update_of_ne hj]
      simp [hj]
  nodup := by
    intro p
    rw [Ready.insert]
    dsimp only
    by_cases hp : p = (thread k).currentPriority
    · subst hp
      have hnew : k ∉ r.table (thread k).currentPriority := fun hin => hk (h.mem.1 hin).1
      rw [Function.update_self]
      exact List.nodup_append'.2 ⟨h.nodup _, List.nodup_singleton k, by simpa using hnew⟩
    · rw [Function.update_of_ne hp]
      exact h.nodup p
  marked := h.marked.insert _ k

theorem sleep (h : Queued thread r) (hk : (thread k).stat = .ready) (hs : t.stat ≠ .ready) :
    Queued (Function.update thread k t) (r.remove (thread k).currentPriority k) where
  mem := by
    intro p j
    rw [Ready.mem_remove (h.nodup _), h.mem]
    by_cases hj : j = k
    · subst hj
      rw [Function.update_self]
      simp [hs, hk, eq_comm]
    · rw [Function.update_of_ne hj]
      simp [hj]
  nodup := by
    intro p
    rw [Ready.remove]
    dsimp only
    by_cases hp : p = (thread k).currentPriority
    · subst hp
      rw [Function.update_self]
      exact (h.nodup _).erase k
    · rw [Function.update_of_ne hp]
      exact h.nodup p
  marked := h.marked.remove _ k

theorem rotate (h : Queued thread r) (hk : (thread k).stat = .ready) :
    Queued thread (r.rotate (thread k).currentPriority k) where
  mem := (Ready.mem_rotate (h.nodup _) (h.mem.2 ⟨hk, rfl⟩)).trans h.mem
  nodup := by
    intro p
    rw [Ready.rotate]
    dsimp only
    by_cases hp : p = (thread k).currentPriority
    · subst hp
      rw [Function.update_self]
      have hnone := (h.nodup (thread k).currentPriority).not_mem_erase (a := k)
      exact List.nodup_append'.2 ⟨(h.nodup _).erase k, List.nodup_singleton k, by simpa using hnone⟩
    · rw [Function.update_of_ne hp]
      exact h.nodup p
  marked := h.marked.rotate (h.mem.2 ⟨hk, rfl⟩)

end Queued

/-- The threads in an event's list are suspended, and each waits for one event only. -/
structure Waiting (thread : ι → Thread) (event : κ → EventObject ι) : Prop where
  suspended : ∀ {e k}, k ∈ (event e).suspendThread → (thread k).stat = .suspend
  nodup : ∀ e, (event e).suspendThread.Nodup
  once : ∀ {e f k}, k ∈ (event e).suspendThread → k ∈ (event f).suspendThread → e = f

namespace Waiting

variable {ι : Type u} {κ : Type v} [DecidableEq ι] {thread : ι → Thread}
variable {event : κ → EventObject ι} {k : ι} {e : κ} {t : Thread} {o : EventObject ι}

theorem keep (h : Waiting thread event) (hs : t.stat = (thread k).stat) :
    Waiting (Function.update thread k t) event where
  suspended := by
    intro e j hj
    by_cases hjk : j = k
    · subst hjk
      rw [Function.update_self, hs]
      exact h.suspended hj
    · rw [Function.update_of_ne hjk]
      exact h.suspended hj
  nodup := h.nodup
  once := h.once

theorem free (h : Waiting thread event) (hk : ∀ e, k ∉ (event e).suspendThread) (t : Thread) :
    Waiting (Function.update thread k t) event where
  suspended := by
    intro e j hj
    have hjk : j ≠ k := fun he => hk e (he ▸ hj)
    rw [Function.update_of_ne hjk]
    exact h.suspended hj
  nodup := h.nodup
  once := h.once

theorem unlink (h : Waiting thread event) (k : ι) (t : Thread) :
    Waiting (Function.update thread k t)
      fun e => { event e with suspendThread := (event e).suspendThread.erase k } where
  suspended := by
    intro e j hj
    obtain ⟨hjk, hin⟩ := (h.nodup e).mem_erase_iff.1 hj
    rw [Function.update_of_ne hjk]
    exact h.suspended hin
  nodup e := (h.nodup e).erase k
  once hj hj' := h.once (List.mem_of_mem_erase hj) (List.mem_of_mem_erase hj')

variable [DecidableEq κ]

omit [DecidableEq ι] in
theorem set (h : Waiting thread event) (ho : o.suspendThread = (event e).suspendThread) :
    Waiting thread (Function.update event e o) := by
  have hsame (f : κ) : (Function.update event e o f).suspendThread = (event f).suspendThread := by
    by_cases hf : f = e
    · subst hf
      rw [Function.update_self, ho]
    · rw [Function.update_of_ne hf]
  refine ⟨?_, ?_, ?_⟩
  · intro f j hj
    rw [hsame] at hj
    exact h.suspended hj
  · intro f
    rw [hsame]
    exact h.nodup f
  · intro f f' j hj hj'
    rw [hsame] at hj hj'
    exact h.once hj hj'

theorem add (h : Waiting thread event) (hk : ∀ e, k ∉ (event e).suspendThread)
    (ht : t.stat = .suspend) (ho : o.suspendThread.Perm (k :: (event e).suspendThread)) :
    Waiting (Function.update thread k t) (Function.update event e o) := by
  have hmem (f : κ) (j : ι) : j ∈ (Function.update event e o f).suspendThread ↔
      j ∈ (event f).suspendThread ∨ f = e ∧ j = k := by
    by_cases hf : f = e
    · subst hf
      rw [Function.update_self, ho.mem_iff, List.mem_cons]
      simp [or_comm]
    · simp [hf]
  refine ⟨?_, ?_, ?_⟩
  · intro f j hj
    rcases (hmem f j).1 hj with hin | ⟨_, rfl⟩
    · have hjk : j ≠ k := fun he => hk f (he ▸ hin)
      rw [Function.update_of_ne hjk]
      exact h.suspended hin
    · rw [Function.update_self]
      exact ht
  · intro f
    by_cases hf : f = e
    · subst hf
      rw [Function.update_self]
      exact ho.nodup_iff.2 (List.nodup_cons.2 ⟨hk f, h.nodup f⟩)
    · rw [Function.update_of_ne hf]
      exact h.nodup f
  · intro f f' j hj hj'
    rcases (hmem f j).1 hj with hin | ⟨rfl, rfl⟩
    · rcases (hmem f' j).1 hj' with hin' | ⟨_, rfl⟩
      · exact h.once hin hin'
      · exact absurd hin (hk f)
    · rcases (hmem f' j).1 hj' with hin' | ⟨rfl, _⟩
      · exact absurd hin' (hk f')
      · rfl

end Waiting

theorem suspendAt_perm (thread : ι → Thread) (prio : Bool) (k : ι) (l : List ι) :
    (suspendAt thread prio k l).Perm (k :: l) := by
  rw [suspendAt]
  split
  · exact List.perm_orderedInsert _ k l
  · exact List.perm_append_singleton k l

namespace Kernel

open Timers

variable {ι : Type u} {κ : Type v} {s t : Kernel ι κ} {k : ι} {e : κ} {more : Nat}

theorem lone_tick_eq {l m : Lone} (hp : l.periodic = false) (h : l.tick = some m) :
    m.periodic = false ∧ (m.left ≠ none → l.left ≠ none) := by
  rw [Lone.tick] at h
  split at h
  · cases h
    rename_i hl
    exact ⟨hp, fun hne => hne⟩
  · rename_i n hl
    refine ⟨?_, fun _ hnone => by cases hl.symm.trans hnone⟩
    split at h
    · rw [Lone.expire] at h
      dsimp only at h
      rw [hp, if_neg Bool.false_ne_true] at h
      cases h
      rfl
    · cases h
      exact hp

/-- The thread that is running is the one that the scheduler would choose. -/
def Scheduled (s : Kernel ι κ) : Prop := ∀ k, s.running = some k → s.ready.highest = some k

theorem running_eq_some :
    s.running = some k ↔ s.current = some k ∧ (s.thread k).stat = .ready := by
  rw [running, Option.filter_eq_some_iff, decide_eq_true_eq]

theorem rtSchedule_eq_some :
    s.rtSchedule = some t ↔ ∃ k, s.ready.highest = some k ∧ t = { s with current := some k } := by
  rw [rtSchedule, Option.map_eq_some_iff]
  exact exists_congr fun k => and_congr_right fun _ => eq_comm

theorem scheduled_of_suspended (hc : s.current = some k) (hk : (s.thread k).stat ≠ .ready) :
    Scheduled s := by
  intro j hj
  obtain ⟨hcurrent, hready⟩ := running_eq_some.1 hj
  rw [hc, Option.some.injEq] at hcurrent
  rw [← hcurrent] at hready
  exact absurd hready hk

theorem Scheduled.keep (h : Scheduled s) (hc : t.current = s.current) (hr : t.ready = s.ready)
    (hstat : ∀ k, (t.thread k).stat = .ready → (s.thread k).stat = .ready) : Scheduled t := by
  intro k hk
  obtain ⟨hcurrent, hready⟩ := running_eq_some.1 hk
  rw [hr]
  exact h k (running_eq_some.2 ⟨hc.symm.trans hcurrent, hstat k hready⟩)

variable [DecidableEq ι]

/-- The lists, the bit map and the timers are as the threads' states say. -/
structure Sound (s : Kernel ι κ) : Prop where
  queued : Queued s.thread s.ready
  waiting : Waiting s.thread s.event
  settled : s.timers.Settled
  armed : ∀ {k}, (lone k s.timers).left ≠ none → (s.thread k).stat = .suspend
  oneshot : ∀ k, (lone k s.timers).periodic = false

theorem Sound.not_waiting (h : Sound s) (hk : (s.thread k).stat ≠ .suspend) (e : κ) :
    k ∉ (s.event e).suspendThread := fun hin => hk (h.waiting.suspended hin)

theorem sound_boot (thread : ι → Thread) (prio : κ → Bool) : Sound (boot thread prio) where
  queued := ⟨by intro p k; exact iff_of_false (List.not_mem_nil) (fun h => by cases h.1),
    fun _ => List.nodup_nil, Ready.marked_empty⟩
  waiting := ⟨fun h => absurd h List.not_mem_nil, fun _ => List.nodup_nil,
    fun h => absurd h List.not_mem_nil⟩
  settled := settled_boot _
  armed h := absurd rfl h
  oneshot _ := rfl

@[simp] theorem setThread_self (s : Kernel ι κ) (k : ι) (x : Thread) :
    (s.setThread k x).thread k = x := Function.update_self ..

theorem setThread_other {j : ι} (h : j ≠ k) (s : Kernel ι κ) (x : Thread) :
    (s.setThread k x).thread j = s.thread j := Function.update_of_ne h ..

theorem Sound.setThread (h : Sound s) {x : Thread} (hs : x.stat = (s.thread k).stat)
    (hp : x.currentPriority = (s.thread k).currentPriority) : Sound (s.setThread k x) where
  queued := h.queued.keep hs hp
  waiting := h.waiting.keep hs
  settled := h.settled
  armed := by
    intro j hj
    have hsuspend := h.armed hj
    rw [Kernel.setThread]
    dsimp only
    by_cases hjk : j = k
    · subst hjk
      rw [Function.update_self, hs, hsuspend]
    · rw [Function.update_of_ne hjk, hsuspend]
  oneshot := h.oneshot

theorem Sound.stopped (h : Sound s) (k j : ι) : (s.timers.rtTimerStop k).Settled ∧
    ((lone j (s.timers.rtTimerStop k)).left ≠ none → j ≠ k ∧ (s.thread j).stat = .suspend) ∧
    (lone j (s.timers.rtTimerStop k)).periodic = false := by
  obtain ⟨hsettled, hlone⟩ := h.settled.stop k
  refine ⟨hsettled, ?_, ?_⟩
  · rw [hlone]
    split
    · exact fun hne => absurd rfl hne
    · rename_i hjk
      exact fun hne => ⟨hjk, h.armed hne⟩
  · rw [hlone]
    split
    · exact h.oneshot k
    · exact h.oneshot j

theorem rtThreadSuspend_eq (hk : (s.thread k).stat = .ready) : s.rtThreadSuspend k =
    { s with
      thread := Function.update s.thread k { s.thread k with stat := .suspend }
      ready := s.ready.remove (s.thread k).currentPriority k
      timers := s.timers.rtTimerStop k } := by
  rw [rtThreadSuspend, if_pos hk, rtScheduleRemoveThread, Kernel.setThread]
  dsimp only
  rw [Function.update_self]

theorem rtThreadSuspend_stat (hk : (s.thread k).stat = .ready) :
    ((s.rtThreadSuspend k).thread k).stat = .suspend := by
  rw [rtThreadSuspend_eq hk]
  dsimp only
  rw [Function.update_self]

theorem Sound.suspend (h : Sound s) (hk : (s.thread k).stat = .ready) :
    Sound (s.rtThreadSuspend k) := by
  rw [rtThreadSuspend_eq hk]
  have hfree := h.not_waiting (k := k) (by rw [hk]; rintro ⟨⟩)
  refine ⟨h.queued.sleep hk (by rintro ⟨⟩), h.waiting.free hfree _, (h.stopped k k).1, ?_,
    fun j => (h.stopped k j).2.2⟩
  intro j hj
  obtain ⟨hjk, hstat⟩ := (h.stopped k j).2.1 hj
  dsimp only
  rw [Function.update_of_ne hjk, hstat]

theorem rtThreadResume_eq (hk : (s.thread k).stat = .suspend) : s.rtThreadResume k =
    { s with
      thread := Function.update s.thread k { s.thread k with stat := .ready }
      ready := s.ready.insert (s.thread k).currentPriority k
      event := fun e => { s.event e with suspendThread := (s.event e).suspendThread.erase k }
      timers := s.timers.rtTimerStop k } := by
  rw [rtThreadResume, if_pos hk]
  rfl

theorem Sound.resume (h : Sound s) (hk : (s.thread k).stat = .suspend) :
    Sound (s.rtThreadResume k) := by
  rw [rtThreadResume_eq hk]
  refine ⟨h.queued.wake (by rw [hk]; rintro ⟨⟩) rfl rfl, h.waiting.unlink k _, (h.stopped k k).1,
    ?_, fun j => (h.stopped k j).2.2⟩
  intro j hj
  obtain ⟨hjk, hstat⟩ := (h.stopped k j).2.1 hj
  dsimp only
  rw [Function.update_of_ne hjk, hstat]

theorem Sound.schedule (h : Sound s) (hs : s.rtSchedule = some t) : Sound t ∧ Scheduled t := by
  obtain ⟨k, hk, rfl⟩ := rtSchedule_eq_some.1 hs
  refine ⟨⟨h.queued, h.waiting, h.settled, h.armed, h.oneshot⟩, ?_⟩
  intro j hj
  obtain ⟨hcurrent, _⟩ := running_eq_some.1 hj
  exact hk.trans hcurrent

theorem rtThreadTimeout_eq (hk : (s.thread k).stat = .suspend) : s.rtThreadTimeout k =
    Kernel.rtSchedule { s with
      thread := Function.update s.thread k { s.thread k with stat := .ready, timedOut := true }
      ready := s.ready.insert (s.thread k).currentPriority k
      event := fun e =>
        { s.event e with suspendThread := (s.event e).suspendThread.erase k } } := by
  rw [rtThreadTimeout, if_pos hk]
  simp only [rtScheduleInsertThread, unlink, Kernel.setThread, Function.update_self,
    Function.update_idem]

/-- The assertion of `rt_thread_timeout` holds, and there is a thread to switch to. -/
theorem Sound.timeout (h : Sound s) (hk : (s.thread k).stat = .suspend)
    (hleft : (lone k s.timers).left = none) : ∃ t, s.rtThreadTimeout k = some t ∧ Sound t ∧
      Scheduled t ∧ t.timers = s.timers ∧ t.received = s.received ∧ t.current.isSome ∧
      t.thread = Function.update s.thread k { s.thread k with stat := .ready, timedOut := true } ∧
      t.event = fun e =>
        { s.event e with suspendThread := (s.event e).suspendThread.erase k } := by
  rw [rtThreadTimeout_eq hk]
  have hsound : Sound { s with
      thread := Function.update s.thread k { s.thread k with stat := .ready, timedOut := true }
      ready := s.ready.insert (s.thread k).currentPriority k
      event := fun e =>
        { s.event e with suspendThread := (s.event e).suspendThread.erase k } } := by
    refine ⟨h.queued.wake (by rw [hk]; rintro ⟨⟩) rfl rfl, h.waiting.unlink k _, h.settled, ?_,
      h.oneshot⟩
    intro j hj
    have hjk : j ≠ k := by
      rintro rfl
      exact hj hleft
    dsimp only
    rw [Function.update_of_ne hjk]
    exact h.armed hj
  obtain ⟨j, hj⟩ := Option.isSome_iff_exists.1
    (hsound.queued.highest_isSome (k := k) (by dsimp only; rw [Function.update_self]))
  have hswitch := rtSchedule_eq_some.2 ⟨j, hj, rfl⟩
  obtain ⟨ht, hscheduled⟩ := hsound.schedule hswitch
  exact ⟨_, hswitch, ht, hscheduled, rfl, rfl, rfl, rfl, rfl⟩

theorem Sound.startTimer (h : Sound s) (hk : (s.thread k).stat = .suspend) {time : UInt32}
    (ht : s.startTimer k time = some t) : Sound t ∧
      ∃ timers, t = { s with timers } ∧ time < tickHalf ∧
        (lone k timers).left = some time.toNat ∧ ∀ j, j ≠ k → lone j timers = lone j s.timers := by
  rw [Kernel.startTimer, Option.map_eq_some_iff] at ht
  obtain ⟨timers, htimers, rfl⟩ := ht
  obtain ⟨hcontrol, hlone⟩ := h.settled.control k (.setTime time)
  replace htimers : Timers.step 0 (s.timers.set k ((s.timers.timer k).control (.setTime time)))
      (.start k) = some timers := htimers
  obtain ⟨hsettled, hstart⟩ := hcontrol.step htimers
  have hself : Lone.start ((lone k s.timers).control (.setTime time)) = some (lone k timers) := by
    have hown := hstart k
    rw [partStep, TimerEvent.onTimer, if_pos rfl, hlone, if_pos rfl] at hown
    exact hown
  have hother (j : ι) (hj : j ≠ k) : lone j timers = lone j s.timers := by
    have hsame := hstart j
    rw [partStep, TimerEvent.onTimer, if_neg (Ne.symm hj), hlone, if_neg hj] at hsame
    exact (Option.some.inj hsame).symm
  rw [Lone.start, Option.ite_none_right_eq_some] at hself
  obtain ⟨htime, hself⟩ := hself
  rw [Option.some.injEq] at hself
  have hlt : time < tickHalf := UInt32.lt_iff_toNat_lt.2 htime
  refine ⟨⟨h.queued, h.waiting, hsettled, ?_, ?_⟩, timers, rfl, hlt, ?_, hother⟩
  · intro j hj
    by_cases hjk : j = k
    · subst hjk
      exact hk
    · exact h.armed (k := j) (by rw [← hother j hjk]; exact hj)
  · intro j
    by_cases hjk : j = k
    · subst hjk
      rw [← hself]
      exact h.oneshot j
    · rw [hother j hjk]
      exact h.oneshot j
  · rw [← hself]
    rfl

theorem Sound.startup (h : Sound s) (hs : s.rtThreadStartup k = some t) :
    Sound t ∧ Scheduled t := by
  rw [rtThreadStartup, Option.ite_none_right_eq_some] at hs
  obtain ⟨hk, hs⟩ := hs
  have hfree := h.not_waiting (k := k) (by rw [hk]; rintro ⟨⟩)
  have hstart : Sound (s.setThread k { s.thread k with stat := .suspend }) := by
    refine ⟨?_, h.waiting.free hfree _, h.settled, ?_, h.oneshot⟩
    · refine ⟨?_, h.queued.nodup, h.queued.marked⟩
      intro p j
      by_cases hjk : j = k
      · subst hjk
        refine iff_of_false (fun hin => ?_) (fun hready => ?_)
        · cases (h.queued.mem.1 hin).1.symm.trans hk
        · rw [setThread_self] at hready
          cases hready.1
      · rw [setThread_other hjk]
        exact h.queued.mem
    · intro j hj
      have hsuspend := h.armed hj
      have hjk : j ≠ k := by
        rintro rfl
        cases hsuspend.symm.trans hk
      rw [setThread_other hjk]
      exact hsuspend
  have hresume := hstart.resume (k := k) (by rw [setThread_self])
  dsimp only at hs
  split at hs
  · rename_i hnone
    cases hs
    refine ⟨hresume, fun j hj => ?_⟩
    cases hnone.symm.trans (running_eq_some.1 hj).1
  · exact hresume.schedule hs

theorem Sound.yield (h : Sound s) (hc : Scheduled s) (k : ι) :
    ∃ t, s.rtThreadYield k = some t ∧ Sound t ∧ Scheduled t ∧ t.thread = s.thread ∧
      t.event = s.event ∧ t.timers = s.timers ∧ t.received = s.received ∧
      (s.current.isSome → t.current.isSome) := by
  rw [rtThreadYield]
  split
  · rename_i hk
    have hrotate : Sound { s with ready := s.ready.rotate (s.thread k).currentPriority k } :=
      ⟨h.queued.rotate hk.1, h.waiting, h.settled, h.armed, h.oneshot⟩
    obtain ⟨j, hj⟩ := Option.isSome_iff_exists.1 (hrotate.queued.highest_isSome hk.1)
    have hswitch := rtSchedule_eq_some.2 ⟨j, hj, rfl⟩
    exact ⟨_, hswitch, (hrotate.schedule hswitch).1, (hrotate.schedule hswitch).2, rfl, rfl, rfl,
      rfl, fun _ => rfl⟩
  · exact ⟨s, rfl, h, hc, rfl, rfl, rfl, rfl, fun hsome => hsome⟩

theorem setThread_stat {x : Thread} (hx : x.stat = (s.thread k).stat) (j : ι) :
    ((s.setThread k x).thread j).stat = (s.thread j).stat := by
  by_cases hj : j = k
  · subst hj
    rw [setThread_self, hx]
  · rw [setThread_other hj]

theorem Sound.sleep (h : Sound s) (hk : s.running = some k) {tick : UInt32}
    (hs : s.rtThreadSleep k tick = some t) : Sound t ∧ Scheduled t := by
  obtain ⟨hcurrent, hready⟩ := running_eq_some.1 hk
  have hstat := rtThreadSuspend_stat hready
  obtain ⟨ht, timers, rfl, _⟩ := (h.suspend hready).startTimer hstat hs
  refine ⟨ht, scheduled_of_suspended (k := k) ?_ (by rw [hstat]; rintro ⟨⟩)⟩
  rw [rtThreadSuspend_eq hready]
  exact hcurrent

/-- The timer of a thread that is ready is off, so that there is nothing to detach. -/
theorem Sound.exit_eq (h : Sound s) (hk : (s.thread k).stat = .ready) : s.rtThreadExit k =
    Kernel.rtSchedule { s with
      thread := Function.update s.thread k { s.thread k with stat := .close }
      ready := s.ready.remove (s.thread k).currentPriority k } := by
  have hoff : k ∉ s.timers.list := by
    intro hin
    have hleft : (lone k s.timers).left ≠ none := by
      rw [lone, alone, if_pos ((h.settled.active k).1 hin)]
      rintro ⟨⟩
    cases hk.symm.trans (h.armed hleft)
  have hsame : s.timers.remove k = s.timers := by
    rw [remove, List.erase_of_not_mem hoff]
  rw [rtThreadExit, rtScheduleRemoveThread, Kernel.setThread]
  dsimp only
  rw [hsame]

theorem Sound.exit (h : Sound s) (hk : s.running = some k) (hs : s.rtThreadExit k = some t) :
    Sound t ∧ Scheduled t := by
  obtain ⟨_, hready⟩ := running_eq_some.1 hk
  rw [h.exit_eq hready] at hs
  have hfree := h.not_waiting (k := k) (by rw [hready]; rintro ⟨⟩)
  refine Sound.schedule ?_ hs
  refine ⟨h.queued.sleep hready (by rintro ⟨⟩), h.waiting.free hfree _, h.settled, ?_, h.oneshot⟩
  intro j hj
  have hsuspend := h.armed hj
  have hjk : j ≠ k := by
    rintro rfl
    cases hready.symm.trans hsuspend
  dsimp only
  rw [Function.update_of_ne hjk, hsuspend]

theorem Sound.timeouts {l : List ι} (h : Sound s) (hc : Scheduled s) (hcurrent : s.current.isSome)
    (hl : ∀ k ∈ l, (s.thread k).stat = .suspend ∧ (lone k s.timers).left = none)
    (hnodup : l.Nodup) : ∃ t, l.foldlM rtThreadTimeout s = some t ∧ Sound t ∧ Scheduled t ∧
      t.current.isSome := by
  induction l generalizing s with
  | nil => exact ⟨s, rfl, h, hc, hcurrent⟩
  | cons k l ih =>
    obtain ⟨hk, hnodup⟩ := List.nodup_cons.1 hnodup
    obtain ⟨hstat, hleft⟩ := hl k List.mem_cons_self
    obtain ⟨u, hu, hsound, hsched, htimers, _, hucurrent, hthread, _⟩ := h.timeout hstat hleft
    have hrest : ∀ j ∈ l, (u.thread j).stat = .suspend ∧ (lone j u.timers).left = none := by
      intro j hj
      have hjk : j ≠ k := fun he => hk (he ▸ hj)
      rw [hthread, htimers, Function.update_of_ne hjk]
      exact hl j (List.mem_cons_of_mem k hj)
    obtain ⟨t, ht, hall⟩ := ih hsound hsched hucurrent hrest hnodup
    exact ⟨t, run_cons_eq_some.2 ⟨u, hu, ht⟩, hall⟩

theorem timeSlice_eq (s : Kernel ι κ) (k : ι) : ∃ n : UInt32,
    s.timeSlice k = (s.setThread k { s.thread k with remainingTick := n }).rtThreadYield k ∨
    s.timeSlice k = some (s.setThread k { s.thread k with remainingTick := n }) := by
  rw [Kernel.timeSlice]
  split
  · refine ⟨(s.thread k).initTick, .inl ?_⟩
    simp only [Kernel.setThread, Function.update_idem]
  · exact ⟨(s.thread k).remainingTick - 1, .inr rfl⟩

theorem Sound.timeSlice (h : Sound s) (hc : Scheduled s) (hk : s.current = some k) :
    ∃ t, s.timeSlice k = some t ∧ Sound t ∧ Scheduled t ∧ t.timers = s.timers ∧
      t.current.isSome ∧ (∀ j, (t.thread j).stat = (s.thread j).stat) ∧ t.event = s.event := by
  obtain ⟨n, hslice⟩ := timeSlice_eq s k
  have hsound : Sound (s.setThread k { s.thread k with remainingTick := n }) :=
    h.setThread rfl rfl
  have hsched : Scheduled (s.setThread k { s.thread k with remainingTick := n }) :=
    hc.keep rfl rfl fun j hj => (setThread_stat (by rfl) j).symm.trans hj
  have hcurrent : (s.setThread k { s.thread k with remainingTick := n }).current.isSome := by
    rw [Kernel.setThread, hk]
    rfl
  rcases hslice with hslice | hslice
  · obtain ⟨t, ht, htsound, htsched, hthread, hevent, htimers, _, htcurrent⟩ :=
      hsound.yield hsched k
    refine ⟨t, hslice.trans ht, htsound, htsched, htimers, htcurrent hcurrent, ?_, hevent⟩
    rw [hthread]
    exact setThread_stat (by rfl)
  · exact ⟨_, hslice, hsound, hsched, rfl, hcurrent, setThread_stat (by rfl), rfl⟩

/-- The timers of one tick: those that are over belong to suspended threads. -/
theorem Sound.expire (h : Sound s) (more : Nat) :
    ∃ timers, s.timers.rtTickIncrease more = some timers ∧ Sound { s with timers } ∧
      timers.calls.drop s.timers.calls.length = expired s.timers.timer s.timers.tick s.timers.list ∧
      (∀ k, (lone k s.timers).tick = some (lone k timers)) ∧
      ∀ k ∈ expired s.timers.timer s.timers.tick s.timers.list,
        (s.thread k).stat = .suspend ∧ (lone k timers).left = none := by
  have hrenew : ∀ k ∈ expired s.timers.timer s.timers.tick s.timers.list,
      Renewable (s.timers.timer k) := by
    intro k _ hp
    cases hp.symm.trans (h.oneshot k)
  obtain ⟨timers, htimers, hchecked⟩ := h.settled.tick hrenew more
  have htick := h.settled.lone_tick hrenew hchecked
  refine ⟨timers, htimers, ⟨h.queued, h.waiting, hchecked.settled hchecked.tick, ?_, ?_⟩, ?_,
    htick, ?_⟩
  · intro k hk
    exact h.armed ((lone_tick_eq (h.oneshot k) (htick k)).2 hk)
  · intro k
    exact (lone_tick_eq (h.oneshot k) (htick k)).1
  · rw [hchecked.calls, List.drop_left]
  · intro k hk
    have hin : k ∈ s.timers.list := List.mem_of_mem_filter hk
    have hactive := (h.settled.active k).1 hin
    refine ⟨h.armed (k := k) ?_, ?_⟩
    · rw [lone, alone, if_pos hactive]
      rintro ⟨⟩
    · have hover := (h.settled.lone_over hk).symm.trans (htick k)
      rw [Lone.expire] at hover
      dsimp only at hover
      rw [h.oneshot k, if_neg Bool.false_ne_true] at hover
      rw [← Option.some.inj hover]

theorem Sound.tick (h : Sound s) (hc : Scheduled s) (hk : s.current = some k) (more : Nat) :
    ∃ t, s.rtTickIncrease more k = some t ∧ Sound t ∧ Scheduled t := by
  obtain ⟨u, hu, husound, hused, _, hucurrent, _⟩ := h.timeSlice hc hk
  obtain ⟨timers, htimers, hsound, hcalls, _, hover⟩ := husound.expire more
  have hnodup : (expired u.timers.timer u.timers.tick u.timers.list).Nodup :=
    husound.settled.nodup.filter _
  obtain ⟨t, ht, htsound, htsched, _⟩ := hsound.timeouts
    (hused.keep rfl rfl fun _ hj => hj) hucurrent hover hnodup
  refine ⟨t, ?_, htsound, htsched⟩
  rw [rtTickIncrease, hu, Option.bind_some, htimers, Option.bind_some, hcalls]
  exact ht

variable [DecidableEq κ]

omit [DecidableEq ι] in
@[simp] theorem take_thread (s : Kernel ι κ) (k : ι) (e : κ) (option : UInt8) (b c : UInt32) :
    (s.take k e option b c).thread = s.thread := by
  rw [take]
  split <;> rfl

omit [DecidableEq ι] in
@[simp] theorem take_current (s : Kernel ι κ) (k : ι) (e : κ) (option : UInt8) (b c : UInt32) :
    (s.take k e option b c).current = s.current := by
  rw [take]
  split <;> rfl

omit [DecidableEq ι] in
@[simp] theorem take_ready (s : Kernel ι κ) (k : ι) (e : κ) (option : UInt8) (b c : UInt32) :
    (s.take k e option b c).ready = s.ready := by
  rw [take]
  split <;> rfl

theorem Sound.setEvent (h : Sound s) {o : EventObject ι}
    (ho : o.suspendThread = (s.event e).suspendThread) : Sound (s.setEvent e o) :=
  ⟨h.queued, h.waiting.set ho, h.settled, h.armed, h.oneshot⟩

theorem Sound.take (h : Sound s) (k : ι) (e : κ) (option : UInt8) (b c : UInt32) :
    Sound (s.take k e option b c) := by
  have hgiven (received) : Sound { s with received } :=
    ⟨h.queued, h.waiting, h.settled, h.armed, h.oneshot⟩
  rw [Kernel.take]
  split
  · exact (hgiven _).setEvent rfl
  · exact hgiven _

theorem Sound.ipcListSuspend (h : Sound s) (hk : (s.thread k).stat = .ready) (e : κ) :
    Sound (s.rtIpcListSuspend k e) := by
  have hs := h.suspend hk
  have hstat := rtThreadSuspend_stat hk
  have hfree (f : κ) : k ∉ ((s.rtThreadSuspend k).event f).suspendThread := by
    rw [rtThreadSuspend_eq hk]
    exact h.not_waiting (by rw [hk]; rintro ⟨⟩) f
  refine ⟨hs.queued, ?_, hs.settled, hs.armed, hs.oneshot⟩
  have hwait := hs.waiting.add hfree hstat (e := e)
    (o := { (s.rtThreadSuspend k).event e with
      suspendThread := suspendAt (s.rtThreadSuspend k).thread ((s.rtThreadSuspend k).event e).prio k
        ((s.rtThreadSuspend k).event e).suspendThread }) (suspendAt_perm _ _ k _)
  rw [Function.update_eq_self] at hwait
  exact hwait

theorem rtEventRecv_cases {set : UInt32} {option : UInt8} {timeout : Int32}
    (hs : s.rtEventRecv k e set option timeout = some t) :
    (set = 0 ∧ t = s) ∨
    (satisfied option set (s.event e).set ≠ none ∧
      t = (s.setThread k { s.thread k with timedOut := false }).take k e option
        ((s.event e).set &&& set) set) ∨
    (timeout = 0 ∧ t = s.setThread k { s.thread k with timedOut := true }) ∨
    (satisfied option set (s.event e).set = none ∧ timeout ≠ 0 ∧
      ∃ u, u = (s.setThread k { s.thread k with
          timedOut := false, eventSet := set, eventInfo := option }).rtIpcListSuspend k e ∧
        (0 < timeout ∧ u.startTimer k timeout.toUInt32 = some t ∨ ¬ 0 < timeout ∧ t = u)) := by
  rw [rtEventRecv] at hs
  split at hs
  · rename_i hset
    cases hs
    exact .inl ⟨hset, rfl⟩
  · dsimp only at hs
    rw [setThread_self] at hs
    rw [Option.ite_none_left_eq_some] at hs
    obtain ⟨_, hs⟩ := hs
    split at hs
    · rename_i hmet
      cases hs
      exact .inr (.inl ⟨hmet, rfl⟩)
    · rename_i hunmet
      split at hs
      · rename_i hzero
        cases hs
        refine .inr (.inr (.inl ⟨hzero, ?_⟩))
        simp only [Kernel.setThread, Function.update_idem]
      · rename_i hne
        refine .inr (.inr (.inr ⟨not_not.1 hunmet, hne, _, rfl, ?_⟩))
        simp only [Kernel.setThread, Function.update_idem] at hs ⊢
        split at hs
        · rename_i hpos
          exact .inl ⟨hpos, hs⟩
        · rename_i hneg
          cases hs
          exact .inr ⟨hneg, rfl⟩

theorem Sound.recv (h : Sound s) (hc : Scheduled s) (hk : s.running = some k) {set : UInt32}
    {option : UInt8} {timeout : Int32} (hs : s.rtEventRecv k e set option timeout = some t) :
    Sound t ∧ Scheduled t := by
  obtain ⟨hcurrent, hready⟩ := running_eq_some.1 hk
  rcases rtEventRecv_cases hs with ⟨_, rfl⟩ | ⟨_, rfl⟩ | ⟨_, rfl⟩ | ⟨_, _, u, hu, ht⟩
  · exact ⟨h, hc⟩
  · have hclear : Sound (s.setThread k { s.thread k with timedOut := false }) :=
      h.setThread rfl rfl
    refine ⟨hclear.take _ _ _ _ _, hc.keep (take_current ..) (take_ready ..) fun j hj => ?_⟩
    rw [take_thread] at hj
    exact (setThread_stat (by rfl) j).symm.trans hj
  · exact ⟨h.setThread rfl rfl, hc.keep rfl rfl fun j hj =>
      (setThread_stat (by rfl) j).symm.trans hj⟩
  · have hwait : Sound (s.setThread k { s.thread k with
        timedOut := false, eventSet := set, eventInfo := option }) := h.setThread rfl rfl
    have hready' : ((s.setThread k { s.thread k with
        timedOut := false, eventSet := set, eventInfo := option }).thread k).stat = .ready :=
      (setThread_stat (by rfl) k).trans hready
    have husound : Sound u := hu ▸ hwait.ipcListSuspend hready' e
    have hstat : (u.thread k).stat = .suspend := hu ▸ rtThreadSuspend_stat hready'
    have hucurrent : u.current = some k := by
      rw [hu, rtIpcListSuspend, rtThreadSuspend_eq hready']
      exact hcurrent
    rcases ht with ⟨_, ht⟩ | ⟨_, rfl⟩
    · obtain ⟨htsound, timers, rfl, _⟩ := husound.startTimer hstat ht
      exact ⟨htsound, scheduled_of_suspended hucurrent (by rw [hstat]; rintro ⟨⟩)⟩
    · exact ⟨husound, scheduled_of_suspended hucurrent (by rw [hstat]; rintro ⟨⟩)⟩

theorem resumeIf_cases (e : κ) (p : Kernel ι κ × Bool) (k : ι) :
    (satisfied (p.1.thread k).eventInfo (p.1.thread k).eventSet (p.1.event e).set = none ∧
      resumeIf e p k = p) ∨
    ∃ bits, satisfied (p.1.thread k).eventInfo (p.1.thread k).eventSet (p.1.event e).set =
        some bits ∧
      resumeIf e p k = (((p.1.setThread k { p.1.thread k with eventSet := bits }).take k e
        (p.1.thread k).eventInfo bits bits).rtThreadResume k, true) := by
  rw [resumeIf]
  dsimp only
  cases hs : satisfied (p.1.thread k).eventInfo (p.1.thread k).eventSet (p.1.event e).set with
  | none => exact .inl ⟨rfl, rfl⟩
  | some bits => exact .inr ⟨bits, rfl, rfl⟩

theorem Sound.resumeIf {p : Kernel ι κ × Bool} (h : Sound p.1)
    (hk : (p.1.thread k).stat = .suspend) : Sound (resumeIf e p k).1 ∧
      (∀ j, j ≠ k → (resumeIf e p k).1.thread j = p.1.thread j) ∧
      (resumeIf e p k).1.current = p.1.current ∧
      ((resumeIf e p k).2 = p.2 ∧ (resumeIf e p k).1 = p.1 ∨ (resumeIf e p k).2 = true ∧
        ((resumeIf e p k).1.thread k).stat = .ready) := by
  rcases resumeIf_cases e p k with ⟨_, heq⟩ | ⟨bits, _, heq⟩
  · rw [heq]
    exact ⟨h, fun _ _ => rfl, rfl, .inl ⟨rfl, rfl⟩⟩
  · have hgot : Sound ((p.1.setThread k { p.1.thread k with eventSet := bits }).take k e
        (p.1.thread k).eventInfo bits bits) := (h.setThread (by rfl) (by rfl)).take _ _ _ _ _
    have hstat : (((p.1.setThread k { p.1.thread k with eventSet := bits }).take k e
        (p.1.thread k).eventInfo bits bits).thread k).stat = .suspend := by
      rw [take_thread, setThread_self]
      exact hk
    rw [heq]
    refine ⟨hgot.resume hstat, fun j hj => ?_, ?_, .inr ⟨rfl, ?_⟩⟩
    · rw [rtThreadResume_eq hstat]
      dsimp only
      rw [Function.update_of_ne hj, take_thread, setThread_other hj]
    · rw [rtThreadResume_eq hstat]
      exact take_current ..
    · rw [rtThreadResume_eq hstat]
      dsimp only
      rw [Function.update_self]

theorem resumeAll_true (e : κ) {l : List ι} {p : Kernel ι κ × Bool} (hp : p.2 = true) :
    (l.foldl (Kernel.resumeIf e) p).2 = true := by
  induction l generalizing p with
  | nil => exact hp
  | cons k l ih =>
    apply ih
    rcases resumeIf_cases e p k with ⟨_, heq⟩ | ⟨bits, _, heq⟩
    · rw [heq, hp]
    · rw [heq]

theorem Sound.resumeAll {l : List ι} {p : Kernel ι κ × Bool} (h : Sound p.1)
    (hl : ∀ k ∈ l, (p.1.thread k).stat = .suspend) (hnodup : l.Nodup)
    (hp : p.2 = true → ∃ k, k ∉ l ∧ (p.1.thread k).stat = .ready) :
    Sound (l.foldl (Kernel.resumeIf e) p).1 ∧
      (l.foldl (Kernel.resumeIf e) p).1.current = p.1.current ∧
      ((l.foldl (Kernel.resumeIf e) p).2 = false → (l.foldl (Kernel.resumeIf e) p).1 = p.1) ∧
      ((l.foldl (Kernel.resumeIf e) p).2 = true →
        ∃ k, ((l.foldl (Kernel.resumeIf e) p).1.thread k).stat = .ready) := by
  induction l generalizing p with
  | nil => exact ⟨h, rfl, fun _ => rfl, fun hready => (hp hready).imp fun _ hk => hk.2⟩
  | cons k l ih =>
    obtain ⟨hk, hnodup⟩ := List.nodup_cons.1 hnodup
    obtain ⟨hsound, hother, hcurrent, hcases⟩ := h.resumeIf (e := e) (hl k List.mem_cons_self)
    have hrest : ∀ j ∈ l, ((Kernel.resumeIf e p k).1.thread j).stat = .suspend := by
      intro j hj
      rw [hother j fun he => hk (he ▸ hj)]
      exact hl j (List.mem_cons_of_mem k hj)
    have hready : (Kernel.resumeIf e p k).2 = true →
        ∃ j, j ∉ l ∧ ((Kernel.resumeIf e p k).1.thread j).stat = .ready := by
      intro htrue
      rcases hcases with ⟨hsame, heq⟩ | ⟨_, hwoken⟩
      · obtain ⟨j, hj, hstat⟩ := hp (hsame.symm.trans htrue)
        exact ⟨j, fun hin => hj (List.mem_cons_of_mem k hin), by rw [heq]; exact hstat⟩
      · exact ⟨k, hk, hwoken⟩
    obtain ⟨hsound', hcurrent', hfalse, htrue⟩ := ih hsound hrest hnodup hready
    refine ⟨hsound', hcurrent'.trans hcurrent, fun hno => (hfalse hno).trans ?_, htrue⟩
    rcases hcases with ⟨_, heq⟩ | ⟨hyes, _⟩
    · exact heq
    · cases (resumeAll_true e hyes).symm.trans hno

theorem Sound.send (h : Sound s) (hc : Scheduled s) (e : κ) (set : UInt32) :
    ∃ t, s.rtEventSend e set = some t ∧ Sound t ∧ Scheduled t := by
  rw [rtEventSend]
  split
  · exact ⟨s, rfl, h, hc⟩
  · have hset : Sound (s.setEvent e { s.event e with set := (s.event e).set ||| set }) :=
      h.setEvent rfl
    have hwaiting : ∀ k ∈ (((s.setEvent e { s.event e with
        set := (s.event e).set ||| set }).event e).suspendThread), (s.thread k).stat = .suspend :=
      fun k hk => hset.waiting.suspended hk
    obtain ⟨hsound, hcurrent, hfalse, htrue⟩ := hset.resumeAll (e := e)
      (p := (s.setEvent e { s.event e with set := (s.event e).set ||| set }, false)) hwaiting
      (hset.waiting.nodup e) (fun hno => by cases hno)
    dsimp only at hcurrent hfalse ⊢
    split
    · rename_i hyes
      obtain ⟨k, hk⟩ := htrue hyes
      obtain ⟨j, hj⟩ := Option.isSome_iff_exists.1 (hsound.queued.highest_isSome hk)
      have hswitch := rtSchedule_eq_some.2 ⟨j, hj, rfl⟩
      exact ⟨_, hswitch, hsound.schedule hswitch⟩
    · rename_i hno
      have hsame := hfalse (Bool.eq_false_iff.2 hno)
      refine ⟨_, rfl, hsound, ?_⟩
      rw [hsame]
      exact hc.keep rfl rfl fun _ hk => hk

theorem Sound.step (h : Sound s) (hc : Scheduled s) (hs : Kernel.step more s a = some t) :
    Sound t ∧ Scheduled t := by
  cases a with
  | startup k => exact h.startup hs
  | start =>
    obtain ⟨_, hs⟩ := Option.ite_none_right_eq_some.1 hs
    exact h.schedule hs
  | schedule =>
    obtain ⟨_, hs⟩ := Option.ite_none_left_eq_some.1 hs
    exact h.schedule hs
  | yield =>
    obtain ⟨k, _, hs⟩ := Option.bind_eq_some_iff.1 hs
    obtain ⟨u, hu, hsound, hsched, _⟩ := h.yield hc k
    cases hu.symm.trans hs
    exact ⟨hsound, hsched⟩
  | sleep tick =>
    obtain ⟨k, hk, hs⟩ := Option.bind_eq_some_iff.1 hs
    exact h.sleep hk hs
  | exit =>
    obtain ⟨k, hk, hs⟩ := Option.bind_eq_some_iff.1 hs
    exact h.exit hk hs
  | recv e set option timeout =>
    obtain ⟨k, hk, hs⟩ := Option.bind_eq_some_iff.1 hs
    exact h.recv hc hk hs
  | send e set =>
    obtain ⟨u, hu, hall⟩ := h.send hc e set
    cases hu.symm.trans hs
    exact hall
  | tick =>
    obtain ⟨k, hk, hs⟩ := Option.bind_eq_some_iff.1 hs
    obtain ⟨u, hu, hall⟩ := h.tick hc hk more
    cases hu.symm.trans hs
    exact hall

theorem run_sound {thread : ι → Thread} {prio : κ → Bool} {es : List (KernelEvent ι κ)}
    (h : run (Kernel.step more) (boot thread prio) es = some s) : Sound s ∧ Scheduled s := by
  refine run_invariant (P := fun s => Sound s ∧ Scheduled s) (fun s a t hp hs => hp.1.step hp.2 hs)
    ⟨sound_boot thread prio, fun k hk => ?_⟩ h
  cases (running_eq_some.1 hk).1

/-- In every run each ready thread stands once in the list of its priority, the thread that is
running is the first one of the highest priority that is ready, and an event can be sent, and a tick
taken, at any time. -/
theorem runs_highest_priority {thread : ι → Thread} {prio : κ → Bool}
    {es : List (KernelEvent ι κ)} (h : run (Kernel.step more) (boot thread prio) es = some s) :
    (∀ p k, (s.ready.table p).count k =
      if (s.thread k).stat = .ready ∧ (s.thread k).currentPriority = p then 1 else 0) ∧
    (∀ k, s.running = some k → (s.ready.table (s.thread k).currentPriority).head? = some k ∧
      ∀ j, (s.thread j).stat = .ready →
        (s.thread k).currentPriority ≤ (s.thread j).currentPriority) ∧
    (∀ e set, (Kernel.step more s (.send e set)).isSome) ∧
    (s.current.isSome → (Kernel.step more s .tick).isSome) := by
  obtain ⟨hsound, hsched⟩ := run_sound h
  refine ⟨fun p k => ?_, fun k hk => (hsound.queued.highest (hsched k hk)).2, fun e set => ?_,
    fun hcurrent => ?_⟩
  · split
    · rename_i hk
      exact List.count_eq_one_of_mem (hsound.queued.nodup p) (hsound.queued.mem.2 hk)
    · rename_i hk
      exact List.count_eq_zero.2 fun hin => hk (hsound.queued.mem.1 hin)
  · obtain ⟨t, ht, _⟩ := hsound.send hsched e set
    exact Option.isSome_iff_exists.2 ⟨t, ht⟩
  · obtain ⟨k, hk⟩ := Option.isSome_iff_exists.1 hcurrent
    obtain ⟨t, ht, _⟩ := hsound.tick hsched hk more
    exact Option.isSome_iff_exists.2 ⟨t, Option.bind_eq_some_iff.2 ⟨k, hk, ht⟩⟩

theorem runs_highest_priority_unit : ∃ s : Kernel UnitThread Unit,
    run (Kernel.step 0) .unit unitStartup = some s ∧ s.running = some .study ∧
      ∀ j, (s.thread j).stat = .ready →
        (s.thread .study).currentPriority ≤ (s.thread j).currentPriority := by
  have hany : (run (Kernel.step 0) .unit unitStartup).any fun s => s.running = some .study := by
    decide +kernel
  obtain ⟨s, hs, hk⟩ := (Option.any_eq_true ..).1 hany
  rw [decide_eq_true_eq] at hk
  exact ⟨s, hs, hk, ((runs_highest_priority hs).2.1 _ hk).2⟩

end Kernel

end CountdownOutside
