import CountdownOutside.SerialRing
import CountdownOutside.Timeouts

namespace CountdownOutside
set_option autoImplicit true

def EventSet.word (b : EventSet) : UInt32 :=
  (if b.rx then 1 else 0) ||| (if b.rxIdle then 2 else 0)

def openedUart (config : Config) : Uart where
  pc := .call
  isOpen := true
  fifo := []
  set := .none
  initialised := true
  sentEarly := false
  receiver := .start config 0

def uartCntRxEvent : UInt32 := 1
def uartCntRxIdleEvent : UInt32 := 2

inductive ReceiverEvent (ι : Type u) (κ : Type v)
  /-- Anything but a receive interrupt: a call of `rt_event_recv` by the receiver thread, a tick, or
  what other threads and interrupts do. -/
  | kernel (a : KernelEvent ι κ)
  | isr (bytes : List UInt8)
  /-- A step of the receiver thread between two calls of `rt_event_recv`. -/
  | between
  deriving DecidableEq, Repr

def UartEvent.isr? : UartEvent → Option (List UInt8)
  | .isr bytes => some bytes
  | _ => none

def ReceiverEvent.isr? : ReceiverEvent ι κ → Option (List UInt8)
  | .isr bytes => some bytes
  | _ => none

namespace Kernel

variable {ι : Type u} {κ : Type v} [DecidableEq ι] [DecidableEq κ]

/-- What is left to the rest of the program: it neither sends nor receives `rcv_event`, and the
receiver thread waits for nothing else. -/
def Serves (e : κ) (r : ι) (s : Kernel ι κ) (u : Uart) : KernelEvent ι κ → Prop
  | .recv f set option timeout =>
    if f = e then
      s.running = some r ∧ u.pc = .recv ∧ set = uartCntRxEvent ||| uartCntRxIdleEvent ∧
        option = rtEventFlagOr ||| rtEventFlagClear ∧ 0 < timeout
    else s.running ≠ some r
  | .sleep _ => s.running ≠ some r
  | .exit => s.running ≠ some r
  | .send f _ => f ≠ e
  | _ => True

instance (e : κ) (r : ι) (s : Kernel ι κ) (u : Uart) (a : KernelEvent ι κ) :
    Decidable (Serves e r s u a) := by
  cases a <;> unfold Serves <;> infer_instance

def follow (e : κ) (r : ι) (u : Uart) (t : Kernel ι κ) : KernelEvent ι κ → Uart
  | .recv f _ _ _ => if f = e then u.rtEventRecv else u
  | .tick =>
    if u.pc = .blocked ∧ (t.thread r).stat = .ready then { u with pc := .timedOut } else u
  | _ => u

/-- The kernel, the serial device and the receiver thread `r`, which waits for `e`. -/
def stepReceiver (more : Nat) (e : κ) (r : ι) (p : Kernel ι κ × Uart) :
    ReceiverEvent ι κ → Option (Kernel ι κ × Uart)
  | .kernel a =>
    if Serves e r p.1 p.2 a then (Kernel.step more p.1 a).map fun t => (t, follow e r p.2 t a)
    else none
  | .isr bytes =>
    let size := (bytes.foldl pushFifo p.2.fifo).length
    (p.1.rtEventSend e (if size = 0 then uartCntRxIdleEvent else uartCntRxEvent)).map fun t =>
      (t, p.2.rtHwSerialIsr bytes)
  | .between =>
    if p.1.running = some r ∧ p.2.pc ≠ .recv then p.2.thread.map fun u => (p.1, u) else none

end Kernel

namespace Uart

variable {u v : Uart} {f : UartEvent}

structure Opened (u : Uart) : Prop where
  isOpen : u.isOpen = true
  booted : ¬ u.Booting
  attended : u.Attended

theorem thread_isOpen (hv : u.thread = some v) (h : u.isOpen = true) : v.isOpen = true := by
  rw [thread] at hv
  cases hp : u.pc with
  | «open» =>
    rw [hp] at hv
    cases hv
    rfl
  | recv =>
    rw [hp] at hv
    cases hv
    rw [rtEventRecv]
    split <;> exact h
  | read =>
    rw [hp] at hv
    dsimp only at hv
    split at hv <;> cases hv <;> exact h
  | blocked =>
    rw [hp] at hv
    cases hv
  | indicate | init | call | received | timedOut =>
    rw [hp] at hv
    cases hv
    exact h

theorem thread_between (hv : u.thread = some v) (hb : ¬ u.Booting) (hpc : u.pc ≠ .recv) :
    v.set = u.set ∧ u.pc ≠ .blocked ∧ (v.pc = .call ∨ v.pc = .recv ∨ v.pc = .read) := by
  rw [thread] at hv
  cases hp : u.pc with
  | indicate => exact absurd (.inl hp) hb
  | «open» => exact absurd (.inr (.inl hp)) hb
  | init => exact absurd (.inr (.inr hp)) hb
  | recv => exact absurd hp hpc
  | blocked =>
    rw [hp] at hv
    cases hv
  | call =>
    rw [hp] at hv
    cases hv
    exact ⟨rfl, by rintro ⟨⟩, .inr (.inl rfl)⟩
  | received b =>
    rw [hp] at hv
    cases hv
    refine ⟨rfl, by rintro ⟨⟩, .inr ?_⟩
    dsimp only
    split
    · exact .inr rfl
    · exact .inl rfl
  | timedOut =>
    rw [hp] at hv
    cases hv
    refine ⟨rfl, by rintro ⟨⟩, ?_⟩
    dsimp only
    split
    · exact .inl rfl
    · exact .inr (.inl rfl)
  | read =>
    rw [hp] at hv
    dsimp only at hv
    split at hv
    · cases hv
      exact ⟨rfl, by rintro ⟨⟩, .inr (.inl rfl)⟩
    · cases hv
      exact ⟨rfl, by rintro ⟨⟩, .inr (.inr rfl)⟩

theorem Opened.step (h : Opened u) (hv : u.step f = some v) : Opened v := by
  have hattended : v.Attended :=
    h.attended.step hv fun hpc => absurd (.inr (.inr hpc)) h.booted
  cases f with
  | thread =>
    exact ⟨thread_isOpen hv h.isOpen, fun hb => h.booted (thread_booting hv hb).1, hattended⟩
  | isr bytes =>
    obtain ⟨_, hv⟩ := Option.ite_none_right_eq_some.1 hv
    cases hv
    exact ⟨(isr_fifo u bytes).2.1.trans h.isOpen, fun hb => h.booted (isr_booting hb).1, hattended⟩
  | timer =>
    obtain ⟨_, hv⟩ := Option.ite_none_right_eq_some.1 hv
    cases hv
    refine ⟨h.isOpen, ?_, hattended⟩
    rintro (hb | hb | hb) <;> cases hb

end Uart

namespace EventSet

theorem word_or (b c : EventSet) :
    (⟨b.rx || c.rx, b.rxIdle || c.rxIdle⟩ : EventSet).word = b.word ||| c.word := by
  obtain ⟨rx, idle⟩ := b
  obtain ⟨rx', idle'⟩ := c
  cases rx <;> cases idle <;> cases rx' <;> cases idle' <;> rfl

theorem satisfied_word (b : EventSet) :
    satisfied (rtEventFlagOr ||| rtEventFlagClear) 3 b.word =
      if b.rx ∨ b.rxIdle then some b.word else Option.none := by
  obtain ⟨rx, idle⟩ := b
  cases rx <;> cases idle <;> decide

theorem word_ne_zero (b : EventSet) (hb : b.rx ∨ b.rxIdle) : b.word ≠ 0 := by
  obtain ⟨rx, idle⟩ := b
  revert hb
  cases rx <;> cases idle <;> decide

theorem word_clear (b : EventSet) : b.word &&& ~~~ b.word = EventSet.none.word ∧
    b.word &&& ~~~ 3 = EventSet.none.word ∧ b.word &&& 3 = b.word := by
  obtain ⟨rx, idle⟩ := b
  cases rx <;> cases idle <;> decide

end EventSet

namespace Kernel

variable {ι : Type u} {κ : Type v} [DecidableEq ι] {s t : Kernel ι κ} {u : Uart} {j r : ι} {e : κ}
variable {more : Nat}

def asks (s : Kernel ι κ) (r : ι) : Stat × Bool × UInt8 × UInt32 :=
  ((s.thread r).stat, (s.thread r).timedOut, (s.thread r).eventInfo, (s.thread r).eventSet)

variable [DecidableEq κ]

def receptions (s : Kernel ι κ) (e : κ) : List (Reception ι κ) :=
  s.received.filter fun c => c.event = e

/-- The model of the serial device has `rcv_event` as the kernel has it. -/
structure Mirrors (e : κ) (r : ι) (s : Kernel ι κ) (u : Uart) : Prop where
  booted : ¬ u.Booting
  set : (s.event e).set = u.set.word
  list : (s.event e).suspendThread = if u.pc = .blocked then [r] else []
  only : ∀ f, r ∈ (s.event f).suspendThread → f = e
  suspended : (s.thread r).stat = .suspend → u.pc = .blocked
  blocked : u.pc = .blocked →
    s.asks r = (.suspend, false, rtEventFlagOr ||| rtEventFlagClear, 3)
  received : ∀ b, u.pc = .received b → (s.thread r).stat = .ready ∧ (s.thread r).timedOut = false ∧
    (s.receptions e).getLast? = some ⟨r, e, b.word, true⟩
  timedOut : u.pc = .timedOut → (s.thread r).stat = .ready ∧ (s.thread r).timedOut = true

structure Untouched (e : κ) (r : ι) (s t : Kernel ι κ) : Prop where
  asks : (s.thread r).stat ≠ .init → t.asks r = s.asks r
  started : (s.thread r).stat = .init → (t.thread r).stat ≠ .suspend
  set : (t.event e).set = (s.event e).set
  list : (t.event e).suspendThread = (s.event e).suspendThread
  only : ∀ f, r ∈ (t.event f).suspendThread → r ∈ (s.event f).suspendThread
  receptions : t.receptions e = s.receptions e

omit [DecidableEq ι] in
theorem Mirrors.untouched (h : Mirrors e r s u) (ht : Untouched e r s t) : Mirrors e r t u := by
  have hsame (hr : (s.thread r).stat ≠ .init) : (t.thread r).stat = (s.thread r).stat ∧
      (t.thread r).timedOut = (s.thread r).timedOut :=
    ⟨congrArg Prod.fst (ht.asks hr), congrArg (fun p => p.2.1) (ht.asks hr)⟩
  refine ⟨h.booted, ht.set.trans h.set, ht.list.trans h.list, fun f hf => h.only f (ht.only f hf),
    fun hsuspend => ?_, fun hpc => ?_, fun b hpc => ?_, fun hpc => ?_⟩
  · by_cases hr : (s.thread r).stat = .init
    · exact absurd hsuspend (ht.started hr)
    · exact h.suspended ((hsame hr).1.symm.trans hsuspend)
  · have hstat : (s.thread r).stat = .suspend := congrArg Prod.fst (h.blocked hpc)
    rw [ht.asks (by rw [hstat]; rintro ⟨⟩), h.blocked hpc]
  · obtain ⟨hready, hno, hlast⟩ := h.received b hpc
    obtain ⟨hstat, hout⟩ := hsame (by rw [hready]; rintro ⟨⟩)
    exact ⟨hstat.trans hready, hout.trans hno, ht.receptions ▸ hlast⟩
  · obtain ⟨hready, hyes⟩ := h.timedOut hpc
    obtain ⟨hstat, hout⟩ := hsame (by rw [hready]; rintro ⟨⟩)
    exact ⟨hstat.trans hready, hout.trans hyes⟩

omit [DecidableEq ι] in
theorem untouched_of_eq (ht : t.thread = s.thread) (he : t.event = s.event)
    (hr : t.received = s.received) : Untouched e r s t where
  asks _ := by rw [asks, asks, ht]
  started hr := by rw [ht, hr]; rintro ⟨⟩
  set := by rw [he]
  list := by rw [he]
  only f hf := he ▸ hf
  receptions := by rw [receptions, receptions, hr]

omit [DecidableEq ι] in
theorem Untouched.trans {v : Kernel ι κ} (h : Untouched e r s t) (h' : Untouched e r t v) :
    Untouched e r s v where
  asks hr := by
    have hstat : (t.thread r).stat = (s.thread r).stat := congrArg Prod.fst (h.asks hr)
    rw [h'.asks (by rw [hstat]; exact hr), h.asks hr]
  started hinit := by
    by_cases ht : (t.thread r).stat = .init
    · exact h'.started ht
    · change (v.asks r).1 ≠ .suspend
      rw [h'.asks ht]
      exact h.started hinit
  set := h'.set.trans h.set
  list := h'.list.trans h.list
  only f hf := h.only f (h'.only f hf)
  receptions := h'.receptions.trans h.receptions

theorem untouched_of_apart (ha : Apart r s t) (he : t.event e = s.event e)
    (hf : ∀ f, r ∈ (t.event f).suspendThread → r ∈ (s.event f).suspendThread)
    (hr : t.receptions e = s.receptions e) : Untouched e r s t where
  asks _ := by rw [asks, asks, ha.thread]
  started hr := by rw [ha.thread, hr]; rintro ⟨⟩
  set := by rw [he]
  list := by rw [he]
  only := hf
  receptions := hr

omit [DecidableEq κ] in
theorem startup_effect (h : s.rtThreadStartup j = some t) : (s.thread j).stat = .init ∧
    (t.thread j).stat = .ready ∧ t.event = fun f =>
      { s.event f with suspendThread := (s.event f).suspendThread.erase j } := by
  rw [rtThreadStartup, Option.ite_none_right_eq_some] at h
  obtain ⟨hj, h⟩ := h
  rw [rtThreadResume_eq (by rw [setThread_self])] at h
  refine ⟨hj, ?_⟩
  dsimp only at h
  split at h
  · cases h
    exact ⟨by dsimp only; rw [Function.update_self], rfl⟩
  · obtain ⟨i, _, rfl⟩ := rtSchedule_eq_some.1 h
    exact ⟨by dsimp only; rw [Function.update_self], rfl⟩

theorem untouched_startup (hs : Sound s) (h : s.rtThreadStartup j = some t) :
    Untouched e r s t := by
  have hleaves := leaves_startup h
  have hreceptions : t.receptions e = s.receptions e := by
    rw [receptions, receptions, hleaves.received]
  obtain ⟨hinit, hready, hevent⟩ := startup_effect h
  have hsame : t.event e = s.event e := by
    rw [hevent]
    dsimp only
    rw [List.erase_of_not_mem (hs.not_waiting (by rw [hinit]; rintro ⟨⟩) e)]
  by_cases hr : r = j
  · subst hr
    exact ⟨fun hne => absurd hinit hne, fun _ => by rw [hready]; rintro ⟨⟩, by rw [hsame],
      by rw [hsame], fun f hf => hleaves.sub f hf, hreceptions⟩
  · exact untouched_of_apart (apart_startup hs hr h) hsame (fun f hf => hleaves.sub f hf)
      hreceptions

omit [DecidableEq ι] in
theorem untouched_schedule (h : s.rtSchedule = some t) : Untouched e r s t := by
  obtain ⟨j, _, rfl⟩ := rtSchedule_eq_some.1 h
  exact untouched_of_eq rfl rfl rfl

theorem untouched_yield (h : s.rtThreadYield j = some t) : Untouched e r s t := by
  rw [rtThreadYield] at h
  split at h
  · obtain ⟨i, _, rfl⟩ := rtSchedule_eq_some.1 h
    exact untouched_of_eq rfl rfl rfl
  · cases h
    exact untouched_of_eq rfl rfl rfl

omit [DecidableEq κ] in
theorem startTimer_event {time : UInt32} (h : s.startTimer j time = some t) :
    t.thread = s.thread ∧ t.event = s.event ∧ t.received = s.received := by
  rw [startTimer, Option.map_eq_some_iff] at h
  obtain ⟨timers, _, rfl⟩ := h
  exact ⟨rfl, rfl, rfl⟩

omit [DecidableEq κ] in
theorem suspend_event (s : Kernel ι κ) (j : ι) :
    (s.rtThreadSuspend j).event = s.event ∧ (s.rtThreadSuspend j).received = s.received := by
  rw [rtThreadSuspend]
  split <;> exact ⟨rfl, rfl⟩

theorem untouched_sleep (hs : Sound s) (hj : s.running = some j) (hr : r ≠ j) {tick : UInt32}
    (h : s.rtThreadSleep j tick = some t) : Untouched e r s t := by
  obtain ⟨_, hevent, hreceived⟩ := startTimer_event h
  obtain ⟨hevent', hreceived'⟩ := suspend_event s j
  have hsame := hevent.trans hevent'
  exact untouched_of_apart (apart_sleep hs hj hr h) (by rw [hsame]) (fun f hf => hsame ▸ hf)
    (by rw [receptions, receptions, hreceived, hreceived'])

theorem untouched_exit (hs : Sound s) (hj : s.running = some j) (hr : r ≠ j)
    (h : s.rtThreadExit j = some t) : Untouched e r s t := by
  have hapart := apart_exit hs hj hr h
  rw [hs.exit_eq (running_eq_some.1 hj).2] at h
  obtain ⟨i, _, rfl⟩ := rtSchedule_eq_some.1 h
  exact untouched_of_apart hapart rfl (fun _ hf => hf) rfl

omit [DecidableEq ι] in
theorem receptions_take {f : κ} (hf : f ≠ e) (s : Kernel ι κ) (k : ι) (option : UInt8)
    (b c : UInt32) : (s.take k f option b c).receptions e = s.receptions e := by
  have hreceived : (s.take k f option b c).received = s.received ++
      [⟨k, f, b, decide (option &&& rtEventFlagClear ≠ 0)⟩] := by
    rw [take]
    split <;> rfl
  rw [receptions, hreceived, List.filter_append, List.filter_cons_of_neg (by simpa using hf)]
  exact List.append_nil _

omit [DecidableEq ι] in
theorem event_take {f : κ} (hf : f ≠ e) (s : Kernel ι κ) (k : ι) (option : UInt8)
    (b c : UInt32) : (s.take k f option b c).event e = s.event e := by
  rw [take]
  split
  · exact setEvent_other (Ne.symm hf) ..
  · rfl

theorem untouched_recv (hs : Sound s) (hj : s.running = some j) (hr : r ≠ j) {f : κ} (hf : f ≠ e)
    {set : UInt32} {option : UInt8} {timeout : Int32}
    (h : s.rtEventRecv j f set option timeout = some t) : Untouched e r s t := by
  obtain ⟨hapart, _⟩ := apart_recv hs hj hr h
  rcases rtEventRecv_cases h with ⟨_, rfl⟩ | ⟨_, rfl⟩ | ⟨_, rfl⟩ | ⟨_, _, u, hu, h⟩
  · exact untouched_of_eq rfl rfl rfl
  · refine untouched_of_apart hapart (event_take hf ..) (fun g hg => ?_) (receptions_take hf ..)
    rw [(take_event ..).1] at hg
    exact hg
  · exact untouched_of_apart hapart rfl (fun _ hg => hg) rfl
  · obtain ⟨hevent', hreceived'⟩ := suspend_event (s.setThread j { s.thread j with
      timedOut := false, eventSet := set, eventInfo := option }) j
    have hevent : u.event e = s.event e := by
      rw [hu, rtIpcListSuspend, setEvent_other (Ne.symm hf), hevent']
      rfl
    have honly (g : κ) (hg : r ∈ (u.event g).suspendThread) : r ∈ (s.event g).suspendThread := by
      rw [hu, rtIpcListSuspend] at hg
      by_cases hgf : g = f
      · subst hgf
        rw [setEvent_self] at hg
        dsimp only at hg
        rcases List.mem_cons.1 ((suspendAt_perm ..).mem_iff.1 hg) with he | hg
        · exact absurd he hr
        · rw [hevent'] at hg
          exact hg
      · rw [setEvent_other hgf, hevent'] at hg
        exact hg
    have hreceptions : u.receptions e = s.receptions e := by
      rw [receptions, hu]
      exact congrArg (List.filter _) hreceived'
    rcases h with ⟨_, h⟩ | ⟨_, rfl⟩
    · obtain ⟨_, hsame, hgot⟩ := startTimer_event h
      exact untouched_of_apart hapart (by rw [hsame, hevent]) (fun g hg => honly g (hsame ▸ hg))
        (by rw [receptions, hgot]; exact hreceptions)
    · exact untouched_of_apart hapart hevent honly hreceptions

theorem untouched_resumeIf {f : κ} (hf : f ≠ e) {p : Kernel ι κ × Bool} (hs : Sound p.1)
    (hr : r ≠ j) (hj : (p.1.thread j).stat = .suspend) (hje : j ∉ (p.1.event e).suspendThread) :
    Untouched e r p.1 (resumeIf f p j).1 ∧ (resumeIf f p j).1.event e = p.1.event e := by
  have hapart := apart_resumeIf (e := f) hs.settled hr hj
  have honly := fun g (hg : r ∈ ((resumeIf f p j).1.event g).suspendThread) =>
    sub_resumeIf f p j g hg
  rcases resumeIf_cases f p j with ⟨_, heq⟩ | ⟨bits, _, heq⟩
  · rw [heq]
    exact ⟨untouched_of_eq rfl rfl rfl, rfl⟩
  · have hstat : (((p.1.setThread j { p.1.thread j with eventSet := bits }).take j f
        (p.1.thread j).eventInfo bits bits).thread j).stat = .suspend := by
      rw [take_thread, setThread_self]
      exact hj
    have hevent : (resumeIf f p j).1.event e = p.1.event e := by
      rw [heq, rtThreadResume_eq hstat]
      dsimp only
      rw [event_take hf]
      exact congrArg (fun l => { p.1.event e with suspendThread := l })
        (List.erase_of_not_mem hje)
    have hreceptions : (resumeIf f p j).1.receptions e = p.1.receptions e := by
      rw [heq, receptions, (leaves_resume _ j).received]
      exact receptions_take hf (p.1.setThread j _) j _ bits bits
    exact ⟨untouched_of_apart hapart hevent honly hreceptions, hevent⟩

theorem untouched_resumeAll {f : κ} (hf : f ≠ e) {l : List ι} {p : Kernel ι κ × Bool}
    (hs : Sound p.1) (hr : r ∉ l)
    (hl : ∀ j ∈ l, (p.1.thread j).stat = .suspend ∧ j ∉ (p.1.event e).suspendThread)
    (hnodup : l.Nodup) : Untouched e r p.1 (l.foldl (resumeIf f) p).1 := by
  induction l generalizing p with
  | nil => exact untouched_of_eq rfl rfl rfl
  | cons j l ih =>
    obtain ⟨hrj, hr⟩ := not_or.1 (mt List.mem_cons.2 hr)
    obtain ⟨hj, hnodup⟩ := List.nodup_cons.1 hnodup
    obtain ⟨hstat, hje⟩ := hl j List.mem_cons_self
    obtain ⟨hsound, hother, _⟩ := hs.resumeIf (e := f) hstat
    obtain ⟨hone, hevent⟩ := untouched_resumeIf hf hs hrj hstat hje
    refine hone.trans (ih hsound hr (fun i hi => ?_) hnodup)
    rw [hother i fun he => hj (he ▸ hi), hevent]
    exact hl i (List.mem_cons_of_mem j hi)

theorem untouched_send {f : κ} (hf : f ≠ e) (hs : Sound s)
    (hr : r ∉ (s.event f).suspendThread) {set : UInt32} (h : s.rtEventSend f set = some t) :
    Untouched e r s t := by
  rw [rtEventSend] at h
  split at h
  · cases h
    exact untouched_of_eq rfl rfl rfl
  · have hset : Sound (s.setEvent f { s.event f with set := (s.event f).set ||| set }) :=
      hs.setEvent rfl
    have hevent : (s.setEvent f { s.event f with set := (s.event f).set ||| set }).event e =
        s.event e := setEvent_other (Ne.symm hf) ..
    have hlist (g : κ) : ((s.setEvent f { s.event f with
        set := (s.event f).set ||| set }).event g).suspendThread = (s.event g).suspendThread := by
      by_cases hg : g = f
      · subst hg
        rw [setEvent_self]
      · rw [setEvent_other hg]
    have hfirst : Untouched e r s
        (s.setEvent f { s.event f with set := (s.event f).set ||| set }) :=
      untouched_of_apart (apart_of_eq rfl rfl) hevent (fun g hg => hlist g ▸ hg) rfl
    have hall := hfirst.trans (untouched_resumeAll hf (l := (s.event f).suspendThread)
      (p := (s.setEvent f { s.event f with set := (s.event f).set ||| set }, false)) hset hr
      (fun j hj => ⟨hs.waiting.suspended hj, fun hje => ?_⟩) (hs.waiting.nodup f))
    · dsimp only at h
      rw [hlist] at h
      split at h
      · exact hall.trans (untouched_schedule h)
      · cases h
        exact hall
    · rw [hevent] at hje
      exact hf (hs.waiting.once hj hje)

theorem untouched_timeouts {l : List ι} (hr : r ∉ l)
    (hl : ∀ j ∈ (s.event e).suspendThread, j = r) (h : l.foldlM rtThreadTimeout s = some t) :
    Untouched e r s t := by
  induction l generalizing s with
  | nil =>
    cases h
    exact untouched_of_eq rfl rfl rfl
  | cons j l ih =>
    obtain ⟨hrj, hr⟩ := not_or.1 (mt List.mem_cons.2 hr)
    obtain ⟨u, hu, hrest⟩ := run_cons_eq_some.1 h
    have hstat : (s.thread j).stat = .suspend := by
      rw [rtThreadTimeout, Option.ite_none_right_eq_some] at hu
      exact hu.1
    have hleaves := leaves_timeout hu
    rw [rtThreadTimeout_eq hstat] at hu
    obtain ⟨i, _, rfl⟩ := rtSchedule_eq_some.1 hu
    have hje : j ∉ (s.event e).suspendThread := fun hin => hrj (hl j hin).symm
    have hsame : (s.event e).suspendThread.erase j = (s.event e).suspendThread :=
      List.erase_of_not_mem hje
    refine Untouched.trans ?_ (ih hr (fun k hk => hl k (List.mem_of_mem_erase hk)) hrest)
    refine ⟨fun _ => ?_, fun hinit => ?_, rfl, hsame, fun f hf => hleaves.sub f hf, rfl⟩
    · rw [asks, asks]
      dsimp only
      rw [Function.update_of_ne hrj]
    · dsimp only
      rw [Function.update_of_ne hrj, hinit]
      rintro ⟨⟩

theorem untouched_setThread (s : Kernel ι κ) {x : Thread} (hs : x.stat = (s.thread j).stat)
    (ho : x.timedOut = (s.thread j).timedOut) (hi : x.eventInfo = (s.thread j).eventInfo)
    (hw : x.eventSet = (s.thread j).eventSet) : Untouched e r s (s.setThread j x) where
  asks _ := by
    rw [asks, asks]
    by_cases hr : r = j
    · subst hr
      rw [setThread_self, hs, ho, hi, hw]
    · rw [setThread_other hr]
  started hinit := by
    rw [setThread_stat hs, hinit]
    rintro ⟨⟩
  set := rfl
  list := rfl
  only _ hf := hf
  receptions := rfl

theorem untouched_timeSlice (h : s.timeSlice j = some t) : Untouched e r s t := by
  obtain ⟨n, hslice⟩ := timeSlice_eq s j
  have hspent : Untouched e r s (s.setThread j { s.thread j with remainingTick := n }) :=
    untouched_setThread s rfl rfl rfl rfl
  rw [h] at hslice
  rcases hslice with hslice | hslice
  · exact hspent.trans (untouched_yield hslice.symm)
  · cases hslice
    exact hspent

theorem Mirrors.tick (h : Mirrors e r s u) (hs : Sound s) (hc : Scheduled s)
    (hj : s.current = some j) (ht : s.rtTickIncrease more j = some t) (htsound : Sound t) :
    Mirrors e r t (follow e r u t .tick) := by
  obtain ⟨v, hv, hvsound, hvsched, _, hvcurrent, _⟩ := hs.timeSlice hc hj
  obtain ⟨timers, hexpire, hsound, hcalls, _, hover⟩ := hvsound.expire more
  have hmirrors : Mirrors e r { v with timers } u :=
    (h.untouched (untouched_timeSlice hv)).untouched (untouched_of_eq rfl rfl rfl)
  rw [rtTickIncrease, hv, Option.bind_some, hexpire, Option.bind_some, hcalls] at ht
  have honly : ∀ i ∈ (v.event e).suspendThread, i = r := by
    rw [hmirrors.list]
    split
    · exact fun i hi => List.mem_singleton.1 hi
    · exact fun i hi => by cases hi
  by_cases hr : r ∈ Timers.expired v.timers.timer v.timers.tick v.timers.list
  · have hpc : u.pc = .blocked := hmirrors.suspended (hover r hr).1
    obtain ⟨hready, hout⟩ := timeouts_ready hsound (hvsched.keep rfl rfl fun _ hj => hj) hvcurrent
      hover (hvsound.settled.nodup.filter _) hr ht
    have hleaves := leaves_timeouts ht
    have hfree := htsound.not_waiting (k := r) (by rw [hready]; rintro ⟨⟩)
    rw [follow, if_pos ⟨hpc, hready⟩]
    refine ⟨?_, (hleaves.set e).trans hmirrors.set, ?_, fun f hf => absurd hf (hfree f), ?_, ?_, ?_,
      fun _ => ⟨hready, hout⟩⟩
    · rintro (hb | hb | hb) <;> cases hb
    · rw [if_neg (by rintro ⟨⟩)]
      refine List.eq_nil_iff_forall_not_mem.2 fun i hi => ?_
      obtain rfl := honly i (hleaves.sub e hi)
      exact hfree e hi
    · intro hsuspend
      cases hready.symm.trans hsuspend
    · rintro ⟨⟩
    · rintro b ⟨⟩
  · have hfinal := hmirrors.untouched (untouched_timeouts hr honly ht)
    rw [follow, if_neg ?_]
    · exact hfinal
    · rintro ⟨hpc, hready⟩
      have hsuspend : (t.thread r).stat = .suspend := congrArg Prod.fst (hfinal.blocked hpc)
      cases hready.symm.trans hsuspend

omit [DecidableEq ι] [DecidableEq κ] in
theorem suspendAt_nil (thread : ι → Thread) (prio : Bool) (k : ι) :
    suspendAt thread prio k [] = [k] := by
  rw [suspendAt]
  split <;> rfl

omit [DecidableEq ι] in
theorem take_clears (s : Kernel ι κ) (k : ι) (e : κ) (b c : UInt32) :
    (s.take k e (rtEventFlagOr ||| rtEventFlagClear) b c).event e =
      { s.event e with set := (s.event e).set &&& ~~~ c } ∧
    (s.take k e (rtEventFlagOr ||| rtEventFlagClear) b c).receptions e =
      s.receptions e ++ [⟨k, e, b, true⟩] := by
  rw [take, if_pos (by decide), setEvent_self]
  refine ⟨rfl, ?_⟩
  change (s.received ++ [(⟨k, e, b, true⟩ : Reception ι κ)]).filter _ = _
  rw [List.filter_append, List.filter_cons_of_pos (by simp)]
  rfl

theorem Mirrors.recv (h : Mirrors e r s u) (hs : Sound s) (hk : s.running = some r)
    (hpc : u.pc = .recv) {timeout : Int32} (hpos : 0 < timeout)
    (ht : s.rtEventRecv r e 3 (rtEventFlagOr ||| rtEventFlagClear) timeout = some t) :
    Mirrors e r t u.rtEventRecv := by
  obtain ⟨_, hready⟩ := running_eq_some.1 hk
  have hlist : (s.event e).suspendThread = [] := by
    rw [h.list, if_neg (by rw [hpc]; rintro ⟨⟩)]
  have hfree := hs.not_waiting (k := r) (by rw [hready]; rintro ⟨⟩)
  rcases rtEventRecv_cases ht with ⟨hzero, _⟩ | ⟨hmet, rfl⟩ | ⟨hzero, _⟩ | ⟨hunmet, _, v, hv, ht⟩
  · cases hzero
  · rw [h.set, EventSet.satisfied_word] at hmet
    have hbits : u.set.rx = true ∨ u.set.rxIdle = true := by
      by_contra hno
      rw [if_neg hno] at hmet
      exact hmet rfl
    rw [Uart.rtEventRecv, if_pos hbits]
    have hthread : ((s.setThread r { s.thread r with timedOut := false }).thread r).stat =
        .ready := (setThread_stat (by rfl) r).trans hready
    refine ⟨?_, ?_, ?_, fun f hf => ?_, fun hsuspend => ?_, ?_, ?_, ?_⟩
    · rintro (hb | hb | hb) <;> cases hb
    · rw [(take_clears ..).1]
      change (s.event e).set &&& ~~~ 3 = _
      rw [h.set, u.set.word_clear.2.1]
    · rw [(take_event ..).1, if_neg (by rintro ⟨⟩)]
      exact hlist
    · rw [(take_event ..).1] at hf
      exact absurd hf (hfree f)
    · rw [take_thread, hthread] at hsuspend
      cases hsuspend
    · rintro ⟨⟩
    · rintro b ⟨⟩
      rw [take_thread, setThread_self]
      refine ⟨hready, rfl, ?_⟩
      rw [(take_clears ..).2, List.getLast?_concat, h.set, u.set.word_clear.2.2]
    · rintro ⟨⟩
  · rw [hzero] at hpos
    cases hpos
  · rw [h.set, EventSet.satisfied_word] at hunmet
    have hbits : ¬ (u.set.rx = true ∨ u.set.rxIdle = true) := by
      intro hyes
      rw [if_pos hyes] at hunmet
      cases hunmet
    rw [Uart.rtEventRecv, if_neg hbits]
    obtain ⟨_, ht⟩ := ht.resolve_right fun hno => hno.1 hpos
    obtain ⟨hthread, hevent, hreceived⟩ := startTimer_event ht
    have hready' : ((s.setThread r { s.thread r with
        timedOut := false, eventSet := 3, eventInfo := rtEventFlagOr ||| rtEventFlagClear }).thread
          r).stat = .ready :=
      (setThread_stat (by rfl) r).trans hready
    rw [hv, rtIpcListSuspend, rtThreadSuspend_eq hready'] at hthread hevent hreceived
    refine ⟨?_, ?_, ?_, fun f hf => ?_, fun _ => rfl, fun _ => ?_, ?_, ?_⟩
    · rintro (hb | hb | hb) <;> cases hb
    · rw [hevent, setEvent_self]
      exact h.set
    · rw [hevent, setEvent_self, if_pos rfl]
      dsimp only
      rw [show (s.setThread r _).event e = s.event e from rfl, hlist, suspendAt_nil]
    · by_contra hne
      rw [hevent, setEvent_other hne] at hf
      exact hfree f hf
    · have hself : t.thread r = { s.thread r with
          stat := .suspend, timedOut := false, eventSet := 3,
          eventInfo := rtEventFlagOr ||| rtEventFlagClear } := by
        rw [hthread]
        change Function.update _ r _ r = _
        rw [Function.update_self, setThread_self]
      rw [asks, hself]
    · rintro b ⟨⟩
    · rintro ⟨⟩

omit [DecidableEq ι] in
theorem Mirrors.same (h : Mirrors e r s u) {v : Uart} (hpc : v.pc = u.pc) (hset : v.set = u.set) :
    Mirrors e r s v where
  booted hv := h.booted (by rw [Uart.Booting, ← hpc]; exact hv)
  set := hset ▸ h.set
  list := hpc ▸ h.list
  only := h.only
  suspended hs := hpc.trans (h.suspended hs)
  blocked hv := h.blocked (hpc ▸ hv)
  received b hv := h.received b (hpc ▸ hv)
  timedOut hv := h.timedOut (hpc ▸ hv)

theorem Mirrors.wake (h : Mirrors e r s u) (hb : u.pc = .blocked) {w : EventSet}
    (hw : w.rx ∨ w.rxIdle) :
    Mirrors e r
      (resumeIf e (s.setEvent e { s.event e with set := w.word }, false) r).1
      { u with pc := .received w, set := .none } ∧
    (resumeIf e (s.setEvent e { s.event e with set := w.word }, false) r).2 = true := by
  have hasks := h.blocked hb
  have hstat : (s.thread r).stat = .suspend := congrArg Prod.fst hasks
  have hout : (s.thread r).timedOut = false := congrArg (fun p => p.2.1) hasks
  have hinfo : (s.thread r).eventInfo = rtEventFlagOr ||| rtEventFlagClear :=
    congrArg (fun p => p.2.2.1) hasks
  have hset : (s.thread r).eventSet = 3 := congrArg (fun p => p.2.2.2) hasks
  set s' : Kernel ι κ := s.setEvent e { s.event e with set := w.word } with hs'
  have hmet : satisfied (s'.thread r).eventInfo (s'.thread r).eventSet (s'.event e).set =
      some w.word := by
    rw [hs', setEvent_self]
    change satisfied (s.thread r).eventInfo (s.thread r).eventSet w.word = _
    rw [hinfo, hset, w.satisfied_word, if_pos hw]
  rcases resumeIf_cases e (s', false) r with ⟨hno, _⟩ | ⟨bits, hbits, heq⟩
  · cases hno.symm.trans hmet
  · obtain rfl := Option.some.inj (hbits.symm.trans hmet)
    rw [heq]
    refine ⟨?_, rfl⟩
    dsimp only
    rw [rtThreadResume_eq (by rw [take_thread, setThread_self]; exact hstat),
      show (s'.thread r).eventInfo = _ from hinfo]
    refine ⟨?_, ?_, ?_, fun f hf => ?_, fun hsuspend => ?_, ?_, ?_, ?_⟩
    · rintro (hv | hv | hv) <;> cases hv
    · dsimp only
      rw [(take_clears ..).1, hs']
      change (s'.event e).set &&& ~~~ w.word = _
      rw [hs', setEvent_self]
      exact w.word_clear.1
    · dsimp only
      rw [(take_clears ..).1, if_neg (by rintro ⟨⟩)]
      change (s'.event e).suspendThread.erase r = _
      rw [hs', setEvent_self]
      dsimp only
      rw [h.list, if_pos hb, List.erase_cons_head]
    · by_contra hne
      have hin := List.mem_of_mem_erase hf
      rw [(take_event ..).1] at hin
      change r ∈ (s'.event f).suspendThread at hin
      rw [hs', setEvent_other hne] at hin
      exact hne (h.only f hin)
    · dsimp only at hsuspend
      rw [Function.update_self] at hsuspend
      cases hsuspend
    · rintro ⟨⟩
    · rintro b ⟨⟩
      dsimp only
      rw [Function.update_self, take_thread, setThread_self]
      refine ⟨rfl, hout, ?_⟩
      change (receptions (take _ r e _ w.word w.word) e).getLast? = _
      rw [(take_clears ..).2, List.getLast?_concat]
    · rintro ⟨⟩

theorem Mirrors.send (h : Mirrors e r s u) {b : EventSet} (hb : b.rx ∨ b.rxIdle)
    (ht : s.rtEventSend e b.word = some t) : Mirrors e r t (u.rtEventSend b) := by
  set w : EventSet := ⟨u.set.rx || b.rx, u.set.rxIdle || b.rxIdle⟩ with hw
  have hword : u.set.word ||| b.word = w.word := (u.set.word_or b).symm
  have hany : w.rx = true ∨ w.rxIdle = true := hb.imp
    (fun hrx => by rw [hw, hrx]; exact Bool.or_true _)
    fun hidle => by rw [hw, hidle]; exact Bool.or_true _
  rw [Kernel.rtEventSend, if_neg (b.word_ne_zero hb), h.set, hword] at ht
  dsimp only at ht
  rw [setEvent_self] at ht
  dsimp only at ht
  by_cases hblocked : u.pc = .blocked
  · obtain ⟨hwake, hyes⟩ := h.wake hblocked hany
    have hround (p : Kernel ι κ × Bool) :
        (s.event e).suspendThread.foldl (resumeIf e) p = resumeIf e p r := by
      rw [h.list, if_pos hblocked]
      rfl
    rw [hround, if_pos hyes] at ht
    rw [Uart.rtEventSend, Uart.wake, if_pos hblocked]
    exact (hwake.untouched (untouched_schedule ht)).same rfl rfl
  · have hround (p : Kernel ι κ × Bool) :
        (s.event e).suspendThread.foldl (resumeIf e) p = p := by
      rw [h.list, if_neg hblocked]
      rfl
    rw [hround, if_neg Bool.false_ne_true, Option.some.injEq] at ht
    subst ht
    rw [Uart.rtEventSend, Uart.wake, if_neg hblocked]
    refine ⟨h.booted, ?_, ?_, fun f hf => ?_, h.suspended, h.blocked, h.received, h.timedOut⟩
    · rw [setEvent_self]
    · rw [setEvent_self]
      exact h.list
    · by_contra hne
      rw [setEvent_other hne] at hf
      exact hne (h.only f hf)

omit [DecidableEq ι] in
theorem Mirrors.between (h : Mirrors e r s u) (hr : (s.thread r).stat = .ready) (hpc : u.pc ≠ .recv)
    {v : Uart} (hv : u.thread = some v) : Mirrors e r s v := by
  obtain ⟨hset, hblocked, hnext⟩ := Uart.thread_between hv h.booted hpc
  have hgoes {pc : UartPc} (hp : v.pc = pc) : pc = .call ∨ pc = .recv ∨ pc = .read := hp ▸ hnext
  have hlist := h.list
  rw [if_neg hblocked] at hlist
  refine ⟨?_, hset ▸ h.set, ?_, h.only, fun hsuspend => ?_, fun hp => ?_, fun b hp => ?_,
    fun hp => ?_⟩
  · rintro (hp | hp | hp) <;> rcases hgoes hp with ⟨⟨⟩⟩ | ⟨⟨⟩⟩ | ⟨⟨⟩⟩
  · rw [if_neg fun hp => ?_]
    · exact hlist
    · rcases hgoes hp with ⟨⟨⟩⟩ | ⟨⟨⟩⟩ | ⟨⟨⟩⟩
  · cases hr.symm.trans hsuspend
  · rcases hgoes hp with ⟨⟨⟩⟩ | ⟨⟨⟩⟩ | ⟨⟨⟩⟩
  · rcases hgoes hp with ⟨⟨⟩⟩ | ⟨⟨⟩⟩ | ⟨⟨⟩⟩
  · rcases hgoes hp with ⟨⟨⟩⟩ | ⟨⟨⟩⟩ | ⟨⟨⟩⟩

theorem Mirrors.kernel (h : Mirrors e r s u) (hs : Sound s) (hc : Scheduled s)
    {a : KernelEvent ι κ} (ha : Serves e r s u a) (ht : Kernel.step more s a = some t) :
    Mirrors e r t (follow e r u t a) ∧
      ∃ fs, run Uart.step u fs = some (follow e r u t a) ∧
        fs.filterMap UartEvent.isr? = [] := by
  cases a with
  | startup k => exact ⟨h.untouched (untouched_startup hs ht), [], rfl, rfl⟩
  | start =>
    obtain ⟨_, ht⟩ := Option.ite_none_right_eq_some.1 ht
    exact ⟨h.untouched (untouched_schedule ht), [], rfl, rfl⟩
  | schedule =>
    obtain ⟨_, ht⟩ := Option.ite_none_left_eq_some.1 ht
    exact ⟨h.untouched (untouched_schedule ht), [], rfl, rfl⟩
  | yield =>
    obtain ⟨j, _, ht⟩ := Option.bind_eq_some_iff.1 ht
    exact ⟨h.untouched (untouched_yield ht), [], rfl, rfl⟩
  | sleep tick =>
    obtain ⟨j, hj, ht⟩ := Option.bind_eq_some_iff.1 ht
    have hne : r ≠ j := fun he => ha (he ▸ hj)
    exact ⟨h.untouched (untouched_sleep hs hj hne ht), [], rfl, rfl⟩
  | exit =>
    obtain ⟨j, hj, ht⟩ := Option.bind_eq_some_iff.1 ht
    have hne : r ≠ j := fun he => ha (he ▸ hj)
    exact ⟨h.untouched (untouched_exit hs hj hne ht), [], rfl, rfl⟩
  | recv f set option timeout =>
    obtain ⟨j, hj, ht⟩ := Option.bind_eq_some_iff.1 ht
    rw [Serves] at ha
    by_cases hf : f = e
    · subst hf
      rw [if_pos rfl] at ha
      obtain ⟨hr, hpc, rfl, rfl, hpos⟩ := ha
      obtain rfl := Option.some.inj (hr.symm.trans hj)
      rw [follow, if_pos rfl]
      refine ⟨h.recv hs hj hpc hpos ht, [.thread], run_cons_eq_some.2 ⟨_, ?_, rfl⟩, rfl⟩
      rw [Uart.step, Uart.thread, hpc]
    · rw [if_neg hf] at ha
      have hne : r ≠ j := fun he => ha (he ▸ hj)
      rw [follow, if_neg hf]
      exact ⟨h.untouched (untouched_recv hs hj hne hf ht), [], rfl, rfl⟩
  | send f set =>
    exact ⟨h.untouched (untouched_send ha hs (fun hr => ha (h.only f hr)) ht), [], rfl, rfl⟩
  | tick =>
    obtain ⟨j, hj, ht⟩ := Option.bind_eq_some_iff.1 ht
    obtain ⟨v, hv, hvsound, _⟩ := hs.tick hc hj more
    obtain rfl := Option.some.inj (hv.symm.trans ht)
    refine ⟨h.tick hs hc hj ht hvsound, ?_⟩
    rw [follow]
    split
    · rename_i hpc
      exact ⟨[.timer], run_cons_eq_some.2 ⟨_, if_pos hpc.1, rfl⟩, rfl⟩
    · exact ⟨[], rfl, rfl⟩

structure Served (e : κ) (r : ι) (p : Kernel ι κ × Uart) : Prop where
  sound : Sound p.1
  scheduled : Scheduled p.1
  unmet : Unmet p.1
  opened : p.2.Opened
  mirrors : Mirrors e r p.1 p.2

theorem served_boot (thread : ι → Thread) (prio : κ → Bool) (config : Config) :
    Served e r (boot thread prio, openedUart config) := by
  have hbooted : ¬ (openedUart config).Booting := by
    rintro (hb | hb | hb) <;> cases hb
  have hattended : (openedUart config).Attended := ⟨rfl, rfl, fun hne => absurd rfl hne⟩
  refine ⟨sound_boot thread prio, fun k hk => ?_, fun f k hk => absurd hk List.not_mem_nil,
    ⟨rfl, hbooted, hattended⟩, hbooted, ?_, rfl, fun f hf => absurd hf List.not_mem_nil, ?_, ?_,
    ?_, ?_⟩
  · cases (running_eq_some.1 hk).1
  · change 0 = EventSet.none.word
    decide
  · rintro ⟨⟩
  · rintro ⟨⟩
  · rintro b ⟨⟩
  · rintro ⟨⟩

theorem Served.step {p q : Kernel ι κ × Uart} {a : ReceiverEvent ι κ} (h : Served e r p)
    (hq : stepReceiver more e r p a = some q) :
    Served e r q ∧ ∃ fs, run Uart.step p.2 fs = some q.2 ∧
      fs.filterMap UartEvent.isr? = [a].filterMap ReceiverEvent.isr? := by
  obtain ⟨s, u⟩ := p
  cases a with
  | kernel a =>
    obtain ⟨ha, hq⟩ := Option.ite_none_right_eq_some.1 hq
    obtain ⟨t, ht, rfl⟩ := Option.map_eq_some_iff.1 hq
    obtain ⟨hsound, hsched⟩ := h.sound.step h.scheduled ht
    obtain ⟨hmirrors, fs, hfs, hnone⟩ := h.mirrors.kernel h.sound h.scheduled ha ht
    exact ⟨⟨hsound, hsched, h.unmet.step h.sound ht,
      run_invariant (P := Uart.Opened) (fun _ _ _ hp hs => hp.step hs) h.opened hfs, hmirrors⟩,
      fs, hfs, hnone⟩
  | isr bytes =>
    obtain ⟨t, ht, rfl⟩ := Option.map_eq_some_iff.1 hq
    have hk : Kernel.step more s (.send e (if (bytes.foldl pushFifo u.fifo).length = 0 then
        uartCntRxIdleEvent else uartCntRxEvent)) = some t := ht
    obtain ⟨hsound, hsched⟩ := h.sound.step h.scheduled hk
    have hisr : u.step (.isr bytes) = some (u.rtHwSerialIsr bytes) := if_pos h.opened.isOpen
    refine ⟨⟨hsound, hsched, h.unmet.step h.sound hk, h.opened.step hisr, ?_⟩,
      [.isr bytes], run_cons_eq_some.2 ⟨_, hisr, rfl⟩, rfl⟩
    have hsame : Mirrors e r s { u with fifo := bytes.foldl pushFifo u.fifo } :=
      h.mirrors.same rfl rfl
    dsimp only at ht ⊢
    rw [Uart.rtHwSerialIsr, Uart.uartIntput]
    split at ht
    · rename_i hzero
      rw [if_pos hzero]
      exact hsame.send (.inr rfl) ht
    · rename_i hzero
      rw [if_neg hzero]
      exact hsame.send (.inl rfl) ht
  | between =>
    obtain ⟨⟨hr, hpc⟩, hq⟩ := Option.ite_none_right_eq_some.1 hq
    obtain ⟨v, hv, rfl⟩ := Option.map_eq_some_iff.1 hq
    have hthread : u.step .thread = some v := hv
    exact ⟨⟨h.sound, h.scheduled, h.unmet, h.opened.step hthread,
      h.mirrors.between (running_eq_some.1 hr).2 hpc hv⟩,
      [.thread], run_cons_eq_some.2 ⟨_, hthread, rfl⟩, rfl⟩

theorem Served.run {p q : Kernel ι κ × Uart} {es : List (ReceiverEvent ι κ)} (h : Served e r p)
    (hq : CountdownOutside.run (stepReceiver more e r) p es = some q) :
    Served e r q ∧ ∃ fs, CountdownOutside.run Uart.step p.2 fs = some q.2 ∧
      fs.filterMap UartEvent.isr? = es.filterMap ReceiverEvent.isr? := by
  induction es generalizing p with
  | nil =>
    cases hq
    exact ⟨h, [], rfl, rfl⟩
  | cons a es ih =>
    obtain ⟨m, hm, hrest⟩ := run_cons_eq_some.1 hq
    obtain ⟨hserved, fs, hfs, hisr⟩ := h.step hm
    obtain ⟨hfinal, gs, hgs, hisrs⟩ := ih hserved hrest
    refine ⟨hfinal, fs ++ gs, run_append_eq_some.2 ⟨_, hfs, hgs⟩, ?_⟩
    rw [List.filterMap_append, hisr, hisrs, ← List.filterMap_append, List.singleton_append]

/-- Whatever the other threads do, the receiver thread and the interrupts on the kernel run as the
serial device alone does, with the same bits of `rcv_event`, and the thread is in the list of the
event exactly when the device has it waiting. It never waits while bytes do. -/
theorem receiver_agrees {thread : ι → Thread} {prio : κ → Bool} {config : Config}
    {es : List (ReceiverEvent ι κ)}
    (h : run (stepReceiver more e r) (boot thread prio, openedUart config) es = some (s, u)) :
    (∃ fs, run Uart.step (.boot config) fs = some u ∧
      fs.filterMap UartEvent.isr? = es.filterMap ReceiverEvent.isr?) ∧
    (s.event e).set = u.set.word ∧
    (r ∈ (s.event e).suspendThread ↔ u.pc = .blocked) ∧
    (r ∈ (s.event e).suspendThread → u.fifo = []) ∧
    (∀ b, u.pc = .received b → (s.thread r).stat = .ready ∧ (s.thread r).timedOut = false ∧
      (s.receptions e).getLast? = some ⟨r, e, b.word, true⟩) ∧
    (u.pc = .timedOut → (s.thread r).stat = .ready ∧ (s.thread r).timedOut = true) := by
  obtain ⟨hserved, fs, hfs, hisrs⟩ := (served_boot thread prio config).run h
  have hmirrors := hserved.mirrors
  have hopen : CountdownOutside.run Uart.step (.boot config) (List.replicate 3 .thread) =
      some (openedUart config) := rfl
  have hwaits : r ∈ (s.event e).suspendThread ↔ u.pc = .blocked := by
    rw [hmirrors.list]
    split
    · rename_i hpc
      exact ⟨fun _ => hpc, fun _ => List.mem_singleton_self r⟩
    · rename_i hpc
      exact ⟨fun hin => absurd hin List.not_mem_nil, fun h => absurd h hpc⟩
  refine ⟨⟨_, run_append_eq_some.2 ⟨_, hopen, hfs⟩, hisrs⟩, hmirrors.set, hwaits, fun hin => ?_,
    hmirrors.received, hmirrors.timedOut⟩
  -- A thread that waits has not been sent a bit, so that no byte has come since.
  have hpc := hwaits.1 hin
  have hno := hserved.unmet e r hin
  have hasks := hmirrors.blocked hpc
  rw [show (s.thread r).eventInfo = _ from congrArg (fun p => p.2.2.1) hasks,
    show (s.thread r).eventSet = _ from congrArg (fun p => p.2.2.2) hasks, hmirrors.set,
    EventSet.satisfied_word] at hno
  refine hserved.opened.attended.heard.blocked hpc ?_
  by_contra hrx
  rw [if_pos (.inl (Bool.eq_true_of_not_eq_false hrx))] at hno
  cases hno

def unitReceives : List (ReceiverEvent UnitThread Unit) :=
  unitStartup.map .kernel ++ [.kernel (.sleep 2), .kernel .schedule, .kernel (.sleep 100),
    .kernel .schedule, .between, .kernel (.recv () 3 6 20), .kernel .schedule, .isr [0],
    .kernel .yield]

theorem receiver_agrees_unit : ∃ (s : Kernel UnitThread Unit) (u : Uart),
    run (stepReceiver 0 () .rcvProcess) (.unit, openedUart Config.zero) unitReceives =
      some (s, u) ∧ u.pc = .received ⟨true, false⟩ ∧
    (∃ fs, run Uart.step (.boot Config.zero) fs = some u ∧
      fs.filterMap UartEvent.isr? = [[0]]) ∧
    (s.event ()).set = u.set.word ∧ (s.thread .rcvProcess).stat = .ready ∧
    (s.thread .rcvProcess).timedOut = false ∧
    (s.receptions ()).getLast? = some ⟨.rcvProcess, (), 1, true⟩ := by
  have hany : (run (stepReceiver 0 () .rcvProcess) (.unit, openedUart Config.zero)
      unitReceives).any fun p => p.2.pc = .received ⟨true, false⟩ := by
    decide +kernel
  obtain ⟨⟨s, u⟩, hs, hpc⟩ := (Option.any_eq_true ..).1 hany
  have hreceived := of_decide_eq_true hpc
  obtain ⟨hfs, hset, _, _, hlast, _⟩ := receiver_agrees hs
  obtain ⟨hready, hno, hlast⟩ := hlast _ hreceived
  exact ⟨s, u, hs, hreceived, hfs, hset, hready, hno, hlast⟩

end Kernel

end CountdownOutside
