import CountdownOutside.Receive

namespace CountdownOutside
set_option autoImplicit true

/-- The bits of `rcv_event`: `UART_CNT_RX_EVENT` and `UART_CNT_RXIDLE_EVENT`. -/
structure EventSet where
  rx : Bool
  rxIdle : Bool
  deriving DecidableEq, Repr

def EventSet.none : EventSet := ⟨false, false⟩

inductive UartPc
  /-- `rt_device_set_rx_indicate` in `uart_open`. -/
  | indicate
  /-- `rt_device_open`, which lets the receive interrupt come. -/
  | open
  /-- `rt_event_init`. -/
  | init
  /-- The next call of `uart_get_cnt_data`. -/
  | call
  /-- `rt_event_recv`. -/
  | recv
  /-- It is suspended in `rt_event_recv`. -/
  | blocked
  /-- `rt_event_recv` has returned with these bits. -/
  | received (e : EventSet)
  /-- `rt_event_recv` has returned with `-RT_ETIMEOUT`. -/
  | timedOut
  /-- `rt_device_read`. -/
  | read
  deriving DecidableEq, Repr

structure Uart where
  pc : UartPc
  isOpen : Bool
  fifo : List UInt8
  set : EventSet
  initialised : Bool
  /-- `rt_event_send` has been executed on `rcv_event` before `rt_event_init`. -/
  sentEarly : Bool
  receiver : Receiver
  deriving DecidableEq, Repr

inductive UartEvent
  | thread
  /-- The receive interrupt with the bytes it finds. -/
  | isr (bytes : List UInt8)
  /-- The timer of the suspended thread. -/
  | timer
  deriving DecidableEq, Repr

def rtSerialRbBufsz : Nat := 128

/-- The ring holds one byte less than its size, and a further byte takes the place of the oldest. -/
def pushFifo (fifo : List UInt8) (x : UInt8) : List UInt8 :=
  if fifo.length + 1 < rtSerialRbBufsz then fifo ++ [x] else fifo.tail ++ [x]

namespace Uart

def boot (config : Config) : Uart where
  pc := .indicate
  isOpen := false
  fifo := []
  set := .none
  initialised := false
  sentEarly := false
  receiver := .start config 0

def wake (s : Uart) : Uart :=
  if s.pc = .blocked then { s with pc := .received s.set, set := .none } else s

def rtEventSend (s : Uart) (set : EventSet) : Uart :=
  { s with
    set := ⟨s.set.rx || set.rx, s.set.rxIdle || set.rxIdle⟩
    sentEarly := s.sentEarly || !s.initialised }.wake

def uartIntput (s : Uart) (size : Nat) : Uart :=
  if size = 0 then s.rtEventSend ⟨false, true⟩ else s.rtEventSend ⟨true, false⟩

def rtHwSerialIsr (s : Uart) (bytes : List UInt8) : Uart :=
  let s := { s with fifo := bytes.foldl pushFifo s.fifo }
  s.uartIntput s.fifo.length

/-- `rt_event_recv` for either bit with `RT_EVENT_FLAG_CLEAR`. -/
def rtEventRecv (s : Uart) : Uart :=
  if s.set.rx ∨ s.set.rxIdle then { s with pc := .received s.set, set := .none }
  else { s with pc := .blocked }

/-- The receiver thread, with interrupts possible between any two of its steps. -/
def thread (s : Uart) : Option Uart :=
  match s.pc with
  | .indicate => some { s with pc := .open }
  | .open => some { s with pc := .init, isOpen := true, fifo := [] }
  | .init => some { s with pc := .call, set := .none, initialised := true }
  | .call => some { s with pc := .recv, receiver := .start s.receiver.config 20 }
  | .recv => some s.rtEventRecv
  | .blocked => none
  | .received e => some { s with pc := if e.rx then .read else .recv }
  | .timedOut => some { s with
      receiver := s.receiver.expire
      pc := if s.receiver.expire.Left then .call else .recv }
  | .read =>
    match s.fifo with
    | [] => some { s with pc := .recv }
    | x :: fifo => some { s with fifo, receiver := s.receiver.byte x }

def step (s : Uart) : UartEvent → Option Uart
  | .thread => s.thread
  | .isr bytes => if s.isOpen then some (s.rtHwSerialIsr bytes) else none
  | .timer => if s.pc = .blocked then some { s with pc := .timedOut } else none

/-- No byte is stranded: the event has not been used before its initialisation, and a thread that
waits for it without its bit has an empty FIFO. -/
structure Heard (s : Uart) : Prop where
  early : s.sentEarly = false
  blocked : s.pc = .blocked → s.set.rx = false → s.fifo = []

/-- The receive interrupt does not come between `rt_device_open` and `rt_event_init`. -/
def Undisturbed (s : Uart) (e : UartEvent) (_ : Uart) : Prop :=
  s.pc = .init → ∀ bytes, e ≠ .isr bytes

/-- While bytes wait the bit is set, or the thread is on its way to `rt_device_read`. -/
def Attended (s : Uart) : Prop :=
  s.sentEarly = false ∧
    match s.pc with
    | .indicate => s.isOpen = false
    | .open => s.isOpen = false
    | .init => s.fifo = []
    | .received e => s.initialised = true ∧ (s.fifo ≠ [] → s.set.rx = true ∨ e.rx = true)
    | .read => s.initialised = true
    | _ => s.initialised = true ∧ (s.fifo ≠ [] → s.set.rx = true)

variable {s t : Uart} {e : UartEvent} {es : List UartEvent}

theorem attended_boot (config : Config) : Attended (boot config) := ⟨rfl, rfl⟩

theorem Attended.heard (h : Attended s) : Heard s where
  early := h.1
  blocked := by
    intro hpc hset
    obtain ⟨_, hw⟩ := h
    rw [hpc] at hw
    by_contra hne
    rw [hw.2 hne] at hset
    cases hset

theorem Attended.initialised (h : Attended s) (ho : s.isOpen = true) (hpc : s.pc ≠ .init) :
    s.initialised = true ∧ s.pc ≠ .indicate ∧ s.pc ≠ .open := by
  obtain ⟨_, hw⟩ := h
  cases hp : s.pc with
  | indicate =>
    rw [hp, ho] at hw
    cases hw
  | «open» =>
    rw [hp, ho] at hw
    cases hw
  | init => exact absurd hp hpc
  | read =>
    rw [hp] at hw
    exact ⟨hw, nofun, nofun⟩
  | received | call | recv | blocked | timedOut =>
    rw [hp] at hw
    exact ⟨hw.1, nofun, nofun⟩

theorem attended_of_set (hearly : s.sentEarly = false) (hinit : s.initialised = true)
    (hpc : s.pc ≠ .indicate ∧ s.pc ≠ .open ∧ s.pc ≠ .init)
    (hset : s.fifo ≠ [] → s.set.rx = true) : Attended s := by
  refine ⟨hearly, ?_⟩
  cases hp : s.pc with
  | indicate => exact absurd hp hpc.1
  | «open» => exact absurd hp hpc.2.1
  | init => exact absurd hp hpc.2.2
  | received e => exact ⟨hinit, fun hne => .inl (hset hne)⟩
  | read => exact hinit
  | call | recv | blocked | timedOut => exact ⟨hinit, hset⟩

theorem Attended.wake (h : Attended s) : Attended s.wake := by
  rw [Uart.wake]
  split
  · rename_i hp
    obtain ⟨hearly, hw⟩ := h
    rw [hp] at hw
    exact ⟨hearly, hw.1, fun hne => .inr (hw.2 hne)⟩
  · exact h

theorem Attended.send {b : EventSet} (hearly : s.sentEarly = false) (hinit : s.initialised = true)
    (hpc : s.pc ≠ .indicate ∧ s.pc ≠ .open ∧ s.pc ≠ .init)
    (hset : s.fifo ≠ [] → b.rx = true) : Attended (s.rtEventSend b) := by
  refine Attended.wake (attended_of_set ?_ hinit hpc ?_)
  · change (s.sentEarly || !s.initialised) = false
    rw [hearly, hinit]
    rfl
  · intro hne
    change (s.set.rx || b.rx) = true
    rw [hset hne, Bool.or_true]

theorem Attended.isr (h : Attended s) (ho : s.isOpen = true) (hpc : s.pc ≠ .init)
    (bytes : List UInt8) : Attended (s.rtHwSerialIsr bytes) := by
  obtain ⟨hinit, hindicate, hopen⟩ := h.initialised ho hpc
  rw [rtHwSerialIsr, uartIntput]
  dsimp only
  split
  · rename_i hz
    refine Attended.send ?_ hinit ⟨hindicate, hopen, hpc⟩ ?_
    · exact h.1
    · intro hne
      exact absurd (List.eq_nil_of_length_eq_zero hz) hne
  · refine Attended.send ?_ hinit ⟨hindicate, hopen, hpc⟩ ?_
    · exact h.1
    · intro _
      rfl

theorem Attended.thread (h : Attended s) (hs : s.thread = some t) : Attended t := by
  obtain ⟨hearly, hw⟩ := h
  rw [Uart.thread] at hs
  cases hp : s.pc with
  | indicate =>
    rw [hp] at hs hw
    cases hs
    exact ⟨hearly, hw⟩
  | «open» =>
    rw [hp] at hs
    cases hs
    exact ⟨hearly, rfl⟩
  | init =>
    rw [hp] at hs hw
    cases hs
    exact ⟨hearly, rfl, fun hne => absurd hw hne⟩
  | call =>
    rw [hp] at hs hw
    cases hs
    exact ⟨hearly, hw⟩
  | recv =>
    rw [hp] at hs hw
    cases hs
    rw [rtEventRecv]
    split
    · exact ⟨hearly, hw.1, fun hne => .inr (hw.2 hne)⟩
    · exact ⟨hearly, hw⟩
  | blocked =>
    rw [hp] at hs
    cases hs
  | received e =>
    rw [hp] at hs hw
    cases hs
    by_cases he : e.rx = true
    · rw [if_pos he]
      exact ⟨hearly, hw.1⟩
    · rw [if_neg he]
      exact ⟨hearly, hw.1, fun hne => (hw.2 hne).resolve_right he⟩
  | timedOut =>
    rw [hp] at hs hw
    cases hs
    split
    · exact ⟨hearly, hw⟩
    · exact ⟨hearly, hw⟩
  | read =>
    rw [hp] at hs hw
    dsimp only at hs
    split at hs
    · rename_i hf
      cases hs
      exact ⟨hearly, hw, fun hne => absurd hf hne⟩
    · cases hs
      exact ⟨hearly, hw⟩

theorem Attended.step (h : Attended s) (hs : s.step e = some t) (hg : Undisturbed s e t) :
    Attended t := by
  cases e with
  | thread => exact h.thread hs
  | isr bytes =>
    obtain ⟨ho, he⟩ := Option.ite_none_right_eq_some.1 hs
    cases he
    exact h.isr ho (fun hpc => hg hpc bytes rfl) bytes
  | timer =>
    obtain ⟨hpc, he⟩ := Option.ite_none_right_eq_some.1 hs
    cases he
    obtain ⟨hearly, hw⟩ := h
    rw [hpc] at hw
    exact ⟨hearly, hw⟩

@[simp] theorem wake_sentEarly (s : Uart) : s.wake.sentEarly = s.sentEarly := by
  rw [wake]
  split <;> rfl

@[simp] theorem isr_sentEarly (s : Uart) (bytes : List UInt8) :
    (s.rtHwSerialIsr bytes).sentEarly = (s.sentEarly || !s.initialised) := by
  rw [rtHwSerialIsr, uartIntput]
  split <;> rw [rtEventSend, wake_sentEarly]

def Booting (s : Uart) : Prop := s.pc = .indicate ∨ s.pc = .open ∨ s.pc = .init

theorem wake_booting (h : Booting s.wake) : Booting s ∧ s.wake.initialised = s.initialised := by
  rw [wake] at h ⊢
  split
  · rename_i hp
    rw [if_pos hp] at h
    rcases h with h | h | h <;> cases h
  · rename_i hp
    rw [if_neg hp] at h
    exact ⟨h, rfl⟩

theorem isr_booting (h : Booting (s.rtHwSerialIsr bytes)) :
    Booting s ∧ (s.rtHwSerialIsr bytes).initialised = s.initialised := by
  rw [rtHwSerialIsr, uartIntput] at h ⊢
  split at h
  · rename_i hz
    rw [if_pos hz]
    exact wake_booting h
  · rename_i hz
    rw [if_neg hz]
    exact wake_booting h

theorem thread_booting (hs : s.thread = some t) (h : Booting t) :
    Booting s ∧ t.initialised = s.initialised := by
  rw [thread] at hs
  cases hp : s.pc with
  | indicate =>
    rw [hp] at hs
    cases hs
    exact ⟨.inl hp, rfl⟩
  | «open» =>
    rw [hp] at hs
    cases hs
    exact ⟨.inr (.inl hp), rfl⟩
  | init | call =>
    rw [hp] at hs
    cases hs
    rcases h with h | h | h <;> cases h
  | recv =>
    rw [hp] at hs
    cases hs
    rw [rtEventRecv] at h
    split at h <;> rcases h with h | h | h <;> cases h
  | blocked =>
    rw [hp] at hs
    cases hs
  | received | timedOut =>
    rw [hp] at hs
    cases hs
    rcases h with h | h | h <;> dsimp only at h <;> split at h <;> cases h
  | read =>
    rw [hp] at hs
    dsimp only at hs
    split at hs <;> cases hs <;> rcases h with h | h | h <;> cases h

theorem run_booting (h : run step (boot config) es = some s) (hb : Booting s) :
    s.initialised = false := by
  revert hb
  apply run_invariant (P := fun s => Booting s → s.initialised = false) _ (fun _ => rfl) h
  intro s e t hs hst ht
  cases e with
  | thread =>
    obtain ⟨hb, he⟩ := thread_booting hst ht
    rw [he, hs hb]
  | isr bytes =>
    obtain ⟨_, he⟩ := Option.ite_none_right_eq_some.1 hst
    cases he
    obtain ⟨hb, he⟩ := isr_booting ht
    rw [he, hs hb]
  | timer =>
    obtain ⟨_, he⟩ := Option.ite_none_right_eq_some.1 hst
    cases he
    rcases ht with h | h | h <;> cases h

/-- A call that is under way has come as far as `uart_get_cnt_data` does for some outcomes. -/
def Follows (pc : UartPc) (r : Receiver) : Prop :=
  match pc with
  | .indicate | .open | .init | .call => True
  | .read => ∃ dial os m, ∃ bytes : List UInt8,
      run Receiver.recv (.start dial 20) os = some m ∧ ¬ m.Left ∧ r = bytes.foldl Receiver.byte m
  | _ => ∃ dial os, run Receiver.recv (.start dial 20) os = some r ∧ ¬ r.Left

theorem byte_not_left (r : Receiver) (x : UInt8) : ¬ (r.byte x).Left := by
  rw [Receiver.byte, Receiver.Left]
  split <;> exact of_decide_eq_false rfl

theorem foldl_not_left {r : Receiver} (h : ¬ r.Left) (bytes : List UInt8) :
    ¬ (bytes.foldl Receiver.byte r).Left := by
  induction bytes generalizing r with
  | nil => exact h
  | cons x xs ih => exact ih (byte_not_left r x)

theorem recv_follows {r m : Receiver} {o : Outcome} (h : run Receiver.recv r os = some m)
    (hs : m.recv o = some n) : run Receiver.recv r (os ++ [o]) = some n :=
  run_append_eq_some.2 ⟨m, h, by rwa [run_singleton]⟩

theorem Follows.thread (h : Follows s.pc s.receiver) (hs : s.thread = some t) :
    Follows t.pc t.receiver := by
  rw [Uart.thread] at hs
  cases hp : s.pc with
  | indicate =>
    rw [hp] at hs
    cases hs
    trivial
  | «open» =>
    rw [hp] at hs
    cases hs
    trivial
  | init =>
    rw [hp] at hs
    cases hs
    trivial
  | call =>
    rw [hp] at hs
    cases hs
    exact ⟨s.receiver.config, [], rfl, of_decide_eq_false rfl⟩
  | recv =>
    rw [hp] at hs h
    cases hs
    rw [rtEventRecv]
    split <;> exact h
  | blocked =>
    rw [hp] at hs
    cases hs
  | received e =>
    rw [hp] at hs h
    cases hs
    obtain ⟨dial, os, hr, hl⟩ := h
    by_cases he : e.rx = true
    · rw [if_pos he]
      exact ⟨dial, os, s.receiver, [], hr, hl, rfl⟩
    · rw [if_neg he]
      exact ⟨dial, os, hr, hl⟩
  | timedOut =>
    rw [hp] at hs h
    cases hs
    obtain ⟨dial, os, hr, hl⟩ := h
    by_cases he : s.receiver.expire.Left
    · rw [if_pos he]
      trivial
    · rw [if_neg he]
      exact ⟨dial, os ++ [.timeout], recv_follows (o := .timeout) hr (if_neg hl), he⟩
  | read =>
    rw [hp] at hs h
    dsimp only at hs
    obtain ⟨dial, os, m, bytes, hr, hl, hm⟩ := h
    split at hs
    · cases hs
      refine ⟨dial, os ++ [.received bytes], recv_follows hr ?_, ?_⟩
      · rw [hm]
        exact if_neg hl
      · rw [hm]
        exact foldl_not_left hl bytes
    · rename_i x fifo _
      cases hs
      refine ⟨dial, os, m, bytes ++ [x], hr, hl, ?_⟩
      rw [hm, List.foldl_append]
      rfl

theorem Follows.step (h : Follows s.pc s.receiver) (hs : s.step e = some t) :
    Follows t.pc t.receiver := by
  cases e with
  | thread => exact h.thread hs
  | isr bytes =>
    obtain ⟨_, he⟩ := Option.ite_none_right_eq_some.1 hs
    cases he
    have hwake (u : Uart) (hu : Follows u.pc u.receiver) : Follows u.wake.pc u.wake.receiver := by
      rw [wake]
      split
      · rename_i hp
        rw [hp] at hu
        exact hu
      · exact hu
    rw [rtHwSerialIsr, uartIntput]
    split <;> exact hwake _ h
  | timer =>
    obtain ⟨hp, he⟩ := Option.ite_none_right_eq_some.1 hs
    cases he
    rw [hp] at h
    exact h

/-- What the thread has when a call returns is what `uart_get_cnt_data` leaves for the outcomes that
it has met, however the interrupts came. -/
theorem call_returns (h : run step (boot config) es = some s) (hp : s.pc = .timedOut)
    (hs : s.thread = some t) (ht : t.pc = .call) :
    ∃ dial os, uartGetCntData dial 20 os = some (t.receiver.result, t.receiver) := by
  have hboot : Follows (boot config).pc (boot config).receiver := trivial
  have hf : Follows s.pc s.receiver := run_invariant (P := fun s => Follows s.pc s.receiver)
    (fun _ _ _ hf hs => hf.step hs) hboot h
  rw [hp] at hf
  obtain ⟨dial, os, hr, hl⟩ := hf
  rw [thread, hp] at hs
  cases hs
  dsimp only at ht
  by_cases he : s.receiver.expire.Left
  · refine ⟨dial, os ++ [.timeout], ?_⟩
    rw [uartGetCntData, recv_follows (o := .timeout) hr (if_neg hl), Option.bind_some, if_pos he]
  · rw [if_neg he] at ht
    cases ht

end Uart

open Uart in
/-- No byte is ever stranded exactly in the runs whose receive interrupts leave out the time between
`rt_device_open` and `rt_event_init`. -/
theorem no_byte_stranded_iff (config : Config) (es : List UartEvent) :
    EveryState Uart.step (boot config) es Heard ↔
      EveryStep Uart.step (boot config) es Undisturbed := by
  constructor
  · rintro h as e bs s t rfl hr hs hpc bytes rfl
    obtain ⟨_, he⟩ := Option.ite_none_right_eq_some.1 hs
    have hrt : run Uart.step (boot config) (as ++ [.isr bytes]) = some t :=
      run_append_eq_some.2 ⟨s, hr, by rwa [run_singleton]⟩
    have hearly := (h (as ++ [.isr bytes]) bs t (by rw [List.append_assoc]; rfl) hrt).early
    cases he
    rw [isr_sentEarly, run_booting hr (.inr (.inr hpc)), Bool.not_false, Bool.or_true] at hearly
    cases hearly
  · rintro h as bs s rfl hr
    have hg := h.left
    exact (hg.invariant (fun s e t ha hs hu => ha.step hs hu) (attended_boot config) hr).heard

/-- A byte that comes between `rt_device_open` and `rt_event_init` is not read: the thread waits
beside it. -/
theorem early_byte_stranded :
    (run Uart.step (.boot .zero) [.thread, .thread, .isr [0xfe], .thread, .thread, .thread]).map
      (fun s => (s.sentEarly, s.pc, s.set.rx, s.fifo)) =
        some (true, .blocked, false, [0xfe]) := by
  decide +kernel

end CountdownOutside
