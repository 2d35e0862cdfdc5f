import CountdownOutside.Scheduler
import CountdownOutside.Timers

namespace CountdownOutside
set_option autoImplicit true

/-- `RT_THREAD_INIT`, `RT_THREAD_READY`, `RT_THREAD_SUSPEND` and `RT_THREAD_CLOSE`. -/
inductive Stat
  | init
  | ready
  | suspend
  | close
  deriving DecidableEq, Repr

structure Thread where
  currentPriority : Fin 32
  initTick : UInt32
  remainingTick : UInt32
  stat : Stat
  /-- `error` is `-RT_ETIMEOUT`. -/
  timedOut : Bool
  eventSet : UInt32
  eventInfo : UInt8
  deriving DecidableEq, Repr

structure EventObject (ι : Type u) where
  /-- `RT_IPC_FLAG_PRIO`. -/
  prio : Bool
  set : UInt32
  suspendThread : List ι

structure Reception (ι : Type u) (κ : Type v) where
  thread : ι
  event : κ
  bits : UInt32
  clear : Bool
  deriving DecidableEq, Repr

structure Kernel (ι : Type u) (κ : Type v) where
  thread : ι → Thread
  ready : Ready ι
  current : Option ι
  event : κ → EventObject ι
  timers : Timers ι
  received : List (Reception ι κ)

def rtEventFlagAnd : UInt8 := 0x01
def rtEventFlagOr : UInt8 := 0x02
def rtEventFlagClear : UInt8 := 0x04

/-- What a thread gets of an event's bits when its condition is satisfied. -/
def satisfied (option : UInt8) (wanted set : UInt32) : Option UInt32 :=
  if option &&& rtEventFlagAnd ≠ 0 then if wanted &&& set = wanted then some wanted else none
  else if option &&& rtEventFlagOr ≠ 0 then
    if wanted &&& set ≠ 0 then some (wanted &&& set) else none
  else none

def suspendAt (thread : ι → Thread) (prio : Bool) (k : ι) (l : List ι) : List ι :=
  if prio = true then
    l.orderedInsert (fun j k => (thread j).currentPriority < (thread k).currentPriority) k
  else l ++ [k]

namespace Kernel

variable {ι : Type u} {κ : Type v} [DecidableEq ι] [DecidableEq κ]

def setThread (s : Kernel ι κ) (k : ι) (t : Thread) : Kernel ι κ :=
  { s with thread := Function.update s.thread k t }

def setEvent (s : Kernel ι κ) (e : κ) (o : EventObject ι) : Kernel ι κ :=
  { s with event := Function.update s.event e o }

def rtSchedule (s : Kernel ι κ) : Option (Kernel ι κ) :=
  s.ready.highest.map fun k => { s with current := some k }

def rtScheduleInsertThread (s : Kernel ι κ) (k : ι) : Kernel ι κ :=
  { s.setThread k { s.thread k with stat := .ready } with
    ready := s.ready.insert (s.thread k).currentPriority k }

def rtScheduleRemoveThread (s : Kernel ι κ) (k : ι) : Kernel ι κ :=
  { s with ready := s.ready.remove (s.thread k).currentPriority k }

/-- `rt_list_remove` of a thread that waits for an event or for none. -/
def unlink (s : Kernel ι κ) (k : ι) : Kernel ι κ :=
  { s with
    event := fun e => { s.event e with suspendThread := (s.event e).suspendThread.erase k } }

def rtThreadSuspend (s : Kernel ι κ) (k : ι) : Kernel ι κ :=
  if (s.thread k).stat = .ready then
    let s := (s.setThread k { s.thread k with stat := .suspend }).rtScheduleRemoveThread k
    { s with timers := s.timers.rtTimerStop k }
  else s

def rtThreadResume (s : Kernel ι κ) (k : ι) : Kernel ι κ :=
  if (s.thread k).stat = .suspend then
    let s := s.unlink k
    { s with timers := s.timers.rtTimerStop k }.rtScheduleInsertThread k
  else s

/-- `rt_thread_timeout`; a failed assertion stops everything. -/
def rtThreadTimeout (s : Kernel ι κ) (k : ι) : Option (Kernel ι κ) :=
  if (s.thread k).stat = .suspend then
    let s := s.setThread k { s.thread k with timedOut := true }
    ((s.unlink k).rtScheduleInsertThread k).rtSchedule
  else none

def rtThreadStartup (s : Kernel ι κ) (k : ι) : Option (Kernel ι κ) :=
  if (s.thread k).stat = .init then
    let s := (s.setThread k { s.thread k with stat := .suspend }).rtThreadResume k
    if s.current = none then some s else s.rtSchedule
  else none

def rtThreadYield (s : Kernel ι κ) (k : ι) : Option (Kernel ι κ) :=
  let p := (s.thread k).currentPriority
  if (s.thread k).stat = .ready ∧ 1 < (s.ready.table p).length then
    { s with ready := s.ready.rotate p k }.rtSchedule
  else some s

/-- `rt_timer_control` with `RT_TIMER_CTRL_SET_TIME`, and `rt_timer_start`. -/
def startTimer (s : Kernel ι κ) (k : ι) (time : UInt32) : Option (Kernel ι κ) :=
  let timers := s.timers.set k ((s.timers.timer k).control (.setTime time))
  (timers.rtTimerStart k).map fun timers => { s with timers }

def rtThreadSleep (s : Kernel ι κ) (k : ι) (tick : UInt32) : Option (Kernel ι κ) :=
  (s.rtThreadSuspend k).startTimer k tick

/-- `rt_thread_exit`, without the memory of the thread. -/
def rtThreadExit (s : Kernel ι κ) (k : ι) : Option (Kernel ι κ) :=
  let s := s.rtScheduleRemoveThread k
  let s := s.setThread k { s.thread k with stat := .close }
  { s with timers := s.timers.remove k }.rtSchedule

def take (s : Kernel ι κ) (k : ι) (e : κ) (option : UInt8) (bits cleared : UInt32) : Kernel ι κ :=
  let clear := decide (option &&& rtEventFlagClear ≠ 0)
  let s : Kernel ι κ := { s with received := s.received ++ [⟨k, e, bits, clear⟩] }
  if clear then s.setEvent e { s.event e with set := (s.event e).set &&& ~~~ cleared } else s

/-- A round of the loop of `rt_event_send`, and whether a thread has been resumed so far. -/
def resumeIf (e : κ) (p : Kernel ι κ × Bool) (k : ι) : Kernel ι κ × Bool :=
  let s := p.1
  let t := s.thread k
  match satisfied t.eventInfo t.eventSet (s.event e).set with
  | some bits =>
    let s := s.setThread k { t with eventSet := bits }
    let s := s.take k e t.eventInfo bits bits
    (s.rtThreadResume k, true)
  | none => p

def rtEventSend (s : Kernel ι κ) (e : κ) (set : UInt32) : Option (Kernel ι κ) :=
  if set = 0 then some s
  else
    let s := s.setEvent e { s.event e with set := (s.event e).set ||| set }
    let p := (s.event e).suspendThread.foldl (resumeIf e) (s, false)
    if p.2 then p.1.rtSchedule else some p.1

def rtIpcListSuspend (s : Kernel ι κ) (k : ι) (e : κ) : Kernel ι κ :=
  let s := s.rtThreadSuspend k
  s.setEvent e { s.event e with
    suspendThread := suspendAt s.thread (s.event e).prio k (s.event e).suspendThread }

/-- `rt_event_recv` up to its call of `rt_schedule`, if the thread has to wait. -/
def rtEventRecv (s : Kernel ι κ) (k : ι) (e : κ) (set : UInt32) (option : UInt8) (timeout : Int32) :
    Option (Kernel ι κ) :=
  if set = 0 then some s
  else
    let s := s.setThread k { s.thread k with timedOut := false }
    if option &&& rtEventFlagAnd = 0 ∧ option &&& rtEventFlagOr = 0 then none
    else if satisfied option set (s.event e).set ≠ none then
      some (s.take k e option ((s.event e).set &&& set) set)
    else if timeout = 0 then some (s.setThread k { s.thread k with timedOut := true })
    else
      let s := s.setThread k { s.thread k with eventSet := set, eventInfo := option }
      let s := s.rtIpcListSuspend k e
      if 0 < timeout then s.startTimer k timeout.toUInt32 else some s

def timeSlice (s : Kernel ι κ) (k : ι) : Option (Kernel ι κ) :=
  let t := s.thread k
  let s := s.setThread k { t with remainingTick := t.remainingTick - 1 }
  if t.remainingTick - 1 = 0 then
    (s.setThread k { t with remainingTick := t.initTick }).rtThreadYield k
  else some s

def rtTickIncrease (more : Nat) (s : Kernel ι κ) (k : ι) : Option (Kernel ι κ) :=
  (s.timeSlice k).bind fun s =>
    (s.timers.rtTickIncrease more).bind fun timers =>
      (timers.calls.drop s.timers.calls.length).foldlM rtThreadTimeout { s with timers }

def boot (thread : ι → Thread) (prio : κ → Bool) : Kernel ι κ where
  thread k := { thread k with stat := .init }
  ready := .empty
  current := none
  event e := ⟨prio e, 0, []⟩
  timers := .boot fun _ => ⟨0, 0, false, false⟩
  received := []

end Kernel

inductive KernelEvent (ι : Type u) (κ : Type v)
  | startup (k : ι)
  /-- `rt_system_scheduler_start`. -/
  | start
  /-- The call of `rt_schedule` at the end of a function that may have suspended the thread. -/
  | schedule
  | yield
  | sleep (tick : UInt32)
  | exit
  | recv (e : κ) (set : UInt32) (option : UInt8) (timeout : Int32)
  /-- `rt_event_send`, by a thread or an interrupt. -/
  | send (e : κ) (set : UInt32)
  | tick
  deriving DecidableEq, Repr

namespace Kernel

variable {ι : Type u} {κ : Type v} [DecidableEq ι] [DecidableEq κ]

/-- The thread that is running, unless it has suspended itself. -/
def running (s : Kernel ι κ) : Option ι := s.current.filter fun k => (s.thread k).stat = .ready

def step (more : Nat) (s : Kernel ι κ) : KernelEvent ι κ → Option (Kernel ι κ)
  | .startup k => s.rtThreadStartup k
  | .start => if s.current = none then s.rtSchedule else none
  | .schedule => if s.current = none then none else s.rtSchedule
  | .yield => s.running.bind s.rtThreadYield
  | .sleep tick => s.running.bind fun k => s.rtThreadSleep k tick
  | .exit => s.running.bind s.rtThreadExit
  | .recv e set option timeout => s.running.bind fun k => s.rtEventRecv k e set option timeout
  | .send e set => s.rtEventSend e set
  | .tick => s.current.bind (s.rtTickIncrease more)

end Kernel

inductive UnitThread
  | tidle
  | main
  | tshell
  | rcvProcess
  | study
  | countdown
  deriving DecidableEq, Repr

def rtThreadInit (priority : Fin 32) (tick : UInt32) : Thread where
  currentPriority := priority
  initTick := tick
  remainingTick := tick
  stat := .init
  timedOut := false
  eventSet := 0
  eventInfo := 0

def unitThread : UnitThread → Thread
  | .tidle => rtThreadInit ⟨31, by decide⟩ 32
  | .main => rtThreadInit ⟨10, by decide⟩ 20
  | .tshell => rtThreadInit ⟨20, by decide⟩ 10
  | .rcvProcess => rtThreadInit ⟨20, by decide⟩ 5
  | .study => rtThreadInit ⟨19, by decide⟩ 5
  | .countdown => rtThreadInit ⟨20, by decide⟩ 5

def Kernel.unit : Kernel UnitThread Unit := .boot unitThread fun _ => false

/-- `rtthread_startup`, after which `main` starts the other threads and is done. -/
def unitStartup : List (KernelEvent UnitThread Unit) :=
  [.startup .main, .startup .tidle, .start, .startup .countdown, .startup .rcvProcess,
    .startup .study, .startup .tshell, .exit]

def unitWaits : List (KernelEvent UnitThread Unit) :=
  unitStartup ++ [.sleep 2, .schedule, .sleep 100, .schedule, .recv () 3 6 20, .schedule]

end CountdownOutside
