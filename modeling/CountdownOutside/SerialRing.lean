import CountdownOutside.Ring
import CountdownOutside.Simulation
import CountdownOutside.Uart

namespace CountdownOutside
set_option autoImplicit true

/-- `struct rt_serial_rx_fifo`, and the `config.bufsz` bytes behind it. -/
structure RxFifo where
  buffer : Buffer rtSerialRbBufsz
  putIndex : UInt16
  getIndex : UInt16
  isFull : Bool
  deriving DecidableEq, Repr

namespace RxFifo

def init : RxFifo := ⟨.zero _, 0, 0, false⟩

/-- `if (index >= bufsz) index = 0;` -/
def wrap (i : UInt16) : UInt16 := if i.toNat ≥ rtSerialRbBufsz then 0 else i

def put (f : RxFifo) (ch : UInt8) : Except Fault RxFifo := do
  let buffer ← f.buffer.write f.putIndex.toNat ch
  let f := { f with buffer, putIndex := wrap (f.putIndex + 1) }
  if f.putIndex = f.getIndex then pure { f with getIndex := wrap (f.getIndex + 1), isFull := true }
  else pure f

def serialIntRx (f : RxFifo) : Nat → Except Fault (List UInt8 × RxFifo)
  | 0 => pure ([], f)
  | length + 1 =>
    if f.getIndex = f.putIndex ∧ f.isFull = false then pure ([], f)
    else do
      let ch ← f.buffer.read f.getIndex.toNat
      let f := { f with getIndex := wrap (f.getIndex + 1) }
      let f := if f.isFull = true then { f with isFull := false } else f
      let p ← f.serialIntRx length
      pure (ch :: p.1, p.2)

def rxLength (f : RxFifo) : Nat :=
  if f.putIndex.toNat ≥ f.getIndex.toNat then f.putIndex.toNat - f.getIndex.toNat
  else rtSerialRbBufsz - (f.getIndex.toNat - f.putIndex.toNat)

structure Holds (f : RxFifo) (l : List UInt8) : Prop where
  getIndex : f.getIndex.toNat < rtSerialRbBufsz
  length : l.length < rtSerialRbBufsz
  putIndex : f.putIndex.toNat = (f.getIndex.toNat + l.length) % rtSerialRbBufsz
  bytes : Window f.buffer.get rtSerialRbBufsz f.getIndex.toNat l
  full : f.isFull = true → l.length + 1 = rtSerialRbBufsz

def unread (f : RxFifo) : List UInt8 :=
  (List.range f.rxLength).map fun i => f.buffer.get ((f.getIndex.toNat + i) % rtSerialRbBufsz)

variable {f f' : RxFifo} {l : List UInt8}

theorem holds_init : Holds init [] where
  getIndex := by decide
  length := by decide
  putIndex := rfl
  bytes := .nil
  full := by
    intro h
    cases h

theorem wrap_toNat {i : UInt16} (h : i.toNat < rtSerialRbBufsz) :
    (wrap (i + 1)).toNat = around rtSerialRbBufsz i.toNat := by
  have hsucc : (i + 1).toNat = i.toNat + 1 := by
    rw [UInt16.toNat_add]
    exact Nat.mod_eq_of_lt (Nat.lt_of_lt_of_le (Nat.succ_lt_succ h) (by decide))
  rw [wrap, around, hsucc]
  split
  · rfl
  · exact hsucc

theorem Holds.putIndex_lt (h : Holds f l) : f.putIndex.toNat < rtSerialRbBufsz := by
  rw [h.putIndex]
  exact Nat.mod_lt _ (by decide)

theorem Holds.rxLength_eq (h : Holds f l) : f.rxLength = l.length := by
  rw [rxLength, h.putIndex]
  exact length_of_places h.getIndex h.length

theorem Holds.unread_eq (h : Holds f l) : f.unread = l := by
  apply List.ext_getElem
  · rw [unread, List.length_map, List.length_range, h.rxLength_eq]
  · intro i hi hl
    simp only [unread, List.getElem_map, List.getElem_range]
    exact h.bytes i hl

theorem Holds.getIndex_eq_iff (h : Holds f l) : f.getIndex = f.putIndex ↔ l = [] := by
  rw [← UInt16.toNat_inj, eq_comm, h.putIndex, place_eq_start_iff h.getIndex h.length,
    List.length_eq_zero_iff]

/-- A byte that comes in joins the list, in the place of the oldest one if there is no room. -/
theorem Holds.put (h : Holds f l) (ch : UInt8) :
    ∃ f', f.put ch = .ok f' ∧ Holds f' (pushFifo l ch) := by
  obtain ⟨buffer, hwrite, hget⟩ := f.buffer.write_ok h.putIndex_lt ch
  have hbytes : Window buffer.get rtSerialRbBufsz f.getIndex.toNat (l ++ [ch]) := by
    rw [show buffer.get = Function.update f.buffer.get f.putIndex.toNat ch from funext fun j => by
      rw [hget, Function.update_apply], h.putIndex]
    exact h.bytes.push h.length ch
  have hput : (wrap (f.putIndex + 1)).toNat =
      (f.getIndex.toNat + (l.length + 1)) % rtSerialRbBufsz := by
    rw [wrap_toNat h.putIndex_lt, h.putIndex, around_add (by decide)]
  rw [RxFifo.put, hwrite, ok_bind]
  by_cases hroom : l.length + 1 < rtSerialRbBufsz
  · have hne : wrap (f.putIndex + 1) ≠ f.getIndex := by
      intro he
      rw [← UInt16.toNat_inj, hput, place_eq_start_iff h.getIndex hroom] at he
      exact absurd he (Nat.succ_ne_zero _)
    rw [if_neg hne, pushFifo, if_pos hroom]
    refine ⟨_, rfl, h.getIndex, ?_, ?_, hbytes, ?_⟩
    · rwa [List.length_append, List.length_singleton]
    · rw [List.length_append, List.length_singleton]
      exact hput
    · intro hf
      exact absurd (h.full hf) (Nat.ne_of_lt hroom)
  · have hfull : l.length + 1 = rtSerialRbBufsz := Nat.le_antisymm h.length (Nat.le_of_not_lt hroom)
    have he : wrap (f.putIndex + 1) = f.getIndex := by
      rw [← UInt16.toNat_inj, hput, hfull, Nat.add_mod_right, Nat.mod_eq_of_lt h.getIndex]
    have hlength : (l.tail ++ [ch]).length = l.length := by
      rw [List.length_append, List.length_singleton, List.length_tail]
      have hbufsz : rtSerialRbBufsz = 128 := rfl
      omega
    have htail : l.tail ++ [ch] = (l ++ [ch]).tail := by
      cases l with
      | nil => cases hfull
      | cons x l => rfl
    rw [if_pos he, pushFifo, if_neg hroom]
    refine ⟨_, rfl, ?_, ?_, ?_, ?_, ?_⟩
    · dsimp only
      rw [wrap_toNat h.getIndex]
      exact around_lt h.getIndex
    · rw [hlength]
      exact h.length
    · dsimp only
      rw [hlength, hput, wrap_toNat h.getIndex, around_eq h.getIndex, Nat.mod_add_mod,
        Nat.add_assoc, Nat.add_comm 1]
    · dsimp only
      rw [wrap_toNat h.getIndex, htail]
      exact hbytes.tail h.getIndex
    · intro _
      rw [hlength]
      exact hfull

theorem Holds.puts (h : Holds f l) (bytes : List UInt8) :
    ∃ f', bytes.foldlM RxFifo.put f = .ok f' ∧ Holds f' (bytes.foldl pushFifo l) := by
  induction bytes generalizing f l with
  | nil => exact ⟨f, rfl, h⟩
  | cons x bytes ih =>
    obtain ⟨m, hm, hh⟩ := h.put x
    obtain ⟨f', hf', hl⟩ := ih hh
    refine ⟨f', ?_, hl⟩
    rw [List.foldlM_cons, hm]
    exact hf'

theorem Holds.serialIntRx (h : Holds f l) (length : Nat) :
    ∃ f', f.serialIntRx length = .ok (l.take length, f') ∧ Holds f' (l.drop length) := by
  induction length generalizing f l with
  | zero => exact ⟨f, rfl, h⟩
  | succ length ih =>
    rw [RxFifo.serialIntRx]
    cases l with
    | nil =>
      have hfull : f.isFull = false := by
        cases hf : f.isFull with
        | false => rfl
        | true => cases h.full hf
      rw [if_pos ⟨h.getIndex_eq_iff.2 rfl, hfull⟩]
      exact ⟨f, rfl, h⟩
    | cons x l =>
      have hne : f.getIndex ≠ f.putIndex := by
        intro he
        cases h.getIndex_eq_iff.1 he
      have hread : f.buffer.read f.getIndex.toNat = .ok x := by
        rw [Buffer.read_of_lt _ h.getIndex, h.bytes.head h.getIndex]
      have hstep : Holds { f with getIndex := wrap (f.getIndex + 1), isFull := false } l := by
        refine ⟨?_, Nat.lt_of_succ_lt h.length, ?_, ?_, ?_⟩
        · dsimp only
          rw [wrap_toNat h.getIndex]
          exact around_lt h.getIndex
        · dsimp only
          rw [h.putIndex, wrap_toNat h.getIndex, around_eq h.getIndex, Nat.mod_add_mod,
            List.length_cons, Nat.add_assoc, Nat.add_comm 1]
        · dsimp only
          rw [wrap_toNat h.getIndex]
          exact h.bytes.tail h.getIndex
        · intro hf
          cases hf
      have hclear : (if f.isFull = true then
          { f with getIndex := wrap (f.getIndex + 1), isFull := false }
          else { f with getIndex := wrap (f.getIndex + 1) } : RxFifo) =
            { f with getIndex := wrap (f.getIndex + 1), isFull := false } := by
        split
        · rfl
        · rename_i hf
          rw [Bool.eq_false_of_not_eq_true hf]
      obtain ⟨f', hf', hl⟩ := ih hstep
      refine ⟨f', ?_, hl⟩
      rw [if_neg (fun hc => hne hc.1), hread, ok_bind]
      dsimp only
      rw [hclear, hf', ok_bind]
      rfl

end RxFifo

/-- The system of the receiver thread with the ring itself; the list of `uart` stays empty. -/
structure RingUart where
  uart : Uart
  rx : RxFifo
  deriving DecidableEq, Repr

namespace RingUart

def boot (config : Config) : RingUart := ⟨.boot config, .init⟩

def rtHwSerialIsr (s : RingUart) (bytes : List UInt8) : Except Fault RingUart := do
  let rx ← bytes.foldlM RxFifo.put s.rx
  pure { uart := s.uart.uartIntput rx.rxLength, rx }

def rtDeviceRead (s : RingUart) : Except Fault RingUart := do
  let p ← s.rx.serialIntRx 1
  match p.1 with
  | [] => pure { uart := { s.uart with pc := .recv }, rx := p.2 }
  | x :: _ => pure { uart := { s.uart with receiver := s.uart.receiver.byte x }, rx := p.2 }

def thread (s : RingUart) : Option RingUart :=
  match s.uart.pc with
  | .open => s.uart.thread.map fun uart => { uart, rx := .init }
  | .read => s.rtDeviceRead.toOption
  | _ => s.uart.thread.map fun uart => { s with uart }

def step (s : RingUart) : UartEvent → Option RingUart
  | .thread => s.thread
  | .isr bytes => if s.uart.isOpen then (s.rtHwSerialIsr bytes).toOption else none
  | .timer =>
    if s.uart.pc = .blocked then some { s with uart := { s.uart with pc := .timedOut } } else none

/-- The list of the abstract system is what the ring holds, and the rest is the same. -/
structure Tracks (s : RingUart) (t : Uart) : Prop where
  ring : s.rx.Holds t.fifo
  rest : t = { s.uart with fifo := t.fifo }

variable {s : RingUart} {t u : Uart} {l : List UInt8}

theorem uartIntput_fifo (u : Uart) (l : List UInt8) (size : Nat) :
    ({ u with fifo := l } : Uart).uartIntput size = { u.uartIntput size with fifo := l } := by
  simp only [Uart.uartIntput, Uart.rtEventSend, Uart.wake]
  split <;> split <;> rfl

theorem thread_fifo (l : List UInt8) (ho : u.pc ≠ .open) (hr : u.pc ≠ .read) :
    ({ u with fifo := l } : Uart).thread = u.thread.map fun v => { v with fifo := l } := by
  rw [Uart.thread, Uart.thread]
  cases hpc : u.pc with
  | «open» => exact absurd hpc ho
  | read => exact absurd hpc hr
  | recv =>
    simp only [Uart.rtEventRecv]
    split <;> rfl
  | _ => rfl

theorem Tracks.isr (h : Tracks s t) (bytes : List UInt8) :
    ∃ s', s.rtHwSerialIsr bytes = .ok s' ∧ Tracks s' (t.rtHwSerialIsr bytes) := by
  obtain ⟨rx, hrx, hl⟩ := h.ring.puts bytes
  have hlist : (t.rtHwSerialIsr bytes).fifo = bytes.foldl pushFifo t.fifo := by
    rw [Uart.rtHwSerialIsr, uartIntput_fifo]
  refine ⟨_, by rw [rtHwSerialIsr, hrx, ok_bind]; rfl, ?_, ?_⟩
  · rwa [hlist]
  · rw [hlist, Uart.rtHwSerialIsr, h.rest]
    dsimp only
    rw [uartIntput_fifo, uartIntput_fifo, hl.rxLength_eq]

theorem rel_map {x : Option α} {f : α → β} {g : α → γ} {R : β → γ → Prop}
    (h : ∀ a, x = some a → R (f a) (g a)) : Option.Rel R (x.map f) (x.map g) := by
  cases x with
  | none => exact .none
  | some a => exact .some (h a rfl)

theorem Tracks.list (h : Tracks s t) : ∃ l, s.rx.Holds l ∧ t = { s.uart with fifo := l } :=
  ⟨t.fifo, h.ring, h.rest⟩

theorem Tracks.thread (h : Tracks s t) : Option.Rel Tracks s.thread t.thread := by
  obtain ⟨l, hl, rfl⟩ := h.list
  rw [RingUart.thread]
  split
  · rename_i hpc
    rw [Uart.thread, Uart.thread, hpc]
    exact .some ⟨RxFifo.holds_init, rfl⟩
  · rename_i hpc
    obtain ⟨rx, hrx, hl'⟩ := hl.serialIntRx 1
    rw [rtDeviceRead, hrx, ok_bind, Uart.thread, hpc]
    cases l with
    | nil => exact .some ⟨hl', rfl⟩
    | cons x l => exact .some ⟨hl', by rw [← hpc]⟩
  · rename_i ho hr
    rw [thread_fifo l ho hr]
    exact rel_map fun a _ => ⟨hl, rfl⟩

/-- Any interrupts and reads do with the ring what they do with a list. -/
theorem ring_lockstep : Lockstep step Uart.step Tracks := by
  intro s t e h
  cases e with
  | thread => exact h.thread
  | isr bytes =>
    obtain ⟨s', hs, hst⟩ := h.isr bytes
    obtain ⟨l, hl, rfl⟩ := h.list
    rw [step, Uart.step, hs]
    split
    · exact .some hst
    · exact .none
  | timer =>
    obtain ⟨l, hl, rfl⟩ := h.list
    rw [step, Uart.step]
    split
    · exact .some ⟨hl, rfl⟩
    · exact .none

theorem tracks_boot (config : Config) : Tracks (boot config) (.boot config) :=
  ⟨RxFifo.holds_init, rfl⟩

end RingUart

structure Traffic where
  came : List UInt8
  taken : List UInt8
  deriving DecidableEq, Repr

def watchTraffic (taking : σ → List UInt8) (m : Traffic) (s : σ) (e : UartEvent) (_ : σ) :
    Traffic :=
  match e with
  | .thread => { m with taken := m.taken ++ taking s }
  | .isr bytes => { m with came := m.came ++ bytes }
  | .timer => m

namespace Uart

variable {s t : Uart} {e : UartEvent} {es : List UartEvent} {l : List UInt8} {m : Traffic}

def taking (s : Uart) : List UInt8 := if s.pc = .read then s.fifo.take 1 else []

def Roomy (s : Uart) (e : UartEvent) (_ : Uart) : Prop :=
  ∀ bytes, e = .isr bytes → s.fifo.length + bytes.length < rtSerialRbBufsz

theorem foldl_pushFifo (h : l.length < rtSerialRbBufsz) (bytes : List UInt8) :
    bytes.foldl pushFifo l =
      (l ++ bytes).drop (l.length + bytes.length + 1 - rtSerialRbBufsz) :=
  foldl_pushLast (by decide) h bytes

/-- What has been read and what is still there came in in this order, and before the device is open
nothing has come. -/
structure Accounts (s : Uart) (m : Traffic) : Prop where
  booting : s.pc = .indicate ∨ s.pc = .open → s.isOpen = false
  closed : s.isOpen = false → m.came = []
  length : s.fifo.length < rtSerialRbBufsz
  order : (m.taken ++ s.fifo).Sublist m.came

theorem wake_fifo (s : Uart) : s.wake.fifo = s.fifo ∧ s.wake.isOpen = s.isOpen ∧
    (s.wake.pc = .indicate ∨ s.wake.pc = .open → s.pc = .indicate ∨ s.pc = .open) := by
  rw [wake]
  split
  · refine ⟨rfl, rfl, ?_⟩
    rintro (h | h) <;> cases h
  · exact ⟨rfl, rfl, id⟩

theorem isr_fifo (s : Uart) (bytes : List UInt8) :
    (s.rtHwSerialIsr bytes).fifo = bytes.foldl pushFifo s.fifo ∧
      (s.rtHwSerialIsr bytes).isOpen = s.isOpen ∧
      ((s.rtHwSerialIsr bytes).pc = .indicate ∨ (s.rtHwSerialIsr bytes).pc = .open →
        s.pc = .indicate ∨ s.pc = .open) := by
  rw [rtHwSerialIsr, uartIntput]
  split
  · exact wake_fifo _
  · exact wake_fifo _

theorem taking_of_ne (h : s.pc ≠ .read) : s.taking = [] := if_neg h

theorem thread_cases (hs : s.thread = some t) :
    (s.taking = [] ∧ t.fifo = [] ∧ t.isOpen = true ∧ t.pc = .init ∧ s.pc = .open) ∨
    (s.taking ++ t.fifo = s.fifo ∧ t.isOpen = s.isOpen ∧
      (t.pc = .indicate ∨ t.pc = .open → s.pc = .indicate)) := by
  rw [Uart.thread] at hs
  cases hpc : s.pc with
  | «open» =>
    rw [hpc] at hs
    cases hs
    exact .inl ⟨taking_of_ne (by rw [hpc]; rintro ⟨⟩), rfl, rfl, rfl, rfl⟩
  | read =>
    rw [hpc] at hs
    rw [taking, if_pos hpc]
    cases hf : s.fifo with
    | nil =>
      rw [hf] at hs
      cases hs
      refine .inr ⟨rfl, rfl, ?_⟩
      rintro (h | h) <;> cases h
    | cons x l =>
      rw [hf] at hs
      cases hs
      refine .inr ⟨rfl, rfl, ?_⟩
      rintro (h | h) <;> cases h
  | blocked =>
    rw [hpc] at hs
    cases hs
  | recv =>
    rw [hpc] at hs
    cases hs
    rw [taking_of_ne (by rw [hpc]; rintro ⟨⟩), rtEventRecv]
    refine .inr ?_
    split
    · refine ⟨rfl, rfl, ?_⟩
      rintro (h | h) <;> cases h
    · refine ⟨rfl, rfl, ?_⟩
      rintro (h | h) <;> cases h
  | received b =>
    rw [hpc] at hs
    cases hs
    refine .inr ⟨by rw [taking_of_ne (by rw [hpc]; rintro ⟨⟩)]; rfl, rfl, ?_⟩
    cases b.rx <;> rintro (h | h) <;> cases h
  | timedOut =>
    rw [hpc] at hs
    cases hs
    refine .inr ⟨by rw [taking_of_ne (by rw [hpc]; rintro ⟨⟩)]; rfl, rfl, ?_⟩
    dsimp only
    split <;> rintro (h | h) <;> cases h
  | indicate =>
    rw [hpc] at hs
    cases hs
    exact .inr ⟨by rw [taking_of_ne (by rw [hpc]; rintro ⟨⟩)]; rfl, rfl, fun _ => rfl⟩
  | _ =>
    rw [hpc] at hs
    cases hs
    refine .inr ⟨by rw [taking_of_ne (by rw [hpc]; rintro ⟨⟩)]; rfl, rfl, ?_⟩
    rintro (h | h) <;> cases h

theorem foldl_pushFifo_length (h : s.fifo.length < rtSerialRbBufsz) (bytes : List UInt8) :
    (bytes.foldl pushFifo s.fifo).length < rtSerialRbBufsz := by
  rw [foldl_pushFifo h, List.length_drop, List.length_append]
  omega

theorem accounts_boot (config : Config) : Accounts (boot config) ⟨[], []⟩ where
  booting := fun _ => rfl
  closed := fun _ => rfl
  length := Nat.succ_pos _
  order := List.Sublist.refl _

theorem Accounts.step (h : Accounts s m) (hs : s.step e = some t) :
    Accounts t (watchTraffic taking m s e t) := by
  cases e with
  | timer =>
    rw [Uart.step] at hs
    split at hs
    · rename_i hpc
      cases hs
      refine ⟨?_, h.closed, h.length, h.order⟩
      rintro (hp | hp) <;> cases hp
    · cases hs
  | isr bytes =>
    rw [Uart.step] at hs
    split at hs
    · rename_i hopen
      cases hs
      obtain ⟨hfifo, hisOpen, hpc⟩ := isr_fifo s bytes
      refine ⟨?_, ?_, ?_, ?_⟩
      · intro hp
        rw [hisOpen]
        exact h.booting (hpc hp)
      · intro hc
        cases hopen.symm.trans (hisOpen.symm.trans hc)
      · rw [hfifo]
        exact foldl_pushFifo_length h.length bytes
      · rw [hfifo, foldl_pushFifo h.length]
        refine List.Sublist.trans ?_ (h.order.append (List.Sublist.refl bytes))
        rw [List.append_assoc]
        exact (List.Sublist.refl _).append (List.drop_sublist _ _)
    · cases hs
  | thread =>
    rcases thread_cases hs with ⟨htaking, hfifo, hisOpen, hpc, hopen⟩ | ⟨hfifo, hisOpen, hpc⟩
    · refine ⟨?_, ?_, ?_, ?_⟩
      · rw [hpc]
        rintro (hp | hp) <;> cases hp
      · intro hc
        cases hisOpen.symm.trans hc
      · rw [hfifo]
        decide
      · have hnone := h.order
        rw [h.closed (h.booting (.inr hopen)), List.sublist_nil, List.append_eq_nil_iff] at hnone
        dsimp only [watchTraffic]
        rw [hfifo, htaking, hnone.1]
        exact List.nil_sublist _
    · refine ⟨?_, ?_, ?_, ?_⟩
      · intro hp
        rw [hisOpen]
        exact h.booting (.inl (hpc hp))
      · rw [hisOpen]
        exact h.closed
      · have hl := congrArg List.length hfifo
        rw [List.length_append] at hl
        exact Nat.lt_of_le_of_lt (Nat.le.intro ((Nat.add_comm _ _).trans hl)) h.length
      · dsimp only [watchTraffic]
        rw [List.append_assoc, hfifo]
        exact h.order

theorem Accounts.whole_iff (h : Accounts s m) (hs : s.step e = some t) :
    (watchTraffic taking m s e t).taken ++ t.fifo = (watchTraffic taking m s e t).came ↔
      m.taken ++ s.fifo = m.came ∧ Roomy s e t := by
  have hroomy : (∀ bytes, e ≠ .isr bytes) → Roomy s e t := fun hne bytes he => absurd he (hne bytes)
  cases e with
  | timer =>
    rw [Uart.step] at hs
    split at hs
    · cases hs
      exact ⟨fun he => ⟨he, hroomy (by rintro bytes ⟨⟩)⟩, fun he => he.1⟩
    · cases hs
  | isr bytes =>
    rw [Uart.step] at hs
    split at hs
    · cases hs
      have hlength := h.order.length_le
      have hl := h.length
      dsimp only [watchTraffic]
      rw [(isr_fifo s bytes).1, foldl_pushFifo h.length]
      rw [List.length_append] at hlength
      constructor
      · intro he
        have hle := congrArg List.length he
        simp only [List.length_append, List.length_drop] at hle
        have hroom : s.fifo.length + bytes.length + 1 - rtSerialRbBufsz = 0 := by omega
        rw [hroom, List.drop_zero, ← List.append_assoc] at he
        refine ⟨List.append_cancel_right he, ?_⟩
        rintro bytes' heq
        cases heq
        omega
      · rintro ⟨he, hroom⟩
        rw [Nat.sub_eq_zero_of_le (hroom bytes rfl), List.drop_zero, ← List.append_assoc, he]
    · cases hs
  | thread =>
    rcases thread_cases hs with ⟨htaking, hfifo, hisOpen, hpc, hopen⟩ | ⟨hfifo, hisOpen, hpc⟩
    · have hnone := h.order
      rw [h.closed (h.booting (.inr hopen)), List.sublist_nil, List.append_eq_nil_iff] at hnone
      dsimp only [watchTraffic]
      rw [hfifo, htaking, hnone.1, hnone.2]
      exact ⟨fun he => ⟨he, hroomy (by rintro bytes ⟨⟩)⟩, fun he => he.1⟩
    · dsimp only [watchTraffic]
      rw [List.append_assoc, hfifo]
      exact ⟨fun he => ⟨he, hroomy (by rintro bytes ⟨⟩)⟩, fun he => he.1⟩

end Uart

namespace RingUart

variable {s : RingUart} {t : Uart}

def taking (s : RingUart) : List UInt8 :=
  if s.uart.pc = .read then (s.rx.serialIntRx 1).toOption.elim [] Prod.fst else []

def Roomy (s : RingUart) (e : UartEvent) (_ : RingUart) : Prop :=
  ∀ bytes, e = .isr bytes → s.rx.rxLength + bytes.length < rtSerialRbBufsz

theorem Tracks.taking_eq (h : Tracks s t) : s.taking = t.taking := by
  obtain ⟨l, hl, rfl⟩ := h.list
  obtain ⟨rx, hrx, _⟩ := hl.serialIntRx 1
  rw [taking, Uart.taking, hrx]
  rfl

theorem Tracks.roomy_iff {s' : RingUart} {t' : Uart} (h : Tracks s t) :
    Roomy s e s' ↔ Uart.Roomy t e t' := by
  rw [Roomy, Uart.Roomy, h.ring.rxLength_eq]

theorem traffic_lockstep : Lockstep (observe step (watchTraffic taking))
    (observe Uart.step (watchTraffic Uart.taking)) fun p q => Tracks p.1 q.1 ∧ p.2 = q.2 := by
  apply ring_lockstep.observe
  intro m s t e u v hr _
  cases e with
  | thread =>
    dsimp only [watchTraffic]
    rw [hr.taking_eq]
  | isr bytes => rfl
  | timer => rfl

/-- The ring and the list take the same steps through every order of interrupts, timeouts and reads:
the indices stay in the buffer, and what is unread is what the list has. -/
theorem ring_refines_fifo (config : Config) (es : List UartEvent) :
    Option.Rel Tracks (run step (boot config) es) (run Uart.step (.boot config) es) ∧
    ∀ s, run step (boot config) es = some s → (∃ s', s.rtDeviceRead = .ok s') ∧
      ∀ bytes, ∃ s', s.rtHwSerialIsr bytes = .ok s' := by
  refine ⟨ring_lockstep.run (tracks_boot config) es, ?_⟩
  intro s hs
  obtain ⟨t, _, hst⟩ := ring_lockstep.run_forth (tracks_boot config) hs
  refine ⟨?_, fun bytes => ?_⟩
  · obtain ⟨rx, hrx, _⟩ := hst.ring.serialIntRx 1
    rw [rtDeviceRead, hrx, ok_bind]
    cases t.fifo with
    | nil => exact ⟨_, rfl⟩
    | cons x l => exact ⟨_, rfl⟩
  · obtain ⟨s', hs', _⟩ := hst.isr bytes
    exact ⟨s', hs'⟩

/-- What the thread has read and what is unread came in in this order, and nothing of it is lost
exactly if every interrupt left a place of the ring free. -/
theorem ring_keeps_order_iff (h : run (observe step (watchTraffic taking)) (boot config, ⟨[], []⟩) es =
    some p) : (p.2.taken ++ p.1.rx.unread).Sublist p.2.came ∧
      (p.2.taken ++ p.1.rx.unread = p.2.came ↔ EveryStep step (boot config) es Roomy) := by
  obtain ⟨q, hq, htracks, hm⟩ := traffic_lockstep.run_forth
    (s := (boot config, ⟨[], []⟩)) (t := (.boot config, ⟨[], []⟩)) ⟨tracks_boot config, rfl⟩ h
  have hkeep : ∀ (p : Uart × Traffic) e q, Uart.Accounts p.1 p.2 →
      observe Uart.step (watchTraffic Uart.taking) p e = some q → Uart.Accounts q.1 q.2 := by
    intro p e q hp hs
    obtain ⟨hstep, hwatch⟩ := observe_eq_some.1 hs
    rw [hwatch]
    exact hp.step hstep
  have hlast := everyStep_iff_last (Q := fun p : Uart × Traffic => p.2.taken ++ p.1.fifo = p.2.came)
    (G := fun p e q => Uart.Roomy p.1 e q.1) hkeep (fun p e q hp hs => by
      obtain ⟨hstep, hwatch⟩ := observe_eq_some.1 hs
      rw [hwatch]
      exact hp.whole_iff hstep) (Uart.accounts_boot config) hq
  rw [htracks.ring.unread_eq, hm]
  refine ⟨(run_invariant hkeep (Uart.accounts_boot config) hq).order, ?_⟩
  rw [hlast, everyStep_observe]
  refine Iff.trans ⟨fun hall => hall.2, fun hall => ⟨rfl, hall⟩⟩ ?_
  exact (ring_lockstep.everyStep_iff (G := Roomy) (H := Uart.Roomy) (tracks_boot config)
    fun s t e u v hr _ => hr.roomy_iff).symm

def threeBytes : List UartEvent :=
  [.thread, .thread, .thread, .thread, .thread, .isr [1, 2], .thread, .thread, .isr [3]]

theorem ring_keeps_order_iff_three : EveryStep step (boot .zero) threeBytes Roomy := by
  have hrun : (run (observe step (watchTraffic taking)) (boot .zero, ⟨[], []⟩)
      threeBytes).isSome := by
    decide +kernel
  have hwhole : (Option.get _ hrun).2.taken ++ (Option.get _ hrun).1.rx.unread =
      (Option.get _ hrun).2.came := by
    decide +kernel +revert
  exact (ring_keeps_order_iff (Option.some_get hrun).symm).2.1 hwhole

end RingUart

end CountdownOutside
