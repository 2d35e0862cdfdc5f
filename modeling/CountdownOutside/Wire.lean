import CountdownOutside.SerialRing

namespace CountdownOutside
set_option autoImplicit true

/-- What the interrupts have brought, and the receptions that have been handed to `subpackage`. -/
structure Wire where
  came : List UInt8
  handed : List (List UInt8)
  deriving DecidableEq, Repr

namespace Receiver

variable {r : Receiver}

def reception (r : Receiver) : List UInt8 := r.config.rxBuffer.bytes.take r.config.rxCounter.toNat

def taken (r : Receiver) : List UInt8 := r.stores.map Prod.snd

def handed (r : Receiver) : List (List UInt8) := if r.result = 0 then [r.reception] else []

theorem Filled.expire (h : Filled r) : Filled r.expire :=
  ⟨h.counter, h.indices, h.flag, h.rxCounter, h.bytes⟩

theorem Filled.handed_eq (h : Filled r) :
    r.handed.flatten = r.taken.drop (r.taken.length - wrapped r.taken.length) := by
  have hlength : r.taken.length = r.stores.length := List.length_map _
  rw [handed, hlength]
  split
  · rename_i h0
    have hr := h.received h0
    rw [List.flatten_singleton, reception, hr.counter]
    exact (List.prefix_iff_eq_take.1 hr.bytes).symm
  · rename_i h0
    have hw : wrapped r.stores.length = 0 := by
      by_contra hw
      exact h0 ((result_eq_zero h).2 hw)
    rw [hw, Nat.sub_zero, ← hlength, List.drop_length, List.flatten_nil]

theorem Filled.handed_sublist (h : Filled r) : r.handed.flatten.Sublist r.taken := by
  rw [h.handed_eq]
  exact List.drop_sublist _ _

theorem Filled.handed_length_iff (h : Filled r) :
    r.taken.length ≤ r.handed.flatten.length ↔ r.stores.length ≤ 512 := by
  have hlength : r.taken.length = r.stores.length := List.length_map _
  rw [h.handed_eq, List.length_drop, hlength, wrapped]
  omega

end Receiver

def Uart.Returns (s t : Uart) : Prop := s.pc = .timedOut ∧ t.pc = .call

instance (s t : Uart) : Decidable (Uart.Returns s t) := inferInstanceAs (Decidable (_ ∧ _))

def watchWire (uart : σ → Uart) (m : Wire) (s : σ) (e : UartEvent) (t : σ) : Wire :=
  match e with
  | .thread =>
    if (uart s).Returns (uart t) then { m with handed := m.handed ++ (uart t).receiver.handed } else m
  | .isr bytes => { m with came := m.came ++ bytes }
  | .timer => m

namespace Uart

variable {s t : Uart} {e : UartEvent} {es : List UartEvent} {m : Wire}

def reading (s : Uart) : List UInt8 :=
  match s.pc with
  | .indicate | .open | .init | .call => []
  | _ => s.receiver.taken

/-- An interrupt leaves one place free, and a call returns with no more than the buffer holds. -/
def Lossless (s : Uart) (e : UartEvent) (t : Uart) : Prop :=
  Roomy s e t ∧ (e = .thread → Returns s t → t.receiver.stores.length ≤ 512)

theorem not_returns (h : s.pc ≠ .timedOut) : ¬ Returns s t := fun hr => h hr.1

theorem thread_reading (hs : s.thread = some t) :
    (¬ Returns s t ∧ t.reading = s.reading ++ s.taking) ∨
    (Returns s t ∧ t.receiver = s.receiver.expire ∧ s.taking = [] ∧ s.reading = s.receiver.taken ∧
      t.reading = [] ∧ t.fifo = s.fifo) := by
  rw [Uart.thread] at hs
  cases hpc : s.pc with
  | read =>
    have hret : ¬ Returns s t := not_returns (by rw [hpc]; rintro ⟨⟩)
    rw [hpc] at hs
    simp only [taking, reading, hpc, if_true]
    cases hf : s.fifo with
    | nil =>
      rw [hf] at hs
      cases hs
      exact .inl ⟨hret, (List.append_nil _).symm⟩
    | cons x l =>
      rw [hf] at hs
      cases hs
      refine .inl ⟨hret, ?_⟩
      simp only [Receiver.taken, Receiver.byte_stores, List.map_append]
      rfl
  | timedOut =>
    rw [hpc] at hs
    cases hs
    by_cases hl : s.receiver.expire.Left
    · refine .inr ⟨⟨hpc, if_pos hl⟩, rfl, taking_of_ne (by rw [hpc]; rintro ⟨⟩), ?_, ?_, rfl⟩
      · rw [reading, hpc]
      · simp only [reading, if_pos hl]
    · refine .inl ⟨?_, ?_⟩
      · rintro ⟨_, hp⟩
        cases (if_neg hl).symm.trans hp
      · rw [taking_of_ne (by rw [hpc]; rintro ⟨⟩), List.append_nil]
        simp only [reading, hpc, if_neg hl]
        rfl
  | blocked =>
    rw [hpc] at hs
    cases hs
  | recv =>
    have hret : ¬ Returns s t := not_returns (by rw [hpc]; rintro ⟨⟩)
    rw [hpc] at hs
    cases hs
    refine .inl ⟨hret, ?_⟩
    rw [taking_of_ne (by rw [hpc]; rintro ⟨⟩), List.append_nil, rtEventRecv]
    by_cases he : s.set.rx ∨ s.set.rxIdle
    · rw [if_pos he]
      simp only [reading, hpc]
    · rw [if_neg he]
      simp only [reading, hpc]
  | received b =>
    have hret : ¬ Returns s t := not_returns (by rw [hpc]; rintro ⟨⟩)
    rw [hpc] at hs
    cases hs
    refine .inl ⟨hret, ?_⟩
    rw [taking_of_ne (by rw [hpc]; rintro ⟨⟩), List.append_nil]
    simp only [reading, hpc]
    cases b.rx <;> rfl
  | _ =>
    have hret : ¬ Returns s t := not_returns (by rw [hpc]; rintro ⟨⟩)
    rw [hpc] at hs
    cases hs
    refine .inl ⟨hret, ?_⟩
    rw [taking_of_ne (by rw [hpc]; rintro ⟨⟩)]
    simp only [reading, hpc]
    rfl

theorem thread_filled (h : s.receiver.Filled) (hs : s.thread = some t) : t.receiver.Filled := by
  rw [Uart.thread] at hs
  cases hpc : s.pc with
  | read =>
    rw [hpc] at hs
    cases hf : s.fifo with
    | nil =>
      rw [hf] at hs
      cases hs
      exact h
    | cons x l =>
      rw [hf] at hs
      cases hs
      exact h.byte x
  | timedOut =>
    rw [hpc] at hs
    cases hs
    exact h.expire
  | call =>
    rw [hpc] at hs
    cases hs
    exact Receiver.filled_start _ _
  | blocked =>
    rw [hpc] at hs
    cases hs
  | recv =>
    rw [hpc] at hs
    cases hs
    rw [rtEventRecv]
    split <;> exact h
  | _ =>
    rw [hpc] at hs
    cases hs
    exact h

theorem isr_receiver (s : Uart) (bytes : List UInt8) :
    (s.rtHwSerialIsr bytes).receiver = s.receiver ∧
      (s.rtHwSerialIsr bytes).reading = s.reading := by
  have hwake (u : Uart) : u.wake.receiver = u.receiver ∧ u.wake.reading = u.reading := by
    rw [wake]
    split
    · rename_i hpc
      refine ⟨rfl, ?_⟩
      rw [reading, reading, hpc]
    · exact ⟨rfl, rfl⟩
  rw [rtHwSerialIsr]
  dsimp only
  rw [uartIntput]
  split <;> exact hwake _

/-- The receptions that have been handed on, the bytes of the call that is under way and what is
unread came in in this order. -/
structure Delivers (s : Uart) (m : Wire) : Prop where
  accounts : Accounts s ⟨m.came, m.handed.flatten ++ s.reading⟩
  filled : s.receiver.Filled

theorem Accounts.less {came taken taken' : List UInt8} (h : Accounts s ⟨came, taken⟩)
    (ht : taken'.Sublist taken) : Accounts s ⟨came, taken'⟩ where
  booting := h.booting
  closed := h.closed
  length := h.length
  order := (ht.append_right s.fifo).trans h.order

theorem watchWire_return (h : Returns s t) : watchWire id m s .thread t =
    ⟨m.came, m.handed ++ t.receiver.handed⟩ := if_pos h

theorem watchWire_thread (h : ¬ Returns s t) : watchWire id m s .thread t = m := if_neg h

theorem Delivers.step (h : Delivers s m) (hs : s.step e = some t) :
    Delivers t (watchWire id m s e t) := by
  have haccounts := h.accounts.step hs
  cases e with
  | timer =>
    rw [Uart.step] at hs
    split at hs
    · rename_i hpc
      cases hs
      refine ⟨?_, h.filled⟩
      have hreading : s.reading = s.receiver.taken := by rw [reading, hpc]
      rw [hreading] at haccounts
      exact haccounts
    · cases hs
  | isr bytes =>
    rw [Uart.step] at hs
    split at hs
    · cases hs
      obtain ⟨hreceiver, hreading⟩ := isr_receiver s bytes
      refine ⟨?_, ?_⟩
      · rw [hreading]
        exact haccounts
      · rw [hreceiver]
        exact h.filled
    · cases hs
  | thread =>
    dsimp only [watchTraffic] at haccounts
    rcases thread_reading hs with ⟨hret, hreading⟩ | ⟨hret, hreceiver, htaking, hreading, hnone, _⟩
    · rw [watchWire_thread hret]
      refine ⟨?_, ?_⟩
      · rw [hreading, ← List.append_assoc]
        exact haccounts
      · exact thread_filled h.filled hs
    · rw [watchWire_return hret]
      have hfilled : t.receiver.Filled := by
        rw [hreceiver]
        exact h.filled.expire
      refine ⟨?_, hfilled⟩
      dsimp only
      rw [hnone, List.append_nil, List.flatten_append]
      rw [htaking, List.append_nil, hreading] at haccounts
      refine haccounts.less ((List.Sublist.refl _).append ?_)
      have hsub := hfilled.handed_sublist
      rwa [hreceiver] at hsub ⊢

theorem Delivers.whole_iff (h : Delivers s m) (hs : s.step e = some t) :
    (watchWire id m s e t).handed.flatten ++ t.reading ++ t.fifo = (watchWire id m s e t).came ↔
      m.handed.flatten ++ s.reading ++ s.fifo = m.came ∧ Lossless s e t := by
  have hwhole := h.accounts.whole_iff hs
  have hother (he : e ≠ .thread) : Roomy s e t ↔ Lossless s e t :=
    ⟨fun hg => ⟨hg, fun ht => absurd ht he⟩, fun hg => hg.1⟩
  cases e with
  | timer =>
    rw [Uart.step] at hs
    split at hs
    · rename_i hpc
      cases hs
      have hreading : s.reading = s.receiver.taken := by rw [reading, hpc]
      rw [hreading] at hwhole ⊢
      exact hwhole.trans (and_congr_right fun _ => hother (by rintro ⟨⟩))
    · cases hs
  | isr bytes =>
    rw [Uart.step] at hs
    split at hs
    · cases hs
      rw [(isr_receiver s bytes).2]
      exact hwhole.trans (and_congr_right fun _ => hother (by rintro ⟨⟩))
    · cases hs
  | thread =>
    have hroomy : Roomy s .thread t := by rintro bytes ⟨⟩
    rcases thread_reading hs with ⟨hret, hreading⟩ | ⟨hret, hreceiver, htaking, hreading, hnone, hf⟩
    · rw [watchWire_thread hret, hreading, ← List.append_assoc]
      refine hwhole.trans (and_congr_right fun _ => ?_)
      exact ⟨fun hg => ⟨hg, fun _ hr => absurd hr hret⟩, fun hg => hg.1⟩
    · have hfilled : t.receiver.Filled := thread_filled h.filled hs
      have htaken : s.receiver.taken = t.receiver.taken := by
        rw [hreceiver]
        rfl
      have hsub := hfilled.handed_sublist
      have hlength := h.accounts.order.length_le
      have hfits := hfilled.handed_length_iff
      rw [watchWire_return hret, hnone, hf, hreading, htaken, List.append_nil, List.flatten_append]
      dsimp only
      rw [hreading, htaken] at hlength
      simp only [List.length_append] at hlength
      constructor
      · intro he
        have hle := congrArg List.length he
        simp only [List.length_append] at hle
        have hsame : t.receiver.handed.flatten = t.receiver.taken :=
          hsub.eq_of_length_le (by omega)
        rw [hsame] at he
        exact ⟨he, hroomy, fun _ _ => hfits.1 (by rw [hsame])⟩
      · rintro ⟨he, _, hg⟩
        rw [hsub.eq_of_length_le (hfits.2 (hg rfl hret))]
        exact he

end Uart

namespace RingUart

variable {s : RingUart} {t : Uart} {es : List UartEvent}

def reading (s : RingUart) : List UInt8 := s.uart.reading

def Lossless (s : RingUart) (e : UartEvent) (t : RingUart) : Prop :=
  Roomy s e t ∧ (e = .thread → s.uart.Returns t.uart → t.uart.receiver.stores.length ≤ 512)

theorem Tracks.pc_eq (h : Tracks s t) : t.pc = s.uart.pc := by rw [h.rest]

theorem Tracks.receiver_eq (h : Tracks s t) : t.receiver = s.uart.receiver := by rw [h.rest]

theorem Tracks.returns_iff {s' : RingUart} {t' : Uart} (h : Tracks s t) (h' : Tracks s' t') :
    t.Returns t' ↔ s.uart.Returns s'.uart := by
  rw [Uart.Returns, Uart.Returns, h.pc_eq, h'.pc_eq]

theorem wire_lockstep : Lockstep (observe step (watchWire RingUart.uart))
    (observe Uart.step (watchWire id)) fun p q => Tracks p.1 q.1 ∧ p.2 = q.2 := by
  apply ring_lockstep.observe
  intro m s t e u v hr hr'
  cases e with
  | thread =>
    dsimp only [watchWire, id]
    rw [hr'.receiver_eq]
    exact if_congr (hr.returns_iff hr').symm rfl rfl
  | isr bytes => rfl
  | timer => rfl

def oneRecord : List UartEvent :=
  List.replicate 5 .thread ++ [.isr [0xfe, 0x05]] ++ List.replicate 4 .thread ++
    [.isr [0x00, 0x12, 0x17]] ++ List.replicate 7 .thread ++ [.timer, .thread, .thread, .timer, .thread]

end RingUart

end CountdownOutside
