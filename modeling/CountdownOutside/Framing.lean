import CountdownOutside.Broadcast

namespace CountdownOutside
set_option autoImplicit true

/-- The receiver thread in `rt_event_recv`, with the ticks that are left of its timer, and what it
has handed to `subpackage`. It has run to its next wait before anything else happens. -/
structure Listener where
  receiver : Receiver
  left : Nat
  handed : List (List UInt8)
  deriving DecidableEq, Repr

inductive LineEvent
  | byte (x : UInt8)
  | tick
  deriving DecidableEq, Repr

namespace Listener

def wait (s : Listener) : Listener := { s with left := s.receiver.nextTimeout.toNat }

def call (config : Config) (handed : List (List UInt8)) : Listener :=
  wait ⟨.start config 20, 0, handed⟩

def timedOut (s : Listener) : Listener :=
  let receiver := s.receiver.expire
  if receiver.Left then call receiver.config (s.handed ++ receiver.handed)
  else wait { s with receiver }

def step (s : Listener) : LineEvent → Listener
  | .byte x => wait { s with receiver := s.receiver.byte x }
  | .tick => if s.left ≤ 1 then s.timedOut else { s with left := s.left - 1 }

def after (s : Listener) (es : List LineEvent) : Listener := es.foldl step s

end Listener

/-- How a reception is delimited: its bytes so far, whether the short time-out is in force, whether
a time-out has passed since the last byte, and the ticks that are left. -/
structure Framer where
  bytes : List UInt8
  short : Bool
  late : Bool
  left : Nat
  handed : List (List UInt8)
  deriving DecidableEq, Repr

namespace Framer

def limit (short : Bool) : Nat := if short then 2 else 20

def call (handed : List (List UInt8)) : Framer := ⟨[], false, false, 20, handed⟩

def timedOut (s : Framer) : Framer :=
  if s.late then call (s.handed ++ if s.bytes = [] then [] else [s.bytes])
  else { s with short := true, late := true, left := 2 }

def step (s : Framer) : LineEvent → Framer
  | .byte x => { s with bytes := s.bytes ++ [x], late := false, left := limit s.short }
  | .tick => if s.left ≤ 1 then s.timedOut else { s with left := s.left - 1 }

def after (a : Framer) (es : List LineEvent) : Framer := es.foldl step a

end Framer

structure Delimits (s : Listener) (a : Framer) : Prop where
  filled : s.receiver.Filled
  bytes : s.receiver.taken = a.bytes
  late : s.receiver.timeoutCnt = if a.late then 1 else 0
  short : s.receiver.nextTimeout = Framer.limit a.short
  left : s.left = a.left
  handed : s.handed = a.handed

theorem delimits_call (config : Config) (handed : List (List UInt8)) :
    Delimits (.call config handed) (.call handed) where
  filled := Receiver.filled_start config 20
  bytes := rfl
  late := rfl
  short := rfl
  left := rfl
  handed := rfl

theorem byte_timing (r : Receiver) (x : UInt8) :
    (r.byte x).timeoutCnt = 0 ∧ (r.byte x).nextTimeout = r.nextTimeout := by
  rw [Receiver.byte]
  dsimp only
  split <;> exact ⟨rfl, rfl⟩

variable {s t : Listener} {a b : Framer}

theorem Delimits.byte (h : Delimits s a) (x : UInt8) :
    Delimits (s.step (.byte x)) (a.step (.byte x)) where
  filled := h.filled.byte x
  bytes := by
    change (s.receiver.byte x).stores.map Prod.snd = a.bytes ++ [x]
    rw [Receiver.byte_stores, List.map_append]
    exact congrArg (· ++ [x]) h.bytes
  late := (byte_timing s.receiver x).1
  short := (byte_timing s.receiver x).2.trans h.short
  left := by
    change (s.receiver.byte x).nextTimeout.toNat = Framer.limit a.short
    rw [(byte_timing s.receiver x).2, h.short]
    rfl
  handed := h.handed

theorem Delimits.receiver_handed (h : Delimits s a) (hl : a.bytes.length ≤ 512) :
    s.receiver.expire.handed = if a.bytes = [] then [] else [a.bytes] := by
  have hfilled := h.filled.expire
  have htaken : s.receiver.expire.taken = a.bytes := h.bytes
  have hlength : s.receiver.expire.stores.length = a.bytes.length := by
    rw [← htaken, Receiver.taken, List.length_map]
  have hsub := hfilled.handed_sublist
  have hwhole := hsub.eq_of_length_le (hfilled.handed_length_iff.2 (hlength.trans_le hl))
  rw [htaken] at hwhole
  rw [Receiver.handed] at hwhole ⊢
  split at hwhole
  · rename_i h0
    rw [List.flatten_singleton] at hwhole
    have hne : a.bytes ≠ [] := by
      intro hnil
      have hw := (Receiver.result_eq_zero hfilled).1 h0
      rw [hlength, hnil] at hw
      exact hw rfl
    rw [if_pos h0, if_neg hne, hwhole]
  · rename_i h0
    rw [List.flatten_nil] at hwhole
    rw [if_neg h0, if_pos hwhole.symm]

theorem Delimits.timedOut (h : Delimits s a) (hl : a.bytes.length ≤ 512) :
    Delimits s.timedOut a.timedOut := by
  rw [Listener.timedOut, Framer.timedOut]
  cases hlate : a.late with
  | true =>
    have hleft : s.receiver.expire.Left := by
      change 2 ≤ s.receiver.timeoutCnt + 1
      rw [h.late, hlate]
      decide
    rw [if_pos hleft, if_pos rfl, h.receiver_handed hl, h.handed]
    exact delimits_call _ _
  | false =>
    have hleft : ¬ s.receiver.expire.Left := by
      change ¬ 2 ≤ s.receiver.timeoutCnt + 1
      rw [h.late, hlate]
      decide
    rw [if_neg hleft, if_neg Bool.false_ne_true]
    refine ⟨h.filled.expire, h.bytes, ?_, rfl, rfl, h.handed⟩
    rw [Receiver.expire, h.late, hlate]
    rfl

theorem Delimits.tick (h : Delimits s a) (hl : a.bytes.length ≤ 512) :
    Delimits (s.step .tick) (a.step .tick) := by
  rw [Listener.step, Framer.step, h.left]
  split
  · exact h.timedOut hl
  · exact ⟨h.filled, h.bytes, h.late, h.short, rfl, h.handed⟩

def LineEvent.byte? : LineEvent → Option UInt8
  | .byte x => some x
  | .tick => none

theorem Framer.step_length (a : Framer) (e : LineEvent) :
    (a.step e).bytes.length ≤ a.bytes.length + e.byte?.toList.length := by
  cases e with
  | byte x => exact (List.length_append ..).le
  | tick =>
    rw [step]
    split
    · rw [Framer.timedOut]
      split
      · exact Nat.zero_le _
      · exact Nat.le_add_right _ _
    · exact Nat.le_add_right _ _

theorem Delimits.after {es : List LineEvent} (h : Delimits s a)
    (hl : a.bytes.length + (es.filterMap LineEvent.byte?).length ≤ 512) :
    Delimits (s.after es) (a.after es) := by
  induction es generalizing s a with
  | nil => exact h
  | cons e es ih =>
    have hlength := a.step_length e
    have hcount : ((e :: es).filterMap LineEvent.byte?).length =
        e.byte?.toList.length + (es.filterMap LineEvent.byte?).length := by
      rw [List.filterMap_cons]
      cases e.byte? with
      | none => exact (Nat.zero_add _).symm
      | some x => exact Nat.add_comm _ 1
    rw [hcount] at hl
    refine ih ?_ (by omega)
    cases e with
    | byte x => exact h.byte x
    | tick => exact h.tick (by omega)

/-- A reception on the line: its bytes, with the ticks in front of each but the first, and the ticks
of silence behind it. -/
structure Packet where
  first : UInt8
  rest : List (Nat × UInt8)
  silence : Nat
  deriving DecidableEq, Repr

def silent (d : Nat) : List LineEvent := List.replicate d .tick

def spaced : List (Nat × UInt8) → List LineEvent
  | [] => []
  | (d, x) :: l => silent d ++ .byte x :: spaced l

namespace Packet

def bytes (p : Packet) : List UInt8 := p.first :: p.rest.map Prod.snd

def line (p : Packet) : List LineEvent := .byte p.first :: (spaced p.rest ++ silent p.silence)

structure Within (gap silence : Nat) (p : Packet) : Prop where
  fits : p.bytes.length ≤ 512
  gaps : ∀ q ∈ p.rest, q.1 ≤ gap
  silence : silence ≤ p.silence

end Packet

def transmission (lead : Nat) (ps : List Packet) : List LineEvent :=
  silent lead ++ ps.flatMap Packet.line

theorem bytes_silent (d : Nat) : (silent d).filterMap LineEvent.byte? = [] := by
  rw [silent, List.filterMap_replicate_of_none rfl]

theorem bytes_spaced (l : List (Nat × UInt8)) :
    (spaced l).filterMap LineEvent.byte? = l.map Prod.snd := by
  induction l with
  | nil => rfl
  | cons q l ih =>
    rw [spaced, List.filterMap_append, bytes_silent, List.nil_append,
      List.filterMap_cons_some (f := LineEvent.byte?) rfl, ih]
    rfl

theorem Packet.bytes_line (p : Packet) : p.line.filterMap LineEvent.byte? = p.bytes := by
  rw [line, List.filterMap_cons_some (f := LineEvent.byte?) rfl, List.filterMap_append,
    bytes_spaced, bytes_silent, List.append_nil]
  rfl

namespace Framer

variable {bytes : List UInt8} {handed : List (List UInt8)} {short : Bool} {d n : Nat}

def reading (bytes : List UInt8) (short : Bool) (handed : List (List UInt8)) : Framer :=
  ⟨bytes, short, false, limit short, handed⟩

structure Idle (handed : List (List UInt8)) (a : Framer) : Prop where
  bytes : a.bytes = []
  late : a.late = a.short
  handed : a.handed = handed

theorem idle_call (handed : List (List UInt8)) : Idle handed (call handed) := ⟨rfl, rfl, rfl⟩

theorem after_append (a : Framer) (es fs : List LineEvent) :
    a.after (es ++ fs) = (a.after es).after fs := List.foldl_append

theorem Idle.tick (h : Idle handed a) : Idle handed (a.step .tick) := by
  rw [step]
  split
  · rw [Framer.timedOut]
    split
    · rw [h.bytes, if_pos rfl, List.append_nil, h.handed]
      exact idle_call handed
    · exact ⟨h.bytes, rfl, h.handed⟩
  · exact ⟨h.bytes, h.late, h.handed⟩

theorem Idle.ticks (h : Idle handed a) (n : Nat) : Idle handed (a.after (silent n)) := by
  induction n generalizing a with
  | zero => exact h
  | succ n ih => exact ih h.tick

theorem Idle.byte (h : Idle handed a) (x : UInt8) :
    a.step (.byte x) = reading [x] a.short handed := by
  rw [step, h.bytes, h.handed]
  rfl

theorem reading_gap (bytes : List UInt8) (short : Bool) (handed : List (List UInt8)) (hd : d ≤ 3)
    (x : UInt8) : ∃ short', (reading bytes short handed).after (silent d ++ [.byte x]) =
      reading (bytes ++ [x]) short' handed := by
  cases short with
  | true =>
    interval_cases d <;> exact ⟨true, rfl⟩
  | false =>
    interval_cases d <;> exact ⟨false, rfl⟩

theorem reading_spaced (bytes : List UInt8) (short : Bool) (handed : List (List UInt8))
    {l : List (Nat × UInt8)} (hl : ∀ q ∈ l, q.1 ≤ 3) :
    ∃ short', (reading bytes short handed).after (spaced l) =
      reading (bytes ++ l.map Prod.snd) short' handed := by
  induction l generalizing bytes short with
  | nil => exact ⟨short, by rw [List.map_nil, List.append_nil]; rfl⟩
  | cons q l ih =>
    obtain ⟨short₁, h₁⟩ := reading_gap bytes short handed (hl q List.mem_cons_self) q.2
    obtain ⟨short₂, h₂⟩ := ih (bytes ++ [q.2]) short₁ fun q hq => hl q (List.mem_cons_of_mem _ hq)
    refine ⟨short₂, ?_⟩
    rw [spaced, ← List.singleton_append, ← List.append_assoc, after_append, h₁, h₂,
      List.append_assoc]
    rfl

theorem silent_add (m n : Nat) : silent (m + n) = silent m ++ silent n :=
  List.replicate_append_replicate.symm

theorem after_silent (a : Framer) (h : d < a.left) :
    a.after (silent d) = { a with left := a.left - d } := by
  induction d with
  | zero => rfl
  | succ d ih =>
    rw [silent_add, after_append, ih (by omega)]
    exact if_neg (by dsimp only; omega)

theorem times_out (a : Framer) (h : 1 ≤ a.left) : a.after (silent a.left) = a.timedOut := by
  obtain ⟨d, hd⟩ := Nat.exists_eq_add_of_le' h
  rw [hd, silent_add, after_append, after_silent a (by omega)]
  exact if_pos (by dsimp only; omega)

theorem reading_times_out (bytes : List UInt8) (short : Bool) (handed : List (List UInt8)) :
    (reading bytes short handed).after (silent (limit short + 2)) =
      call (handed ++ if bytes = [] then [] else [bytes]) := by
  have hfirst : (reading bytes short handed).after (silent (limit short)) =
      ⟨bytes, true, true, 2, handed⟩ :=
    times_out (reading bytes short handed) (show 1 ≤ limit short by cases short <;> decide)
  rw [silent_add, after_append, hfirst]
  exact times_out ⟨bytes, true, true, 2, handed⟩ (Nat.le_succ 1)

theorem reading_silence (hb : bytes ≠ []) (hn : 22 ≤ n) :
    Idle (handed ++ [bytes]) ((reading bytes short handed).after (silent n)) := by
  have hlimit : limit short ≤ 20 := by cases short <;> decide
  obtain ⟨d, rfl⟩ := Nat.exists_eq_add_of_le (show limit short + 2 ≤ n by omega)
  rw [silent_add, after_append, reading_times_out, if_neg hb]
  exact (idle_call _).ticks d

theorem Idle.line {p : Packet} (h : Idle handed a) (hp : p.Within 3 22) :
    Idle (handed ++ [p.bytes]) (a.after p.line) := by
  obtain ⟨short, hspaced⟩ := reading_spaced [p.first] a.short handed hp.gaps
  change Idle _ ((a.step (.byte p.first)).after (spaced p.rest ++ silent p.silence))
  rw [h.byte, after_append, hspaced]
  exact reading_silence (List.cons_ne_nil _ _) hp.silence

end Framer

/-- Receptions whose bytes come close enough, with enough silence between them, are handed on one by
one. -/
theorem Delimits.lines {ps : List Packet} {l : List (List UInt8)} (h : Delimits s a) (hi : a.Idle l)
    (hp : ∀ p ∈ ps, p.Within 3 22) :
    (s.after (ps.flatMap Packet.line)).handed = l ++ ps.map Packet.bytes := by
  induction ps generalizing s a l with
  | nil =>
    rw [List.map_nil, List.append_nil]
    exact h.handed.trans hi.handed
  | cons p ps ih =>
    have hw := hp p List.mem_cons_self
    have hline : Delimits (s.after p.line) (a.after p.line) :=
      h.after (by rw [hi.bytes, p.bytes_line, List.length_nil, Nat.zero_add]; exact hw.fits)
    have hrest := ih hline (hi.line hw) fun q hq => hp q (List.mem_cons_of_mem p hq)
    rw [List.flatMap_cons, Listener.after, List.foldl_append]
    refine hrest.trans ?_
    rw [List.append_assoc]
    rfl

theorem delimits_boot (config : Config) {es : List LineEvent}
    (hl : (es.filterMap LineEvent.byte?).length ≤ 512) :
    Delimits ((Listener.call config []).after es) ((Framer.call []).after es) :=
  (delimits_call config []).after ((Nat.zero_add _).trans_le hl)

theorem handed_transmission (config : Config) (lead : Nat) {ps : List Packet}
    (hp : ∀ p ∈ ps, p.Within 3 22) :
    ((Listener.call config []).after (transmission lead ps)).handed = ps.map Packet.bytes := by
  have hlead : Delimits ((Listener.call config []).after (silent lead))
      ((Framer.call []).after (silent lead)) :=
    delimits_boot config (by rw [bytes_silent]; exact Nat.zero_le _)
  rw [transmission, Listener.after, List.foldl_append]
  exact hlead.lines ((Framer.idle_call []).ticks lead) hp

theorem handed_silence (config : Config) {es : List LineEvent} {bytes : List UInt8}
    {l : List (List UInt8)} (hl : (es.filterMap LineEvent.byte?).length ≤ 512)
    (he : (Framer.call []).after es = .reading bytes short l) (hb : bytes ≠ []) (hd : 22 ≤ d) :
    ((Listener.call config []).after (es ++ silent d)).handed = l ++ [bytes] := by
  have hall : ((es ++ silent d).filterMap LineEvent.byte?).length ≤ 512 := by
    rw [List.filterMap_append, bytes_silent, List.append_nil]
    exact hl
  rw [(delimits_boot config hall).handed, Framer.after_append, he]
  exact (Framer.reading_silence hb hd).handed

/-- Four ticks are too long a gap once the first time-out has passed. -/
theorem gap_splits (config : Config) (n : Nat) :
    ((Listener.call config []).after (transmission 20 [⟨0, [(4, 1)], 22 + n⟩])).handed =
      [[0], [1]] := by
  have hstart : (Framer.call []).after (silent 20 ++ .byte 0 :: silent 4 ++ [.byte 1]) =
      .reading [1] false [[0]] := by decide +kernel
  have hline : transmission 20 [⟨0, [(4, 1)], 22 + n⟩] =
      (silent 20 ++ .byte 0 :: silent 4 ++ [.byte 1]) ++ silent (22 + n) := by
    simp [transmission, Packet.line, spaced]
  rw [hline]
  exact handed_silence config (by decide) hstart (List.cons_ne_nil _ _) (Nat.le_add_right 22 n)

/-- Twenty-one ticks are too short a silence. -/
theorem silence_joins (config : Config) :
    ((Listener.call config []).after (transmission 0 [⟨0, [], 21⟩, ⟨1, [], 22⟩])).handed =
      [[0, 1]] := by
  have hstart : (Framer.call []).after (.byte 0 :: silent 21 ++ [.byte 1]) =
      .reading [0, 1] true [] := by decide +kernel
  have hline : transmission 0 [⟨0, [], 21⟩, ⟨1, [], 22⟩] =
      (.byte 0 :: silent 21 ++ [.byte 1]) ++ silent 22 := by
    simp [transmission, Packet.line, spaced, silent]
  rw [hline]
  exact handed_silence config (by decide) hstart (List.cons_ne_nil _ _) (Nat.le_refl 22)

theorem within_iff {gap silence : Nat} (config : Config) :
    (∀ lead ps, (∀ p ∈ ps, p.Within gap silence) →
      ((Listener.call config []).after (transmission lead ps)).handed = ps.map Packet.bytes) ↔
      gap ≤ 3 ∧ 22 ≤ silence := by
  constructor
  · intro h
    refine ⟨?_, ?_⟩
    · by_contra hgap
      have hone := h 20 [⟨0, [(4, 1)], 22 + silence⟩] (List.forall_mem_singleton.2
        ⟨show 2 ≤ 512 by decide, List.forall_mem_singleton.2 (by dsimp only; omega),
          Nat.le_add_left _ _⟩)
      rw [gap_splits] at hone
      cases hone
    · by_contra hsilence
      have htwo := h 0 [⟨0, [], 21⟩, ⟨1, [], 22⟩] (List.forall_mem_cons.2
        ⟨⟨by decide, List.forall_mem_nil _, by dsimp only; omega⟩, List.forall_mem_singleton.2
          ⟨by decide, List.forall_mem_nil _, by dsimp only; omega⟩⟩)
      rw [silence_joins] at htwo
      exact absurd htwo (by decide)
  · rintro ⟨hgap, hsilence⟩ lead ps hp
    refine handed_transmission config lead fun p h => ?_
    obtain ⟨hfits, hgaps, hsilent⟩ := hp p h
    exact ⟨hfits, fun q hq => (hgaps q hq).trans hgap, hsilence.trans hsilent⟩

namespace Listener

def moves (s : Listener) : LineEvent → List UartEvent
  | .byte x => .isr [x] :: List.replicate 4 .thread
  | .tick =>
    if s.left ≤ 1 then .timer :: List.replicate (if s.receiver.expire.Left then 3 else 2) .thread
    else []

def schedule (s : Listener) : List LineEvent → List UartEvent
  | [] => []
  | e :: es => s.moves e ++ (s.step e).schedule es

end Listener

def Receiver.untimed (r : Receiver) : Receiver := { r with nextTimeout := 0 }

theorem untimed_byte {r q : Receiver} (h : r.untimed = q.untimed) (x : UInt8) :
    (r.byte x).untimed = (q.byte x).untimed := by
  have hbyte (r : Receiver) : (r.byte x).untimed = r.untimed.byte x :=
    apply_ite Receiver.untimed (r.counter ≥ 512) _ _
  rw [hbyte, hbyte, h]

theorem untimed_expire {r q : Receiver} (h : r.untimed = q.untimed) :
    r.expire.untimed = q.expire.untimed ∧ (r.expire.Left ↔ q.expire.Left) ∧
      r.expire.handed = q.expire.handed :=
  ⟨congrArg (fun r => r.expire.untimed) h, iff_of_eq (congrArg (fun r => r.expire.Left) h),
    congrArg (fun r => r.expire.handed) h⟩

/-- The thread waits, and nothing is unread. -/
structure Listens (s : Listener) (p : Uart × Wire) : Prop where
  pc : p.1.pc = .blocked
  isOpen : p.1.isOpen = true
  fifo : p.1.fifo = []
  set : p.1.set = .none
  receiver : p.1.receiver.untimed = s.receiver.untimed
  handed : p.2.handed = s.handed

theorem run_byte (x : UInt8) (i j : Bool) (r : Receiver) (m : Wire) :
    run (observe Uart.step (watchWire id)) (⟨.blocked, true, [], .none, i, j, r⟩, m)
      (.isr [x] :: List.replicate 4 .thread) =
    some (⟨.blocked, true, [], .none, i, j || !i, r.byte x⟩, ⟨m.came ++ [x], m.handed⟩) := rfl

theorem run_again {i j : Bool} {r : Receiver} (h : ¬ r.expire.Left) (m : Wire) :
    run (observe Uart.step (watchWire id)) (⟨.blocked, true, [], .none, i, j, r⟩, m)
      (.timer :: List.replicate 2 .thread) =
    some (⟨.blocked, true, [], .none, i, j, r.expire⟩, m) := by
  have hthread : Uart.thread ⟨.timedOut, true, [], .none, i, j, r⟩ =
      some ⟨.recv, true, [], .none, i, j, r.expire⟩ := by
    rw [Uart.thread]
    dsimp only
    rw [if_neg h]
  refine run_cons_eq_some.2 ⟨(⟨.timedOut, true, [], .none, i, j, r⟩, m), rfl, ?_⟩
  refine run_cons_eq_some.2 ⟨(⟨.recv, true, [], .none, i, j, r.expire⟩, m), ?_, rfl⟩
  exact observe_eq_some.2 ⟨hthread, rfl⟩

theorem run_return {i j : Bool} {r : Receiver} (h : r.expire.Left) (m : Wire) :
    run (observe Uart.step (watchWire id)) (⟨.blocked, true, [], .none, i, j, r⟩, m)
      (.timer :: List.replicate 3 .thread) =
    some (⟨.blocked, true, [], .none, i, j, .start r.config 20⟩,
      ⟨m.came, m.handed ++ r.expire.handed⟩) := by
  have hthread : Uart.thread ⟨.timedOut, true, [], .none, i, j, r⟩ =
      some ⟨.call, true, [], .none, i, j, r.expire⟩ := by
    rw [Uart.thread]
    dsimp only
    rw [if_pos h]
  refine run_cons_eq_some.2 ⟨(⟨.timedOut, true, [], .none, i, j, r⟩, m), rfl, ?_⟩
  refine run_cons_eq_some.2 ⟨(⟨.call, true, [], .none, i, j, r.expire⟩,
    ⟨m.came, m.handed ++ r.expire.handed⟩), ?_, rfl⟩
  exact observe_eq_some.2 ⟨hthread, rfl⟩

theorem Listens.step {s : Listener} {p : Uart × Wire} (h : Listens s p) (e : LineEvent) :
    ∃ q, run (observe Uart.step (watchWire id)) p (s.moves e) = some q ∧ Listens (s.step e) q ∧
      q.2.came = p.2.came ++ e.byte?.toList := by
  obtain ⟨⟨pc, isOpen, fifo, set, i, j, r⟩, m⟩ := p
  obtain ⟨rfl, rfl, rfl, rfl, hreceiver, hhanded⟩ := h
  cases e with
  | byte x =>
    exact ⟨_, run_byte x i j r m, ⟨rfl, rfl, rfl, rfl, untimed_byte hreceiver x, hhanded⟩, rfl⟩
  | tick =>
    obtain ⟨hexpire, hleft, hresult⟩ := untimed_expire hreceiver
    rw [Listener.moves, Listener.step]
    by_cases hlast : s.left ≤ 1
    · rw [if_pos hlast, if_pos hlast, Listener.timedOut]
      by_cases hl : s.receiver.expire.Left
      · rw [if_pos hl, if_pos hl]
        refine ⟨_, run_return (hleft.2 hl) m, ⟨rfl, rfl, rfl, rfl, ?_, ?_⟩, ?_⟩
        · have hconfig : r.untimed.config = s.receiver.untimed.config := by rw [← hreceiver]
          exact congrArg (fun config => (Receiver.start config 0)) hconfig
        · exact congrArg₂ (· ++ ·) hhanded hresult
        · exact (List.append_nil _).symm
      · rw [if_neg hl, if_neg hl]
        exact ⟨_, run_again (fun hr => hl (hleft.1 hr)) m, ⟨rfl, rfl, rfl, rfl, hexpire, hhanded⟩,
          (List.append_nil _).symm⟩
    · rw [if_neg hlast, if_neg hlast]
      exact ⟨_, rfl, ⟨rfl, rfl, rfl, rfl, hreceiver, hhanded⟩, (List.append_nil _).symm⟩

theorem Listens.run {s : Listener} {p : Uart × Wire} (h : Listens s p) (es : List LineEvent) :
    ∃ q, CountdownOutside.run (observe Uart.step (watchWire id)) p (s.schedule es) = some q ∧
      Listens (s.after es) q ∧ q.2.came = p.2.came ++ es.filterMap LineEvent.byte? := by
  induction es generalizing s p with
  | nil => exact ⟨p, rfl, h, (List.append_nil _).symm⟩
  | cons e es ih =>
    obtain ⟨q, hq, hwaits, hcame⟩ := h.step e
    obtain ⟨q', hq', hwaits', hcame'⟩ := ih hwaits
    refine ⟨q', run_append_eq_some.2 ⟨q, hq, hq'⟩, hwaits', ?_⟩
    rw [hcame', hcame, List.append_assoc]
    cases e <;> rfl

/-- The serial device and the receiver thread from the start on: the thread is back at its wait
before the next byte or tick. -/
def lineSchedule (config : Config) (es : List LineEvent) : List UartEvent :=
  List.replicate 5 .thread ++ (Listener.call config []).schedule es

theorem run_line (config : Config) (es : List LineEvent) :
    ∃ s : RingUart, CountdownOutside.run (observe RingUart.step (watchWire RingUart.uart))
      (.boot config, ⟨[], []⟩) (lineSchedule config es) =
        some (s, ⟨es.filterMap LineEvent.byte?, ((Listener.call config []).after es).handed⟩) := by
  have hboot : run (observe Uart.step (watchWire id)) (.boot config, ⟨[], []⟩)
      (List.replicate 5 .thread) =
        some (⟨.blocked, true, [], .none, true, false, .start config 20⟩, ⟨[], []⟩) := rfl
  have hwaits : Listens (.call config [])
      (⟨.blocked, true, [], .none, true, false, .start config 20⟩, ⟨[], []⟩) :=
    ⟨rfl, rfl, rfl, rfl, rfl, rfl⟩
  obtain ⟨⟨u, m⟩, hq, hwaits', hcame⟩ := hwaits.run es
  obtain ⟨⟨s, n⟩, hs, hrel⟩ := RingUart.wire_lockstep.symm.run_forth
    (s := (.boot config, ⟨[], []⟩)) (t := (.boot config, ⟨[], []⟩))
    ⟨RingUart.tracks_boot config, rfl⟩ (run_append_eq_some.2 ⟨_, hboot, hq⟩)
  refine ⟨s, hs.trans ?_⟩
  rw [show n = m from hrel.2]
  obtain ⟨came, handed⟩ := m
  rw [← hwaits'.handed, show came = _ from hcame]
  rfl

theorem bytes_transmission (lead : Nat) (ps : List Packet) :
    (transmission lead ps).filterMap LineEvent.byte? = ps.flatMap Packet.bytes := by
  rw [transmission, List.filterMap_append, bytes_silent, List.nil_append, List.filterMap_flatMap]
  exact congrArg (ps.flatMap ·) (funext Packet.bytes_line)

/-- The receiver thread tells receptions apart, whatever they hold, exactly if their bytes are at
most three ticks apart and at least twenty-two ticks of silence follow. As `lineSchedule` fixes it,
the thread has parsed what it handed on and waits again before the next byte or tick comes. -/
theorem receptions_told_apart_iff {gap silence : Nat} (config : Config) :
    (∀ lead ps, (∀ p ∈ ps, p.Within gap silence) → ∃ s : RingUart,
      run (observe RingUart.step (watchWire RingUart.uart)) (.boot config, ⟨[], []⟩)
        (lineSchedule config (transmission lead ps)) =
          some (s, ⟨ps.flatMap Packet.bytes, ps.map Packet.bytes⟩)) ↔
      gap ≤ 3 ∧ 22 ≤ silence := by
  rw [← within_iff config]
  refine forall₂_congr fun lead ps => imp_congr_right fun _ => ?_
  obtain ⟨s, hs⟩ := run_line config (transmission lead ps)
  rw [bytes_transmission] at hs
  constructor
  · rintro ⟨t, ht⟩
    have he := hs.symm.trans ht
    exact congrArg Wire.handed (congrArg Prod.snd (Option.some.inj he))
  · intro he
    exact ⟨s, he ▸ hs⟩

namespace Firmware

/-- Each colour's number is the one that its channel was last told on the line, whatever the other
threads and the timers do meanwhile. Only the receiver thread is fixed: as in `lineSchedule`, it has
parsed what it handed on and waits again before the next byte or tick comes. -/
theorem line_stores_latest {config : Config} {es : List FirmwareEvent} {s : Firmware} {m : Wire}
    {lead : Nat} {ps : List Packet} {bs : List Broadcast} (hs : config.studyOrComm = 0)
    (hp : config.protocol ≠ 1)
    (h : run (observe (step config) watchUnit) (boot config, ⟨[], []⟩) es = some (s, m))
    (he : es.filterMap FirmwareEvent.onUart = lineSchedule config (transmission lead ps))
    (hps : ∀ p ∈ ps, p.Within 3 22) (hbs : ps.map Packet.bytes = bs.map Broadcast.bytes)
    (hclear : ∀ b ∈ bs, b.Clear config.countdownChannel) (c : Colour) :
    s.sys.countdown.num c = (Broadcast.latest config.countdownChannel c bs).getD 0 := by
  refine run_upToDate hs hp h bs ?_ hclear c
  have hline := run_uart h
  obtain ⟨t, ht⟩ := run_line config (transmission lead ps)
  rw [he] at hline
  rw [← hbs, ← handed_transmission config lead hps]
  exact congrArg Wire.handed (congrArg Prod.snd (Option.some.inj (hline.symm.trans ht)))

def greenOnLine : List Packet := [⟨0xfe, [(3, 0x05), (0, 0x00), (1, 0x12), (2, 0x17)], 22⟩]

def greenEvents : List FirmwareEvent :=
  (lineSchedule vehicleDial (transmission 9 greenOnLine)).flatMap fun e => [.uart e, .display]

theorem line_stores_latest_green : ∃ (s : Firmware) (m : Wire),
    run (observe (step vehicleDial) watchUnit) (boot vehicleDial, ⟨[], []⟩) greenEvents =
      some (s, m) ∧
    s.sys.countdown.num .green = (Broadcast.latest 1 .green [.green]).getD 0 := by
  have hrun : (run (observe (step vehicleDial) watchUnit) (boot vehicleDial, ⟨[], []⟩)
      greenEvents).isSome := by
    decide +kernel
  obtain ⟨⟨s, m⟩, hs⟩ := Option.isSome_iff_exists.1 hrun
  have hprotocol : vehicleDial.protocol ≠ 1 := by decide
  have hevents : greenEvents.filterMap FirmwareEvent.onUart =
      lineSchedule vehicleDial (transmission 9 greenOnLine) := by
    decide +kernel
  have hline : ∀ p ∈ greenOnLine, p.Within 3 22 :=
    List.forall_mem_singleton.2 ⟨by decide, by decide, by decide⟩
  exact ⟨s, m, hs, line_stores_latest rfl hprotocol hs hevents hline (by decide) (by decide) .green⟩

end Firmware

end CountdownOutside
