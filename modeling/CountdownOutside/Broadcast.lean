import CountdownOutside.Announcement
import CountdownOutside.Firmware

namespace CountdownOutside
set_option autoImplicit true

inductive Broadcast
  | gat2004 (records : { l : List Gat2004.Announcement // l ≠ [] ∧ l.length ≤ 25 })
  | gat2014 (records : { l : List Gat2014.Announcement // l.length ≤ 62 })
  deriving DecidableEq, Repr

namespace Broadcast

def bytes : Broadcast → List UInt8
  | .gat2004 l => Gat2004.broadcast l.1
  | .gat2014 l => Gat2014.packet l.1

def told (channel : UInt8) : Broadcast → Option Update
  | .gat2004 l => (Gat2004.heard l.1 channel).map (·.update)
  | .gat2014 l => (Gat2014.heard l.1 channel).map (·.update)

/-- What stands behind the announcements does not pass for one to the channel. -/
def Clear (channel : UInt8) : Broadcast → Prop
  | .gat2004 l => channel ≠ 0 ∨ Gat2004.heard l.1 0 ≠ none
  | .gat2014 l => Gat2014.heard l.1 channel ≠ none ∨ channel ≠ Gat2014.crc l.1 >>> 3

instance (channel : UInt8) (b : Broadcast) : Decidable (b.Clear channel) := by
  cases b <;> exact inferInstanceAs (Decidable (_ ∨ _))

def number (channel : UInt8) (c : Colour) (b : Broadcast) : Option UInt16 :=
  (b.told channel).bind fun u => u.arm.bind fun p => if p.1 = c then some p.2 else none

def latest (channel : UInt8) (c : Colour) (bs : List Broadcast) : Option UInt16 :=
  bs.reverse.findSome? (number channel c)

variable {config : Config} {b : Broadcast} {bs : List Broadcast} {channel : UInt8} {c : Colour}

theorem latest_append (channel : UInt8) (c : Colour) (bs : List Broadcast) (b : Broadcast) :
    latest channel c (bs ++ [b]) = (b.number channel c).or (latest channel c bs) := by
  rw [latest, List.reverse_append, List.reverse_singleton, List.singleton_append,
    List.findSome?_cons, latest]
  cases b.number channel c <;> rfl

/-- Every unit does what it is told, and no other, exactly if the broadcast is clear for it. -/
theorem heard_iff_clear (h : config.Received b.bytes) (hp : config.protocol ≠ 1) :
    (∀ info cd, subpackage config info cd = .ok (info, if config.studyOrComm = 0 then
      Update.applyAll (b.told config.countdownChannel).toList cd else cd)) ↔
      config.studyOrComm ≠ 0 ∨ b.Clear config.countdownChannel := by
  cases b with
  | gat2004 l => exact Gat2004.broadcast_understood_iff h l.2.1 l.2.2 hp
  | gat2014 l => exact Gat2014.packet_understood_iff h l.2 hp

def green : Broadcast := .gat2004 ⟨[⟨⟨1, by decide⟩, some .green, ⟨12, by decide⟩, false⟩],
  List.cons_ne_nil _ _, by decide⟩

theorem heard_iff_clear_green : green.Clear 1 ∧
    ∀ info cd, subpackage (vehicleDial.receive green.bytes) info cd =
      .ok (info, Update.applyAll (green.told 1).toList cd) := by
  have hclear : green.Clear 1 := by decide
  refine ⟨hclear, fun info cd => ?_⟩
  exact (heard_iff_clear (vehicleDial.receive_received (by decide)) (by decide)).2 (.inr hclear)
    info cd

theorem told_of_clear (h : config.Received b.bytes) (hp : config.protocol ≠ 1)
    (hs : config.studyOrComm = 0) (hc : b.Clear config.countdownChannel) (info : GelinweiInfo)
    (cd : Countdown) : subpackage config info cd =
      .ok (info, Update.applyAll (b.told config.countdownChannel).toList cd) := by
  have hall : ∀ info cd, subpackage config info cd = .ok (info, if config.studyOrComm = 0 then
      Update.applyAll (b.told config.countdownChannel).toList cd else cd) := by
    cases b with
    | gat2004 l => exact (Gat2004.broadcast_understood_iff h l.2.1 l.2.2 hp).2 (.inr hc)
    | gat2014 l => exact (Gat2014.packet_understood_iff h l.2 hp).2 (.inr hc)
  rw [hall, if_pos hs]

theorem told_num (channel : UInt8) (c : Colour) (b : Broadcast) (cd : Countdown) :
    (Update.applyAll (b.told channel).toList cd).num c = (b.number channel c).getD (cd.num c) := by
  rw [number]
  cases b.told channel with
  | none => rfl
  | some u =>
    change (u.apply cd).num c = _
    rw [u.apply_num_eq, Update.armed, Option.bind_some]
    cases u.arm with
    | none => rfl
    | some p =>
      rw [Countdown.arm_num, Option.bind_some]
      by_cases hc : p.1 = c
      · rw [if_pos hc.symm, if_pos hc, Option.getD_some]
      · rw [if_neg (fun h => hc h.symm), if_neg hc, Option.getD_none]

end Broadcast

theorem display_num (config : Config) (s : Sys) (c : Colour) :
    (display config s).countdown.num c = s.countdown.num c := by
  rcases display_cases config s with ⟨_, h⟩ | ⟨d, _, h⟩ | ⟨_, _, h⟩
  · rw [h]
    cases c <;> rfl
  · rw [h]
    cases c <;> cases d <;> rfl
  · rw [h]

theorem ring_filled {us : List UartEvent} {s : RingUart}
    (h : run RingUart.step (.boot config) us = some s) : s.uart.receiver.Filled := by
  obtain ⟨t, ht, htracks⟩ := RingUart.ring_lockstep.run_forth (RingUart.tracks_boot config) h
  rw [← htracks.receiver_eq]
  apply run_invariant (P := fun u : Uart => u.receiver.Filled) _ _ ht
  · intro u e v hu hs
    cases e with
    | thread => exact Uart.thread_filled hu hs
    | timer =>
      rw [Uart.step] at hs
      split at hs
      · cases hs
        exact hu
      · cases hs
    | isr bytes =>
      rw [Uart.step] at hs
      split at hs
      · cases hs
        rw [(Uart.isr_receiver u bytes).1]
        exact hu
      · cases hs
  · exact Receiver.filled_start _ _

theorem Receiver.Filled.reception {r : Receiver} (h : r.Filled) (h0 : r.result = 0) :
    r.config.Received r.reception := by
  have hr := h.received h0
  rw [Receiver.reception, hr.counter, ← List.prefix_iff_eq_take.1 hr.bytes]
  exact hr

namespace Firmware

open Broadcast

variable {config : Config} {s t : Firmware} {m n : Wire} {bs : List Broadcast} {c : Colour}

def UpToDate (config : Config) (s : Firmware) (m : Wire) : Prop :=
  ∀ bs : List Broadcast, m.handed = bs.map bytes →
    (∀ b ∈ bs, b.Clear config.countdownChannel) →
    ∀ c, s.sys.countdown.num c = (latest config.countdownChannel c bs).getD 0

theorem UpToDate.keep (h : UpToDate config s m) (hm : n.handed = m.handed)
    (hc : ∀ c, t.sys.countdown.num c = s.sys.countdown.num c) : UpToDate config t n := by
  intro bs hbs hclear c
  rw [hc]
  exact h bs (hm.symm.trans hbs) hclear c

theorem studyThreadEntry_communicating (hs : config.studyOrComm = 0) (studying : Bool) (s : Sys) :
    (studyThreadEntry config studying s).countdown = s.countdown := by
  rw [studyThreadEntry]
  split
  · rfl
  · rw [if_neg (by rw [hs]; decide)]

theorem UpToDate.step (h : UpToDate config s m) (hs : config.studyOrComm = 0)
    (hp : config.protocol ≠ 1) (hd : SameDial t.uart.uart.receiver.config config)
    (hf : t.uart.uart.receiver.Filled) (hstep : Firmware.step config s e = some t) :
    UpToDate config t (watchUnit m s e t) := by
  cases e with
  | uart e =>
    obtain ⟨_, _, ⟨rfl, hret, hresult, p, hsub, hsys⟩ | ⟨hno, hsys⟩⟩ := uartStep_cases hstep
    · have hwatch : watchUnit m s (.uart .thread) t =
          ⟨m.came, m.handed ++ t.uart.uart.receiver.handed⟩ := if_pos hret
      rw [hwatch, Receiver.handed, if_pos hresult]
      intro bs hbs hclear c
      obtain ⟨bs', b, rfl⟩ : ∃ bs' b, bs = bs' ++ [b] := by
        rcases List.eq_nil_or_concat' bs with rfl | hne
        · exact absurd hbs (by simp)
        · exact hne
      rw [List.map_append, List.map_singleton] at hbs
      obtain ⟨hbefore, hlast⟩ := List.append_inj' hbs rfl
      have hchannel : t.uart.uart.receiver.config.countdownChannel = config.countdownChannel := by
        rw [hd]
      have hcomm : t.uart.uart.receiver.config.studyOrComm = config.studyOrComm := by rw [hd]
      have hprotocol : t.uart.uart.receiver.config.protocol = config.protocol := by rw [hd]
      have hreceived : t.uart.uart.receiver.config.Received b.bytes := by
        rw [← List.singleton_inj.1 hlast]
        exact hf.reception hresult
      have hclear' := hclear b (List.mem_append_right _ (List.mem_singleton.2 rfl))
      rw [told_of_clear hreceived (hprotocol ▸ hp) (hcomm.trans hs) (hchannel ▸ hclear')] at hsub
      have hold := h bs' hbefore (fun b hb => hclear b (List.mem_append_left _ hb)) c
      rw [hsys, ← Except.ok.inj hsub, latest_append]
      dsimp only
      rw [told_num, hold, hchannel]
      cases b.number config.countdownChannel c <;> rfl
    · refine h.keep ?_ (fun c => by rw [hsys])
      dsimp only [watchUnit]
      cases e with
      | thread =>
        dsimp only [watchWire]
        split
        · rename_i hret
          have hnone : t.uart.uart.receiver.handed = [] := if_neg fun h0 => hno ⟨rfl, hret, h0⟩
          rw [hnone, List.append_nil]
        · rfl
      | _ => rfl
  | study =>
    cases hstep
    exact h.keep rfl fun c => by rw [studyThreadEntry_communicating hs]
  | timeout =>
    cases hstep
    exact h.keep rfl fun c => (timeout_colour _ _ c).2.2
  | display =>
    cases hstep
    exact h.keep rfl fun c => display_num config s.sys c
  | timerOut =>
    cases hstep
    exact h.keep rfl fun _ => rfl
  | lamps lamps =>
    cases hstep
    exact h.keep rfl fun _ => rfl

theorem run_upToDate (hs : config.studyOrComm = 0) (hp : config.protocol ≠ 1)
    (h : run (observe (step config) watchUnit) (boot config, ⟨[], []⟩) es = some (s, m)) :
    UpToDate config s m := by
  induction es using List.reverseRecOn generalizing s m with
  | nil =>
    cases h
    intro bs hbs _ c
    obtain rfl := List.map_eq_nil_iff.1 hbs.symm
    cases c <;> rfl
  | append_singleton es e ih =>
    have hring := run_observe (run_uart h)
    obtain ⟨⟨u, k⟩, hu, hlast⟩ := run_append_eq_some.1 h
    rw [run_singleton] at hlast
    obtain ⟨hstep, hwatch⟩ := observe_eq_some.1 hlast
    rw [show m = watchUnit k u e s from hwatch]
    exact (ih hu).step hs hp (ring_dial hring) (ring_filled hring) hstep

/-- In every run of a communicating unit that is handed clear broadcasts, each colour's number is
the one that its channel was last told. -/
theorem stores_latest (hs : config.studyOrComm = 0) (hp : config.protocol ≠ 1)
    (h : run (observe (step config) watchUnit) (boot config, ⟨[], []⟩) es = some (s, m))
    (hm : m.handed = bs.map bytes) (hclear : ∀ b ∈ bs, b.Clear config.countdownChannel)
    (c : Colour) :
    s.sys.countdown.num c = (latest config.countdownChannel c bs).getD 0 :=
  run_upToDate hs hp h bs hm hclear c

theorem stores_latest_green : ∃ (s : Firmware) (m : Wire),
    run (observe (step vehicleDial) watchUnit) (boot vehicleDial, ⟨[], []⟩) oneGreen =
      some (s, m) ∧ m.handed = [green.bytes] ∧
    ∀ c, s.sys.countdown.num c = if c = .green then 12 else 0 := by
  have hany : (run (observe (step vehicleDial) watchUnit) (boot vehicleDial, ⟨[], []⟩)
      oneGreen).any fun p => p.2.handed = [green].map bytes := by
    decide +kernel
  obtain ⟨⟨s, m⟩, hs, hm⟩ := (Option.any_eq_true ..).1 hany
  have hhanded : m.handed = [green].map bytes := of_decide_eq_true hm
  have hclear : ∀ b ∈ [green], b.Clear vehicleDial.countdownChannel := by decide
  have hprotocol : vehicleDial.protocol ≠ 1 := by decide
  refine ⟨s, m, hs, hhanded, fun c => ?_⟩
  rw [stores_latest rfl hprotocol hs hhanded hclear c]
  cases c <;> decide

end Firmware

end CountdownOutside
