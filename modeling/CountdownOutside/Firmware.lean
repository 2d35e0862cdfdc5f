import CountdownOutside.Provenance
import CountdownOutside.Subpackage
import CountdownOutside.Wire

namespace CountdownOutside
set_option autoImplicit true

/-- The whole unit: the serial device with the receiver thread, and the other threads and timers. -/
structure Firmware where
  uart : RingUart
  sys : Sys
  /-- The learning thread is in its loop. -/
  studying : Bool
  deriving DecidableEq, Repr

inductive FirmwareEvent
  | uart (e : UartEvent)
  /-- The learning thread comes to its next delay. -/
  | study
  | timerOut
  | timeout
  | lamps (lamps : Lamps)
  | display
  deriving DecidableEq, Repr

/-- `study_thread_entry`: `m_or_p` is taken over once, and then the lamps are looked at every 20 ms. -/
def studyThreadEntry (config : Config) (studying : Bool) (s : Sys) : Sys :=
  if studying = false then { s with study := { s.study with mOrP := config.motorOrPeople } }
  else if config.studyOrComm = 1 then
    if s.study.mOrP = 0 then
      let p := rtHwPeopleStduy s.lamps s.study s.countdown
      { s with study := p.1, countdown := p.2 }
    else if s.study.mOrP = 1 then
      let p := rtHwMotorStduy s.lamps s.study s.countdown
      { s with study := p.1, countdown := p.2 }
    else s
  else s

def FirmwareEvent.onUart : FirmwareEvent → Option UartEvent
  | .uart e => some e
  | _ => none

namespace Firmware

def boot (config : Config) : Firmware := ⟨.boot config, .powerUp, false⟩

/-- A step of the receiver thread or of its interrupts; what a call has received goes to
`subpackage`. -/
def uartStep (s : Firmware) (e : UartEvent) : Option Firmware :=
  (s.uart.step e).bind fun uart =>
    if e = .thread ∧ s.uart.uart.Returns uart.uart ∧ uart.uart.receiver.result = 0 then
      (subpackage uart.uart.receiver.config s.sys.info s.sys.countdown).toOption.map fun p =>
        { s with uart, sys := { s.sys with info := p.1, countdown := p.2 } }
    else some { s with uart }

def step (config : Config) (s : Firmware) : FirmwareEvent → Option Firmware
  | .uart e => s.uartStep e
  | .study => some { s with sys := studyThreadEntry config s.studying s.sys, studying := true }
  | .timerOut => some { s with sys := { s.sys with study := CountdownOutside.timerOut s.sys.study } }
  | .timeout =>
    let p := CountdownOutside.timeout s.sys.countdownType s.sys.countdown
    some { s with sys := { s.sys with countdownType := p.1, countdown := p.2 } }
  | .lamps lamps => some { s with sys := { s.sys with lamps } }
  | .display => some { s with sys := CountdownOutside.display config s.sys }

def watchUnit (m : Wire) (s : Firmware) (e : FirmwareEvent) (t : Firmware) : Wire :=
  match e with
  | .uart e => watchWire RingUart.uart m s.uart e t.uart
  | _ => m

end Firmware

def receptionEvents (config : Config) : List Event :=
  if config.studyOrComm = 0 then
    if config.protocol = 1 then [.geLinWei config.rxBuffer config.rxCounter]
    else if config.rxBuffer.get 0 = 0x55 ∧ config.rxBuffer.get 1 = 0xaa then
      [.gat2014 config.rxBuffer config.rxCounter]
    else if config.rxBuffer.get 0 = 0xfe then [.gat2004 config.rxBuffer config.rxCounter]
    else []
  else []

def Event.reception : Event → Option (List UInt8)
  | .geLinWei b n | .gat2014 b n | .gat2004 b n => some (b.bytes.take n.toNat)
  | _ => none

/-- The dial lets an event happen, and a parser gets only what has been handed on. -/
def Admits (config : Config) (handed : List (List UInt8)) : Event → Prop
  | .geLinWei b n => config.studyOrComm = 0 ∧ config.protocol = 1 ∧ b.bytes.take n.toNat ∈ handed
  | .gat2014 b n => config.studyOrComm = 0 ∧ config.protocol ≠ 1 ∧ b.bytes.take n.toNat ∈ handed
  | .gat2004 b n => config.studyOrComm = 0 ∧ config.protocol ≠ 1 ∧ b.bytes.take n.toNat ∈ handed
  | .motorStduy => config.studyOrComm = 1 ∧ config.motorOrPeople = 1
  | .peopleStduy => config.studyOrComm = 1 ∧ config.motorOrPeople = 0
  | _ => True

variable {config dial : Config} {handed handed' : List (List UInt8)}

theorem Admits.mono {e : Event} (h : Admits config handed e) (hs : ∀ r ∈ handed, r ∈ handed') :
    Admits config handed' e := by
  cases e with
  | geLinWei b n => exact ⟨h.1, h.2.1, hs _ h.2.2⟩
  | gat2014 b n => exact ⟨h.1, h.2.1, hs _ h.2.2⟩
  | gat2004 b n => exact ⟨h.1, h.2.1, hs _ h.2.2⟩
  | _ => exact h

/-- What `subpackage` does with a reception is what the system does with the events of it. -/
theorem subpackage_events {s : Sys} (hd : SameDial dial config)
    (h : subpackage dial s.info s.countdown = .ok p) :
    run (step config) s (receptionEvents dial) =
      some { s with info := p.1, countdown := p.2 } := by
  have hnone (he : (s.info, s.countdown) = p) :
      run (step config) s [] = some { s with info := p.1, countdown := p.2 } := by
    rw [← he]
    rfl
  have hdial : config.receiving dial.rxBuffer dial.rxCounter = dial := hd.symm
  rw [subpackage] at h
  simp only [callRcvParse] at h
  rw [receptionEvents]
  by_cases hc : dial.studyOrComm = 0
  · simp only [if_pos hc] at h ⊢
    split at h
    · rename_i hp
      rw [if_pos hp, run_singleton, step, hdial, h]
      rfl
    · rename_i hp
      rw [if_neg hp]
      split at h
      · rename_i h55
        obtain ⟨cd, hcd, rfl⟩ := map_eq_ok h
        rw [if_pos h55, run_singleton, step, hdial, hcd]
        rfl
      · rename_i h55
        rw [if_neg h55]
        split at h
        · rename_i hfe
          obtain ⟨cd, hcd, rfl⟩ := map_eq_ok h
          rw [if_pos hfe, run_singleton, step, hdial, hcd]
          rfl
        · rename_i hfe
          rw [if_neg hfe]
          exact hnone (Except.ok.inj h)
  · simp only [if_neg hc, ite_self] at h ⊢
    exact hnone (Except.ok.inj h)

theorem receptionEvents_admitted (hd : SameDial dial config)
    (hr : dial.rxBuffer.bytes.take dial.rxCounter.toNat ∈ handed) :
    ∀ e ∈ receptionEvents dial, Admits config handed e := by
  have hcomm : dial.studyOrComm = config.studyOrComm := by rw [hd]
  have hprotocol : dial.protocol = config.protocol := by rw [hd]
  rw [receptionEvents]
  split
  · rename_i hc
    rw [hcomm] at hc
    split
    · rename_i hp
      rw [List.forall_mem_singleton]
      exact ⟨hc, hprotocol ▸ hp, hr⟩
    · rename_i hp
      rw [hprotocol] at hp
      split
      · rw [List.forall_mem_singleton]
        exact ⟨hc, hp, hr⟩
      · split
        · rw [List.forall_mem_singleton]
          exact ⟨hc, hp, hr⟩
        · exact List.forall_mem_nil _
  · exact List.forall_mem_nil _

theorem studyThreadEntry_events {s : Sys} (config : Config) (handed : List (List UInt8))
    (studying : Bool) (hm : studying = true → s.study.mOrP = config.motorOrPeople) :
    ∃ fs, run (step config) s fs = some (studyThreadEntry config studying s) ∧
      ∀ e ∈ fs, Admits config handed e := by
  have hnone : ∃ fs, run (step config) s fs = some s ∧ ∀ e ∈ fs, Admits config handed e :=
    ⟨[], rfl, List.forall_mem_nil _⟩
  rw [studyThreadEntry]
  split
  · refine ⟨[.studyEntry], run_singleton, ?_⟩
    rw [List.forall_mem_singleton]
    trivial
  · rename_i hs
    have hdial := hm (Bool.eq_true_of_not_eq_false hs)
    split
    · rename_i hl
      split
      · rename_i hp
        refine ⟨[.peopleStduy], run_singleton, ?_⟩
        rw [List.forall_mem_singleton]
        exact ⟨hl, hdial.symm.trans hp⟩
      · split
        · rename_i hp
          refine ⟨[.motorStduy], run_singleton, ?_⟩
          rw [List.forall_mem_singleton]
          exact ⟨hl, hdial.symm.trans hp⟩
        · exact hnone
    · exact hnone

theorem thread_dial {s t : Uart} (h : SameDial s.receiver.config config)
    (hs : s.thread = some t) : SameDial t.receiver.config config := by
  rw [Uart.thread] at hs
  cases hpc : s.pc with
  | read =>
    rw [hpc] at hs
    cases hf : s.fifo with
    | nil =>
      rw [hf] at hs
      cases hs
      exact h
    | cons x l =>
      rw [hf] at hs
      cases hs
      dsimp only
      rw [Receiver.byte]
      dsimp only
      split
      · exact h.receive _ _
      · exact h.receive _ _
  | blocked =>
    rw [hpc] at hs
    cases hs
  | recv =>
    rw [hpc] at hs
    cases hs
    rw [Uart.rtEventRecv]
    split <;> exact h
  | _ =>
    rw [hpc] at hs
    cases hs
    exact h

theorem ring_dial {us : List UartEvent} {s : RingUart}
    (h : run RingUart.step (.boot config) us = some s) : SameDial s.uart.receiver.config config := by
  obtain ⟨t, ht, htracks⟩ := RingUart.ring_lockstep.run_forth (RingUart.tracks_boot config) h
  rw [← htracks.receiver_eq]
  apply run_invariant (P := fun u : Uart => SameDial u.receiver.config config) _ _ ht
  · intro u e v hu hs
    cases e with
    | thread => exact thread_dial hu hs
    | timer =>
      rw [Uart.step] at hs
      split at hs
      · cases hs
        exact hu
      · cases hs
    | isr bytes =>
      rw [Uart.step] at hs
      split at hs
      · cases hs
        rw [(Uart.isr_receiver u bytes).1]
        exact hu
      · cases hs
  · rfl

theorem display_study (config : Config) (s : Sys) : (display config s).study = s.study := by
  cases hpc : s.pc with
  | boot => rw [display_boot hpc]
  | entry =>
    have hstep := displayStep_entry config hpc
    rcases rtHwCountdown_cases config s with ⟨c, _, _, _, h⟩ | ⟨_, _, d, _, h⟩
    · obtain ⟨d, hd, _⟩ := showColour_draw
        { s with lightFlg := c.light, countdownType := s.countdown.type } c
      rw [display_of_draw (hstep.trans (h.trans hd))]
    · rw [display_of_draw (hstep.trans h)]
  | load c =>
    obtain ⟨d, hd, _⟩ := showNumber_draw { s with countdown := s.countdown.load c } c
    rw [display_of_draw ((displayStep_load config hpc).trans hd)]
  | lit => rw [display_lit hpc]
  | last => rw [display_last hpc]

namespace Firmware

variable {s t : Firmware} {m n : Wire} {e : FirmwareEvent} {es : List FirmwareEvent}

theorem uartStep_cases {e : UartEvent} (h : s.uartStep e = some t) :
    s.uart.step e = some t.uart ∧ t.studying = s.studying ∧
    ((e = .thread ∧ s.uart.uart.Returns t.uart.uart ∧ t.uart.uart.receiver.result = 0 ∧
      ∃ p, subpackage t.uart.uart.receiver.config s.sys.info s.sys.countdown = .ok p ∧
        t.sys = { s.sys with info := p.1, countdown := p.2 }) ∨
    (¬ (e = .thread ∧ s.uart.uart.Returns t.uart.uart ∧ t.uart.uart.receiver.result = 0) ∧
      t.sys = s.sys)) := by
  obtain ⟨uart, hu, ht⟩ := Option.bind_eq_some_iff.1 h
  split at ht
  · rename_i hr
    obtain ⟨p, hp, rfl⟩ := toOption_map_eq_some ht
    exact ⟨hu, rfl, .inl ⟨hr.1, hr.2.1, hr.2.2, p, hp, rfl⟩⟩
  · rename_i hr
    cases ht
    exact ⟨hu, rfl, .inr ⟨hr, rfl⟩⟩

theorem step_uart (h : step config s e = some t) (he : e.onUart = none) : t.uart = s.uart := by
  cases e with
  | uart e => cases he
  | _ =>
    cases h
    rfl

theorem run_uart (h : run (observe (step config) watchUnit) (s, m) es = some (t, n)) :
    run (observe RingUart.step (watchWire RingUart.uart)) (s.uart, m)
      (es.filterMap FirmwareEvent.onUart) = some (t.uart, n) := by
  induction es generalizing s m with
  | nil =>
    cases h
    rfl
  | cons e es ih =>
    obtain ⟨⟨u, k⟩, hu, hr⟩ := run_cons_eq_some.1 h
    obtain ⟨hstep, hwatch⟩ := observe_eq_some.1 hu
    cases he : e.onUart with
    | none =>
      have huart : u.uart = s.uart := step_uart hstep he
      have hk : k = m := by
        cases e with
        | uart e => cases he
        | _ => exact hwatch
      rw [List.filterMap_cons_none he, ← huart, ← hk]
      exact ih hr
    | some e' =>
      cases e with
      | uart e =>
        cases he
        refine run_cons_eq_some.2 ⟨(u.uart, k), ?_, ih hr⟩
        exact observe_eq_some.2 ⟨(uartStep_cases hstep).1, hwatch⟩
      | _ => cases he

/-- The countdown's part of a unit is a run of the system, with events that the dial admits. -/
structure Embeds (config : Config) (s : Firmware) (m : Wire) : Prop where
  dial : s.studying = true → s.sys.study.mOrP = config.motorOrPeople
  system : ∃ fs, run (CountdownOutside.step config) .powerUp fs = some s.sys ∧
    ∀ e ∈ fs, Admits config m.handed e

theorem timerOut_mOrP (study : Study) :
    (CountdownOutside.timerOut study).mOrP = study.mOrP := by
  rw [CountdownOutside.timerOut]
  split
  · split
    · rfl
    · split <;> rfl
  · split
    · split
      · rfl
      · split
        · rfl
        · split <;> rfl
    · rfl

theorem motorStduy_mOrP (lamps : Lamps) (study : Study) (cd : Countdown) :
    (rtHwMotorStduy lamps study cd).1.mOrP = study.mOrP := by
  rw [rtHwMotorStduy]
  split
  · rfl
  · split
    · rfl
    · split <;> rfl

theorem peopleStduy_mOrP (lamps : Lamps) (study : Study) (cd : Countdown) :
    (rtHwPeopleStduy lamps study cd).1.mOrP = study.mOrP := by
  rw [rtHwPeopleStduy]
  split
  · rfl
  · split <;> rfl

theorem studyThreadEntry_mOrP (config : Config) (studying : Bool) (s : Sys)
    (h : studying = true → s.study.mOrP = config.motorOrPeople) :
    (studyThreadEntry config studying s).study.mOrP = config.motorOrPeople := by
  rw [studyThreadEntry]
  split
  · rfl
  · rename_i hs
    have hdial := h (Bool.eq_true_of_not_eq_false hs)
    split
    · split
      · exact (peopleStduy_mOrP _ _ _).trans hdial
      · split
        · exact (motorStduy_mOrP _ _ _).trans hdial
        · exact hdial
    · exact hdial

theorem Embeds.append (h : Embeds config s m) (fs : List Event)
    (hr : run (CountdownOutside.step config) s.sys fs = some t.sys)
    (ha : ∀ e ∈ fs, Admits config n.handed e) (hm : ∀ r ∈ m.handed, r ∈ n.handed)
    (hd : t.studying = true → t.sys.study.mOrP = config.motorOrPeople) : Embeds config t n where
  dial := hd
  system := by
    obtain ⟨gs, hgs, hadmits⟩ := h.system
    refine ⟨gs ++ fs, run_append_eq_some.2 ⟨_, hgs, hr⟩, ?_⟩
    intro e he
    rcases List.mem_append.1 he with he | he
    · exact (hadmits e he).mono hm
    · exact ha e he

theorem Embeds.step (h : Embeds config s m) (hd : SameDial t.uart.uart.receiver.config config)
    (hs : Firmware.step config s e = some t) : Embeds config t (watchUnit m s e t) := by
  cases e with
  | uart e =>
    obtain ⟨_, hstudying, ⟨rfl, hret, hresult, p, hp, hsys⟩ | ⟨_, hsys⟩⟩ := uartStep_cases hs
    · have hwatch : watchUnit m s (.uart .thread) t =
          ⟨m.came, m.handed ++ t.uart.uart.receiver.handed⟩ := if_pos hret
      have hlast : t.uart.uart.receiver.reception ∈ t.uart.uart.receiver.handed := by
        rw [Receiver.handed, if_pos hresult]
        exact List.mem_singleton.2 rfl
      rw [hwatch]
      refine h.append (receptionEvents t.uart.uart.receiver.config) ?_ ?_
        (fun r hr => List.mem_append_left _ hr) ?_
      · rw [subpackage_events hd hp, hsys]
      · exact receptionEvents_admitted hd (List.mem_append_right _ hlast)
      · rw [hstudying, hsys]
        exact h.dial
    · refine h.append [] ?_ (List.forall_mem_nil _) ?_ ?_
      · rw [hsys]
        rfl
      · intro r hr
        dsimp only [watchUnit]
        cases e with
        | thread =>
          dsimp only [watchWire]
          split
          · exact List.mem_append_left _ hr
          · exact hr
        | _ => exact hr
      · rw [hstudying, hsys]
        exact h.dial
  | study =>
    cases hs
    obtain ⟨fs, hfs, ha⟩ := studyThreadEntry_events config m.handed s.studying h.dial
    exact h.append fs hfs ha (fun _ hr => hr)
      fun _ => studyThreadEntry_mOrP config s.studying s.sys h.dial
  | timerOut =>
    cases hs
    refine h.append [.timerOut] run_singleton ?_ (fun _ hr => hr) ?_
    · rw [List.forall_mem_singleton]
      trivial
    · exact fun hst => (timerOut_mOrP _).trans (h.dial hst)
  | timeout =>
    cases hs
    refine h.append [.timeout] run_singleton ?_ (fun _ hr => hr) h.dial
    rw [List.forall_mem_singleton]
    trivial
  | lamps lamps =>
    cases hs
    refine h.append [.lamps lamps] run_singleton ?_ (fun _ hr => hr) h.dial
    rw [List.forall_mem_singleton]
    trivial
  | display =>
    cases hs
    refine h.append [.display] run_singleton ?_ (fun _ hr => hr) ?_
    · rw [List.forall_mem_singleton]
      trivial
    · exact fun hst => (congrArg Study.mOrP (display_study config s.sys)).trans (h.dial hst)

theorem run_embeds (h : run (observe (step config) watchUnit) (boot config, ⟨[], []⟩) es =
    some (s, m)) : Embeds config s m := by
  induction es using List.reverseRecOn generalizing s m with
  | nil =>
    cases h
    exact ⟨nofun, [], rfl, List.forall_mem_nil _⟩
  | append_singleton es e ih =>
    have hring := ring_dial (run_observe (run_uart h))
    obtain ⟨⟨u, k⟩, hu, hlast⟩ := run_append_eq_some.1 h
    rw [run_singleton] at hlast
    obtain ⟨hstep, hwatch⟩ := observe_eq_some.1 hlast
    rw [show m = watchUnit k u e s from hwatch]
    exact (ih hu).step hring hstep

def oneGreen : List FirmwareEvent :=
  .display :: RingUart.oneRecord.map .uart ++ [.display]

/-- A number is drawn only if it was announced: in a unit that communicates by a reception that was
handed on, and in one that learns by the learning thread that its dial selects. -/
theorem shown_number_has_source
    (h : run (observe (step config) watchUnit) (boot config, ⟨[], []⟩) es = some (s, m))
    (hdraw : .dispaly picture (Colour.code c) ∈ (displayStep config s.sys).2)
    (hreads : picture.reads = some k) :
    ∃ as e bs s', run (CountdownOutside.step config) .powerUp (as ++ e :: bs) = some s.sys ∧
      run (CountdownOutside.step config) .powerUp as = some s' ∧
      (∃ u ∈ writes config s' e, ∃ v, u.arm = some (c, v) ∧ k ≤ v.toNat) ∧
      (config.studyOrComm = 0 ∧ (∃ r ∈ m.handed, e.reception = some r) ∨
        config.studyOrComm = 1 ∧ (config.motorOrPeople = 1 ∧ e = .motorStduy ∨
          config.motorOrPeople = 0 ∧ e = .peopleStduy)) := by
  obtain ⟨fs, hfs, hadmits⟩ := (run_embeds h).system
  obtain ⟨v, ⟨as, e, bs, s', rfl, hs', u, hu, ha⟩, hk⟩ := drawn_was_announced hfs hdraw hreads
  refine ⟨as, e, bs, s', hfs, hs', ⟨u, hu, v, ha, hk⟩, ?_⟩
  have he := hadmits e (List.mem_append_right as List.mem_cons_self)
  cases e with
  | geLinWei b n => exact .inl ⟨he.1, _, he.2.2, rfl⟩
  | gat2014 b n => exact .inl ⟨he.1, _, he.2.2, rfl⟩
  | gat2004 b n => exact .inl ⟨he.1, _, he.2.2, rfl⟩
  | motorStduy => exact .inr ⟨he.1, .inl ⟨he.2, rfl⟩⟩
  | peopleStduy => exact .inr ⟨he.1, .inr ⟨he.2, rfl⟩⟩
  | _ => cases hu

theorem shown_number_has_source_green : ∃ (s : Firmware) (m : Wire),
    run (observe (step vehicleDial) watchUnit) (boot vehicleDial, ⟨[], []⟩) oneGreen =
      some (s, m) ∧
    .dispaly (.twoBit 2 1) (Colour.code .green) ∈ (displayStep vehicleDial s.sys).2 ∧
    ∃ as e bs s', run (CountdownOutside.step vehicleDial) .powerUp (as ++ e :: bs) = some s.sys ∧
      run (CountdownOutside.step vehicleDial) .powerUp as = some s' ∧
      (∃ u ∈ writes vehicleDial s' e, ∃ v, u.arm = some (.green, v) ∧ 12 ≤ v.toNat) ∧
      ∃ r ∈ m.handed, e.reception = some r := by
  have hany : (run (observe (step vehicleDial) watchUnit) (boot vehicleDial, ⟨[], []⟩)
      oneGreen).any fun p =>
        .dispaly (.twoBit 2 1) (Colour.code .green) ∈ (displayStep vehicleDial p.1.sys).2 := by
    decide +kernel
  obtain ⟨⟨s, m⟩, hs, hany⟩ := (Option.any_eq_true ..).1 hany
  have hdraw := of_decide_eq_true hany
  obtain ⟨as, e, bs, s', hfs, hs', hu, hsource⟩ := shown_number_has_source hs hdraw (k := 12) rfl
  refine ⟨s, m, hs, hdraw, as, e, bs, s', hfs, hs', hu, ?_⟩
  rcases hsource with ⟨_, hr⟩ | ⟨hlearns, _⟩
  · exact hr
  · exact absurd hlearns (by decide)

/-- The dial has the unit heed an event: a unit that communicates does not learn, and one that learns
does not listen. -/
def heeds (config : Config) : FirmwareEvent → Bool
  | .uart _ => config.studyOrComm = 0
  | .study => config.studyOrComm = 1
  | .timerOut => config.studyOrComm = 1
  | _ => true

/-- Two units whose countdowns and panels are the same, and what moves them. -/
structure Same (config : Config) (s t : Firmware) : Prop where
  sys : { s.sys with study := .zero } = { t.sys with study := .zero }
  uart : config.studyOrComm = 0 → s.uart = t.uart
  study : config.studyOrComm = 1 → s.sys.study = t.sys.study ∧ s.studying = t.studying

theorem Same.symm (h : Same config s t) : Same config t s where
  sys := h.sys.symm
  uart := fun hc => (h.uart hc).symm
  study := fun hc => ⟨(h.study hc).1.symm, (h.study hc).2.symm⟩

theorem showNumber_setStudy (s : Sys) (study : Study) (c : Colour) :
    ({ s with study } : Sys).showNumber c =
      ({ (s.showNumber c).1 with study }, (s.showNumber c).2) := by
  rw [Sys.showNumber, Sys.showNumber]
  split_ifs <;> rfl

theorem showColour_setStudy (s : Sys) (study : Study) (c : Colour) :
    ({ s with study } : Sys).showColour c =
      ({ (s.showColour c).1 with study }, (s.showColour c).2) := by
  rw [Sys.showColour, Sys.showColour]
  split_ifs
  · rfl
  · exact showNumber_setStudy s study c

theorem showMode_setStudy (s : Sys) (study : Study) :
    ({ s with study } : Sys).showMode = ({ s.showMode.1 with study }, s.showMode.2) := by
  rw [Sys.showMode, Sys.showMode]
  split_ifs <;> rfl

theorem rtHwCountdown_setStudy (config : Config) (s : Sys) (study : Study) :
    rtHwCountdown config { s with study } =
      ({ (rtHwCountdown config s).1 with study }, (rtHwCountdown config s).2) := by
  rw [rtHwCountdown, rtHwCountdown]
  dsimp only
  split_ifs
  all_goals first
    | exact showColour_setStudy { s with
        lightFlg := lightChanged config s.lamps, countdownType := s.countdown.type } study _
    | exact showMode_setStudy { s with lightFlg := lightChanged config s.lamps } study
    | rfl

theorem displayStep_setStudy (config : Config) (s : Sys) (study : Study) :
    displayStep config { s with study } =
      ({ (displayStep config s).1 with study }, (displayStep config s).2) := by
  obtain ⟨countdown, countdownType, lightFlg, pc, lamps, learnt, info, panel⟩ := s
  cases pc with
  | entry =>
    exact rtHwCountdown_setStudy config
      ⟨countdown, countdownType, lightFlg, .entry, lamps, learnt, info, panel⟩ study
  | load c =>
    exact showNumber_setStudy
      ⟨countdown.load c, countdownType, lightFlg, .load c, lamps, learnt, info, panel⟩ study c
  | _ => rfl

theorem display_setStudy (config : Config) (s : Sys) (study : Study) :
    display config { s with study } = { display config s with study } :=
  congrArg (fun p : Sys × List PanelOp => ({ p.1 with panel := s.panel.run p.2 } : Sys))
    (displayStep_setStudy config s study)

theorem studyThreadEntry_setStudy (studying : Bool) (s : Sys) (hl : config.studyOrComm ≠ 1)
    (study : Study) : { studyThreadEntry config studying s with study } = { s with study } := by
  rw [studyThreadEntry, if_neg hl]
  split <;> rfl

theorem subpackage_unheard (hd : SameDial dial config) (hc : config.studyOrComm ≠ 0)
    (h : subpackage dial info cd = .ok p) : p = (info, cd) := by
  have hcomm : dial.studyOrComm ≠ 0 := by rwa [show dial.studyOrComm = config.studyOrComm by rw [hd]]
  rw [subpackage] at h
  simp only [callRcvParse, if_neg hcomm, ite_self] at h
  exact (Except.ok.inj h).symm

def Booted (config : Config) (s : Firmware) : Prop :=
  ∃ us, run RingUart.step (.boot config) us = some s.uart

theorem Booted.step (h : Booted config s) (hs : Firmware.step config s e = some t) :
    Booted config t := by
  obtain ⟨us, hus⟩ := h
  cases he : e.onUart with
  | none =>
    rw [Booted, step_uart hs he]
    exact ⟨us, hus⟩
  | some e' =>
    cases e with
    | uart e =>
      exact ⟨us ++ [e], run_append_eq_some.2 ⟨_, hus, run_singleton.trans (uartStep_cases hs).1⟩⟩
    | _ => cases he

theorem Booted.sameDial (h : Booted config s) : SameDial s.uart.uart.receiver.config config := by
  obtain ⟨us, hus⟩ := h
  exact ring_dial hus

theorem Same.skip (h : Same config s u) (hb : Booted config t) (he : heeds config e = false)
    (hs : Firmware.step config s e = some t) : Same config t u := by
  cases e with
  | uart e =>
    have hc : config.studyOrComm ≠ 0 := of_decide_eq_false he
    obtain ⟨_, hstudying, ⟨_, _, _, p, hp, hsys⟩ | ⟨_, hsys⟩⟩ := uartStep_cases hs
    · have hp := subpackage_unheard hb.sameDial hc hp
      have hsame : t.sys = s.sys := by rw [hsys, hp]
      refine ⟨?_, fun hz => absurd hz hc, ?_⟩
      · rw [hsame]
        exact h.sys
      · rw [hsame, hstudying]
        exact h.study
    · refine ⟨?_, fun hz => absurd hz hc, ?_⟩
      · rw [hsys]
        exact h.sys
      · rw [hsys, hstudying]
        exact h.study
  | study =>
    have hl : config.studyOrComm ≠ 1 := of_decide_eq_false he
    cases hs
    refine ⟨?_, h.uart, fun ho => absurd ho hl⟩
    rw [studyThreadEntry_setStudy s.studying s.sys hl]
    exact h.sys
  | timerOut =>
    have hl : config.studyOrComm ≠ 1 := of_decide_eq_false he
    cases hs
    exact ⟨h.sys, h.uart, fun ho => absurd ho hl⟩
  | _ => cases he

theorem sys_eq {a b : Sys} (h : { a with study := .zero } = { b with study := .zero }) :
    b = { a with study := b.study } := by
  have hb : b = { { b with study := .zero } with study := b.study } := rfl
  rw [hb, ← h]

theorem Same.keep {s' t' : Firmware} (h : Same config s t) (he : heeds config e = true)
    (hs : Firmware.step config s e = some s') (ht : Firmware.step config t e = some t') :
    Same config s' t' := by
  obtain ⟨uart, sys, studying⟩ := t
  obtain ⟨hsys, huart, hstudy⟩ := h
  dsimp only at hsys huart hstudy
  obtain ⟨study, rfl⟩ : ∃ study, sys = { s.sys with study } := ⟨_, sys_eq hsys⟩
  cases e with
  | uart e =>
    have hc : config.studyOrComm = 0 := of_decide_eq_true he
    obtain rfl := huart hc
    have hl : config.studyOrComm ≠ 1 := by
      rw [hc]
      decide
    obtain ⟨hu, _, hcase⟩ := uartStep_cases hs
    obtain ⟨hu', _, hcase'⟩ := uartStep_cases ht
    have hsame : s'.uart = t'.uart := Option.some.inj (hu.symm.trans hu')
    rw [← hsame] at hcase'
    refine ⟨?_, fun _ => hsame, fun ho => absurd ho hl⟩
    rcases hcase with ⟨h1, h2, h3, p, hp, hs1⟩ | ⟨hno, hs1⟩
    · rcases hcase' with ⟨_, _, _, q, hq, ht1⟩ | ⟨hno, _⟩
      · obtain rfl : p = q := Except.ok.inj (hp.symm.trans hq)
        rw [hs1, ht1]
      · exact absurd ⟨h1, h2, h3⟩ hno
    · rcases hcase' with ⟨h1, h2, h3, _⟩ | ⟨_, ht1⟩
      · exact absurd ⟨h1, h2, h3⟩ hno
      · rw [hs1, ht1]
  | study =>
    have hl : config.studyOrComm = 1 := of_decide_eq_true he
    have hst : s.sys.study = study := (hstudy hl).1
    obtain rfl := (hstudy hl).2
    subst hst
    cases hs
    cases ht
    exact ⟨rfl, huart, fun _ => ⟨rfl, rfl⟩⟩
  | timerOut =>
    have hl : config.studyOrComm = 1 := of_decide_eq_true he
    have hst : s.sys.study = study := (hstudy hl).1
    obtain rfl := (hstudy hl).2
    subst hst
    cases hs
    cases ht
    exact ⟨rfl, huart, fun _ => ⟨rfl, rfl⟩⟩
  | timeout =>
    cases hs
    cases ht
    exact ⟨rfl, huart, hstudy⟩
  | lamps lamps =>
    cases hs
    cases ht
    exact ⟨rfl, huart, hstudy⟩
  | display =>
    cases hs
    cases ht
    have hd := display_setStudy config s.sys study
    refine ⟨(congrArg (fun a : Sys => { a with study := .zero }) hd).symm, huart, fun ho => ?_⟩
    obtain ⟨hst, hstudying⟩ := hstudy ho
    exact ⟨(display_study config s.sys).trans (hst.trans (congrArg Sys.study hd).symm), hstudying⟩

/-- What a unit shows, and all that leads to it, does not depend on what its dial has it ignore: a
unit that learns is deaf to its wire, and one that communicates to what was learnt. -/
theorem ignored_events_do_not_show (ha : run (step config) (boot config) es = some s)
    (hb : run (step config) (boot config) fs = some t)
    (h : es.filter (heeds config) = fs.filter (heeds config)) :
    { s.sys with study := .zero } = { t.sys with study := .zero } := by
  have hboot : Booted config (boot config) := ⟨[], rfl⟩
  have hsame : Same config (boot config) (boot config) := ⟨rfl, fun _ => rfl, fun _ => ⟨rfl, rfl⟩⟩
  have hr := run_unwinding (R := fun s t => Booted config s ∧ Booted config t ∧ Same config s t)
    (fun _ _ hr => ⟨hr.2.1, hr.1, hr.2.2.symm⟩)
    (fun _ _ e _ hr (he : heeds config e = false) hs =>
      ⟨hr.1.step hs, hr.2.1, hr.2.2.skip (hr.1.step hs) he hs⟩)
    (fun _ _ e _ _ hr (he : heeds config e = true) hs ht =>
      ⟨hr.1.step hs, hr.2.1.step ht, hr.2.2.keep he hs ht⟩)
    ⟨hboot, hboot, hsame⟩ ha hb h
  exact hr.2.2.sys

def learningDial : Config := { vehicleDial with studyOrComm := 1 }

theorem ignored_events_do_not_show_learning : ∃ s t : Firmware,
    run (step learningDial) (boot learningDial) oneGreen = some s ∧
    run (step learningDial) (boot learningDial) [.display, .display] = some t ∧
    { s.sys with study := .zero } = { t.sys with study := .zero } := by
  have hrun : (run (step learningDial) (boot learningDial) oneGreen).isSome := by decide +kernel
  have hdeaf : (run (step learningDial) (boot learningDial) [.display, .display]).isSome := by
    decide +kernel
  exact ⟨_, _, (Option.some_get hrun).symm, (Option.some_get hdeaf).symm,
    ignored_events_do_not_show (Option.some_get hrun).symm (Option.some_get hdeaf).symm
      (by decide +kernel)⟩

end Firmware

end CountdownOutside
