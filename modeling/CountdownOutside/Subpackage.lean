import CountdownOutside.Receive
import CountdownOutside.System

namespace CountdownOutside
set_option autoImplicit true

/-- `call_rcv_parse`: only a unit that communicates hands its reception to a parser. -/
def callRcvParse (callfuct : Config → GelinweiInfo → Countdown →
    Except Fault (GelinweiInfo × Countdown)) (config : Config) (info : GelinweiInfo)
    (countdown : Countdown) : Except Fault (GelinweiInfo × Countdown) :=
  if config.studyOrComm = 0 then callfuct config info countdown else .ok (info, countdown)

def subpackage (config : Config) (info : GelinweiInfo) (countdown : Countdown) :
    Except Fault (GelinweiInfo × Countdown) :=
  if config.protocol = 1 then callRcvParse geLinWeiParse config info countdown
  else if config.rxBuffer.get 0 = 0x55 ∧ config.rxBuffer.get 1 = 0xaa then
    callRcvParse (fun config info countdown =>
      (gat2014Parse config countdown).map fun countdown => (info, countdown)) config info countdown
  else if config.rxBuffer.get 0 = 0xfe then
    callRcvParse (fun config info countdown =>
      (gat2004Parse config countdown).map fun countdown => (info, countdown)) config info countdown
  else .ok (info, countdown)

/-- A `gelinwei_info` that any receptions, under any dials, have left since the start. -/
inductive Leftover : GelinweiInfo → Prop
  | start : Leftover .zero
  | reception (h : Leftover info) (hs : subpackage config info cd = .ok p) : Leftover p.1

variable {a b config : Config} {info : GelinweiInfo} {s : Sys} {r : List UInt8}

theorem callRcvParse_clears {callfuct : Config → GelinweiInfo → Countdown →
    Except Fault (GelinweiInfo × Countdown)}
    (hc : callfuct config .zero cd = .ok p → p.1 = .zero)
    (h : callRcvParse callfuct config .zero cd = .ok p) : p.1 = .zero := by
  rw [callRcvParse] at h
  split at h
  · exact hc h
  · cases h
    rfl

theorem map_eq_ok {x : Except Fault Countdown}
    (h : (x.map fun countdown => (info, countdown)) = .ok p) :
    ∃ cd, x = .ok cd ∧ (info, cd) = p := by
  cases x with
  | error e => cases h
  | ok cd => exact ⟨cd, rfl, Except.ok.inj h⟩

theorem map_clears {x : Except Fault Countdown}
    (h : (x.map fun countdown => (info, countdown)) = .ok p) : p.1 = info := by
  obtain ⟨_, _, rfl⟩ := map_eq_ok h
  rfl

/-- A reception leaves `gelinwei_info` cleared if it was. -/
theorem subpackage_clears (h : subpackage config .zero cd = .ok p) : p.1 = .zero := by
  rw [subpackage] at h
  split at h
  · refine callRcvParse_clears ?_ h
    intro hp
    have henabled : geLinWeiParse (config.receiving config.rxBuffer config.rxCounter) .zero cd =
        .ok p := hp
    rw [geLinWeiParse_enabled henabled]
  · split at h
    · exact callRcvParse_clears map_clears h
    · split at h
      · exact callRcvParse_clears map_clears h
      · cases h
        rfl

theorem Leftover.clean (h : Leftover info) : info = .zero := by
  induction h with
  | start => rfl
  | reception h hs ih =>
    rw [ih] at hs
    exact subpackage_clears hs

theorem SameDial.writes (h : SameDial a b) (r : List UInt8) (n : Nat) (cd : Countdown) :
    Stream.writes a r n cd = Stream.writes b r n cd := by
  induction n with
  | zero => rfl
  | succ n ih => simp only [Stream.writes, ih, h.update]

section TwoRuns

variable (ha : a.Received r) (hb : b.Received r) (hd : SameDial a b)
include ha hb hd

theorem geLinWei_agrees (cd : Countdown) :
    geLinWeiParse a .zero cd = geLinWeiParse b .zero cd := by
  by_cases hin : Stream.InBounds r
  · rw [Stream.parse_writes ha hin, Stream.parse_writes hb hin, hd.writes]
  · have hfa := not_not.1 (mt (Stream.parse_in_bounds_iff ha .zero cd).1 hin)
    have hfb := not_not.1 (mt (Stream.parse_in_bounds_iff hb .zero cd).1 hin)
    rw [hfa, hfb]

theorem gat2004_agrees (cd : Countdown) : gat2004Parse a cd = gat2004Parse b cd := by
  have hc : a.countdownChannel = b.countdownChannel := by rw [hd]
  by_cases hin : Gat2004.InBounds r a.countdownChannel
  · rw [Gat2004.parse_eq ha hin, Gat2004.parse_eq hb (hc ▸ hin), hc]
  · rw [Gat2004.parse_fault ha hin, Gat2004.parse_fault hb (hc ▸ hin)]

theorem gat2014_agrees (cd : Countdown) : gat2014Parse a cd = gat2014Parse b cd := by
  have hc : a.countdownChannel = b.countdownChannel := by rw [hd]
  by_cases hin : Gat2014.InBounds r a.countdownChannel
  · rw [Gat2014.parse_eq ha hin, Gat2014.parse_eq hb (hc ▸ hin), hc]
  · rw [Gat2014.parse_fault ha hin, Gat2014.parse_fault hb (hc ▸ hin)]

end TwoRuns

theorem gat2014_single (h : config.Received [x]) (cd : Countdown) :
    gat2014Parse config cd = .ok cd := by
  have hv : ¬ Gat2014.Valid [x] := by
    intro hv
    have hn := hv.1
    simp only [List.length_singleton] at hn
    omega
  have hl : [x].length ≤ 126 := Nat.le_of_ble_eq_true rfl
  rw [Gat2014.parse_eq h (Gat2014.inBounds_of_le hl), if_neg hv]

/-- Of a single byte only the first byte of the buffer decides what is called. -/
theorem subpackage_single (h : config.Received [x]) (hp : config.protocol ≠ 1) (cd : Countdown) :
    subpackage config info cd = if x = 0xfe ∧ config.studyOrComm = 0 then
      (gat2004Parse config cd).map fun countdown => (info, countdown) else .ok (info, cd) := by
  have h0 : config.rxBuffer.get 0 = x := h.get Nat.one_pos
  rw [subpackage, if_neg hp, h0]
  by_cases h55 : x = 0x55 ∧ config.rxBuffer.get 1 = 0xaa
  · have hfe : ¬ (x = 0xfe ∧ config.studyOrComm = 0) := by
      rintro ⟨hfe, _⟩
      cases h55.1.symm.trans hfe
    rw [if_pos h55, if_neg hfe, callRcvParse, gat2014_single h]
    exact ite_self _
  · rw [if_neg h55]
    by_cases hfe : x = 0xfe
    · simp only [hfe, true_and, ↓reduceIte, callRcvParse]
    · rw [if_neg hfe, if_neg (fun hc => hfe hc.1)]

/-- The reception decides what the units with the same dial do with it; bytes left behind it do
not, and `gelinwei_info` is cleared again. -/
theorem receptions_do_not_leak (ha : a.Received r) (hb : b.Received r) (hd : SameDial a b)
    (hr : r ≠ []) (hi : Leftover i) (hj : Leftover j) (cd : Countdown) :
    subpackage a i cd = subpackage b j cd ∧
      ∀ p, subpackage a i cd = .ok p → p.1 = .zero := by
  rw [hi.clean, hj.clean]
  refine ⟨?_, fun p => subpackage_clears⟩
  have hstudy : a.studyOrComm = b.studyOrComm := by rw [hd]
  have hprotocol : a.protocol = b.protocol := by rw [hd]
  by_cases hp : b.protocol = 1
  · rw [subpackage, subpackage, hprotocol, if_pos hp, if_pos hp, callRcvParse, callRcvParse,
      hstudy, geLinWei_agrees ha hb hd]
  · cases r with
    | nil => exact absurd rfl hr
    | cons x r =>
      cases r with
      | nil =>
        rw [subpackage_single ha (hprotocol ▸ hp), subpackage_single hb hp, hstudy,
          gat2004_agrees ha hb hd]
      | cons y r =>
        have hget {config : Config} (h : config.Received (x :: y :: r)) :
            config.rxBuffer.get 0 = x ∧ config.rxBuffer.get 1 = y :=
          ⟨h.get (Nat.succ_pos _), h.get (Nat.succ_lt_succ (Nat.succ_pos _))⟩
        simp only [subpackage, callRcvParse, hprotocol, hstudy, (hget ha).1, (hget ha).2,
          (hget hb).1, (hget hb).2, gat2004_agrees ha hb hd, gat2014_agrees ha hb hd, if_neg hp]

theorem receptions_do_not_leak_green :
    subpackage (Config.zero.receive [0xfe, 0x05, 0x00, 0x12, 0x17]) .zero .zero =
      subpackage ({ Config.zero with
        rxBuffer := .ofList 512 [0xfe, 0x05, 0x00, 0x12, 0x17, 0xaa, 0x2c], rxCounter := 5 } :
          Config) .zero .zero := by
  have hb : ({ Config.zero with
      rxBuffer := .ofList 512 [0xfe, 0x05, 0x00, 0x12, 0x17, 0xaa, 0x2c], rxCounter := 5 } :
        Config).Received [0xfe, 0x05, 0x00, 0x12, 0x17] :=
    ⟨rfl, (List.prefix_append _ [0xaa, 0x2c]).trans (Buffer.ofList_begins (by decide))⟩
  exact (receptions_do_not_leak (Config.receive_received _ (by decide)) hb rfl
    (List.cons_ne_nil _ _) .start .start .zero).1

/-- The parsers of the national standards stay in their local buffers exactly on the receptions that
are in bounds for them. -/
theorem standards_in_bounds_iff (h : config.Received r) (cd : Countdown) :
    (gat2004Parse config cd ≠ .error .outOfBounds ↔
      Gat2004.InBounds r config.countdownChannel) ∧
    (gat2014Parse config cd ≠ .error .outOfBounds ↔
      Gat2014.InBounds r config.countdownChannel) := by
  refine ⟨⟨?_, ?_⟩, ?_, ?_⟩
  · intro hne
    by_contra hin
    exact hne (Gat2004.parse_fault h hin cd)
  · intro hin
    rw [Gat2004.parse_eq h hin]
    intro he
    cases he
  · intro hne
    by_contra hin
    exact hne (Gat2014.parse_fault h hin cd)
  · intro hin
    rw [Gat2014.parse_eq h hin]
    intro he
    cases he

theorem standards_in_bounds_iff_green :
    gat2004Parse (Config.zero.receive [0xfe, 0x05, 0x00, 0x12, 0x17]) .zero ≠ .error .outOfBounds :=
  (standards_in_bounds_iff (Config.receive_received _ (by decide)) .zero).1.2 (by decide)

/-- A reception of 129 bytes is copied past the end of either local buffer. -/
theorem standards_long_fault :
    gat2004Parse (Config.zero.receive (0xfe :: List.replicate 128 0)) .zero =
        .error .outOfBounds ∧
      gat2014Parse (Config.zero.receive (0x55 :: 0xaa :: List.replicate 127 0)) .zero =
        .error .outOfBounds := by
  decide +kernel

end CountdownOutside
