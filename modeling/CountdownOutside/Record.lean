import CountdownOutside.Obfuscation

namespace CountdownOutside
set_option autoImplicit true

namespace GelinweiInfo

def withRecord (info : GelinweiInfo) (k : Nat) : GelinweiInfo :=
  let hi := info.orgData.get (4 * k + 4 + 2)
  let lo := info.orgData.get (4 * k + 4 + 3)
  { info with
    addr := info.orgData.get (4 * k + 4)
    color := info.orgData.get (4 * k + 4 + 1)
    dataH := UInt8.ofNat (((hi &&& 0xf0) >>> 4).toNat * 1000 + (hi &&& 0x0f).toNat * 100)
    dataL := UInt8.ofNat (((lo &&& 0xf0) >>> 4).toNat * 10 + (lo &&& 0x0f).toNat) }

def number (info : GelinweiInfo) : UInt16 :=
  (info.dataH.toUInt16 <<< 8) ||| info.dataL.toUInt16

def colour (info : GelinweiInfo) : Option Colour :=
  if info.color = 0xd1 then some .green
  else if info.color = 0xd3 then some .red
  else if info.color = 0xd2 then some .yellow
  else none

/-- What a record stores; the number of a colour is the last refreshed one. -/
def update (info : GelinweiInfo) (curTmp : UInt16) : Update where
  tmp := if info.reflashFlag = 0x05 then some info.number else none
  arm := info.colour.map fun c =>
    (c, if info.reflashFlag = 0x05 then info.number else curTmp)
  curMode :=
    if info.cmd = 1 then some blackMode
    else if info.cmd = 2 then some hMode
    else if info.color = 0xd0 then some blackMode
    else info.colour.map Colour.code
  type :=
    if info.countdownType = 0x7c then some 0
    else if info.countdownType = 0x7d then some 1
    else none
  blind := none
  test := none

end GelinweiInfo

theorem parseRefresh_eq (info : GelinweiInfo) (cd : Countdown) :
    parseRefresh info cd =
      { cd with curTmp := if info.reflashFlag = 0x05 then info.number else cd.curTmp } := by
  rw [parseRefresh]
  split <;> rfl

theorem parseColor_eq (info : GelinweiInfo) (cd : Countdown) :
    parseColor info cd =
      { (info.colour.elim cd fun c => cd.arm c cd.curTmp) with
        curMode := (if info.color = 0xd0 then some blackMode
          else info.colour.map Colour.code).getD cd.curMode } := by
  rw [parseColor, GelinweiInfo.colour]
  split
  · rename_i h
    rw [if_neg (by rw [h]; decide)]
    rfl
  split
  · rename_i h
    rw [if_neg (by rw [h]; decide)]
    rfl
  split
  · rename_i h
    rw [if_neg (by rw [h]; decide)]
    rfl
  split <;> rfl

theorem parseCmd_eq (info : GelinweiInfo) (cd : Countdown) :
    parseCmd info cd =
      { cd with
        curMode := if info.cmd = 1 then blackMode else if info.cmd = 2 then hMode
          else cd.curMode } := by
  rw [parseCmd]
  split
  · rfl
  · split <;> rfl

theorem parseType_eq (info : GelinweiInfo) (cd : Countdown) :
    parseType info cd =
      { cd with
        type := (if info.countdownType = 0x7c then some 0
          else if info.countdownType = 0x7d then some 1 else none : Option UInt8).getD cd.type } := by
  rw [parseType]
  split
  · rfl
  · split <;> rfl

theorem parseStore_eq (info : GelinweiInfo) (cd : Countdown) :
    parseStore info cd = (info.update cd.curTmp).apply cd := by
  rw [parseStore, parseRefresh_eq, parseColor_eq, parseCmd_eq, parseType_eq, Update.apply,
    GelinweiInfo.update, Update.armed]
  have htmp : (if info.reflashFlag = 0x05 then some info.number else none).getD cd.curTmp =
      if info.reflashFlag = 0x05 then info.number else cd.curTmp := by
    split <;> rfl
  have hmode (a : Option UInt8) :
      (if info.cmd = 1 then some blackMode else if info.cmd = 2 then some hMode else a).getD
        cd.curMode =
        if info.cmd = 1 then blackMode else if info.cmd = 2 then hMode
          else a.getD cd.curMode := by
    split
    · rfl
    · split <;> rfl
  dsimp only
  rw [htmp, hmode]
  cases info.colour with
  | none => rfl
  | some c => cases c <;> rfl

def firstRecord (org : Buffer 128) (singal : UInt8) (n : Nat) : Option Nat :=
  (List.range n).find? fun k =>
    singal == org.get (4 * k + 4) || muxDetection singal == org.get (4 * k + 4)

theorem parseSearch_ok (org : Buffer 128) (hn : n ≤ 120) :
    parseSearch org.read d (muxDetection d) (UInt8.ofNat n) 256 =
      .ok ((firstRecord org d (n / 4 + 1)).map fun k => UInt8.ofNat (4 * k)) := by
  have hhh : (UInt8.ofNat n).toNat = n := by
    rw [UInt8.toNat_ofNat']
    omega
  apply scan_stride (w := 4)
  · omega
  · intro k mm hmm hk
    rw [hmm, org.read_of_lt (by omega)]
    rfl
  · intro k mm hmm hk
    rw [decide_eq_false_iff_not, gt_iff_lt, UInt8.lt_iff_toNat_lt, hhh, hmm]
    omega
  · intro mm hmm
    rw [decide_eq_true_eq, gt_iff_lt, UInt8.lt_iff_toNat_lt, hhh, hmm]
    omega
  · omega

theorem parseRecord_ok (info : GelinweiInfo) (hk : 4 * k ≤ 120) :
    parseRecord info (UInt8.ofNat (4 * k)) = .ok (info.withRecord k) := by
  have hmm : (UInt8.ofNat (4 * k)).toNat = 4 * k :=
    UInt8.toNat_ofNat_of_lt' (Nat.lt_of_le_of_lt hk (by decide))
  rw [parseRecord, hmm, info.orgData.read_of_lt (by omega), ok_bind,
    info.orgData.read_of_lt (by omega), ok_bind, info.orgData.read_of_lt (by omega), ok_bind,
    info.orgData.read_of_lt (by omega), ok_bind]
  rfl

def messageAct (config : Config) (info : GelinweiInfo) (n : Nat) (cd : Countdown) : Countdown :=
  if config.countdownDirection = info.dir then
    match firstRecord info.orgData config.singalDirection (n / 4 + 1) with
    | some k => ((info.withRecord k).update cd.curTmp).apply cd
    | none => cd
  else cd

section Act

variable {config : Config} {info : GelinweiInfo} (cd : Countdown)

theorem messageAct_other (hd : config.countdownDirection ≠ info.dir) :
    messageAct config info n cd = cd := by rw [messageAct, if_neg hd]

theorem messageAct_none (hd : config.countdownDirection = info.dir)
    (hf : firstRecord info.orgData config.singalDirection (n / 4 + 1) = none) :
    messageAct config info n cd = cd := by rw [messageAct, if_pos hd, hf]

theorem messageAct_some (hd : config.countdownDirection = info.dir)
    (hf : firstRecord info.orgData config.singalDirection (n / 4 + 1) = some k) :
    messageAct config info n cd = ((info.withRecord k).update cd.curTmp).apply cd := by
  rw [messageAct, if_pos hd, hf]

end Act

theorem parse_taken {config : Config} (h : config.Received f) (hl : f.length ≤ 128)
    (ht : Frame.Taken f) (hq : 0 ≤ Frame.qAt f) (info : GelinweiInfo) :
    ∃ org : Buffer 128, (∀ i, org.get i = if i < (Frame.message f).length then
        (Frame.message f).getD i 0 else info.orgData.get i) ∧
      ∀ cd, parse config info cd =
        .ok (.zero, messageAct config (info.withMessage org) (Frame.message f).length cd) := by
  obtain ⟨org, hp, hg⟩ := parseMessage_taken h hl ht hq info
  have hn := Frame.length_message_le f
  refine ⟨org, hg, ?_⟩
  intro cd
  rw [parse, hp, ok_bind]
  by_cases hd : config.countdownDirection = (info.withMessage org).dir
  · have hs := parseSearch_ok (d := config.singalDirection) org
      (n := (Frame.message f).length) (by omega)
    change parseSearch (info.withMessage org).orgData.read _ _ _ _ = _ at hs
    simp only [if_pos hd, hs, ok_bind]
    cases hf : firstRecord org config.singalDirection ((Frame.message f).length / 4 + 1) with
    | none =>
      rw [messageAct_none cd hd hf]
      rfl
    | some k =>
      have hk := (find_range_some hf).1
      have hr := parseRecord_ok (info.withMessage org) (k := k) (by omega)
      rw [messageAct_some cd hd hf]
      simp only [Option.map_some, hr, ok_bind, parseStore_eq]
      rfl
  · rw [messageAct_other cd hd]
    simp only [if_neg hd]
    rfl

theorem parse_not_taken {config : Config} (h : config.Received f) (hl : f.length ≤ 128)
    (ht : ¬ Frame.Taken f) (info : GelinweiInfo) (cd : Countdown) :
    parse config info cd = .ok (info, cd) := by
  rw [parse, parseMessage_not_taken h hl ht info]
  rfl

end CountdownOutside
