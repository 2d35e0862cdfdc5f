import CountdownOutside.Config

namespace CountdownOutside
set_option autoImplicit true

def muxDetection (dir : UInt8) : UInt8 :=
  if dir = 0xc1 ∨ dir = 0xc2 ∨ dir = 0xc3 then 0xc0 else dir

def m1m1 (keyB : UInt8) : UInt8 :=
  let high := keyB &&& 0xf0
  high ||| high >>> 4

def m2m2 (keyB : UInt8) : UInt8 :=
  let low := keyB &&& 0x0f
  low ||| low <<< 4

def pCat (keyB : UInt8) : UInt8 := (m1m1 keyB &&& 0x0f) % 8

def qCat (keyB : UInt8) : UInt8 := (m2m2 keyB &&& 0x0f) % 8

/-- Where `P'` stands in the frame; `sig_data_len` is a byte and wraps for a short frame. -/
def pPos (bufLen keyB : UInt8) : UInt8 :=
  let sigDataLen := bufLen - 9
  if (sigDataLen.toNat : Int) - (qCat keyB).toNat > (pCat keyB).toNat then pCat keyB + 7
  else pCat keyB + 8

def qPos (bufLen keyB : UInt8) : Int := (bufLen.toNat : Int) - 2 - (qCat keyB).toNat

/-- `for(jj = 7;jj < buf_len-1;jj++)`: copy what is neither `P'` nor `Q'`. -/
def strip (encData : Buffer 128) (pPos : UInt8) (qPos : Int) :
    List Nat → UInt8 → Buffer 128 → Except Fault (UInt8 × Buffer 128)
  | [], sigCat, encDataT => .ok (sigCat, encDataT)
  | jj :: rest, sigCat, encDataT =>
    if pPos.toNat ≠ jj ∧ qPos ≠ jj then do
      let b ← encData.read jj
      let encDataT ← encDataT.write sigCat.toNat b
      strip encData pPos qPos rest (sigCat + 1) encDataT
    else strip encData pPos qPos rest sigCat encDataT

/-- `for(hh = 0;hh < sig_cat;hh++)` with the number of rounds left. -/
def decrypt (encDataT : Buffer 128) (keyC : UInt8) :
    Nat → UInt8 → Buffer 128 → Except Fault (UInt8 × Buffer 128)
  | 0, hh, orgData => .ok (hh, orgData)
  | n + 1, hh, orgData => do
    let b ← encDataT.read hh.toNat
    let orgData ← orgData.write hh.toNat (b ^^^ keyC)
    decrypt encDataT keyC n (hh + 1) orgData

/-- The decode stage of `parse`: `sig_cat`, `hh` and the plaintext in `org_data`. -/
def parseDecode (bufLen : UInt8) (encData orgData : Buffer 128) :
    Except Fault (UInt8 × UInt8 × Buffer 128) := do
  let keyB ← encData.read ((6 : Nat) : Int)
  let p ← encData.read (pPos bufLen keyB).toNat
  let q ← encData.read (qPos bufLen keyB)
  let pp := p ^^^ m1m1 keyB
  let qq := q ^^^ m2m2 keyB
  let keyC := ((pp &&& 0x0f) <<< 4) ||| ((qq &&& 0xf0) >>> 4)
  let (sigCat, encDataT) ← strip encData (pPos bufLen keyB) (qPos bufLen keyB)
    (List.range' 7 (bufLen.toNat - 1 - 7)) 0 (.zero 128)
  let (hh, orgData) ← decrypt encDataT keyC sigCat.toNat 0 orgData
  return (sigCat, hh, orgData)

/-- `parse` up to the message fields; `none` for a frame it does not take. -/
def parseMessage (config : Config) (info : GelinweiInfo) :
    Except Fault (Option (UInt8 × UInt8 × GelinweiInfo)) := do
  let bufLen := config.rxCounter.toUInt8
  let l ← config.rxBuffer.read ((4 : Nat) : Int)
  if (l.toNat : Int) = bufLen.toNat - 5 then
    let encData ← (Buffer.zero 128).copy config.rxBuffer 0 config.rxCounter.toNat
    let _ ← config.rxBuffer.fill 0 config.rxCounter.toNat
    let command ← encData.read ((5 : Nat) : Int)
    if command = 0x7e then
      let (sigCat, hh, orgData) ← parseDecode bufLen encData info.orgData
      let dir ← orgData.read ((0 : Nat) : Int)
      let cmd ← orgData.read ((1 : Nat) : Int)
      let countdownType ← orgData.read ((2 : Nat) : Int)
      let reflashFlag ← orgData.read ((3 : Nat) : Int)
      return some (sigCat, hh, { info with orgData, dir, cmd, countdownType, reflashFlag })
    else return none
  else return none

def parseRefresh (info : GelinweiInfo) (countdown : Countdown) : Countdown :=
  if info.reflashFlag = 0x05 then
    { countdown with curTmp := (info.dataH.toUInt16 <<< 8) ||| info.dataL.toUInt16 }
  else countdown

def parseColor (info : GelinweiInfo) (countdown : Countdown) : Countdown :=
  if info.color = 0xd1 then
    { countdown with
      curNumG := countdown.curTmp, flagG := 1, modeG := 1, curMode := greenMode }
  else if info.color = 0xd3 then
    { countdown with curNumR := countdown.curTmp, flagR := 1, modeR := 1, curMode := redMode }
  else if info.color = 0xd2 then
    { countdown with
      curNumY := countdown.curTmp, flagY := 1, modeY := 1, curMode := yellowMode }
  else if info.color = 0xd0 then { countdown with curMode := blackMode }
  else countdown

def parseCmd (info : GelinweiInfo) (countdown : Countdown) : Countdown :=
  if info.cmd = 1 then { countdown with curMode := blackMode }
  else if info.cmd = 2 then { countdown with curMode := hMode }
  else countdown

def parseType (info : GelinweiInfo) (countdown : Countdown) : Countdown :=
  if info.countdownType = 0x7c then { countdown with type := 0 }
  else if info.countdownType = 0x7d then { countdown with type := 1 }
  else countdown

def parseStore (info : GelinweiInfo) (countdown : Countdown) : Countdown :=
  parseType info (parseCmd info (parseColor info (parseRefresh info countdown)))

/-- The fields `parse` reads from the record at `mm`; `data_h` is a byte. -/
def parseRecord (info : GelinweiInfo) (mm : UInt8) : Except Fault GelinweiInfo := do
  let addr ← info.orgData.read ((mm.toNat + 4 : Nat) : Int)
  let hi ← info.orgData.read ((mm.toNat + 4 + 2 : Nat) : Int)
  let lo ← info.orgData.read ((mm.toNat + 4 + 3 : Nat) : Int)
  let color ← info.orgData.read ((mm.toNat + 4 + 1 : Nat) : Int)
  return { info with
    addr, color
    dataH := UInt8.ofNat (((hi &&& 0xf0) >>> 4).toNat * 1000 + (hi &&& 0x0f).toNat * 100)
    dataL := UInt8.ofNat (((lo &&& 0xf0) >>> 4).toNat * 10 + (lo &&& 0x0f).toNat) }

def parseSearch (rd : Int → Except Fault UInt8) (dir dirMux hh : UInt8) (fuel : Nat) :
    Except Fault (Option UInt8) :=
  scan (fun mm => do
      let addr ← rd ((mm.toNat + 4 : Nat) : Int)
      return dir == addr || dirMux == addr)
    (fun mm => mm + 4) (fun mm => decide (mm > hh)) fuel 0

def parse (config : Config) (info : GelinweiInfo) (countdown : Countdown) :
    Except Fault (GelinweiInfo × Countdown) := do
  match ← parseMessage config info with
  | none => return (info, countdown)
  | some (_, hh, info) =>
    let dir := config.singalDirection
    let dirMux := muxDetection config.singalDirection
    if config.countdownDirection = info.dir then
      match ← parseSearch info.orgData.read dir dirMux hh 256 with
      | none => return (.zero, countdown)
      | some mm =>
        let info ← parseRecord info mm
        return (.zero, parseStore info countdown)
    else return (.zero, countdown)

/-- The test for `2c 2c 2c 2c`, which reads no further than the first byte that differs. -/
def headerAt (rxBuf : Buffer 512) : Nat → Nat → Except Fault Bool
  | 0, _ => .ok true
  | n + 1, i => do
    let b ← rxBuf.read i
    if b = 0x2c then headerAt rxBuf n (i + 1) else return false

/-- `if(rx_len-loop_i>9)` guards the assignment of `rx_counter` and nothing else. -/
def geLinWeiCounter (rxBuf : Buffer 512) (rxLen : UInt16) (loopI : Nat) (config : Config) :
    Except Fault Config := do
  if (rxLen.toNat : Int) - loopI > 9 then
    let l ← rxBuf.read ((loopI + 4 : Nat) : Int)
    return { config with rxCounter := UInt16.ofNat (l.toNat + 5) }
  else return config

/-- The `config` that `ge_lin_wei_parse` passes to `parse` for the header at `loop_i`. -/
def geLinWeiCall (rxBuf : Buffer 512) (rxLen : UInt16) (loopI : Nat) (config : Config) :
    Except Fault Config := do
  let config ← geLinWeiCounter rxBuf rxLen loopI config
  let rxBuffer ← config.rxBuffer.copy rxBuf loopI config.rxCounter.toNat
  return { config with rxBuffer }

def geLinWeiStep (rxBuf : Buffer 512) (rxLen : UInt16)
    (s : Config × GelinweiInfo × Countdown) (loopI : Nat) :
    Except Fault (Config × GelinweiInfo × Countdown) := do
  if ← headerAt rxBuf 4 loopI then
    let config ← geLinWeiCall rxBuf rxLen loopI s.1
    let (info, countdown) ← parse config s.2.1 s.2.2
    return (config, info, countdown)
  else return s

def geLinWeiRounds (config : Config) (info : GelinweiInfo) (countdown : Countdown) (loopI : Nat) :
    Except Fault (Config × GelinweiInfo × Countdown) := do
  let rxBuf ← (Buffer.zero 512).copy config.rxBuffer 0 config.rxCounter.toNat
  let rxLen := config.rxCounter
  let rxBuffer ← config.rxBuffer.fill 0 config.rxCounter.toNat
  (List.range loopI).foldlM (geLinWeiStep rxBuf rxLen) ({ config with rxBuffer }, info, countdown)

def geLinWeiCallAt (config : Config) (info : GelinweiInfo) (countdown : Countdown) (loopI : Nat) :
    Except Fault (Config × GelinweiInfo × Countdown) := do
  let rxBuf ← (Buffer.zero 512).copy config.rxBuffer 0 config.rxCounter.toNat
  let s ← geLinWeiRounds config info countdown loopI
  let config ← geLinWeiCall rxBuf config.rxCounter loopI s.1
  return (config, s.2)

def geLinWeiParse (config : Config) (info : GelinweiInfo) (countdown : Countdown) :
    Except Fault (GelinweiInfo × Countdown) := do
  let s ← geLinWeiRounds config info countdown config.rxCounter.toNat
  return s.2

end CountdownOutside
