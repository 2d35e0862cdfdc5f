import CountdownOutside.Agenda
import CountdownOutside.Simulation

namespace CountdownOutside
set_option autoImplicit true

/-- A hard timer whose time-out function starts and stops no timers, as is the case for those of the
unit and of its threads. -/
structure Timer where
  timeoutTick : UInt32
  initTick : UInt32
  periodic : Bool
  activated : Bool
  deriving DecidableEq, Repr

def tickHalf : UInt32 := 0xffffffff / 2

inductive TimerControl
  | setTime (time : UInt32)
  | setOneshot
  | setPeriodic
  deriving DecidableEq, Repr

def Timer.control (t : Timer) : TimerControl → Timer
  | .setTime time => { t with initTick := time }
  | .setOneshot => { t with periodic := false }
  | .setPeriodic => { t with periodic := true }

/-- `rt_tick`, the timers, `rt_timer_list`, and whose time-out functions have been called so far. -/
structure Timers (ι : Type u) where
  tick : UInt32
  timer : ι → Timer
  list : List ι
  calls : List ι

/-- Where `rt_timer_start` puts a timer: behind those of the same time. -/
def place (timer : ι → Timer) (k : ι) : List ι → List ι
  | [] => [k]
  | t :: l =>
    if (timer t).timeoutTick - (timer k).timeoutTick = 0 then t :: place timer k l
    else if (timer t).timeoutTick - (timer k).timeoutTick < tickHalf then k :: t :: l
    else t :: place timer k l

namespace Timers

variable {ι : Type u} [DecidableEq ι]

def set (s : Timers ι) (k : ι) (t : Timer) : Timers ι :=
  { s with timer := Function.update s.timer k t }

def remove (s : Timers ι) (k : ι) : Timers ι := { s with list := s.list.erase k }

def deactivate (s : Timers ι) (k : ι) : Timers ι := s.set k { s.timer k with activated := false }

/-- `rt_timer_start`; a failed assertion stops everything. -/
def rtTimerStart (s : Timers ι) (k : ι) : Option (Timers ι) :=
  let s := (s.remove k).deactivate k
  if (s.timer k).initTick < tickHalf then
    let s := s.set k { s.timer k with timeoutTick := s.tick + (s.timer k).initTick }
    let s := { s with list := place s.timer k s.list }
    some (s.set k { s.timer k with activated := true })
  else none

def rtTimerStop (s : Timers ι) (k : ι) : Timers ι :=
  if (s.timer k).activated = true then (s.remove k).deactivate k else s

def fire (s : Timers ι) (k : ι) : Option (Timers ι) :=
  let s := s.remove k
  let s := { s with calls := s.calls ++ [k] }
  if (s.timer k).periodic = true ∧ (s.timer k).activated = true then
    (s.deactivate k).rtTimerStart k
  else some (s.deactivate k)

def rtTimerCheck : Nat → Timers ι → Option (Timers ι)
  | 0, _ => none
  | fuel + 1, s =>
    match s.list with
    | [] => some s
    | k :: _ =>
      if s.tick - (s.timer k).timeoutTick < tickHalf then (s.fire k).bind (rtTimerCheck fuel)
      else some s

/-- `rt_tick_increase`, in which the loop of `rt_timer_check` has one round for every timer, and more
if that is not enough. -/
def rtTickIncrease (more : Nat) (s : Timers ι) : Option (Timers ι) :=
  rtTimerCheck (s.list.length + 1 + more) { s with tick := s.tick + 1 }

def boot (timer : ι → Timer) : Timers ι :=
  ⟨0, fun k => { timer k with timeoutTick := 0, activated := false }, [], []⟩

end Timers

inductive TimerEvent (ι : Type u)
  | start (k : ι)
  | stop (k : ι)
  | control (k : ι) (c : TimerControl)
  | tick
  deriving DecidableEq, Repr

def Timers.step [DecidableEq ι] (more : Nat) (s : Timers ι) : TimerEvent ι → Option (Timers ι)
  | .start k => s.rtTimerStart k
  | .stop k => some (s.rtTimerStop k)
  | .control k c => some (s.set k ((s.timer k).control c))
  | .tick => s.rtTickIncrease more

/-- A timer by itself: it knows how many ticks are left. -/
structure Lone where
  initTick : Nat
  periodic : Bool
  left : Option Nat
  calls : Nat
  deriving DecidableEq, Repr

inductive LoneEvent
  | start
  | stop
  | control (c : TimerControl)
  | tick
  deriving DecidableEq, Repr

namespace Lone

def start (l : Lone) : Option Lone :=
  if l.initTick < tickHalf.toNat then some { l with left := some l.initTick } else none

/-- A periodic timer of no ticks is never done. -/
def expire (l : Lone) : Option Lone :=
  let l := { l with calls := l.calls + 1 }
  if l.periodic = true then if l.initTick = 0 then none else l.start
  else some { l with left := none }

def control (l : Lone) : TimerControl → Lone
  | .setTime time => { l with initTick := time.toNat }
  | .setOneshot => { l with periodic := false }
  | .setPeriodic => { l with periodic := true }

def tick (l : Lone) : Option Lone :=
  match l.left with
  | none => some l
  | some n => if n ≤ 1 then l.expire else some { l with left := some (n - 1) }

def step (l : Lone) : LoneEvent → Option Lone
  | .start => l.start
  | .stop => some { l with left := none }
  | .control c => some (l.control c)
  | .tick => l.tick

end Lone

def TimerEvent.onTimer [DecidableEq ι] (k : ι) : TimerEvent ι → Option LoneEvent
  | .start j => if j = k then some .start else none
  | .stop j => if j = k then some .stop else none
  | .control j c => if j = k then some (.control c) else none
  | .tick => some .tick

/-- How far a timer's time is from a tick on, across the end of the counter. -/
def lag (timer : ι → Timer) (b : UInt32) (k : ι) : Nat := ((timer k).timeoutTick - b).toNat

theorem tickHalf_toNat : tickHalf.toNat = 2 ^ 31 - 1 := rfl

theorem sub_toNat (x y b : UInt32) :
    (x - y).toNat = (2 ^ 32 + (x - b).toNat - (y - b).toNat) % 2 ^ 32 := by
  have hx := x.toNat_lt
  have hy := y.toNat_lt
  have hb := b.toNat_lt
  rw [UInt32.toNat_sub, UInt32.toNat_sub, UInt32.toNat_sub]
  omega

section Place
variable {timer : ι → Timer} {k : ι} {b : UInt32} {n : Nat}

/-- Within half of the counter's range the place of a timer is that of its time. -/
theorem place_eq {l : List ι} (hl : ∀ t ∈ l, lag timer b t < n) (hn : n ≤ 2 ^ 31)
    (hk : lag timer b k < n) (hspan : n ≤ lag timer b k + (2 ^ 31 - 1)) :
    place timer k l = enqueue (lag timer b) k l := by
  induction l with
  | nil => rfl
  | cons t l ih =>
    have hrest := ih fun u hu => hl u (List.mem_cons_of_mem t hu)
    have ht := hl t List.mem_cons_self
    have hsub := sub_toNat (timer t).timeoutTick (timer k).timeoutTick b
    change _ = (2 ^ 32 + lag timer b t - lag timer b k) % 2 ^ 32 at hsub
    have hzero : (timer t).timeoutTick - (timer k).timeoutTick = 0 ↔
        lag timer b t = lag timer b k := by
      rw [← UInt32.toNat_inj, hsub, UInt32.toNat_zero]
      omega
    have hlater : (timer t).timeoutTick - (timer k).timeoutTick < tickHalf ↔
        lag timer b k ≤ lag timer b t := by
      rw [UInt32.lt_iff_toNat_lt, hsub, tickHalf_toNat]
      omega
    rw [place, enqueue, List.orderedInsert_cons, ← enqueue, hrest]
    by_cases heq : lag timer b t = lag timer b k
    · rw [if_pos (hzero.2 heq), if_neg (by omega)]
    · rw [if_neg (fun h => heq (hzero.1 h))]
      by_cases hlt : lag timer b k < lag timer b t
      · rw [if_pos (hlater.2 (Nat.le_of_lt hlt)), if_pos hlt]
      · rw [if_neg (fun h => hlt (by have := hlater.1 h; omega)), if_neg hlt]

theorem place_congr {timer' : ι → Timer} {l : List ι}
    (hk : (timer' k).timeoutTick = (timer k).timeoutTick)
    (hl : ∀ t ∈ l, (timer' t).timeoutTick = (timer t).timeoutTick) :
    place timer' k l = place timer k l := by
  induction l with
  | nil => rfl
  | cons t l ih =>
    rw [place, place, hk, hl t List.mem_cons_self, ih fun u hu => hl u (List.mem_cons_of_mem t hu)]

end Place

namespace Timers

variable {ι : Type u} [DecidableEq ι] {s t : Timers ι} {b : UInt32} {n d : Nat} {j k : ι}
variable {more fuel : Nat}

/-- The list holds the timers that are activated, in the order of their times, and none is further
from a tick than the bound. -/
structure Kept (b : UInt32) (n : Nat) (s : Timers ι) : Prop where
  nodup : s.list.Nodup
  active : ∀ k, k ∈ s.list ↔ (s.timer k).activated = true
  near : ∀ k ∈ s.list, lag s.timer b k < n
  order : InOrder (lag s.timer b) s.list

theorem lag_update (timer : ι → Timer) (b : UInt32) (h : j ≠ k) (t : Timer) :
    lag (Function.update timer k t) b j = lag timer b j := by
  rw [lag, Function.update_of_ne h, lag]

@[simp] theorem set_self (s : Timers ι) (k : ι) (x : Timer) : (s.set k x).timer k = x :=
  Function.update_self _ _ _

theorem set_other (s : Timers ι) (h : j ≠ k) (x : Timer) : (s.set k x).timer j = s.timer j :=
  Function.update_of_ne h _ _

theorem Kept.off (h : Kept b n s) (k : ι) : Kept b n ((s.remove k).deactivate k) where
  nodup := h.nodup.erase k
  active := by
    intro j
    change j ∈ s.list.erase k ↔ (Function.update s.timer k _ j).activated = true
    rw [h.nodup.mem_erase_iff]
    by_cases hj : j = k
    · rw [hj, Function.update_self]
      exact ⟨fun hm => absurd rfl hm.1, nofun⟩
    · rw [Function.update_of_ne hj, ← h.active j]
      exact and_iff_right hj
  near := by
    intro j hj
    obtain ⟨hne, hm⟩ := h.nodup.mem_erase_iff.1 hj
    exact (lag_update s.timer b hne _).trans_lt (h.near j hm)
  order := by
    have hsub : InOrder (lag s.timer b) (s.list.erase k) :=
      List.Pairwise.sublist List.erase_sublist h.order
    exact hsub.congr fun j hj => lag_update s.timer b (h.nodup.mem_erase_iff.1 hj).1 _

def started (s : Timers ι) (k : ι) : ι → Timer :=
  Function.update s.timer k { s.timer k with
    timeoutTick := s.tick + (s.timer k).initTick, activated := true }

theorem rtTimerStart_eq (h : (s.timer k).initTick < tickHalf) : s.rtTimerStart k =
    some { s with timer := s.started k, list := place (s.started k) k (s.list.erase k) } := by
  have hk : ((s.remove k).deactivate k).timer k = { s.timer k with activated := false } :=
    Function.update_self _ _ _
  rw [rtTimerStart]
  dsimp only
  rw [if_pos (by rw [hk]; exact h), hk]
  simp only [set, deactivate, remove, Function.update_idem, Function.update_self, started]
  congr 2
  apply place_congr
  · rw [Function.update_self, Function.update_self]
  · intro t _
    by_cases ht : t = k
    · rw [ht, Function.update_self, Function.update_self]
    · rw [Function.update_of_ne ht, Function.update_of_ne ht]

theorem rtTimerStart_eq_none (h : ¬ (s.timer k).initTick < tickHalf) : s.rtTimerStart k = none := by
  have hk : ((s.remove k).deactivate k).timer k = { s.timer k with activated := false } :=
    Function.update_self _ _ _
  rw [rtTimerStart]
  dsimp only
  exact if_neg (by rw [hk]; exact h)

theorem Kept.start (h : Kept b n s) (hn : n ≤ 2 ^ 31) (hinit : (s.timer k).initTick < tickHalf)
    (hd : (s.tick + (s.timer k).initTick - b).toNat < n)
    (hspan : n ≤ (s.tick + (s.timer k).initTick - b).toNat + (2 ^ 31 - 1)) :
    ∃ l, s.rtTimerStart k = some { s with timer := s.started k, list := l } ∧
      Kept b n { s with timer := s.started k, list := l } ∧
      l = enqueue (lag (s.started k) b) k (s.list.erase k) := by
  have hself : lag (s.started k) b k = (s.tick + (s.timer k).initTick - b).toNat := by
    rw [lag, started, Function.update_self]
  have hother (j : ι) (hj : j ≠ k) : lag (s.started k) b j = lag s.timer b j := lag_update _ b hj _
  have hmem (j : ι) (hj : j ∈ s.list.erase k) : j ≠ k ∧ j ∈ s.list := h.nodup.mem_erase_iff.1 hj
  have hnear : ∀ j ∈ s.list.erase k, lag (s.started k) b j < n := by
    intro j hj
    rw [hother j (hmem j hj).1]
    exact h.near j (hmem j hj).2
  have hplace : place (s.started k) k (s.list.erase k) =
      enqueue (lag (s.started k) b) k (s.list.erase k) :=
    place_eq hnear hn (hself ▸ hd) (hself ▸ hspan)
  have hperm := enqueue_perm (lag (s.started k) b) k (s.list.erase k)
  refine ⟨_, rtTimerStart_eq hinit, ?_, hplace⟩
  rw [hplace]
  refine ⟨?_, ?_, ?_, ?_⟩
  · refine hperm.nodup_iff.2 (List.nodup_cons.2 ⟨?_, h.nodup.erase k⟩)
    exact fun hk => (hmem k hk).1 rfl
  · intro j
    rw [hperm.mem_iff, List.mem_cons, h.nodup.mem_erase_iff]
    dsimp only
    by_cases hj : j = k
    · rw [hj, started, Function.update_self]
      exact ⟨fun _ => rfl, fun _ => .inl rfl⟩
    · rw [started, Function.update_of_ne hj, or_iff_right hj, and_iff_right hj]
      exact h.active j
  · intro j hj
    rcases List.mem_cons.1 (hperm.mem_iff.1 hj) with rfl | hj
    · exact hself ▸ hd
    · exact hnear j hj
  · have hsub : InOrder (lag s.timer b) (s.list.erase k) :=
      List.Pairwise.sublist List.erase_sublist h.order
    exact (hsub.congr fun j hj => hother j (hmem j hj).1).enqueue k

def renew (tick : UInt32) (t : Timer) : Timer :=
  if t.periodic = true then { t with timeoutTick := tick + t.initTick, activated := true }
  else { t with activated := false }

theorem Kept.fire {l : List ι} (h : Kept b (2 ^ 31) s) (htick : s.tick = b + 1)
    (hl : s.list = k :: l) (hinit : (s.timer k).periodic = true → (s.timer k).initTick < tickHalf) :
    ∃ l' timer, s.fire k = some { s with timer, list := l', calls := s.calls ++ [k] } ∧
      Kept b (2 ^ 31) { s with timer, list := l', calls := s.calls ++ [k] } ∧
      timer = Function.update s.timer k (renew s.tick (s.timer k)) ∧
      l' = if (s.timer k).periodic = true then enqueue (lag timer b) k l else l := by
  have hactive : (s.timer k).activated = true := by
    rw [← h.active k, hl]
    exact List.mem_cons_self
  have hrest : s.list.erase k = l := by rw [hl, List.erase_cons_head]
  have hout : k ∉ l := by
    have hnodup := h.nodup
    rw [hl] at hnodup
    exact (List.nodup_cons.1 hnodup).1
  have hoff := h.off k
  by_cases hp : (s.timer k).periodic = true
  · have hlag : (s.tick + (s.timer k).initTick - b).toNat = (s.timer k).initTick.toNat + 1 := by
      have hi := UInt32.lt_iff_toNat_lt.1 (hinit hp)
      have hb := b.toNat_lt
      rw [tickHalf_toNat] at hi
      rw [htick, UInt32.toNat_sub, UInt32.toNat_add, UInt32.toNat_add, UInt32.toNat_one]
      omega
    generalize hu : ({ (s.remove k).deactivate k with calls := s.calls ++ [k] } : Timers ι) = u
    have hkept : Kept b (2 ^ 31) u := by
      rw [← hu]
      exact ⟨hoff.nodup, hoff.active, hoff.near, hoff.order⟩
    have hself : u.timer k = { s.timer k with activated := false } := by
      rw [← hu]
      exact Function.update_self _ _ _
    have hinit' : (u.timer k).initTick < tickHalf := by
      rw [hself]
      exact hinit hp
    have hlag' : (u.tick + (u.timer k).initTick - b).toNat = (s.timer k).initTick.toNat + 1 := by
      rw [hself, ← hu]
      exact hlag
    have hi := UInt32.lt_iff_toNat_lt.1 (hinit hp)
    rw [tickHalf_toNat] at hi
    obtain ⟨l', hstart, hkept', hl'⟩ := hkept.start (Nat.le_refl _) hinit' (by omega) (by omega)
    have hstarted : u.started k = Function.update s.timer k (renew s.tick (s.timer k)) := by
      rw [started, hself, renew, if_pos hp, ← hu]
      exact Function.update_idem _ _ _
    have hulist : u.list.erase k = l := by
      rw [← hu]
      change (s.list.erase k).erase k = l
      rw [hrest, List.erase_of_not_mem hout]
    refine ⟨l', u.started k, ?_, ?_, hstarted, ?_⟩
    · rw [Timers.fire]
      dsimp only
      rw [if_pos ⟨hp, hactive⟩]
      refine (congrArg (fun v : Timers ι => v.rtTimerStart k) hu).trans (hstart.trans ?_)
      rw [← hu]
      rfl
    · exact ⟨hkept'.nodup, hkept'.active, hkept'.near, hkept'.order⟩
    · rw [if_pos hp, hl', hulist]
  · refine ⟨l, Function.update s.timer k { s.timer k with activated := false }, ?_, ?_, ?_, ?_⟩
    · rw [Timers.fire]
      dsimp only
      rw [if_neg (fun h => hp h.1), ← hrest]
      rfl
    · rw [← hrest]
      exact ⟨hoff.nodup, hoff.active, hoff.near, hoff.order⟩
    · rw [renew, if_neg hp]
    · rw [if_neg hp]

/-- A periodic timer that can be started again, or one that is not. -/
def Renewable (t : Timer) : Prop := t.periodic = true → t.initTick ≠ 0 ∧ t.initTick < tickHalf

theorem lag_renew (timer : ι → Timer) (b : UInt32) (hr : Renewable (timer k))
    (hp : (timer k).periodic = true) :
    lag (Function.update timer k (renew (b + 1) (timer k))) b k =
      (timer k).initTick.toNat + 1 ∧ 1 ≤ (timer k).initTick.toNat := by
  obtain ⟨hne, hlt⟩ := hr hp
  have hi := UInt32.lt_iff_toNat_lt.1 hlt
  have hb := b.toNat_lt
  rw [tickHalf_toNat] at hi
  refine ⟨?_, ?_⟩
  · rw [lag, Function.update_self, renew, if_pos hp]
    dsimp only
    rw [UInt32.toNat_sub, UInt32.toNat_add, UInt32.toNat_add, UInt32.toNat_one]
    omega
  · rw [Ne, ← UInt32.toNat_inj, UInt32.toNat_zero] at hne
    omega

def expired (timer : ι → Timer) (b : UInt32) (l : List ι) : List ι :=
  l.filter fun k => lag timer b k ≤ 1

omit [DecidableEq ι] in
theorem expired_iff (h : Kept b (2 ^ 31) s) (htick : s.tick = b + 1) (hk : k ∈ s.list) :
    s.tick - (s.timer k).timeoutTick < tickHalf ↔ lag s.timer b k ≤ 1 := by
  have hnear := h.near k hk
  have hsub := sub_toNat s.tick (s.timer k).timeoutTick b
  have hone : (s.tick - b).toNat = 1 := by
    have hb := b.toNat_lt
    rw [htick, UInt32.toNat_sub, UInt32.toNat_add, UInt32.toNat_one]
    omega
  change _ = (2 ^ 32 + _ - lag s.timer b k) % 2 ^ 32 at hsub
  rw [hone] at hsub
  rw [UInt32.lt_iff_toNat_lt, hsub, tickHalf_toNat]
  omega

theorem Kept.fire_first {l : List ι} (h : Kept b (2 ^ 31) s) (htick : s.tick = b + 1)
    (hl : s.list = k :: l) (hr : Renewable (s.timer k)) :
    ∃ t, s.fire k = some t ∧ Kept b (2 ^ 31) t ∧ t.tick = s.tick ∧ t.calls = s.calls ++ [k] ∧
      t.timer = Function.update s.timer k (renew s.tick (s.timer k)) ∧
      expired t.timer b t.list = expired s.timer b l := by
  obtain ⟨l', timer, hfire, hkept, htimer, hl'⟩ := h.fire htick hl fun hp => (hr hp).2
  refine ⟨_, hfire, hkept, rfl, rfl, htimer, ?_⟩
  have hout : k ∉ l := by
    have hnodup := h.nodup
    rw [hl] at hnodup
    exact (List.nodup_cons.1 hnodup).1
  have hsame : expired timer b l = expired s.timer b l := by
    apply List.filter_congr
    intro j hj
    rw [htimer, lag_update s.timer b (fun he : j = k => hout (he ▸ hj))]
  dsimp only
  rw [hl']
  split
  · rename_i hp
    obtain ⟨hlag, hpos⟩ := lag_renew s.timer b hr hp
    rw [← htick, ← htimer] at hlag
    have hlate : decide (lag timer b k ≤ 1) = false := decide_eq_false (by omega)
    exact (filter_enqueue (p := fun j => decide (lag timer b j ≤ 1)) hlate).trans hsame
  · exact hsame

/-- What `rt_timer_check` leaves once it has fired the timers whose time was over, each once and in
the order of the list. -/
structure Checked (b : UInt32) (s t : Timers ι) : Prop where
  kept : Kept b (2 ^ 31) t
  tick : t.tick = s.tick
  calls : t.calls = s.calls ++ expired s.timer b s.list
  timer : ∀ k, t.timer k =
    if k ∈ expired s.timer b s.list then renew s.tick (s.timer k) else s.timer k
  late : ∀ k ∈ t.list, 2 ≤ lag t.timer b k

theorem Kept.checked (h : Kept b (2 ^ 31) s) (hnone : expired s.timer b s.list = []) :
    Checked b s s where
  kept := h
  tick := rfl
  calls := by rw [hnone, List.append_nil]
  timer := fun k => by rw [hnone, if_neg List.not_mem_nil]
  late := by
    intro k hk
    have hlate := List.filter_eq_nil_iff.1 hnone k hk
    rw [decide_eq_true_eq] at hlate
    omega

theorem Kept.check (h : Kept b (2 ^ 31) s) (htick : s.tick = b + 1)
    (hr : ∀ k ∈ expired s.timer b s.list, Renewable (s.timer k))
    (hfuel : (expired s.timer b s.list).length < fuel) :
    ∃ t, rtTimerCheck fuel s = some t ∧ Checked b s t := by
  induction fuel generalizing s with
  | zero => exact absurd hfuel (Nat.not_lt_zero _)
  | succ fuel ih =>
    cases hl : s.list with
    | nil =>
      refine ⟨s, by rw [rtTimerCheck, hl], h.checked ?_⟩
      rw [hl]
      rfl
    | cons k l =>
      have hk : k ∈ s.list := by
        rw [hl]
        exact List.mem_cons_self
      by_cases hdue : lag s.timer b k ≤ 1
      · have hfirst : expired s.timer b s.list = k :: expired s.timer b l := by
          rw [expired, hl, List.filter_cons, if_pos (decide_eq_true hdue)]
          rfl
        have hout : k ∉ expired s.timer b l := by
          have hnodup := h.nodup.filter fun k => lag s.timer b k ≤ 1
          rw [← expired, hfirst] at hnodup
          exact (List.nodup_cons.1 hnodup).1
        rw [hfirst] at hr hfuel
        obtain ⟨u, hfire, hkept, hut, hcalls, htimer, hrest⟩ :=
          h.fire_first htick hl (hr k List.mem_cons_self)
        have hother (j : ι) (hj : j ≠ k) : u.timer j = s.timer j := by
          rw [htimer, Function.update_of_ne hj]
        obtain ⟨t, ht, hc⟩ := ih hkept (hut.trans htick)
          (by
            intro j hj
            rw [hrest] at hj
            rw [hother j fun he => hout (he ▸ hj)]
            exact hr j (List.mem_cons_of_mem k hj))
          (by
            rw [hrest]
            exact Nat.lt_of_succ_lt_succ hfuel)
        refine ⟨t, ?_, hc.kept, hc.tick.trans hut, ?_, ?_, hc.late⟩
        · rw [rtTimerCheck, hl]
          dsimp only
          rw [if_pos ((expired_iff h htick hk).2 hdue), hfire]
          exact ht
        · rw [hc.calls, hrest, hcalls, hfirst, List.append_assoc]
          rfl
        · intro j
          rw [hc.timer j, hrest, hfirst, hut]
          by_cases hj : j = k
          · rw [hj, if_neg hout, if_pos List.mem_cons_self, htimer, Function.update_self]
          · rw [hother j hj]
            simp only [List.mem_cons, hj, false_or]
      · refine ⟨s, ?_, h.checked ?_⟩
        · rw [rtTimerCheck, hl]
          exact if_neg fun hlt => hdue ((expired_iff h htick hk).1 hlt)
        · have hhead := h.order
          rw [hl] at hhead ⊢
          exact hhead.filter_eq_nil (Nat.lt_of_not_le hdue)

omit [DecidableEq ι] in
theorem Kept.head_over {l : List ι} (h : Kept b n s) (hl : s.list = k :: l)
    (hj : j ∈ expired s.timer b s.list) : lag s.timer b k ≤ 1 := by
  by_contra hlate
  have hhead := h.order
  rw [hl] at hhead hj
  have hnone := hhead.filter_eq_nil (n := 1) (Nat.lt_of_not_le hlate)
  rw [expired, hnone] at hj
  cases hj

theorem renew_renewable (tick : UInt32) (t : Timer) : Renewable (renew tick t) ↔ Renewable t := by
  rw [renew]
  split <;> exact Iff.rfl

theorem Kept.fire_stuck {l : List ι} (h : Kept b (2 ^ 31) s) (htick : s.tick = b + 1)
    (hl : s.list = k :: l) (hj : j ∈ expired s.timer b s.list) (hr : ¬ Renewable (s.timer j))
    (hf : s.fire k = some t) : Kept b (2 ^ 31) t ∧ t.tick = s.tick ∧
      j ∈ expired t.timer b t.list ∧ ¬ Renewable (t.timer j) := by
  obtain ⟨hm, hover⟩ := List.mem_filter.1 hj
  rw [decide_eq_true_eq] at hover
  by_cases hinit : (s.timer k).periodic = true → (s.timer k).initTick < tickHalf
  · obtain ⟨l', timer, hfire, hkept, htimer, hl'⟩ := h.fire htick hl hinit
    obtain rfl := Option.some.inj (hfire.symm.trans hf)
    refine ⟨hkept, rfl, List.mem_filter.2 ⟨?_, decide_eq_true ?_⟩, ?_⟩
    · dsimp only
      rw [hl']
      by_cases hjk : j = k
      · have hp : (s.timer k).periodic = true := by
          by_contra hp
          exact hr fun h => absurd (hjk ▸ h) hp
        rw [if_pos hp, (enqueue_perm _ k l).mem_iff, hjk]
        exact List.mem_cons_self
      · have hjl : j ∈ l := by
          rw [hl] at hm
          exact (List.mem_cons.1 hm).resolve_left hjk
        split
        · exact (enqueue_perm _ k l).mem_iff.2 (List.mem_cons_of_mem k hjl)
        · exact hjl
    · dsimp only
      rw [htimer]
      by_cases hjk : j = k
      · subst hjk
        obtain ⟨hp, hzero⟩ : (s.timer j).periodic = true ∧ (s.timer j).initTick = 0 := by
          by_contra hne
          exact hr fun hp => ⟨fun hz => hne ⟨hp, hz⟩, hinit hp⟩
        have hb := b.toNat_lt
        rw [lag, Function.update_self, renew, if_pos hp, hzero, htick, UInt32.add_zero,
          UInt32.toNat_sub, UInt32.toNat_add, UInt32.toNat_one]
        omega
      · rw [lag_update _ _ hjk]
        exact hover
    · dsimp only
      rw [htimer]
      by_cases hjk : j = k
      · rw [hjk, Function.update_self, renew_renewable]
        exact hjk ▸ hr
      · rw [Function.update_of_ne hjk]
        exact hr
  · obtain ⟨hp, hbig⟩ := Classical.not_imp.1 hinit
    have hactive : (s.timer k).activated = true := by
      rw [← h.active k, hl]
      exact List.mem_cons_self
    have hself : (({ s.remove k with calls := s.calls ++ [k] } : Timers ι).deactivate k).timer k =
        { s.timer k with activated := false } := Function.update_self _ _ _
    rw [Timers.fire] at hf
    dsimp only at hf
    rw [if_pos ⟨hp, hactive⟩] at hf
    have hnone := rtTimerStart_eq_none (k := k)
      (s := ({ s.remove k with calls := s.calls ++ [k] } : Timers ι).deactivate k)
      (by rw [hself]; exact hbig)
    cases hnone.symm.trans hf

/-- The loop does not end when a timer is over that cannot be started again. -/
theorem Kept.check_hangs (h : Kept b (2 ^ 31) s) (htick : s.tick = b + 1)
    (hj : j ∈ expired s.timer b s.list) (hr : ¬ Renewable (s.timer j)) (fuel : Nat) :
    rtTimerCheck fuel s = none := by
  induction fuel generalizing s with
  | zero => rfl
  | succ fuel ih =>
    cases hl : s.list with
    | nil =>
      rw [hl] at hj
      cases hj
    | cons k l =>
      have hk : k ∈ s.list := by
        rw [hl]
        exact List.mem_cons_self
      rw [rtTimerCheck, hl]
      dsimp only
      rw [if_pos ((expired_iff h htick hk).2 (h.head_over hl hj))]
      cases hf : s.fire k with
      | none => rfl
      | some t =>
        obtain ⟨hkept, ht, hj', hr'⟩ := h.fire_stuck htick hl hj hr hf
        exact ih hkept (ht.trans htick) hj' hr'

def alone (tick : UInt32) (calls : Nat) (t : Timer) : Lone where
  initTick := t.initTick.toNat
  periodic := t.periodic
  left := if t.activated = true then some (t.timeoutTick - tick).toNat else none
  calls := calls

def lone (k : ι) (s : Timers ι) : Lone := alone s.tick (s.calls.count k) (s.timer k)

theorem renewed_left (tick i : UInt32) : (tick + i - tick).toNat = i.toNat := by
  rw [UInt32.add_comm, UInt32.add_sub_cancel]

theorem alone_start {t : Timer} (h : t.initTick < tickHalf) (tick b : UInt32) (calls : Nat) :
    (alone b calls t).start = some (alone tick calls
      { t with timeoutTick := tick + t.initTick, activated := true }) := by
  refine (if_pos (UInt32.lt_iff_toNat_lt.1 h)).trans ?_
  rw [alone, alone, if_pos rfl, renewed_left]

theorem alone_start_eq_none {t : Timer} (h : ¬ t.initTick < tickHalf) (b : UInt32) (calls : Nat) :
    (alone b calls t).start = none := if_neg fun hlt => h (UInt32.lt_iff_toNat_lt.2 hlt)

theorem alone_expire {t : Timer} (h : Renewable t) (tick b : UInt32) (calls : Nat) :
    (alone b calls t).expire = some (alone tick (calls + 1) (renew tick t)) := by
  rw [Lone.expire, renew]
  change (if t.periodic = true then if t.initTick.toNat = 0 then none
    else (alone b (calls + 1) t).start else some _) = _
  by_cases hp : t.periodic = true
  · obtain ⟨hne, hlt⟩ := h hp
    have hpos : ¬ t.initTick.toNat = 0 := fun hz => hne (UInt32.toNat_inj.1 hz)
    rw [if_pos hp, if_pos hp, if_neg hpos, alone_start hlt tick]
  · rw [if_neg hp, if_neg hp]
    rfl

theorem alone_expire_eq_none {t : Timer} (h : ¬ Renewable t) (b : UInt32) (calls : Nat) :
    (alone b calls t).expire = none := by
  obtain ⟨hp, hbad⟩ := Classical.not_imp.1 h
  rw [Lone.expire]
  change (if t.periodic = true then if t.initTick.toNat = 0 then none
    else (alone b (calls + 1) t).start else some _) = _
  rw [if_pos hp]
  by_cases hz : t.initTick = 0
  · exact if_pos (congrArg UInt32.toNat hz)
  · have hpos : ¬ t.initTick.toNat = 0 := fun h => hz (UInt32.toNat_inj.1 h)
    rw [if_neg hpos, alone_start_eq_none fun hlt => hbad ⟨hz, hlt⟩]

/-- Between two events every timer is less than half of the counter's range away. -/
def Settled (s : Timers ι) : Prop := Kept s.tick (2 ^ 31 - 1) s

omit [DecidableEq ι] in
theorem settled_boot (timer : ι → Timer) : Settled (boot timer) where
  nodup := List.nodup_nil
  active := fun _ => ⟨nofun, nofun⟩
  near := nofun
  order := List.Pairwise.nil

omit [DecidableEq ι] in
theorem lag_succ {timer : ι → Timer} (h : 1 ≤ lag timer b k) :
    lag timer (b + 1) k = lag timer b k - 1 := by
  have hb := b.toNat_lt
  have ht := (timer k).timeoutTick.toNat_lt
  rw [lag, UInt32.toNat_sub] at h ⊢
  rw [lag, UInt32.toNat_sub, UInt32.toNat_add, UInt32.toNat_one]
  omega

theorem Checked.settled (h : Checked b s t) (htick : t.tick = b + 1) : Settled t where
  nodup := h.kept.nodup
  active := h.kept.active
  near := by
    intro k hk
    have hnear := h.kept.near k hk
    have hlate := h.late k hk
    rw [htick, lag_succ (by omega)]
    omega
  order := by
    refine List.Pairwise.imp_of_mem ?_ h.kept.order
    intro j k hj hk hle
    have hj := h.late j hj
    have hk := h.late k hk
    rw [htick, lag_succ (by omega), lag_succ (by omega)]
    omega

omit [DecidableEq ι] in
theorem Settled.ticking (h : Settled s) :
    Kept s.tick (2 ^ 31) { s with tick := s.tick + 1 } where
  nodup := h.nodup
  active := h.active
  near := fun k hk => Nat.lt_succ_of_lt (h.near k hk)
  order := h.order

theorem Settled.tick (h : Settled s)
    (hr : ∀ k ∈ expired s.timer s.tick s.list, Renewable (s.timer k)) (more : Nat) :
    ∃ t, s.rtTickIncrease more = some t ∧ Checked s.tick { s with tick := s.tick + 1 } t := by
  have hlength : (expired s.timer s.tick s.list).length ≤ s.list.length := List.length_filter_le _ _
  exact h.ticking.check rfl hr (Nat.lt_of_le_of_lt hlength (by omega))

theorem Settled.tick_hangs (h : Settled s) (hk : k ∈ expired s.timer s.tick s.list)
    (hr : ¬ Renewable (s.timer k)) (more : Nat) : s.rtTickIncrease more = none :=
  h.ticking.check_hangs rfl hk hr _

theorem Settled.lone_over (h : Settled s) (hk : k ∈ expired s.timer s.tick s.list) :
    (lone k s).tick = (lone k s).expire := by
  obtain ⟨hm, hover⟩ := List.mem_filter.1 hk
  rw [decide_eq_true_eq] at hover
  have hleft : (lone k s).left = some (lag s.timer s.tick k) := if_pos ((h.active k).1 hm)
  rw [Lone.tick, hleft]
  exact if_pos hover

theorem Settled.lone_tick (h : Settled s)
    (hr : ∀ k ∈ expired s.timer s.tick s.list, Renewable (s.timer k))
    (hc : Checked s.tick { s with tick := s.tick + 1 } t) (k : ι) :
    (lone k s).tick = some (lone k t) := by
  have htimer := hc.timer k
  have htick : t.tick = s.tick + 1 := hc.tick
  have hcalls : t.calls.count k = s.calls.count k + (expired s.timer s.tick s.list).count k := by
    rw [hc.calls, List.count_append]
  dsimp only at htimer
  by_cases hk : k ∈ expired s.timer s.tick s.list
  · have hone : (expired s.timer s.tick s.list).count k = 1 :=
      List.count_eq_one_of_mem (h.nodup.filter _) hk
    rw [if_pos hk] at htimer
    rw [h.lone_over hk, lone, alone_expire (hr k hk) t.tick, lone, hcalls, hone, htimer, htick]
  · have hnone : (expired s.timer s.tick s.list).count k = 0 := List.count_eq_zero.2 hk
    rw [if_neg hk] at htimer
    rw [hnone, Nat.add_zero] at hcalls
    rw [lone, lone, hcalls, htimer, htick, Lone.tick]
    by_cases ha : (s.timer k).activated = true
    · have hlate : ¬ lag s.timer s.tick k ≤ 1 := fun hover =>
        hk (List.mem_filter.2 ⟨(h.active k).2 ha, decide_eq_true hover⟩)
      have hsucc : lag s.timer (s.tick + 1) k = lag s.timer s.tick k - 1 := lag_succ (by omega)
      have hleft (b : UInt32) :
          (alone b (s.calls.count k) (s.timer k)).left = some (lag s.timer b k) := if_pos ha
      rw [hleft]
      dsimp only
      rw [if_neg hlate, ← hsucc, ← hleft]
      rfl
    · have hleft (b : UInt32) : (alone b (s.calls.count k) (s.timer k)).left = none := if_neg ha
      rw [hleft]
      dsimp only
      rw [alone, alone, if_neg ha, if_neg ha]

theorem lone_update (hk : t.timer = Function.update s.timer k x) (htick : t.tick = s.tick)
    (hc : t.calls = s.calls) (j : ι) :
    lone j t = if j = k then alone s.tick (s.calls.count k) x else lone j s := by
  rw [lone, htick, hc, hk]
  by_cases hj : j = k
  · rw [hj, if_pos rfl, Function.update_self]
  · rw [if_neg hj, Function.update_of_ne hj, lone]

theorem Settled.start (h : Settled s) (hinit : (s.timer k).initTick < tickHalf) :
    ∃ t, s.rtTimerStart k = some t ∧ Settled t ∧
      ∀ j, lone j t = if j = k then alone s.tick (s.calls.count k) { s.timer k with
        timeoutTick := s.tick + (s.timer k).initTick, activated := true } else lone j s := by
  have hi := UInt32.lt_iff_toNat_lt.1 hinit
  rw [tickHalf_toNat] at hi
  have hleft := renewed_left s.tick (s.timer k).initTick
  obtain ⟨l, hstart, hkept, _⟩ := Kept.start h (by decide) hinit (by omega) (by omega)
  exact ⟨_, hstart, hkept, lone_update rfl rfl rfl⟩

theorem Settled.stop (h : Settled s) (k : ι) : Settled (s.rtTimerStop k) ∧
    ∀ j, lone j (s.rtTimerStop k) =
      if j = k then { lone k s with left := none } else lone j s := by
  rw [rtTimerStop]
  split
  · have hoff := lone_update (s := s) (t := (s.remove k).deactivate k) (k := k)
      (x := { s.timer k with activated := false }) rfl rfl rfl
    exact ⟨h.off k, hoff⟩
  · rename_i ha
    refine ⟨h, fun j => ?_⟩
    split
    · rename_i hj
      have hleft : (lone k s).left = none := if_neg ha
      rw [hj, ← hleft]
    · rfl

theorem control_same (t : Timer) (c : TimerControl) :
    (t.control c).timeoutTick = t.timeoutTick ∧ (t.control c).activated = t.activated := by
  cases c <;> exact ⟨rfl, rfl⟩

theorem alone_control (tick : UInt32) (calls : Nat) (t : Timer) (c : TimerControl) :
    alone tick calls (t.control c) = (alone tick calls t).control c := by
  cases c <;> rfl

theorem Settled.control (h : Settled s) (k : ι) (c : TimerControl) :
    Settled (s.set k ((s.timer k).control c)) ∧
      ∀ j, lone j (s.set k ((s.timer k).control c)) =
        if j = k then (lone k s).control c else lone j s := by
  obtain ⟨htime, hactive⟩ := control_same (s.timer k) c
  have hlag (j : ι) : lag (s.set k ((s.timer k).control c)).timer s.tick j =
      lag s.timer s.tick j := by
    by_cases hj : j = k
    · rw [hj, lag, set_self, htime, lag]
    · exact lag_update s.timer s.tick hj _
  refine ⟨⟨h.nodup, ?_, ?_, ?_⟩, fun j => ?_⟩
  · intro j
    by_cases hj : j = k
    · rw [hj, set_self, hactive]
      exact h.active k
    · rw [set_other s hj]
      exact h.active j
  · intro j hj
    exact (hlag j).trans_lt (h.near j hj)
  · exact InOrder.congr h.order fun j _ => hlag j
  · have hlone := lone_update (s := s) (t := s.set k ((s.timer k).control c)) (k := k) rfl rfl rfl j
    rw [hlone, alone_control]
    rfl

/-- A step is a step of each timer by itself that it is an event of. -/
theorem Settled.step {e : TimerEvent ι} (h : Settled s) (hs : Timers.step more s e = some t) :
    Settled t ∧ ∀ j, partStep Lone.step (TimerEvent.onTimer j) (lone j s) e = some (lone j t) := by
  cases e with
  | start k =>
    by_cases hinit : (s.timer k).initTick < tickHalf
    · obtain ⟨u, hu, hset, hlone⟩ := h.start hinit
      obtain rfl := Option.some.inj (hu.symm.trans hs)
      refine ⟨hset, fun j => ?_⟩
      rw [hlone, partStep, TimerEvent.onTimer]
      by_cases hj : k = j
      · rw [if_pos hj, if_pos hj.symm, ← hj]
        exact alone_start hinit _ _ _
      · rw [if_neg hj, if_neg (Ne.symm hj)]
    · cases (rtTimerStart_eq_none hinit).symm.trans hs
  | stop k =>
    cases hs
    obtain ⟨hset, hlone⟩ := h.stop k
    refine ⟨hset, fun j => ?_⟩
    rw [hlone, partStep, TimerEvent.onTimer]
    by_cases hj : k = j
    · rw [if_pos hj, if_pos hj.symm, ← hj]
      rfl
    · rw [if_neg hj, if_neg (Ne.symm hj)]
  | control k c =>
    cases hs
    obtain ⟨hset, hlone⟩ := h.control k c
    refine ⟨hset, fun j => ?_⟩
    rw [hlone, partStep, TimerEvent.onTimer]
    by_cases hj : k = j
    · rw [if_pos hj, if_pos hj.symm, ← hj]
      rfl
    · rw [if_neg hj, if_neg (Ne.symm hj)]
  | tick =>
    by_cases hr : ∀ k ∈ expired s.timer s.tick s.list, Renewable (s.timer k)
    · obtain ⟨u, hu, hc⟩ := h.tick hr more
      obtain rfl := Option.some.inj (hu.symm.trans hs)
      exact ⟨hc.settled hc.tick, h.lone_tick hr hc⟩
    · simp only [not_forall] at hr
      obtain ⟨k, hk, hbad⟩ := hr
      cases (h.tick_hangs hk hbad more).symm.trans hs

theorem Settled.stuck {e : TimerEvent ι} (h : Settled s) (hs : Timers.step more s e = none) :
    ∃ j, partStep Lone.step (TimerEvent.onTimer j) (lone j s) e = none := by
  cases e with
  | start k =>
    refine ⟨k, ?_⟩
    rw [partStep, TimerEvent.onTimer, if_pos rfl]
    by_cases hinit : (s.timer k).initTick < tickHalf
    · cases (rtTimerStart_eq hinit).symm.trans hs
    · exact alone_start_eq_none hinit _ _
  | stop k => cases hs
  | control k c => cases hs
  | tick =>
    by_cases hr : ∀ k ∈ expired s.timer s.tick s.list, Renewable (s.timer k)
    · obtain ⟨u, hu, _⟩ := h.tick hr more
      cases hu.symm.trans hs
    · simp only [not_forall] at hr
      obtain ⟨k, hk, hbad⟩ := hr
      exact ⟨k, (h.lone_over hk).trans (alone_expire_eq_none hbad _ _)⟩

/-- The timers go their own ways. -/
theorem composed (more : Nat) :
    Composed (Timers.step more) Lone.step (lone (ι := ι)) TimerEvent.onTimer Settled where
  keeps := fun h hs => (h.step hs).1
  parts := fun h hs => (h.step hs).2
  stuck := fun h hs => h.stuck hs

/-- In every run, across the end of the tick counter, each timer does what it would do by itself:
it counts its ticks down, whatever the others do, and its time-out function is called when they
are over; and the system comes to a halt exactly if a timer does by itself. -/
theorem each_alone (timer : ι → Timer) (more : Nat) (es : List (TimerEvent ι)) :
    (∀ s, run (Timers.step more) (boot timer) es = some s →
      ∀ k, run Lone.step (lone k (boot timer)) (es.filterMap (TimerEvent.onTimer k)) =
        some (lone k s)) ∧
    ((run (Timers.step more) (boot timer) es).isSome ↔
      ∀ k, (run Lone.step (lone k (boot timer)) (es.filterMap (TimerEvent.onTimer k))).isSome) :=
  ⟨fun _ h => (composed more).run (settled_boot timer) h,
    (composed more).isSome_iff (settled_boot timer)⟩

end Timers

namespace Lone

theorem div_succ {q r i : Nat} (hr : r < i) :
    (i * q + r + 1) / i = (if r + 1 = i then q + 1 else q) ∧
      (i * q + r + 1) % i = if r + 1 = i then 0 else r + 1 := by
  split
  · rename_i h
    have hmul : i * q + r + 1 = i * (q + 1) := by
      rw [Nat.mul_succ]
      omega
    rw [hmul]
    exact ⟨Nat.mul_div_cancel_left _ (by omega), Nat.mul_mod_right _ _⟩
  · rename_i h
    have hlt : r + 1 < i := by omega
    rw [Nat.add_assoc, Nat.mul_add_div (by omega), Nat.mul_add_mod, Nat.div_eq_of_lt hlt,
      Nat.mod_eq_of_lt hlt]
    exact ⟨rfl, rfl⟩

theorem run_ticks {l : Lone} (hp : l.periodic = true) (h0 : l.initTick ≠ 0)
    (h1 : l.initTick < tickHalf.toNat) (hl : l.left = some l.initTick) (n : Nat) :
    run step l (List.replicate n .tick) = some { l with
      left := some (l.initTick - n % l.initTick), calls := l.calls + n / l.initTick } := by
  induction n with
  | zero =>
    rw [List.replicate_zero, Nat.zero_mod, Nat.zero_div, Nat.sub_zero, ← hl]
    rfl
  | succ n ih =>
    rw [List.replicate_succ', run_append_eq_some]
    refine ⟨_, ih, ?_⟩
    have hr : n % l.initTick < l.initTick := Nat.mod_lt _ (Nat.pos_of_ne_zero h0)
    obtain ⟨hdiv, hmod⟩ := div_succ (q := n / l.initTick) hr
    rw [Nat.div_add_mod] at hdiv hmod
    rw [run_singleton, step, tick]
    dsimp only
    rw [hdiv, hmod]
    by_cases hlast : n % l.initTick + 1 = l.initTick
    · rw [if_pos (by omega), if_pos hlast, if_pos hlast, expire]
      dsimp only
      rw [if_pos hp, if_neg h0, start]
      dsimp only
      rw [if_pos h1, Nat.sub_zero]
      rfl
    · rw [if_neg (by omega), if_neg hlast, if_neg hlast]
      rfl

end Lone

namespace Timers

variable {ι : Type u} [DecidableEq ι] {s t : Timers ι} {k : ι} {more : Nat}

theorem filterMap_ticks {es : List (TimerEvent ι)}
    (h : ∀ e ∈ es, e ≠ .tick → e.onTimer k = none) :
    es.filterMap (TimerEvent.onTimer k) = List.replicate (es.count .tick) .tick := by
  induction es with
  | nil => rfl
  | cons e es ih =>
    have hrest := ih fun e he => h e (List.mem_cons_of_mem _ he)
    by_cases he : e = .tick
    · subst he
      have hown : (TimerEvent.tick : TimerEvent ι).onTimer k = some .tick := rfl
      rw [List.filterMap_cons_some hown, hrest, List.count_cons_self, List.replicate_succ]
    · rw [List.filterMap_cons_none (h e List.mem_cons_self he), hrest, List.count_cons_of_ne he]

/-- A periodic timer that is started in any run and then left alone is called exactly once in every
period of the ticks that follow, whatever is done with the others. -/
theorem periodic_calls {timer : ι → Timer} {as bs : List (TimerEvent ι)}
    (ha : run (Timers.step more) (boot timer) as = some s)
    (hb : run (Timers.step more) s (.start k :: bs) = some t)
    (hp : (s.timer k).periodic = true) (h0 : (s.timer k).initTick ≠ 0)
    (hbs : ∀ e ∈ bs, e ≠ .tick → e.onTimer k = none) :
    t.calls.count k = s.calls.count k + bs.count .tick / (s.timer k).initTick.toNat := by
  have hset : Settled s :=
    run_invariant (fun _ _ _ h hs => (composed more).keeps h hs) (settled_boot timer) ha
  have hlone := (composed more).run hset hb k
  have hinit : (s.timer k).initTick < tickHalf := by
    obtain ⟨u, hu, _⟩ := run_cons_eq_some.1 hb
    by_contra hbig
    cases (rtTimerStart_eq_none hbig).symm.trans hu
  have hown : (TimerEvent.start k).onTimer k = some .start := if_pos rfl
  rw [List.filterMap_cons_some hown, filterMap_ticks hbs] at hlone
  obtain ⟨l, hl, hrun⟩ := run_cons_eq_some.1 hlone
  obtain rfl := Option.some.inj ((alone_start hinit s.tick s.tick _).symm.trans hl)
  have hleft := renewed_left s.tick (s.timer k).initTick
  have hticks := Lone.run_ticks
    (l := alone s.tick (s.calls.count k) { s.timer k with
      timeoutTick := s.tick + (s.timer k).initTick, activated := true })
    hp (fun hz => h0 (UInt32.toNat_inj.1 hz)) (UInt32.lt_iff_toNat_lt.1 hinit)
    (congrArg some hleft) (bs.count .tick)
  exact (congrArg Lone.calls (Option.some.inj (hticks.symm.trans hrun))).symm

/-- The timers of the unit, `timer_count` and `timer_study`, before they are initialized: both are
periodic with ten ticks. -/
def unitTimer (_ : Bool) : Timer := ⟨0, 10, true, false⟩

theorem periodic_calls_unit : ∃ t : Timers Bool, t.calls.count true = 0 + 20 / 10 := by
  have hrun : (run (Timers.step 0) (boot unitTimer) [.tick, .start false]).isSome := by
    decide +kernel
  have hrest : (run (Timers.step 0) (Option.get _ hrun)
      (.start true :: List.replicate 20 .tick)).isSome := by
    decide +kernel +revert
  refine ⟨_, periodic_calls (Option.some_get hrun).symm (Option.some_get hrest).symm ?_ ?_ ?_⟩
  · decide +kernel +revert
  · decide +kernel +revert
  · decide +kernel

end Timers

end CountdownOutside
