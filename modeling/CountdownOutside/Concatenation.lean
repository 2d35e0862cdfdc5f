import CountdownOutside.Truncation

namespace CountdownOutside
set_option autoImplicit true

open Update

variable {config : Config} {f r : List UInt8} {fs : List (List UInt8)} {cd : Countdown}

namespace Frame

/-- `parse` goes past a frame: its length byte fails the test, or it fits `enc_data` and has another
command. -/
def Ignored (f : List UInt8) : Prop := ¬ Tested f ∨ f.length ≤ 128 ∧ f.getD 5 0 ≠ 0x7e

instance (f : List UInt8) : Decidable (Ignored f) := inferInstanceAs (Decidable (_ ∨ _))

theorem Ignored.decodable (h : Ignored f) : Decodable f := by
  intro ht
  rcases h with hn | ⟨hl, hc⟩
  · exact absurd ht hn
  · exact ⟨hl, fun he => absurd he hc⟩

theorem Ignored.update (h : Ignored f) (config : Config) (curTmp : UInt16) :
    update config f curTmp = none := by
  rw [Frame.update, record, if_neg]
  · rfl
  · rintro ⟨ht, hc, _⟩
    rcases h with hn | ⟨_, hne⟩
    · exact hn ht
    · exact hne hc

/-- A frame with a header, a length byte that counts what follows it, and the command `7e`. -/
structure WellFormed (f : List UInt8) : Prop where
  header : Stream.Header f 0
  length : f.length = (f.getD 4 0).toNat + 5
  ge : 12 ≤ (f.getD 4 0).toNat
  le : (f.getD 4 0).toNat ≤ 123
  command : f.getD 5 0 = 0x7e

theorem WellFormed.decodable (h : WellFormed f) : Decodable f := by
  intro _
  have hlen := h.length
  have hle := h.le
  have hge := h.ge
  exact ⟨by omega, fun _ => by omega⟩

end Frame

theorem parseMessage_none_iff (h : config.Received f) (info : GelinweiInfo) :
    parseMessage config info = .ok none ↔ Frame.Ignored f := by
  by_cases ht : Frame.Tested f
  · by_cases hl : f.length ≤ 128
    · by_cases hc : f.getD 5 0 = 0x7e
      · have hne : parseMessage config info ≠ .ok none := by
          have hqe := Frame.qAt_eq hl
          by_cases hq : 0 ≤ Frame.qAt f
          · obtain ⟨org, hp, _⟩ := parseMessage_taken h hl
              ⟨(Frame.tested_iff (by omega)).1 ht, hc⟩ hq info
            rw [hp]
            intro he
            cases he
          · rw [parseMessage_short h ht hl hc (by omega)]
            intro he
            cases he
        refine ⟨fun he => absurd he hne, ?_⟩
        rintro (hn | ⟨_, hcn⟩)
        · exact absurd ht hn
        · exact absurd hc hcn
      · exact ⟨fun _ => .inr ⟨hl, hc⟩,
          fun _ => parseMessage_not_taken h hl (fun htaken => hc htaken.2) info⟩
    · rw [parseMessage_long h ht (by omega)]
      refine ⟨fun he => (by cases he), ?_⟩
      rintro (hn | ⟨hle, _⟩)
      · exact absurd ht hn
      · exact absurd hle hl
  · exact ⟨fun _ => .inl ht, fun _ => parseMessage_untested h ht info⟩

namespace Stream

def starts (n : Nat) : List (List UInt8) → List Nat
  | [] => []
  | f :: fs => n :: starts (n + f.length) fs

/-- Every header that is not the start of a frame heads a frame that `parse` ignores. -/
def Alone (fs : List (List UInt8)) : Prop :=
  ∀ i < fs.flatten.length, Header fs.flatten i → i ∉ starts 0 fs →
    Frame.Ignored (frame fs.flatten i)

instance (fs : List (List UInt8)) : Decidable (Alone fs) := inferInstanceAs (Decidable (∀ _, _))

def parseEach (config : Config) (fs : List (List UInt8)) (info : GelinweiInfo) (cd : Countdown) :
    Except Fault (GelinweiInfo × Countdown) :=
  fs.foldlM (fun p f => geLinWeiParse (config.receive f) p.1 p.2) (info, cd)

/-- The frames in one reception act as they do in a reception each, and `parse` takes a message at
none of the headers inside a frame or where two frames meet. -/
structure ActsApart (config : Config) (fs : List (List UInt8)) (cd : Countdown) : Prop where
  same : ∃ p, geLinWeiParse (config.receive fs.flatten) .zero cd = .ok p ∧
    parseEach config fs .zero cd = .ok p
  only : ∀ i < fs.flatten.length, Header fs.flatten i → i ∉ starts 0 fs →
    ∃ call, geLinWeiCallAt (config.receive fs.flatten) .zero cd i = .ok call ∧
      parseMessage call.1 call.2.1 = .ok none

theorem callAt_received (h : config.Received r) (hi : i < r.length)
    (hcall : geLinWeiCallAt config info cd i = .ok call) : call.1.Received (frame r i) := by
  obtain ⟨rxBuf, _, hcopy, hg, _⟩ := rounds_eq h info cd
  rw [geLinWeiCallAt, hcopy, ok_bind] at hcall
  rcases rounds_cases h info cd (Nat.le_of_lt hi) with ⟨_, s, hs, hent⟩ | ⟨_, hf⟩
  · rw [hs, ok_bind] at hcall
    by_cases hc : i + (frame r i).length ≤ 512
    · obtain ⟨config', hc', _, hrec⟩ := call_ok hg h.counter h.length_le hent hc
      rw [hc', ok_bind] at hcall
      cases hcall
      exact hrec
    · rw [call_fault hg h.counter h.length_le hent hc, error_bind] at hcall
      cases hcall
  · rw [hf, error_bind] at hcall
    cases hcall

theorem starts_append (gs hs : List (List UInt8)) :
    starts n (gs ++ hs) = starts n gs ++ starts (n + gs.flatten.length) hs := by
  induction gs generalizing n with
  | nil => rfl
  | cons g gs ih =>
    rw [List.cons_append, starts, starts, ih, List.cons_append, List.flatten_cons,
      List.length_append, Nat.add_assoc]

theorem mem_starts (h : i ∈ starts n fs) :
    ∃ gs f hs, fs = gs ++ f :: hs ∧ i = n + gs.flatten.length := by
  induction fs generalizing n with
  | nil => cases h
  | cons f fs ih =>
    rcases List.mem_cons.1 h with rfl | hmem
    · exact ⟨[], f, fs, rfl, rfl⟩
    · obtain ⟨gs, g, hs, rfl, rfl⟩ := ih hmem
      refine ⟨f :: gs, g, hs, rfl, ?_⟩
      rw [List.flatten_cons, List.length_append, Nat.add_assoc]

theorem mem_starts_lt (hw : ∀ f ∈ fs, Frame.WellFormed f) (h : i ∈ starts n fs) :
    i < n + fs.flatten.length := by
  obtain ⟨gs, f, hs, rfl, rfl⟩ := mem_starts h
  have hf := (hw f (List.mem_append_right gs List.mem_cons_self)).length
  simp only [List.flatten_append, List.flatten_cons, List.length_append]
  omega

theorem not_mem_starts {gs hs : List (List UInt8)} (hw : ∀ g ∈ gs, Frame.WellFormed g) (h0 : 0 < i)
    (hi : i < f.length) : gs.flatten.length + i ∉ starts 0 (gs ++ f :: hs) := by
  rw [starts_append, List.mem_append, starts, List.mem_cons]
  rintro (h | h | h)
  · have hlt := mem_starts_lt hw h
    omega
  · omega
  · obtain ⟨_, _, _, _, he⟩ := mem_starts h
    omega

theorem getD_inside (before after : List UInt8) (hj : j < f.length) :
    (before ++ (f ++ after)).getD (before.length + j) 0 = f.getD j 0 := by
  rw [List.getD_append_right _ _ _ _ (Nat.le_add_right _ _), Nat.add_sub_cancel_left,
    List.getD_append _ _ _ _ hj]

theorem header_inside (before after : List UInt8) (hi : i + 3 < f.length) :
    Header (before ++ (f ++ after)) (before.length + i) ↔ Header f i := by
  simp only [Header, Nat.add_assoc, getD_inside before after (show i < f.length by omega),
    getD_inside before after (show i + 1 < f.length by omega),
    getD_inside before after (show i + 2 < f.length by omega),
    getD_inside before after (show i + 3 < f.length by omega)]

theorem frame_start (before after : List UInt8) (h : Frame.WellFormed f) :
    Header (before ++ (f ++ after)) before.length ∧
      frame (before ++ (f ++ after)) before.length = f := by
  have hlen := h.length
  have hge := h.ge
  have hcounter (left : Nat) :
      counter (before ++ (f ++ after)) left before.length = f.length := by
    rw [counter, getD_inside before after (by omega), if_pos, ← hlen]
    simp only [List.length_append]
    omega
  refine ⟨(header_inside (i := 0) before after (by omega)).2 h.header, ?_⟩
  apply List.ext_getElem
  · rw [length_frame, hcounter]
  · intro j hj hj'
    have hget := frame_getD hj
    rwa [getD_inside before after hj', List.getD_eq_getElem _ _ hj,
      List.getD_eq_getElem _ _ hj'] at hget

theorem length_frame_le (hr : r.length ≤ 250) : (frame r i).length ≤ 260 := by
  apply length_frame_of (P := fun n => n ≤ 260)
  · intro l
    have hl := l.toNat_lt
    omega
  · omega

theorem le_length_frame (hr : 5 ≤ r.length) : 5 ≤ (frame r i).length :=
  length_frame_of (P := fun n => 5 ≤ n) (fun l => Nat.le_add_left 5 l.toNat) hr

theorem ignored_frame_iff (h5 : 5 ≤ r.length) (hr : r.length ≤ 250) :
    Frame.Ignored (frame r i) ↔ 256 ≤ (frame r i).length ∨
      (r.getD (i + 4) 0).toNat + 5 ≠ (frame r i).length ∨ (frame r i).length ≤ 128 ∧
        ((frame r i).length = 5 ∨ r.getD (i + 5) 0 ≠ 0x7e) := by
  have hge := le_length_frame (i := i) h5
  have hle := length_frame_le (i := i) hr
  rw [Frame.Ignored, Frame.Tested, frame_getD (by omega)]
  by_cases hlong : 256 ≤ (frame r i).length
  · exact ⟨fun _ => .inl hlong, fun _ => .inl (by omega)⟩
  · have htest : ((r.getD (i + 4) 0).toNat : Int) = ((frame r i).length % 256 : Nat) - 5 ↔
        (r.getD (i + 4) 0).toNat + 5 = (frame r i).length := by omega
    rw [htest]
    by_cases hfive : (frame r i).length = 5
    · have hc : (frame r i).getD 5 0 ≠ 0x7e := by
        rw [List.getD_eq_default _ _ (by omega)]
        decide
      exact ⟨fun _ => .inr (.inr ⟨by omega, .inl hfive⟩), fun _ => .inr ⟨by omega, hc⟩⟩
    · rw [frame_getD (by omega)]
      simp only [hlong, hfive, false_or, ne_eq]

theorem getD_suffix (before : List UInt8) (j : Nat) :
    (before ++ f).getD (before.length + j) 0 = f.getD j 0 := by
  rw [List.getD_append_right _ _ _ _ (Nat.le_add_right _ _), Nat.add_sub_cancel_left]

theorem counter_suffix (before : List UInt8) (left i : Nat) :
    counter (before ++ f) left (before.length + i) = counter f left i := by
  simp only [counter, Nat.add_assoc, getD_suffix, List.length_append, Nat.add_lt_add_iff_left]

/-- Inside the last frame of a reception the counter is as if the frame were received alone. -/
theorem leftover_suffix (before : List UInt8) (h : Frame.WellFormed f) (i : Nat) :
    leftover (before ++ f) (before.length + (i + 1)) = leftover f (i + 1) := by
  have hlen := h.length
  have hge := h.ge
  have hheader (j : Nat) : Header (before ++ f) (before.length + j) ↔ Header f j := by
    simp only [Header, Nat.add_assoc, getD_suffix]
  rw [← Nat.add_assoc, leftover, leftover]
  induction i with
  | zero =>
    rw [if_pos ((hheader 0).2 h.header), if_pos h.header, counter_suffix, counter, counter,
      if_pos (by omega), if_pos (by omega)]
  | succ i ih =>
    rw [← Nat.add_assoc, leftover, leftover, ih, Nat.add_assoc, counter_suffix]
    simp only [hheader]

theorem ignored_alone {before after : List UInt8} (h : Frame.WellFormed f)
    (hafter : after = [] ∨ 9 ≤ after.length) (hr : (before ++ (f ++ after)).length ≤ 250)
    (h0 : 0 < i) (hi : i + 3 < f.length)
    (hign : Frame.Ignored (frame (before ++ (f ++ after)) (before.length + i))) :
    Frame.Ignored (frame f i) := by
  have hlen := h.length
  have hge := h.ge
  have hle := h.le
  have hlong := hr
  simp only [List.length_append] at hlong
  rw [ignored_frame_iff (by simp only [List.length_append]; omega) hr] at hign
  rw [ignored_frame_iff (by omega) (by omega)]
  rcases hafter with rfl | h9
  · obtain ⟨i, rfl⟩ : ∃ j, i = j + 1 := ⟨i - 1, by omega⟩
    rw [length_frame] at hign ⊢
    rw [List.append_nil, leftover_suffix before h, counter_suffix] at hign
    simpa only [Nat.add_assoc, getD_suffix] using hign
  · have hcount : (frame (before ++ (f ++ after)) (before.length + i)).length =
        ((before ++ (f ++ after)).getD (before.length + i + 4) 0).toNat + 5 := by
      rw [length_frame, counter, if_pos]
      simp only [List.length_append]
      omega
    rw [hcount] at hign
    by_cases htail : i + 9 < f.length
    · rw [Nat.add_assoc, Nat.add_assoc, getD_inside before after (by omega),
        getD_inside before after (by omega)] at hign
      rw [length_frame, counter, if_pos htail]
      exact hign
    · -- the frame alone goes by the counter that the header before has left
      by_cases h4 : i + 4 < f.length
      · rw [Nat.add_assoc, Nat.add_assoc, getD_inside before after h4] at hign
        by_cases heq : (f.getD (i + 4) 0).toNat + 5 = (frame f i).length
        · rw [← heq]
          by_cases h5 : i + 5 < f.length
          · rwa [getD_inside before after h5] at hign
          · rw [List.getD_eq_default f _ (show f.length ≤ i + 5 by omega)]
            have hne : (0 : UInt8) ≠ 0x7e := by decide
            rcases hign with hbig | hn | ⟨hs, _⟩
            · exact .inl hbig
            · exact absurd rfl hn
            · exact .inr (.inr ⟨hs, .inr hne⟩)
        · exact .inr (.inl heq)
      · rw [List.getD_eq_default f _ (show f.length ≤ i + 4 by omega)]
        by_cases hfive : (frame f i).length = 5
        · exact .inr (.inr ⟨by omega, .inl hfive⟩)
        · exact .inr (.inl (by change 0 + 5 ≠ _; omega))

theorem Alone.single {gs hs : List (List UInt8)} (hw : ∀ g ∈ gs ++ f :: hs, Frame.WellFormed g)
    (hr : (gs ++ f :: hs).flatten.length ≤ 250) (h : Alone (gs ++ f :: hs)) : Alone [f] := by
  have hf := hw f (List.mem_append_right gs List.mem_cons_self)
  rw [Alone, List.flatten_append, List.flatten_cons] at h
  rw [List.flatten_append, List.flatten_cons] at hr
  rw [Alone, List.flatten_singleton]
  intro i hi hh hs0
  have h0 : 0 < i := by
    rw [starts, starts, List.mem_singleton] at hs0
    omega
  have h3 : i + 3 < f.length := by
    by_contra hge
    have hb := hh.2.2.2
    rw [List.getD_eq_default _ _ (by omega)] at hb
    cases hb
  have hafter : hs.flatten = [] ∨ 9 ≤ hs.flatten.length := by
    cases hs with
    | nil => exact .inl rfl
    | cons g hs =>
      have hg := hw g (List.mem_append_right gs (List.mem_cons_of_mem f List.mem_cons_self))
      have hlen := hg.length
      have hge := hg.ge
      rw [List.flatten_cons, List.length_append]
      exact .inr (by omega)
  refine ignored_alone hf hafter hr h0 h3 (h _ ?_ ((header_inside _ _ h3).2 hh) ?_)
  · simp only [List.length_append]
    omega
  · exact not_mem_starts (fun g hg => hw g (List.mem_append_left _ hg)) h0 hi

theorem Alone.inBounds (hw : ∀ f ∈ fs, Frame.WellFormed f) (hr : fs.flatten.length ≤ 250)
    (h : Alone fs) : InBounds fs.flatten := by
  constructor
  · rw [List.getD_eq_default _ _ (by omega)]
    decide
  · intro i hi hh
    have hle := length_frame_le (i := i) hr
    refine ⟨by omega, ?_⟩
    by_cases hs : i ∈ starts 0 fs
    · obtain ⟨gs, f, hs, rfl, rfl⟩ := mem_starts hs
      have hf := hw f (List.mem_append_right gs List.mem_cons_self)
      rw [List.flatten_append, List.flatten_cons, Nat.zero_add, (frame_start _ _ hf).2]
      exact hf.decodable
    · exact (h i hi hh hs).decodable

theorem writes_ignored (h : ∀ j, i ≤ j → j < i + m → Header r j → Frame.Ignored (frame r j)) :
    writes config r (i + m) cd = writes config r i cd := by
  induction m with
  | zero => rfl
  | succ m ih =>
    have hm := ih (fun j hij hj => h j hij (by omega))
    rw [← Nat.add_assoc, writes]
    by_cases hh : Header r (i + m)
    · have hign := h (i + m) (Nat.le_add_right i m) (by omega) hh
      rw [if_pos hh, hign.update, Option.toList_none, List.append_nil, hm]
    · rw [if_neg hh, hm]

def act (config : Config) (fs : List (List UInt8)) (cd : Countdown) : Countdown :=
  fs.foldl (fun cd f => applyAll (Frame.update config f cd.curTmp).toList cd) cd

theorem writes_frames {before : List UInt8} (hr : r = before ++ fs.flatten)
    (hw : ∀ f ∈ fs, Frame.WellFormed f)
    (h : ∀ i, before.length ≤ i → Header r i → i ∉ starts before.length fs →
      i < r.length → Frame.Ignored (frame r i)) :
    applyAll (writes config r r.length cd) cd =
      act config fs (applyAll (writes config r before.length cd) cd) := by
  induction fs generalizing before with
  | nil =>
    rw [List.flatten_nil, List.append_nil] at hr
    rw [hr]
    rfl
  | cons f fs ih =>
    have hf := hw f List.mem_cons_self
    have hlen := hf.length
    have hr' : r = (before ++ f) ++ fs.flatten := by rw [hr, List.flatten_cons, List.append_assoc]
    obtain ⟨hheader, hframe⟩ : Header r before.length ∧ frame r before.length = f := by
      rw [hr, List.flatten_cons]
      exact frame_start _ _ hf
    have hrest := ih hr' (fun g hg => hw g (List.mem_cons_of_mem f hg)) (by
      rw [List.length_append]
      intro i hi hh hs hlt
      refine h i (by omega) hh ?_ hlt
      rw [starts, List.mem_cons]
      rintro (he | hmem)
      · omega
      · exact hs hmem)
    have hinside : writes config r (before ++ f).length cd =
        writes config r (before.length + 1) cd := by
      have hsplit : (before ++ f).length = before.length + 1 + (f.length - 1) := by
        rw [List.length_append]
        omega
      rw [hsplit]
      apply writes_ignored
      intro j hj hlt hh
      refine h j (by omega) hh ?_ ?_
      · rw [starts, List.mem_cons]
        rintro (he | hmem)
        · omega
        · obtain ⟨_, _, _, _, he⟩ := mem_starts hmem
          omega
      · rw [hr', List.length_append, List.length_append]
        omega
    rw [hrest, hinside, writes, if_pos hheader, hframe, applyAll_append]
    rfl

theorem Alone.parse (hw : ∀ f ∈ fs, Frame.WellFormed f) (hr : fs.flatten.length ≤ 250)
    (h : Alone fs) : geLinWeiParse (config.receive fs.flatten) .zero cd =
      .ok (.zero, act config fs cd) := by
  have hact : applyAll (writes (config.receive fs.flatten) fs.flatten fs.flatten.length cd) cd =
      act (config.receive fs.flatten) fs (applyAll [] cd) :=
    writes_frames (List.nil_append _).symm hw (fun i _ hh hs hi => h i hi hh hs)
  rw [parse_writes (config.receive_received (by omega)) (h.inBounds hw hr), hact]
  rfl

theorem Alone.parseEach (hw : ∀ f ∈ fs, Frame.WellFormed f) (hr : fs.flatten.length ≤ 250)
    (h : ∀ f ∈ fs, Alone [f]) :
    Stream.parseEach config fs .zero cd = .ok (.zero, act config fs cd) := by
  induction fs generalizing cd with
  | nil => rfl
  | cons f fs ih =>
    rw [List.flatten_cons, List.length_append] at hr
    have hone : ∀ g ∈ [f], Frame.WellFormed g := by
      intro g hg
      rw [List.mem_singleton.1 hg]
      exact hw f List.mem_cons_self
    have hlen : [f].flatten.length ≤ 250 := by
      rw [List.flatten_singleton]
      omega
    have hf : geLinWeiParse (config.receive [f].flatten) .zero cd =
        .ok (.zero, act config [f] cd) :=
      (h f List.mem_cons_self).parse hone hlen
    rw [List.flatten_singleton] at hf
    rw [Stream.parseEach, List.foldlM_cons, hf, ok_bind]
    exact ih (fun g hg => hw g (List.mem_cons_of_mem f hg)) (by omega)
      (fun g hg => h g (List.mem_cons_of_mem f hg))

/-- Frames in one reception act as in a reception each, and nothing else is taken for a frame,
exactly if every other header heads a frame that `parse` ignores. -/
theorem frames_act_apart_iff (hw : ∀ f ∈ fs, Frame.WellFormed f) (hr : fs.flatten.length ≤ 250)
    (config : Config) (cd : Countdown) : ActsApart config fs cd ↔ Alone fs := by
  have hrec := config.receive_received (r := fs.flatten) (by omega)
  constructor
  · intro h i hi hh hs
    obtain ⟨call, hcall, hnone⟩ := h.only i hi hh hs
    exact (parseMessage_none_iff (callAt_received hrec hi hcall) call.2.1).1 hnone
  · intro h
    refine ⟨⟨_, h.parse hw hr, Alone.parseEach hw hr ?_⟩, ?_⟩
    · intro f hf
      obtain ⟨gs, hs, rfl⟩ := List.append_of_mem hf
      exact h.single hw hr
    · intro i hi hh hs
      obtain ⟨config', hcall, _, hrec', _⟩ := callAt_ok hrec (h.inBounds hw hr) hi hh cd
      exact ⟨_, hcall, (parseMessage_none_iff hrec' .zero).2 (h i hi hh hs)⟩

def numbered (color dataL : UInt8) : List UInt8 :=
  (⟨0xd7, 0x5a, 0x58, 0xd7, 0⟩ : Obfuscation).frame [0xb1, 0, 0x7c, 5, 0xc1, color, 0, dataL]

theorem frames_act_apart_iff_two : ActsApart
    { Config.zero with countdownDirection := 0xb1, singalDirection := 0xc1 }
    [numbered 0xd3 0x23, numbered 0xd1 0x12] .zero := by
  refine (frames_act_apart_iff ?_ (by decide) _ .zero).2 (by decide +kernel)
  intro f hf
  simp only [List.mem_cons, List.not_mem_nil, or_false] at hf
  rcases hf with rfl | rfl
  · exact ⟨by decide, by decide, by decide, by decide, by decide⟩
  · exact ⟨by decide, by decide, by decide, by decide, by decide⟩

/-- A frame for another unit whose body ends in the first nine bytes of a further frame. -/
def nested : List UInt8 :=
  [0x2c, 0x2c, 0x2c, 0x2c, 15, 0x7e, 0, 0, 0, 0, 0, 0x2c, 0x2c, 0x2c, 0x2c, 17, 0x7e, 0, 0, 0xb1]

def passing : List UInt8 :=
  [0x2c, 0x2c, 0x2c, 0x2c, 12, 0x7e, 0, 0xc1, 0xd3, 0, 0x23, 0, 0, 0, 0, 0, 0]

/-- Received together, the end of the first frame and the beginning of the second are taken for a
frame that arms red; received one by one, nothing is armed. -/
theorem nested_frame_acts :
    (geLinWeiParse ({ Config.zero with countdownDirection := 0xb1, singalDirection := 0xc1 }.receive
      [nested, passing].flatten) .zero .zero).map (fun p => (p.2.flagR, p.2.curMode)) =
        .ok (1, redMode) ∧
    (parseEach { Config.zero with countdownDirection := 0xb1, singalDirection := 0xc1 }
      [nested, passing] .zero .zero).map (fun p => (p.2.flagR, p.2.curMode)) = .ok (0, 0) ∧
    Frame.WellFormed nested ∧ Frame.WellFormed passing ∧ [nested, passing].flatten.length = 37 := by
  refine ⟨by decide +kernel, by decide +kernel, ?_, ?_, rfl⟩
  · exact ⟨by decide, by decide, by decide, by decide, by decide⟩
  · exact ⟨by decide, by decide, by decide, by decide, by decide⟩

end Stream

end CountdownOutside
