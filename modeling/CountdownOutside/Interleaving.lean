import CountdownOutside.Preemption

namespace CountdownOutside
set_option autoImplicit true

namespace Fine

variable {config : Config} {order : List Arming} {s t : Fine} {c d : Colour}

def watchOwner (o : Option Colour) (s : Fine) (e : FineEvent) (_ : Fine) : Option Colour :=
  match e, s.place with
  | .display, some (.num c) => some c
  | _, _ => o

/-- A number is shown in the colour from which it was loaded, and it fits the panel. -/
def OwnShown (p : Fine × Option Colour) (e : FineEvent) (_ : Fine × Option Colour) : Prop :=
  ∀ c, e = .display → p.1.place = some (.show c) → p.2 = some c ∧ p.1.sys.countdown.curNum ≤ 199

/-- The parser that is under way has still to set a colour's mode, and not its flag before. -/
def Bare (c : Colour) (pending : List Store) : Prop :=
  ∃ as bs, pending = as ++ .mode c :: bs ∧ .flag c ∉ as

def Loading (s : Fine) : Prop :=
  ∃ c, s.place = some (.first c) ∨ s.place = some (.second c) ∨ s.place = some (.sync c) ∨
    s.place = some (.num c)

def Armed (cd : Countdown) (c : Colour) : Prop := cd.mode c = 1 → cd.flag c ≠ 0

def Known (s : Fine) (o : Option Colour) : Place → Prop
  | .test _ => True
  | .type c => c ≠ .yellow → s.sys.countdown.flag c = 0 → o = some c
  | .flag c => s.sys.countdown.flag c = 0 → o = some c
  | .first _ => True
  | .second c => Armed s.sys.countdown c.others.1
  | .sync c => Armed s.sys.countdown c.others.1 ∧ Armed s.sys.countdown c.others.2
  | .num c => Armed s.sys.countdown c.others.1 ∧ Armed s.sys.countdown c.others.2
  | .lower c => o = some c
  | .fits c => o = some c
  | .show c => o = some c ∧ s.sys.countdown.curNum ≤ 199

/-- A colour with data that need not be loaded is the one whose number is there, also where a parser
was preempted. -/
structure Owns (s : Fine) (o : Option Colour) : Prop where
  shown : ∀ c, s.sys.countdown.mode c = 1 → s.sys.countdown.flag c = 0 → o = some c
  bare : ∀ c, Bare c s.pending → s.sys.countdown.flag c ≠ 0 ∨ o = some c ∧ ¬ s.Loading
  known : ∀ p, s.place = some p → s.Known o p

variable {o : Option Colour} {x : Store} {l : List Store}

theorem Bare.cons (h : Bare c l) (hx : x ≠ .flag c) : Bare c (x :: l) := by
  obtain ⟨as, bs, rfl, hf⟩ := h
  refine ⟨x :: as, bs, rfl, ?_⟩
  rw [List.mem_cons]
  rintro (rfl | hm)
  · exact hx rfl
  · exact hf hm

theorem Bare.head (c : Colour) (l : List Store) : Bare c (.mode c :: l) :=
  ⟨[], l, rfl, List.not_mem_nil⟩

theorem not_bare_nil (c : Colour) : ¬ Bare c [] := by
  rintro ⟨as, bs, h, _⟩
  cases as <;> cases h

theorem bare_cons_iff : Bare c (x :: l) ↔ x = .mode c ∨ x ≠ .flag c ∧ Bare c l := by
  constructor
  · rintro ⟨as, bs, h, hf⟩
    cases as with
    | nil =>
      cases h
      exact .inl rfl
    | cons a as =>
      cases h
      rw [List.mem_cons, not_or] at hf
      exact .inr ⟨Ne.symm hf.1, as, bs, rfl, hf.2⟩
  · rintro (rfl | ⟨hx, h⟩)
    · exact .head c l
    · exact h.cons hx

theorem Bare.right {k : List Store} (hk : ∀ x ∈ k, x ≠ .mode c) (h : Bare c (k ++ l)) :
    Bare c l := by
  induction k with
  | nil => exact h
  | cons x k ih =>
    rcases bare_cons_iff.1 h with rfl | ⟨_, h⟩
    · exact absurd rfl (hk _ List.mem_cons_self)
    · exact ih (fun y hy => hk y (List.mem_cons_of_mem x hy)) h

theorem Bare.left {k : List Store} (hl : ∀ x ∈ l, x ≠ .mode c) (h : Bare c (k ++ l)) :
    Bare c k := by
  induction k with
  | nil =>
    obtain ⟨as, bs, rfl, _⟩ := h
    exact absurd rfl (hl _ (List.mem_append_right _ List.mem_cons_self))
  | cons x k ih =>
    rcases bare_cons_iff.1 h with rfl | ⟨hx, h⟩
    · exact .head c k
    · exact (ih h).cons hx

theorem Owns.others (h : Owns s o) (hplace : t.place = s.place)
    (hnum : t.sys.countdown.curNum ≤ s.sys.countdown.curNum)
    (hflag : ∀ d, s.sys.countdown.flag d ≠ 0 → t.sys.countdown.flag d ≠ 0)
    (hmode : ∀ d, t.sys.countdown.mode d = 1 → s.sys.countdown.mode d = 1 ∨
      t.sys.countdown.flag d ≠ 0 ∨ o = some d ∧ ¬ s.Loading)
    (hbare : ∀ d, Bare d t.pending → t.sys.countdown.flag d ≠ 0 ∨ o = some d ∧ ¬ s.Loading) :
    Owns t o := by
  have hlow (d : Colour) (hd : t.sys.countdown.flag d = 0) : s.sys.countdown.flag d = 0 := by
    by_contra hne
    exact hflag d hne hd
  have harmed (hl : s.Loading) (d : Colour) (ha : Armed s.sys.countdown d) :
      Armed t.sys.countdown d := by
    intro hm
    rcases hmode d hm with hs | hf | ⟨_, hn⟩
    · exact hflag d (ha hs)
    · exact hf
    · exact absurd hl hn
  have hloading : t.Loading ↔ s.Loading := by
    rw [Loading, Loading, hplace]
  refine ⟨?_, ?_, ?_⟩
  · intro d hm hf
    rcases hmode d hm with hs | hne | ⟨ho, _⟩
    · exact h.shown d hs (hlow d hf)
    · exact absurd hf hne
    · exact ho
  · intro d hb
    rw [hloading]
    exact hbare d hb
  · intro p hp
    rw [hplace] at hp
    have hk := h.known p hp
    cases p with
    | test c => trivial
    | type c => exact fun hy hf => hk hy (hlow c hf)
    | flag c => exact fun hf => hk (hlow c hf)
    | first c => trivial
    | second c => exact harmed ⟨c, .inr (.inl hp)⟩ _ hk
    | sync c =>
      have hl : s.Loading := ⟨c, .inr (.inr (.inl hp))⟩
      exact ⟨harmed hl _ hk.1, harmed hl _ hk.2⟩
    | num c =>
      have hl : s.Loading := ⟨c, .inr (.inr (.inr hp))⟩
      exact ⟨harmed hl _ hk.1, harmed hl _ hk.2⟩
    | lower c => exact hk
    | fits c => exact hk
    | «show» c => exact ⟨hk.1, UInt16.le_trans hnum hk.2⟩

def FlagFirst (order : List Arming) : Prop := order.idxOf .flag < order.idxOf .mode

instance (order : List Arming) : Decidable (FlagFirst order) := Nat.decLt _ _

/-- With the flag in front of the mode, no parser leaves a colour bare. -/
theorem not_bare_stores (h : order.Perm [.num, .flag, .mode]) (hf : FlagFirst order) (u : Update)
    (c : Colour) : ¬ Bare c (u.stores order) := by
  intro hb
  rw [Update.stores, List.append_assoc, List.append_assoc, List.append_assoc,
    List.append_assoc] at hb
  have hb := Bare.right (fun x hx => by
    obtain ⟨v, _, rfl⟩ := List.mem_map.1 hx
    rintro ⟨⟩) hb
  have hb := Bare.left (fun x hx => by
    simp only [List.mem_append, List.mem_map] at hx
    rcases hx with ⟨_, _, rfl⟩ | ⟨_, _, rfl⟩ | ⟨_, _, rfl⟩ | ⟨_, _, rfl⟩ <;> rintro ⟨⟩) hb
  cases harm : u.arm with
  | none =>
    rw [harm] at hb
    exact not_bare_nil c hb
  | some p =>
    rw [harm, Option.toList_some, List.flatMap_singleton] at hb
    have hmem := order_cases h
    simp only [List.mem_cons, List.not_mem_nil, or_false] at hmem
    rcases hmem with rfl | rfl | rfl | rfl | rfl | rfl
    · simp_all [bare_cons_iff, Arming.store, not_bare_nil]
    · exact absurd hf (by decide)
    · simp_all [bare_cons_iff, Arming.store, not_bare_nil]
    · simp_all [bare_cons_iff, Arming.store, not_bare_nil]
    · exact absurd hf (by decide)
    · exact absurd hf (by decide)

theorem Owns.accept (h : Owns s o) (horder : order.Perm [.num, .flag, .mode])
    (hf : FlagFirst order) (u : Update) : Owns { s with pending := u.stores order } o :=
  h.others rfl UInt16.le_rfl (fun _ hd => hd) (fun _ hm => .inl hm)
    (fun d hb => absurd hb (not_bare_stores horder hf u d))

theorem Owns.store (h : Owns s o) (hp : s.pending = x :: l) :
    Owns { s.write (x.apply s.sys.countdown) with pending := l } o := by
  have hflag (d : Colour) (hd : s.sys.countdown.flag d ≠ 0) :
      (x.apply s.sys.countdown).flag d ≠ 0 := by
    rw [x.apply_flag]
    split
    · decide
    · exact hd
  have hleft (d : Colour) (hb : Bare d s.pending) :
      (x.apply s.sys.countdown).flag d ≠ 0 ∨ o = some d ∧ ¬ s.Loading :=
    (h.bare d hb).imp_left (hflag d)
  refine h.others rfl ?_ hflag ?_ ?_
  · exact UInt16.le_of_eq (x.apply_curNum _)
  · intro d hm
    change (x.apply s.sys.countdown).mode d = 1 at hm
    rw [x.apply_mode] at hm
    split at hm
    · rename_i hx
      refine .inr (hleft d ?_)
      rw [hp, hx]
      exact .head d l
    · exact .inl hm
  · intro d hb
    by_cases hx : x = .flag d
    · left
      change (x.apply s.sys.countdown).flag d ≠ 0
      rw [x.apply_flag, if_pos hx]
      decide
    · refine hleft d ?_
      rw [hp]
      exact hb.cons hx

theorem other_countdown {a b : Sys} {e : Event} (he : e.isOther)
    (h : CountdownOutside.step config a e = some b) :
    (∃ us, b.countdown = Update.applyAll us a.countdown) ∨
      b.countdown = (CountdownOutside.timeout a.countdownType a.countdown).2 := by
  cases e with
  | geLinWei => cases he
  | gat2014 => cases he
  | gat2004 => cases he
  | display => cases he
  | motorStduy =>
    cases h
    exact .inl ⟨[motorWrite a.lamps a.study], motorStduy_countdown _ _ _⟩
  | peopleStduy =>
    cases h
    exact .inl ⟨[peopleWrite a.lamps a.study], peopleStduy_countdown _ _ _⟩
  | timeout =>
    cases h
    exact .inr rfl
  | studyEntry =>
    cases h
    exact .inl ⟨[], rfl⟩
  | timerOut =>
    cases h
    exact .inl ⟨[], rfl⟩
  | lamps =>
    cases h
    exact .inl ⟨[], rfl⟩

theorem Owns.other (h : Owns s o) {e : Event} {b : Sys} (he : e.isOther)
    (hs : CountdownOutside.step config s.sys e = some b) : Owns { s with sys := b } o := by
  rcases other_countdown he hs with ⟨us, hb⟩ | hb
  · have hcolour (d : Colour) : b.countdown.flag d = 1 ∨
        b.countdown.flag d = s.sys.countdown.flag d ∧
          b.countdown.mode d = s.sys.countdown.mode d := by
      rw [hb]
      rcases Update.applyAll_colour s.sys.countdown d us with ⟨hf, _⟩ | ⟨hf, hm, _⟩
      · exact .inl hf
      · exact .inr ⟨hf, hm⟩
    have hflag (d : Colour) (hd : s.sys.countdown.flag d ≠ 0) : b.countdown.flag d ≠ 0 := by
      rcases hcolour d with hf | ⟨hf, _⟩
      · rw [hf]
        decide
      · rwa [hf]
    refine h.others rfl ?_ hflag ?_ (fun d hd => (h.bare d hd).imp_left (hflag d))
    · change b.countdown.curNum ≤ _
      rw [hb, Update.applyAll_curNum]
      exact UInt16.le_rfl
    · intro d hm
      rcases hcolour d with hf | ⟨_, hm'⟩
      · refine .inr (.inl ?_)
        change b.countdown.flag d ≠ 0
        rw [hf]
        decide
      · exact .inl (hm'.symm.trans hm)
  · have hcolour (d : Colour) : b.countdown.flag d = s.sys.countdown.flag d ∧
        b.countdown.mode d = s.sys.countdown.mode d := by
      rw [hb]
      obtain ⟨hf, hm, _⟩ := timeout_colour s.sys.countdownType s.sys.countdown d
      exact ⟨hf, hm⟩
    have hflag (d : Colour) (hd : s.sys.countdown.flag d ≠ 0) : b.countdown.flag d ≠ 0 := by
      rwa [(hcolour d).1]
    refine h.others rfl ?_ hflag ?_ (fun d hd => (h.bare d hd).imp_left (hflag d))
    · change b.countdown.curNum ≤ _
      rw [hb]
      exact timeout_curNum_le _ _
    · exact fun d hm => .inl ((hcolour d).2.symm.trans hm)

theorem Owns.rest (h : Owns s o) (hplace : t.place = none)
    (hcd : ∀ d, t.sys.countdown.flag d = s.sys.countdown.flag d ∧
      t.sys.countdown.mode d = s.sys.countdown.mode d) (hp : t.pending = s.pending) :
    Owns t o := by
  refine ⟨?_, ?_, ?_⟩
  · intro d hm hf
    exact h.shown d ((hcd d).2.symm.trans hm) ((hcd d).1.symm.trans hf)
  · intro d hb
    rw [hp] at hb
    rw [(hcd d).1]
    refine (h.bare d hb).imp_right fun hn => ⟨hn.1, ?_⟩
    rintro ⟨c, hl⟩
    rw [hplace] at hl
    simp only [reduceCtorEq, or_false] at hl
  · intro p hl
    cases hplace.symm.trans hl

theorem Owns.goTo (h : Owns s o) (hcd : t.sys.countdown = s.sys.countdown)
    (hp : t.pending = s.pending) {p : Place} (hplace : t.place = some p) (hk : t.Known o p)
    (hl : t.Loading → s.Loading) : Owns t o := by
  refine ⟨?_, ?_, ?_⟩
  · rw [hcd]
    exact h.shown
  · intro d hb
    rw [hp] at hb
    rw [hcd]
    exact (h.bare d hb).imp_right fun hn => ⟨hn.1, fun ht => hn.2 (hl ht)⟩
  · intro q hq
    cases hplace.symm.trans hq
    exact hk

theorem not_loading {p : Place} (h : t.place = some p) (h1 : ∀ c, p ≠ .first c)
    (h2 : ∀ c, p ≠ .second c) (h3 : ∀ c, p ≠ .sync c) (h4 : ∀ c, p ≠ .num c) : ¬ t.Loading := by
  rintro ⟨c, hl | hl | hl | hl⟩
  · exact h1 c (Option.some.inj (h.symm.trans hl))
  · exact h2 c (Option.some.inj (h.symm.trans hl))
  · exact h3 c (Option.some.inj (h.symm.trans hl))
  · exact h4 c (Option.some.inj (h.symm.trans hl))

theorem watchOwner_place {p : Place} (h : s.place = some p) (hp : ∀ c, p ≠ .num c) :
    watchOwner o s .display t = o := by
  cases p with
  | num c => exact absurd rfl (hp c)
  | _ => simp only [watchOwner, h]

theorem Owns.armed (h : Owns s o) (hl : s.Loading) (hb : Bare d s.pending) :
    s.sys.countdown.flag d ≠ 0 := (h.bare d hb).resolve_right fun hn => hn.2 hl

theorem Owns.lowerMode (h : Owns s o) (hl : s.Loading) (e : Colour) {p : Place}
    (hk : ((s.write (s.sys.countdown.setMode e 0)).goTo p).Known o p) :
    Owns ((s.write (s.sys.countdown.setMode e 0)).goTo p) o := by
  have hflag (d : Colour) : (s.sys.countdown.setMode e 0).flag d = s.sys.countdown.flag d :=
    s.sys.countdown.setMode_flag e d 0
  refine ⟨?_, ?_, ?_⟩
  · intro d hm hf
    change (s.sys.countdown.setMode e 0).mode d = 1 at hm
    change (s.sys.countdown.setMode e 0).flag d = 0 at hf
    rw [Countdown.setMode_mode] at hm
    rw [hflag] at hf
    split at hm
    · cases hm
    · exact h.shown d hm hf
  · intro d hb
    left
    change (s.sys.countdown.setMode e 0).flag d ≠ 0
    rw [hflag]
    exact h.armed hl hb
  · intro q hq
    cases hq
    exact hk

theorem armed_setMode (cd : Countdown) (c d : Colour) (h : d = c ∨ Armed cd d) :
    Armed (cd.setMode c 0) d := by
  intro hm
  rw [Countdown.setMode_mode] at hm
  rw [Countdown.setMode_flag]
  split at hm
  · cases hm
  · rename_i hd
    exact h.resolve_left hd hm

theorem eq_or_others (c d : Colour) : d = c ∨ d = c.others.1 ∨ d = c.others.2 := by
  cases c <;> cases d <;> decide

theorem Owns.statement (h : Owns s o) {p : Place} (hp : s.place = some p) :
    Owns (s.statement p) (watchOwner o s .display (s.statement p)) := by
  have hk := h.known p hp
  cases p with
  | test c =>
    rw [watchOwner_place hp nofun]
    by_cases hm : s.sys.countdown.mode c = 1
    · rw [statement_test hm]
      have hshown : s.sys.countdown.flag c = 0 → o = some c := h.shown c hm
      split
      · exact h.goTo rfl rfl rfl hshown fun hl => absurd hl (not_loading rfl nofun nofun nofun nofun)
      · exact h.goTo rfl rfl rfl (fun _ => hshown)
          fun hl => absurd hl (not_loading rfl nofun nofun nofun nofun)
    · rw [statement_test_none hm]
      split <;> exact h.rest rfl (fun _ => ⟨rfl, rfl⟩) rfl
  | type c =>
    rw [watchOwner_place hp nofun, statement_type]
    split
    · exact h.goTo rfl rfl rfl trivial fun hl => absurd hl (not_loading rfl nofun nofun nofun nofun)
    · rename_i hc
      exact h.goTo rfl rfl rfl (hk hc)
        fun hl => absurd hl (not_loading rfl nofun nofun nofun nofun)
  | flag c =>
    rw [watchOwner_place hp nofun, Fine.statement]
    split
    · exact h.rest rfl (fun _ => ⟨rfl, rfl⟩) rfl
    · rename_i hf
      exact h.goTo rfl rfl rfl (hk (not_not.1 hf))
        fun hl => absurd hl (not_loading rfl nofun nofun nofun nofun)
  | first c =>
    rw [watchOwner_place hp nofun]
    exact h.lowerMode ⟨c, .inl hp⟩ c.others.1 (armed_setMode _ _ _ (.inl rfl))
  | second c =>
    rw [watchOwner_place hp nofun]
    exact h.lowerMode ⟨c, .inr (.inl hp)⟩ c.others.2
      ⟨armed_setMode _ _ _ (.inr hk), armed_setMode _ _ _ (.inl rfl)⟩
  | sync c =>
    rw [watchOwner_place hp nofun]
    refine ⟨fun d => ?_, fun d hb => .inl ?_, ?_⟩
    · cases d
      · exact h.shown .red
      · exact h.shown .green
      · exact h.shown .yellow
    · have hf := h.armed ⟨c, .inr (.inr (.inl hp))⟩ hb
      cases d <;> exact hf
    · intro q hq
      cases hq
      cases c <;> exact hk
  | num c =>
    have hw : watchOwner o s .display (s.statement (.num c)) = some c := by
      simp only [watchOwner, hp]
    rw [hw]
    have hflag (d : Colour) : (s.statement (.num c)).sys.countdown.flag d =
        s.sys.countdown.flag d := by cases d <;> rfl
    have hmode (d : Colour) : (s.statement (.num c)).sys.countdown.mode d =
        s.sys.countdown.mode d := by cases d <;> rfl
    refine ⟨?_, ?_, ?_⟩
    · intro d hm hf
      rw [hmode] at hm
      rw [hflag] at hf
      rcases eq_or_others c d with rfl | rfl | rfl
      · rfl
      · exact absurd hf (hk.1 hm)
      · exact absurd hf (hk.2 hm)
    · intro d hb
      left
      rw [hflag]
      exact h.armed ⟨c, .inr (.inr (.inr hp))⟩ hb
    · intro q hq
      cases hq
      rfl
  | lower c =>
    rw [watchOwner_place hp nofun]
    have hout : ¬ (s.statement (.lower c)).Loading := not_loading rfl nofun nofun nofun nofun
    refine ⟨?_, ?_, ?_⟩
    · intro d hm hf
      change (s.sys.countdown.setFlag c 0).mode d = 1 at hm
      change (s.sys.countdown.setFlag c 0).flag d = 0 at hf
      rw [Countdown.setFlag_mode] at hm
      rw [Countdown.setFlag_flag] at hf
      split at hf
      · rename_i hd
        rw [hd]
        exact hk
      · exact h.shown d hm hf
    · intro d hb
      change (s.sys.countdown.setFlag c 0).flag d ≠ 0 ∨ _
      rw [Countdown.setFlag_flag]
      split
      · rename_i hd
        rw [hd]
        exact .inr ⟨hk, hout⟩
      · exact (h.bare d hb).imp_right fun hn => ⟨hn.1, hout⟩
    · intro q hq
      cases hq
      exact hk
  | fits c =>
    rw [watchOwner_place hp nofun, Fine.statement]
    split
    · rename_i hle
      exact h.goTo rfl rfl rfl ⟨hk, hle⟩
        fun hl => absurd hl (not_loading rfl nofun nofun nofun nofun)
    · exact h.rest rfl (fun _ => ⟨rfl, rfl⟩) rfl
  | «show» c =>
    rw [watchOwner_place hp nofun]
    exact h.rest rfl (fun _ => ⟨rfl, rfl⟩) rfl

theorem watchOwner_none (h : s.place = none) {e : FineEvent} : watchOwner o s e t = o := by
  cases e <;> simp only [watchOwner, h]

theorem display_colour {a : Sys} (h : ∀ c, a.pc ≠ .load c) (d : Colour) :
    (CountdownOutside.display config a).countdown.flag d = a.countdown.flag d ∧
      (CountdownOutside.display config a).countdown.mode d = a.countdown.mode d := by
  rcases display_cases config a with ⟨hb, _⟩ | ⟨c, hc, _⟩ | ⟨_, _, hcd⟩
  · obtain ⟨hf, hm, _⟩ := display_boot_colour hb d
    exact ⟨hf, hm⟩
  · exact absurd hc (h c)
  · rw [hcd]
    exact ⟨rfl, rfl⟩

theorem Owns.display (h : Owns s o) (hs : s.display config = some t) :
    Owns t (watchOwner o s .display t) := by
  cases hp : s.place with
  | some p =>
    cases (display_place hp).symm.trans hs
    exact h.statement hp
  | none =>
    rw [watchOwner_none hp]
    rw [Fine.display, hp] at hs
    dsimp only at hs
    have hcoarse (hpc : ∀ c, s.sys.pc ≠ .load c) :
        Owns { s with sys := CountdownOutside.display config s.sys, place := none } o :=
      h.rest rfl (display_colour hpc) rfl
    cases hpc : s.sys.pc with
    | load c =>
      rw [hpc] at hs
      dsimp only at hs
      split at hs
      · rename_i hl
        cases hs
        refine ⟨h.shown, ?_, ?_⟩
        · intro d hb
          change Bare d s.pending at hb
          rw [hl] at hb
          exact absurd hb (not_bare_nil d)
        · intro q hq
          cases hq
          trivial
      · cases hs
    | entry =>
      rw [hpc] at hs
      dsimp only at hs
      split at hs
      · rename_i c _
        cases hs
        refine h.goTo rfl rfl rfl ?_ ?_
        · split
          · rename_i hc
            exact fun hy => absurd hc hy
          · trivial
        · intro hl
          refine absurd hl (not_loading rfl ?_ ?_ ?_ ?_) <;> intro d <;> split <;> rintro ⟨⟩
      · cases hs
        exact hcoarse (by rw [hpc]; exact Pc.entry_ne_load)
    | boot =>
      rw [hpc] at hs
      cases hs
      exact hcoarse (by rw [hpc]; rintro c ⟨⟩)
    | lit =>
      rw [hpc] at hs
      cases hs
      exact hcoarse (by rw [hpc]; exact Pc.lit_ne_load)
    | last =>
      rw [hpc] at hs
      cases hs
      exact hcoarse (by rw [hpc]; exact Pc.last_ne_load)

theorem owns_powerUp : Owns powerUp none where
  shown := by
    intro c hm
    cases c <;> cases hm
  bare := fun c hb => absurd hb (not_bare_nil c)
  known := nofun

theorem Owns.step (h : Owns s o) (horder : order.Perm [.num, .flag, .mode])
    (hf : FlagFirst order) {e : FineEvent} (hs : Fine.step config order s e = some t) :
    Owns t (watchOwner o s e t) := by
  cases e with
  | accept u =>
    rw [Fine.step] at hs
    split at hs
    · cases hs
      exact h.accept horder hf u
    · cases hs
  | store =>
    rw [Fine.step] at hs
    split at hs
    · cases hs
    · rename_i hp
      cases hs
      exact h.store hp
  | other e =>
    rw [Fine.step] at hs
    split at hs
    · rename_i he
      obtain ⟨b, hb, rfl⟩ := Option.map_eq_some_iff.1 hs
      exact h.other he hb
    · cases hs
  | display => exact h.display hs

theorem run_owns (horder : order.Perm [.num, .flag, .mode]) (hf : FlagFirst order)
    (h : run (observe (Fine.step config order) watchOwner) (powerUp, none) es = some (s, o)) :
    Owns s o := by
  apply run_invariant (P := fun p : Fine × Option Colour => Owns p.1 p.2) _ owns_powerUp h
  rintro p e q hp hs
  obtain ⟨hstep, hw⟩ := observe_eq_some.1 hs
  rw [hw]
  exact hp.step horder hf hstep

/-- A red number is loaded and shown; then a green one arrives under a green lamp, and the parser is
preempted after so many stores, while the display thread comes to show a number. -/
def preempted (order : List Arming) (k : Nat) : List FineEvent :=
  [.display, .accept { Update.idle with arm := some (.red, 23) }] ++
    List.replicate order.length .store ++
    [.other (.lamps { Lamps.dark with aheadR := true })] ++ List.replicate 12 .display ++
    [.other (.lamps .dark), .accept { Update.idle with arm := some (.green, 45) }] ++
    List.replicate k .store ++ List.replicate 6 .display

theorem not_everyStep_ownShown (order : List Arming) (k : Nat)
    (h : (run (observe (Fine.step vehicleDial order) watchOwner) (powerUp, none)
      (preempted order k)).map (fun p => (p.1.place, p.2)) =
        some (some (.show .green), some .red)) :
    ¬ EveryStep (observe (Fine.step vehicleDial order) watchOwner) (powerUp, none)
      (preempted order k ++ [.display]) OwnShown := by
  obtain ⟨⟨s, o⟩, hr, ho⟩ := Option.map_eq_some_iff.1 h
  obtain ⟨hplace, hown⟩ := Prod.mk.inj ho
  intro hall
  have hstep : observe (Fine.step vehicleDial order) watchOwner (s, o) .display =
      some (s.statement (.show .green), watchOwner o s .display (s.statement (.show .green))) :=
    observe_eq_some.2 ⟨display_place hplace, rfl⟩
  obtain ⟨hred, _⟩ := hall _ .display [] _ _ rfl hr hstep .green rfl hplace
  cases hown.symm.trans hred

/-- Whatever the dial and whatever happens, only numbers that were loaded from the colour they are
shown in are shown. -/
def ShowsOwn (order : List Arming) : Prop := ∀ config es,
  EveryStep (observe (Fine.step config order) watchOwner) (powerUp, none) es OwnShown

/-- A display thread that may be preempted in front of any of its statements by a parser that may be
preempted after any of its stores shows numbers in their own colours, if and only if the parser sets
a colour's flag before its mode. A parser that was preempted is taken to be done before the delay of
a load is over, as `display` has it. -/
theorem preempted_shows_own_iff (horder : order.Perm [.num, .flag, .mode]) :
    ShowsOwn order ↔ FlagFirst order := by
  constructor
  · intro hall
    by_contra hf
    have hmem := order_cases horder
    simp only [List.mem_cons, List.not_mem_nil, or_false] at hmem
    rcases hmem with rfl | rfl | rfl | rfl | rfl | rfl
    · exact hf (by decide)
    · exact not_everyStep_ownShown [.num, .mode, .flag] 2 (by decide +kernel) (hall _ _)
    · exact hf (by decide)
    · exact hf (by decide)
    · exact not_everyStep_ownShown [.mode, .num, .flag] 1 (by decide +kernel) (hall _ _)
    · exact not_everyStep_ownShown [.mode, .flag, .num] 1 (by decide +kernel) (hall _ _)
  · rintro hf config es as e bs ⟨s, o⟩ q _ hr _ c rfl hplace
    exact (run_owns horder hf hr).known (.show c) hplace

/-- The parsers of Ge-Lin-Wei and of the older standard are safe, that of the newer one is not. -/
theorem preempted_shows_own_iff_parsers :
    ShowsOwn geLinWeiOrder ∧ ShowsOwn gat2004Order ∧ ¬ ShowsOwn gat2014Order :=
  ⟨(preempted_shows_own_iff (by decide)).2 (by decide),
    (preempted_shows_own_iff (by decide)).2 (by decide),
    fun h => absurd ((preempted_shows_own_iff (by decide)).1 h) (by decide)⟩

end Fine

end CountdownOutside
