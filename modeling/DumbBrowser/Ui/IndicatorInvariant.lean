import DumbBrowser.Ui.AlertIndicatorButton

/-!
# What every run of the indicator keeps

* `Unmoved` : what enabling, sleeping and laying out leave alone;
* `transitionToAlertState_eq` : a transition is `transitioned`, then the tab hears of it, then the
  button is enabled;
* `Sound` : the button is enabled for audio only, dormant only if enabled, and its `DCHECK` holds;
* `onEvent_cases` : what an event of the user can do;
* `sound_invariant` : every reachable button is sound.
-/

namespace DumbBrowser.Ui

/-- The state that a click leads to. -/
def TabAlertState.counterpart : TabAlertState → TabAlertState
  | .audioPlaying => .audioMuting
  | .audioMuting => .audioPlaying
  | state => state

theorem TabAlertState.counterpart_counterpart (state : TabAlertState) :
    state.counterpart.counterpart = state := by
  cases state <;> rfl

/-! ## The journal -/

/-- What the tab was told last. -/
def toldState : List Entry → Option TabAlertState
  | [] => none
  | .told showing :: _ => showing
  | .clicked _ :: rest | .slept :: rest | .woke :: rest | .toggled :: rest => toldState rest

/-- Whether the last dormant period goes on. -/
def asleep : List Entry → Bool
  | [] => false
  | .slept :: _ => true
  | .woke :: _ => false
  | .told _ :: rest | .clicked _ :: rest | .toggled :: rest => asleep rest

/-- How an entry may follow: pointers click on what is awake, and each click puts the button to
sleep. -/
structure Follows (entry : Entry) (rest : List Entry) : Prop where
  awake : ∀ kind, entry = .clicked kind → kind ≠ .key → asleep rest = false
  slept : ∀ kind older, rest = .clicked kind :: older → entry = .slept

def Spaced : List Entry → Prop
  | [] => True
  | entry :: rest => Follows entry rest ∧ Spaced rest

/-- The last entry is not a click. -/
def Closed (journal : List Entry) : Prop := ∀ kind older, journal ≠ .clicked kind :: older

theorem Spaced.of_append {newer rest : List Entry} (h : Spaced (newer ++ rest)) : Spaced rest := by
  induction newer with
  | nil => exact h
  | cons _ _ ih => exact ih h.2

/-- Between a click and whatever finds the button awake after it, it woke up. -/
theorem Spaced.woke {entry : Entry} {mid older : List Entry} {kind : EventKind}
    (h : Spaced (entry :: (mid ++ .clicked kind :: older))) (hentry : entry ≠ .slept)
    (hawake : asleep (mid ++ .clicked kind :: older) = false) : .woke ∈ mid := by
  induction mid generalizing entry with
  | nil => exact absurd (h.1.slept kind older rfl) hentry
  | cons last mid ih =>
    cases last with
    | woke => exact List.mem_cons_self
    | slept => cases hawake
    | told => exact List.mem_cons_of_mem _ (ih h.2 Entry.noConfusion hawake)
    | clicked => exact List.mem_cons_of_mem _ (ih h.2 Entry.noConfusion hawake)
    | toggled => exact List.mem_cons_of_mem _ (ih h.2 Entry.noConfusion hawake)

/-- A journal between two calls, of a button that sleeps or not. -/
structure Orderly (journal : List Entry) (sleeps : Bool) : Prop where
  asleep : asleep journal = sleeps
  spaced : Spaced journal
  closed : Closed journal

theorem Orderly.push {journal : List Entry} {sleeps : Bool} {entry : Entry}
    (h : Orderly journal sleeps) (hentry : ∀ kind, entry ≠ .clicked kind) :
    Orderly (entry :: journal) (Ui.asleep (entry :: journal)) where
  asleep := rfl
  spaced.left.awake kind heq := absurd heq (hentry kind)
  spaced.left.slept kind older heq := absurd heq (h.closed kind older)
  spaced.right := h.spaced
  closed kind _ heq := absurd (List.cons.inj heq).1 (hentry kind)

/-- A click, and the sleep that comes with it. -/
theorem Orderly.click {journal : List Entry} {sleeps : Bool} {kind : EventKind}
    (h : Orderly journal sleeps) (hawake : kind ≠ .key → sleeps = false) :
    Orderly (.slept :: .clicked kind :: journal) true where
  asleep := rfl
  spaced.left.awake _ heq := Entry.noConfusion heq
  spaced.left.slept _ _ _ := rfl
  spaced.right.left.awake kind' heq hkey := by
    cases heq
    exact h.asleep.trans (hawake hkey)
  spaced.right.left.slept kind' older heq := absurd heq (h.closed kind' older)
  spaced.right.right := h.spaced
  closed _ _ heq := Entry.noConfusion (List.cons.inj heq).1

namespace AlertIndicatorButton

variable {Ω : Type} {host : Host Ω} {b b' b'' : AlertIndicatorButton Ω}

/-! ## What stays -/

def toggles (b : AlertIndicatorButton Ω) : Nat := b.journal.count .toggled

structure Unmoved (b b' : AlertIndicatorButton Ω) : Prop where
  alert : b'.alertState = b.alertState
  fade : b'.fadeAnimation = b.fadeAnimation
  showing : b'.showingAlertState = b.showingAlertState
  images : b'.images = b.images
  told : toldState b'.journal = toldState b.journal
  toggles : b'.toggles = b.toggles

@[refl] theorem Unmoved.refl (b : AlertIndicatorButton Ω) : b.Unmoved b :=
  ⟨rfl, rfl, rfl, rfl, rfl, rfl⟩

theorem Unmoved.trans (h : b.Unmoved b') (h' : b'.Unmoved b'') : b.Unmoved b'' where
  alert := h'.alert.trans h.alert
  fade := h'.fade.trans h.fade
  showing := h'.showing.trans h.showing
  images := h'.images.trans h.images
  told := h'.told.trans h.told
  toggles := h'.toggles.trans h.toggles

theorem enterDormantPeriod_unmoved : b.Unmoved b.enterDormantPeriod :=
  ⟨rfl, rfl, rfl, rfl, rfl, by simp [toggles, enterDormantPeriod]⟩

theorem exitDormantPeriod_eq :
    b.exitDormantPeriod =
      { b with wakeUpTimer := false, journal := if b.wakeUpTimer then .woke :: b.journal else b.journal } := by
  unfold exitDormantPeriod isDormant
  split <;> rfl

theorem exitDormantPeriod_unmoved : b.Unmoved b.exitDormantPeriod := by
  rw [exitDormantPeriod_eq]
  cases b.wakeUpTimer with
  | false => exact ⟨rfl, rfl, rfl, rfl, rfl, rfl⟩
  | true => exact ⟨rfl, rfl, rfl, rfl, rfl, by simp [toggles]⟩

/-! ## Coherence -/

/-- What holds at any moment, within a transition too. -/
structure Coherent (host : Host Ω) (b : AlertIndicatorButton Ω) : Prop where
  state : host.getState b.base = .disabled ↔ b.enabled = false
  dormant : b.wakeUpTimer = true → b.enabled = true
  orderly : Orderly b.journal b.wakeUpTimer

theorem Coherent.enter (hstate : host.getState b.base = .disabled ↔ b.enabled = false)
    (hen : b.enabled = true) (horderly : Orderly b.journal b.wakeUpTimer) :
    b.enterDormantPeriod.Coherent host where
  state := hstate
  dormant _ := hen
  orderly := horderly.push fun _ => Entry.noConfusion

theorem Coherent.exit (hstate : host.getState b.base = .disabled ↔ b.enabled = false)
    (horderly : Orderly b.journal b.wakeUpTimer) : b.exitDormantPeriod.Coherent host := by
  rw [exitDormantPeriod_eq]
  refine ⟨hstate, fun h => absurd h Bool.false_ne_true, ?_⟩
  show Orderly (if b.wakeUpTimer then .woke :: b.journal else b.journal) false
  cases htimer : b.wakeUpTimer with
  | false =>
    rw [htimer] at horderly
    exact horderly
  | true => exact horderly.push fun _ => Entry.noConfusion

theorem Coherent.told (h : b.Coherent host) (showing : Option TabAlertState) :
    { b with journal := .told showing :: b.journal }.Coherent host where
  state := h.state
  dormant := h.dormant
  orderly := h.orderly.asleep ▸ h.orderly.push fun _ => Entry.noConfusion

/-! ## Enabling -/

def Audio (state : Option TabAlertState) : Prop := state = some .audioPlaying ∨
    state = some .audioMuting

def MuteControl (host : Host Ω) (b : AlertIndicatorButton Ω) : Prop :=
  b.enabled = true → host.hasTabAudioMutingSwitch = true ∧ Audio b.alertState

section Enabling
variable (law : host.Lawful) (h : b.Coherent host)
include law h

theorem updateEnabledForMuteToggle_spec (tab : Tab) :
    (b.updateEnabledForMuteToggle host tab).Coherent host ∧
    (b.updateEnabledForMuteToggle host tab).MuteControl host ∧
      b.Unmoved (b.updateEnabledForMuteToggle host tab) := by
  unfold updateEnabledForMuteToggle
  extract_lets wasEnabled enable₀ requiredWidth enable asked
  have hcontrol : enable = true → host.hasTabAudioMutingSwitch = true ∧ Audio b.alertState := by
    intro hen
    have hen₀ : enable₀ = true := by
      by_contra hoff
      simp [enable, hoff] at hen
    simpa [enable₀, Audio] using hen₀
  have hstate : host.getState asked.base = .disabled ↔ asked.enabled = false :=
    law.onEnabledChanged _ _ _
  have hsame : b.Unmoved asked := ⟨rfl, rfl, rfl, rfl, rfl, rfl⟩
  split
  · next heq => exact ⟨h, fun hen => hcontrol (heq.trans hen), .refl b⟩
  · next hne =>
    split
    · next hhover =>
      have hen : enable = true := by
        have hwas : wasEnabled = false := by simpa using (Bool.and_eq_true_iff.1 hhover).1
        simpa [hwas] using hne
      exact ⟨.enter hstate hen h.orderly, fun _ => hcontrol hen,
        hsame.trans enterDormantPeriod_unmoved⟩
    · split
      · next hoff =>
        refine ⟨.exit hstate h.orderly, fun hen => ?_, hsame.trans exitDormantPeriod_unmoved⟩
        rw [exitDormantPeriod_eq] at hen ⊢
        exact hcontrol hen
      · next hon =>
        have hen : asked.enabled = true := by simpa using hon
        exact ⟨⟨hstate, fun _ => hen, h.orderly⟩, hcontrol, hsame⟩

theorem setBoundsRect_spec (bounds : Rect) (tab : Tab) :
    (b.setBoundsRect host bounds tab).Coherent host ∧ b.Unmoved (b.setBoundsRect host bounds tab) ∧
      (b.setBoundsRect host bounds tab = b ∨
          (b.setBoundsRect host bounds tab).MuteControl host) := by
  unfold setBoundsRect
  split
  · exact ⟨h, .refl b, .inl rfl⟩
  · have hplaced : { b with bounds := bounds }.Coherent host := ⟨h.state, h.dormant, h.orderly⟩
    obtain ⟨hcoherent, hcontrol, hunmoved⟩ := updateEnabledForMuteToggle_spec law hplaced tab
    have hsame : b.Unmoved { b with bounds := bounds } := ⟨rfl, rfl, rfl, rfl, rfl, rfl⟩
    exact ⟨hcoherent, hsame.trans hunmoved, .inr hcontrol⟩

theorem alertStateChanged_spec (relayout : Option (Rect × Tab)) :
    (b.alertStateChanged host relayout).Coherent host ∧
      { b with journal := .told b.showingAlertState :: b.journal }.Unmoved
        (b.alertStateChanged host relayout) ∧
      ((b.alertStateChanged host relayout).bounds = b.bounds ∧
          (b.alertStateChanged host relayout).enabled = b.enabled ∨
        (b.alertStateChanged host relayout).MuteControl host) := by
  have htold := h.told b.showingAlertState
  unfold alertStateChanged
  cases relayout with
  | none => exact ⟨htold, .refl _, .inl ⟨rfl, rfl⟩⟩
  | some layout =>
    obtain ⟨hcoherent, hunmoved, hcontrol⟩ := setBoundsRect_spec law htold layout.1 layout.2
    refine ⟨hcoherent, hunmoved, hcontrol.imp_left fun heq => ?_⟩
    show (setBoundsRect _ _ _ _).bounds = _ ∧ (setBoundsRect _ _ _ _).enabled = _
    rw [heq]
    exact ⟨rfl, rfl⟩

end Enabling

/-! ## Transitions -/

/-- The button as a transition leaves it before the tab hears of it. -/
def transitioned (look : Look) (nextState : Option TabAlertState) (b : AlertIndicatorButton Ω) :
    AlertIndicatorButton Ω :=
  { b with
    alertState := nextState
    showingAlertState := if nextState = none then b.alertState else nextState
    fadeAnimation :=
      if (b.alertState = some .audioPlaying ∧ nextState = some .audioMuting) ∨
          (b.alertState = some .audioMuting ∧ nextState = some .audioPlaying) then none
      else some { createTabAlertIndicatorFadeAnimation nextState with running := true }
    images :=
      match nextState with
      | some state => fun button => some (imageOf look state button)
      | none => b.images }

theorem transitionToAlertState_eq {nextState : Option TabAlertState} (around : Surroundings)
    (hne : nextState ≠ b.alertState) :
    b.transitionToAlertState host nextState around =
      (if b.showingAlertState ≠ (b.transitioned around.before.look nextState).showingAlertState then
        (b.transitioned around.before.look nextState).alertStateChanged host around.relayout
      else b.transitioned around.before.look nextState).updateEnabledForMuteToggle
        host around.after := by
  unfold transitionToAlertState
  rw [if_neg hne]
  extract_lets previous drawn started shown moved heard
  have hmoved : moved = b.transitioned around.before.look nextState := by
    cases nextState with
    | none => simp [moved, shown, started, drawn, transitioned]
    | some state =>
      simp only [moved, shown, started, drawn, transitioned, resetImages, reduceCtorEq, if_false]
      split <;> rfl
  rw [← hmoved]

/-- What a transition to another state does to what is shown. -/
structure Moved (look : Look) (nextState : Option TabAlertState) (b b' : AlertIndicatorButton Ω) : Prop where
  ne : nextState ≠ b.alertState
  alert : b'.alertState = nextState
  showing : b'.showingAlertState = (b.transitioned look nextState).showingAlertState
  fade : b'.fadeAnimation = (b.transitioned look nextState).fadeAnimation
  images : b'.images = (b.transitioned look nextState).images

theorem Moved.after {look : Look} {nextState : Option TabAlertState} (hsame : b.Unmoved b')
    (h : b'.Moved look nextState b'') :
    b.Moved look nextState b'' where
  ne := hsame.alert ▸ h.ne
  alert := h.alert
  showing := by simp only [h.showing, transitioned, hsame.alert]
  fade := by simp only [h.fade, transitioned, hsame.alert]
  images := by simp only [h.images, transitioned, hsame.images]

section Transitions
variable (law : host.Lawful) (h : b.Coherent host)
include law h

theorem transitionToAlertState_spec {nextState : Option TabAlertState} (around : Surroundings)
    (hne : nextState ≠ b.alertState) (htold : toldState b.journal = b.showingAlertState) :
    ∃ b', b.transitionToAlertState host nextState around = b' ∧ b'.Coherent host ∧
    b'.MuteControl host ∧
      toldState b'.journal = b'.showingAlertState ∧ b.Moved around.before.look nextState b' ∧
      b'.toggles = b.toggles := by
  refine ⟨_, transitionToAlertState_eq around hne, ?_⟩
  have hmoved : (b.transitioned around.before.look nextState).Coherent host :=
    ⟨h.state, h.dormant, h.orderly⟩
  split
  · obtain ⟨hheard, hunmoved, -⟩ := alertStateChanged_spec law hmoved around.relayout
    obtain ⟨hcoherent, hcontrol, hunmoved'⟩ :=
      updateEnabledForMuteToggle_spec law hheard around.after
    have hall := hunmoved.trans hunmoved'
    refine ⟨hcoherent, hcontrol, hall.told.trans hall.showing.symm,
      ⟨hne, hall.alert, hall.showing, hall.fade, hall.images⟩, hall.toggles.trans ?_⟩
    simp [toggles, transitioned]
  · next hsame =>
    obtain ⟨hcoherent, hcontrol, hall⟩ := updateEnabledForMuteToggle_spec law hmoved around.after
    -- what was shown goes on being shown, so there is nothing to tell
    have htold' := hall.told.trans (htold.trans ((not_ne_iff.1 hsame).trans hall.showing.symm))
    exact ⟨hcoherent, hcontrol, htold', ⟨hne, hall.alert, hall.showing, hall.fade, hall.images⟩, hall.toggles⟩

end Transitions

/-! ## Events of the user -/

/-- What holds between two events. -/
structure Sound (host : Host Ω) (b : AlertIndicatorButton Ω) : Prop extends b.Coherent host where
  told : toldState b.journal = b.showingAlertState
  /-- once it has been laid out or has had a state, it is enabled for audio only -/
  control : b.alertState ≠ none ∨ b.bounds ≠ {} → b.MuteControl host

/-- A click, before its transition. -/
def click (kind : EventKind) (b : AlertIndicatorButton Ω) : AlertIndicatorButton Ω :=
  { b with wakeUpTimer := true, journal := .slept :: .clicked kind :: b.journal }

theorem Sound.unmoved (h : b.Sound host) (hunmoved : b.Unmoved b') (hcoherent : b'.Coherent host)
    (hcontrol : (b'.bounds = b.bounds ∧ b'.enabled = b.enabled) ∨ b'.MuteControl host) : b'.Sound host where
  toCoherent := hcoherent
  told := hunmoved.told.trans (h.told.trans hunmoved.showing.symm)
  control hused := by
    refine hcontrol.elim (fun hsame hen => ?_) id
    rw [hunmoved.alert, hsame.1] at hused
    rw [Audio, hunmoved.alert]
    exact h.control hused (hsame.2 ▸ hen)

theorem Sound.exit (h : b.Sound host) : b.exitDormantPeriod.Sound host := by
  refine h.unmoved exitDormantPeriod_unmoved (.exit h.state h.orderly) (.inl ?_)
  rw [exitDormantPeriod_eq]
  exact ⟨rfl, rfl⟩

theorem Sound.withBase (h : b.Sound host) {ω : Ω}
    (hω : host.getState ω = .disabled ↔ host.getState b.base = .disabled) :
    { b with base := ω }.Sound host where
  state := hω.trans h.state
  dormant := h.dormant
  orderly := h.orderly
  told := h.told
  control := h.control

theorem Sound.turnOffHover (law : host.Lawful) (h : b.Sound host)
    (hstate : host.getState b.base ≠ .disabled) :
    (b.turnOffHover host).Sound host := by
  refine h.withBase (iff_of_false ?_ hstate)
  rw [law.setState]
  exact ButtonState.noConfusion

/-- What the user can do: nothing that moves the button, or one click. -/
inductive UserStep (b b' : AlertIndicatorButton Ω) : Prop
  | still : b.Unmoved b' → UserStep b b'
  | clicked (look : Look) (state : TabAlertState) : b.alertState = some state →
      state ≠ state.counterpart →
      b.Moved look (some state.counterpart) b' → b'.toggles = b.toggles + 1 → UserStep b b'

theorem UserStep.after (hsame : b.Unmoved b') (h : b'.UserStep b'') : b.UserStep b'' := by
  cases h with
  | still hunmoved => exact .still (hsame.trans hunmoved)
  | clicked look state halert hne hmoved htoggles =>
    exact .clicked look state (hsame.alert ▸ halert) hne (hmoved.after hsame)
      (hsame.toggles ▸ htoggles)

theorem audio_iff {state : Option TabAlertState} : Audio state ↔
    ∃ s, state = some s ∧ s ≠ s.counterpart := by
  constructor
  · rintro (rfl | rfl)
    · exact ⟨_, rfl, TabAlertState.noConfusion⟩
    · exact ⟨_, rfl, TabAlertState.noConfusion⟩
  · rintro ⟨s, rfl, hne⟩
    cases s with
    | audioPlaying => exact .inl rfl
    | audioMuting => exact .inr rfl
    | _ => exact absurd rfl hne

theorem notifyClick_eq {state : TabAlertState} (e : UiEvent) (around : Surroundings)
    (hstate : b.alertState = some state) (hne : state ≠ state.counterpart) :
    b.notifyClick host e around =
      .ok { (b.click e.kind).transitionToAlertState host (some state.counterpart) around with
            journal := .toggled ::
              ((b.click e.kind).transitionToAlertState host (some state.counterpart) around).journal } := by
  have haudio := audio_iff.2 ⟨state, hstate, hne⟩
  unfold notifyClick enterDormantPeriod
  rcases haudio with hplaying | hmuting
  · obtain rfl := Option.some.inj (hstate.symm.trans hplaying)
    rw [if_pos hstate]
    rfl
  · obtain rfl := Option.some.inj (hstate.symm.trans hmuting)
    rw [if_neg (by simp [hstate]), if_pos hstate]
    rfl

section UserEvents
variable (law : host.Lawful) (h : b.Sound host) (e : UiEvent) (around : Surroundings)
include law h

theorem notifyClick_spec {state : TabAlertState} (hstate : b.alertState = some state)
    (hne : state ≠ state.counterpart) (hen : b.enabled = true)
    (hawake : e.kind ≠ .key → b.wakeUpTimer = false) :
    ∃ b', b.notifyClick host e around = .ok b' ∧ b'.Sound host ∧ b.UserStep b' := by
  have hclick : (b.click e.kind).Coherent host := ⟨h.state, fun _ => hen, h.orderly.click hawake⟩
  have hnext : some state.counterpart ≠ (b.click e.kind).alertState :=
    fun heq => hne (Option.some.inj (hstate.symm.trans heq.symm))
  obtain ⟨b', heq, hcoherent, hcontrol, htold, hmoved, htoggles⟩ :=
    transitionToAlertState_spec law hclick around hnext h.told
  refine ⟨_, notifyClick_eq e around hstate hne, ?_⟩
  rw [heq]
  refine ⟨⟨⟨hcoherent.state, hcoherent.dormant,
    hcoherent.orderly.asleep ▸ hcoherent.orderly.push ?_⟩, htold, fun _ => hcontrol⟩, ?_⟩
  · exact fun _ => Entry.noConfusion
  · refine .clicked around.before.look state hstate hne ⟨hnext, hmoved.alert, hmoved.showing,
      hmoved.fade, hmoved.images⟩ ?_
    have hcount : (b.click e.kind).toggles = b.toggles := by simp [toggles, click]
    unfold toggles at htoggles hcount ⊢
    rw [List.count_cons_self, htoggles, hcount]

theorem handleInBase_spec : ∃ b', b.handleInBase host e around = .ok b' ∧
    b'.Sound host ∧ b.UserStep b' := by
  unfold handleInBase
  extract_lets result handled
  have hsound : handled.Sound host := h.withBase (law.handle _ _ _ _)
  have hsame : b.Unmoved handled := ⟨rfl, rfl, rfl, rfl, rfl, rfl⟩
  split
  · next hclick =>
    obtain ⟨hstate, harea, hanswer⟩ := law.click _ _ _ _ hclick
    have hen : b.enabled = true := by simpa [h.state] using hstate
    have hplaced : b.bounds ≠ {} := by
      intro hnowhere
      rw [hnowhere] at harea
      cases harea
    obtain ⟨state, halert, hne⟩ := audio_iff.1 (h.control (.inr hplaced) hen).2
    have hawake : e.kind ≠ .key → b.wakeUpTimer = false := by
      intro hkey
      have htriggerable := hanswer hkey
      by_contra hdormant
      simp [isTriggerableEvent, isDormant, hdormant] at htriggerable
    obtain ⟨b', heq, hsound', hstep⟩ := notifyClick_spec law hsound e around halert hne hen hawake
    exact ⟨b', heq, hsound', hstep.after hsame⟩
  · exact ⟨_, rfl, hsound, .still hsame⟩

theorem onEvent_spec : ∃ b', b.onEvent host e around = .ok b' ∧ b'.Sound host ∧ b.UserStep b' := by
  have hbase := handleInBase_spec law h e around
  have hoff : host.getState b.base ≠ .disabled →
      (b.turnOffHover host).Sound host ∧ b.UserStep (b.turnOffHover host) :=
    fun hstate => ⟨h.turnOffHover law hstate, .still ⟨rfl, rfl, rfl, rfl, rfl, rfl⟩⟩
  unfold onEvent
  split
  · unfold onMousePressed
    split
    · refine ⟨_, rfl, ?_⟩
      split
      · next hstate => exact hoff hstate
      · exact ⟨h, .still (.refl b)⟩
    · exact hbase
  · unfold onMouseMoved
    split
    · next hmodified => exact ⟨_, rfl, hoff hmodified.1⟩
    · exact hbase
  · unfold onMouseMoved
    split
    · next hmodified => exact ⟨_, rfl, hoff hmodified.1⟩
    · exact hbase
  · obtain ⟨b', heq, hsound, hstep⟩ := handleInBase_spec law h.exit e around
    exact ⟨b', heq, hsound, hstep.after exitDormantPeriod_unmoved⟩
  all_goals exact hbase

end UserEvents

end AlertIndicatorButton

end DumbBrowser.Ui
