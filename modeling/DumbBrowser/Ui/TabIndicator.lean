import DumbBrowser.Ui.IndicatorInvariant
import Mathlib.Algebra.Ring.Parity

/-!
# The indicator and its tab

* `exec_spec` : an event keeps the button sound, and changes it as `TabStep` says;
* `showing_invariant`, `painted` : what is shown is the alert state, but while it fades out, and the
  picture is of it;
* `mute_control` : the button is there for audio only, and no `DCHECK` of it fails;
* `clicks_apart` : no second click comes through before the button woke up;
* `agreement` : the button agrees with the data of the tab but for clicks that the data has not
  followed.
-/

namespace DumbBrowser.Ui

open AlertIndicatorButton

/-! ## One step -/

/-- What an event does to the button and to what the data of the tab shows. -/
inductive TabStep {Ω : Type} (w w' : TabWorld Ω) : Prop
  | still : w.button.Unmoved w'.button → w'.shown = w.shown → TabStep w w'
  | drawn (look : Look) (state : TabAlertState) : w.button.alertState = some state →
      { w.button with images := fun button => some (imageOf look state button) }.Unmoved w'.button →
      w'.shown = w.shown → TabStep w w'
  | ended :
      { w.button with
        fadeAnimation := w.button.fadeAnimation.map FadeAnimation.stopped
        showingAlertState := w.button.alertState
        journal := .told w.button.alertState :: w.button.journal }.Unmoved w'.button →
      w'.shown = w.shown → TabStep w w'
  | moved (look : Look) : w.button.Moved look w'.shown w'.button →
      w'.button.toggles = w.button.toggles →
      w'.shown ≠ w.shown → TabStep w w'
  /-- the data has come to what a click had made of the button -/
  | caughtUp : w.button.Unmoved w'.button → w'.shown = w.button.alertState →
      w'.shown ≠ w.shown → TabStep w w'
  | clicked (look : Look) (state : TabAlertState) : w.button.alertState = some state →
      state ≠ state.counterpart →
      w.button.Moved look (some state.counterpart) w'.button →
        w'.button.toggles = w.button.toggles + 1 →
      w'.shown = w.shown → TabStep w w'

namespace TabWorld

variable {Ω : Type} {host : Host Ω} {w w' : TabWorld Ω}

section Step
variable (law : host.Lawful) (h : w.button.Sound host) (around : Surroundings)
include law h

theorem setData_spec (shown : Option TabAlertState) :
    (w.setData host shown around).button.Sound host ∧ TabStep w (w.setData host shown around) := by
  unfold setData
  by_cases hshown : shown = w.shown
  · rw [if_neg (not_not.2 hshown)]
    exact ⟨h, .still (.refl _) hshown⟩
  · rw [if_pos hshown]
    by_cases halert : shown = w.button.alertState
    · have hsame : w.button.transitionToAlertState host shown around = w.button := if_pos halert
      rw [hsame]
      exact ⟨h, .caughtUp (.refl _) halert hshown⟩
    · obtain ⟨b', heq, hcoherent, hcontrol, htold, hmoved, htoggles⟩ :=
        transitionToAlertState_spec law h.toCoherent around halert h.told
      rw [heq]
      exact ⟨⟨hcoherent, htold, fun _ => hcontrol⟩,
        .moved around.before.look hmoved htoggles hshown⟩

omit law in
theorem updateForegroundColors_spec (changed : Bool) :
    (w.updateForegroundColors changed around).button.Sound host ∧
      (w.updateForegroundColors changed around).shown = w.shown ∧
      ∀ w' : TabWorld Ω, (w.updateForegroundColors changed around).button.Unmoved w'.button →
        w'.shown = w.shown →
        TabStep w w' := by
  unfold updateForegroundColors onParentTabButtonColorChanged
  cases changed with
  | false => exact ⟨h, rfl, fun _ => .still⟩
  | true =>
    cases halert : w.button.alertState with
    | none => exact ⟨h, rfl, fun _ => .still⟩
    | some state =>
      by_cases haudio : state = .audioPlaying ∨ state = .audioMuting
      · simp only [if_pos haudio, if_true]
        exact ⟨⟨⟨h.state, h.dormant, h.orderly⟩, h.told, h.control⟩, trivial, fun _ =>
          .drawn around.before.look state halert⟩
      · simp only [if_neg haudio, if_true]
        exact ⟨h, trivial, fun _ => .still⟩

theorem animationEnded_spec :
    (w.button.animationEnded host around).Sound host ∧
      TabStep w { w with button := w.button.animationEnded host around } := by
  unfold animationEnded
  generalize hended : { w.button with
    fadeAnimation := w.button.fadeAnimation.map FadeAnimation.stopped
    showingAlertState := w.button.alertState } = ended
  have hcoherent : ended.Coherent host := hended ▸ ⟨h.state, h.dormant, h.orderly⟩
  obtain ⟨hheard, hunmoved, hcontrol⟩ := alertStateChanged_spec law hcoherent around.relayout
  have htold : { ended with journal := .told ended.showingAlertState :: ended.journal }.Sound host :=
    ⟨hcoherent.told _, rfl, hended ▸ h.control⟩
  refine ⟨htold.unmoved hunmoved hheard hcontrol, .ended ?_ rfl⟩
  subst hended
  exact hunmoved

/-- An event fails no `DCHECK`, keeps the button sound, and does what `TabStep` says. -/
theorem exec_spec (e : TabEvent) : ∃ w', w.exec host e around = .ok w' ∧
    w'.button.Sound host ∧ TabStep w w' := by
  cases e with
  | setData shown => exact ⟨_, rfl, setData_spec law h around shown⟩
  | updateForegroundColors changed =>
    obtain ⟨hsound, hshown, hstep⟩ := updateForegroundColors_spec h around changed
    exact ⟨_, rfl, hsound, hstep _ (.refl _) hshown⟩
  | activeStateChanged changed =>
    obtain ⟨hsound, hshown, hstep⟩ := updateForegroundColors_spec h around changed
    obtain ⟨hcoherent, hcontrol, hunmoved⟩ :=
      updateEnabledForMuteToggle_spec law hsound.toCoherent around.after
    exact ⟨_, rfl, hsound.unmoved hunmoved hcoherent (.inr hcontrol), hstep _ hunmoved hshown⟩
  | layout bounds =>
    obtain ⟨hcoherent, hunmoved, hcontrol⟩ :=
      setBoundsRect_spec law h.toCoherent bounds around.after
    refine ⟨_, rfl, h.unmoved hunmoved hcoherent (hcontrol.imp_left fun heq => ?_),
      .still hunmoved rfl⟩
    rw [heq]
    exact ⟨rfl, rfl⟩
  | animationEnded => exact ⟨_, rfl, animationEnded_spec law h around⟩
  | wakeUp => exact ⟨_, rfl, h.exit, .still exitDormantPeriod_unmoved rfl⟩
  | input e =>
    obtain ⟨b', heq, hsound, hstep⟩ := onEvent_spec law h e around
    refine ⟨_, congrArg (Except.map _) heq, hsound, ?_⟩
    cases hstep with
    | still hunmoved => exact .still hunmoved rfl
    | clicked look state halert hne hmoved htoggles =>
      exact .clicked look state halert hne hmoved htoggles rfl

end Step

end TabWorld

/-! ## A base class -/

/-- A button that is its state: presses what it may trigger, clicks when released, or on a key. -/
def plainHost : Host ButtonState where
  initial := .normal
  getState ω := ω
  setState _ state := state
  onEnabledChanged ω hovers enabled :=
    if enabled then (if ω = .disabled then (if hovers then .hovered else .normal) else ω) else .disabled
  handle ω bounds e answer :=
    if ω = .disabled then (.disabled, false)
    else
      match e.kind with
      | .mousePressed => (if answer then .pressed else ω, false)
      | .mouseReleased | .gesture => (.hovered, answer && !bounds.isEmpty)
      | .mouseEntered => (.hovered, false)
      | .mouseExited => (.normal, false)
      | .mouseDragged | .mouseMoved => (ω, false)
      | .key => (.normal, !bounds.isEmpty)
  isTriggerableEvent _ e := !e.isMouseEvent || e.isOnlyLeftMouseButton
  getImageToPaint ω images := (images ω).or (images .normal)
  hasTabAudioMutingSwitch := true

theorem plainHost_lawful : plainHost.Lawful where
  initial := ButtonState.noConfusion
  setState _ _ := rfl
  onEnabledChanged ω hovers enabled := by
    cases enabled with
    | false => exact iff_of_true rfl rfl
    | true => cases ω <;> cases hovers <;> decide
  handle ω bounds e answer := by
    by_cases hdisabled : ω = .disabled
    · simp [plainHost, hdisabled]
    · simp only [plainHost, if_neg hdisabled]
      cases e.kind <;> cases answer <;> simp [hdisabled]
  click ω bounds e answer hclick := by
    by_cases hdisabled : ω = .disabled
    · simp [plainHost, hdisabled] at hclick
    · simp only [plainHost, if_neg hdisabled] at hclick
      refine ⟨hdisabled, ?_⟩
      cases hkind : e.kind <;> simp_all
  getImageToPaint ω images image himage := by
    show (images ω).or (images .normal) = some image
    rw [show images ω = some image from himage]
    rfl

def plainTab : Tab where
  isActive := true
  width := 240
  indicatorVisible := true
  closeButtonVisible := true
  closeButtonX := 220
  mouseOver := false
  look := { touchUi := false, getLayoutConstant := fun _ => 16, getAlertIndicatorColor := fun _ => 0 }

def plainSurroundings : Surroundings := ⟨plainTab, some (⟨180, 8, 16, 16⟩, plainTab), plainTab⟩

/-- A tab starts to play, and is muted by the mouse; the data follows; later it is unmuted by the
mouse. -/
def muteAndUnmute : List (TabEvent × Surroundings) :=
  [.setData (some .audioPlaying), .input ⟨.mouseEntered, true, false, false, 0⟩,
    .input ⟨.mousePressed, true, false, false, 0⟩,
    .input ⟨.mouseReleased, true, false, false, 0⟩, .setData (some .audioMuting), .wakeUp,
    .input ⟨.mousePressed, true, false, false, 0⟩, .input ⟨.mouseReleased, true, false, false,
      0⟩].map (·, plainSurroundings)

def stopPlaying : List (TabEvent × Surroundings) :=
  [.setData (some .audioPlaying), .setData none].map (·, plainSurroundings)

variable {Ω : Type} {host : Host Ω}

theorem init_sound (law : host.Lawful) : (tabSystem host).init.button.Sound host where
  state := iff_of_false law.initial Bool.true_eq_false.mp
  dormant := fun h => absurd h Bool.false_ne_true
  orderly := ⟨rfl, trivial, fun _ _ h => by cases h⟩
  told := rfl
  control hused := by simp [tabSystem] at hused

theorem sound_invariant (law : host.Lawful) {w : TabWorld Ω} (h : (tabSystem host).Reachable w) :
    w.button.Sound host := by
  refine h.invariant (I := fun w => w.button.Sound host) (init_sound law)
    fun w e w' hsound _ _ hexec => ?_
  obtain ⟨w'', heq, hsound', -⟩ := TabWorld.exec_spec law hsound e.2 e.1
  exact Except.ok.inj (heq.symm.trans hexec) ▸ hsound'

/-- Notes that are kept through each step of a sound button are kept by every observed run. -/
theorem observed_invariant (law : host.Lawful) {η : Type}
    {note : TabWorld Ω → TabEvent × Surroundings → TabWorld Ω → η → η} {start : η}
    {I : TabWorld Ω → η → Prop} (hinit : I (tabSystem host).init start)
    (hstep : ∀ w e w' notes, I w notes → TabStep w w' → I w' (note w e w' notes))
    {s : TabWorld Ω × η} (h : ((tabSystem host).observed note start).Reachable s) : I s.1 s.2 := by
  have hboth : s.1.button.Sound host ∧ I s.1 s.2 := by
    refine h.invariant (I := fun s => s.1.button.Sound host ∧ I s.1 s.2) ⟨init_sound law, hinit⟩ ?_
    rintro ⟨w, notes⟩ e ⟨w', notes'⟩ ⟨hsound, hI⟩ - - hexec
    obtain ⟨hexec', hnotes⟩ := System.observed_exec.1 hexec
    obtain ⟨w'', heq, hsound', hw⟩ := TabWorld.exec_spec law hsound e.2 e.1
    obtain rfl := Except.ok.inj (heq.symm.trans hexec')
    exact ⟨hsound', hnotes ▸ hstep _ _ _ _ hI hw⟩
  exact hboth.2

/-! ## What is shown -/

/-- The indicator of a state that is over still fades. -/
def AlertIndicatorButton.FadingOut (b : AlertIndicatorButton Ω) : Prop :=
  b.alertState = none ∧ b.fadeAnimation.any (·.running) = true

instance (b : AlertIndicatorButton Ω) : Decidable b.FadingOut := inferInstanceAs (Decidable (_ ∧ _))

/-- The alert state before the present one. -/
def notePrior (w : TabWorld Ω) (_ : TabEvent × Surroundings) (w' : TabWorld Ω)
    (prior : Option TabAlertState) :
    Option TabAlertState :=
  if w'.button.alertState = w.button.alertState then prior else w.button.alertState

structure Shows (b : AlertIndicatorButton Ω) (prior : Option TabAlertState) : Prop where
  showing : b.showingAlertState = if b.FadingOut then prior else b.alertState
  images : ∀ state, b.showingAlertState = some state → ∃ look, ∀ button,
    b.images button = some (imageOf look state button)

namespace Shows

variable {b b' : AlertIndicatorButton Ω} {prior : Option TabAlertState}

theorem showing_eq (h : Shows b prior) {state : TabAlertState}
    (halert : b.alertState = some state) :
    b.showingAlertState = some state := by
  rw [h.showing, if_neg fun hfading => by simp [hfading.1] at halert, halert]

theorem unmoved (h : Shows b prior) (hsame : b.Unmoved b') : Shows b' prior where
  showing := by
    have hfading : b'.FadingOut ↔ b.FadingOut := by
      rw [FadingOut, FadingOut, hsame.alert, hsame.fade]
    rw [hsame.showing, h.showing, hsame.alert, if_congr hfading rfl rfl]
  images state hstate := by
    rw [hsame.images]
    exact h.images state (hsame.showing ▸ hstate)

theorem moved (h : Shows b prior) {look : Look} {nextState : Option TabAlertState}
    (hmoved : b.Moved look nextState b') :
    Shows b' b.alertState := by
  cases nextState with
  | none =>
    have hshowing : b'.showingAlertState = b.alertState := hmoved.showing
    have hfading : b'.FadingOut := ⟨hmoved.alert, by simp [hmoved.fade, transitioned]⟩
    refine ⟨by rw [if_pos hfading, hshowing], fun state hstate => ?_⟩
    rw [hmoved.images]
    exact h.images state (h.showing_eq (hshowing.symm.trans hstate))
  | some next =>
    have hnot : ¬ b'.FadingOut := fun hfading =>
      Option.some_ne_none next (hmoved.alert.symm.trans hfading.1)
    refine ⟨by rw [if_neg hnot, hmoved.alert, hmoved.showing]; rfl, fun state hstate => ⟨look, fun button => ?_⟩⟩
    obtain rfl : next = state := Option.some.inj (hmoved.showing.symm.trans hstate)
    rw [hmoved.images]
    rfl

theorem drawn (h : Shows b prior) {look : Look} {state : TabAlertState}
    (halert : b.alertState = some state) :
    Shows { b with images := fun button => some (imageOf look state button) } prior where
  showing := h.showing
  images state' hstate := by
    obtain rfl := Option.some.inj ((h.showing_eq halert).symm.trans hstate)
    exact ⟨look, fun _ => rfl⟩

theorem ended (h : Shows b prior) (journal : List Entry) :
    Shows { b with
      fadeAnimation := b.fadeAnimation.map FadeAnimation.stopped
      showingAlertState := b.alertState
      journal := journal } prior where
  showing := by
    have hstill : (b.fadeAnimation.map FadeAnimation.stopped).any (·.running) = false := by
      cases b.fadeAnimation <;> rfl
    exact (if_neg fun hfading => Bool.false_ne_true (hstill.symm.trans hfading.2)).symm
  images state hstate := h.images state (h.showing_eq hstate)

end Shows

theorem shows_step {w w' : TabWorld Ω} {prior : Option TabAlertState} (e : TabEvent × Surroundings)
    (h : Shows w.button prior) (hstep : TabStep w w') :
    Shows w'.button (notePrior w e w' prior) := by
  have hkeep : Shows w'.button prior → w'.button.alertState = w.button.alertState →
      Shows w'.button (notePrior w e w' prior) :=
        fun hshows hsame => by rwa [notePrior, if_pos hsame]
  have hnew : ∀ {look next}, w.button.Moved look next w'.button →
      Shows w'.button (notePrior w e w' prior) := by
    intro look next hmoved
    rw [notePrior, if_neg (hmoved.alert ▸ hmoved.ne)]
    exact h.moved hmoved
  cases hstep with
  | still hsame => exact hkeep (h.unmoved hsame) hsame.alert
  | drawn look state halert hsame => exact hkeep ((h.drawn halert).unmoved hsame) hsame.alert
  | ended hsame => exact hkeep ((h.ended _).unmoved hsame) hsame.alert
  | moved look hmoved => exact hnew hmoved
  | caughtUp hsame => exact hkeep (h.unmoved hsame) hsame.alert
  | clicked look state halert hne hmoved => exact hnew hmoved

theorem shows_invariant (law : host.Lawful) {s : TabWorld Ω × Option TabAlertState}
    (h : ((tabSystem host).observed notePrior none).Reachable s) : Shows s.1.button s.2 := by
  refine observed_invariant law (I := fun w prior => Shows w.button prior) ?_
    (fun w e w' prior => shows_step e) h
  exact ⟨(ite_self _).symm, fun state hstate => by cases hstate⟩

/-- A hovered or pressed button has the picture of the state that a click leads to. -/
theorem imageOf_eq (look : Look) (state : TabAlertState) (button : ButtonState) :
    imageOf look state button =
      getTabAlertIndicatorImage look
        (if button = .hovered ∨ button = .pressed then state.counterpart else state)
        (look.getAlertIndicatorColor state) := by
  cases button with
  | normal => rfl
  | disabled => rfl
  | hovered => cases state <;> rfl
  | pressed => cases state <;> rfl

theorem AlertIndicatorButton.getImageToPaint_eq (law : host.Lawful)
    {b : AlertIndicatorButton Ω} {look : Look} {state : TabAlertState}
    (h : ∀ button, b.images button = some (imageOf look state button)) :
    b.getImageToPaint host = some (imageOf look state
      (if b.isDormant then .normal else host.getState b.base)) := by
  unfold getImageToPaint
  split
  · exact h .normal
  · exact law.getImageToPaint _ _ _ (h _)

/-- In every run the indicator shows the alert state, or the one before while it fades out; the tab
has heard of it; and the picture painted is of it, or of what a click leads to where the pointer is
over an awake button. -/
theorem showing_alert_state (law : host.Lawful) {w : TabWorld Ω} {prior : Option TabAlertState}
    (h : ((tabSystem host).observed notePrior none).Reachable (w, prior)) :
    w.button.showingAlertState = (if w.button.FadingOut then prior else w.button.alertState) ∧
      toldState w.button.journal = w.button.showingAlertState ∧
      ∀ state, w.button.showingAlertState = some state → ∃ look,
        w.button.getImageToPaint host = some (getTabAlertIndicatorImage look
          (if w.button.isDormant = false ∧
              (host.getState w.button.base = .hovered ∨ host.getState w.button.base = .pressed)
                then state.counterpart
            else state)
          (look.getAlertIndicatorColor state)) := by
  have hshows := shows_invariant law h
  refine ⟨hshows.showing, (sound_invariant law h.forget).told, fun state hstate => ?_⟩
  obtain ⟨look, himages⟩ := hshows.images state hstate
  refine ⟨look, ?_⟩
  rw [getImageToPaint_eq law himages, imageOf_eq]
  cases w.button.isDormant with
  | false => simp
  | true => simp

theorem showing_alert_state_fading : ∃ w prior,
    ((tabSystem plainHost).observed notePrior none).Reachable (w, prior) ∧
    w.button.alertState = none ∧
      w.button.showingAlertState = some .audioPlaying := by
  let s := (((tabSystem plainHost).observed notePrior none).replay (fun _ _ => True)
    stopPlaying).get rfl
  have hreach : ((tabSystem plainHost).observed notePrior none).Reachable s :=
    System.reach_of_replay stopPlaying (Option.some_get _).symm
  exact ⟨s.1, s.2, hreach, by decide, (showing_alert_state plainHost_lawful hreach).1.trans (by decide)⟩

/-! ## The mute control -/

/-- In every run a button that was laid out is a control for audio only, is dormant only while it is
enabled, and fails no `DCHECK` whatever comes next. -/
theorem mute_control (law : host.Lawful) {w : TabWorld Ω} (h : (tabSystem host).Reachable w) :
    (host.getState w.button.base = .disabled ↔ w.button.enabled = false) ∧
      (w.button.isDormant = true → w.button.enabled = true) ∧
      (w.button.bounds ≠ {} → w.button.enabled = true → host.hasTabAudioMutingSwitch = true ∧
        (w.button.alertState = some .audioPlaying ∨ w.button.alertState = some .audioMuting)) ∧
      ∀ e, ∃ w', (tabSystem host).exec w e = .ok w' := by
  have hsound := sound_invariant law h
  refine ⟨hsound.state, hsound.dormant, fun hplaced => hsound.control (.inr hplaced), fun e => ?_⟩
  obtain ⟨w', heq, -⟩ := TabWorld.exec_spec law hsound e.2 e.1
  exact ⟨w', heq⟩

theorem mute_control_playing : ∃ w, (tabSystem plainHost).Reachable w ∧ w.button.enabled = true ∧
    (w.button.alertState = some .audioPlaying ∨ w.button.alertState = some .audioMuting) := by
  let w := ((tabSystem plainHost).replay (fun _ _ => True) muteAndUnmute).get rfl
  have hreach : (tabSystem plainHost).Reachable w :=
    System.reach_of_replay muteAndUnmute (Option.some_get _).symm
  have hen : w.button.enabled = true := by decide
  exact ⟨w, hreach, hen, ((mute_control plainHost_lawful hreach).2.2.1 (by decide) hen).2⟩

/-- In every run, between a click and a later one by the mouse or a gesture the button woke up. -/
theorem clicks_apart (law : host.Lawful) {w : TabWorld Ω} (h : (tabSystem host).Reachable w)
    {newer between older : List Entry} {kind kind' : EventKind}
    (hjournal : w.button.journal = newer ++ .clicked kind' :: (between ++ .clicked kind :: older))
    (hpointer : kind' ≠ .key) : .woke ∈ between := by
  have hspaced : Spaced (.clicked kind' :: (between ++ .clicked kind :: older)) :=
    (hjournal ▸ (sound_invariant law h).orderly.spaced).of_append
  exact hspaced.woke Entry.noConfusion (hspaced.1.awake kind' rfl hpointer)

theorem clicks_apart_twice : ∃ w newer between older, (tabSystem plainHost).Reachable w ∧
    w.button.journal = newer ++ .clicked .mouseReleased
    :: (between ++ .clicked .mouseReleased :: older) ∧
      .woke ∈ between := by
  let w := ((tabSystem plainHost).replay (fun _ _ => True) muteAndUnmute).get rfl
  have hreach : (tabSystem plainHost).Reachable w :=
    System.reach_of_replay muteAndUnmute (Option.some_get _).symm
  have hjournal : w.button.journal =
      [.toggled, .told (some .audioPlaying), .slept] ++ .clicked .mouseReleased ::
        ([.woke, .toggled, .told (some .audioMuting), .slept] ++ .clicked .mouseReleased ::
          [.told (some .audioPlaying)]) := by decide
  exact ⟨w, _, _, _, hreach, hjournal, clicks_apart plainHost_lawful hreach hjournal (by decide)⟩

/-! ## The data of the tab -/

/-- The clicks since the data of the tab changed what it shows. -/
def noteToggles (w : TabWorld Ω) (_ : TabEvent × Surroundings) (w' : TabWorld Ω)
    (clicks : Nat) : Nat :=
  (if w'.shown = w.shown then clicks else 0) + (w'.button.toggles - w.button.toggles)

structure Agrees (w : TabWorld Ω) (clicks : Nat) : Prop where
  alert : w.button.alertState = w.shown.map TabAlertState.counterpart^[clicks]
  audio : 0 < clicks → Audio w.button.alertState

theorem agrees_step {w w' : TabWorld Ω} {clicks : Nat} (e : TabEvent × Surroundings)
    (h : Agrees w clicks) (hstep : TabStep w w') : Agrees w' (noteToggles w e w' clicks) := by
  have hkeep : w'.button.alertState = w.button.alertState → w'.button.toggles = w.button.toggles →
      w'.shown = w.shown → Agrees w' (noteToggles w e w' clicks) := by
    intro halert htoggles hshown
    rw [noteToggles, if_pos hshown, htoggles, Nat.sub_self, Nat.add_zero]
    exact ⟨by rw [halert, hshown, h.alert], fun hpos => halert ▸ h.audio hpos⟩
  have hnew : w'.button.alertState = w'.shown → w'.button.toggles = w.button.toggles →
      w'.shown ≠ w.shown → Agrees w' (noteToggles w e w' clicks) := by
    intro halert htoggles hshown
    rw [noteToggles, if_neg hshown, htoggles, Nat.sub_self]
    exact ⟨by simp [halert], fun hpos => absurd hpos (lt_irrefl 0)⟩
  cases hstep with
  | still hsame hshown => exact hkeep hsame.alert hsame.toggles hshown
  | drawn look state halert hsame hshown => exact hkeep hsame.alert hsame.toggles hshown
  | ended hsame hshown => exact hkeep hsame.alert (hsame.toggles.trans (by simp [toggles])) hshown
  | moved look hmoved htoggles hshown => exact hnew hmoved.alert htoggles hshown
  | caughtUp hsame halert hshown => exact hnew (hsame.alert.trans halert.symm) hsame.toggles hshown
  | clicked look state halert hne hmoved htoggles hshown =>
    have hcount : noteToggles w e w' clicks = clicks + 1 := by
      rw [noteToggles, if_pos hshown, htoggles, Nat.add_sub_cancel_left]
    have hstate : some state.counterpart = w.shown.map TabAlertState.counterpart^[clicks + 1] := by
      rw [Function.iterate_succ', ← Option.map_map, ← h.alert, halert]
      rfl
    rw [hcount]
    refine ⟨by rw [hmoved.alert, hshown, hstate], fun _ => ?_⟩
    rw [hmoved.alert]
    exact audio_iff.2 ⟨_, rfl, by rw [TabAlertState.counterpart_counterpart]; exact hne.symm⟩

/-- In every run the button agrees with the data of its tab exactly if an even number of clicks came
through since the data changed what it shows; else it shows the other audio state. -/
theorem agreement (law : host.Lawful) {w : TabWorld Ω} {clicks : Nat}
    (h : ((tabSystem host).observed noteToggles 0).Reachable (w, clicks)) :
    (w.button.alertState = w.shown ↔ Even clicks) ∧
      (Odd clicks → Audio w.shown ∧
          w.button.alertState = w.shown.map TabAlertState.counterpart) := by
  have hagrees : Agrees w clicks :=
    observed_invariant law (I := Agrees) ⟨rfl, fun hpos => absurd hpos (lt_irrefl 0)⟩
      (fun w e w' clicks => agrees_step e) h
  have hinvolutive : Function.Involutive TabAlertState.counterpart :=
    TabAlertState.counterpart_counterpart
  have heven : Even clicks → w.button.alertState = w.shown := by
    intro heven
    rw [hagrees.alert, hinvolutive.iterate_even heven, Option.map_id, id]
  have hodd : Odd clicks → Audio w.shown ∧
      w.button.alertState = w.shown.map TabAlertState.counterpart := by
    intro hodd
    have halert := hagrees.alert
    rw [hinvolutive.iterate_odd hodd] at halert
    have hpos : 0 < clicks := Nat.pos_of_ne_zero fun hzero => by simp [hzero] at hodd
    obtain ⟨state, hstate, hne⟩ := audio_iff.1 (hagrees.audio hpos)
    obtain ⟨shown, hshown, hcounterpart⟩ := Option.map_eq_some_iff.1 (halert.symm.trans hstate)
    refine ⟨audio_iff.2 ⟨shown, hshown, fun hsame => hne ?_⟩, halert⟩
    rw [← hcounterpart, ← hsame, ← hsame]
  refine ⟨⟨fun hsame => ?_, heven⟩, hodd⟩
  by_contra hnot
  obtain ⟨haudio, hother⟩ := hodd (Nat.not_even_iff_odd.1 hnot)
  obtain ⟨state, hstate, hne⟩ := audio_iff.1 haudio
  rw [hsame, hstate] at hother
  exact hne (Option.some.inj hother)

theorem agreement_clicked : ∃ w clicks,
    ((tabSystem plainHost).observed noteToggles 0).Reachable (w, clicks) ∧
    clicks = 1 ∧ w.button.alertState = w.shown.map TabAlertState.counterpart := by
  let s := (((tabSystem plainHost).observed noteToggles 0).replay (fun _ _ => True)
    (muteAndUnmute.take 4)).get rfl
  have hreach : ((tabSystem plainHost).observed noteToggles 0).Reachable s :=
    System.reach_of_replay (muteAndUnmute.take 4) (Option.some_get _).symm
  have hclicks : s.2 = 1 := by decide
  have hodd : Odd s.2 := hclicks.symm ▸ odd_one
  exact ⟨s.1, s.2, hreach, hclicks, ((agreement plainHost_lawful hreach).2 hodd).2⟩

end DumbBrowser.Ui
