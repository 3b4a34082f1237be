import DumbBrowser.Lib.System
import Mathlib.Order.Basic
import Mathlib.Data.Int.Order.Basic

/-!
# The alert indicator of a tab

`AlertIndicatorButton` shows what a tab is up to (audio, capture, …), and is a mute button beside.
It is modelled with the parts of `Tab` that drive it. What it takes from `views::ImageButton` is a
parameter, `Host`.

* `AlertIndicatorButton.transitionToAlertState`, `updateEnabledForMuteToggle`, `notifyClick` : the
  button;
* `Host.Lawful` : what the button relies on in its base class;
* `tabSystem` : the button under its tab, in any order of events.
-/

namespace DumbBrowser.Ui

inductive TabAlertState
  | mediaRecording | tabCapturing | audioPlaying | audioMuting | bluetoothConnected
      | bluetoothScanActive
  | usbConnected | hidConnected | serialConnected | pipPlaying | desktopCapturing
      | vrPresentingInHeadset
  deriving DecidableEq

/-- `views::Button::ButtonState`. -/
inductive ButtonState
  | normal | hovered | pressed | disabled
  deriving DecidableEq

/-! ## Pictures -/

inductive VectorIcon
  | tabAudioRounded | tabAudio | tabAudioMutingRounded | tabAudioMuting | tabMediaRecording
  | tabMediaCapturingWithArrow | tabMediaCapturing | tabBluetoothConnected | tabBluetoothScanActive
  | tabUsbConnected | videogameAsset | serialPort | pictureInPictureAlt | vrHeadset
  deriving DecidableEq

inductive LayoutConstant
  | tabAlertIndicatorIconWidth | tabAlertIndicatorCaptureIconWidth
  deriving DecidableEq

abbrev SkColor := BitVec 32

structure Image where
  icon : VectorIcon
  width : Int
  color : SkColor
  deriving DecidableEq

/-- What a picture depends on beside the alert state. -/
structure Look where
  touchUi : Bool
  getLayoutConstant : LayoutConstant → Int
  /-- `Tab::GetAlertIndicatorColor` -/
  getAlertIndicatorColor : TabAlertState → SkColor

def getTabAlertIndicatorImage (look : Look) (alertState : TabAlertState) (buttonColor : SkColor) : Image :=
  let icon : VectorIcon :=
    match alertState with
    | .audioPlaying => if look.touchUi then .tabAudioRounded else .tabAudio
    | .audioMuting => if look.touchUi then .tabAudioMutingRounded else .tabAudioMuting
    | .mediaRecording | .desktopCapturing => .tabMediaRecording
    | .tabCapturing => if look.touchUi then .tabMediaCapturingWithArrow else .tabMediaCapturing
    | .bluetoothConnected => .tabBluetoothConnected
    | .bluetoothScanActive => .tabBluetoothScanActive
    | .usbConnected => .tabUsbConnected
    | .hidConnected => .videogameAsset
    | .serialConnected => .serialPort
    | .pipPlaying => .pictureInPictureAlt
    | .vrPresentingInHeadset => .vrHeadset
  let imageWidth :=
    match alertState with
    | .tabCapturing => look.getLayoutConstant .tabAlertIndicatorCaptureIconWidth
    | _ => look.getLayoutConstant .tabAlertIndicatorIconWidth
  ⟨icon, imageWidth, buttonColor⟩

def getTabAlertIndicatorAffordanceImage (look : Look) (alertState : TabAlertState)
    (buttonColor : SkColor) : Image :=
  match alertState with
  | .audioPlaying => getTabAlertIndicatorImage look .audioMuting buttonColor
  | .audioMuting => getTabAlertIndicatorImage look .audioPlaying buttonColor
  | .mediaRecording | .tabCapturing | .bluetoothConnected | .bluetoothScanActive
      | .usbConnected | .pipPlaying
  | .desktopCapturing | .hidConnected | .serialConnected | .vrPresentingInHeadset =>
    getTabAlertIndicatorImage look alertState buttonColor

/-- The picture that `ResetImages` gives to each state of the button. -/
def imageOf (look : Look) (state : TabAlertState) (button : ButtonState) : Image :=
  let color := look.getAlertIndicatorColor state
  match button with
  | .normal | .disabled => getTabAlertIndicatorImage look state color
  | .hovered | .pressed => getTabAlertIndicatorAffordanceImage look state color

/-! ## Fading -/

def kIndicatorFadeInDuration : Nat := 200
def kIndicatorFadeOutDuration : Nat := 1000
def kIndicatorFrameInterval : Nat := 50
def kCaptureIndicatorThrobCycles : Nat := 5

/-- A `gfx::MultiAnimation` that is not continuous: the lengths of its parts, in milliseconds. -/
structure FadeAnimation where
  parts : List Nat
  interval : Nat := kIndicatorFrameInterval
  running : Bool := false
  deriving DecidableEq

def FadeAnimation.stopped (animation : FadeAnimation) : FadeAnimation :=
  { animation with running := false }

/-- `TabRecordingIndicatorAnimation::Create` -/
def tabRecordingIndicatorAnimation : FadeAnimation where
  parts := (List.range kCaptureIndicatorThrobCycles).map
    (fun i => if i % 2 ≠ 0 then kIndicatorFadeOutDuration else kIndicatorFadeInDuration)

def createTabAlertIndicatorFadeAnimation (alertState : Option TabAlertState) : FadeAnimation :=
  if alertState = some .mediaRecording ∨ alertState = some .tabCapturing ∨
    alertState = some .desktopCapturing then
    tabRecordingIndicatorAnimation
  else { parts := [if alertState.isSome then kIndicatorFadeInDuration else kIndicatorFadeOutDuration] }

/-! ## Surroundings -/

structure Rect where
  x : Int := 0
  y : Int := 0
  width : Nat := 0
  height : Nat := 0
  deriving DecidableEq

def Rect.isEmpty (r : Rect) : Bool := r.width == 0 || r.height == 0

/-- How the tab stands when the button looks at it. -/
structure Tab where
  isActive : Bool
  width : Nat
  indicatorVisible : Bool
  closeButtonVisible : Bool
  closeButtonX : Int
  mouseOver : Bool
  look : Look

def Tab.getWidthOfLargestSelectableRegion (tab : Tab) (bounds : Rect) : Int :=
  let indicatorLeft : Int := if tab.indicatorVisible then bounds.x else tab.width
  let closeButtonLeft : Int := if tab.closeButtonVisible then tab.closeButtonX else tab.width
  min indicatorLeft closeButtonLeft

/-- The tab before an event, in the layout that `AlertStateChanged` may bring, and after it. -/
structure Surroundings where
  before : Tab
  relayout : Option (Rect × Tab)
  after : Tab

inductive EventKind
  | mousePressed | mouseDragged | mouseReleased | mouseEntered | mouseExited
      | mouseMoved | gesture | key
  deriving DecidableEq

structure UiEvent where
  kind : EventKind
  isOnlyLeftMouseButton : Bool := true
  shiftDown : Bool := false
  controlDown : Bool := false
  /-- what only the base class looks at -/
  rest : Nat := 0

def UiEvent.isMouseEvent (e : UiEvent) : Bool := e.kind ≠ .gesture && e.kind ≠ .key

def UiEvent.isGestureEvent (e : UiEvent) : Bool := e.kind = .gesture

def isShiftOrControlDown (e : UiEvent) : Bool := e.shiftDown || e.controlDown

/-! ## The base class -/

/-- `views::ImageButton` with its own state in `Ω`, and the switch of the command line. -/
structure Host (Ω : Type) where
  initial : Ω
  getState : Ω → ButtonState
  setState : Ω → ButtonState → Ω
  /-- what `SetEnabled` makes of the state, with the mouse on the view or not -/
  onEnabledChanged : Ω → Bool → Bool → Ω
  /-- the handlers of events, given the answer of `IsTriggerableEvent`, and whether they call
  `NotifyClick` -/
  handle : Ω → Rect → UiEvent → Bool → Ω × Bool
  isTriggerableEvent : Ω → UiEvent → Bool
  getImageToPaint : Ω → (ButtonState → Option Image) → Option Image
  hasTabAudioMutingSwitch : Bool

structure Host.Lawful {Ω : Type} (host : Host Ω) : Prop where
  initial : host.getState host.initial ≠ .disabled
  setState : ∀ ω state, host.getState (host.setState ω state) = state
  onEnabledChanged : ∀ ω hovers enabled,
    host.getState (host.onEnabledChanged ω hovers enabled) = .disabled ↔ enabled = false
  handle : ∀ ω r e answer, host.getState (host.handle ω r e answer).1 = .disabled ↔
    host.getState ω = .disabled
  /-- a click needs a button that is not disabled and has an area; only keys click without
  `IsTriggerableEvent` -/
  click : ∀ ω r e answer, (host.handle ω r e answer).2 = true →
    host.getState ω ≠ .disabled ∧ r.isEmpty = false ∧ (e.kind ≠ .key → answer = true)
  getImageToPaint : ∀ ω images image, images (host.getState ω) = some image →
    host.getImageToPaint ω images = some image

/-! ## The button -/

/-- What the button did. -/
inductive Entry
  | told (showing : Option TabAlertState)
  | clicked (kind : EventKind)
  | slept
  | woke
  | toggled
  deriving DecidableEq

/-- A `DCHECK` of the button that failed. -/
inductive Fault
  | notMuting
  deriving DecidableEq

def kMinMouseSelectableAreaPercent : Nat := 250
def kMinGestureSelectableAreaPercent : Nat := 400

structure AlertIndicatorButton (Ω : Type) where
  alertState : Option TabAlertState := none
  fadeAnimation : Option FadeAnimation := none
  showingAlertState : Option TabAlertState := none
  wakeUpTimer : Bool := false
  -- of the base classes
  base : Ω
  enabled : Bool := true
  bounds : Rect := {}
  images : ButtonState → Option Image := fun _ => none
  -- newest first
  journal : List Entry := []

namespace AlertIndicatorButton

variable {Ω : Type} (host : Host Ω)

def isDormant (b : AlertIndicatorButton Ω) : Bool := b.wakeUpTimer

def enterDormantPeriod (b : AlertIndicatorButton Ω) : AlertIndicatorButton Ω :=
  { b with wakeUpTimer := true, journal := .slept :: b.journal }

def exitDormantPeriod (b : AlertIndicatorButton Ω) : AlertIndicatorButton Ω :=
  if b.isDormant then { b with wakeUpTimer := false, journal := .woke :: b.journal }
  else { b with wakeUpTimer := false }

def resetImages (look : Look) (state : TabAlertState) (b : AlertIndicatorButton Ω) :
    AlertIndicatorButton Ω :=
  { b with images := fun button => some (imageOf look state button) }

def updateEnabledForMuteToggle (tab : Tab) (b : AlertIndicatorButton Ω) : AlertIndicatorButton Ω :=
  let wasEnabled := b.enabled
  let enable := host.hasTabAudioMutingSwitch &&
    decide (b.alertState = some .audioPlaying ∨ b.alertState = some .audioMuting)
  -- a tab that is not active has to be wide enough
  let enable :=
    if enable && !tab.isActive then
      let requiredWidth := b.bounds.width * kMinMouseSelectableAreaPercent / 100
      decide (tab.getWidthOfLargestSelectableRegion b.bounds ≥ requiredWidth)
    else enable
  if enable = wasEnabled then b
  else
    let b := { b with enabled := enable, base := host.onEnabledChanged b.base tab.mouseOver enable }
    if !wasEnabled && host.getState b.base = .hovered then b.enterDormantPeriod
    else if !b.enabled then b.exitDormantPeriod
    else b

/-- `SetBoundsRect` of the base class, with `OnBoundsChanged`. -/
def setBoundsRect (bounds : Rect) (tab : Tab) (b : AlertIndicatorButton Ω) :
    AlertIndicatorButton Ω :=
  if bounds = b.bounds then b else updateEnabledForMuteToggle host tab { b with bounds := bounds }

/-- `parent_tab_->AlertStateChanged()`: the tab looks at what is shown, and may lay itself out
again. -/
def alertStateChanged (relayout : Option (Rect × Tab)) (b : AlertIndicatorButton Ω) :
    AlertIndicatorButton Ω :=
  let b := { b with journal := .told b.showingAlertState :: b.journal }
  match relayout with
  | none => b
  | some (bounds, tab) => setBoundsRect host bounds tab b

def transitionToAlertState (nextState : Option TabAlertState) (around : Surroundings)
    (b : AlertIndicatorButton Ω) :
    AlertIndicatorButton Ω :=
  if nextState = b.alertState then b
  else
    let previousAlertShowingState := b.showingAlertState
    let b :=
      match nextState with
      | some state => b.resetImages around.before.look state
      | none => b
    let b :=
      if (b.alertState = some .audioPlaying ∧ nextState = some .audioMuting) ∨
          (b.alertState = some .audioMuting ∧ nextState = some .audioPlaying) then
        { b with showingAlertState := nextState, fadeAnimation := none }
      else
        { b with
          showingAlertState := if nextState = none then b.alertState else nextState
          fadeAnimation := some { createTabAlertIndicatorFadeAnimation nextState with running := true } }
    let b := { b with alertState := nextState }
    let b :=
      if previousAlertShowingState ≠ b.showingAlertState
        then b.alertStateChanged host around.relayout else b
    b.updateEnabledForMuteToggle host around.after

/-- `FadeAnimationDelegate::AnimationEnded` -/
def animationEnded (around : Surroundings) (b : AlertIndicatorButton Ω) : AlertIndicatorButton Ω :=
  { b with
    fadeAnimation := b.fadeAnimation.map FadeAnimation.stopped
    showingAlertState := b.alertState }.alertStateChanged host around.relayout

def onParentTabButtonColorChanged (look : Look) (b : AlertIndicatorButton Ω) :
    AlertIndicatorButton Ω :=
  match b.alertState with
  | some state =>
    if state = .audioPlaying ∨ state = .audioMuting then b.resetImages look state else b
  | none => b

def isTriggerableEvent (tab : Tab) (e : UiEvent) (b : AlertIndicatorButton Ω) : Bool :=
  if b.isDormant then false
  else if e.isMouseEvent && (!e.isOnlyLeftMouseButton || isShiftOrControlDown e) then false
  else if e.isGestureEvent && !tab.isActive &&
      decide (tab.getWidthOfLargestSelectableRegion b.bounds <
        ↑(b.bounds.width * kMinGestureSelectableAreaPercent / 100)) then false
  else host.isTriggerableEvent b.base e

def notifyClick (e : UiEvent) (around : Surroundings) (b : AlertIndicatorButton Ω) :
    Except Fault (AlertIndicatorButton Ω) :=
  let b := { b with journal := .clicked e.kind :: b.journal }.enterDormantPeriod
  if b.alertState = some .audioPlaying then
    let b := b.transitionToAlertState host (some .audioMuting) around
    .ok { b with journal := .toggled :: b.journal }
  else if b.alertState = some .audioMuting then
    let b := b.transitionToAlertState host (some .audioPlaying) around
    .ok { b with journal := .toggled :: b.journal }
  else .error .notMuting

/-- What the base class does with an event. -/
def handleInBase (e : UiEvent) (around : Surroundings) (b : AlertIndicatorButton Ω) :
    Except Fault (AlertIndicatorButton Ω) :=
  let result := host.handle b.base b.bounds e (b.isTriggerableEvent host around.before e)
  let b := { b with base := result.1 }
  if result.2 then b.notifyClick host e around else .ok b

def turnOffHover (b : AlertIndicatorButton Ω) : AlertIndicatorButton Ω :=
  { b with base := host.setState b.base .normal }

def onMousePressed (e : UiEvent) (around : Surroundings) (b : AlertIndicatorButton Ω) :
    Except Fault (AlertIndicatorButton Ω) :=
  if !e.isOnlyLeftMouseButton || isShiftOrControlDown e then
    .ok (if host.getState b.base ≠ .disabled then b.turnOffHover host else b)
  else b.handleInBase host e around

/-- `OnMouseEntered` and `OnMouseMoved` have one body. -/
def onMouseMoved (e : UiEvent) (around : Surroundings) (b : AlertIndicatorButton Ω) :
    Except Fault (AlertIndicatorButton Ω) :=
  if host.getState b.base ≠ .disabled ∧ isShiftOrControlDown e then .ok (b.turnOffHover host)
  else b.handleInBase host e around

def onMouseExited (e : UiEvent) (around : Surroundings) (b : AlertIndicatorButton Ω) :
    Except Fault (AlertIndicatorButton Ω) :=
  b.exitDormantPeriod.handleInBase host e around

def onEvent (e : UiEvent) (around : Surroundings) (b : AlertIndicatorButton Ω) :
    Except Fault (AlertIndicatorButton Ω) :=
  match e.kind with
  | .mousePressed => b.onMousePressed host e around
  | .mouseEntered | .mouseMoved => b.onMouseMoved host e around
  | .mouseExited => b.onMouseExited host e around
  | .mouseDragged | .mouseReleased | .gesture | .key => b.handleInBase host e around

def getImageToPaint (b : AlertIndicatorButton Ω) : Option Image :=
  if b.isDormant then b.images .normal else host.getImageToPaint b.base b.images

end AlertIndicatorButton

/-! ## The button under its tab -/

/-- `shown` is `GetAlertStateToShow(data_.alert_state)`. -/
structure TabWorld (Ω : Type) where
  button : AlertIndicatorButton Ω
  shown : Option TabAlertState := none

inductive TabEvent
  | setData (shown : Option TabAlertState)
  | updateForegroundColors (changed : Bool)
  | activeStateChanged (changed : Bool)
  | layout (bounds : Rect)
  | animationEnded
  | wakeUp
  | input (e : UiEvent)

namespace TabWorld

variable {Ω : Type} (host : Host Ω)

def setData (shown : Option TabAlertState) (around : Surroundings) (w : TabWorld Ω) : TabWorld Ω :=
  { shown := shown
    button := if shown ≠ w.shown then w.button.transitionToAlertState host shown around else w.button }

def updateForegroundColors (changed : Bool) (around : Surroundings) (w : TabWorld Ω) : TabWorld Ω :=
  if changed then { w with button := w.button.onParentTabButtonColorChanged around.before.look } else w

/-- The layout at its end is an event of its own. -/
def activeStateChanged (changed : Bool) (around : Surroundings) (w : TabWorld Ω) : TabWorld Ω :=
  let w := w.updateForegroundColors changed around
  { w with button := w.button.updateEnabledForMuteToggle host around.after }

def exec (w : TabWorld Ω) (e : TabEvent) (around : Surroundings) : Except Fault (TabWorld Ω) :=
  match e with
  | .setData shown => .ok (w.setData host shown around)
  | .updateForegroundColors changed => .ok (w.updateForegroundColors changed around)
  | .activeStateChanged changed => .ok (w.activeStateChanged host changed around)
  | .layout bounds => .ok { w with button := w.button.setBoundsRect host bounds around.after }
  | .animationEnded => .ok { w with button := w.button.animationEnded host around }
  | .wakeUp => .ok { w with button := w.button.exitDormantPeriod }
  | .input e => (w.button.onEvent host e around).map ({ w with button := · })

/-- Events come to the button as `DoesIntersectRect` lets them; the rest of a gesture begun there
comes in any case. -/
def Enabled (w : TabWorld Ω) : TabEvent → Prop
  | .animationEnded => (w.button.fadeAnimation.any (·.running)) = true
  | .wakeUp => w.button.wakeUpTimer = true
  | .input e =>
    match e.kind with
    | .mousePressed | .mouseEntered | .mouseMoved | .gesture => w.button.enabled = true
    | .mouseDragged | .mouseReleased | .mouseExited | .key => True
  | .setData _ | .updateForegroundColors _ | .activeStateChanged _ | .layout _ => True

instance (w : TabWorld Ω) : (e : TabEvent) → Decidable (w.Enabled e)
  | .animationEnded => inferInstanceAs (Decidable (_ = true))
  | .wakeUp => inferInstanceAs (Decidable (_ = true))
  | .input ⟨.mousePressed, _, _, _, _⟩ | .input ⟨.mouseEntered, _, _, _, _⟩ | .input
      ⟨.mouseMoved, _, _, _, _⟩
  | .input ⟨.gesture, _, _, _, _⟩ => inferInstanceAs (Decidable (_ = true))
  | .input ⟨.mouseDragged, _, _, _, _⟩ | .input ⟨.mouseReleased, _, _, _, _⟩ | .input
      ⟨.mouseExited, _, _, _, _⟩
  | .input ⟨.key, _, _, _, _⟩ => inferInstanceAs (Decidable True)
  | .setData _ | .updateForegroundColors _ | .activeStateChanged _ | .layout _ =>
    inferInstanceAs (Decidable True)

end TabWorld

def tabSystem {Ω : Type} (host : Host Ω) : System (TabWorld Ω) (TabEvent × Surroundings) Fault where
  init := { button := { base := host.initial } }
  enabled w e := w.Enabled e.1
  exec w e := w.exec host e.1 e.2

instance {Ω : Type} (host : Host Ω) (w : TabWorld Ω) (e : TabEvent × Surroundings) :
    Decidable ((tabSystem host).enabled w e) :=
  inferInstanceAs (Decidable (w.Enabled e.1))

end DumbBrowser.Ui
