import DumbBrowser.Browser.CallbackChain

/-!
# Callbacks that enter the handler again

While a callback runs it may do whatever it likes: edit its context, the fields that the handler
reads included, destroy any request (its own included), have requests created or restarted, and run
`next_callback` of any pass. The executions of `RunNextCallback` that are under way then nest. Here
a callback is what happens between its call and its return.

* `nestedSystem` : the handler with the executions under way, innermost first.
* `reachable_nested` : callbacks that answer at once are a case of it.
* `lookup_finds_entry_iff` : when the lookup of a completion finds an entry.
-/

namespace DumbBrowser

open NetError

/-! ## Executions under way -/

/-- An execution of `RunNextCallback` whose callback, at place `index`, has not returned. -/
structure Activation where
  pass : Nat
  index : Nat
deriving DecidableEq, Repr

structure NestedHandler where
  handler : DumbRequestHandler := {}
  active : List Activation := []
  /-- The pass whose context is `ctx_` of a request; none if no callback has been given that
  context. -/
  contexts : UInt64 → Option Nat := fun _ => none

inductive NestedEvent where
  | createRequest (id : UInt64)
  | restartInternal (id : UInt64) (request : ResourceRequest)
      (renderProcessId frameTreeNodeId : Int)
      (oldCtx : Option DumbRequestInfo)
  | onBeforeStartTransaction (id : UInt64)
  | onHeadersReceived (id : UInt64) (request : ResourceRequest)
      (renderProcessId frameTreeNodeId : Int)
      (oldCtx : Option DumbRequestInfo)
  | destroyRequest (id : UInt64)
  | edit (k : Nat) (edits : DumbRequestInfo → DumbRequestInfo)
  /-- `next_callback` of pass `k` is run. -/
  | nextCallback (k : Nat)
  /-- The innermost callback returns. -/
  | returns (rv : Int)

/-- A callback has returned. -/
def Pass.returned (pass : Pass) (index : Nat) (rv : Int) : Pass :=
  { pass with called := pass.called ++ [(index, rv)], suspended := rv = ERR_IO_PENDING }

/-- `RunNextCallback` after its loop. -/
def DumbRequestHandler.endPass (lib : NetLibrary) (h : DumbRequestHandler) (k : Nat)
    (pass : Pass) (rv : Int) :
    Except HandlerFault DumbRequestHandler :=
  let id := pass.ctx.requestIdentifier
  if rv ≠ OK then h.runCallbackForRequestIdentifier k id rv
  else if pass.ctx.eventType = .onBeforeRequest ∧ pass.ctx.newUrlSpec ≠ "" ∧
      pass.ctx.newUrlSpec ≠ pass.ctx.requestUrl.spec ∧ h.isRequestIdentifierValid id = true then
    (h.writeNewUrl lib k pass pass.ctx).bind fun h => h.runCallbackForRequestIdentifier k id rv
  else h.runCallbackForRequestIdentifier k id rv

namespace NestedHandler

/-- `ctx_->request_identifier`, for the destructor. Without a context of its own the request has no
entry. -/
def contextIdentifier (s : NestedHandler) (id : UInt64) : UInt64 :=
  match s.contexts id with
  | none => id
  | some k => (s.handler.passes k).elim id (·.ctx.requestIdentifier)

/-- Executions for a request that is destroyed go on. -/
def destroyRequest (s : NestedHandler) (id : UInt64) : NestedHandler :=
  { s with
    handler := (s.handler.setRequest id fun r => { r with alive := false }).onURLRequestDestroyed
      (s.contextIdentifier id) }

section Loop
variable (lib : NetLibrary) (n : Nat)

def endPass (s : NestedHandler) (k : Nat) (pass : Pass) (rv : Int) :
    Except HandlerFault NestedHandler :=
  (s.handler.endPass lib k pass rv).map fun h => { s with handler := h }

/-- The head of the loop over the `n` callbacks: the next one is called, or the pass is over. -/
def runLoop (s : NestedHandler) (k : Nat) : Except HandlerFault NestedHandler :=
  match s.handler.passes k with
  | none => .ok s
  | some pass =>
    let index := pass.ctx.nextUrlRequestIndex
    if n = index then s.endPass lib k pass OK
    else if n < index then .error .outOfRange
    else
      .ok { s with
        handler := s.handler.setPass k { pass with ctx := pass.ctx.advanced }
        active := ⟨k, index⟩ :: s.active }

/-- `RunNextCallback` is entered for pass `k`. -/
def runNextCallback (s : NestedHandler) (k : Nat) : Except HandlerFault NestedHandler :=
  match s.handler.passes k with
  | none => .ok s
  | some pass =>
    if !s.handler.isRequestIdentifierValid pass.ctx.requestIdentifier then .ok s
    else if pass.ctx.eventType = .onBeforeRequest then s.runLoop lib n k
    else s.endPass lib k pass OK

/-- A hook of a request registers a completion and enters `RunNextCallback`. -/
def beginHook (s : NestedHandler) (id : UInt64) (pass : Pass) : Except HandlerFault NestedHandler :=
  runNextCallback lib n { s with
    handler := s.handler.beginPass pass
    contexts := Function.update s.contexts id (some s.handler.nextPass) } s.handler.nextPass

/-- A hook that calls no callback; its context is one of its own. -/
def passHook (s : NestedHandler) (id : UInt64) : NestedHandler :=
  { s with contexts := Function.update s.contexts id none }

def restartInternal (s : NestedHandler) (id : UInt64) (request : ResourceRequest)
    (renderProcessId frameTreeNodeId : Int) (oldCtx : Option DumbRequestInfo) :
    Except HandlerFault NestedHandler :=
  let ctx := DumbRequestInfo.makeCTX request renderProcessId frameTreeNodeId id oldCtx
  let s : NestedHandler := { s with handler := s.handler.restarted id }
  if n = 0 || ctx.isInternalScheme then .ok (s.passHook id)
  else s.beginHook lib n id (s.handler.newPass ctx)

/-- `headers_received_callbacks_` is empty. -/
def onHeadersReceived (s : NestedHandler) (id : UInt64) (request : ResourceRequest)
    (renderProcessId frameTreeNodeId : Int) (oldCtx : Option DumbRequestInfo) :
    Except HandlerFault NestedHandler :=
  let ctx := DumbRequestInfo.makeCTX request renderProcessId frameTreeNodeId id oldCtx
  if !ctx.requestUrl.schemeIs "chrome" then .ok (s.passHook id)
  else s.beginHook lib n id { s.handler.newPass ctx with
    ctx := { ctx with eventType := .onHeadersReceived } }

/-- `callback.Run` comes back. -/
def callbackReturns (s : NestedHandler) (rv : Int) : Except HandlerFault NestedHandler :=
  match s.active with
  | [] => .ok s
  | a :: outer =>
    match s.handler.passes a.pass with
    | none => .ok { s with active := outer }
    | some pass =>
      let pass := pass.returned a.index rv
      let s : NestedHandler := { s with handler := s.handler.setPass a.pass pass, active := outer }
      if rv = ERR_IO_PENDING then .ok s
      else if rv ≠ OK then s.endPass lib a.pass pass rv
      else s.runLoop lib n a.pass

def isEnabled (s : NestedHandler) : NestedEvent → Bool
  | .createRequest id => (s.handler.requests id).isNone
  | .restartInternal id .. | .onBeforeStartTransaction id | .onHeadersReceived id ..
      | .destroyRequest id =>
    s.handler.isAlive id
  | .edit k _ | .nextCallback k => (s.handler.passes k).isSome
  | .returns _ => !s.active.isEmpty

def exec (s : NestedHandler) : NestedEvent → Except HandlerFault NestedHandler
  | .createRequest id =>
    .ok { s with handler := { s.handler with requests := Function.update s.handler.requests id (some {}) } }
  | .restartInternal id request renderProcessId frameTreeNodeId oldCtx =>
    s.restartInternal lib n id request renderProcessId frameTreeNodeId oldCtx
  | .onBeforeStartTransaction id => .ok (s.passHook id)
  | .onHeadersReceived id request renderProcessId frameTreeNodeId oldCtx =>
    s.onHeadersReceived lib n id request renderProcessId frameTreeNodeId oldCtx
  | .destroyRequest id => .ok (s.destroyRequest id)
  | .edit k edits =>
    match s.handler.passes k with
    | none => .ok s
    | some pass => .ok { s with handler := s.handler.setPass k { pass with ctx := edits pass.ctx } }
  | .nextCallback k =>
    match s.handler.passes k with
    | none => .ok s
    | some pass =>
      runNextCallback lib n { s with
        handler := s.handler.setPass k { pass with suspended := false } } k
  | .returns rv => s.callbackReturns lib n rv

end Loop

end NestedHandler

def nestedSystem (lib : NetLibrary) (n : Nat) : System NestedHandler NestedEvent HandlerFault where
  init := {}
  enabled s e := s.isEnabled e = true
  exec s e := s.exec lib n e

instance {lib : NetLibrary} {n : Nat} (s : NestedHandler) (e : NestedEvent) :
    Decidable ((nestedSystem lib n).enabled s e) :=
  inferInstanceAs (Decidable (s.isEnabled e = true))

/-! ## What the handler is told -/

/-- A hook registers a completion, and `OnURLRequestDestroyed` is called, for an identifier. -/
inductive Notice where
  | registered (id : UInt64)
  | destroyed (id : UInt64)
deriving DecidableEq, Repr

/-- The last notice comes first. -/
def NestedHandler.notes (n : Nat) (s : NestedHandler) (e : NestedEvent) (_ : NestedHandler)
    (journal : List Notice) :
    List Notice :=
  match e with
  | .restartInternal id request renderProcessId frameTreeNodeId oldCtx =>
    let ctx := DumbRequestInfo.makeCTX request renderProcessId frameTreeNodeId id oldCtx
    if n = 0 || ctx.isInternalScheme then journal else .registered id :: journal
  | .onHeadersReceived id request renderProcessId frameTreeNodeId oldCtx =>
    let ctx := DumbRequestInfo.makeCTX request renderProcessId frameTreeNodeId id oldCtx
    if !ctx.requestUrl.schemeIs "chrome" then journal else .registered id :: journal
  | .destroyRequest id => .destroyed (s.contextIdentifier id) :: journal
  | _ => journal

/-- The handler with everything that it has been told. -/
def journaledSystem (lib : NetLibrary) (n : Nat) :
    System (NestedHandler × List Notice) NestedEvent HandlerFault :=
  (nestedSystem lib n).observed (NestedHandler.notes n) []

instance {lib : NetLibrary} {n : Nat} (s : NestedHandler × List Notice) (e : NestedEvent) :
    Decidable ((journaledSystem lib n).enabled s e) :=
  inferInstanceAs (Decidable (s.1.isEnabled e = true))

/-- A completion has been registered for the identifier, and nothing been destroyed under it
since. -/
def Registered (id : UInt64) (journal : List Notice) : Prop :=
  ∃ later earlier, journal = later ++ .registered id :: earlier ∧ .destroyed id ∉ later

theorem not_registered_nil {id : UInt64} : ¬ Registered id [] := by
  rintro ⟨later, earlier, hnil, -⟩
  simp at hnil

theorem registered_cons_registered {id id' : UInt64} {journal : List Notice} :
    Registered id (.registered id' :: journal) ↔ id = id' ∨ Registered id journal := by
  constructor
  · rintro ⟨_ | ⟨notice, later⟩, earlier, hjournal, hlater⟩
    · rw [List.nil_append, List.cons.injEq, Notice.registered.injEq] at hjournal
      exact Or.inl hjournal.1.symm
    · rw [List.cons_append, List.cons.injEq] at hjournal
      exact Or.inr ⟨later, earlier, hjournal.2, fun hin => hlater (List.mem_cons_of_mem _ hin)⟩
  · rintro (rfl | ⟨later, earlier, rfl, hlater⟩)
    · exact ⟨[], journal, rfl, List.not_mem_nil⟩
    · exact ⟨.registered id' :: later, earlier, rfl, by simpa using hlater⟩

theorem registered_cons_destroyed {id id' : UInt64} {journal : List Notice} :
    Registered id (.destroyed id' :: journal) ↔ id ≠ id' ∧ Registered id journal := by
  constructor
  · rintro ⟨_ | ⟨notice, later⟩, earlier, hjournal, hlater⟩
    · cases hjournal
    · rw [List.cons_append, List.cons.injEq] at hjournal
      obtain ⟨rfl, hjournal⟩ := hjournal
      simp only [List.mem_cons, Notice.destroyed.injEq, not_or] at hlater
      exact ⟨hlater.1, later, earlier, hjournal, hlater.2⟩
  · rintro ⟨hne, later, earlier, rfl, hlater⟩
    exact ⟨.destroyed id' :: later, earlier, rfl, by simpa [hne] using hlater⟩

/-! ## The entries -/

namespace DumbRequestHandler

variable {lib : NetLibrary} {h h' h'' : DumbRequestHandler} {k n : Nat} {pass : Pass}
  {id : UInt64} {rv : Int}

/-- The same identifiers have an entry. -/
def SameEntries (h h' : DumbRequestHandler) : Prop := ∀ id, h'.callbacks id = none ↔
    h.callbacks id = none

theorem SameEntries.of_eq (heq : h'.callbacks = h.callbacks) : SameEntries h h' :=
  fun id => by rw [heq]

theorem sameEntries_post {completion : Nat} (hentry : h.callbacks id ≠ none) :
    SameEntries h (h.post k id rv completion) := by
  intro id'
  by_cases hne : id' = id
  · subst hne
    simp [post, hentry]
  · simp [post, hne]

/-- The lookup fails if there is no entry, and only then. -/
inductive EndsPass (h : DumbRequestHandler) (id : UInt64) :
    Except HandlerFault DumbRequestHandler → Prop
  | endIterator : h.callbacks id = none → EndsPass h id (.error .endIterator)
  | fault {fault} : h.callbacks id ≠ none → fault ≠ .endIterator → EndsPass h id (.error fault)
  | ok {g} : h.callbacks id ≠ none → SameEntries h g → EndsPass h id (.ok g)

theorem runCallback_ends : EndsPass h id (h.runCallbackForRequestIdentifier k id rv) := by
  rcases hentry : h.callbacks id with _ | _ | completion
  · rw [runCallback_end hentry]
    exact .endIterator hentry
  · rw [runCallback_null hentry]
    exact .fault (by simp [hentry]) (by decide)
  · rw [runCallback_eq hentry]
    have hvalid : h.callbacks id ≠ none := by simp [hentry]
    exact .ok hvalid (sameEntries_post hvalid)

theorem endPass_ends : EndsPass h pass.ctx.requestIdentifier (h.endPass lib k pass rv) := by
  simp only [endPass]
  split
  · exact runCallback_ends
  split
  · next hwrites =>
    have hentry : h.callbacks pass.ctx.requestIdentifier ≠ none := by
      simpa [isRequestIdentifierValid, Option.isSome_iff_ne_none] using hwrites.2.2.2
    rcases hr : h.requests pass.request with _ | r
    · rw [writeNewUrl_freed (by simp [isAlive, hr])]
      exact .fault hentry (by decide)
    rcases ha : r.alive with _ | _
    · rw [writeNewUrl_freed (by simp [isAlive, hr, ha])]
      exact .fault hentry (by decide)
    · rw [writeNewUrl_eq hr ha]
      -- what is written is no entry
      have hends : EndsPass (h.writes k pass r (lib.parseUrl pass.ctx.newUrlSpec))
        pass.ctx.requestIdentifier
          ((h.writes k pass r (lib.parseUrl pass.ctx.newUrlSpec)).runCallbackForRequestIdentifier k
            pass.ctx.requestIdentifier rv) := runCallback_ends
      rw [Except.bind]
      generalize (h.writes k pass r
        (lib.parseUrl pass.ctx.newUrlSpec)).runCallbackForRequestIdentifier k
        pass.ctx.requestIdentifier rv = result at hends ⊢
      cases hends with
      | endIterator hnone => exact .endIterator hnone
      | fault hsome hfault => exact .fault hsome hfault
      | ok hsome hsame => exact .ok hsome hsame
  · exact runCallback_ends

end DumbRequestHandler

namespace NestedHandler

open DumbRequestHandler

variable {lib : NetLibrary} {n k : Nat} {s s' : NestedHandler} {pass : Pass} {id : UInt64}
  {rv : Int} {lost : Prop} {h h' : DumbRequestHandler} {result : Except HandlerFault NestedHandler}

/-- Everything that a step without notice can do: it fails to find an entry if that is `lost`, and
only then. -/
inductive Leads (h : DumbRequestHandler) (lost : Prop) : Except HandlerFault NestedHandler → Prop
  | endIterator : lost → Leads h lost (.error .endIterator)
  | fault {fault} : ¬ lost → fault ≠ .endIterator → Leads h lost (.error fault)
  | ok {t} : ¬ lost → SameEntries h t.handler → Leads h lost (.ok t)

theorem Leads.endIterator_iff (hleads : Leads h lost result) :
    result = .error .endIterator ↔ lost := by
  cases hleads with
  | endIterator hlost => exact iff_of_true rfl hlost
  | fault hnot hfault => exact iff_of_false (fun heq => hfault (Except.error.inj heq)) hnot
  | ok hnot _ => exact iff_of_false nofun hnot

/-- It matters only which entries there are. -/
theorem Leads.of_callbacks (hleads : Leads h lost result) (heq : h'.callbacks = h.callbacks) :
    Leads h' lost result := by
  cases hleads with
  | endIterator hlost => exact .endIterator hlost
  | fault hnot hfault => exact .fault hnot hfault
  | ok hnot hsame => exact .ok hnot fun id => by rw [hsame id, heq]

theorem Leads.sameEntries (hleads : Leads h lost result) (hok : result = .ok s') :
    SameEntries h s'.handler := by
  cases hleads with
  | endIterator _ => cases hok
  | fault _ _ => cases hok
  | ok _ hsame =>
    cases hok
    exact hsame

theorem leads_endPass :
    Leads s.handler (s.handler.callbacks pass.ctx.requestIdentifier = none)
    (s.endPass lib k pass rv) := by
  have hends : EndsPass s.handler pass.ctx.requestIdentifier (s.handler.endPass lib k pass rv) := endPass_ends
  unfold endPass
  generalize s.handler.endPass lib k pass rv = result at hends ⊢
  cases hends with
  | endIterator hnone => exact .endIterator hnone
  | fault hsome hfault => exact .fault hsome hfault
  | ok hsome hsame => exact .ok hsome hsame

/-- The head of the loop: it fails only if no callback is left. -/
theorem leads_runLoop (hpass : s.handler.passes k = some pass) :
    Leads s.handler (n = pass.ctx.nextUrlRequestIndex ∧
      s.handler.callbacks pass.ctx.requestIdentifier = none)
      (s.runLoop lib n k) := by
  simp only [runLoop, hpass]
  split
  · next hover =>
    simp only [hover, true_and]
    exact leads_endPass
  next hleft =>
  split
  · exact .fault (fun hlost => hleft hlost.1) (by decide)
  · exact .ok (fun hlost => hleft hlost.1) (.of_eq rfl)

/-- `RunNextCallback` tests for the entry before its loop. -/
theorem leads_runNextCallback : Leads s.handler False (s.runNextCallback lib n k) := by
  unfold runNextCallback
  split
  · exact .ok not_false (.of_eq rfl)
  next pass hpass =>
  split
  · exact .ok not_false (.of_eq rfl)
  next hvalid =>
  have hentry : s.handler.callbacks pass.ctx.requestIdentifier ≠ none := by
    simpa [isRequestIdentifierValid, Option.isSome_iff_ne_none] using hvalid
  split
  · have hleads : Leads s.handler _ (s.runLoop lib n k) := leads_runLoop hpass
    simpa only [hentry, and_false] using hleads
  · have hleads : Leads s.handler _ (s.endPass lib k pass OK) := leads_endPass
    simpa only [hentry] using hleads

/-- The result `rv` of a callback ends the pass: it is an error, or there is no callback left. -/
def Concludes (n : Nat) (pass : Pass) (rv : Int) : Prop :=
  rv ≠ ERR_IO_PENDING ∧ (rv = OK → n = pass.ctx.nextUrlRequestIndex)

theorem leads_callbackReturns {a : Activation} {outer : List Activation}
    (hactive : s.active = a :: outer) (hpass : s.handler.passes a.pass = some pass) :
    Leads s.handler (Concludes n pass rv ∧ s.handler.callbacks pass.ctx.requestIdentifier = none)
      (s.callbackReturns lib n rv) := by
  simp only [callbackReturns, hactive, hpass]
  let returned := pass.returned a.index rv
  let t : NestedHandler := { s with handler := s.handler.setPass a.pass returned, active := outer }
  by_cases hpending : rv = ERR_IO_PENDING
  · rw [if_pos hpending]
    exact .ok (fun hlost => hlost.1.1 hpending) (.of_eq rfl)
  rw [if_neg hpending]
  by_cases hok : rv = OK
  · have hconcludes : Concludes n pass rv ↔ n = returned.ctx.nextUrlRequestIndex :=
      ⟨fun hend => hend.2 hok, fun hend => ⟨hpending, fun _ => hend⟩⟩
    rw [if_neg (not_not.2 hok), hconcludes]
    have hleads : Leads t.handler (n = returned.ctx.nextUrlRequestIndex ∧
        t.handler.callbacks returned.ctx.requestIdentifier = none) (t.runLoop lib n a.pass) :=
      leads_runLoop setPass_passes_self
    exact hleads.of_callbacks rfl
  · have hconcludes : Concludes n pass rv := ⟨hpending, fun h => absurd h hok⟩
    rw [if_pos hok]
    simp only [hconcludes, true_and]
    have hleads : Leads t.handler (t.handler.callbacks returned.ctx.requestIdentifier = none)
        (t.endPass lib a.pass returned rv) := leads_endPass
    exact hleads.of_callbacks rfl

/-! ## The journal -/

/-- The entries are those of the identifiers that are registered. -/
def Journaled (s : NestedHandler) (journal : List Notice) : Prop :=
  ∀ id, s.handler.callbacks id ≠ none ↔ Registered id journal

theorem Journaled.of_sameEntries {journal : List Notice} (hj : s.Journaled journal)
    (hsame : SameEntries s.handler s'.handler) : s'.Journaled journal :=
  fun id => (not_congr (hsame id)).trans (hj id)

theorem Journaled.destroyRequest {journal : List Notice} (hj : s.Journaled journal) (id : UInt64) :
    (s.destroyRequest id).Journaled (.destroyed (s.contextIdentifier id) :: journal) := by
  intro id'
  rw [registered_cons_destroyed, ← hj id']
  by_cases hid : id' = s.contextIdentifier id
  · simp [NestedHandler.destroyRequest, onURLRequestDestroyed, hid]
  · simp [NestedHandler.destroyRequest, onURLRequestDestroyed, setRequest, hid]

theorem Journaled.beginHook {journal : List Notice} (hj : s.Journaled journal)
    (hid : pass.ctx.requestIdentifier = id) :
    s.beginHook lib n id pass ≠ .error .endIterator ∧
      ∀ s', s.beginHook lib n id pass = .ok s' → s'.Journaled (.registered id :: journal) := by
  subst hid
  let t : NestedHandler := { s with
    handler := s.handler.beginPass pass
    contexts := Function.update s.contexts pass.ctx.requestIdentifier (some s.handler.nextPass) }
  have hbegun : t.Journaled (.registered pass.ctx.requestIdentifier :: journal) := by
    intro id
    rw [registered_cons_registered, ← hj id]
    by_cases hid : id = pass.ctx.requestIdentifier
    · simp [t, DumbRequestHandler.beginPass, hid]
    · simp [t, DumbRequestHandler.beginPass, counted, setRequest, setPass, hid]
  have hleads : Leads t.handler False (t.runNextCallback lib n s.handler.nextPass) :=
    leads_runNextCallback
  exact ⟨fun hend => hleads.endIterator_iff.1 hend, fun s' hok =>
    hbegun.of_sameEntries (hleads.sameEntries hok)⟩

/-- A callback returns with a result that ends the pass, and no completion is registered for the
identifier that its context holds. -/
def LosesEntry (n : Nat) (s : NestedHandler) (journal : List Notice) : NestedEvent → Prop
  | .returns rv =>
    ∃ a outer pass, s.active = a :: outer ∧ s.handler.passes a.pass = some pass ∧
      Concludes n pass rv ∧
      ¬ Registered pass.ctx.requestIdentifier journal
  | _ => False

/-- A step that neither registers nor destroys anything. -/
theorem Journaled.leads {journal : List Notice} (hj : s.Journaled journal)
    (hleads : Leads h lost result) (heq : h.callbacks = s.handler.callbacks) :
    (result = .error .endIterator ↔ lost) ∧ ∀ s', result = .ok s' → s'.Journaled journal :=
  ⟨hleads.endIterator_iff, fun _ hok =>
    hj.of_sameEntries ((hleads.of_callbacks heq.symm).sameEntries hok)⟩

theorem Journaled.ok {journal : List Notice} (hj : s.Journaled journal) :
    ((.ok s : Except HandlerFault NestedHandler) = .error .endIterator ↔ False) ∧
      ∀ t, (.ok s : Except HandlerFault NestedHandler) = .ok t → t.Journaled journal :=
  ⟨iff_of_false nofun not_false, fun _ hok => Except.ok.inj hok ▸ hj⟩

theorem Journaled.kept {journal : List Notice} (hj : s.Journaled journal)
    (heq : s'.handler.callbacks = s.handler.callbacks) :
    ((.ok s' : Except HandlerFault NestedHandler) = .error .endIterator ↔ False) ∧
      ∀ t, (.ok s' : Except HandlerFault NestedHandler) = .ok t → t.Journaled journal :=
  (hj.of_sameEntries (.of_eq heq)).ok

theorem Journaled.exec {journal : List Notice} {e : NestedEvent} (hj : s.Journaled journal) :
    (s.exec lib n e = .error .endIterator ↔ s.LosesEntry n journal e) ∧
      ∀ s', s.exec lib n e = .ok s' → s'.Journaled (s.notes n e s' journal) := by
  cases e with
  | createRequest id => exact hj.kept rfl
  | onBeforeStartTransaction id => exact hj.kept rfl
  | destroyRequest id => exact (hj.destroyRequest id).ok
  | edit k edits =>
    simp only [NestedHandler.exec]
    split
    · exact hj.kept rfl
    · exact hj.kept rfl
  | nextCallback k =>
    simp only [NestedHandler.exec]
    split
    · exact hj.kept rfl
    · exact hj.leads leads_runNextCallback rfl
  | restartInternal id request renderProcessId frameTreeNodeId oldCtx =>
    simp only [NestedHandler.exec, restartInternal, notes]
    split
    · exact hj.kept rfl
    · obtain ⟨hfound, hjournal⟩ :=
        beginHook (s := { s with handler := s.handler.restarted id }) hj rfl
      exact ⟨iff_of_false hfound not_false, hjournal⟩
  | onHeadersReceived id request renderProcessId frameTreeNodeId oldCtx =>
    simp only [NestedHandler.exec, onHeadersReceived, notes]
    split
    · exact hj.kept rfl
    · obtain ⟨hfound, hjournal⟩ := hj.beginHook rfl
      exact ⟨iff_of_false hfound not_false, hjournal⟩
  | returns rv =>
    have hnone {id : UInt64} : s.handler.callbacks id = none ↔ ¬ Registered id journal := by
      rw [← hj id, not_not]
    simp only [NestedHandler.exec, LosesEntry]
    rcases hactive : s.active with _ | ⟨a, outer⟩
    · simp only [callbackReturns, hactive]
      simpa [notes] using hj
    rcases hpass : s.handler.passes a.pass with _ | pass
    · simp only [callbackReturns, hactive, hpass]
      refine ⟨by simp [hpass], ?_⟩
      rintro s' ⟨⟩
      exact hj
    · have hreturns : Leads s.handler _ (s.callbackReturns lib n rv) :=
        leads_callbackReturns hactive hpass
      have hleads := hj.leads hreturns rfl
      simpa [hpass, hnone, notes] using hleads

theorem journaled_reach {journal : List Notice}
    (hreach : (journaledSystem lib n).Reachable (s, journal)) :
    s.Journaled journal := by
  refine hreach.invariant (I := fun t => t.1.Journaled t.2) (fun id => ?_)
    fun t e t' hj _ _ hex => ?_
  · exact iff_of_false (fun hentry => hentry rfl) not_registered_nil
  · obtain ⟨hexec, hnotes⟩ := System.observed_exec.1 hex
    rw [hnotes]
    exact hj.exec.2 t'.1 hexec

end NestedHandler


/-! ## Callbacks that answer at once -/

section Answers
variable {Ω : Type} {lib : NetLibrary} {callbacks : List (OnBeforeURLRequestCallback Ω)} {ω : Ω} {k : Nat}
  {h h' : DumbRequestHandler} {pass : Pass} {contexts : UInt64 → Option Nat} {id : UInt64}

namespace DumbRequestHandler

theorem setPass_setPass {pass' : Pass} :
    (h.setPass k pass).setPass k pass' = h.setPass k pass' := by
  simp [setPass]

/-- The request of the pass is destroyed, unless it has been already. -/
def destroyOnce (h : DumbRequestHandler) (id : UInt64) (destroyed destroys : Bool) :
    DumbRequestHandler :=
  if destroys && !destroyed then h.destroyRequest id else h

theorem setPass_same (hpass : h.passes k = some pass) : h.setPass k pass = h := by
  unfold setPass
  rw [← hpass, Function.update_eq_self]

theorem setPass_destroyOnce {destroyed destroys : Bool} :
    (h.destroyOnce id destroyed destroys).setPass k pass = (h.setPass k pass).destroyOnce id
    destroyed destroys := by
  unfold destroyOnce
  split <;> rfl

theorem destroyOnce_destroyOnce {destroyed first second : Bool} :
    (h.destroyOnce id destroyed first).destroyOnce id (destroyed || first) second =
      h.destroyOnce id destroyed (first || second) := by
  cases destroyed <;> cases first <;> cases second <;> rfl

/-- The context of a request is that of one of its passes. -/
def HoldsContexts (h : DumbRequestHandler) (contexts : UInt64 → Option Nat) : Prop :=
  ∀ id k, contexts id = some k → h.Begun k id

theorem HoldsContexts.setPass (hc : h.HoldsContexts contexts) {pass' : Pass}
    (hpass : h.passes k = some pass)
    (hid : pass'.ctx.requestIdentifier = pass.ctx.requestIdentifier) :
    (h.setPass k pass').HoldsContexts contexts := by
  refine fun id k hcontext => (hc id k hcontext).setPass fun pass' hpass' => ?_
  rw [hpass, Option.some.injEq] at hpass'
  exact hpass' ▸ hid

theorem HoldsContexts.destroyOnce {destroyed destroys : Bool} (hc : h.HoldsContexts contexts) :
    (h.destroyOnce id destroyed destroys).HoldsContexts contexts := by
  unfold DumbRequestHandler.destroyOnce
  split
  · exact hc
  · exact hc

theorem HoldsContexts.runNextCallback (hc : h.HoldsContexts contexts)
    (hpass : h.passes k = some pass) (hok : h.runNextCallback lib callbacks k ω = .ok h') :
    h'.HoldsContexts contexts := by
  have hends : Ends callbacks ω k pass h (h.runNextCallback lib callbacks k ω) :=
    runNextCallback_ends hpass
  rw [hok] at hends
  have hset : (h.setPass k (pass.after (pass.run callbacks ω))).HoldsContexts contexts :=
    hc.setPass hpass (pass.run_ctx callbacks ω).identifier
  cases hends with
  | invalid _ => exact hc
  | suspended _ _ => exact afterCallbacks_of (I := (HoldsContexts · contexts)) hset fun _ _ hg => hg
  | posted _ _ => exact hset
  | written _ _ _ _ => exact hset

theorem HoldsContexts.beginPass {n : Nat} (hc : h.HoldsContexts contexts) (hs : Consistent n h)
    (hid : pass.ctx.requestIdentifier = id) :
    (h.beginPass pass).HoldsContexts (Function.update contexts id (some h.nextPass)) := by
  intro id' k hcontext
  by_cases hne : id' = id
  · subst hne
    rw [Function.update_self, Option.some.injEq] at hcontext
    exact ⟨pass, hcontext ▸ setPass_passes_self, hid⟩
  · rw [Function.update_of_ne hne] at hcontext
    obtain ⟨pass', hpass', hid'⟩ := hc id' k hcontext
    have hold : k ≠ h.nextPass := Nat.ne_of_lt (hs.passes k pass' hpass').2
    exact ⟨pass', (setPass_passes_of_ne hold).trans hpass', hid'⟩

theorem HoldsContexts.passHook (hc : h.HoldsContexts contexts) (id : UInt64) :
    h.HoldsContexts (Function.update contexts id none) := by
  intro id' k hcontext
  by_cases hne : id' = id
  · subst hne
    simp at hcontext
  · exact hc id' k (by rwa [Function.update_of_ne hne] at hcontext)

end DumbRequestHandler

open DumbRequestHandler NestedHandler

theorem contextIdentifier_eq {active : List Activation} (hc : h.HoldsContexts contexts) :
    contextIdentifier ⟨h, active, contexts⟩ id = id := by
  simp only [contextIdentifier]
  split
  · rfl
  next k hcontext =>
  obtain ⟨pass, hpass, hid⟩ := hc id k hcontext
  simp [hpass, hid]

variable (lib callbacks contexts) in
/-- What the end of a run of the callbacks leaves is reached. -/
def EndReached (h : DumbRequestHandler) (k : Nat) (pass : Pass) (rv : Int) : Prop :=
  if rv = ERR_IO_PENDING then (nestedSystem lib callbacks.length).Reachable ⟨h, [], contexts⟩
  else ∀ h', h.endPass lib k pass rv = .ok h' →
    (nestedSystem lib callbacks.length).Reachable ⟨h', [], contexts⟩

/-- A callback that is called and answers. -/
theorem reachable_answer {n index : Nat} {destroyed : Bool} (answer : CallbackAnswer)
    (hreach : (nestedSystem lib n).Reachable ⟨h, [⟨k, index⟩], contexts⟩)
    (hc : h.HoldsContexts contexts) (hpass : h.passes k = some pass)
    (ha : destroyed = false → h.isAlive id = true) :
    (nestedSystem lib n).Reachable
      ⟨(h.setPass k { pass with ctx := pass.ctx.edited answer.edits }).destroyOnce id destroyed
          answer.destroysRequest,
        [⟨k, index⟩], contexts⟩ := by
  have hedit : (nestedSystem lib n).Reachable
      ⟨h.setPass k { pass with ctx := pass.ctx.edited answer.edits }, [⟨k, index⟩], contexts⟩ := by
    refine hreach.step (e := .edit k (·.edited answer.edits)) ?_ trivial ?_
    · simp [nestedSystem, NestedHandler.isEnabled, hpass]
    · simp [nestedSystem, NestedHandler.exec, hpass]
  rcases answer.destroysRequest with _ | _
  · simpa [DumbRequestHandler.destroyOnce] using hedit
  cases destroyed with
  | false =>
    have hedited : (h.setPass k { pass with ctx := pass.ctx.edited answer.edits }).HoldsContexts contexts :=
      hc.setPass hpass rfl
    refine hedit.step (e := .destroyRequest id) (ha rfl) trivial ?_
    simp [nestedSystem, NestedHandler.exec, NestedHandler.destroyRequest,
      DumbRequestHandler.destroyOnce,
      DumbRequestHandler.destroyRequest, contextIdentifier_eq hedited]
  | true => exact hedit

theorem reachable_returns {n index : Nat} (rv : Int) (s : NestedHandler)
    (hreach : (nestedSystem lib n).Reachable ⟨h, [⟨k, index⟩], contexts⟩)
    (hpass : h.passes k = some pass)
    (hresult : (if rv = ERR_IO_PENDING then .ok ⟨h.setPass k (pass.returned index rv), [], contexts⟩
      else if rv ≠ OK then
        endPass lib ⟨h.setPass k (pass.returned index rv), [], contexts⟩ k
          (pass.returned index rv) rv
      else runLoop lib n ⟨h.setPass k (pass.returned index rv), [], contexts⟩ k) = .ok s) :
    (nestedSystem lib n).Reachable s := by
  refine hreach.step (e := .returns rv) (by simp [nestedSystem, NestedHandler.isEnabled]) trivial ?_
  simpa only [nestedSystem, NestedHandler.exec, callbackReturns, hpass] using hresult

/-- With no callback left, the loop comes to the end of the pass. -/
theorem reachable_noCallbacks {destroyed : Bool} (hpass : h.passes k = some pass)
    (hsuspended : pass.suspended = false) (hlen : pass.ctx.nextUrlRequestIndex = callbacks.length)
    (hreach : ∀ s, runLoop lib callbacks.length ⟨h, [], contexts⟩ k = .ok s →
      (nestedSystem lib callbacks.length).Reachable s) :
    EndReached lib callbacks contexts
      ((h.setPass k (pass.after (runCallbacks ω [] pass.ctx))).destroyOnce
          pass.ctx.requestIdentifier destroyed
        (runCallbacks ω [] pass.ctx).destroyed)
      k (pass.after (runCallbacks ω [] pass.ctx)) (runCallbacks ω [] pass.ctx).rv := by
  have hafter : pass.after (runCallbacks ω [] pass.ctx) = pass := by
    cases pass
    simp_all [Pass.after, runCallbacks_nil, OK, ERR_IO_PENDING]
  rw [hafter, DumbRequestHandler.setPass_same hpass]
  refine (if_neg (ne_pending_of_ok rfl)).mpr fun h' (hend : h.endPass lib k pass OK = .ok h') => hreach _ ?_
  simp only [runLoop, hpass, if_pos hlen.symm, NestedHandler.endPass, hend]
  rfl

/-- The callbacks that are left answer one after another. -/
theorem reachable_runCallbacks {rest : List (OnBeforeURLRequestCallback Ω)} :
    ∀ {h : DumbRequestHandler} {pass : Pass} {destroyed : Bool}, h.passes k = some pass →
      pass.suspended = false → pass.ctx.nextUrlRequestIndex + rest.length = callbacks.length →
      h.HoldsContexts contexts → (destroyed = false → h.isAlive pass.ctx.requestIdentifier = true) →
      (∀ s, runLoop lib callbacks.length ⟨h, [], contexts⟩ k = .ok s →
        (nestedSystem lib callbacks.length).Reachable s) →
      EndReached lib callbacks contexts
        ((h.setPass k (pass.after (runCallbacks ω rest pass.ctx))).destroyOnce
            pass.ctx.requestIdentifier destroyed
          (runCallbacks ω rest pass.ctx).destroyed)
        k (pass.after (runCallbacks ω rest pass.ctx)) (runCallbacks ω rest pass.ctx).rv := by
  induction rest with
  | nil =>
    exact fun hpass hsuspended hlen _ _ hreach => reachable_noCallbacks hpass hsuspended hlen hreach
  | cons callback rest ih =>
    intro h pass destroyed hpass hsuspended hlen hc ha hreach
    rw [List.length_cons] at hlen
    have hleft : callbacks.length ≠ pass.ctx.nextUrlRequestIndex := by omega
    have hinside : ¬ callbacks.length < pass.ctx.nextUrlRequestIndex := by omega
    have hcalling : (h.setPass k { pass with ctx := pass.ctx.advanced }).HoldsContexts contexts :=
      hc.setPass hpass rfl
    have hcalled := reachable_answer (callback ω pass.ctx.advanced)
      (hreach _ (by simp only [runLoop, hpass, if_neg hleft, if_neg hinside]; rfl)) hcalling
        setPass_passes_self ha
    rw [setPass_setPass] at hcalled
    simp only [runCallbacks_cons]
    generalize callback ω pass.ctx.advanced = answer at hcalled ⊢
    let answered : Pass := { pass with ctx := pass.ctx.advanced.edited answer.edits }
    have hself (pass' : Pass) : ((h.setPass k pass').destroyOnce
      pass.ctx.requestIdentifier destroyed
        answer.destroysRequest).passes k = some pass' := by
      rw [← setPass_destroyOnce]
      exact setPass_passes_self
    have hreturns {rv : Int} {s : NestedHandler} := reachable_returns rv s hcalled (hself answered)
    simp only [setPass_destroyOnce, setPass_setPass] at hreturns
    split
    · next hstop =>
      unfold EndReached
      split
      · next hpending => exact hreturns (if_pos hpending)
      · next hpending =>
        intro h' hend
        apply hreturns
        rw [if_neg hpending, if_pos hstop]
        exact congrArg (Except.map _) hend
    · next hok =>
      rw [not_not] at hok
      have hlen' : (answered.returned pass.ctx.nextUrlRequestIndex OK).ctx.nextUrlRequestIndex + rest.length =
          callbacks.length := by
        simp only [Pass.returned, answered, DumbRequestInfo.edited, DumbRequestInfo.advanced]
        omega
      have hcontexts : ((h.setPass k
        (answered.returned pass.ctx.nextUrlRequestIndex OK)).destroyOnce
          pass.ctx.requestIdentifier destroyed answer.destroysRequest).HoldsContexts contexts := by
        refine HoldsContexts.destroyOnce (hc.setPass hpass ?_)
        rfl
      have hlive : (destroyed || answer.destroysRequest) = false →
          ((h.setPass k (answered.returned pass.ctx.nextUrlRequestIndex OK)).destroyOnce
            pass.ctx.requestIdentifier
            destroyed answer.destroysRequest).isAlive pass.ctx.requestIdentifier = true := by
        intro hlive
        rw [Bool.or_eq_false_iff] at hlive
        rw [hlive.2]
        exact ha hlive.1
      have hnext := ih (hself (answered.returned pass.ctx.nextUrlRequestIndex OK))
        (decide_eq_false (ne_pending_of_ok rfl)) hlen' hcontexts hlive
        fun s hs => hreturns ((if_neg (ne_pending_of_ok rfl)).trans ((if_neg (by simp)).trans hs))
      rw [setPass_destroyOnce, setPass_setPass] at hnext
      have hrun : (answered.returned pass.ctx.nextUrlRequestIndex OK).after
        (runCallbacks ω rest answered.ctx) =
          pass.after { runCallbacks ω rest answered.ctx with
            called := (pass.ctx.nextUrlRequestIndex, OK)
              :: (runCallbacks ω rest answered.ctx).called
            destroyed := answer.destroysRequest ||
              (runCallbacks ω rest answered.ctx).destroyed } := by
        simp [Pass.after, Pass.returned, answered]
      rw [hok]
      change EndReached lib callbacks contexts
        (((h.setPass k ((answered.returned pass.ctx.nextUrlRequestIndex
        OK).after (runCallbacks ω rest answered.ctx))).destroyOnce pass.ctx.requestIdentifier
          destroyed _).destroyOnce
        pass.ctx.requestIdentifier _ _) k ((answered.returned pass.ctx.nextUrlRequestIndex OK).after
        (runCallbacks ω rest answered.ctx)) _ at hnext
      rw [destroyOnce_destroyOnce, hrun] at hnext
      exact hnext

theorem afterCallbacks_eq {run : ChainRun} :
    h.afterCallbacks k pass run = (h.setPass k (pass.after run)).destroyOnce
    pass.ctx.requestIdentifier false
      run.destroyed := by
  simp [afterCallbacks, destroyOnce]

theorem reachable_runNextCallback (hs : Consistent callbacks.length h)
    (hpass : h.passes k = some pass) (hsuspended : pass.suspended = false)
    (hc : h.HoldsContexts contexts)
    (hreach : ∀ s, NestedHandler.runNextCallback lib callbacks.length ⟨h, [], contexts⟩ k = .ok s →
      (nestedSystem lib callbacks.length).Reachable s)
    (hok : h.runNextCallback lib callbacks k ω = .ok h') :
    (nestedSystem lib callbacks.length).Reachable ⟨h', [], contexts⟩ := by
  obtain ⟨hevent, -, -, hbound, -⟩ := (hs.passes k pass hpass).1
  simp only [DumbRequestHandler.runNextCallback, hpass] at hok
  simp only [NestedHandler.runNextCallback, hpass] at hreach
  split at hok
  · next hinvalid =>
    rw [Except.ok.injEq] at hok
    exact hok ▸ hreach _ (if_pos hinvalid)
  next hvalid =>
  have halive : h.isAlive pass.ctx.requestIdentifier = true := by
    apply hs.entries
    simpa [isRequestIdentifierValid, Option.isSome_iff_ne_none] using hvalid
  have hlen : pass.ctx.nextUrlRequestIndex + (callbacks.drop pass.ctx.nextUrlRequestIndex).length =
      callbacks.length := by
    rw [List.length_drop]
    omega
  have hend : EndReached lib callbacks contexts _ k _ _ :=
    reachable_runCallbacks (ω := ω) hpass hsuspended hlen hc
    (fun (_ : false = false) => halive) fun s hs =>
      hreach s ((if_neg hvalid).trans ((if_pos hevent).trans hs))
  have hid := (pass.run_ctx callbacks ω).identifier
  rw [← afterCallbacks_eq, ← pass.run_eq callbacks ω hevent] at hend
  unfold EndReached at hend
  split at hok
  · next hpending =>
    rw [if_pos hpending, Except.ok.inj hok] at hend
    exact hend
  · next hpending =>
    rw [if_neg hpending] at hend
    apply hend
    unfold DumbRequestHandler.endPass
    rw [← hok]
    simp only [Pass.after, hid]
    rfl

/-- Every state of the handler is one of the nested handler. -/
theorem reachable_nested (hreach : (handlerSystem lib callbacks).Reachable h) :
    ∃ contexts, (nestedSystem lib callbacks.length).Reachable ⟨h, [], contexts⟩ ∧
    h.HoldsContexts contexts := by
  induction hreach with
  | init => exact ⟨_, .init, nofun⟩
  | @step h h' e hreach hen _ hex ih =>
    have hs := consistent_reach hreach
    obtain ⟨contexts, hnested, hc⟩ := ih
    cases e with
    | createRequest id =>
      cases hex
      exact ⟨contexts, hnested.step (e := .createRequest id) hen trivial rfl, hc⟩
    | destroyRequest id =>
      cases hex
      refine ⟨contexts, hnested.step (e := .destroyRequest id) hen trivial ?_, hc⟩
      simp [nestedSystem, NestedHandler.exec, NestedHandler.destroyRequest,
        DumbRequestHandler.destroyRequest,
        contextIdentifier_eq hc]
    | restartInternal id request renderProcessId frameTreeNodeId oldCtx ω =>
      have hstep (s : NestedHandler)
          (hex : (nestedSystem lib callbacks.length).exec ⟨h, [], contexts⟩
            (.restartInternal id request renderProcessId frameTreeNodeId oldCtx) = .ok s) :
          (nestedSystem lib callbacks.length).Reachable s := by
        refine hnested.step ?_ trivial hex
        exact hen
      simp only [nestedSystem, NestedHandler.exec, NestedHandler.restartInternal] at hstep
      simp only [handlerSystem, DumbRequestHandler.exec, DumbRequestHandler.restartInternal,
        onBeforeURLRequest] at hex
      split at hex
      · next hunhandled =>
        cases hex
        exact ⟨_, hstep _ (if_pos (by simpa using hunhandled)), hc.passHook id⟩
      · next hhandled =>
        rw [map_pair_snd] at hex
        rw [if_neg (by simpa using hhandled)] at hstep
        obtain ⟨hbegun, -⟩ := hs.begun hen rfl
        have hcontexts : ((h.restarted id).beginPass ((h.restarted id).newPass
            (.makeCTX request renderProcessId frameTreeNodeId id oldCtx))).HoldsContexts
              (Function.update contexts id (some h.nextPass)) :=
          HoldsContexts.beginPass (h := h.restarted id) hc (hs.restarted id) rfl
        exact ⟨_, reachable_runNextCallback hbegun setPass_passes_self rfl hcontexts hstep hex,
          hcontexts.runNextCallback setPass_passes_self hex⟩
    | resume k edits ω =>
      obtain ⟨pass, hpass, hsuspended⟩ := (Option.any_eq_true ..).1 hen
      obtain ⟨hresumed, -⟩ := hs.resumed hpass hsuspended
      simp only [handlerSystem, DumbRequestHandler.exec, resume, hpass] at hex
      have hedited : (nestedSystem lib callbacks.length).Reachable
          ⟨h.setPass k { pass with ctx := pass.ctx.edited edits }, [], contexts⟩ := by
        refine hnested.step (e := NestedEvent.edit k (·.edited edits)) ?_ trivial ?_
        · simp [nestedSystem, NestedHandler.isEnabled, hpass]
        · simp [nestedSystem, NestedHandler.exec, hpass]
      have hcontexts : (h.setPass k (pass.resumed edits)).HoldsContexts contexts :=
        hc.setPass hpass rfl
      refine ⟨contexts, reachable_runNextCallback hresumed setPass_passes_self rfl hcontexts
        (fun s hs => ?_) hex,
        hcontexts.runNextCallback setPass_passes_self hex⟩
      refine hedited.step (e := NestedEvent.nextCallback k) ?_ trivial ?_
      · simp [nestedSystem, NestedHandler.isEnabled]
      · simp only [nestedSystem, NestedHandler.exec, setPass_passes_self, setPass_setPass]
        exact hs

end Answers

/-! ## The lookup -/

/-- **The lookup of a completion.** In every reachable state a step finds the entry that it looks up
unless a callback returns with a result that ends its pass and no completion is registered for the
identifier that its context then holds, and only then. -/
theorem lookup_finds_entry_iff {lib : NetLibrary} {n : Nat} {s : NestedHandler}
    {journal : List Notice} {e : NestedEvent}
    (hreach : (journaledSystem lib n).Reachable (s, journal)) :
    s.exec lib n e ≠ .error .endIterator ↔ ¬ s.LosesEntry n journal e :=
  not_congr (NestedHandler.journaled_reach hreach).exec.1

/-- A callback restarts its own request, whose only callback then returns; the outer execution is
still under way. -/
theorem lookup_finds_entry_nested : ∃ s journal,
    (journaledSystem plainLibrary 1).Reachable (s, journal) ∧
    s.active.length = 2 ∧ s.exec plainLibrary 1 (.returns OK) ≠ .error .endIterator := by
  have hreach := System.reach_of_replay (S := journaledSystem plainLibrary 1) (C := fun _ _ => True)
    [.createRequest 1, .restartInternal 1 pageRequest 0 0 none,
      .restartInternal 1 pageRequest 0 0 none] rfl
  refine ⟨_, _, hreach, rfl, (lookup_finds_entry_iff hreach).2 ?_⟩
  rintro ⟨a, outer, pass, hactive, hpass, -, hlost⟩
  cases hactive
  cases hpass
  exact hlost ⟨[], _, rfl, List.not_mem_nil⟩

/-- A callback has its own request destroyed and returns, with `OK` or with an error. -/
theorem destroyed_request_looked_up : ∃ s, (nestedSystem plainLibrary 1).Reachable s ∧ s.isEnabled
    (.returns OK) = true ∧
    s.exec plainLibrary 1 (.returns OK) = .error .endIterator ∧
    s.exec plainLibrary 1 (.returns ERR_BLOCKED_BY_CLIENT) = .error .endIterator := by
  have hreach := System.reach_of_replay (S := nestedSystem plainLibrary 1) (C := fun _ _ => True)
    [.createRequest 1, .restartInternal 1 pageRequest 0 0 none, .destroyRequest 1] rfl
  exact ⟨_, hreach, rfl, rfl, rfl⟩

end DumbBrowser
