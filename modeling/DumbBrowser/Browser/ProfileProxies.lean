import DumbBrowser.Browser.CompleteMediation
import DumbBrowser.Browser.ResourceContextData

/-!
# Runs of a profile

What holds of all factories, requests and WebSockets of a browser context, in whatever order their
events come.

* `proxies_owned` : the data owns the proxies that are alive, and one that goes is found;
* `profile_fails_iff` : what fails in a profile are messages for WebSocket clients that are not
  there, and clients too many;
* `unique_ids` : no two requests or WebSockets of a profile have the same id;
* `profile_protocol` : the protocol of one request, or of one WebSocket, is kept by all.
-/

namespace DumbBrowser

open Exec

variable {Ω : Type} {lib : NetLibrary} {text : HeaderText} {hooks : Hooks Ω}

/-! ## The ids of a factory -/

namespace ProxyWorld

variable {w w' : ProxyWorld}

def ids (w : ProxyWorld) (p : Ptr) : Option UInt64 := (w.slots p).map (·.object.requestId)

theorem ids_update (w : ProxyWorld) (factory : ProxyFactory) (p : Ptr) (s : Slot) :
    ids { factory, slots := Function.update w.slots p (some s) } = Function.update w.ids p
    (some s.object.requestId) := by
  funext q
  by_cases hq : q = p
  · subst hq
    simp [ids]
  · simp [ids, hq]

end ProxyWorld

def ProxyEvent.creates : ProxyEvent Ω → Bool
  | .createLoaderAndStart .. => true
  | .clone _ | .proxyDisconnect _ | .targetFactoryError | .request .. => false

/-- Only a new request takes an id, the next one. -/
theorem ProxyWorld.exec_ids {w w' : ProxyWorld} (hw : w.Consistent) {e : ProxyEvent Ω}
    (hex : w.exec lib hooks e = .ok w') :
    (w'.ids = w.ids ∧ w'.factory.requestIdGenerator = w.factory.requestIdGenerator) ∨
      e.creates = true ∧ w.ids w.factory.nextPtr = none ∧
        w'.ids = Function.update w.ids w.factory.nextPtr (some (w.factory.requestIdGenerator + 1)) ∧
        w'.factory.requestIdGenerator = w.factory.requestIdGenerator + 1 := by
  cases e with
  | createLoaderAndStart receiver requestId options request trafficAnnotationTag env =>
    obtain ⟨f', hrun, rfl⟩ := runAt_ok
      (w := { w with factory := w.factory.generate.2.emplaceRequest }) hex
    have hidentity := (restartInternal_preserves (p := w.factory.generate.2.nextPtr) env).ok hrun
    refine .inr ⟨rfl, ?_, ?_, congrArg Prod.fst hidentity⟩
    · rw [ids, hw.fresh _ (Nat.le_refl _), Option.map_none]
    · rw [ids_update { w with factory := w.factory.generate.2.emplaceRequest }]
      exact congrArg (Function.update w.ids w.factory.nextPtr <| some ·)
        (congrArg Prod.snd hidentity)
  | clone receiver =>
    cases hex
    exact .inl ⟨rfl, rfl⟩
  | proxyDisconnect receiver =>
    obtain ⟨factory, hfactory, rfl⟩ := map_ok hex
    exact .inl ⟨rfl, (ProxyFactory.maybeRemoveProxy_generator hfactory).trans rfl⟩
  | targetFactoryError =>
    obtain ⟨factory, hfactory, rfl⟩ := map_ok hex
    exact .inl ⟨rfl, (ProxyFactory.maybeRemoveProxy_generator hfactory).trans rfl⟩
  | request p e =>
    rcases hs : w.slots p with _ | s
    · simp only [exec, hs, Except.ok.injEq] at hex
      exact hex ▸ .inl ⟨rfl, rfl⟩
    · simp only [exec, hs] at hex
      obtain ⟨f', hrun, rfl⟩ := runAt_ok hex
      have hidentity := (RequestEvent.run_preserves e).ok hrun
      refine .inl ⟨?_, congrArg Prod.fst hidentity⟩
      have hid : f'.slot.object.requestId = s.object.requestId := congrArg Prod.snd hidentity
      rw [ids_update, hid]
      exact Function.update_eq_self_iff.2 (by rw [ids, hs, Option.map_some])

/-! ## The ids of a profile -/

/-- What has an id: a request of a factory, or a WebSocket. -/
inductive Holder where
  | request (factory : Nat) (p : Ptr)
  | socket (i : Nat)
deriving DecidableEq

/-- A WebSocket has no id before its start. -/
def WebSocketSlot.id (s : WebSocketSlot) : Option UInt64 :=
  if s.started then some s.object.requestId else none

theorem WebSocketSlot.id_of_identity {s t : WebSocketSlot} (h : s.identity = t.identity) : s.id = t.id := by
  obtain ⟨hstarted, hid⟩ := Prod.mk.inj h
  rw [id, id, hstarted, hid]

/-- A WebSocket is started once. -/
theorem WebSocketEvent.id_none {e : WebSocketEvent Ω} {s : WebSocketSlot} {id : UInt64}
    (he : e.startId = some id) (hen : e.isEnabled s = true) : s.id = none := by
  have hstarted : (s.alive && !s.started) = true := by
    cases e with
    | start => exact hen
    | webSocketFactoryRun => exact hen
    | _ => cases he
  simp only [Bool.and_eq_true, Bool.not_eq_true'] at hstarted
  rw [WebSocketSlot.id, hstarted.2]
  rfl

def ContextEvent.takesId : ContextEvent Ω → Bool
  | .startProxying .. | .startProxyingWebSocket .. => false
  | .factory _ e => e.creates
  | .socket _ e => e.startId.isSome

namespace ContextWorld

variable {w w' : ContextWorld}

def idOf (w : ContextWorld) : Holder → Option UInt64
  | .request i p => w.factories[i]?.bind (·.ids p)
  | .socket i => w.sockets[i]?.bind (·.id)

/-- The event takes the next id for one that has none. -/
def GivesId (w : ContextWorld) (e : ContextEvent Ω) (w' : ContextWorld) : Prop :=
  e.takesId = true ∧ w'.self.requestIdGenerator = w.self.requestIdGenerator + 1 ∧
    ∃ a, w.idOf a = none ∧ w'.idOf = Function.update w.idOf a (some (w.self.requestIdGenerator + 1))

theorem idOf_request {i : Nat} {proxy : ProxyWorld} (hi : w.factories[i]? = some proxy) (p : Ptr) :
    w.idOf (.request i p) = proxy.ids p := by
  rw [idOf, hi, Option.bind_some]

theorem idOf_socket {i : Nat} {s : WebSocketSlot} (hi : w.sockets[i]? = some s) :
    w.idOf (.socket i) = s.id := by
  rw [idOf, hi, Option.bind_some]

theorem idOf_setFactory {i : Nat} {proxy after : ProxyWorld} (hi : w.factories[i]? = some proxy)
    {data : Option ResourceContextData} (a : Holder) :
    idOf { w with data, factories := w.factories.set i after } a =
      match a with
      | .request j p => if i = j then after.ids p else w.idOf (.request j p)
      | .socket j => w.idOf (.socket j) := by
  cases a with
  | request j p =>
    have hlt := (List.getElem?_eq_some_iff.1 hi).1
    by_cases hj : i = j
    · subst hj
      simp [idOf, hlt]
    · simp [idOf, hj]
  | socket j => rfl

theorem idOf_setSocket {i : Nat} {s after : WebSocketSlot} (hi : w.sockets[i]? = some s)
    {data : Option ResourceContextData} (a : Holder) :
    idOf { w with data, sockets := w.sockets.set i after } a =
      if a = .socket i then after.id else w.idOf a := by
  cases a with
  | request j p => simp [idOf]
  | socket j =>
    have hlt := (List.getElem?_eq_some_iff.1 hi).1
    by_cases hj : i = j
    · subst hj
      simp [idOf, hlt]
    · simp [idOf, hj, Ne.symm hj]

/-- A new proxy has no ids. -/
theorem idOf_startProxying (w : ContextWorld) (renderProcessId frameTreeNodeId : Int) :
    (w.startProxying renderProcessId frameTreeNodeId).idOf = w.idOf := by
  funext a
  cases a with
  | request j p =>
    simp only [idOf, startProxying, List.getElem?_append, List.getElem?_singleton]
    split
    · rfl
    · next hlt =>
      rw [List.getElem?_eq_none (Nat.not_lt.1 hlt)]
      split <;> rfl
  | socket j => rfl

theorem idOf_startProxyingWebSocket (w : ContextWorld) (request : ResourceRequest)
    (renderProcessId frameTreeNodeId : Int) :
    (w.startProxyingWebSocket request renderProcessId frameTreeNodeId).idOf = w.idOf := by
  funext a
  cases a with
  | request j p => rfl
  | socket j =>
    simp only [idOf, startProxyingWebSocket, List.getElem?_append, List.getElem?_singleton]
    split
    · rfl
    · next hlt =>
      rw [List.getElem?_eq_none (Nat.not_lt.1 hlt)]
      split <;> rfl

theorem self_generator {self : ResourceContextData} (hdata : w.data = some self) :
    w.self.requestIdGenerator = self.requestIdGenerator := by
  rw [self_eq, hdata]
  rfl

/-- An event takes the next id for one that has none, or it leaves the ids as they are. -/
theorem Steps.ids (hw : w.Consistent text hooks) {e : ContextEvent Ω}
    (hstep : Steps lib text hooks w e w') :
    (w'.idOf = w.idOf ∧ w'.self.requestIdGenerator = w.self.requestIdGenerator) ∨
    w.GivesId e w' := by
  cases hstep with
  | startProxying => exact .inl ⟨idOf_startProxying w _ _, by rw [self_eq]; rfl⟩
  | startProxyingWebSocket => exact .inl ⟨idOf_startProxyingWebSocket w _ _ _, by rw [self_eq]; rfl⟩
  | @factory i e self proxy after hdata hi hen hrun =>
    have hproxy := (hw.factories proxy (List.mem_of_getElem? hi)).sharing self.requestIdGenerator
    have hgenerator := self_generator hdata
    rcases ProxyWorld.exec_ids hproxy hrun with ⟨hids, hsame⟩ | ⟨hcreates, hnone, hids, hnext⟩
    · refine .inl ⟨funext fun a => ?_, ?_⟩
      · rw [idOf_setFactory hi, hids]
        cases a with
        | request j p =>
          dsimp only
          by_cases hj : i = j
          · subst hj
            rw [if_pos rfl, idOf_request hi]
            rfl
          · exact if_neg hj
        | socket j => rfl
      · rw [self_eq, hgenerator]
        exact hsame
    · refine .inr ⟨hcreates, ?_, .request i proxy.factory.nextPtr, ?_, funext fun a => ?_⟩
      · rw [self_eq, hgenerator]
        exact hnext
      · rw [idOf_request hi]
        exact hnone
      · rw [idOf_setFactory hi, hids, hgenerator]
        cases a with
        | request j p =>
          dsimp only
          by_cases hj : i = j
          · subst hj
            by_cases hp : p = proxy.factory.nextPtr
            · subst hp
              rw [if_pos rfl, Function.update_self]
              exact Function.update_self ..
            · rw [if_pos rfl]
              refine (Function.update_of_ne hp ..).trans ?_
              rw [Function.update_of_ne (by simpa using hp), idOf_request hi]
              rfl
          · rw [if_neg hj, Function.update_of_ne (by simp [Ne.symm hj])]
        | socket j => rw [Function.update_of_ne (by simp)]
  | @socket i e self s after hdata hi hen hid hrun =>
    have hgenerator := self_generator hdata
    rcases he : e.startId with _ | id
    · have hidentity := (WebSocketEvent.run_preserves he).ok hrun
      refine .inl ⟨funext fun a => ?_, ?_⟩
      · rw [idOf_setSocket hi]
        split
        · next ha => rw [ha, idOf_socket hi, WebSocketSlot.id_of_identity hidentity]
        · rfl
      · rw [self_eq, hgenerator]
        rfl
    · have hidentity := wp_ok (WebSocketEvent.run_start he s) hrun
      obtain rfl := hid id he
      refine .inr ⟨?_, ?_, .socket i, ?_, funext fun a => ?_⟩
      · rw [ContextEvent.takesId, he]
        rfl
      · rw [self_eq, hgenerator]
        rfl
      · rw [idOf_socket hi]
        exact WebSocketEvent.id_none he hen
      · obtain ⟨hstarted, hid⟩ := Prod.mk.inj hidentity
        rw [idOf_setSocket hi, hgenerator, Function.update_apply, WebSocketSlot.id,
          hstarted, hid, if_pos rfl]

/-- The ids that have been given are positive, and no two are the same. -/
structure UniqueIds (w : ContextWorld) : Prop where
  unique : ∀ a b id, w.idOf a = some id → w.idOf b = some id → a = b
  given : ∀ a id, w.idOf a = some id → 0 < id ∧ id ≤ w.self.requestIdGenerator

/-- The next id is one that `int64_t` has. -/
def Generates (w : ContextWorld) (e : ContextEvent Ω) : Prop :=
  e.takesId = true → w.self.requestIdGenerator.toNat < 0x7fffffffffffffff

instance (w : ContextWorld) (e : ContextEvent Ω) : Decidable (w.Generates e) :=
  inferInstanceAs (Decidable (e.takesId = true →
    w.self.requestIdGenerator.toNat < 0x7fffffffffffffff))

theorem UniqueIds.gives (h : w.UniqueIds) {e : ContextEvent Ω} (hC : w.Generates e)
    (hgives : w.GivesId e w') :
    w'.UniqueIds := by
  obtain ⟨htakes, hgenerator, a, hnone, hids⟩ := hgives
  have hnext : (w.self.requestIdGenerator + 1).toNat = w.self.requestIdGenerator.toNat + 1 := by
    have hroom := hC htakes
    rw [UInt64.toNat_add, UInt64.toNat_one]
    omega
  have hnew : ∀ b id, w.idOf b = some id → id ≠ w.self.requestIdGenerator + 1 := by
    rintro b id hb rfl
    have hle := UInt64.le_iff_toNat_le.1 (h.given b _ hb).2
    omega
  refine ⟨fun b c id hb hc => ?_, fun b id hb => ?_⟩
  · rw [hids, Function.update_apply] at hb hc
    split at hb <;> split at hc
    · next hb' hc' => exact hb'.trans hc'.symm
    · exact absurd (Option.some.inj hb).symm (hnew c id hc)
    · exact absurd (Option.some.inj hc).symm (hnew b id hb)
    · exact h.unique b c id hb hc
  · rw [hids, Function.update_apply] at hb
    rw [hgenerator, UInt64.lt_iff_toNat_lt, UInt64.le_iff_toNat_le, hnext]
    split at hb
    · rw [← Option.some.inj hb, hnext]
      exact ⟨Nat.succ_pos _, Nat.le_refl _⟩
    · obtain ⟨hpos, hle⟩ := h.given b id hb
      rw [UInt64.lt_iff_toNat_lt] at hpos
      rw [UInt64.le_iff_toNat_le] at hle
      exact ⟨hpos, Nat.le_succ_of_le hle⟩

theorem Steps.uniqueIds (hw : w.Consistent text hooks) {e : ContextEvent Ω}
    (hstep : Steps lib text hooks w e w') (h : w.UniqueIds) (hC : w.Generates e) : w'.UniqueIds := by
  rcases hstep.ids hw with ⟨hids, hgenerator⟩ | hgives
  · exact ⟨hids ▸ h.unique, hgenerator ▸ hids ▸ h.given⟩
  · exact h.gives hC hgives

/-- An id is never taken back or changed. -/
theorem Steps.idOf (hw : w.Consistent text hooks) {e : ContextEvent Ω}
    (hstep : Steps lib text hooks w e w') {a : Holder} {id : UInt64} (ha : w.idOf a = some id) :
    w'.idOf a = some id := by
  rcases hstep.ids hw with ⟨hids, -⟩ | ⟨-, -, b, hnone, hids⟩
  · rw [hids, ha]
  · have hne : a ≠ b := by
      rintro rfl
      exact absurd (hnone.symm.trans ha) nofun
    rw [hids, Function.update_of_ne hne, ha]

end ContextWorld

/-! ## Every run -/

/-- A condition on the events of requests, of all factories. -/
def OnFactories (C : Slot → RequestEvent Ω → Prop) (w : ContextWorld) : ContextEvent Ω → Prop
  | .factory i e => ∀ proxy ∈ w.factories[i]?, OnRequests C proxy e
  | .startProxying .. | .startProxyingWebSocket .. | .socket .. => True

instance (C : Slot → RequestEvent Ω → Prop) [∀ s e, Decidable (C s e)] (w : ContextWorld)
    (e : ContextEvent Ω) :
    Decidable (OnFactories C w e) :=
  match e with
  | .factory i e => inferInstanceAs (Decidable (∀ proxy ∈ w.factories[i]?, OnRequests C proxy e))
  | .startProxying .. | .startProxyingWebSocket .. | .socket .. => .isTrue trivial

theorem OnFactories.trivial (w : ContextWorld) (e : ContextEvent Ω) :
    OnFactories (fun _ _ => True) w e := by
  cases e with
  | factory i e => cases e <;> simp [OnFactories, OnRequests]
  | _ => exact True.intro

section Runs
variable {w : ContextWorld}

theorem context_step {C : ContextWorld → ContextEvent Ω → Prop}
    (h : (contextSystem lib text hooks).Reach C w) {e : ContextEvent Ω} (hen : w.isEnabled e = true)
    {w' : ContextWorld} (hex : w.exec lib text hooks e = .ok w') :
    w.Steps lib text hooks e w' := by
  have hgoes : w.Goes lib text hooks e (w.exec lib text hooks e) := (context_consistent h).goes hen
  rwa [hex] at hgoes

theorem context_faults {C : ContextWorld → ContextEvent Ω → Prop}
    (h : (contextSystem lib text hooks).Reach C w) {e : ContextEvent Ω} (hen : w.isEnabled e = true)
    {fault : Fault} (hex : w.exec lib text hooks e = .error fault) :
    w.Faults lib text hooks e fault := by
  have hgoes : w.Goes lib text hooks e (w.exec lib text hooks e) := (context_consistent h).goes hen
  rwa [hex] at hgoes

/-- **Ids are unique in a profile**, among the requests of all factories and the WebSockets, those
that are gone included, and they stay what they are. -/
theorem unique_ids (h : (contextSystem lib text hooks).Reach ContextWorld.Generates w) :
    (∀ a b id, w.idOf a = some id → w.idOf b = some id → a = b) ∧
      (∀ a id, w.idOf a = some id → 0 < id ∧ id ≤ w.self.requestIdGenerator) ∧
      ∀ e w', w.isEnabled e = true → w.exec lib text hooks e = .ok w' → ∀ a id, w.idOf a = some id →
        w'.idOf a = some id := by
  have hunique : w.UniqueIds := by
    refine (context_invariant (I := ContextWorld.UniqueIds) ⟨?_, ?_⟩ ?_ h).2
    · rintro (_ | _) b id ⟨⟩
    · rintro (_ | _) id ⟨⟩
    · exact fun w e w' hI hw hC hstep => hstep.uniqueIds hw hI hC
  refine ⟨hunique.unique, hunique.given, fun e w' hen hex a id ha => ?_⟩
  exact (context_step h hen hex).idOf (context_consistent h) ha

/-- A WebSocket of a profile is in a state that its own runs reach, and gets the messages that it
can get there. -/
theorem socket_of_context (hw : w.Consistent text hooks) {i : Nat} {e : WebSocketEvent Ω}
    (hen : w.isEnabled (.socket i e) = true) {s : WebSocketSlot} (hi : w.sockets[i]? = some s) :
    (∃ request processId frameTreeNodeId,
      (webSocketSystem text hooks request processId frameTreeNodeId).Reachable s) ∧
        e.isEnabled s = true := by
  refine ⟨hw.sockets s (List.mem_of_getElem? hi), ?_⟩
  simp only [ContextWorld.isEnabled, hi, Option.any_some, Bool.and_eq_true] at hen
  exact hen.1

/-- A factory of a profile shares the ids of the others, and gets the messages that it can get. -/
theorem factory_of_context (hw : w.Consistent text hooks) {i : Nat} {e : ProxyEvent Ω}
    (hen : w.isEnabled (.factory i e) = true) {proxy : ProxyWorld}
    (hi : w.factories[i]? = some proxy) (generator : UInt64) :
    (proxy.sharing generator).Consistent ∧ (proxy.sharing generator).isEnabled e = true := by
  have hen' : proxy.isEnabled e = true := by simpa [ContextWorld.isEnabled, hi] using hen
  exact ⟨(hw.factories proxy (List.mem_of_getElem? hi)).sharing generator,
    (proxy.sharing_isEnabled _ e).trans hen'⟩

theorem socket_failure (hw : w.Consistent text hooks) {i : Nat} {e : WebSocketEvent Ω}
    (hen : w.isEnabled (.socket i e) = true) {s : WebSocketSlot}
    (hi : w.sockets[i]? = some s) {fault : Fault} (hrun : e.run text hooks s = .error fault) :
    s.alive = true ∧ (e.Fails s ∨ ¬ s.ForWebSocket) := by
  obtain ⟨⟨request, processId, frameTreeNodeId, hreach⟩, hen'⟩ := socket_of_context hw hen hi
  exact handshake_failure hreach hen' hrun

/-- What an event of a factory keeps of its requests, a run of the profile keeps of all requests. -/
theorem profile_slots {C : ContextWorld → ContextEvent Ω → Prop} {I : Slot → Prop}
    (hstep : ∀ w i e proxy generator after, (contextSystem lib text hooks).Reach C w →
      C w (.factory i e) →
      w.factories[i]? = some proxy → (proxy.sharing generator).Consistent →
        (proxy.sharing generator).isEnabled e = true →
      (proxy.sharing generator).exec lib hooks e = .ok after →
        (∀ p s, proxy.slots p = some s → I s) →
      ∀ p s, after.slots p = some s → I s)
    (h : (contextSystem lib text hooks).Reach C w) :
    ∀ proxy ∈ w.factories, ∀ p s, proxy.slots p = some s → I s := by
  induction h with
  | init => exact fun _ hproxy => absurd hproxy List.not_mem_nil
  | @step w w' e hreach hen hC hex ih =>
    have hw := context_consistent hreach
    cases context_step hreach hen hex with
    | startProxying =>
      intro proxy hproxy p s hs
      rcases List.mem_append.1 hproxy with hproxy | hproxy
      · exact ih proxy hproxy p s hs
      · rw [List.mem_singleton.1 hproxy] at hs
        cases hs
    | startProxyingWebSocket => exact ih
    | @factory i e self proxy after hdata hi henabled hrun =>
      have hmem := List.mem_of_getElem? hi
      intro q hq p s hs
      rcases List.mem_or_eq_of_mem_set hq with hq | rfl
      · exact ih q hq p s hs
      · exact hstep w i e proxy _ q hreach hC hi ((hw.factories proxy hmem).sharing _)
          ((proxy.sharing_isEnabled _ e).trans henabled) hrun (ih proxy hmem) p s hs
    | socket => exact ih

/-- What the protocol of one request keeps holds of all requests of a profile. -/
theorem profile_invariant {I : Core → Prop} {C : Slot → RequestEvent Ω → Prop}
    (hstart : ∀ factoryBound c, StartExit factoryBound .fresh c → I c)
    (hstep : ∀ s e factoryBound c, I s.core → s.alive = true → C s e →
      CoreStep lib hooks factoryBound s.object.request s.core e c → I c)
    (hignored : ∀ c c', I c → c.alive = false → c.Ignores c' → I c')
    (h : (contextSystem lib text hooks).Reach (OnFactories C) w) {proxy : ProxyWorld}
    (hproxy : proxy ∈ w.factories) {p : Ptr} {s : Slot} (hs : proxy.slots p = some s) : I s.core := by
  refine profile_slots (I := fun s => I s.core) ?_ h proxy hproxy p s hs
  intro w i e proxy generator after _ hC hi hcons hen hrun hI p s hs
  have hslots := ((ProxyWorld.exec_spec hcons hen).2 after hrun).2.2
  exact hslots.keeps hstart hstep hignored hI (hC proxy hi) hs

section Polite
variable (h : (contextSystem lib text hooks).Reach (OnFactories Polite) w) {proxy : ProxyWorld}
  (hproxy : proxy ∈ w.factories) {p : Ptr} {s : Slot} (hs : proxy.slots p = some s)
include h hproxy hs

theorem profile_waits : InOrder s.core ∧ (s.alive = true → Waits s.core) := by
  refine profile_invariant (I := fun c => InOrder c ∧ (c.alive = true → Waits c)) ?_ ?_ ?_ h hproxy hs
  · exact fun _ _ hstart => ⟨.startExit InOrder.fresh.order rfl rfl hstart, .startExit rfl hstart⟩
  · exact fun s e _ _ hI ha hpolite hc =>
      ⟨hI.1.step ha hpolite hc, (hI.2 ha).step (hI.1.phase ha) hpolite hc⟩
  · rintro c _ hI hdead ⟨ks, ws, rfl⟩
    have hgone : c.alive ≠ true := by simp [hdead]
    exact ⟨⟨hI.1.order, fun ha => absurd ha hgone⟩, fun ha => absurd ha hgone⟩

theorem profile_delivers (ha : s.alive = true) : ∀ k ∈ s.core.continuations, s.Delivers k := by
  rintro k hk rfl
  exact ((profile_waits h hproxy hs).2 ha).delivers _ hk rfl

theorem profile_ctx : s.alive = true → s.object.ctx.isSome = true := by
  refine profile_slots (I := fun s => s.alive = true → s.object.ctx.isSome = true) ?_
    h proxy hproxy p s hs
  intro w i e proxy generator after hreach _ hi hcons hen hrun hctx p s' hs' ha
  have hmem := List.mem_of_getElem? hi
  exact (slotRun_of_exec hcons hen hrun hs').ctx hcons (hctx p) (fun s hs =>
    profile_delivers hreach hmem hs) ha

end Polite

/-- The `NOTREACHED` of a header that is to be set is reached only by an event that leaves the
request without such a header. -/
theorem profile_notReached (h : (contextSystem lib text hooks).Reach (OnFactories Polite) w)
    {e : ContextEvent Ω} (hen : w.isEnabled e = true) {w' : ContextWorld}
    (hex : w.exec lib text hooks e = .ok w') {i : Nat} {proxy' : ProxyWorld}
    (hi' : w'.factories[i]? = some proxy') {p : Ptr} {s' : Slot} (hs' : proxy'.slots p = some s')
    (hreached : s'.notReached = true) :
    (∃ (proxy : ProxyWorld) (s : Slot), w.factories[i]? = some proxy ∧ proxy.slots p = some s ∧
      s.notReached = true) ∨
      s'.object.LacksSetHeader := by
  have hkept (hi : w.factories[i]? = some proxy') : ∃ (proxy : ProxyWorld) (s : Slot),
      w.factories[i]? = some proxy ∧ proxy.slots p = some s ∧ s.notReached = true :=
    ⟨proxy', s', hi, hs', hreached⟩
  cases context_step h hen hex with
  | startProxying =>
    simp only [ContextWorld.startProxying, List.getElem?_append, List.getElem?_singleton] at hi'
    split at hi'
    · exact Or.inl (hkept hi')
    · -- a new proxy has no requests
      split at hi'
      · cases hi'
        cases hs'
      · cases hi'
  | startProxyingWebSocket => exact Or.inl (hkept hi')
  | socket => exact Or.inl (hkept hi')
  | @factory j e self proxy after hdata hj henabled hrun =>
    by_cases hji : j = i
    · subst hji
      obtain ⟨hconsistent, hen'⟩ :=
        factory_of_context (context_consistent h) hen hj self.requestIdGenerator
      have hmem := List.mem_of_getElem? hj
      have hafter : after = proxy' := by simpa [(List.getElem?_eq_some_iff.1 hj).1] using hi'
      have hrequest := slotRun_of_exec hconsistent hen' hrun (hafter ▸ hs')
      refine (hrequest.notReached hconsistent (fun s hs => ?_) (fun s hs => ?_)
        hreached).imp_left ?_
      · exact profile_ctx h hmem hs
      · exact profile_delivers h hmem hs
      · rintro ⟨s, hs, hbefore⟩
        exact ⟨proxy, s, hj, hs, hbefore⟩
    · exact Or.inl (hkept (by simpa [hji] using hi'))

/-- **The only failures in a profile** whose WebSockets are for `ws:` and `wss:` URLs: in a polite
run an event fails if and only if it is a message for a client of a WebSocket that is null, or gives
a WebSocket a handshake client while it has one. The `NOTREACHED` of a header that is to be set is
reached only by an event that leaves its request without one. -/
theorem profile_fails_iff (h : (contextSystem lib text hooks).Reach (OnFactories Polite) w)
    (hscheme : ∀ s ∈ w.sockets, s.ForWebSocket) {e : ContextEvent Ω} (hen : w.isEnabled e = true) :
    ((∃ fault, w.exec lib text hooks e = .error fault) ↔
      ∃ i e' s, e = .socket i e' ∧ w.sockets[i]? = some s ∧ s.alive = true ∧ e'.Fails s) ∧
      ∀ w' (i : Nat) (proxy' : ProxyWorld) p s', w.exec lib text hooks e = .ok w' →
        w'.factories[i]? = some proxy' →
        proxy'.slots p = some s' → s'.notReached = true →
          (∃ (proxy : ProxyWorld) (s : Slot), w.factories[i]? = some proxy ∧
              proxy.slots p = some s ∧
            s.notReached = true) ∨ s'.object.LacksSetHeader := by
  have hw := context_consistent h
  refine ⟨⟨?_, ?_⟩, fun w' i proxy' p s' hex hi => profile_notReached h hen hex hi⟩
  · rintro ⟨fault, hex⟩
    cases context_faults h hen hex with
    | @factory i e self proxy fault hdata hi hrun =>
      have hmem := List.mem_of_getElem? hi
      obtain ⟨hproxy, hen'⟩ := factory_of_context hw hen hi self.requestIdGenerator
      obtain ⟨after, hok⟩ := @exec_total Ω lib hooks _ hproxy (fun p s hs => profile_ctx h hmem hs)
        (fun p s hs => profile_delivers h hmem hs) e hen'
      rw [hok] at hrun
      cases hrun
    | @socket i e s fault hi hrun =>
      obtain ⟨ha, hfails⟩ := socket_failure hw hen hi hrun
      exact ⟨i, e, s, rfl, hi, ha,
        hfails.resolve_right (not_not.2 (hscheme s (List.mem_of_getElem? hi)))⟩
  · rintro ⟨i, e', s, rfl, hi, ha, hfails⟩
    obtain ⟨self, hdata⟩ := hw.data_of_socket hi
    have hrun : wp (e'.run text hooks) (fun _ => True) (fun _ _ => False) s := run_fails ha hfails
    obtain ⟨fault, hrun, -⟩ := wp_fails hrun
    refine ⟨fault, ?_⟩
    rw [ContextWorld.exec, hdata, hi]
    simp only [ContextWorld.execSocket, hrun, Except.bind]

theorem Sound.complete_last {s : Slot} (h : Sound s.core)
    {before after : List ClientMessage} {m : ClientMessage}
    (htrace : s.trace = before ++ m :: after) (hm : m.isComplete = true) : after = [] := by
  rcases List.eq_nil_or_concat after with rfl | ⟨after', z, rfl⟩
  · rfl
  · have hclosed := h.closed (before ++ m :: after') z [] (by simp [Slot.core, htrace])
    simp [hclosed m (by simp)] at hm

/-- **Every client and every WebSocket has its protocol**, whatever else happens in the profile. -/
theorem profile_protocol :
    (∀ w, (contextSystem lib text hooks).Reachable w →
      (∀ proxy ∈ w.factories, ∀ p s, proxy.slots p = some s →
        (∀ before m after, s.trace = before ++ m :: after → m.isComplete = true → after = []) ∧
          (deliveries s.trace).Nodup ∧ ∀ n ∈ deliveries s.trace, n < s.stored.length) ∧
        ∀ s ∈ w.sockets, OneHandshake s.object.request.url s.passage) ∧
      ∀ w, (contextSystem lib text hooks).Reach (OnFactories Polite) w →
        ∀ proxy ∈ w.factories, ∀ p s, proxy.slots p = some s →
          ∀ before source redirectInfo head between source' head' after,
            s.trace = before ++ .onReceiveRedirect source redirectInfo head :: between ++
              .onReceiveResponse source' head' :: after →
            ∃ params, .followRedirect params ∈ between := by
  refine ⟨fun w hw => ⟨fun proxy hproxy p s hs => ?_, fun s hs => ?_⟩, ?_⟩
  · have hsound : Sound s.core := by
      refine profile_invariant (C := fun _ _ => True) ?_ ?_ ?_ (hw.mono fun w e _ =>
        OnFactories.trivial w e) hproxy hs
      · exact fun _ _ hstart => Sound.fresh.startExit rfl hstart
      · exact fun s e _ _ hI ha _ hc => hI.step ha hc
      · rintro c _ hI hdead ⟨ks, ws, rfl⟩
        exact { hI with }
    exact ⟨fun before m after => hsound.complete_last, hsound.nodup, hsound.stored⟩
  · obtain ⟨request, _, _, hreach⟩ := (context_consistent hw).sockets s hs
    have honce := handshake_once hreach
    have htarget : s.object.request.url = request.url := honce.target
    exact htarget ▸ honce
  · intro w hw proxy hproxy p s hs before source redirectInfo head between
      source' head' after htrace
    exact (profile_waits hw hproxy hs).1.order.answered htrace (fun _ => rfl) rfl

end Runs

/-! ## A profile with two factories and a WebSocket -/

def newsOrigin : Origin := .tuple "https" "news.example" none

/-- Both factories have a request, and the WebSocket has started. -/
def sharedGenerator : List (ContextEvent Unit) :=
  [.startProxying 0 0, .startProxying 1 1, .startProxyingWebSocket socketRequest.url {}
    none 0 0 newsOrigin,
    .factory 0 (.createLoaderAndStart 0 1 0 pageRequest 0 ⟨(), true⟩),
    .factory 1 (.createLoaderAndStart 0 1 0 pageRequest 0 ⟨(), true⟩), .socket 0 (.start 3 ())]

theorem unique_ids_shared : ∃ w,
    (contextSystem plainLibrary upgradeText passHooks).Reach ContextWorld.Generates w ∧
    w.idOf (.request 0 0) = some 1 ∧ w.idOf (.request 1 0) = some 2 ∧ w.idOf (.socket 0) = some 3 ∧
    ∀ a b id, w.idOf a = some id → w.idOf b = some id → a = b := by
  have h := System.reach_of_replay (S := contextSystem plainLibrary upgradeText passHooks)
    (C := ContextWorld.Generates) sharedGenerator rfl
  exact ⟨_, h, rfl, rfl, rfl, (unique_ids h).1⟩

/-- Both requests are answered, and then the WebSocket is asked for credentials that its page has no
handler for. -/
theorem profile_fails_iff_shared : ∃ w fault,
    (contextSystem plainLibrary upgradeText passHooks).Reach (OnFactories Polite) w ∧
    w.self.requestIdGenerator = 3 ∧ w.exec plainLibrary upgradeText passHooks
    (.socket 0 .onAuthRequired) = .error fault := by
  have h := System.reach_of_replay (S := contextSystem plainLibrary upgradeText passHooks)
    (C := OnFactories Polite)
    (sharedGenerator ++ [.factory 0 (.request 0 (.onReceiveResponse {} ⟨(), true⟩)),
      .factory 1 (.request 0 (.onReceiveResponse {} ⟨(), true⟩))]) rfl
  obtain ⟨fault, hfault⟩ :=
    (profile_fails_iff h (List.forall_mem_singleton.2 rfl) (e := .socket 0 .onAuthRequired) rfl).1.2
      ⟨0, _, _, rfl, rfl, rfl, rfl⟩
  exact ⟨_, fault, h, rfl, hfault⟩

/-- The first request is redirected and answered while the second waits. -/
theorem profile_protocol_shared : ∃ w, (contextSystem plainLibrary upgradeText passHooks).Reach
    (OnFactories Polite) w ∧
    ∃ proxy ∈ w.factories, ∃ s, proxy.slots 0 = some s ∧
      s.trace = [.onReceiveRedirect (some 0) pageRedirect (some {}), .followRedirect {},
          .onReceiveResponse (some 1) (some {})] ∧
      (deliveries s.trace).Nodup ∧ ∃ params, .followRedirect params ∈
        [ClientMessage.followRedirect {}] := by
  have h := System.reach_of_replay (S := contextSystem plainLibrary upgradeText passHooks)
    (C := OnFactories Polite)
    (sharedGenerator ++ [.factory 0 (.request 0 (.onReceiveRedirect pageRedirect {} ⟨(), true⟩)),
      .factory 0 (.request 0 (.followRedirect {} ⟨(), true⟩)),
      .factory 0 (.request 0 (.onReceiveResponse {} ⟨(), true⟩))]) rfl
  refine ⟨_, h, _, List.mem_cons_self .., _, rfl, rfl, ?_, ?_⟩
  · exact ((profile_protocol.1 _ h.reachable).1 _ (List.mem_cons_self ..) 0 _ rfl).2.1
  · exact profile_protocol.2 _ h _ (List.mem_cons_self ..) 0 _ rfl [] (some 0) pageRedirect
      (some {}) _ (some 1) (some {}) []
      rfl

end DumbBrowser
