import DumbBrowser.Browser.RequestIdentity
import DumbBrowser.Browser.HandshakeStages

/-!
# The proxies of a profile

`ResourceContextData` owns the factories and the WebSocket proxies of a browser context, with one
handler and one generator of ids for all of them.

* `contextSystem` : a profile, its factories with their requests, and its WebSockets, in any order
  of events;
* `Consistent.goes` : what each event does, `Steps`, and that only the proxy's own method can fail.
-/

namespace DumbBrowser

open Exec

/-- `request_handler_`, `request_id_generator_`, and the sets of proxies. -/
structure ResourceContextData where
  requestHandler : Bool := false
  requestIdGenerator : UInt64 := 0
  proxies : List Nat := []
  websocketProxies : List Nat := []
deriving DecidableEq, Repr

namespace ResourceContextData

def removeProxy (self : ResourceContextData) (proxy : Nat) : Except Fault ResourceContextData :=
  if self.proxies.contains proxy then .ok { self with proxies := self.proxies.erase proxy }
    else .error .proxyNotFound

def removeProxyWebSocket (self : ResourceContextData) (proxy : Nat) :
    Except Fault ResourceContextData :=
  if self.websocketProxies.contains proxy
    then .ok { self with websocketProxies := self.websocketProxies.erase proxy }
  else .error .proxyNotFound

end ResourceContextData

/-- The factory sees the ids that others have taken. -/
def ProxyWorld.sharing (w : ProxyWorld) (requestIdGenerator : UInt64) : ProxyWorld :=
  { w with factory := { w.factory with requestIdGenerator } }

/-- A browser context with the data that it may have, and all proxies that were made for it: a proxy
is known by its place. A factory's own copy of the generator counts only while one of its events
runs. -/
structure ContextWorld where
  data : Option ResourceContextData := none
  factories : List ProxyWorld := []
  sockets : List WebSocketSlot := []

inductive ContextEvent (Ω : Type) where
  | startProxying (renderProcessId frameTreeNodeId : Int)
  | startProxyingWebSocket (url : GURL) (siteForCookies : SiteForCookies)
      (userAgent : Option String)
      (renderProcessId frameTreeNodeId : Int) (origin : Origin)
  | factory (i : Nat) (e : ProxyEvent Ω)
  | socket (i : Nat) (e : WebSocketEvent Ω)

namespace ContextWorld

/-- The data of the context, made where there is none, with its handler. -/
def self (w : ContextWorld) : ResourceContextData :=
  let self := w.data.getD {}
  if !self.requestHandler then { self with requestHandler := true } else self

def startProxying (w : ContextWorld) (renderProcessId frameTreeNodeId : Int) : ContextWorld :=
  let proxy : ProxyWorld := { factory := .new renderProcessId frameTreeNodeId w.self.requestIdGenerator }
  { w with
    data := some { w.self with proxies := w.self.proxies ++ [w.factories.length] }
    factories := w.factories ++ [proxy] }

/-- The request of a WebSocket. -/
def webSocketRequest (url : GURL) (siteForCookies : SiteForCookies)
    (userAgent : Option String) (origin : Origin) :
    ResourceRequest :=
  { url, siteForCookies
    headers := userAgent.elim [] (HttpRequestHeaders.setHeader [] "User-Agent" ·)
    requestInitiator := some origin }

def startProxyingWebSocket (w : ContextWorld) (request : ResourceRequest)
    (renderProcessId frameTreeNodeId : Int) :
    ContextWorld :=
  let proxy : WebSocketSlot := { object := .new request renderProcessId frameTreeNodeId }
  { w with
    data := some { w.self with websocketProxies := w.self.websocketProxies ++ [w.sockets.length] }
    sockets := w.sockets ++ [proxy] }

section Exec
variable {Ω : Type} (lib : NetLibrary) (text : HeaderText) (hooks : Hooks Ω)

/-- An event of a factory, which shares the generator and may remove itself. -/
def execFactory (w : ContextWorld) (self : ResourceContextData) (i : Nat) (proxy : ProxyWorld)
    (e : ProxyEvent Ω) :
    Except Fault ContextWorld :=
  ((proxy.sharing self.requestIdGenerator).exec lib hooks e).bind fun after =>
    let self := { self with requestIdGenerator := after.factory.requestIdGenerator }
    (if after.factory.disconnectRuns = proxy.factory.disconnectRuns then .ok self
      else self.removeProxy i).map
      fun self => { w with data := some self, factories := w.factories.set i after }

/-- An event of a WebSocket, which may take an id and remove itself. -/
def execSocket (w : ContextWorld) (self : ResourceContextData) (i : Nat) (proxy : WebSocketSlot)
    (e : WebSocketEvent Ω) :
    Except Fault ContextWorld :=
  (e.run text hooks proxy).bind fun (_, after) =>
    let self := { self with requestIdGenerator := e.startId.getD self.requestIdGenerator }
    (if proxy.alive && !after.alive then self.removeProxyWebSocket i else .ok self).map
      fun self => { w with data := some self, sockets := w.sockets.set i after }

def exec (w : ContextWorld) : ContextEvent Ω → Except Fault ContextWorld
  | .startProxying renderProcessId frameTreeNodeId =>
    .ok (w.startProxying renderProcessId frameTreeNodeId)
  | .startProxyingWebSocket url siteForCookies userAgent renderProcessId frameTreeNodeId origin =>
    .ok (w.startProxyingWebSocket (webSocketRequest url siteForCookies userAgent origin)
      renderProcessId frameTreeNodeId)
  | .factory i e =>
    match w.data, w.factories[i]? with
    | some self, some proxy => w.execFactory lib hooks self i proxy e
    | _, _ => .ok w
  | .socket i e =>
    match w.data, w.sockets[i]? with
    | some self, some proxy => w.execSocket text hooks self i proxy e
    | _, _ => .ok w

/-- A WebSocket starts with the next id. -/
def isEnabled (w : ContextWorld) : ContextEvent Ω → Bool
  | .startProxying .. | .startProxyingWebSocket .. => true
  | .factory i e => w.factories[i]?.any (·.isEnabled e)
  | .socket i e =>
    w.sockets[i]?.any (e.isEnabled ·) && w.data.any fun self =>
      e.startId.all (· == self.requestIdGenerator + 1)

end Exec

end ContextWorld

def contextSystem {Ω : Type} (lib : NetLibrary) (text : HeaderText) (hooks : Hooks Ω) :
    System ContextWorld (ContextEvent Ω) Fault where
  init := {}
  enabled w e := w.isEnabled e = true
  exec w e := w.exec lib text hooks e

instance {Ω : Type} {lib : NetLibrary} {text : HeaderText} {hooks : Hooks Ω} (w : ContextWorld)
    (e : ContextEvent Ω) :
    Decidable ((contextSystem lib text hooks).enabled w e) :=
  inferInstanceAs (Decidable (w.isEnabled e = true))

/-! ## Owned proxies -/

/-- A set of the data holds the places of the proxies that are alive. -/
def Owns {α : Type} (set : List Nat) (proxies : List α) (alive : α → Bool) : Prop :=
  set.Nodup ∧ ∀ i, i ∈ set ↔ ∃ a, proxies[i]? = some a ∧ alive a = true

namespace Owns

variable {α : Type} {set : List Nat} {proxies : List α} {alive : α → Bool} {i : Nat} {a b : α}

theorem nil : Owns [] ([] : List α) alive := ⟨List.nodup_nil, fun i => by simp⟩

theorem append (h : Owns set proxies alive) (ha : alive a = true) :
    Owns (set ++ [proxies.length]) (proxies ++ [a]) alive := by
  refine ⟨?_, fun i => ?_⟩
  · rw [List.nodup_append]
    refine ⟨h.1, List.nodup_singleton _, fun i hi j hj => ?_⟩
    obtain ⟨a, ha, -⟩ := (h.2 i).1 hi
    obtain rfl := List.mem_singleton.1 hj
    exact Nat.ne_of_lt (List.getElem?_eq_some_iff.1 ha).1
  · rw [List.mem_append, List.mem_singleton, h.2 i, List.getElem?_append, List.getElem?_singleton]
    constructor
    · rintro (⟨c, hc, hlive⟩ | rfl)
      · exact ⟨c, by rw [if_pos (List.getElem?_eq_some_iff.1 hc).1, hc], hlive⟩
      · exact ⟨a, by simp, ha⟩
    · rintro ⟨c, hc, hlive⟩
      split at hc
      · exact .inl ⟨c, hc, hlive⟩
      · split at hc
        · exact .inr (by omega)
        · cases hc

theorem mem_iff (h : Owns set proxies alive) (ha : proxies[i]? = some a) : i ∈ set ↔
    alive a = true := by
  rw [h.2 i, ha]
  simp

/-- A proxy changes; it leaves the set when it goes. -/
theorem set_place (h : Owns set proxies alive) (ha : proxies[i]? = some a)
    (hgone : alive b = true → alive a = true) :
    Owns (if alive b = alive a then set else set.erase i) (proxies.set i b) alive := by
  have hi := (List.getElem?_eq_some_iff.1 ha).1
  by_cases hsame : alive b = alive a
  · rw [if_pos hsame]
    refine ⟨h.1, fun j => ?_⟩
    by_cases hj : i = j
    · subst hj
      rw [h.mem_iff ha, List.getElem?_set_self hi, ← hsame]
      simp
    · rw [h.2 j, List.getElem?_set_ne hj]
  · have hb : alive b = false := by
      cases hb : alive b
      · rfl
      · exact absurd (hb.trans (hgone hb).symm) hsame
    rw [if_neg hsame]
    refine ⟨h.1.erase i, fun j => ?_⟩
    by_cases hj : i = j
    · subst hj
      rw [h.1.mem_erase_iff, List.getElem?_set_self hi]
      simp [hb]
    · rw [h.1.mem_erase_iff, h.2 j, List.getElem?_set_ne hj]
      exact ⟨fun hmem => hmem.2, fun hmem => ⟨Ne.symm hj, hmem⟩⟩

end Owns

/-! ## Every event -/

section Events
variable {Ω : Type} {lib : NetLibrary} {text : HeaderText} {hooks : Hooks Ω} {w w' : ContextWorld}

namespace ProxyWorld

theorem sharing_isEnabled (proxy : ProxyWorld) (requestIdGenerator : UInt64) (e : ProxyEvent Ω) :
    (proxy.sharing requestIdGenerator).isEnabled e = proxy.isEnabled e := by
  cases e <;> rfl

theorem Consistent.sharing {proxy : ProxyWorld} (h : proxy.Consistent)
    (requestIdGenerator : UInt64) :
    (proxy.sharing requestIdGenerator).Consistent :=
  { h with factory := { h.factory with } }

end ProxyWorld

/-- A WebSocket that is gone stays so. -/
theorem WebSocketEvent.run_gone {e : WebSocketEvent Ω} {s s' : WebSocketSlot}
    (hen : e.isEnabled s = true) (hrun : e.run text hooks s = .ok ((), s')) (ha : s'.alive = true) :
    s.alive = true := by
  cases hs : s.alive
  · obtain ⟨ks, hcore⟩ := wp_ok (run_dead hs hen) hrun
    exact absurd (((congrArg SocketCore.alive hcore).trans hs).symm.trans ha) Bool.false_ne_true
  · rfl

namespace ContextWorld

theorem self_eq (w : ContextWorld) : w.self = { w.data.getD {} with requestHandler := true } := by
  unfold self
  cases w.data.getD {} with
  | mk requestHandler requestIdGenerator proxies websocketProxies => cases requestHandler <;> rfl

structure Consistent (text : HeaderText) (hooks : Hooks Ω) (w : ContextWorld) : Prop where
  factories : ∀ proxy ∈ w.factories, proxy.Consistent
  /-- Each WebSocket is in a state of its own protocol. -/
  sockets : ∀ s ∈ w.sockets, ∃ request processId frameTreeNodeId,
    (webSocketSystem text hooks request processId frameTreeNodeId).Reachable s
  /-- There are proxies only with the data. -/
  made : w.data = none → w.factories = [] ∧ w.sockets = []
  proxies : Owns w.self.proxies w.factories (·.factory.alive)
  websocketProxies : Owns w.self.websocketProxies w.sockets (·.alive)

/-- What an event does. -/
inductive Steps (lib : NetLibrary) (text : HeaderText) (hooks : Hooks Ω) (w : ContextWorld) :
    ContextEvent Ω → ContextWorld → Prop
  | startProxying {renderProcessId frameTreeNodeId} :
      Steps lib text hooks w (.startProxying renderProcessId frameTreeNodeId)
        (w.startProxying renderProcessId frameTreeNodeId)
  | startProxyingWebSocket {url siteForCookies userAgent renderProcessId frameTreeNodeId origin} :
      Steps lib text hooks w
        (.startProxyingWebSocket url siteForCookies userAgent renderProcessId
          frameTreeNodeId origin)
        (w.startProxyingWebSocket (webSocketRequest url siteForCookies userAgent origin)
          renderProcessId frameTreeNodeId)
  | factory {i e self proxy after} : w.data = some self → w.factories[i]? = some proxy →
      proxy.isEnabled e = true →
      (proxy.sharing self.requestIdGenerator).exec lib hooks e = .ok after →
      Steps lib text hooks w (.factory i e)
        { w with
          data := some { self with
            requestIdGenerator := after.factory.requestIdGenerator
            proxies := if after.factory.alive = proxy.factory.alive then self.proxies
              else self.proxies.erase i }
          factories := w.factories.set i after }
  | socket {i e self s after} : w.data = some self → w.sockets[i]? = some s → e.isEnabled s = true →
      (∀ id, e.startId = some id → id = self.requestIdGenerator + 1) →
        e.run text hooks s = .ok ((), after) →
      Steps lib text hooks w (.socket i e)
        { w with
          data := some { self with
            requestIdGenerator := e.startId.getD self.requestIdGenerator
            websocketProxies := if after.alive = s.alive then self.websocketProxies
              else self.websocketProxies.erase i }
          sockets := w.sockets.set i after }

/-- The proxy that an event is for cannot handle it. -/
inductive Faults (lib : NetLibrary) (text : HeaderText) (hooks : Hooks Ω) (w : ContextWorld) :
    ContextEvent Ω → Fault → Prop
  | factory {i e self proxy fault} : w.data = some self → w.factories[i]? = some proxy →
      (proxy.sharing self.requestIdGenerator).exec lib hooks e = .error fault →
        Faults lib text hooks w (.factory i e) fault
  | socket {i e s fault} : w.sockets[i]? = some s → e.run text hooks s = .error fault →
      Faults lib text hooks w (.socket i e) fault

/-- How an event ends. -/
def Goes (lib : NetLibrary) (text : HeaderText) (hooks : Hooks Ω) (w : ContextWorld)
    (e : ContextEvent Ω) :
    Except Fault ContextWorld → Prop
  | .ok w' => Steps lib text hooks w e w'
  | .error fault => Faults lib text hooks w e fault

namespace Consistent

variable (hw : w.Consistent text hooks)
include hw

theorem data_of_factory {i : Nat} {proxy : ProxyWorld} (hi : w.factories[i]? = some proxy) :
    ∃ self, w.data = some self := by
  cases hdata : w.data
  · rw [(hw.made hdata).1] at hi
    cases hi
  · exact ⟨_, rfl⟩

theorem data_of_socket {i : Nat} {s : WebSocketSlot} (hi : w.sockets[i]? = some s) :
    ∃ self, w.data = some self := by
  cases hdata : w.data
  · rw [(hw.made hdata).2] at hi
    cases hi
  · exact ⟨_, rfl⟩

theorem owns {self : ResourceContextData} (hdata : w.data = some self) :
    Owns self.proxies w.factories (·.factory.alive) ∧
    Owns self.websocketProxies w.sockets (·.alive) := by
  have hproxies := hw.proxies
  have hsockets := hw.websocketProxies
  rw [self_eq, hdata] at hproxies hsockets
  exact ⟨hproxies, hsockets⟩

/-- `RemoveProxy` runs when the factory goes, and finds it. -/
theorem factory_goes {self : ResourceContextData} {i : Nat} {proxy : ProxyWorld} {e : ProxyEvent Ω}
    (hdata : w.data = some self) (hi : w.factories[i]? = some proxy)
    (hen : proxy.isEnabled e = true) :
    w.Goes lib text hooks (.factory i e) (w.execFactory lib hooks self i proxy e) := by
  have hproxy := hw.factories proxy (List.mem_of_getElem? hi)
  have hsharing := hproxy.sharing self.requestIdGenerator
  have hen' : (proxy.sharing self.requestIdGenerator).isEnabled e = true :=
    (proxy.sharing_isEnabled _ e).trans hen
  rcases hrun : (proxy.sharing self.requestIdGenerator).exec lib hooks e with fault | after
  · rw [execFactory, hrun]
    exact .factory hdata hi hrun
  · obtain ⟨hafter, hgone, -⟩ := (ProxyWorld.exec_spec hsharing hen').2 after hrun
    have hsteps : Steps lib text hooks w (.factory i e) _ := .factory hdata hi hen hrun
    have hruns : after.factory.disconnectRuns = proxy.factory.disconnectRuns ↔
        after.factory.alive = proxy.factory.alive := by
      rw [hafter.factory.runs, hproxy.factory.runs]
      cases after.factory.alive <;> cases proxy.factory.alive <;> simp
    simp only [execFactory, hrun, Except.bind, hruns]
    by_cases hsame : after.factory.alive = proxy.factory.alive
    · rw [if_pos hsame] at hsteps ⊢
      exact hsteps
    · have halive : proxy.factory.alive = true := by
        cases ha : proxy.factory.alive
        · rw [ha, Bool.not_eq_false] at hsame
          exact absurd (hgone hsame) (ha ▸ Bool.false_ne_true)
        · rfl
      have hfound : self.proxies.contains i = true :=
        List.contains_iff_mem.2 (((hw.owns hdata).1.mem_iff hi).2 halive)
      rw [if_neg hsame] at hsteps ⊢
      simp only [ResourceContextData.removeProxy, hfound, if_true]
      exact hsteps

/-- `RemoveProxyWebSocket` runs when the WebSocket goes, and finds it. -/
theorem socket_goes {self : ResourceContextData} {i : Nat} {s : WebSocketSlot}
    {e : WebSocketEvent Ω} (hdata : w.data = some self) (hi : w.sockets[i]? = some s)
    (hen : e.isEnabled s = true)
    (hid : ∀ id, e.startId = some id → id = self.requestIdGenerator + 1) :
    w.Goes lib text hooks (.socket i e) (w.execSocket text hooks self i s e) := by
  rcases hrun : e.run text hooks s with fault | ⟨a, after⟩
  · rw [execSocket, hrun]
    exact .socket hi hrun
  · have hsteps : Steps lib text hooks w (.socket i e) _ := .socket hdata hi hen hid hrun
    have hgone := WebSocketEvent.run_gone hen hrun
    simp only [execSocket, hrun, Except.bind]
    by_cases hsame : after.alive = s.alive
    · rw [if_pos hsame] at hsteps
      rw [if_neg (by simp [hsame])]
      exact hsteps
    · have halive : s.alive = true := by
        cases ha : s.alive
        · rw [ha, Bool.not_eq_false] at hsame
          exact absurd (hgone hsame) (ha ▸ Bool.false_ne_true)
        · rfl
      have hdead : after.alive = false := by
        rw [halive, Bool.not_eq_true] at hsame
        exact hsame
      have hfound : self.websocketProxies.contains i = true :=
        List.contains_iff_mem.2 (((hw.owns hdata).2.mem_iff hi).2 halive)
      rw [if_neg hsame] at hsteps
      simp only [halive, hdead, Bool.not_false, Bool.and_self, if_true,
        ResourceContextData.removeProxyWebSocket, hfound]
      exact hsteps

theorem goes {e : ContextEvent Ω} (hen : w.isEnabled e = true) : w.Goes lib text hooks e
    (w.exec lib text hooks e) := by
  cases e with
  | startProxying => exact .startProxying
  | startProxyingWebSocket => exact .startProxyingWebSocket
  | factory i e =>
    simp only [isEnabled, Option.any_eq_true] at hen
    obtain ⟨proxy, hi, hen⟩ := hen
    obtain ⟨self, hdata⟩ := hw.data_of_factory hi
    simp only [exec, hdata, hi]
    exact hw.factory_goes hdata hi hen
  | socket i e =>
    simp only [isEnabled, Bool.and_eq_true, Option.any_eq_true,
      Option.all_eq_true, beq_iff_eq] at hen
    obtain ⟨⟨s, hi, hen⟩, self, hdata, hid⟩ := hen
    simp only [exec, hdata, hi]
    exact hw.socket_goes hdata hi hen hid

theorem startProxying (renderProcessId frameTreeNodeId : Int) :
    (w.startProxying renderProcessId frameTreeNodeId).Consistent text hooks where
  factories proxy hproxy := by
    rcases List.mem_append.1 hproxy with hproxy | hproxy
    · exact hw.factories proxy hproxy
    · rw [List.mem_singleton.1 hproxy]
      exact new_consistent
  sockets := hw.sockets
  made := nofun
  proxies := by
    rw [self_eq]
    exact hw.proxies.append rfl
  websocketProxies := by
    rw [self_eq]
    exact hw.websocketProxies

theorem startProxyingWebSocket (request : ResourceRequest) (renderProcessId frameTreeNodeId : Int) :
    (w.startProxyingWebSocket request renderProcessId frameTreeNodeId).Consistent text hooks where
  factories := hw.factories
  sockets s hs := by
    rcases List.mem_append.1 hs with hs | hs
    · exact hw.sockets s hs
    · rw [List.mem_singleton.1 hs]
      exact ⟨request, renderProcessId, frameTreeNodeId, .init⟩
  made := nofun
  proxies := by
    rw [self_eq]
    exact hw.proxies
  websocketProxies := by
    rw [self_eq]
    exact hw.websocketProxies.append rfl

theorem step {e : ContextEvent Ω} (hstep : Steps lib text hooks w e w') :
    w'.Consistent text hooks := by
  cases hstep with
  | startProxying => exact hw.startProxying _ _
  | startProxyingWebSocket => exact hw.startProxyingWebSocket _ _ _
  | @factory i e self proxy after hdata hi hen hrun =>
    have hproxy := hw.factories proxy (List.mem_of_getElem? hi)
    obtain ⟨hafter, hgone, -⟩ := (ProxyWorld.exec_spec (hproxy.sharing self.requestIdGenerator)
      ((proxy.sharing_isEnabled _ e).trans hen)).2 after hrun
    refine ⟨fun q hq => ?_, hw.sockets, nofun, ?_, ?_⟩
    · rcases List.mem_or_eq_of_mem_set hq with hq | rfl
      · exact hw.factories q hq
      · exact hafter
    · rw [self_eq]
      exact (hw.owns hdata).1.set_place hi hgone
    · rw [self_eq]
      exact (hw.owns hdata).2
  | @socket i e self s after hdata hi hen hid hrun =>
    refine ⟨hw.factories, fun t ht => ?_, nofun, ?_, ?_⟩
    · rcases List.mem_or_eq_of_mem_set ht with ht | rfl
      · exact hw.sockets t ht
      · obtain ⟨request, processId, frameTreeNodeId, hreach⟩ :=
          hw.sockets s (List.mem_of_getElem? hi)
        exact ⟨request, processId, frameTreeNodeId, hreach.step hen trivial (exec_of_run hrun)⟩
    · rw [self_eq]
      exact (hw.owns hdata).1
    · rw [self_eq]
      exact (hw.owns hdata).2.set_place hi (WebSocketEvent.run_gone hen hrun)

end Consistent

theorem init_consistent : ({} : ContextWorld).Consistent text hooks where
  factories _ hproxy := absurd hproxy List.not_mem_nil
  sockets _ hs := absurd hs List.not_mem_nil
  made _ := ⟨rfl, rfl⟩
  proxies := self_eq {} ▸ .nil
  websocketProxies := self_eq {} ▸ .nil

end ContextWorld

/-! ## Every run -/

/-- What holds at first and is kept by what each event does holds in every run. -/
theorem context_invariant {C : ContextWorld → ContextEvent Ω → Prop}
    {I : ContextWorld → Prop} (hinit : I {})
    (hstep : ∀ w e w', I w → w.Consistent text hooks → C w e → w.Steps lib text hooks e w' → I w')
    (h : (contextSystem lib text hooks).Reach C w) : w.Consistent text hooks ∧ I w := by
  refine System.Reach.invariant (I := fun w => w.Consistent text hooks ∧ I w)
    ⟨ContextWorld.init_consistent, hinit⟩ ?_ h
  rintro w e w' ⟨hw, hI⟩ hen hC hex
  have hgoes : w.Goes lib text hooks e (w.exec lib text hooks e) := hw.goes hen
  rw [show w.exec lib text hooks e = .ok w' from hex] at hgoes
  exact ⟨hw.step hgoes, hstep w e w' hI hw hC hgoes⟩

theorem context_consistent {C : ContextWorld → ContextEvent Ω → Prop}
    (h : (contextSystem lib text hooks).Reach C w) :
    w.Consistent text hooks :=
  (context_invariant (I := fun _ => True) trivial (fun _ _ _ _ _ _ _ => trivial) h).1

end Events

end DumbBrowser
