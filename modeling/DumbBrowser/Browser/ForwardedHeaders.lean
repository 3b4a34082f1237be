import DumbBrowser.Browser.ClientProtocol

/-!
# Forwarded redirects

The headers that a network loader ends up with, and the record that its request keeps of them.

* `forwarded_headers_iff` : when a forwarded `FollowRedirect` leaves both the same.
-/

namespace DumbBrowser

open NetError Exec

/-! ## The headers of a loader -/

structure LoaderHeaders where
  headers : HttpRequestHeaders
  corsExemptHeaders : HttpRequestHeaders
deriving DecidableEq, Repr

def ResourceRequest.loaderHeaders (request : ResourceRequest) : LoaderHeaders :=
  ⟨request.headers, request.corsExemptHeaders⟩

/-- What a loader does with the headers of `FollowRedirect`. -/
def LoaderHeaders.followRedirect (h : LoaderHeaders) (params : FollowRedirectParams) : LoaderHeaders where
  headers := (params.removedHeaders.foldl HttpRequestHeaders.removeHeader h.headers).mergeFrom
    params.modifiedHeaders
  corsExemptHeaders := h.corsExemptHeaders.mergeFrom params.modifiedCorsExemptHeaders

def LoaderMessage.params : LoaderMessage → Option FollowRedirectParams
  | followRedirect params => some params
  | _ => none

/-- The headers of a loader, after all that it has been sent. -/
def NetLoader.headers (l : NetLoader) : LoaderHeaders :=
  (l.messages.filterMap (·.params)).foldl LoaderHeaders.followRedirect l.request.loaderHeaders

def NetLoader.send (l : NetLoader) (m : LoaderMessage) : NetLoader :=
  { l with messages := l.messages ++ [m] }

theorem NetLoader.headers_followRedirect (l : NetLoader) (params : FollowRedirectParams) :
    (l.send (.followRedirect params)).headers = l.headers.followRedirect params := by
  simp [headers, send, LoaderMessage.params]

section Edits
variable {headers before after : HttpRequestHeaders} {name : String} {names : List String}
  {params : FollowRedirectParams} {ctx : DumbRequestInfo}

/-- The header is among the named ones, in whatever case. -/
def Named (names : List String) (name : String) : Prop :=
  ∃ key ∈ names, headerKey key = headerKey name

instance : Decidable (Named names name) :=
  inferInstanceAs (Decidable (∃ key ∈ names, headerKey key = headerKey name))

theorem Named.append {names' : List String} : Named (names ++ names') name ↔ Named names name ∨
    Named names' name := by
  simp only [Named, List.mem_append, or_and_right, exists_or]

/-- What a `FollowRedirect` leaves of each header: what it sets wins, then what it removes is
gone. -/
theorem getHeader_followRedirect {h : LoaderHeaders} (hw : h.headers.WellFormed)
    (hm : params.modifiedHeaders.WellFormed) :
    (h.followRedirect params).headers.getHeader name = (params.modifiedHeaders.getHeader name).or
      (if Named params.removedHeaders name then none else h.headers.getHeader name) := by
  rw [LoaderHeaders.followRedirect, HttpRequestHeaders.getHeader_mergeFrom hm,
    HttpRequestHeaders.getHeader_removeHeaders hw]
  rfl

/-- The context of a hook names the headers that the hook has changed: those it has set are there,
those it has removed are not. -/
structure RecordsEdits (ctx : DumbRequestInfo) (before after : HttpRequestHeaders) : Prop where
  set : ∀ name ∈ ctx.setHeaders, after.getHeader name ≠ none
  removed : ∀ name ∈ ctx.removedHeaders, after.getHeader name = none
  others : ∀ name, ¬ Named (ctx.setHeaders ++ ctx.removedHeaders) name →
    after.getHeader name = before.getHeader name

namespace RecordsEdits

theorem of_set (h : RecordsEdits ctx before after) (hname : Named ctx.setHeaders name) :
    after.getHeader name ≠ none := by
  obtain ⟨key, hkey, heq⟩ := hname
  rw [← HttpRequestHeaders.getHeader_congr heq]
  exact h.set key hkey

theorem of_removed (h : RecordsEdits ctx before after) (hname : Named ctx.removedHeaders name) :
    after.getHeader name = none := by
  obtain ⟨key, hkey, heq⟩ := hname
  rw [← HttpRequestHeaders.getHeader_congr heq]
  exact h.removed key hkey

end RecordsEdits

/-! ## What is forwarded -/

/-- The headers that the hook has set, with the values that the request has for them. -/
def takeHeaders (names : List String) (source headers : HttpRequestHeaders) : HttpRequestHeaders :=
  names.foldl (fun hs name =>
    match source.getHeader name with
    | some value => hs.setHeader name value
    | none => hs) headers

theorem wellFormed_takeHeaders {source : HttpRequestHeaders} (hw : headers.WellFormed) :
    (takeHeaders names source headers).WellFormed := by
  unfold takeHeaders
  induction names generalizing headers with
  | nil => exact hw
  | cons key names ih =>
    rw [List.foldl_cons]
    split
    · exact ih hw.setHeader
    · exact ih hw

theorem getHeader_takeHeaders {source : HttpRequestHeaders}
    (hsource : ∀ key ∈ names, source.getHeader key ≠ none) :
    (takeHeaders names source headers).getHeader name =
      if Named names name then source.getHeader name else headers.getHeader name := by
  unfold takeHeaders
  induction names generalizing headers with
  | nil => simp [Named]
  | cons key names ih =>
    obtain ⟨value, hvalue⟩ := Option.ne_none_iff_exists'.1 (hsource key (List.mem_cons_self ..))
    rw [List.foldl_cons, hvalue, ih fun key hkey => hsource key (List.mem_cons_of_mem _ hkey),
      HttpRequestHeaders.getHeader_setHeader]
    by_cases hname : headerKey key = headerKey name
    · have hnamed : Named (key :: names) name := ⟨key, List.mem_cons_self .., hname⟩
      rw [if_pos hname, if_pos hnamed, ← HttpRequestHeaders.getHeader_congr hname, hvalue, ite_self]
    · have hnamed : Named (key :: names) name ↔ Named names name := by simp [Named, hname]
      rw [if_neg hname]
      simp only [hnamed]

end Edits

section Forwarded
variable {r r' : InProgressRequest} {ctx : DumbRequestInfo}
  {params : FollowRedirectParams} {h : LoaderHeaders} {name : String}

theorem mergedParams_modifiedHeaders : (r.mergedParams ctx params).modifiedHeaders =
    takeHeaders ctx.setHeaders r.request.headers params.modifiedHeaders := rfl

theorem followRedirect_headers : (r.followRedirect params).request.headers =
    (r.request.loaderHeaders.followRedirect params).headers := rfl

/-- The loader and the record of the request agree on a header, unless the client sets what the hook
has removed. -/
theorem getHeader_merged_iff (hw : h.headers.WellFormed) (hr : r.request.headers.WellFormed)
    (hm : params.modifiedHeaders.WellFormed) (hsame : h.headers.SameHeaders r.request.headers)
    (hedits : RecordsEdits ctx (r.followRedirect params).request.headers r'.request.headers) :
    (h.followRedirect (r'.mergedParams ctx params)).headers.getHeader
    name = r'.request.headers.getHeader name ↔
      (Named ctx.removedHeaders name → params.modifiedHeaders.getHeader name = none) := by
  have hmerged : (r'.mergedParams ctx params).modifiedHeaders.WellFormed :=
    wellFormed_takeHeaders hm
  rw [getHeader_followRedirect hw hmerged, mergedParams_modifiedHeaders,
    getHeader_takeHeaders hedits.set,
    show (r'.mergedParams ctx params).removedHeaders = params.removedHeaders ++
      ctx.removedHeaders from rfl]
  by_cases hset : Named ctx.setHeaders name
  · obtain ⟨value, hvalue⟩ := Option.ne_none_iff_exists'.1 (hedits.of_set hset)
    have hkept : ¬ Named ctx.removedHeaders name := fun hremoved =>
      hedits.of_set hset (hedits.of_removed hremoved)
    rw [if_pos hset, hvalue, Option.some_or]
    exact ⟨fun _ hremoved => absurd hremoved hkept, fun _ => rfl⟩
  rw [if_neg hset]
  by_cases hremoved : Named ctx.removedHeaders name
  · rw [if_pos (Named.append.2 (Or.inr hremoved)), hedits.of_removed hremoved, Option.or_none]
    exact ⟨fun hnone _ => hnone, fun hnone => hnone hremoved⟩
  · have hother : ¬ Named (ctx.setHeaders ++ ctx.removedHeaders) name := fun hnamed =>
      (Named.append.1 hnamed).elim hset hremoved
    have hlater : Named (params.removedHeaders ++ ctx.removedHeaders) name ↔
        Named params.removedHeaders name := by
      rw [Named.append, or_iff_left hremoved]
    rw [hedits.others name hother, followRedirect_headers, getHeader_followRedirect hr hm]
    simp only [hlater, hsame name]
    exact ⟨fun _ hnamed => absurd hnamed hremoved, fun _ => rfl⟩

end Forwarded

/-- The hook before the start is done: the request follows what the client has sent while the
request was `r`, and the hook has recorded its edits. -/
structure Following (r : InProgressRequest) (params : FollowRedirectParams) (ctx : DumbRequestInfo)
    (f : Frame) : Prop where
  alive : f.slot.alive = true
  factoryAlive : f.factory.alive = true
  loader : f.slot.object.targetLoader = true
  pending : f.slot.object.pendingFollowRedirectParams =
    (r.followRedirect params).pendingFollowRedirectParams
  bound : r.targetLoader = true
  context : f.slot.object.ctx = some ctx
  edits : RecordsEdits ctx (r.followRedirect params).request.headers f.slot.object.request.headers

/-- What the hook leaves of a request that has taken over the changes of the client. -/
theorem following_write {f : Frame} {params : FollowRedirectParams} {ctx : DumbRequestInfo}
    {writes : HookWrites} (ha : f.slot.alive = true) (hfactory : f.factory.alive = true)
    (hbound : f.slot.object.targetLoader = true)
    (hrecords : RecordsEdits (writes.ctx ctx) (f.slot.object.followRedirect params).request.headers
      (writes.headers (f.slot.object.followRedirect params).request.headers)) :
    Following f.slot.object params (writes.ctx ctx) { f with slot := { f.slot with
      object := { f.slot.object.followRedirect params with ctx := some ctx }.write
        (writes.restrict .beforeStartTransaction) } } where
  alive := ha
  factoryAlive := hfactory
  loader := hbound
  pending := rfl
  bound := hbound
  context := rfl
  edits := hrecords

/-- **When a forwarded redirect leaves the loader with the headers of the request.** -/
theorem forwarded_headers_iff {p : Ptr} {f : Frame} {r : InProgressRequest}
    {params : FollowRedirectParams} {ctx : DumbRequestInfo} {l : NetLoader}
    (hf : Following r params ctx f) (hl : f.slot.loader = some l)
    (hw : l.headers.headers.WellFormed) (hr : r.request.headers.WellFormed)
    (hm : params.modifiedHeaders.WellFormed)
    (hsame : l.headers.headers.SameHeaders r.request.headers) :
    ∃ f', continueToSendHeaders p OK f = .ok ((), f') ∧ ∃ l', f'.slot.loader = some l' ∧
      (l'.headers.headers.SameHeaders f'.slot.object.request.headers ↔
        ∀ name ∈ ctx.removedHeaders, params.modifiedHeaders.getHeader name = none) := by
  have hrun : wp (continueToSendHeaders p OK) (fun _ => False) (fun _ f' =>
      f'.slot.loader = some (l.send (.followRedirect (f.slot.object.mergedParams ctx params))) ∧
        f'.slot.object.request = f.slot.object.request) f := by
    have hctx : f.slot.object.ctx.isSome = true := by rw [hf.context, Option.isSome_some]
    have hpending : f.slot.object.pendingFollowRedirectParams = some params := by
      rw [hf.pending, InProgressRequest.followRedirect, if_pos hf.bound]
    rw [continueToSendHeaders, if_neg (not_not.2 rfl), wp_bind, forwardFollowRedirect, wp_bind,
      runs_theCtxSome hf.alive hctx]
    refine ⟨ctx, hf.context, ?_⟩
    simp (disch := first | exact hf.alive | exact hf.factoryAlive) only [wp_bind, runs_this,
      hpending, hf.loader, if_true,
      noteNotReached, runs_toLoader, runs_setThis, runs_resumeIfBound, continueToStartRequest,
        ne_eq, not_true, if_false, wp_get,
      startRequest, runs_theFactory, Bool.not_true, Bool.false_and, Bool.false_eq_true, wp_pure,
        recordStart, wp_modify]
    exact ⟨by rw [hl]; rfl, trivial⟩
  obtain ⟨_, f', hrun, hloader, hrequest⟩ := wp_total hrun
  refine ⟨f', hrun, _, hloader, ?_⟩
  rw [hrequest, NetLoader.headers_followRedirect]
  constructor
  · intro hagree name hname
    exact (getHeader_merged_iff hw hr hm hsame hf.edits).1 (hagree name) ⟨name, hname, rfl⟩
  · intro hkept name
    refine (getHeader_merged_iff hw hr hm hsame hf.edits).2 ?_
    rintro ⟨key, hkey, heq⟩
    rw [← HttpRequestHeaders.getHeader_congr heq]
    exact hkept key hkey

/-! ## Two hooks -/

/-- Hooks that pass, with whatever the outside world writes before the start. -/
def writingHooks : Hooks HookWrites where
  onBeforeURLRequest _ _ := { result := .ok }
  onBeforeStartTransaction writes _ _ := { result := .ok, writes }
  onHeadersReceived _ _ _ := { result := .ok }
  resume writes _ := (OK, writes)

def setsHeader (name value : String) : HookWrites where
  ctx ctx := { ctx with setHeaders := [name] }
  headers headers := headers.setHeader name value

def removesHeader (name : String) : HookWrites where
  ctx ctx := { ctx with removedHeaders := [name] }
  headers headers := headers.removeHeader name

theorem setsHeader_records {ctx : DumbRequestInfo} {headers : HttpRequestHeaders}
    {name value : String} (hctx : ctx.removedHeaders = []) :
    RecordsEdits ((setsHeader name value).ctx ctx) headers
    ((setsHeader name value).headers headers) where
  set key hkey := by
    rw [List.mem_singleton.1 hkey]
    simp [setsHeader, HttpRequestHeaders.getHeader_setHeader]
  removed key hkey := by simp [setsHeader, hctx] at hkey
  others key hkey := by
    have hne : headerKey name ≠ headerKey key := fun heq => hkey ⟨name, by simp [setsHeader], heq⟩
    rw [setsHeader, HttpRequestHeaders.getHeader_setHeader, if_neg hne]

theorem removesHeader_records {ctx : DumbRequestInfo} {headers : HttpRequestHeaders} {name : String}
    (hctx : ctx.setHeaders = []) (hw : headers.WellFormed) :
    RecordsEdits ((removesHeader name).ctx ctx) headers ((removesHeader name).headers headers) where
  set key hkey := by simp [removesHeader, hctx] at hkey
  removed key hkey := by
    rw [List.mem_singleton.1 hkey]
    simp [removesHeader, HttpRequestHeaders.getHeader_removeHeader hw]
  others key hkey := by
    have hne : headerKey name ≠ headerKey key :=
      fun heq => hkey ⟨name, by simp [removesHeader], heq⟩
    rw [removesHeader, HttpRequestHeaders.getHeader_removeHeader hw, if_neg hne]

def modifiesHeader : FollowRedirectParams := { modifiedHeaders := [("X-A", "1")] }

/-- The client sets one header and the hook another. -/
theorem forwarded_headers_set : ∃ f r ctx, Following r modifiesHeader ctx f ∧
    ctx.setHeaders = ["X-B"] ∧
    ∃ f', continueToSendHeaders 0 OK f = .ok ((), f') ∧ ∃ l', f'.slot.loader = some l' ∧
      l'.headers.headers.SameHeaders f'.slot.object.request.headers := by
  let loader : NetLoader := ⟨pageRequest, 1, 0, 0, []⟩
  let r : InProgressRequest := { request := pageRequest, requestId := 1, targetLoader := true }
  have hf := @following_write ⟨.new 0 0 0, { object := r, loader }⟩ modifiesHeader {}
    (setsHeader "X-B" "2") rfl rfl rfl
    (setsHeader_records rfl)
  obtain ⟨f', hrun, l', hl', hiff⟩ := @forwarded_headers_iff 0 _ _ _ _ loader hf rfl (by decide)
    (by decide) (by decide)
    fun _ => rfl
  exact ⟨_, _, _, hf, rfl, f', hrun, l', hl', hiff.2 (by decide)⟩

/-- The client sets a header that the hook removes: the loader sends it. -/
theorem removed_header_forwarded : ∃ w, (proxySystem plainLibrary writingHooks 0 0 0).Reach
    (OnRequests Polite) w ∧
    ∃ s l, w.slots 0 = some s ∧ s.object.targetLoader = true ∧ s.loader = some l ∧
      l.headers.headers.SameHeaders s.object.request.headers ∧
      ∃ w', w.exec plainLibrary writingHooks
        (.request 0 (.followRedirect modifiesHeader ⟨removesHeader "X-A", true⟩)) = .ok w' ∧
        ∃ s' l' ctx, w'.slots 0 = some s' ∧ s'.loader = some l' ∧ s'.object.ctx = some ctx ∧
          RecordsEdits ctx (s.object.followRedirect modifiesHeader).request.headers
            s'.object.request.headers ∧
          ¬ l'.headers.headers.SameHeaders s'.object.request.headers := by
  have hreach := System.reach_of_replay (S := proxySystem plainLibrary writingHooks 0 0 0)
    (C := OnRequests Polite)
    [.createLoaderAndStart 0 1 0 pageRequest 0 ⟨{}, true⟩,
      .request 0 (.onReceiveRedirect pageRedirect {} ⟨{}, true⟩)] rfl
  have hrecords := @removesHeader_records {} [("X-A", "1")] "X-A" rfl (by decide)
  refine ⟨_, hreach, _, _, rfl, rfl, rfl, fun _ => rfl, _, rfl, _, _, _, rfl, rfl, rfl,
    ⟨hrecords.set, hrecords.removed, hrecords.others⟩, ?_⟩
  intro hagree
  exact absurd (hagree "X-A") (by decide)

end DumbBrowser
