import Mathlib.Data.List.Nodup

/-!
# Request and response headers

Header names are compared without case.

* `getHeader_setHeader`, `getHeader_removeHeader`, `getHeader_mergeFrom` : what an operation does to
  each header.
-/

namespace DumbBrowser

def headerKey (name : String) : List Char := name.toList.map Char.toLower

def sameHeader (a b : String) : Bool := headerKey a == headerKey b

/-- The name and value pairs, in order. -/
abbrev HttpRequestHeaders := List (String × String)

namespace HttpRequestHeaders

def getHeader (headers : HttpRequestHeaders) (key : String) : Option String :=
  (headers.find? fun h => sameHeader h.1 key).map Prod.snd

/-- The value of the header that is there is replaced, else the header is added at the end. -/
def setHeader (headers : HttpRequestHeaders) (key value : String) : HttpRequestHeaders :=
  match headers with
  | [] => [(key, value)]
  | h :: rest => if sameHeader h.1 key then (h.1, value) :: rest else h :: setHeader rest key value

def removeHeader (headers : HttpRequestHeaders) (key : String) : HttpRequestHeaders :=
  headers.eraseP fun h => sameHeader h.1 key

def mergeFrom (headers other : HttpRequestHeaders) : HttpRequestHeaders :=
  other.foldl (fun hs h => setHeader hs h.1 h.2) headers

/-! ## Header by header -/

/-- No two headers have one name; every operation of the class keeps it. -/
def WellFormed (headers : HttpRequestHeaders) : Prop := (headers.map fun h => headerKey h.1).Nodup

instance (headers : HttpRequestHeaders) : Decidable headers.WellFormed :=
  inferInstanceAs (Decidable (List.Nodup _))

/-- The same headers, in whatever order and case of names. -/
def SameHeaders (headers other : HttpRequestHeaders) : Prop :=
  ∀ name, headers.getHeader name = other.getHeader name

theorem sameHeader_iff {a b : String} : sameHeader a b = true ↔
    headerKey a = headerKey b := beq_iff_eq

variable {headers other : HttpRequestHeaders} {key name value : String}

theorem getHeader_cons (h : String × String) :
    getHeader (h :: headers) name = if headerKey h.1 = headerKey name then some h.2
    else headers.getHeader name := by
  unfold getHeader
  rw [List.find?_cons]
  by_cases hname : headerKey h.1 = headerKey name
  · rw [sameHeader_iff.2 hname, if_pos hname]
    rfl
  · rw [Bool.eq_false_iff.2 (mt sameHeader_iff.1 hname), if_neg hname]

theorem getHeader_eq_none_iff : headers.getHeader name = none ↔
    headerKey name ∉ headers.map fun h => headerKey h.1 := by
  induction headers with
  | nil => simp [getHeader]
  | cons h headers ih =>
    rw [getHeader_cons, List.map_cons, List.mem_cons, not_or, ← ih]
    split
    · next hname => simp [hname]
    · next hname => exact ⟨fun hnone => ⟨Ne.symm hname, hnone⟩, And.right⟩

theorem getHeader_congr {name' : String} (hname : headerKey name = headerKey name') :
    headers.getHeader name = headers.getHeader name' := by
  simp only [getHeader, sameHeader, hname]

theorem getHeader_setHeader : (headers.setHeader key value).getHeader name =
    if headerKey key = headerKey name then some value else headers.getHeader name := by
  induction headers with
  | nil => rw [setHeader, getHeader_cons]
  | cons h headers ih =>
    rw [setHeader]
    split
    · next hkey =>
      rw [getHeader_cons, getHeader_cons, sameHeader_iff.1 hkey]
      split <;> rfl
    · next hkey =>
      rw [getHeader_cons, getHeader_cons, ih]
      by_cases hname : headerKey key = headerKey name
      · rw [if_pos hname, if_pos hname, if_neg fun heq =>
          hkey (sameHeader_iff.2 (heq.trans hname.symm))]
      · rw [if_neg hname, if_neg hname]

theorem mem_keys_setHeader {k : List Char}
    (hk : k ∈ (headers.setHeader key value).map fun h => headerKey h.1) :
    k = headerKey key ∨ k ∈ headers.map fun h => headerKey h.1 := by
  induction headers with
  | nil => simpa [setHeader] using hk
  | cons h headers ih =>
    rw [setHeader] at hk
    split at hk
    · exact Or.inr hk
    · rw [List.map_cons, List.mem_cons] at hk ⊢
      rcases hk with rfl | hk
      · exact Or.inr (Or.inl rfl)
      · exact (ih hk).imp_right Or.inr

theorem WellFormed.setHeader (hw : headers.WellFormed) :
    (headers.setHeader key value).WellFormed := by
  induction headers with
  | nil => simp [WellFormed, HttpRequestHeaders.setHeader]
  | cons h headers ih =>
    obtain ⟨hh, hrest⟩ := List.nodup_cons.1 hw
    rw [HttpRequestHeaders.setHeader]
    split
    · exact hw
    · next hkey =>
      refine List.nodup_cons.2 ⟨fun hmem => ?_, ih hrest⟩
      rcases mem_keys_setHeader hmem with heq | hmem
      · exact hkey (sameHeader_iff.2 heq)
      · exact hh hmem

theorem WellFormed.removeHeader (hw : headers.WellFormed) : (headers.removeHeader key).WellFormed :=
  List.Nodup.sublist (List.Sublist.map _ (List.eraseP_sublist ..)) hw

/-- Of well-formed headers the one that is removed is the only one with its name. -/
theorem getHeader_removeHeader (hw : headers.WellFormed) :
    (headers.removeHeader key).getHeader name =
    if headerKey key = headerKey name then none else headers.getHeader name := by
  induction headers with
  | nil => simp [removeHeader, getHeader]
  | cons h headers ih =>
    obtain ⟨hh, hrest⟩ := List.nodup_cons.1 hw
    unfold removeHeader at ih ⊢
    rw [List.eraseP_cons]
    by_cases hkey : headerKey h.1 = headerKey key
    · rw [sameHeader_iff.2 hkey, cond_true, getHeader_cons, hkey]
      split
      · next hname => exact getHeader_eq_none_iff.2 (by rwa [← hname, ← hkey])
      · rfl
    · rw [Bool.eq_false_iff.2 (mt sameHeader_iff.1 hkey), cond_false, getHeader_cons,
        getHeader_cons, ih hrest]
      by_cases hname : headerKey key = headerKey name
      · rw [if_pos hname, if_pos hname, if_neg fun heq => hkey (heq.trans hname.symm)]
      · rw [if_neg hname, if_neg hname]

theorem getHeader_removeHeaders {names : List String} (hw : headers.WellFormed) :
    getHeader (names.foldl removeHeader headers) name =
      if ∃ key ∈ names, headerKey key = headerKey name then none else headers.getHeader name := by
  induction names generalizing headers with
  | nil => simp
  | cons key names ih =>
    rw [List.foldl_cons, ih hw.removeHeader, getHeader_removeHeader hw]
    by_cases hkey : headerKey key = headerKey name <;> simp [hkey]

theorem mergeFrom_append {other' : HttpRequestHeaders} :
    headers.mergeFrom (other ++ other') = (headers.mergeFrom other).mergeFrom other' :=
  List.foldl_append ..

theorem getHeader_append :
    getHeader (headers ++ other) name = (headers.getHeader name).or (other.getHeader name) := by
  unfold getHeader
  rw [List.find?_append, Option.map_or]

/-- What is merged wins, and what is merged last wins over what is merged before. -/
theorem getHeader_mergeFrom_reverse :
    (headers.mergeFrom other).getHeader name = (getHeader other.reverse name).or
    (headers.getHeader name) := by
  induction other generalizing headers with
  | nil => rfl
  | cons h other ih =>
    have hset : (headers.setHeader h.1 h.2).getHeader name = (getHeader [h] name).or
        (headers.getHeader name) := by
      rw [getHeader_setHeader, getHeader_cons]
      split <;> rfl
    rw [List.reverse_cons, getHeader_append, Option.or_assoc, ← hset]
    exact ih

theorem getHeader_reverse (hw : headers.WellFormed) :
    getHeader headers.reverse name = headers.getHeader name := by
  induction headers with
  | nil => rfl
  | cons h headers ih =>
    obtain ⟨hh, hrest⟩ := List.nodup_cons.1 hw
    rw [List.reverse_cons, getHeader_append, ih hrest, getHeader_cons, getHeader_cons]
    by_cases hname : headerKey h.1 = headerKey name
    · have hnone : getHeader headers name = none := getHeader_eq_none_iff.2 (by rwa [← hname])
      rw [hnone, Option.none_or, if_pos hname, if_pos hname]
    · rw [if_neg hname, if_neg hname]
      exact Option.or_none

theorem getHeader_mergeFrom (hw : other.WellFormed) :
    (headers.mergeFrom other).getHeader name = (other.getHeader name).or
    (headers.getHeader name) := by
  rw [getHeader_mergeFrom_reverse, getHeader_reverse hw]

end HttpRequestHeaders

structure HttpResponseHeaders where
  responseCode : Int
  headers : List (String × String)
deriving DecidableEq, Repr

/-- Every occurrence is removed. -/
def HttpResponseHeaders.removeHeader (hs : HttpResponseHeaders) (name : String) :
    HttpResponseHeaders :=
  { hs with headers := hs.headers.filter fun h => !sameHeader h.1 name }

end DumbBrowser
