import DumbBrowser.Scripts.OrderedSet

/-!
# The list and the dictionary of an ordered set

Every method keeps the dictionary of the places in step with the list of the items.

* `mirrors_insert`, `mirrors_dropLast`, `mirrors_eraseIdx`, `mirrors_updateItems` : the assignments
  of the methods;
* `Represents` : the set of keys that an ordered set stands for, and what the methods do to it.
-/

namespace DumbBrowser.OrderedSets

open Python

namespace OrderedSet

variable {α : Type} [DecidableEq α]

/-! ## The invariant -/

/-- The dictionary has the place of each item, and nothing else. -/
def Mirrors (s : OrderedSet α) : Prop :=
  ∀ key v, s.map.get? key = some v ↔ ∃ n : Nat, v = n ∧ s.items[n]? = some key

theorem mirrors_new : (new : OrderedSet α).Mirrors := by
  intro key v
  simp [new]

namespace Mirrors

variable {s : OrderedSet α} (h : s.Mirrors) {key : α}
include h

theorem get? {n : Nat} (hn : s.items[n]? = some key) : s.map.get? key = some (n : Int) :=
  (h key n).2 ⟨n, rfl, hn⟩

theorem contains_iff : s.contains key = true ↔ key ∈ s.items := by
  unfold OrderedSet.contains Dict.contains
  rw [Option.isSome_iff_exists, List.mem_iff_getElem?]
  constructor
  · rintro ⟨v, hv⟩
    obtain ⟨n, -, hn⟩ := (h key v).1 hv
    exact ⟨n, hn⟩
  · rintro ⟨n, hn⟩
    exact ⟨n, h.get? hn⟩

theorem nodup : s.items.Nodup := by
  rw [List.nodup_iff_getElem?_ne_getElem?]
  intro i j hij hj heq
  obtain ⟨key, hkey⟩ : ∃ key, s.items[j]? = some key := ⟨_, List.getElem?_eq_getElem hj⟩
  have hplaces : (i : Int) = j :=
    Option.some.inj ((h.get? (heq.trans hkey)).symm.trans (h.get? hkey))
  omega

/-- The place of a key is the first one, and the only one. -/
theorem get?_idxOf (hkey : key ∈ s.items) : s.map.get? key = some (s.items.idxOf key : Int) := by
  refine h.get? ?_
  have hlt := List.idxOf_lt_length_of_mem hkey
  rw [List.getElem?_eq_getElem hlt, List.getElem_idxOf hlt]

end Mirrors

/-! ## Adding -/

theorem mirrors_insert {s : OrderedSet α} (h : s.Mirrors) (key : α) : (s.insert key).Mirrors := by
  unfold insert
  split
  · exact h
  · next hnew =>
    have hout : key ∉ s.items := fun hmem => hnew (h.contains_iff.2 hmem)
    intro key' v
    rw [Dict.get?_set]
    by_cases hkey : key' = key
    · subst hkey
      rw [if_pos rfl]
      constructor
      · rintro ⟨⟩
        exact ⟨s.items.length, rfl, List.getElem?_concat_length⟩
      · rintro ⟨n, rfl, hn⟩
        rw [List.getElem?_append] at hn
        split at hn
        · exact absurd (List.mem_of_getElem? hn) hout
        · next hge =>
          have hlt := (List.getElem?_eq_some_iff.1 hn).1
          rw [List.length_singleton] at hlt
          have hlength : n = s.items.length := by omega
          rw [hlength]
    · rw [if_neg hkey, h key' v]
      refine exists_congr fun n => and_congr_right fun _ => ?_
      rw [List.getElem?_append]
      split
      · rfl
      · next hge =>
        have hnone : s.items[n]? = none := List.getElem?_eq_none (by omega)
        rw [hnone]
        refine ⟨fun hn => absurd hn (Option.some_ne_none key').symm, fun hn => ?_⟩
        exact absurd (List.mem_singleton.1 (List.mem_of_getElem? hn)) hkey

theorem items_insert {s : OrderedSet α} (h : s.Mirrors) (key : α) :
    (s.insert key).items = if key ∈ s.items then s.items else s.items ++ [key] := by
  unfold insert
  by_cases hkey : key ∈ s.items
  · rw [if_pos (h.contains_iff.2 hkey), if_pos hkey]
  · rw [if_neg (fun hin => hkey (h.contains_iff.1 hin)), if_neg hkey]

theorem mirrors_foldl_insert {s : OrderedSet α} (h : s.Mirrors) (keys : List α) :
    (keys.foldl insert s).Mirrors := by
  induction keys generalizing s with
  | nil => exact h
  | cons key keys ih => exact ih (mirrors_insert h key)

theorem mirrors_ofList (iterable : List α) :
    (ofList iterable).Mirrors := mirrors_foldl_insert mirrors_new iterable

/-- Looking up a key that is there, and one that is not. -/
theorem lookup_of_mem {s : OrderedSet α} (h : s.Mirrors) {key : α} (hkey : key ∈ s.items) :
    lookup key s = .ok (s.items.idxOf key : Int) s := by
  simp only [lookup, Lookups.get_bind, h.get?_idxOf hkey, pure, EStateM.pure]

theorem mem_insert {s : OrderedSet α} (h : s.Mirrors) (key : α) : key ∈ (s.insert key).items := by
  rw [items_insert h]
  split
  · next hkey => exact hkey
  · exact List.mem_append_right _ (List.mem_singleton_self key)

theorem add_run {s : OrderedSet α} (h : s.Mirrors) (key : α) :
    add key s = .ok ((s.insert key).items.idxOf key : Int) (s.insert key) :=
  lookup_of_mem (mirrors_insert h key) (mem_insert h key)

/-! ## New lists of items -/

theorem updateItems_get? {items : List α} {key : α} {v : Int}
    (h : (updateItems items).map.get? key = some v) :
    ∃ n : Nat, v = n ∧ items[n]? = some key := by
  rw [updateItems, Dict.get?_ofPairs] at h
  obtain ⟨entry, hfind, rfl⟩ := Option.map_eq_some_iff.1 h
  have hkey : entry.1 = key := by simpa using List.find?_some hfind
  obtain ⟨place, hplace, rfl⟩ :=
    List.mem_map.1 (List.mem_reverse.1 (List.mem_of_find?_eq_some hfind))
  exact ⟨place.2, rfl, hkey ▸ List.mk_mem_zipIdx_iff_getElem?.1 hplace⟩

/-- The dictionary of a new list has its items, even when they are not distinct. -/
theorem updateItems_contains {items : List α} {key : α} :
    (updateItems items).contains key = true ↔ key ∈ items := by
  unfold contains Dict.contains
  rw [Option.isSome_iff_exists]
  constructor
  · rintro ⟨v, hv⟩
    obtain ⟨n, -, hn⟩ := updateItems_get? hv
    exact List.mem_of_getElem? hn
  · intro hkey
    obtain ⟨n, hn⟩ := List.mem_iff_getElem?.1 hkey
    rw [updateItems, Dict.get?_ofPairs, ← Option.isSome_iff_exists,
      Option.isSome_map, List.find?_isSome]
    refine ⟨(key, (n : Int)), List.mem_reverse.2 (List.mem_map.2 ⟨(key, n), ?_, rfl⟩), by simp⟩
    exact List.mk_mem_zipIdx_iff_getElem?.2 hn

theorem mirrors_updateItems {items : List α} : (updateItems items).Mirrors ↔ items.Nodup := by
  refine ⟨fun h => h.nodup, fun hnodup key v => ⟨updateItems_get?, ?_⟩⟩
  rintro ⟨n, rfl, hn⟩
  have hin : (updateItems items).contains key = true :=
    updateItems_contains.2 (List.mem_of_getElem? hn)
  obtain ⟨v, hv⟩ := Option.isSome_iff_exists.1 hin
  obtain ⟨m, rfl, hm⟩ := updateItems_get? hv
  have hplace : m = n := (List.getElem?_inj (List.getElem?_eq_some_iff.1 hm).1 hnodup).1 (hm.trans hn.symm)
  rw [hv, hplace]

/-! ## Removing -/

theorem deleteKey_run {s : OrderedSet α} {key : α} (hkey : s.contains key = true) :
    deleteKey key s = .ok () { s with map := s.map.erase key } := by
  have hin : s.map.contains key = true := hkey
  simp only [deleteKey, Lookups.get_bind, hin, if_true]
  rfl

/-- The last item goes, and with it its place. -/
theorem mirrors_dropLast {s : OrderedSet α} (h : s.Mirrors) {elem : α}
    (hlast : s.items.getLast? = some elem) :
    ({ items := s.items.dropLast, map := s.map.erase elem } : OrderedSet α).Mirrors := by
  obtain ⟨items, hitems⟩ : ∃ items, s.items = items ++ [elem] := List.getLast?_eq_some_iff.1 hlast
  have hnodup := h.nodup
  rw [hitems, List.nodup_append] at hnodup
  have hout : elem ∉ items := fun hmem =>
    hnodup.2.2 elem hmem elem (List.mem_singleton_self elem) rfl
  intro key v
  rw [Dict.get?_erase]
  simp only [hitems, List.dropLast_concat]
  by_cases hkey : key = elem
  · rw [if_pos hkey, hkey]
    refine ⟨fun hn => absurd hn (Option.some_ne_none v).symm, ?_⟩
    rintro ⟨n, -, hn⟩
    exact absurd (List.mem_of_getElem? hn) hout
  · rw [if_neg hkey, h key v, hitems]
    refine exists_congr fun n => and_congr_right fun _ => ?_
    rw [List.getElem?_append]
    split
    · rfl
    · next hge =>
      rw [List.getElem?_eq_none (by omega : items.length ≤ n)]
      refine ⟨fun hn => ?_, fun hn => absurd hn (Option.some_ne_none key).symm⟩
      exact absurd (List.mem_singleton.1 (List.mem_of_getElem? hn)) hkey

theorem pop_run {s : OrderedSet α} {elem : α} (hlast : s.items.getLast? = some elem)
    (hin : s.contains elem = true) :
    pop s = .ok elem { items := s.items.dropLast, map := s.map.erase elem } := by
  simp only [pop, Lookups.get_bind, hlast, Lookups.set_bind]
  rw [Lookups.bind_of_ok (deleteKey_run (s := { s with items := s.items.dropLast }) hin)]
  rfl

theorem pop_of_empty {s : OrderedSet α} (hlast : s.items.getLast? = none) :
    pop s = .error .keyError s := by
  simp only [pop, Lookups.get_bind, hlast]
  rfl

/-- The item at a place goes, and those after it move up. -/
theorem mirrors_eraseIdx {s : OrderedSet α} (h : s.Mirrors) {key : α} {n : Nat}
    (hn : s.items[n]? = some key) :
    ({ items := s.items.eraseIdx n,
       map := (s.map.erase key).updateWhere (fun v => (n : Int) ≤ v) (fun v => v - 1) } : OrderedSet
         α).Mirrors := by
  have hplace {m : Nat} (hm : s.items[m]? = some key) : m = n :=
    (List.getElem?_inj (List.getElem?_eq_some_iff.1 hm).1 h.nodup).1 (hm.trans hn.symm)
  intro key' v
  rw [Dict.get?_updateWhere, Dict.get?_erase]
  simp only [List.getElem?_eraseIdx]
  by_cases hkey : key' = key
  · subst hkey
    rw [if_pos rfl]
    refine ⟨fun hv => absurd hv (Option.some_ne_none v).symm, ?_⟩
    rintro ⟨m, -, hm⟩
    split at hm
    · have := hplace hm
      omega
    · have := hplace hm
      omega
  · rw [if_neg hkey]
    constructor
    · intro hv
      obtain ⟨w, hw, rfl⟩ := Option.map_eq_some_iff.1 hv
      obtain ⟨m, rfl, hm⟩ := (h key' w).1 hw
      have hne : m ≠ n := by
        rintro rfl
        exact hkey (Option.some.inj (hm.symm.trans hn))
      by_cases hle : n ≤ m
      · refine ⟨m - 1, ?_, ?_⟩
        · rw [if_pos (by simpa using hle)]
          omega
        · rw [if_neg (by omega), show m - 1 + 1 = m by omega]
          exact hm
      · exact ⟨m, by rw [if_neg (by simpa using hle)], by rw [if_pos (by omega)]; exact hm⟩
    · rintro ⟨m, rfl, hm⟩
      split at hm
      · next hlt =>
        rw [h.get? hm, Option.map_some, if_neg (by simp; omega)]
      · next hge =>
        rw [h.get? hm, Option.map_some, if_pos (by simp; omega)]
        congr 1
        omega

omit [DecidableEq α] in
theorem deleteItem_run {s : OrderedSet α} {n : Nat} (hn : n < s.items.length) :
    deleteItem (n : Int) s = .ok () { s with items := s.items.eraseIdx n } := by
  simp only [deleteItem, Lookups.get_bind, place?_natCast hn]
  rfl

theorem eraseIdx_idxOf {items : List α} (hnodup : items.Nodup) (key : α) :
    items.eraseIdx (items.idxOf key) = items.filter (· ≠ key) := by
  rw [← List.erase_eq_eraseIdx_of_idxOf rfl, hnodup.erase_eq_filter]
  refine List.filter_congr fun item _ => ?_
  by_cases h : item = key <;> simp [h]

theorem discard_run {s : OrderedSet α} (h : s.Mirrors) {key : α} (hkey : key ∈ s.items) :
    ∃ s', discard key s = .ok () s' ∧ s'.Mirrors ∧ s'.items = s.items.filter (· ≠ key) := by
  have hlt := List.idxOf_lt_length_of_mem hkey
  have hn : s.items[s.items.idxOf key]? = some key := by
    rw [List.getElem?_eq_getElem hlt, List.getElem_idxOf hlt]
  refine ⟨_, ?_, mirrors_eraseIdx h hn, eraseIdx_idxOf h.nodup key⟩
  simp only [discard, Lookups.get_bind, h.contains_iff.2 hkey, if_true]
  rw [Lookups.bind_of_ok (lookup_of_mem h hkey), Lookups.bind_of_ok (deleteItem_run hlt),
    Lookups.bind_of_ok (deleteKey_run
      (s := { s with items := s.items.eraseIdx (s.items.idxOf key) })
      (h.contains_iff.2 hkey))]
  rfl

theorem discard_of_notMem {s : OrderedSet α} (h : s.Mirrors) {key : α} (hkey : key ∉ s.items) :
    discard key s = .ok () s := by
  have hout : s.contains key = false := Bool.eq_false_iff.2 fun hin => hkey (h.contains_iff.1 hin)
  simp only [discard, Lookups.get_bind, hout]
  rfl

end OrderedSet

/-! ## What a set is for -/

variable {α : Type} [DecidableEq α]

/-- The place of a key in the order in which the keys were added. -/
def placeOf (a : Python.OrderedSet α) (key : α) : Except LookupError Int :=
  if key ∈ a.items then .ok (a.items.idxOf key) else .error .keyError

/-- The key at a place, which may be counted from the end. -/
def itemAt (a : Python.OrderedSet α) (i : Int) : Except LookupError α :=
  match (place? a.items.length i).bind (a.items[·]?) with
  | some item => .ok item
  | none => .error .indexError

/-- The set has the keys, in the order in which they were added. -/
structure Represents (s : OrderedSet α) (a : Python.OrderedSet α) : Prop where
  mirrors : s.Mirrors
  items : s.items = a.items

namespace Represents

theorem new : Represents (OrderedSet.new : OrderedSet α) .empty := ⟨OrderedSet.mirrors_new, rfl⟩

variable {s : OrderedSet α} {a : Python.OrderedSet α} (h : Represents s a)
include h

theorem contains (key : α) : s.contains key = decide (key ∈ a.items) := by
  rw [Bool.eq_iff_iff, h.mirrors.contains_iff, h.items, decide_eq_true_iff]

theorem insert (key : α) : Represents (s.insert key) (a.add key) := by
  refine ⟨OrderedSet.mirrors_insert h.mirrors key, ?_⟩
  rw [OrderedSet.items_insert h.mirrors, h.items]
  unfold Python.OrderedSet.add
  split
  · rfl
  · exact List.concat_eq_append.symm

theorem foldl_insert (keys : List α) :
    Represents (keys.foldl OrderedSet.insert s) (keys.foldl Python.OrderedSet.add a) := by
  induction keys generalizing s a with
  | nil => exact h
  | cons key keys ih => exact ih (h.insert key)

theorem add_run (key : α) : OrderedSet.add key s = .ok ((a.add key).items.idxOf key : Int)
    (s.insert key) := by
  rw [OrderedSet.add_run h.mirrors, (h.insert key).items]

theorem updateFrom_run (itemIndex : Option Int) (sequence : List α) :
    OrderedSet.updateFrom itemIndex sequence s =
    .ok ((sequence.getLast?.map fun key =>
      (((sequence.foldl Python.OrderedSet.add a).items.idxOf key : Nat) : Int)).or itemIndex)
      (sequence.foldl OrderedSet.insert s) := by
  induction sequence generalizing s a itemIndex with
  | nil => rfl
  | cons key sequence ih =>
    unfold OrderedSet.updateFrom
    rw [Lookups.bind_of_ok (h.add_run key), ih (h.insert key)]
    rcases hlast : sequence.getLast? with _ | last
    · rw [List.getLast?_eq_none_iff.1 hlast]
      rfl
    · rw [List.getLast?_cons, hlast]
      rfl

theorem getItem (i : Int) : outcome (OrderedSet.getItem i s) = (itemAt a i, s) := by
  simp only [OrderedSet.getItem, Lookups.get_bind, itemAt, h.items]
  cases (place? a.items.length i).bind (a.items[·]?) <;> rfl

theorem index (key : α) : outcome (OrderedSet.index key s) = (placeOf a key, s) := by
  by_cases hkey : key ∈ a.items
  · rw [OrderedSet.index, OrderedSet.lookup_of_mem h.mirrors (h.items ▸ hkey), h.items,
      placeOf, if_pos hkey]
    rfl
  · have hnone : s.map.get? key = none := by
      have hout : s.map.contains key = false := (h.contains key).trans (decide_eq_false hkey)
      simpa [Dict.contains] using hout
    simp only [placeOf, if_neg hkey, OrderedSet.index, OrderedSet.lookup, Lookups.get_bind, hnone]
    rfl

theorem getItems (indices : List Int) : outcome (OrderedSet.getItems indices s) =
    (indices.mapM (itemAt a), s) :=
  Lookups.mapM_outcome h.getItem indices

theorem indexAll (keys : List α) :
    outcome (OrderedSet.indexAll keys s) = (keys.mapM (placeOf a), s) :=
  Lookups.mapM_outcome h.index keys

theorem discard (key : α) : ∃ s', OrderedSet.discard key s = .ok () s' ∧ Represents s'
    (a.filter (· ≠ key)) := by
  by_cases hkey : key ∈ s.items
  · obtain ⟨s', hrun, hmirrors, hitems⟩ := OrderedSet.discard_run h.mirrors hkey
    exact ⟨s', hrun, hmirrors, hitems.trans (congrArg _ h.items)⟩
  · refine ⟨s, OrderedSet.discard_of_notMem h.mirrors hkey, h.mirrors, ?_⟩
    have hall : a.items.filter (· ≠ key) = a.items := List.filter_eq_self.2 fun item hitem => by
      refine decide_eq_true ?_
      rintro rfl
      exact hkey (h.items ▸ hitem)
    exact h.items.trans hall.symm

theorem pop : outcome (OrderedSet.pop s) = (.error .keyError, s) ∧ a.items.getLast? = none ∨
    ∃ key s', outcome (OrderedSet.pop s) = (.ok key, s') ∧ a.items.getLast? = some key ∧
    Represents s' a.dropLast := by
  rcases hlast : s.items.getLast? with _ | key
  · left
    rw [OrderedSet.pop_of_empty hlast]
    exact ⟨rfl, h.items ▸ hlast⟩
  · right
    have hin : s.contains key = true := h.mirrors.contains_iff.2 (List.mem_of_getLast? hlast)
    rw [OrderedSet.pop_run hlast hin]
    exact ⟨key, _, rfl, h.items ▸ hlast, OrderedSet.mirrors_dropLast h.mirrors hlast, congrArg _ h.items⟩

omit h in
theorem updateItems {items : List α} (hitems : items = a.items) :
    Represents (OrderedSet.updateItems items) a :=
  ⟨OrderedSet.mirrors_updateItems.2 (hitems ▸ a.nodup), hitems⟩

theorem symmetricDifferenceUpdate {other : List α}
    (hdistinct : (other.filter (· ∉ a.items)).Nodup) :
    Represents (s.symmetricDifferenceUpdate other)
      ((other.filter (· ∉ a.items)).foldl Python.OrderedSet.add (a.filter (· ∉ other))) := by
  have hadded : (other.filter fun item => !s.contains item) = other.filter (· ∉ a.items) :=
    List.filter_congr fun item _ => by rw [h.contains, decide_not]
  refine updateItems ?_
  rw [hadded, h.items, Python.OrderedSet.items_foldl_add]
  · rfl
  · refine List.nodup_append.2 ⟨(a.filter _).nodup, hdistinct, ?_⟩
    rintro key hkey _ hkey' rfl
    exact absurd (List.mem_filter.1 hkey).1 (of_decide_eq_true (List.mem_filter.1 hkey').2)

end Represents

end DumbBrowser.OrderedSets
