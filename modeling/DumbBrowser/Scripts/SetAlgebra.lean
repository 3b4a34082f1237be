import DumbBrowser.Scripts.MirroredSets
import Mathlib.Data.List.Perm.Subperm

/-!
# The algebra of ordered sets

Methods that say the same in two ways, and where they do not.

* `inplace_agrees` : a method that changes a set, and the one that makes a new set.
* `symmetricDifferenceUpdate_iff` : the one that can break a set.
* `inclusion_iff` : `issubset` and `issuperset`, for sequences that repeat items.
* `roundtrips` : indices and items, and what is copied or pickled.
-/

namespace DumbBrowser

open Python

/-! ## Ordered sets of keys -/

namespace Python.OrderedSet

variable {α : Type} [DecidableEq α]

theorem filter_add (a : Python.OrderedSet α) (p : α → Bool) (key : α) :
    ((a.add key).filter p).items = if p key then ((a.filter p).add key).items else
    (a.filter p).items := by
  have hmem : key ∈ a.items.filter p ↔ key ∈ a.items ∧ p key = true := List.mem_filter
  unfold filter
  simp only [items_add, hmem]
  by_cases hkey : key ∈ a.items
  · cases hp : p key <;> simp [hkey]
  · cases hp : p key <;> simp [hkey, hp]

/-- Keys that do not meet the condition can be left out before. -/
theorem filter_foldl_add (keys : List α) (p : α → Bool) {a b : Python.OrderedSet α}
    (hab : (a.filter p).items = b.items) :
    ((keys.foldl add a).filter p).items = ((keys.filter p).foldl add b).items := by
  induction keys generalizing a b with
  | nil => exact hab
  | cons key keys ih =>
    rw [List.foldl_cons, List.filter_cons]
    by_cases hp : p key = true
    · rw [if_pos hp, List.foldl_cons]
      refine ih ?_
      rw [filter_add, if_pos hp, items_add, items_add, hab]
    · rw [if_neg hp]
      refine ih ?_
      rw [filter_add, if_neg hp, hab]

/-- What comes first stays first, where no key is in it. -/
theorem foldl_add_append (keys : List α) {before : List α} {a b : Python.OrderedSet α}
    (hab : a.items = before ++ b.items) (hnew : ∀ key ∈ keys, key ∉ before) :
    (keys.foldl add a).items = before ++ (keys.foldl add b).items := by
  induction keys generalizing a b with
  | nil => exact hab
  | cons key keys ih =>
    rw [List.foldl_cons, List.foldl_cons]
    refine ih ?_ fun key' hkey' => hnew key' (List.mem_cons_of_mem key hkey')
    have hout : key ∉ before := hnew key List.mem_cons_self
    rw [items_add, items_add, hab]
    by_cases hkey : key ∈ b.items
    · rw [if_pos (List.mem_append_right before hkey), if_pos hkey]
    · rw [if_neg (by simp [hout, hkey]), if_neg hkey, List.append_assoc]

end Python.OrderedSet

namespace OrderedSets

variable {α : Type} [DecidableEq α]

/-- The first appearance of each item. -/
theorem items_ofList (items : List α) :
    (OrderedSet.ofList items).items = (items.foldl Python.OrderedSet.add .empty).items :=
  (Represents.new.foldl_insert items).items

theorem items_ofList_of_nodup {items : List α} (h : items.Nodup) :
    (OrderedSet.ofList items).items = items := by
  have hnew : ((.empty : Python.OrderedSet α).items ++ items).Nodup := h
  rw [items_ofList, Python.OrderedSet.items_foldl_add hnew]
  rfl

theorem items_ofList_eq_iff {items : List α} :
    (OrderedSet.ofList items).items = items ↔ items.Nodup :=
  ⟨fun h => h ▸ (OrderedSet.mirrors_ofList items).nodup, items_ofList_of_nodup⟩

theorem filter_ofList (items : List α) (p : α → Bool) :
    (OrderedSet.ofList items).items.filter p = (OrderedSet.ofList (items.filter p)).items := by
  rw [items_ofList, items_ofList]
  exact Python.OrderedSet.filter_foldl_add items p rfl

/-! ## Two ways to say the same -/

namespace OrderedSet

variable {s : OrderedSet α} (h : s.Mirrors)
include h

theorem items_difference (sets : List (List α)) :
    (s.difference sets).items = s.items.filter fun item => !sets.any (item ∈ ·) := by
  unfold difference
  split
  · exact items_ofList_of_nodup (h.nodup.filter _)
  · next hnone =>
    have hnil : sets = [] := not_ne_iff.1 hnone
    rw [items_ofList_of_nodup h.nodup, hnil]
    simp

theorem items_intersection (sets : List (List α)) :
    (s.intersection sets).items = s.items.filter fun item => sets.all (item ∈ ·) := by
  unfold intersection
  split
  · exact items_ofList_of_nodup (h.nodup.filter _)
  · next hnone =>
    have hnil : sets = [] := not_ne_iff.1 hnone
    rw [items_ofList_of_nodup h.nodup, hnil]
    simp

theorem items_union (sets : List (List α)) :
    (s.union sets).items = (sets.flatten.foldl insert s).items := by
  have hself : Represents (ofList s.items) ⟨s.items, h.nodup⟩ :=
    ⟨mirrors_ofList s.items, items_ofList_of_nodup h.nodup⟩
  have hsame : Represents s ⟨s.items, h.nodup⟩ := ⟨h, rfl⟩
  unfold union
  rw [ofList, List.foldl_append]
  exact (hself.foldl_insert sets.flatten).items.trans (hsame.foldl_insert sets.flatten).items.symm

theorem items_symmetricDifferenceUpdate (other : List α) :
    (s.symmetricDifferenceUpdate other).items = s.items.filter
    (· ∉ other) ++ other.filter (· ∉ s.items) := by
  have hadded : (other.filter fun item => !s.contains item) = other.filter (· ∉ s.items) :=
    List.filter_congr fun item _ => by rw [Bool.eq_iff_iff]; simp [← h.contains_iff]
  unfold symmetricDifferenceUpdate updateItems
  rw [hadded]

theorem items_symmetricDifference (other : List α) :
    (s.symmetricDifference other).items =
      s.items.filter (· ∉ other) ++ (ofList (other.filter (· ∉ s.items))).items := by
  unfold symmetricDifference
  have hfirst : ((ofList s.items).difference [other]).items = s.items.filter (· ∉ other) := by
    rw [items_difference (mirrors_ofList _), items_ofList_of_nodup h.nodup]
    simp
  have hsecond : ((ofList other).difference [s.items]).items =
      (ofList (other.filter (· ∉ s.items))).items := by
    rw [items_difference (mirrors_ofList _), ← filter_ofList]
    simp
  simp only [union, List.flatten_singleton, hfirst, hsecond]
  refine items_ofList_of_nodup
    (List.nodup_append.2 ⟨h.nodup.filter _, (mirrors_ofList _).nodup, ?_⟩)
  rintro key hkey _ hkey' rfl
  have hin : key ∈ s.items := (List.mem_filter.1 hkey).1
  rw [← filter_ofList] at hkey'
  exact absurd hin (of_decide_eq_true (List.mem_filter.1 hkey').2)

/-- **A method that changes a set and the one that makes a new set agree**, but that a symmetric
difference in place keeps what the other repeats. -/
theorem inplace_agrees (sets : List (List α)) (other : List α) :
    (s.differenceUpdate sets).items = (s.difference sets).items ∧
    (s.intersectionUpdate other).items = (s.intersection [other]).items ∧
    (∃ itemIndex s', update other s = .ok itemIndex s' ∧ s'.items = (s.union [other]).items) ∧
    ((s.symmetricDifferenceUpdate other).items = (s.symmetricDifference other).items ↔
      (other.filter (· ∉ s.items)).Nodup) := by
  have hsame : Represents s ⟨s.items, h.nodup⟩ := ⟨h, rfl⟩
  refine ⟨(items_difference h sets).symm, ?_, ⟨_, _, hsame.updateFrom_run none other, ?_⟩, ?_⟩
  · rw [items_intersection h]
    simp [intersectionUpdate, updateItems]
  · rw [items_union h, List.flatten_singleton]
  · rw [items_symmetricDifferenceUpdate h, items_symmetricDifference h,
      List.append_cancel_left_eq, eq_comm]
    exact items_ofList_eq_iff

/-! ## Sets that are broken -/

/-- Popping a number of items. -/
def drain : Nat → Method α (List α)
  | 0 => pure []
  | n + 1 => do
    let elem ← pop
    let elems ← drain n
    pure (elem :: elems)

omit h in
theorem deleteKey_of_missing {key : α} (hout : s.contains key = false) :
    deleteKey key s = .error .keyError s := by
  have hmissing : ¬ s.map.contains key = true := Bool.eq_false_iff.1 hout
  simp only [deleteKey, Lookups.get_bind, if_neg hmissing]
  rfl

omit h in
theorem pop_of_missing {elem : α} (hlast : s.items.getLast? = some elem)
    (hout : s.contains elem = false) :
    pop s = .error .keyError { s with items := s.items.dropLast } := by
  simp only [pop, Lookups.get_bind, hlast, Lookups.set_bind]
  exact Lookups.bind_of_error (deleteKey_of_missing (s := { s with items := s.items.dropLast }) hout)

omit h in
theorem contains_erase (items : List α) (key elem : α) :
    ({ items := items, map := s.map.erase elem } : OrderedSet α).contains key = true ↔
    key ≠ elem ∧ s.contains key = true := by
  unfold contains Dict.contains
  rw [Dict.get?_erase]
  by_cases hkey : key = elem <;> simp [hkey]

omit h in
/-- Where the dictionary has the items that have not been popped, all items can be popped if none
comes twice. -/
theorem drain_ok_iff {n : Nat} {popped : List α} (hlength : s.items.length = n)
    (hcontains : ∀ key, s.contains key = true ↔ key ∈ s.items ∧ key ∉ popped) :
    (∃ elems s', drain n s = .ok elems s') ↔ s.items.Nodup ∧ ∀ key ∈ s.items, key ∉ popped := by
  induction n generalizing s popped with
  | zero =>
    rw [List.length_eq_zero_iff.1 hlength]
    exact iff_of_true ⟨[], s, rfl⟩ ⟨List.nodup_nil, fun _ hkey => absurd hkey List.not_mem_nil⟩
  | succ n ih =>
    obtain ⟨items, elem, hitems⟩ : ∃ items elem, s.items = items ++ [elem] := by
      have hne : s.items ≠ [] := List.ne_nil_of_length_pos (by omega)
      exact ⟨_, _, (List.dropLast_concat_getLast hne).symm⟩
    have hlast : s.items.getLast? = some elem := by rw [hitems, List.getLast?_concat]
    have hmem : elem ∈ s.items := hitems ▸ List.mem_append_right _ (List.mem_singleton_self elem)
    unfold drain
    by_cases hpopped : elem ∈ popped
    · have hout : s.contains elem = false := Bool.eq_false_iff.2 fun hin =>
        ((hcontains elem).1 hin).2 hpopped
      rw [Lookups.bind_of_error (pop_of_missing hlast hout)]
      exact iff_of_false (fun ⟨_, _, hrun⟩ => by cases hrun) fun ⟨_, hnew⟩ => hnew elem hmem hpopped
    · rw [Lookups.bind_of_ok (pop_run hlast ((hcontains elem).2 ⟨hmem, hpopped⟩)),
        Lookups.bind_pure_ok_iff, hitems,
        List.dropLast_concat]
      have hrest : items.length = n := by
        rw [hitems, List.length_append, List.length_singleton] at hlength
        omega
      rw [@ih { items := items, map := s.map.erase elem } (elem :: popped) hrest]
      · simp only [List.nodup_append, List.mem_append, List.mem_cons,
          List.not_mem_nil, or_false, not_or]
        constructor
        · rintro ⟨hnodup, hnew⟩
          refine ⟨⟨hnodup, List.nodup_singleton _, ?_⟩, ?_⟩
          · rintro key hkey _ rfl
            exact (hnew key hkey).1
          · rintro key (hkey | rfl)
            · exact (hnew key hkey).2
            · exact hpopped
        · rintro ⟨⟨hnodup, -, hne⟩, hnew⟩
          exact ⟨hnodup, fun key hkey => ⟨hne key hkey elem rfl, hnew key (.inl hkey)⟩⟩
      · intro key
        rw [contains_erase, hcontains, hitems]
        simp only [List.mem_append, List.mem_cons, List.not_mem_nil, or_false, not_or]
        tauto

/-- **When a symmetric difference in place keeps a set in order.** The dictionary mirrors the items,
and they can all be popped, if and only if the items that are added are distinct. -/
theorem symmetricDifferenceUpdate_iff (other : List α) :
    ((s.symmetricDifferenceUpdate other).Mirrors ↔ (other.filter (· ∉ s.items)).Nodup) ∧
    ((∃ elems s', drain (s.symmetricDifferenceUpdate other).len
      (s.symmetricDifferenceUpdate other) = .ok elems s') ↔
      (other.filter (· ∉ s.items)).Nodup) := by
  have hitems := items_symmetricDifferenceUpdate h other
  have hnodup : (s.symmetricDifferenceUpdate other).items.Nodup ↔
      (other.filter (· ∉ s.items)).Nodup := by
    rw [hitems, List.nodup_append]
    refine ⟨fun hall => hall.2.1, fun hadded => ⟨h.nodup.filter _, hadded, ?_⟩⟩
    rintro key hkey _ hkey' rfl
    exact absurd (List.mem_filter.1 hkey).1 (of_decide_eq_true (List.mem_filter.1 hkey').2)
  refine ⟨mirrors_updateItems.trans hnodup, ?_⟩
  have hdrain := @drain_ok_iff α _ (s.symmetricDifferenceUpdate other) _ [] rfl fun _ =>
    updateItems_contains.trans (and_iff_left List.not_mem_nil).symm
  refine hdrain.trans ?_
  simpa using hnodup

/-! ## Inclusion -/

theorem issubset_iff (other : List α) : s.issubset other = true ↔
    ∀ item ∈ s.items, item ∈ other := by
  unfold issubset len
  constructor
  · intro hsub
    split at hsub
    · cases hsub
    · simpa using hsub
  · intro hsub
    have hlength : s.items.length ≤ other.length := (h.nodup.subperm hsub).length_le
    rw [if_neg (by omega)]
    simpa using hsub

theorem issuperset_iff (other : List α) :
    s.issuperset other = true ↔ (∀ item ∈ other, item ∈ s.items) ∧
    other.length ≤ s.items.length := by
  unfold issuperset len
  by_cases hlength : s.items.length < other.length
  · rw [if_pos hlength]
    exact iff_of_false Bool.false_ne_true fun ⟨_, hle⟩ => by omega
  · rw [if_neg hlength, List.all_eq_true]
    simp only [h.contains_iff]
    exact ⟨fun hsup => ⟨hsup, by omega⟩, fun hsup => hsup.1⟩

/-- **What inclusion says of sequences.** `issubset` is right for every sequence; `issuperset` is
too, but for a sequence that is longer than the set because it repeats items. -/
theorem inclusion_iff (other : List α) :
    (s.issubset other = true ↔ ∀ item ∈ s.items, item ∈ other) ∧
    (s.issuperset other = true ↔ (∀ item ∈ other, item ∈ s.items) ∧
      other.length ≤ s.items.length) :=
  ⟨issubset_iff h other, issuperset_iff h other⟩

/-! ## Round trips -/

/-- What is pickled is unpickled, the empty set too. -/
theorem setState_getState : (setState s.getState).items = s.items := by
  unfold getState len
  split
  · next hempty => exact (List.length_eq_zero_iff.1 hempty).symm
  · exact items_ofList_of_nodup h.nodup

theorem index_ok_iff {key : α} {i : Int} : index key s = .ok i s ↔
    ∃ n : Nat, i = n ∧ s.items[n]? = some key := by
  rw [← h key i, index, lookup]
  simp only [Lookups.get_bind]
  cases s.map.get? key with
  | none => exact iff_of_false (fun hrun => by cases hrun) (Option.some_ne_none i).symm
  | some v =>
    constructor
    · rintro ⟨⟩
      rfl
    · rintro ⟨⟩
      rfl

omit h [DecidableEq α] in
theorem getItem_ok_iff {key : α} {i : Int} :
    getItem i s = .ok key s ↔ ∃ n, place? s.items.length i = some n ∧ s.items[n]? = some key := by
  rw [getItem]
  simp only [Lookups.get_bind]
  rw [← Option.bind_eq_some_iff]
  cases (place? s.items.length i).bind (s.items[·]?) with
  | none => exact iff_of_false (fun hrun => by cases hrun) (Option.some_ne_none key).symm
  | some item =>
    constructor
    · rintro ⟨⟩
      rfl
    · rintro ⟨⟩
      rfl

omit h in
theorem index_keeps {t : OrderedSet α} {key : α} {i : Int} (hrun : lookup key s = .ok i t) : t = s := by
  simp only [lookup, Lookups.get_bind] at hrun
  cases hget : s.map.get? key <;> rw [hget] at hrun <;> cases hrun
  rfl

omit h [DecidableEq α] in
theorem getItem_keeps {t : OrderedSet α} {key : α} {i : Int} (hrun : getItem i s = .ok key t) : t = s := by
  simp only [getItem, Lookups.get_bind] at hrun
  cases hget : (place? s.items.length i).bind (s.items[·]?) <;> rw [hget] at hrun <;> cases hrun
  rfl

theorem getItem_of_index {key : α} {i : Int} (hi : index key s = .ok i s) :
    getItem i s = .ok key s := by
  obtain ⟨n, rfl, hn⟩ := (index_ok_iff h).1 hi
  exact getItem_ok_iff.2 ⟨n, place?_natCast (List.getElem?_eq_some_iff.1 hn).1, hn⟩

theorem index_of_getItem {key : α} {i : Int} (hkey : getItem i s = .ok key s) :
    index key s = .ok (if i < 0 then i + s.len else i) s := by
  obtain ⟨n, hplace, hn⟩ := getItem_ok_iff.1 hkey
  refine (index_ok_iff h).2 ⟨n, ?_, hn⟩
  have := place?_eq_some hplace
  unfold len
  split <;> omega

/-- **Round trips.** A copy and what is pickled have the items of the set. Indices and items are
inverse, for one and for many at once; an index from the end comes back as one from the start. -/
theorem roundtrips : s.copy.items = s.items ∧ (setState s.getState).items = s.items ∧
    (∀ keys indices, indexAll keys s = .ok indices s → getItems indices s = .ok keys s) ∧
    ∀ indices keys, getItems indices s = .ok keys s →
      indexAll keys s = .ok (indices.map fun i => if i < 0 then i + s.len else i) s := by
  unfold indexAll getItems
  refine ⟨items_ofList_of_nodup h.nodup, setState_getState h, ?_, ?_⟩
  · intro keys indices hrun
    obtain ⟨-, hall⟩ := (Lookups.mapM_ok_iff fun _ _ _ => index_keeps).1 hrun
    refine (Lookups.mapM_ok_iff fun _ _ _ => getItem_keeps).2 ⟨rfl, ?_⟩
    exact hall.flip.imp fun i key hi => getItem_of_index h hi
  · intro indices keys hrun
    obtain ⟨-, hall⟩ := (Lookups.mapM_ok_iff fun _ _ _ => getItem_keeps).1 hrun
    refine (Lookups.mapM_ok_iff fun _ _ _ => index_keeps).2 ⟨rfl, ?_⟩
    rw [List.forall₂_map_right_iff]
    exact hall.flip.imp fun key i hkey => index_of_getItem h hkey

end OrderedSet

/-! ## A set of numbers -/

open OrderedSet

def digits : OrderedSet Nat := ofList [3, 1, 4, 1, 5]

theorem inplace_agrees_digits :
    (digits.symmetricDifferenceUpdate [1, 2]).items = (digits.symmetricDifference [1, 2]).items ∧
    (digits.symmetricDifferenceUpdate [2, 2]).items ≠
    (digits.symmetricDifference [2, 2]).items := by
  have hdigits : digits.Mirrors := mirrors_ofList _
  exact ⟨(inplace_agrees hdigits [] [1, 2]).2.2.2.2 (by decide), fun h =>
    absurd ((inplace_agrees hdigits [] [2, 2]).2.2.2.1 h) (by decide)⟩

/-- An item that is added twice can be popped once. -/
theorem symmetricDifferenceUpdate_iff_digits : ¬ (digits.symmetricDifferenceUpdate [2, 2]).Mirrors ∧
    ∃ elems s', drain 5 (digits.symmetricDifferenceUpdate [1, 2, 6]) = .ok elems s' := by
  have hdigits : digits.Mirrors := mirrors_ofList _
  exact ⟨fun h => absurd ((symmetricDifferenceUpdate_iff hdigits [2, 2]).1.1 h) (by decide),
    (symmetricDifferenceUpdate_iff hdigits [1, 2, 6]).2.2 (by decide)⟩

theorem inclusion_iff_digits : digits.issubset [5, 1, 1, 3, 4, 9] = true ∧
    digits.issuperset [1, 1, 1, 1, 1] = false ∧ ∀ item ∈ [1, 1, 1, 1, 1], item ∈ digits.items := by
  have hdigits : digits.Mirrors := mirrors_ofList _
  refine ⟨(inclusion_iff hdigits _).1.2 (by decide), Bool.eq_false_iff.2 fun h => ?_, by decide⟩
  exact absurd ((inclusion_iff hdigits _).2.1 h).2 (by decide)

theorem roundtrips_digits : getItems [-1, 0] digits = .ok [5, 3] digits ∧ indexAll
    [5, 3] digits = .ok [3, 0] digits := by
  have hitems : getItems [-1, 0] digits = .ok [5, 3] digits := rfl
  exact ⟨hitems, (roundtrips (mirrors_ofList _ : digits.Mirrors)).2.2.2 _ _ hitems⟩

end OrderedSets

end DumbBrowser
