import DumbBrowser.Lib.Python

/-!
# Dictionaries

A Python dictionary keeps its items in the order in which their keys were first assigned, and no key
twice. Lists are indexed from either end.

* `Dict.get?_set`, `Dict.get?_erase`, `Dict.get?_ofPairs` : what is looked up after an assignment, a
  deletion, and a comprehension.
* `place?_eq_some` : which place an index stands for.
-/

namespace DumbBrowser.Python

/-- What raises when a key or an index is looked up. -/
inductive LookupError where
  | keyError
  | indexError
deriving DecidableEq, Repr

/-- Statements over a state that stays as it is when a lookup raises. -/
abbrev Lookups (σ α : Type) := EStateM LookupError σ α

section Lookups
variable {σ α β : Type} {x : Lookups σ α} {f : α → Lookups σ β} {s t : σ}

theorem Lookups.get_bind {g : σ → Lookups σ β} : ((get : Lookups σ σ) >>= g) s = g s s := rfl

theorem Lookups.set_bind {g : PUnit → Lookups σ β} :
    ((set t : Lookups σ PUnit) >>= g) s = g ⟨⟩ t := rfl

theorem Lookups.bind_of_ok {a : α} (h : x s = .ok a t) : (x >>= f) s = f a t := by
  change EStateM.bind x f s = _
  simp [EStateM.bind, h]

theorem Lookups.bind_of_error {e : LookupError} (h : x s = .error e t) :
    (x >>= f) s = .error e t := by
  change EStateM.bind x f s = _
  simp [EStateM.bind, h]

theorem Lookups.bind_pure_ok_iff {g : α → β} :
    (∃ b t, (x >>= fun a => pure (g a)) s = .ok b t) ↔ ∃ a t, x s = .ok a t := by
  change (∃ b t, EStateM.bind x _ s = _) ↔ _
  unfold EStateM.bind
  cases x s <;> simp [pure, EStateM.pure]

/-- What was returned or raised, and the state after that. -/
def outcome {ε σ α : Type} : EStateM.Result ε σ α → Except ε α × σ
  | .ok a s => (.ok a, s)
  | .error e s => (.error e, s)

theorem outcome_map (g : α → β) (m : Lookups σ α) (s : σ) :
    outcome ((g <$> m) s) = ((outcome (m s)).1.map g, (outcome (m s)).2) := by
  change outcome (EStateM.map g m s) = _
  unfold EStateM.map
  cases m s <;> rfl

/-- Many lookups in a state that none of them changes. -/
theorem Lookups.mapM_outcome {g : α → Except LookupError β}
    (h : ∀ a, outcome (f a s) = (g a, s)) (as : List α) :
    outcome ((as.mapM f : Lookups σ (List β)) s) = (as.mapM g, s) := by
  induction as with
  | nil => rfl
  | cons a as ih =>
    have hhead := h a
    rw [List.mapM_cons, List.mapM_cons]
    cases hfirst : f a s with
    | error e t =>
      rw [hfirst] at hhead
      obtain ⟨hg, rfl⟩ := Prod.mk.inj hhead
      rw [Lookups.bind_of_error hfirst, ← hg]
      rfl
    | ok b t =>
      rw [hfirst] at hhead
      obtain ⟨hg, rfl⟩ := Prod.mk.inj hhead
      rw [Lookups.bind_of_ok hfirst, ← hg]
      cases hrest : (as.mapM f : Lookups σ (List β)) t with
      | error e u =>
        rw [hrest] at ih
        obtain ⟨hgs, rfl⟩ := Prod.mk.inj ih
        rw [Lookups.bind_of_error hrest, ← hgs]
        rfl
      | ok bs u =>
        rw [hrest] at ih
        obtain ⟨hgs, rfl⟩ := Prod.mk.inj ih
        rw [Lookups.bind_of_ok hrest, ← hgs]
        rfl

/-- Many lookups that leave the state as it is. -/
theorem Lookups.mapM_ok_iff {f : α → Lookups σ β} (hkeep : ∀ a b t, f a s = .ok b t → t = s)
    {as : List α} {bs : List β} :
    (as.mapM f : Lookups σ (List β)) s = .ok bs t ↔
    t = s ∧ List.Forall₂ (fun a b => f a s = .ok b s) as bs := by
  induction as generalizing bs t with
  | nil =>
    rw [List.mapM_nil]
    constructor
    · rintro ⟨⟩
      exact ⟨rfl, .nil⟩
    · rintro ⟨rfl, ⟨⟩⟩
      rfl
  | cons a as ih =>
    rw [List.mapM_cons]
    cases hfirst : f a s with
    | error e u =>
      rw [Lookups.bind_of_error hfirst]
      refine iff_of_false (fun hrun => by cases hrun) fun ⟨_, hall⟩ => ?_
      cases hall with
      | cons hhead _ => cases hfirst.symm.trans hhead
    | ok b u =>
      obtain rfl := hkeep a b u hfirst
      rw [Lookups.bind_of_ok hfirst]
      cases hrest : (as.mapM f : Lookups σ (List β)) u with
      | error e v =>
        rw [Lookups.bind_of_error hrest]
        refine iff_of_false (fun hrun => by cases hrun) fun ⟨_, hall⟩ => ?_
        cases hall with
        | cons _ htail => cases hrest.symm.trans (ih.2 ⟨rfl, htail⟩)
      | ok cs v =>
        obtain ⟨rfl, hall⟩ := ih.1 hrest
        rw [Lookups.bind_of_ok hrest]
        constructor
        · rintro ⟨⟩
          exact ⟨rfl, .cons hfirst hall⟩
        · rintro ⟨rfl, hall'⟩
          cases hall' with
          | cons hhead htail =>
            cases hfirst.symm.trans hhead
            cases hrest.symm.trans (ih.2 ⟨rfl, htail⟩)
            rfl

end Lookups

/-! ## Dictionaries -/

structure Dict (α β : Type) where
  entries : List (α × β)
  nodup : (entries.map Prod.fst).Nodup

namespace Dict

variable {α β : Type} [DecidableEq α]

theorem keys_setItem (key : α) (value : β) (entries : List (α × β)) :
    (setItem key value entries).map Prod.fst =
    if key ∈ entries.map Prod.fst then entries.map Prod.fst else entries.map Prod.fst ++ [key] := by
  induction entries with
  | nil => rfl
  | cons entry entries ih =>
    unfold setItem
    by_cases h : entry.1 = key
    · simp [h]
    · have hne : key ≠ entry.1 := fun e => h e.symm
      rw [if_neg h, List.map_cons, ih, List.map_cons]
      by_cases hmem : key ∈ entries.map Prod.fst
      · rw [if_pos hmem, if_pos (List.mem_cons_of_mem _ hmem)]
      · rw [if_neg hmem, if_neg (List.not_mem_cons_of_ne_of_not_mem hne hmem), List.cons_append]

def empty : Dict α β := ⟨[], List.nodup_nil⟩

def get? (d : Dict α β) (key : α) : Option β := (d.entries.find? (·.1 = key)).map Prod.snd

/-- `key in d`. -/
def contains (d : Dict α β) (key : α) : Bool := (d.get? key).isSome

/-- `d[key] = value`. -/
def set (d : Dict α β) (key : α) (value : β) : Dict α β where
  entries := setItem key value d.entries
  nodup := by
    rw [keys_setItem]
    split
    · exact d.nodup
    · next hnew => exact List.nodup_append.2 ⟨d.nodup, List.nodup_singleton _, fun a ha b hb hab =>
        hnew (List.mem_singleton.1 hb ▸ hab ▸ ha)⟩

/-- `del d[key]`. -/
def erase (d : Dict α β) (key : α) : Dict α β where
  entries := d.entries.filter (·.1 ≠ key)
  nodup := d.nodup.sublist (List.filter_sublist.map Prod.fst)

/-- A dictionary comprehension. -/
def ofPairs (pairs : List (α × β)) : Dict α β :=
  pairs.foldl (fun d pair => d.set pair.1 pair.2) empty

/-! ## Looking up -/

@[simp] theorem get?_empty (key : α) : (empty : Dict α β).get? key = none := rfl

theorem find?_setItem (key : α) (value : β) (key' : α) (entries : List (α × β)) :
    ((setItem key value entries).find? (·.1 = key')).map Prod.snd =
      if key' = key then some value else (entries.find? (·.1 = key')).map Prod.snd := by
  induction entries with
  | nil =>
    by_cases h : key' = key
    · simp [setItem, h]
    · have hne : key ≠ key' := fun e => h e.symm
      simp [setItem, h, hne]
  | cons entry entries ih =>
    unfold setItem
    by_cases he : entry.1 = key
    · by_cases h : key' = key
      · simp [he, h]
      · have hne : key ≠ key' := fun e => h e.symm
        simp [he, h, hne]
    · rw [if_neg he]
      by_cases h : entry.1 = key'
      · have hne : key' ≠ key := fun e => he (h.trans e)
        simp [h, hne]
      · simpa [List.find?_cons, h] using ih

@[simp] theorem get?_set (d : Dict α β) (key : α) (value : β) (key' : α) :
    (d.set key value).get? key' = if key' = key then some value else d.get? key' :=
  find?_setItem key value key' d.entries

@[simp] theorem get?_erase (d : Dict α β) (key key' : α) :
    (d.erase key).get? key' = if key' = key then none else d.get? key' := by
  unfold get? erase
  rw [List.find?_filter]
  by_cases h : key' = key
  · rw [if_pos h, Option.map_eq_none_iff, List.find?_eq_none]
    intro entry _
    simp [h]
  · rw [if_neg h]
    congr 2
    funext entry
    by_cases he : entry.1 = key'
    · simp [he, h]
    · simp [he]

theorem get?_foldl_set (pairs : List (α × β)) (d : Dict α β) (key : α) :
    (pairs.foldl (fun d pair => d.set pair.1 pair.2) d).get? key =
      ((pairs.reverse.find? (·.1 = key)).map Prod.snd).or (d.get? key) := by
  induction pairs generalizing d with
  | nil => simp
  | cons pair pairs ih =>
    rw [List.foldl_cons, ih, get?_set, List.reverse_cons, List.find?_append]
    by_cases h : key = pair.1
    · cases pairs.reverse.find? (·.1 = key) <;> simp [h]
    · have hne : pair.1 ≠ key := fun e => h e.symm
      cases pairs.reverse.find? (·.1 = key) <;> simp [h, hne]

/-- The last assignment to a key counts. -/
theorem get?_ofPairs (pairs : List (α × β)) (key : α) :
    (ofPairs pairs).get? key = (pairs.reverse.find? (·.1 = key)).map Prod.snd := by
  rw [ofPairs, get?_foldl_set, get?_empty, Option.or_none]

theorem get?_eq_some {d : Dict α β} {key : α} {value : β} : d.get? key = some value ↔
    (key, value) ∈ d.entries := by
  unfold get?
  constructor
  · intro h
    obtain ⟨entry, hfind, rfl⟩ := Option.map_eq_some_iff.1 h
    have hkey : entry.1 = key := by simpa using List.find?_some hfind
    rw [← hkey]
    exact List.mem_of_find?_eq_some hfind
  · intro h
    obtain ⟨entry, hfind⟩ : ∃ entry, d.entries.find? (·.1 = key) = some entry := by
      rw [← Option.isSome_iff_exists, List.find?_isSome]
      exact ⟨_, h, by simp⟩
    have hkey : entry.1 = key := by simpa using List.find?_some hfind
    have hsame : entry = (key, value) :=
      List.inj_on_of_nodup_map d.nodup (List.mem_of_find?_eq_some hfind) h hkey
    rw [hfind, hsame]
    rfl

/-! ## Changing the values -/

/-- A loop over the items that assigns to the key that it is at, where the value asks for it. -/
def updateWhere (d : Dict α β) (p : β → Bool) (f : β → β) : Dict α β :=
  d.entries.foldl (fun d entry => if p entry.2 then d.set entry.1 (f entry.2) else d) d

theorem get?_foldl_update (p : β → Bool) (f : β → β) (key : α) :
    ∀ (entries : List (α × β)) (d : Dict α β),
    (entries.map Prod.fst).Nodup → (∀ entry ∈ entries, d.get? entry.1 = some entry.2) →
    (entries.foldl (fun d entry => if p entry.2 then d.set entry.1 (f entry.2) else d) d).get? key =
      if key ∈ entries.map Prod.fst then (d.get? key).map
        (fun value => if p value then f value else value)
      else d.get? key
  | [], d, _, _ => by simp
  | entry :: entries, d, hnodup, hget => by
    rw [List.map_cons, List.nodup_cons] at hnodup
    have hentry := hget entry List.mem_cons_self
    have hother (x : α × β) (hx : x ∈ entries) : x.1 ≠ entry.1 := fun e =>
      hnodup.1 (e ▸ List.mem_map.2 ⟨x, hx, rfl⟩)
    rw [List.foldl_cons, get?_foldl_update p f key entries _ hnodup.2]
    · by_cases hkey : key = entry.1
      · have hmem : key ∈ (entry :: entries).map Prod.fst :=
          List.mem_map.2 ⟨entry, List.mem_cons_self, hkey.symm⟩
        rw [if_pos hmem, if_neg (hkey ▸ hnodup.1), hkey, hentry]
        cases hp : p entry.2 <;> simp [hp, hentry]
      · have hsame : (if p entry.2 then d.set entry.1 (f entry.2) else d).get?
            key = d.get? key := by
          split
          · rw [get?_set, if_neg hkey]
          · rfl
        have hcons : key ∈ (entry :: entries).map Prod.fst ↔ key ∈ entries.map Prod.fst := by simp [hkey]
        simp only [hsame, hcons]
    · intro x hx
      have hx' := hget x (List.mem_cons_of_mem _ hx)
      split
      · rw [get?_set, if_neg (hother x hx), hx']
      · exact hx'

@[simp] theorem get?_updateWhere (d : Dict α β) (p : β → Bool) (f : β → β) (key : α) :
    (d.updateWhere p f).get? key = (d.get? key).map
    (fun value => if p value then f value else value) := by
  unfold updateWhere
  rw [get?_foldl_update p f key d.entries d d.nodup fun entry hentry => get?_eq_some.2 hentry]
  split
  · rfl
  · next hnone =>
    have hget : d.get? key = none := by
      rw [Option.eq_none_iff_forall_not_mem]
      exact fun value hvalue => hnone (List.mem_map.2 ⟨_, get?_eq_some.1 hvalue, rfl⟩)
    rw [hget]
    rfl

end Dict

/-! ## Indices -/

/-- The place in a list that an index stands for; negative ones count from the end. -/
def place? (length : Nat) (index : Int) : Option Nat :=
  if 0 ≤ index ∧ index < length then some index.toNat
  else if index < 0 ∧ 0 ≤ index + length then some (index + length).toNat
  else none

theorem place?_natCast {length n : Nat} (h : n < length) : place? length n = some n := by
  rw [place?, if_pos ⟨Int.natCast_nonneg n, Int.ofNat_lt.2 h⟩, Int.toNat_natCast]

theorem place?_lt {length : Nat} {index : Int} {n : Nat} (h : place? length index = some n) : n < length := by
  unfold place? at h
  split at h
  · next hin => cases h; omega
  · split at h
    · next hin => cases h; omega
    · cases h

/-- An index of a list, counted from either end, is the place it stands for up to the length. -/
theorem place?_eq_some {length : Nat} {index : Int} {n : Nat} (h : place? length index = some n) :
    (index = n ∨ index + length = n) ∧ n < length := by
  refine ⟨?_, place?_lt h⟩
  unfold place? at h
  split at h
  · next hin =>
    cases h
    exact .inl (by omega)
  · split at h
    · next hin =>
      cases h
      exact .inr (by omega)
    · cases h

end DumbBrowser.Python
