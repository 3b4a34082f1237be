import DumbBrowser.Scripts.SetAlgebra

/-!
# Programs that use ordered sets

What the class is for, method by method: a set of keys, in the order in which they were added. A
program cannot tell the class from that.

* `Represents.run` : one method;
* `runAll_refines` : programs that use the class, and the same programs over ordered sets of keys.
-/

namespace DumbBrowser.OrderedSets

open Python

/-- A method that makes a new set. -/
inductive Maker (α : Type) where
  | copy
  | union (sets : List (List α))
  | intersection (sets : List (List α))
  | difference (sets : List (List α))
  | symmetricDifference (other : List α)
deriving DecidableEq, Repr

/-- The methods of the class. A key is not an iterable. -/
inductive Op (α : Type) where
  | len
  | iter
  | reversed
  | contains (key : α)
  | eq (other : Operand α)
  | index (key : α)
  | indexAll (keys : List α)
  | getItem (index : Int)
  | getItems (indices : List Int)
  | getState
  | issubset (other : List α)
  | issuperset (other : List α)
  | add (key : α)
  | update (sequence : List α)
  | pop
  | discard (key : α)
  | remove (key : α)
  | clear
  | differenceUpdate (sets : List (List α))
  | intersectionUpdate (other : List α)
  | symmetricDifferenceUpdate (other : List α)
  | setState (state : Pickle α)
  /-- A new set is made and looked at. -/
  | make (maker : Maker α)
  /-- A new set is made, and the program goes on with it. -/
  | become (maker : Maker α)
deriving DecidableEq, Repr

/-- What a method returns; a set, a list and an iterator by their items. -/
inductive Answer (α : Type) where
  | none
  | bool (b : Bool)
  | int (i : Int)
  | ints (is : List Int)
  | item (item : α)
  | items (items : List α)
  | state (state : Pickle α)
deriving DecidableEq, Repr

variable {α : Type} [DecidableEq α]

def Answer.ofIndex (itemIndex : Option Int) : Answer α := itemIndex.elim .none .int

/-! ## The methods -/

def Maker.run (s : OrderedSet α) : Maker α → OrderedSet α
  | copy => s.copy
  | union sets => s.union sets
  | intersection sets => s.intersection sets
  | difference sets => s.difference sets
  | symmetricDifference other => s.symmetricDifference other

def Op.run : Op α → Method α (Answer α)
  | len => (fun s => .int s.len) <$> get
  | iter => (fun s => .items s.iter) <$> get
  | reversed => (fun s => .items s.reversed) <$> get
  | contains key => (fun s => .bool (s.contains key)) <$> get
  | eq other => (fun s => .bool (s.eq other)) <$> get
  | index key => .int <$> OrderedSet.index key
  | indexAll keys => .ints <$> OrderedSet.indexAll keys
  | getItem i => .item <$> OrderedSet.getItem i
  | getItems indices => .items <$> OrderedSet.getItems indices
  | getState => (fun s => .state s.getState) <$> get
  | issubset other => (fun s => .bool (s.issubset other)) <$> get
  | issuperset other => (fun s => .bool (s.issuperset other)) <$> get
  | add key => .int <$> OrderedSet.add key
  | update sequence => .ofIndex <$> OrderedSet.update sequence
  | pop => .item <$> OrderedSet.pop
  | discard key => (fun _ => .none) <$> OrderedSet.discard key
  | remove key => (fun _ => .none) <$> OrderedSet.remove key
  | clear => (fun _ => .none) <$> modify OrderedSet.clear
  | differenceUpdate sets => (fun _ => .none) <$> modify (·.differenceUpdate sets)
  | intersectionUpdate other => (fun _ => .none) <$> modify (·.intersectionUpdate other)
  | symmetricDifferenceUpdate other =>
    (fun _ => .none) <$> modify (·.symmetricDifferenceUpdate other)
  | setState state => (fun _ => .none) <$> modify fun _ => OrderedSet.setState state
  | make maker => (fun s => .items (maker.run s).items) <$> get
  | become maker => (fun _ => .none) <$> modify maker.run

/-! ## What they are for -/

def Maker.spec (a : Python.OrderedSet α) : Maker α → Python.OrderedSet α
  | copy => a
  | union sets => sets.flatten.foldl Python.OrderedSet.add a
  | intersection sets => a.filter fun key => sets.all (key ∈ ·)
  | difference sets => a.filter fun key => !sets.any (key ∈ ·)
  | symmetricDifference other =>
    (other.filter (· ∉ a.items)).foldl Python.OrderedSet.add (a.filter (· ∉ other))

def Operand.spec (a : Python.OrderedSet α) : Operand α → Bool
  | sequence other => a.items = other
  | iterable other => a.items.toFinset = other.toFinset
  | unhashed => false

/-- What a method returns or raises of a set of keys, and the set after that. -/
def Op.spec (a : Python.OrderedSet α) : Op α → Except LookupError (Answer α) × Python.OrderedSet α
  | len => (.ok (.int a.items.length), a)
  | iter => (.ok (.items a.items), a)
  | reversed => (.ok (.items a.items.reverse), a)
  | contains key => (.ok (.bool (decide (key ∈ a.items))), a)
  | eq other => (.ok (.bool (other.spec a)), a)
  | index key => ((placeOf a key).map .int, a)
  | indexAll keys => ((keys.mapM (placeOf a)).map .ints, a)
  | getItem i => ((itemAt a i).map .item, a)
  | getItems indices => ((indices.mapM (itemAt a)).map .items, a)
  | getState => (.ok (.state (if a.items = [] then .noItems else .items a.items)), a)
  | issubset other => (.ok (.bool (decide (∀ key ∈ a.items, key ∈ other))), a)
  | issuperset other =>
    (.ok (.bool (decide ((∀ key ∈ other, key ∈ a.items) ∧ other.length ≤ a.items.length))), a)
  | add key => (.ok (.int ((a.add key).items.idxOf key)), a.add key)
  | update sequence =>
    let added := sequence.foldl Python.OrderedSet.add a
    (.ok (.ofIndex (sequence.getLast?.map fun key => (added.items.idxOf key : Int))), added)
  | pop =>
    match a.items.getLast? with
    | some key => (.ok (.item key), a.dropLast)
    | none => (.error .keyError, a)
  | discard key => (.ok .none, a.filter (· ≠ key))
  | remove key => if key ∈ a.items then (.ok .none, a.filter (· ≠ key)) else (.error .keyError, a)
  | clear => (.ok .none, .empty)
  | differenceUpdate sets => (.ok .none, (Maker.difference sets).spec a)
  | intersectionUpdate other => (.ok .none, (Maker.intersection [other]).spec a)
  | symmetricDifferenceUpdate other => (.ok .none, (Maker.symmetricDifference other).spec a)
  | setState .noItems => (.ok .none, .empty)
  | setState (.items state) => (.ok .none, state.foldl Python.OrderedSet.add .empty)
  | make maker => (.ok (.items (maker.spec a).items), a)
  | become maker => (.ok .none, maker.spec a)

/-- The items that a symmetric difference in place adds are distinct. -/
def Op.AddsDistinct (a : Python.OrderedSet α) : Op α → Prop
  | symmetricDifferenceUpdate other => (other.filter (· ∉ a.items)).Nodup
  | _ => True

instance (a : Python.OrderedSet α) (op : Op α) : Decidable (op.AddsDistinct a) := by
  unfold Op.AddsDistinct
  split <;> infer_instance

/-! ## One method -/

namespace Represents

variable {s : OrderedSet α} {a : Python.OrderedSet α} (h : Represents s a)
include h

omit h in
theorem ofList_of_items {items : List α} (hitems : (OrderedSet.ofList items).items = a.items) :
    Represents (OrderedSet.ofList items) a := ⟨OrderedSet.mirrors_ofList items, hitems⟩

/-- A new set is in step too. -/
theorem make (maker : Maker α) : Represents (maker.run s) (maker.spec a) := by
  have hself : Represents (OrderedSet.ofList s.items) a :=
    ofList_of_items ((items_ofList_of_nodup h.mirrors.nodup).trans h.items)
  cases maker with
  | copy => exact hself
  | union sets =>
    have hunion := hself.foldl_insert sets.flatten
    rwa [OrderedSet.ofList, ← List.foldl_append] at hunion
  | intersection sets =>
    refine ⟨?_, (OrderedSet.items_intersection h.mirrors sets).trans (congrArg _ h.items)⟩
    simp only [Maker.run, OrderedSet.intersection]
    split
    · exact OrderedSet.mirrors_ofList _
    · exact OrderedSet.mirrors_ofList _
  | difference sets =>
    refine ⟨?_, (OrderedSet.items_difference h.mirrors sets).trans (congrArg _ h.items)⟩
    simp only [Maker.run, OrderedSet.difference]
    split
    · exact OrderedSet.mirrors_ofList _
    · exact OrderedSet.mirrors_ofList _
  | symmetricDifference other =>
    refine ⟨OrderedSet.mirrors_ofList _, ?_⟩
    rw [Maker.run, OrderedSet.items_symmetricDifference h.mirrors, items_ofList, h.items]
    refine (Python.OrderedSet.foldl_add_append (a := a.filter (· ∉ other)) _ ?_ ?_).symm
    · exact (List.append_nil _).symm
    · intro key hkey hkept
      exact of_decide_eq_true (List.mem_filter.1 hkey).2 (List.mem_filter.1 hkept).1

theorem eq (other : Operand α) : s.eq other = other.spec a := by
  cases other <;> simp only [OrderedSet.eq, Operand.spec, h.items]

theorem getState : s.getState = if a.items = [] then .noItems else .items a.items := by
  simp only [OrderedSet.getState, OrderedSet.len, h.items, List.length_eq_zero_iff]

theorem issubset (other : List α) : s.issubset other = decide (∀ key ∈ a.items, key ∈ other) := by
  rw [Bool.eq_iff_iff, OrderedSet.issubset_iff h.mirrors, h.items, decide_eq_true_iff]

theorem issuperset (other : List α) :
    s.issuperset other = decide ((∀ key ∈ other, key ∈ a.items) ∧
      other.length ≤ a.items.length) := by
  rw [Bool.eq_iff_iff, OrderedSet.issuperset_iff h.mirrors, h.items, decide_eq_true_iff]

/-- **One method.** It returns or raises what its purpose says, and leaves a set that represents
what it should. -/
theorem run (op : Op α) (hop : op.AddsDistinct a) :
    (outcome (op.run s)).1 = (op.spec a).1 ∧ Represents (outcome (op.run s)).2 (op.spec a).2 := by
  have hlooked (answer : OrderedSet α → Answer α) (answer' : Answer α)
    (hanswer : answer s = answer') :
      (outcome ((answer <$> (get : Method α (OrderedSet α))) s)).1 = .ok answer' ∧
        Represents (outcome ((answer <$> (get : Method α (OrderedSet α))) s)).2 a :=
    ⟨congrArg Except.ok hanswer, h⟩
  cases op with
  | len => exact hlooked _ _ (by rw [OrderedSet.len, h.items])
  | iter => exact hlooked _ _ (congrArg Answer.items h.items)
  | reversed => exact hlooked _ _ (by rw [OrderedSet.reversed, h.items])
  | contains key => exact hlooked _ _ (congrArg Answer.bool (h.contains key))
  | eq other => exact hlooked _ _ (congrArg Answer.bool (h.eq other))
  | index key =>
    rw [Op.run, outcome_map, h.index]
    exact ⟨rfl, h⟩
  | indexAll keys =>
    rw [Op.run, outcome_map, h.indexAll]
    exact ⟨rfl, h⟩
  | getItem i =>
    rw [Op.run, outcome_map, h.getItem]
    exact ⟨rfl, h⟩
  | getItems indices =>
    rw [Op.run, outcome_map, h.getItems]
    exact ⟨rfl, h⟩
  | getState => exact hlooked _ _ (congrArg Answer.state h.getState)
  | issubset other => exact hlooked _ _ (congrArg Answer.bool (h.issubset other))
  | issuperset other => exact hlooked _ _ (congrArg Answer.bool (h.issuperset other))
  | make maker => exact hlooked _ _ (congrArg Answer.items (h.make maker).items)
  | become maker => exact ⟨rfl, h.make maker⟩
  | add key =>
    rw [Op.run, outcome_map, h.add_run]
    exact ⟨rfl, h.insert key⟩
  | update sequence =>
    rw [Op.run, outcome_map, OrderedSet.update, h.updateFrom_run, Option.or_none]
    exact ⟨rfl, h.foldl_insert sequence⟩
  | pop =>
    rw [Op.run, outcome_map, Op.spec]
    rcases h.pop with ⟨hrun, hlast⟩ | ⟨key, s', hrun, hlast, h'⟩
    · rw [hrun, hlast]
      exact ⟨rfl, h⟩
    · rw [hrun, hlast]
      exact ⟨rfl, h'⟩
  | discard key =>
    obtain ⟨s', hrun, h'⟩ := h.discard key
    rw [Op.run, outcome_map, hrun]
    exact ⟨rfl, h'⟩
  | remove key =>
    rw [Op.run, outcome_map, Op.spec]
    by_cases hkey : key ∈ a.items
    · obtain ⟨s', hrun, h'⟩ := h.discard key
      have hremove : OrderedSet.remove key s = .ok () s' := by
        simp only [OrderedSet.remove, Lookups.get_bind, h.contains,
          decide_eq_true hkey, if_true, hrun]
      rw [hremove, if_pos hkey]
      exact ⟨rfl, h'⟩
    · have hremove : OrderedSet.remove key s = .error .keyError s := by
        simp only [OrderedSet.remove, Lookups.get_bind, h.contains,
          decide_eq_false hkey]
        rfl
      rw [hremove, if_neg hkey]
      exact ⟨rfl, h⟩
  | clear => exact ⟨rfl, .new⟩
  | differenceUpdate sets => exact ⟨rfl, updateItems (congrArg _ h.items)⟩
  | intersectionUpdate other =>
    refine ⟨rfl, updateItems ?_⟩
    simp [Op.spec, Maker.spec, Python.OrderedSet.filter, h.items]
  | symmetricDifferenceUpdate other => exact ⟨rfl, h.symmetricDifferenceUpdate hop⟩
  | setState state =>
    cases state with
    | noItems => exact ⟨rfl, .new⟩
    | items state => exact ⟨rfl, Represents.new.foldl_insert state⟩

end Represents

/-! ## Programs -/

/-- A program that calls methods one after the other, and goes on when one raises. -/
def runAll : List (Op α) → OrderedSet α → List (Except LookupError (Answer α)) × OrderedSet α
  | [], s => ([], s)
  | op :: ops, s =>
    let after := outcome (op.run s)
    let rest := runAll ops after.2
    (after.1 :: rest.1, rest.2)

def specAll : List (Op α) → Python.OrderedSet α →
    List (Except LookupError (Answer α)) × Python.OrderedSet α
  | [], a => ([], a)
  | op :: ops, a =>
    let rest := specAll ops (op.spec a).2
    ((op.spec a).1 :: rest.1, rest.2)

/-- Each symmetric difference in place adds distinct items. -/
def AllDistinct : List (Op α) → Python.OrderedSet α → Prop
  | [], _ => True
  | op :: ops, a => op.AddsDistinct a ∧ AllDistinct ops (op.spec a).2

theorem Represents.runAll {ops : List (Op α)} {s : OrderedSet α} {a : Python.OrderedSet α}
    (h : Represents s a) (hops : AllDistinct ops a) :
    (runAll ops s).1 = (specAll ops a).1 ∧ Represents (OrderedSets.runAll ops s).2
    (specAll ops a).2 := by
  induction ops generalizing s a with
  | nil => exact ⟨rfl, h⟩
  | cons op ops ih =>
    obtain ⟨hanswer, hnext⟩ := h.run op hops.1
    obtain ⟨hanswers, hlast⟩ := ih hnext hops.2
    refine ⟨?_, hlast⟩
    rw [OrderedSets.runAll, specAll, hanswer, hanswers]

end DumbBrowser.OrderedSets
