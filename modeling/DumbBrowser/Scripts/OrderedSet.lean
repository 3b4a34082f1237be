import DumbBrowser.Lib.Dict
import Mathlib.Data.Finset.Dedup

/-!
# Sets that remember their order

The class `OrderedSet` of `ordered_set`, method by method: a list of items, and a dictionary with
the place of each. Sequences and sets that a method is given are lists.
-/

namespace DumbBrowser.OrderedSets

open Python

structure OrderedSet (α : Type) where
  items : List α
  map : Dict α Int

abbrev Method (α β : Type) := Lookups (OrderedSet α) β

/-- What `__getstate__` returns: `(None,)`, or the list. -/
inductive Pickle (α : Type) where
  | noItems
  | items (items : List α)
deriving DecidableEq, Repr

/-- What a set is compared with: a sequence, an iterable that is not one, or what cannot be made a
set. -/
inductive Operand (α : Type) where
  | sequence (items : List α)
  | iterable (items : List α)
  | unhashed
deriving DecidableEq, Repr

namespace OrderedSet

variable {α : Type} [DecidableEq α]

/-! ## Queries -/

def new : OrderedSet α := ⟨[], .empty⟩

def len (s : OrderedSet α) : Nat := s.items.length

/-- The items that `__iter__` goes through. -/
def iter (s : OrderedSet α) : List α := s.items

/-- The items that `__reversed__` goes through. -/
def reversed (s : OrderedSet α) : List α := s.items.reverse

/-- `__eq__`: only a sequence has an order. -/
def eq (s : OrderedSet α) : Operand α → Bool
  | .sequence other => s.items = other
  | .iterable other => s.items.toFinset = other.toFinset
  | .unhashed => false

/-- `__contains__`. -/
def contains (s : OrderedSet α) (key : α) : Bool := s.map.contains key

/-- `self.map[key]`. -/
def lookup (key : α) : Method α Int := do
  let s ← get
  match s.map.get? key with
  | some i => pure i
  | none => throw .keyError

def index (key : α) : Method α Int := lookup key

/-- `index` of an iterable. -/
def indexAll (keys : List α) : Method α (List Int) := keys.mapM lookup

/-- `__getitem__` of an integer. -/
def getItem (index : Int) : Method α α := do
  let s ← get
  match (place? s.items.length index).bind (s.items[·]?) with
  | some item => pure item
  | none => throw .indexError

/-- `__getitem__` of an iterable. -/
def getItems (indices : List Int) : Method α (List α) := indices.mapM getItem

/-! ## Adding -/

/-- The assignments of `add`. -/
def insert (s : OrderedSet α) (key : α) : OrderedSet α :=
  if s.contains key then s
  else { items := s.items ++ [key], map := s.map.set key s.items.length }

def add (key : α) : Method α Int := do
  modify (·.insert key)
  lookup key

/-- The loop of `update`. -/
def updateFrom (itemIndex : Option Int) : List α → Method α (Option Int)
  | [] => pure itemIndex
  | item :: sequence => do
    let itemIndex ← add item
    updateFrom (some itemIndex) sequence

def update (sequence : List α) : Method α (Option Int) := updateFrom none sequence

/-- `__init__`: the `|=` of `MutableSet` adds the items one by one. -/
def ofList (iterable : List α) : OrderedSet α := iterable.foldl insert new

def copy (s : OrderedSet α) : OrderedSet α := ofList s.items

def getState (s : OrderedSet α) : Pickle α := if s.len = 0 then .noItems else .items s.items

def setState : Pickle α → OrderedSet α
  | .noItems => ofList []
  | .items state => ofList state

/-! ## Removing -/

/-- `del self.map[key]`. -/
def deleteKey (key : α) : Method α Unit := do
  let s ← get
  if s.map.contains key then set { s with map := s.map.erase key } else throw .keyError

/-- `del self.items[index]`. -/
def deleteItem (index : Int) : Method α Unit := do
  let s ← get
  match place? s.items.length index with
  | some n => set { s with items := s.items.eraseIdx n }
  | none => throw .indexError

def pop : Method α α := do
  let s ← get
  match s.items.getLast? with
  | none => throw .keyError
  | some elem => do
    set { s with items := s.items.dropLast }
    deleteKey elem
    pure elem

def discard (key : α) : Method α Unit := do
  let s ← get
  if s.contains key then do
    let i ← lookup key
    deleteItem i
    deleteKey key
    modify fun s => { s with map := s.map.updateWhere (fun v => i ≤ v) (fun v => v - 1) }
  else pure ()

/-- `remove` of `MutableSet`. -/
def remove (key : α) : Method α Unit := do
  let s ← get
  if s.contains key then discard key else throw .keyError

def clear (_ : OrderedSet α) : OrderedSet α := new

/-! ## Sets and sequences -/

def union (s : OrderedSet α) (sets : List (List α)) : OrderedSet α :=
  ofList (s.items ++ sets.flatten)

def intersection (s : OrderedSet α) (sets : List (List α)) : OrderedSet α :=
  if sets ≠ [] then ofList (s.items.filter fun item => sets.all (item ∈ ·)) else ofList s.items

def difference (s : OrderedSet α) (sets : List (List α)) : OrderedSet α :=
  if sets ≠ [] then ofList (s.items.filter fun item => !sets.any (item ∈ ·)) else ofList s.items

def issubset (s : OrderedSet α) (other : List α) : Bool :=
  if s.len > other.length then false else s.items.all (· ∈ other)

def issuperset (s : OrderedSet α) (other : List α) : Bool :=
  if s.len < other.length then false else other.all (s.contains ·)

def symmetricDifference (s : OrderedSet α) (other : List α) : OrderedSet α :=
  let diff1 := (ofList s.items).difference [other]
  let diff2 := (ofList other).difference [s.items]
  diff1.union [diff2.items]

/-- `_update_items`. -/
def updateItems (items : List α) : OrderedSet α :=
  { items, map := .ofPairs (items.zipIdx.map fun entry => (entry.1, (entry.2 : Int))) }

def differenceUpdate (s : OrderedSet α) (sets : List (List α)) : OrderedSet α :=
  updateItems (s.items.filter fun item => !sets.any (item ∈ ·))

def intersectionUpdate (s : OrderedSet α) (other : List α) : OrderedSet α :=
  updateItems (s.items.filter (· ∈ other))

def symmetricDifferenceUpdate (s : OrderedSet α) (other : List α) : OrderedSet α :=
  let itemsToAdd := other.filter fun item => !s.contains item
  updateItems (s.items.filter (· ∉ other) ++ itemsToAdd)

end OrderedSet

end DumbBrowser.OrderedSets
