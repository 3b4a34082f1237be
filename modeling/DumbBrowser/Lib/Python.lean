import Mathlib.Data.List.Nodup

/-!
# Python

Strings and byte strings as lists, text files, ordered sets, exceptions that keep the state they
were raised in, and the exit status of a process.

* `readLines_intercalate` : lines that were joined and written are read back;
* `decode_eq_some` : a string decoded from UTF-8 encodes to the bytes it came from;
* `bind_eq_ok` : what a script that did not raise has done.
-/

namespace DumbBrowser.Python

abbrev Str := List Char

abbrev Bytes := List UInt8

/-! ## Exceptions -/

inductive PyError where
  | fileNotFoundError
  | fileExistsError
  | osError
  | valueError
  | indexError
  | unicodeDecodeError
  deriving DecidableEq, Repr

/-- Statements over a state that stays as it is when one of them raises. -/
abbrev Script (σ α : Type) := EStateM PyError σ α

section Scripts
variable {σ α β : Type}

/-- The state in which a script returned or raised. -/
def finalState : EStateM.Result PyError σ α → σ
  | .ok _ s => s
  | .error _ s => s

theorem bind_eq_ok {x : Script σ α} {f : α → Script σ β} {s t : σ} {b : β} :
    (x >>= f) s = .ok b t ↔ ∃ a u, x s = .ok a u ∧ f a u = .ok b t := by
  change EStateM.bind x f s = _ ↔ _
  unfold EStateM.bind
  cases x s with
  | ok a u => simp
  | error e u => simp

theorem bind_of_ok {x : Script σ α} {f : α → Script σ β} {s u : σ} {a : α} (h : x s = .ok a u) :
    (x >>= f) s = f a u := by
  change EStateM.bind x f s = _
  simp [EStateM.bind, h]

theorem bind_of_error {x : Script σ α} {f : α → Script σ β} {s u : σ} {e : PyError}
    (h : x s = .error e u) :
    (x >>= f) s = .error e u := by
  change EStateM.bind x f s = _
  simp [EStateM.bind, h]

theorem get_bind {f : σ → Script σ α} {s : σ} : ((get : Script σ σ) >>= f) s = f s s := rfl

theorem modify_bind {g : σ → σ} {f : PUnit → Script σ α} {s : σ} :
    ((modify g : Script σ PUnit) >>= f) s = f ⟨⟩ (g s) := rfl

theorem liftExcept_eq_ok {x : Except PyError α} {s t : σ} {a : α} :
    (liftExcept x : Script σ α) s = .ok a t ↔ x = .ok a ∧ t = s := by
  cases x with
  | ok b =>
    constructor
    · intro h
      cases h
      exact ⟨rfl, rfl⟩
    · rintro ⟨h, rfl⟩
      cases h
      rfl
  | error e => exact iff_of_false nofun fun h => nomatch h.1

end Scripts

/-! ## Strings -/

def replace (old new : Char) (s : Str) : Str := s.map fun c => if c = old then new else c

theorem replace_append (old new : Char) (s t : Str) :
    replace old new (s ++ t) = replace old new s ++ replace old new t :=
  List.map_append

theorem old_not_mem_replace {old new : Char} (h : new ≠ old) (s : Str) :
    old ∉ replace old new s := by
  intro hm
  obtain ⟨c, -, hc⟩ := List.mem_map.1 hm
  by_cases hco : c = old
  · rw [if_pos hco] at hc
    exact h hc
  · rw [if_neg hco] at hc
    exact hco hc

theorem replace_replace {old new : Char} {s : Str} (h : new ∉ s) :
    replace new old (replace old new s) = s := by
  rw [replace, replace, List.map_map]
  conv_rhs => rw [← List.map_id s]
  refine List.map_congr_left fun c hc => ?_
  have hne : c ≠ new := fun e => h (e ▸ hc)
  by_cases hco : c = old
  · simp [hco]
  · simp [hco, hne]

/-- `str.isspace` of one character. -/
def isSpace (c : Char) : Bool :=
  let n := c.toNat
  (9 ≤ n && n ≤ 13) || (28 ≤ n && n ≤ 32) || n = 0x85 || n = 0xa0 || n = 0x1680 ||
    (0x2000 ≤ n && n ≤ 0x200a) ||
    n = 0x2028 || n = 0x2029 || n = 0x202f || n = 0x205f || n = 0x3000

def strip (s : Str) : Str := ((s.dropWhile isSpace).reverse.dropWhile isSpace).reverse

/-! ## Text files -/

/-- What reading a file in text mode does to the ends of its lines. -/
def universalNewlines : Str → Str
  | '\r' :: '\n' :: cs => '\n' :: universalNewlines cs
  | '\r' :: cs => '\n' :: universalNewlines cs
  | c :: cs => c :: universalNewlines cs
  | [] => []

def readLines (text : Str) : List Str := (universalNewlines text).splitOn '\n'

theorem cr_not_mem_universalNewlines (text : Str) : '\r' ∉ universalNewlines text := by
  fun_induction universalNewlines text with
  | case1 cs ih => simp [ih]
  | case2 cs _ ih => simp [ih]
  | case3 c cs _ hc ih =>
    simp only [List.mem_cons, not_or]
    exact ⟨fun h => hc h.symm, ih⟩
  | case4 => simp

theorem universalNewlines_of_cr_not_mem {text : Str} (h : '\r' ∉ text) :
    universalNewlines text = text := by
  fun_induction universalNewlines text with
  | case1 cs ih => simp at h
  | case2 cs _ ih => simp at h
  | case3 c cs _ _ ih => rw [ih fun hm => h (List.mem_cons_of_mem c hm)]
  | case4 => rfl

theorem mem_universalNewlines {c : Char} (hr : c ≠ '\r') (hn : c ≠ '\n') {text : Str} :
    c ∈ universalNewlines text ↔ c ∈ text := by
  fun_induction universalNewlines text with
  | case1 cs ih => simp [ih, hr, hn]
  | case2 cs _ ih => simp [ih, hr, hn]
  | case3 d cs _ _ ih => simp [ih]
  | case4 => rfl

theorem mem_intercalate {α : Type} {sep : List α} {x : α} : ∀ {ls : List (List α)},
    x ∈ sep.intercalate ls → x ∈ sep ∨ ∃ l ∈ ls, x ∈ l
  | [], h => by simp at h
  | [l], h => .inr ⟨l, List.mem_singleton_self l, by simpa using h⟩
  | l :: l' :: ls, h => by
    rw [List.intercalate_cons_cons, List.mem_append, List.mem_append] at h
    rcases h with (h | h) | h
    · exact .inr ⟨l, List.mem_cons_self, h⟩
    · exact .inl h
    · obtain h | ⟨m, hm, hx⟩ := mem_intercalate h
      · exact .inl h
      · exact .inr ⟨m, List.mem_cons_of_mem l hm, hx⟩

theorem mem_intercalate_of_mem {α : Type} {sep l : List α} {x : α} (hx : x ∈ l) :
    ∀ {ls : List (List α)},
    l ∈ ls → x ∈ sep.intercalate ls
  | [m], h => by
    rw [List.mem_singleton] at h
    simpa [← h] using hx
  | m :: m' :: ls, h => by
    rw [List.intercalate_cons_cons, List.mem_append, List.mem_append]
    rcases List.mem_cons.1 h with rfl | h
    · exact .inl (.inl hx)
    · exact .inr (mem_intercalate_of_mem hx h)

theorem cr_not_mem_of_mem_readLines {text l : Str} (h : l ∈ readLines text) : '\r' ∉ l := by
  intro hr
  have htext : '\r' ∈ List.intercalate ['\n'] (readLines text) := mem_intercalate_of_mem hr h
  rw [readLines, List.intercalate_splitOn] at htext
  exact cr_not_mem_universalNewlines text htext

/-- A character of the text that does not end a line is in one of the lines. -/
theorem exists_mem_readLines {c : Char} (hr : c ≠ '\r') (hn : c ≠ '\n')
    {text : Str} (h : c ∈ text) :
    ∃ l ∈ readLines text, c ∈ l := by
  have htext : c ∈ List.intercalate ['\n'] (readLines text) := by
    rwa [readLines, List.intercalate_splitOn, mem_universalNewlines hr hn]
  obtain h | h := mem_intercalate htext
  · exact absurd (List.mem_singleton.1 h) hn
  · exact h

/-- **What was joined is read back.** -/
theorem readLines_intercalate {ls : List Str} (hr : ∀ l ∈ ls, '\r' ∉ l)
    (hn : ∀ l ∈ ls, '\n' ∉ l) (hne : ls ≠ []) :
    readLines (List.intercalate ['\n'] ls) = ls := by
  have htext : '\r' ∉ List.intercalate ['\n'] ls := by
    intro h
    obtain h | ⟨l, hl, h⟩ := mem_intercalate h
    · simp at h
    · exact hr l hl h
  rw [readLines, universalNewlines_of_cr_not_mem htext, List.splitOn_intercalate '\n' hn hne]

/-! ## Byte strings -/

def decode (bs : Bytes) : Except PyError Str :=
  match String.fromUTF8? ⟨bs.toArray⟩ with
  | some s => .ok s.toList
  | none => .error .unicodeDecodeError

theorem decode_eq_ok {bs : Bytes} {s : Str} (h : decode bs = .ok s) :
    s.flatMap String.utf8EncodeChar = bs := by
  unfold decode String.fromUTF8? at h
  by_cases hv : ByteArray.IsValidUTF8 ⟨bs.toArray⟩
  · rw [dif_pos hv] at h
    obtain rfl := Except.ok.inj h
    have henc : (String.fromUTF8 ⟨bs.toArray⟩ hv).toList.utf8Encode = ⟨bs.toArray⟩ :=
      String.utf8Encode_toList
    have hdata := congrArg ByteArray.data henc
    rw [List.utf8Encode, List.data_toByteArray] at hdata
    simpa using congrArg Array.toList hdata
  · rw [dif_neg hv] at h
    cases h

theorem newline_not_mem_of_decode {bs : Bytes} {s : Str} (h : decode bs = .ok s)
    (hn : 10 ∉ bs) : '\n' ∉ s := by
  intro hs
  rw [← decode_eq_ok h] at hn
  exact hn (List.mem_flatMap.2 ⟨'\n', hs, by decide⟩)

def ascii (s : String) : Bytes := s.toList.map Char.toUInt8

/-- `bytes.split`, with `skip` bytes of a separator still to come. -/
def splitFrom (sep : Bytes) : Nat → Bytes → List Bytes
  | _, [] => [[]]
  | skip + 1, _ :: bs => splitFrom sep skip bs
  | 0, b :: bs =>
    if sep.isPrefixOf (b :: bs) then [] :: splitFrom sep (sep.length - 1) bs
    else (splitFrom sep 0 bs).modifyHead (b :: ·)

def split (bs sep : Bytes) : List Bytes := splitFrom sep 0 bs

/-- The longest start of a line that `after` follows. -/
def greedyBefore (after : Bytes) : Bytes → Option Bytes
  | [] => if after = [] then some [] else none
  | b :: bs =>
    match if b = 10 then none else greedyBefore after bs with
    | some found => some (b :: found)
    | none => if after.isPrefixOf (b :: bs) then some [] else none

/-- The leftmost match of `(?<=before)(.*)(?=after)`. -/
def findBetween (before after : Bytes) : Bytes → Option Bytes
  | [] => none
  | b :: bs =>
    match if before.isPrefixOf (b :: bs) then greedyBefore after ((b :: bs).drop before.length) else none with
    | some found => some found
    | none => findBetween before after bs

theorem newline_not_mem_of_greedyBefore {after : Bytes} : ∀ {bs found : Bytes},
    greedyBefore after bs = some found → 10 ∉ found := by
  intro bs
  induction bs with
  | nil =>
    intro found h
    rw [greedyBefore, Option.ite_none_right_eq_some] at h
    rw [← Option.some.inj h.2]
    exact List.not_mem_nil
  | cons b bs ih =>
    intro found h
    rw [greedyBefore] at h
    split at h
    · next rest hrest =>
      obtain ⟨hb, hrest⟩ := Option.ite_none_left_eq_some.1 hrest
      cases h
      simp only [List.mem_cons, not_or]
      exact ⟨fun e => hb e.symm, ih hrest⟩
    · rw [Option.ite_none_right_eq_some] at h
      rw [← Option.some.inj h.2]
      exact List.not_mem_nil

theorem newline_not_mem_of_findBetween {before after : Bytes} : ∀ {bs found : Bytes},
    findBetween before after bs = some found → 10 ∉ found := by
  intro bs
  induction bs with
  | nil => intro found h; cases h
  | cons b bs ih =>
    intro found h
    rw [findBetween] at h
    split at h
    · next found' hfound =>
      cases h
      exact newline_not_mem_of_greedyBefore (Option.ite_none_right_eq_some.1 hfound).2
    · exact ih h

/-! ## Paths -/

/-- `os.path.join` of two components. -/
def join (path component : Str) : Str :=
  if component.head? = some '/' then component
  else if path = [] ∨ path.getLast? = some '/' then path ++ component
  else path ++ '/' :: component

/-! ## Ordered sets -/

/-- The keys of an `OrderedSet`, in the order in which they were added. -/
structure OrderedSet (α : Type) where
  items : List α
  nodup : items.Nodup

namespace OrderedSet

variable {α : Type} [DecidableEq α]

def empty : OrderedSet α := ⟨[], List.nodup_nil⟩

def add (s : OrderedSet α) (key : α) : OrderedSet α :=
  if h : key ∈ s.items then s
  else ⟨s.items.concat key, (List.nodup_concat s.items key).2 ⟨h, s.nodup⟩⟩

theorem items_add (s : OrderedSet α) (key : α) :
    (s.add key).items = if key ∈ s.items then s.items else s.items ++ [key] := by
  unfold add
  split
  · rfl
  · exact List.concat_eq_append

@[simp] theorem mem_add {s : OrderedSet α} {key x : α} : x ∈ (s.add key).items ↔
    x ∈ s.items ∨ x = key := by
  rw [items_add]
  by_cases h : key ∈ s.items
  · rw [if_pos h]
    exact ⟨.inl, fun hx => hx.elim id fun hk => hk ▸ h⟩
  · simp [if_neg h]

theorem mem_foldl_add {keys : List α} {x : α} : ∀ {s : OrderedSet α},
    x ∈ (keys.foldl add s).items ↔ x ∈ s.items ∨ x ∈ keys := by
  induction keys with
  | nil => simp
  | cons key keys ih =>
    intro s
    rw [List.foldl_cons, ih, mem_add, List.mem_cons, or_assoc]

/-- New keys are added in their order. -/
theorem items_foldl_add {keys : List α} : ∀ {s : OrderedSet α}, (s.items ++ keys).Nodup →
    (keys.foldl add s).items = s.items ++ keys := by
  induction keys with
  | nil => exact fun _ => (List.append_nil _).symm
  | cons key keys ih =>
    intro s h
    have hnew : key ∉ s.items :=
      fun hmem => (List.nodup_append.1 h).2.2 key hmem key List.mem_cons_self rfl
    have hadd : (s.add key).items = s.items ++ [key] := by rw [items_add, if_neg hnew]
    rw [List.foldl_cons, ih, hadd, List.append_assoc, List.singleton_append]
    rwa [hadd, List.append_assoc, List.singleton_append]

/-- The keys that meet a condition, in their order. -/
def filter (s : OrderedSet α) (p : α → Bool) : OrderedSet α :=
  ⟨s.items.filter p, s.nodup.sublist List.filter_sublist⟩

/-- All keys but the last one added. -/
def dropLast (s : OrderedSet α) : OrderedSet α :=
  ⟨s.items.dropLast, s.nodup.sublist (List.dropLast_sublist _)⟩

end OrderedSet

/-! ## Dictionaries -/

/-- Assignment to a key of an `OrderedDict`. -/
def setItem {α β : Type} [DecidableEq α] (key : α) (value : β) : List (α × β) → List (α × β)
  | [] => [(key, value)]
  | item :: items => if item.1 = key then (key, value) :: items else item :: setItem key value items

/-! ## Exit status -/

/-- What `sys.exit` is given. -/
inductive ExitArg where
  | int (n : Int)
  | bool (b : Bool)
  deriving DecidableEq, Repr

/-- The status of the process: the argument's low eight bits, where `True` counts as 1. -/
def ExitArg.status : ExitArg → Int
  | .int n => n % 256
  | .bool b => b.toInt % 256

end DumbBrowser.Python
