import DumbBrowser.Lib.Regex

/-!
# Reading a regular expression

A pattern is read character by character by a machine with a stack of open groups (`step`):
literals, `.`, `^`, `$`, `[...]`, `\`, `|`, `(...)`, `(?:...)`, `*`, `+`, `?`, `{n,m}` and their
lazy forms.

* `parse` : the expression of a pattern, `none` for anything else (flags, classes with a name, `\b`
  and `\w` among it);
* `step_under` : what stands below the group being read does not matter;
* `parseAlts_join`, `foldlM_group` : joined patterns are the alternatives of one pattern, and a
  pattern in parentheses is one item.
-/

namespace DumbBrowser.Regex

/-! ## The machine -/

/-- A group being read: the finished alternatives and the items of the current one, last first. -/
structure Frame where
  alts : List Regex
  cur : List Regex
deriving DecidableEq, Repr

/-- The alternatives of a group, in order. -/
def Frame.alternatives (f : Frame) : List Regex := (seqs f.cur.reverse :: f.alts).reverse

inductive Quantifier where
  | star
  | plus
  | opt
  | count (min : Nat) (max : Option Nat)
deriving DecidableEq, Repr

def Quantifier.apply (q : Quantifier) (greedy : Bool) (r : Regex) : Regex :=
  match q with
  | star => Regex.star greedy r
  | plus => Regex.plus greedy r
  | opt => Regex.opt greedy r
  | count min max => Regex.count greedy r min max

/-- A `[...]` being read: `pending` may become the lower end of a range, which `dash` announces. -/
structure SetReader where
  start : Bool := true
  negated : Bool := false
  ranges : List (Char × Char) := []
  pending : Option Char := none
  dash : Bool := false
  escaped : Bool := false
deriving DecidableEq, Repr

inductive Mode where
  | normal
  /-- After a finished repetition, which may not be repeated. -/
  | repeated
  | quantifier (q : Quantifier)
  | group
  | groupFlags
  | escape
  | set (r : SetReader)
  | count (min : Option Nat) (comma : Bool) (max : Option Nat)
deriving DecidableEq, Repr

structure State where
  mode : Mode
  /-- The open groups, innermost first. -/
  frames : List Frame
deriving DecidableEq, Repr

def State.init : State := ⟨.normal, [⟨[], []⟩]⟩

def push (r : Regex) : List Frame → Option (List Frame)
  | [] => none
  | f :: fs => some ({ f with cur := r :: f.cur } :: fs)

def bar : List Frame → Option (List Frame)
  | [] => none
  | f :: fs => some (⟨seqs f.cur.reverse :: f.alts, []⟩ :: fs)

def openGroup : List Frame → Option (List Frame)
  | [] => none
  | f :: fs => some (⟨[], []⟩ :: f :: fs)

def closeGroup : List Frame → Option (List Frame)
  | f :: g :: fs => push (alts f.alternatives) (g :: fs)
  | _ => none

def quantify (q : Quantifier) (greedy : Bool) : List Frame → Option (List Frame)
  | ⟨as, r :: rs⟩ :: fs => some (⟨as, q.apply greedy r :: rs⟩ :: fs)
  | _ => none

def SetReader.flush (r : SetReader) : List (Char × Char) :=
  let ranges := match r.pending with
    | some p => r.ranges ++ [(p, p)]
    | none => r.ranges
  if r.dash then ranges ++ [('-', '-')] else ranges

def SetReader.item (r : SetReader) (c : Char) : Option SetReader :=
  match r.dash, r.pending with
  | true, some lo =>
    if lo ≤ c then
      some { r with start := false, escaped := false, ranges := r.ranges ++ [(lo, c)], pending := none,
                    dash := false }
    else none
  | _, _ =>
    some { r with start := false, escaped := false, ranges := r.flush, pending := some c, dash := false }

/-- One character inside `[...]`: the reader, or the ranges when it ends. -/
def SetReader.step (r : SetReader) (c : Char) : Option (SetReader ⊕ List (Char × Char)) :=
  if r.escaped then
    if c.isAlphanum then none else (r.item c).map Sum.inl
  else if c = '\\' then some (Sum.inl { r with start := false, escaped := true })
  else if c = '^' && r.start && !r.negated then some (Sum.inl { r with negated := true })
  else if c = ']' && !r.start then some (Sum.inr r.flush)
  else if c = '[' then none
  else if c = '-' && r.pending.isSome && !r.dash then some (Sum.inl { r with dash := true })
  else (r.item c).map Sum.inl

def escaped (foldCase : Bool) (c : Char) : Option Regex :=
  if c = 'd' then some (Regex.set ⟨false, false, [('0', '9')]⟩)
  else if c.isAlphanum || c = '_' || 128 ≤ c.toNat then none
  else some (lit foldCase c)

def isQuantifier (c : Char) : Bool := c = '*' || c = '+' || c = '?' || c = '{'

def maxCount : Nat := 1000

def stepCount (min : Option Nat) (comma : Bool) (max : Option Nat) (c : Char) : Option Mode :=
  if c.isDigit then
    let d := c.toNat - '0'.toNat
    if comma then some (.count min true (some (max.getD 0 * 10 + d)))
    else some (.count (some (min.getD 0 * 10 + d)) false max)
  else if c = ',' then if comma then none else some (.count min true none)
  else if c = '}' then
    match min with
    | none => none
    | some n =>
      let m := if comma then max else some n
      if n ≤ maxCount && (m.all fun m => n ≤ m && m ≤ maxCount) then some (.quantifier (.count n m)) else none
  else none

/-- What a character does outside brackets and escapes. -/
inductive Action where
  | enter (m : Mode)
  | item (r : Regex)
  | bar
  | close

def action (foldCase : Bool) (c : Char) : Action :=
  if c = '(' then .enter .group
  else if c = ')' then .close
  else if c = '|' then .bar
  else if c = '[' then .enter (.set {})
  else if c = '.' then .item (Regex.set ⟨true, false, [('\n', '\n')]⟩)
  else if c = '^' then .item bot
  else if c = '$' then .item eot
  else if c = '\\' then .enter .escape
  else if c = '*' then .enter (.quantifier .star)
  else if c = '+' then .enter (.quantifier .plus)
  else if c = '?' then .enter (.quantifier .opt)
  else if c = '{' then .enter (.count none false none)
  else .item (lit foldCase c)

def stepNormal (foldCase : Bool) (fs : List Frame) (c : Char) : Option State :=
  match action foldCase c with
  | .enter m => some ⟨m, fs⟩
  | .item r => (push r fs).map (⟨.normal, ·⟩)
  | .bar => (bar fs).map (⟨.normal, ·⟩)
  | .close => (closeGroup fs).map (⟨.normal, ·⟩)

def step (foldCase : Bool) (st : State) (c : Char) : Option State :=
  match st.mode with
  | .normal => stepNormal foldCase st.frames c
  | .repeated => if isQuantifier c then none else stepNormal foldCase st.frames c
  | .quantifier q =>
    if c = '?' then (quantify q false st.frames).map (⟨.repeated, ·⟩)
    else if isQuantifier c then none
    else (quantify q true st.frames).bind (stepNormal foldCase · c)
  | .group =>
    if c = '?' then some ⟨.groupFlags, st.frames⟩
    else (openGroup st.frames).bind (stepNormal foldCase · c)
  | .groupFlags => if c = ':' then (openGroup st.frames).map (⟨.normal, ·⟩) else none
  | .escape =>
    match escaped foldCase c with
    | none => none
    | some r => (push r st.frames).map (⟨.normal, ·⟩)
  | .set r =>
    match r.step c with
    | none => none
    | some (.inl r') => some ⟨.set r', st.frames⟩
    | some (.inr ranges) =>
      (push (Regex.set ⟨r.negated, foldCase, ranges⟩) st.frames).map (⟨.normal, ·⟩)
  | .count min comma max => (stepCount min comma max c).map (⟨·, st.frames⟩)

/-- The frames once nothing is pending. -/
def State.settle (st : State) : Option (List Frame) :=
  match st.mode with
  | .normal | .repeated => some st.frames
  | .quantifier q => quantify q true st.frames
  | _ => none

def State.finish (st : State) : Option (List Regex) :=
  st.settle.bind fun fs =>
    match fs with
    | [f] => some f.alternatives
    | _ => none

/-- The top-level alternatives of a pattern. -/
def parseAlts (foldCase : Bool) (s : List Char) : Option (List Regex) :=
  (s.foldlM (step foldCase) State.init).bind State.finish

def parse (foldCase : Bool) (s : List Char) : Option Regex := (parseAlts foldCase s).map alts

/-! ## What stands below the group being read -/

/-- The bottom frame gets the earlier alternatives `as`, and the frames `fs` stand below it. -/
def under (as : List Regex) (fs : List Frame) : List Frame → List Frame
  | [] => fs
  | [f] => { f with alts := f.alts ++ as } :: fs
  | f :: g :: rest => f :: under as fs (g :: rest)

section Under
variable {as : List Regex} {fs F F' : List Frame}

theorem push_under {r : Regex} (h : push r F = some F') :
    push r (under as fs F) = some (under as fs F') := by
  rcases F with _ | ⟨f, _ | ⟨g, rest⟩⟩ <;> simp_all [push] <;> subst h <;> simp [under]

theorem bar_under (h : bar F = some F') : bar (under as fs F) = some (under as fs F') := by
  rcases F with _ | ⟨f, _ | ⟨g, rest⟩⟩ <;> simp_all [bar] <;> subst h <;> simp [under]

theorem openGroup_under (h : openGroup F = some F') :
    openGroup (under as fs F) = some (under as fs F') := by
  rcases F with _ | ⟨f, _ | ⟨g, rest⟩⟩ <;> simp_all [openGroup] <;> subst h <;> simp [under]

theorem quantify_under {q : Quantifier} {g : Bool} (h : quantify q g F = some F') :
    quantify q g (under as fs F) = some (under as fs F') := by
  rcases F with _ | ⟨⟨a, _ | ⟨r, rs⟩⟩, _ | ⟨f, rest⟩⟩ <;> simp_all [quantify] <;>
    subst h <;> simp [under]

theorem closeGroup_under (h : closeGroup F = some F') :
    closeGroup (under as fs F) = some (under as fs F') := by
  rcases F with _ | ⟨f, _ | ⟨g, rest⟩⟩
  · simp [closeGroup] at h
  · simp [closeGroup] at h
  · have : push (alts f.alternatives) (under as fs (g :: rest)) = some (under as fs F') := push_under h
    rcases rest with _ | ⟨g', rest⟩ <;> exact this

theorem map_under {op : List Frame → Option (List Frame)} {m m' : Mode}
    (hop : ∀ F', op F = some F' → op (under as fs F) = some (under as fs F'))
    (h : (op F).map (State.mk m) = some ⟨m', F'⟩) :
    (op (under as fs F)).map (State.mk m) = some ⟨m', under as fs F'⟩ := by
  obtain ⟨G, hG, heq⟩ := Option.map_eq_some_iff.mp h
  cases heq
  rw [hop _ hG]
  rfl

theorem stepNormal_under {f : Bool} {c : Char} {m' : Mode} (h : stepNormal f F c = some ⟨m', F'⟩) :
    stepNormal f (under as fs F) c = some ⟨m', under as fs F'⟩ := by
  unfold stepNormal at h ⊢
  cases ha : action f c with
  | enter m =>
    rw [ha] at h
    cases h
    rfl
  | item r => exact map_under (fun _ => push_under) (by rwa [ha] at h)
  | bar => exact map_under (fun _ => bar_under) (by rwa [ha] at h)
  | close => exact map_under (fun _ => closeGroup_under) (by rwa [ha] at h)

theorem bind_stepNormal_under {op : List Frame → Option (List Frame)} {f : Bool}
    {c : Char} {m' : Mode} (hop : ∀ F', op F = some F' → op (under as fs F) = some (under as fs F'))
    (h : (op F).bind (stepNormal f · c) = some ⟨m', F'⟩) :
    (op (under as fs F)).bind (stepNormal f · c) = some ⟨m', under as fs F'⟩ := by
  obtain ⟨G, hG, hstep⟩ := Option.bind_eq_some_iff.mp h
  rw [hop _ hG]
  exact stepNormal_under hstep

/-- A step reads and writes the open groups only from the innermost one outwards. -/
theorem step_under {f : Bool} {c : Char} {m m' : Mode} (h : step f ⟨m, F⟩ c = some ⟨m', F'⟩) :
    step f ⟨m, under as fs F⟩ c = some ⟨m', under as fs F'⟩ := by
  unfold step at h ⊢
  cases m with
  | normal => exact stepNormal_under h
  | repeated =>
    dsimp only at h ⊢
    split_ifs at h ⊢
    exact stepNormal_under h
  | quantifier q =>
    dsimp only at h ⊢
    split_ifs at h ⊢
    · exact map_under (fun _ => quantify_under) h
    · exact bind_stepNormal_under (fun _ => quantify_under) h
  | group =>
    dsimp only at h ⊢
    split_ifs at h ⊢
    · cases h
      rfl
    · exact bind_stepNormal_under (fun _ => openGroup_under) h
  | groupFlags =>
    dsimp only at h ⊢
    split_ifs at h ⊢
    exact map_under (fun _ => openGroup_under) h
  | escape =>
    dsimp only at h ⊢
    split at h
    · cases h
    · exact map_under (fun _ => push_under) h
  | set r =>
    dsimp only at h ⊢
    split at h
    · cases h
    · cases h
      rfl
    · exact map_under (fun _ => push_under) h
  | count min comma max =>
    dsimp only at h ⊢
    obtain ⟨n, hn, heq⟩ := Option.map_eq_some_iff.mp h
    cases heq
    rw [hn]
    rfl

theorem foldlM_under {f : Bool} : ∀ (s : List Char) {m m' : Mode} {F F' : List Frame},
    s.foldlM (step f) ⟨m, F⟩ = some ⟨m', F'⟩ →
    s.foldlM (step f) ⟨m, under as fs F⟩ = some ⟨m', under as fs F'⟩
  | [], m, m', F, F', h => by
    cases h
    rfl
  | c :: s, m, m', F, F', h => by
    rw [List.foldlM_cons] at h ⊢
    obtain ⟨⟨n, G⟩, hstep, hrest⟩ := Option.bind_eq_some_iff.mp h
    rw [step_under hstep]
    exact foldlM_under s hrest

end Under

/-! ## Patterns inside a group -/

/-- `|` and `)` end the current alternative whatever was pending. -/
theorem step_of_settle {f : Bool} {st : State} {F : List Frame} {c : Char} (h : st.settle = some F)
    (hq : isQuantifier c = false) : step f st c = stepNormal f F c := by
  have hc : c ≠ '?' := by
    rintro rfl
    exact absurd hq (by decide)
  rcases st with ⟨m, G⟩
  cases m <;> simp_all [State.settle, step]

theorem settle_under {st : State} {F : List Frame} (as : List Regex) (fs : List Frame)
    (h : st.settle = some F) : (⟨st.mode, under as fs st.frames⟩ : State).settle =
    some (under as fs F) := by
  rcases st with ⟨m, G⟩
  cases m <;> simp_all [State.settle]
  exact quantify_under h

/-- The frame of a group whose finished alternatives are `as` and whose current one is empty. -/
def fresh (as : List Regex) : Frame := ⟨as, []⟩

/-- Reading a whole pattern inside a group. -/
theorem foldlM_pattern {f : Bool} {s : List Char} {rs : List Regex} (h : parseAlts f s = some rs)
    (as : List Regex) (fs : List Frame) :
    ∃ st g, s.foldlM (step f) ⟨.normal, fresh as :: fs⟩ = some st ∧ st.settle = some (g :: fs) ∧
      g.alternatives = as.reverse ++ rs := by
  obtain ⟨st, hst, hfin⟩ := Option.bind_eq_some_iff.mp h
  obtain ⟨F, hF, hrs⟩ := Option.bind_eq_some_iff.mp hfin
  rcases F with _ | ⟨g, _ | ⟨g', F⟩⟩
  · simp at hrs
  · cases hrs
    refine ⟨⟨st.mode, under as fs st.frames⟩, { g with alts := g.alts ++ as }, ?_,
      settle_under as fs hF, ?_⟩
    · exact foldlM_under s (m := .normal) (F := [⟨[], []⟩]) hst
    · simp [Frame.alternatives]
  · simp at hrs

/-- Patterns joined by `|` inside a group are the alternatives of that group. -/
theorem foldlM_join {f : Bool} : ∀ (ss : List (List Char)) (s : List Char) (rss : List (List Regex))
    (rs : List Regex), parseAlts f s = some rs → ss.mapM (parseAlts f) = some rss →
    ∀ (as : List Regex) (fs : List Frame), ∃ st g,
      (List.intercalate ['|'] (s :: ss)).foldlM (step f) ⟨.normal, fresh as :: fs⟩ = some st ∧
      st.settle = some (g :: fs) ∧ g.alternatives = as.reverse ++ (rs ++ rss.flatten)
  | [], s, rss, rs, hs, hss, as, fs => by
    cases hss
    simpa using foldlM_pattern hs as fs
  | t :: ss, s, rss, rs, hs, hss, as, fs => by
    obtain ⟨st, g, hst, hset, hg⟩ := foldlM_pattern hs as fs
    rw [List.mapM_cons] at hss
    obtain ⟨ts, hts, hrest⟩ := Option.bind_eq_some_iff.mp hss
    obtain ⟨tss, htss, heq⟩ := Option.bind_eq_some_iff.mp hrest
    cases heq
    obtain ⟨st', g', hst', hset', hg'⟩ := foldlM_join ss t tss ts hts htss g.alternatives.reverse fs
    refine ⟨st', g', ?_, hset', by simp [hg', hg]⟩
    have hbar : step f st '|' = some ⟨.normal, fresh g.alternatives.reverse :: fs⟩ := by
      rw [step_of_settle hset (by decide)]
      simp [stepNormal, show action f '|' = .bar from rfl, bar, fresh, Frame.alternatives]
    rw [show List.intercalate ['|'] (s :: t :: ss) = s ++ '|' :: List.intercalate ['|'] (t :: ss) by
      simp [List.intercalate, List.intersperse], List.foldlM_append, hst]
    simp only [Option.bind_eq_bind, Option.bind_some, List.foldlM_cons, hbar]
    exact hst'

/-- No pattern starts with a quantifier. -/
theorem parseAlts_question (f : Bool) (s : List Char) : parseAlts f ('?' :: s) = none := by
  have hstep : step f State.init '?' = some ⟨.quantifier .opt, [⟨[], []⟩]⟩ := rfl
  rw [parseAlts, List.foldlM_cons, hstep]
  cases s with
  | nil => rfl
  | cons c s =>
    have hnone : step f ⟨.quantifier .opt, [⟨[], []⟩]⟩ c = none := by
      simp [step, quantify]
    simp [List.foldlM_cons, hnone]

theorem foldlM_of_group {f : Bool} {F : List Frame} (hF : F ≠ []) {c : Char}
    (hc : c ≠ '?') (w : List Char) :
    (c :: w).foldlM (step f) ⟨.group, F⟩ = (c :: w).foldlM (step f) ⟨.normal, fresh [] :: F⟩ := by
  obtain ⟨g, F, rfl⟩ := List.exists_cons_of_ne_nil hF
  simp only [List.foldlM_cons]
  congr 1
  simp [step, hc, openGroup, fresh]

/-- Patterns joined by `|` are the alternatives of one pattern. -/
theorem parseAlts_join {f : Bool} {s : List Char} {ss : List (List Char)} {rs : List Regex}
    {rss : List (List Regex)} (hs : parseAlts f s = some rs)
    (hss : ss.mapM (parseAlts f) = some rss) :
    parseAlts f (List.intercalate ['|'] (s :: ss)) = some (rs ++ rss.flatten) := by
  obtain ⟨st, g, hst, hset, hg⟩ := foldlM_join ss s rss rs hs hss [] []
  have hst' : (List.intercalate ['|'] (s :: ss)).foldlM (step f) State.init = some st := hst
  rw [parseAlts, hst', Option.bind_some, State.finish, hset, Option.bind_some]
  exact congrArg some hg

/-- A pattern in parentheses is one item. -/
theorem foldlM_group {f : Bool} {s : List Char} {rs : List Regex} (hs : parseAlts f s = some rs)
    {F : List Frame} (hF : F ≠ []) :
    ('(' :: s ++ [')']).foldlM (step f) ⟨.normal, F⟩ = (push (alts rs) F).map (⟨.normal, ·⟩) := by
  obtain ⟨st, g, hst, hset, hg⟩ := foldlM_pattern hs [] F
  have hopen : step f ⟨.normal, F⟩ '(' = some ⟨.group, F⟩ := rfl
  have hclose : step f st ')' = (push (alts rs) F).map (⟨.normal, ·⟩) := by
    obtain ⟨g₀, F, rfl⟩ := List.exists_cons_of_ne_nil hF
    rw [step_of_settle hset (by decide), stepNormal, show action f ')' = .close from rfl]
    simpa [closeGroup] using congrArg (fun l =>
      Option.map (State.mk .normal) (push (alts l) (g₀ :: F))) hg
  obtain ⟨c, w, hcw, hc⟩ : ∃ c w, s ++ [')'] = c :: w ∧ c ≠ '?' := by
    rcases s with _ | ⟨c, s⟩
    · exact ⟨')', [], rfl, by decide⟩
    · refine ⟨c, s ++ [')'], rfl, ?_⟩
      rintro rfl
      rw [parseAlts_question] at hs
      cases hs
  rw [List.cons_append, List.foldlM_cons, hopen]
  simp only [Option.bind_eq_bind, Option.bind_some]
  rw [hcw, foldlM_of_group hF hc, ← hcw, List.foldlM_append, hst]
  simpa using hclose

end DumbBrowser.Regex
