import ResultLint.Repair

/-!
# Recovery by competing readings

An item of a list that cannot be read is recovered the way a parser that keeps several versions
of its stack recovers. A version is a reading of the item with its repairs so far; the versions
go on side by side, and each turn every version moves on, in step: the first moves a token past
the furthest point reached so far, and each of the others up to that point.

* A version that cannot take the next token stops. At the end of a turn the first stopped
  version, when no version before it still goes on, is repaired; the other stopped versions are
  dropped. The repair makes up to three versions: one with a token taken as missing, when the
  reading then takes the next token; one returned to the nearest state below it, up to sixteen
  trees deep, that takes the next token, the trees above that state becoming an error; and one
  that passes over the next token.
* A version passing over tokens returns, at each later token, to the nearest of those states
  that takes it, and also goes on passing over it. A run of invalid characters is only passed
  over. The state at the bottom is the list: the item is given up there, and the list goes on
  at that token.
* Versions are compared by the cost of their repairs. One that is not passing over tokens and
  costs less removes one that is. Of two that are not, the cheaper removes the other once the
  difference, times one more than the nodes the cheaper has read since its last repair, passes
  1600. At most six versions are kept, and a repair is not made when a version already exists
  that it could not beat. A version that has finished or given up its item at the end of the
  text is done, and is compared no more.
* At the end of the text a version can only return to the list. One that cannot is stranded:
  the whole text becomes one error, which costs as the error over all that the version holds
  and passed over.

An error costs 500, one per byte, thirty per line it spans and 100 per tree it holds; the tokens
it passed over cost more the more there are (`nestedCost`). A missing token costs 610. A version
passing over tokens pays for the error it is in only when it returns; until then it costs what
the tokens passed over cost.

The nodes a version has read since its last repair count its trees: those of an error it
returned over, and one for each token it takes that leaves a node. A version passing over tokens
counts the node that holds them and the trees among them.
-/

namespace ResultLint
namespace Recovery

/-- The most versions kept at once. -/
def versionLimit : Nat := 6

/-- The most trees a version may give up to return to a state below it. -/
def summaryDepth : Nat := 16

/-- The cost difference past which the cheaper of two reading versions removes the other, for
each node the cheaper has read since its last repair. -/
def costMargin : Nat := 1600

/-- A state a version passing over tokens may return to: the number of tokens held in it, the
trees above it when the failure was met, and the byte it stands at. -/
structure Standpoint where
  held : Nat
  depth : Nat
  byte : Nat
  deriving Repr, Inhabited, DecidableEq

/-- What a version is doing. -/
inductive Phase where
  /-- Taking tokens. -/
  | reading
  /-- Stopped before a token it cannot take. -/
  | stuck
  /-- Passing over tokens: the states it may return to, the positions of the tokens passed over,
  and its cost before the failure. -/
  | skipping (states : List Standpoint) (skipped : List Nat) (base : Nat)
  /-- The item is read and ends before the next token. -/
  | finished
  /-- The item is given up; the list goes on at the next token. -/
  | abandoned
  /-- The text ended with no state to return to. -/
  | stranded
  /-- Removed. -/
  | halted
  deriving Repr, Inhabited

/-- Where the reading of a version ends: the number of tokens it holds then, and whether its
item is finished there rather than stopped. -/
structure Goal where
  size : Nat
  done : Bool
  deriving Repr, Inhabited

/-- A version of an item's reading: the tokens it holds, missing ones included; the position of
the next token of the text; the byte it stands at; the cost of its repairs; the nodes read since
its last repair; what it is doing; when it was made; whether it reads the next token after a
statement boundary that it returned to; and where its reading ends, once that is worked out. -/
structure Version (τ : Type) where
  held : Array τ
  next : Nat
  byte : Nat
  cost : Nat
  nodes : Nat
  phase : Phase
  order : Nat
  lead : Bool := false
  goal : Option Goal := none
  deriving Inhabited

/-- How a version stands in a comparison: its cost, whether it is in an error, and the nodes
read since its last repair. -/
structure Standing where
  cost : Nat
  inError : Bool
  nodes : Nat
  deriving Repr, Inhabited

/-- The outcome of comparing two versions. -/
inductive Preference where
  | takeFirst
  | preferFirst
  | neither
  | preferSecond
  | takeSecond
  deriving DecidableEq, Repr, Inhabited

/-- Compares two versions. A version out of error that costs less removes one in an error; of
two on the same footing, the cheaper removes the other once the difference is large enough for
the nodes the cheaper has read. -/
def Standing.compare (a b : Standing) : Preference :=
  if !a.inError && b.inError then
    if a.cost < b.cost then .takeFirst else .preferFirst
  else if a.inError && !b.inError then
    if b.cost < a.cost then .takeSecond else .preferSecond
  else if a.cost < b.cost then
    if (b.cost - a.cost) * (1 + a.nodes) > costMargin then .takeFirst else .preferFirst
  else if b.cost < a.cost then
    if (a.cost - b.cost) * (1 + b.nodes) > costMargin then .takeSecond else .preferSecond
  else .neither

namespace Version

variable {τ : Type}

/-- How the version stands: a stopped version is in an error that has not been paid for yet. -/
def standing (v : Version τ) : Standing :=
  match v.phase with
  | .stuck => ⟨v.cost + repairCosts.recovery, true, v.nodes⟩
  | .skipping .. => ⟨v.cost, true, v.nodes⟩
  | _ => ⟨v.cost, false, v.nodes⟩

/-- Whether the version goes on: it reads, passes over tokens, or has finished or given up its
item and goes on with the list. -/
def live (v : Version τ) : Bool :=
  match v.phase with
  | .reading | .skipping .. | .finished | .abandoned => true
  | _ => false

/-- Whether the version still works on its item. -/
def pending (v : Version τ) : Bool :=
  match v.phase with
  | .reading | .stuck | .skipping .. => true
  | _ => false

/-- Whether the version is removed. -/
def isHalted (v : Version τ) : Bool :=
  match v.phase with
  | .halted => true
  | _ => false

/-- Whether the version is stopped. -/
def isStuck (v : Version τ) : Bool :=
  match v.phase with
  | .stuck => true
  | _ => false

/-- Whether the version is reading. -/
def isReading (v : Version τ) : Bool :=
  match v.phase with
  | .reading => true
  | _ => false

end Version

/-- What recovery needs to know of a language: its tokens, how one item is read from the start
of a token array, which tokens may come right after an item, the number of line breaks between
two bytes, whether a statement boundary may stand before a token, a token as read after such a
boundary, and which tokens, passed over, are no tree of their own. -/
structure Setting (τ κ : Type) where
  shape : TokenShape τ
  read : ItemReading τ κ
  follows : τ → Bool
  rows : Nat → Nat → Nat
  boundary : τ → Bool
  afterBoundary : τ → τ
  hidden : τ → Bool
  silent : τ → Bool

section

variable {τ κ : Type} [BEq τ] (st : Setting τ κ) (toks : Array τ)

/-- The tokens of the text from position `i` on, the first read after a statement boundary when
`lead` is set. -/
def restFrom (i : Nat) (lead : Bool) : Array τ :=
  let rest := toks.extract i toks.size
  if lead then rest.modify 0 st.afterBoundary else rest

/-- Whether a version holding `held` takes the token at position `i` of the text, read after a
statement boundary when `lead` is set. -/
def takes (held : Array τ) (i : Nat) (lead : Bool) : Bool :=
  match st.read (held ++ restFrom st toks i lead) 0 with
  | .ok (_, p) => p > held.size
  | .error stop => stop.reach > held.size

/-- Whether the tokens held read as a whole item. -/
def ends (held : Array τ) : Bool :=
  match st.read held 0 with
  | .ok (_, p) => p ≥ held.size
  | .error _ => false

/-- The item that a token array starts, finished with tokens taken as missing past every token,
each the first closing token that the reading takes. -/
def finishedItem : Nat → Array τ → Option (Tree κ)
  | 0, _ => none
  | fuel + 1, arr =>
    match st.read arr 0 with
    | .ok (x, _) => x
    | .error _ =>
      let pos := pastTokens st.shape arr
      let grown := closingCandidates.findSome? fun (text, isName) =>
        let more := arr.push (st.shape.missing text isName pos)
        match st.read more 0 with
        | .ok _ => some more
        | .error stop => if stop.reach ≥ more.size then some more else none
      match grown with
      | some more => finishedItem fuel more
      | none => none

/-- The positions among the tokens `held` where a tree starts: the first token, and each token
that starts a tree of the item finished with missing tokens; when it cannot be finished, every
token is a tree. -/
def treeMarks (held : Array τ) : List Nat :=
  let sh := st.shape
  let limit := (held.back?.map sh.stop).getD 0
  let starts : List Nat :=
    match finishedItem st (held.size + 8) held with
    | some t => (frontier sh held.toList limit t).1
    | none => held.toList.map sh.start
  (List.range held.size).filter fun i =>
    i == 0 || ((held[i]?.map fun t => starts.contains (sh.start t)).getD false)

/-- The states a version holding `held` may return to, nearest first: the one it stands in,
then one below each tree of what it holds, down to the list, whose byte is `itemByte`; none
more than sixteen trees down. -/
def standpoints (itemByte : Nat) (held : Array τ) : List Standpoint :=
  let sh := st.shape
  let limit := (held.back?.map sh.stop).getD itemByte
  let marks := treeMarks st held
  let byteAt (m : Nat) : Nat := if m == 0 then itemByte else ((held[m - 1]?.map sh.stop).getD itemByte)
  let below := (List.range marks.length).map fun k =>
    let m := marks.getD (marks.length - 1 - k) 0
    ({ held := m, depth := k + 1, byte := byteAt m } : Standpoint)
  (({ held := held.size, depth := 0, byte := limit } : Standpoint) :: below).filter
    (·.depth ≤ summaryDepth)

/-- The cost of an error from byte `first` to byte `last` holding `trees` trees. -/
def errorCost (first last trees : Nat) : Nat :=
  repairCosts.recovery + (last - first) + repairCosts.line * st.rows first last +
    repairCosts.tree * trees

/-- Whether a token passed over is a tree of the error that holds it: a run of invalid
characters and a hidden token are not. -/
def isTree (t : τ) : Bool := !st.shape.invalid t && !st.hidden t

/-- The number of trees among the tokens of the text at positions `ps`. -/
def treesAmong (ps : List Nat) : Nat :=
  (ps.filter fun k => (toks[k]?.map (isTree st)).getD true).length

/-- What the tokens of the text at positions `ps`, passed over one after another, cost in trees.
Each token after the first is kept with the run before it in a new node, which counts the trees
of that run again; so the first token costs a tree if it is one, each later one two, and each
later one also the trees before it. -/
def nestedCost (ps : List Nat) : Nat :=
  let step (acc : Nat × Nat × Bool) (k : Nat) : Nat × Nat × Bool :=
    let (cost, trees, started) := acc
    let t := if (toks[k]?.map (isTree st)).getD true then 1 else 0
    if started then (cost + repairCosts.tree * (trees + 2 * t), trees + t, true)
    else (repairCosts.tree * t, t, true)
  (ps.foldl step (0, 0, false)).1

/-- What passing over a token, from the byte `before` it, is reckoned to cost before it is
done: a tree, whatever the token is, and its bytes and lines. -/
def passEstimate (before : Nat) (t : τ) : Nat :=
  repairCosts.tree + (st.shape.stop t - before) +
    repairCosts.line * st.rows before (st.shape.stop t)

/-- Whether a version other than the one at `i` already beats a version `v` would become at
cost `cost`. -/
def betterExists (vs : Array (Version τ)) (i : Nat) (v : Version τ) (cost : Nat) : Bool :=
  (List.range vs.size).any fun j =>
    j != i &&
      match vs[j]? with
      | some w =>
        w.live && w.byte ≥ v.byte &&
          Standing.compare ⟨cost, false, v.nodes⟩ w.standing == .takeSecond
      | none => false

/-- Whether one of the first `count` versions already reads from the tokens `held` before the
token at position `f`. -/
def arrives (vs : Array (Version τ)) (count : Nat) (held : Array τ) (f : Nat) : Bool :=
  (List.range count).any fun j =>
    match vs[j]? with
    | some w => w.isReading && w.next == f && w.held == held
    | none => false

/-- Whether a state, below the tokens `held`, takes the token at position `f`, read after a
statement boundary when `lead` is set: the list takes the end of the text and any token an item
starts with; any other state takes what the reading from it takes. -/
def welcomes (held : Array τ) (p : Standpoint) (f : Nat) (lead : Bool) : Bool :=
  if f ≥ toks.size then p.held == 0
  else takes st toks (held.extract 0 p.held) f lead

/-- The nearest state a version passing over tokens returns to at the token at position `f`,
with whether it reads that token after a statement boundary: in a state whose next token, held
or passed over, stood after a boundary, the statement before it is complete, so the token is
read after the boundary too. None when no state takes the token, or when a version that the
return could not beat already exists. -/
def returnState (vs : Array (Version τ)) (i count : Nat) (v : Version τ) (skipped : List Nat)
    (f : Nat) : List Standpoint → Option (Standpoint × Bool)
  | [] => none
  | p :: ps =>
    if p.byte == v.byte || (p.held > 0 && arrives vs count (v.held.extract 0 p.held) f) then
      returnState vs i count v skipped f ps
    else
      let estimate := v.cost + repairCosts.tree * p.depth + (v.byte - p.byte) +
        repairCosts.line * st.rows p.byte v.byte
      let after : Option τ := match v.held[p.held]? with
        | some t => some t
        | none => skipped.head? >>= (toks[·]?)
      let bounded := (after.map st.boundary).getD false
      if betterExists vs i v estimate then none
      else if welcomes st toks v.held p f bounded then some (p, bounded)
      else returnState vs i count v skipped f ps

/-- The number of versions still kept. -/
def keptCount (vs : Array (Version τ)) : Nat := (vs.toList.filter fun v => !v.isHalted).length

/-- One turn of the version at `i` passing over tokens: it returns to a state that takes the
next token, as a new version, and goes on passing over that token, unless it is beaten; at the
end of the text it is stranded. -/
def recover (vs : Array (Version τ)) (i order : Nat) : Array (Version τ) × Nat :=
  match vs[i]? with
  | none => (vs, order)
  | some v =>
    match v.phase with
    | .skipping states skipped base =>
      let f := v.next
      -- a run of invalid characters is only passed over: no state takes it
      let atInvalid := (toks[f]?.map st.shape.invalid).getD false
      let found := if atInvalid then none else returnState st toks vs i vs.size v skipped f states
      let (vs, order, returned) :=
        match found with
        | some (p, lead) =>
          let first : Nat :=
            match v.held[p.held]? with
            | some t => st.shape.start t
            | none => ((skipped.head? >>= (toks[·]?)).map st.shape.start).getD v.byte
          let w : Version τ :=
            { held := v.held.extract 0 p.held, next := f, byte := v.byte,
              cost := base + errorCost st first v.byte p.depth + nestedCost st toks skipped,
              nodes := p.depth,
              phase := if p.held == 0 then .abandoned else .reading, order, lead }
          (vs.push w, order + 1, true)
        | none => (vs, order, false)
      if returned && keptCount vs > versionLimit then
        (vs.set! i { v with phase := .halted }, order)
      else
        match toks[f]? with
        | none =>
          let first : Nat :=
            match v.held[0]? with
            | some t => st.shape.start t
            | none => ((skipped.head? >>= (toks[·]?)).map st.shape.start).getD v.byte
          let cost := base + errorCost st first v.byte (treeMarks st v.held).length +
            nestedCost st toks skipped
          (vs.set! i { v with phase := .stranded, cost }, order)
        | some t =>
          if betterExists vs i v (v.cost + passEstimate st v.byte t) then
            (vs.set! i { v with phase := .halted }, order)
          else
            let run := skipped ++ [f]
            (vs.set! i { v with phase := .skipping states run base, next := f + 1,
                                byte := st.shape.stop t, cost := base + nestedCost st toks run,
                                nodes := 1 + treesAmong st toks run }, order)
    | _ => (vs, order)

/-- Repairs the stopped version at `i`: a version with a token taken as missing, when the
reading then takes the next token or ends where the next token may follow; then the version
starts passing over tokens, with the states it may return to. -/
def repair (itemByte : Nat) (vs : Array (Version τ)) (i order : Nat) : Array (Version τ) × Nat :=
  match vs[i]? with
  | none => (vs, order)
  | some v =>
    let f := v.next
    let missing : Option (Version τ) :=
      match toks[f]? with
      | none => none
      | some t =>
        if st.shape.invalid t then none else
        missingCandidates.findSome? fun (text, isName) =>
          let held := v.held.push (st.shape.missing text isName v.byte)
          if takes st toks held f v.lead || (ends st held && st.follows t) then
            some { held, next := f, byte := v.byte, cost := v.cost + repairCosts.missing,
                   nodes := 0, phase := .reading, order, lead := v.lead }
          else none
    let (vs, order) :=
      match missing with
      | some m => (vs.push m, order + 1)
      | none => (vs, order)
    let states := standpoints st itemByte v.held
    let vs := vs.set! i { v with phase := .skipping states [] v.cost,
                                 cost := v.cost + repairCosts.recovery, nodes := 0 }
    recover st toks vs i order

/-- Where the reading of the tokens a version holds, followed by the rest of the text, ends: it
takes every token up to the end of its item when it succeeds, and up to the furthest token it
reached when it fails. Taking a token moves it from the rest to the tokens held, so the reading,
and with it the goal, stays the same while the version moves on. -/
def goalOf (v : Version τ) : Goal :=
  let whole := v.held ++ restFrom st toks v.next v.lead
  match st.read whole 0 with
  | .ok (_, p) => ⟨max p v.held.size, true⟩
  | .error stop => ⟨min (max stop.reach v.held.size) whole.size, false⟩

/-- One step of a reading version: it takes the next token when its reading goes on past it, has
finished its item when the reading ends before it, and stops otherwise. -/
def step (v : Version τ) : Version τ :=
  let g := v.goal.getD (goalOf st toks v)
  let ended : Version τ := { v with phase := if g.done then .finished else .stuck, goal := some g }
  if v.held.size < g.size then
    match toks[v.next]? with
    | some t0 =>
      let t := if v.lead then st.afterBoundary t0 else t0
      { v with held := v.held.push t, next := v.next + 1, byte := st.shape.stop t,
               nodes := v.nodes + (if st.silent t then 0 else 1), lead := false, goal := some g }
    | none => ended
  else ended

/-- Whether a version still moves on: it reads or passes over tokens. -/
def Version.busy (v : Version τ) : Bool :=
  match v.phase with
  | .reading | .skipping .. => true
  | _ => false

/-- Moves the version at `i` on, a token at a time, until it stands past the frontier, or at it
when it is not the first version, or can go no further. The versions move in step this way: the
first leads by a token, the others catch up with it. The frontier moves with the version that
passes it. -/
def moveOn (i : Nat) : Nat → Array (Version τ) → Nat → Nat → Array (Version τ) × Nat × Nat
  | 0, vs, order, frontier => (vs, order, frontier)
  | fuel + 1, vs, order, frontier =>
    match vs[i]? with
    | none => (vs, order, frontier)
    | some v =>
      if !v.busy then (vs, order, frontier)
      else
        let (vs, order) := match v.phase with
          | .skipping .. => recover st toks vs i order
          | _ => (vs.set! i (step st toks v), order)
        match vs[i]? with
        | none => (vs, order, frontier)
        | some w =>
          if w.byte > frontier || (i > 0 && w.byte == frontier) then (vs, order, w.byte)
          else moveOn i fuel vs order frontier

/-- Moves every version on in step, the versions made during the turn included. -/
def turn : Nat → Array (Version τ) → Nat → Nat → Nat → Array (Version τ) × Nat × Nat
  | 0, vs, _, order, frontier => (vs, order, frontier)
  | fuel + 1, vs, i, order, frontier =>
    if i ≥ vs.size then (vs, order, frontier)
    else
      let (vs, order, frontier) := moveOn st toks i (2 * toks.size + 8) vs order frontier
      turn fuel vs (i + 1) order frontier

/-- Whether two versions hold the same tokens at the same place at the same cost, so that one
stands for both. -/
def sameAs (a b : Version τ) : Bool :=
  a.live && b.live && a.isReading == b.isReading && a.next == b.next && a.cost == b.cost &&
    a.held == b.held

/-- Whether a version is done with the text: it finished or gave up its item at the end of the
text, where the whole reading is accepted as it stands. -/
def accepted (v : Version τ) : Bool :=
  match v.phase with
  | .finished | .abandoned => v.next ≥ toks.size
  | _ => false

/-- Compares every version with those before it, removing the beaten, merging the same, and
moving a preferred version before the one it is compared with. An accepted version takes no
part. -/
def prune : Nat → Array (Version τ) → Nat → Nat → Array (Version τ)
  | 0, vs, _, _ => vs
  | fuel + 1, vs, i, j =>
    if i ≥ vs.size then vs
    else if j ≥ i then prune fuel vs (i + 1) 0
    else
      match vs[j]?, vs[i]? with
      | some a, some b =>
        let merged := vs.set! j { a with order := max a.order b.order } |>.eraseIdx! i
        if accepted toks a || accepted toks b then prune fuel vs i (j + 1)
        else
          match Standing.compare a.standing b.standing with
          | .takeFirst => prune fuel (vs.eraseIdx! i) i 0
          | .takeSecond => prune fuel (vs.eraseIdx! j) (i - 1) j
          | .preferSecond =>
            if sameAs a b then prune fuel merged i 0
            else prune fuel (vs.swapIfInBounds i j) i (j + 1)
          | _ =>
            if sameAs a b then prune fuel merged i 0
            else prune fuel vs i (j + 1)
      | _, _ => vs

/-- Repairs the first stopped version when no version before it goes on, and drops every other
stopped version. -/
def resumeStuck (itemByte : Nat) : Nat → Array (Version τ) → Nat → Bool → Nat →
    Array (Version τ) × Nat
  | 0, vs, _, _, order => (vs, order)
  | fuel + 1, vs, i, going, order =>
    match vs[i]? with
    | none => (vs, order)
    | some v =>
      if v.isStuck then
        if going then resumeStuck itemByte fuel (vs.set! i { v with phase := .halted }) (i + 1) true order
        else
          let (vs, order) := repair st toks itemByte vs i order
          resumeStuck itemByte fuel vs (i + 1) true order
      else resumeStuck itemByte fuel vs (i + 1) (going || v.live) order

/-- The end of a turn: removed versions leave, the rest are compared, at most six are kept, and
the first stopped version is repaired. -/
def condense (itemByte : Nat) (vs : Array (Version τ)) (order : Nat) : Array (Version τ) × Nat :=
  let vs := vs.filter fun v => !v.isHalted
  let vs := prune toks (2 * (vs.size + 1) * (vs.size + 1)) vs 0 0
  let vs := vs.extract 0 versionLimit
  let (vs, order) := resumeStuck st toks itemByte (2 * vs.size + 2) vs 0 false order
  (vs.filter fun v => !v.isHalted, order)

/-- Turns until no version works on the item any more; the stranded versions are kept aside. -/
def settle (itemByte : Nat) : Nat → Array (Version τ) → List (Version τ) → Nat → Nat →
    List (Version τ)
  | 0, vs, aside, _, _ => aside ++ vs.toList.filter fun v => !v.pending
  | fuel + 1, vs, aside, order, frontier =>
    if vs.all fun v => !v.pending then aside ++ vs.toList
    else
      let (vs, order, frontier) := turn st toks (4 * vs.size + 64) vs 0 order frontier
      let aside := aside ++ vs.toList.filter fun v =>
        match v.phase with
        | .stranded => true
        | _ => false
      let vs := vs.filter fun v =>
        match v.phase with
        | .stranded => false
        | _ => true
      let (vs, order) := condense st toks itemByte vs order
      settle itemByte fuel vs aside order frontier

/-- The ways an item that stops before the token at position `r` ends, having read the tokens
`held` from its start, the list standing at byte `itemByte`: finished, given up or stranded
versions, each with its cost and the position where the list goes on. -/
def outcomes (itemByte : Nat) (held : Array τ) (r : Nat) : List (Version τ) :=
  let first : Version τ :=
    { held, next := r, byte := (held.back?.map st.shape.stop).getD itemByte, cost := 0,
      nodes := held.size, phase := .stuck, order := 0 }
  settle st toks itemByte (8 * (toks.size + 2) + 32) #[first] [] 1 first.byte

end

end Recovery
end ResultLint
