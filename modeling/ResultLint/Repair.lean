import ResultLint.Syntax

/-!
# Repairs of unreadable items

A reader of a list of items (the statements of a block, the members of a class body) repairs an
item that cannot be read at the token where its reading stopped, by the cheapest of:

* one token taken as missing just before that token, if the reading then goes on past it and
  the missing token ends a node there; the token is the first of `;`, a name, `)`, `]`, `,` and
  `}` that does this, and it costs 610;
* passing over up to four tokens just before it, the fewest that let the reading take it or end
  before it, and never only the end of a bracketed group, which is one tree once it closes;
* passing over up to four tokens from it on, the fewest that let the reading go on;
* passing over tokens on both sides of it at once, where that settles a bracket left open, or
  where the token is a run of invalid characters and passing over the tokens from it on alone
  does not let the reading go on;
* passing over what was read of the item, if the token where the reading stopped may go on the
  list.

At a run of invalid characters no token is taken as missing and no tokens are passed over
before it alone. Right after tokens passed over from the stop on, no token is taken as missing
either: the reading that passes over tokens is still cheaper than one that fails again, and the
parser drops the one that fails.

Passing over tokens costs 500, one per byte passed over with the spaces before the tokens, and
100 per tree passed over before the stop, a bracketed group being one. The tokens passed over
from the stop on cost more the more there are, 100, 400, 800 and 1300 for one to four, as each
is kept with the ones passed over before it in a node that counts them again.

Where the tokens of the text leave brackets open, each must be closed by a missing token at its
end, so passing over more opening brackets than closing ones saves 610 for each of them, as far
as they are left open, and passing over more closing ones costs 610 for each. The saving is not
made by a repair that costs more than a missing token that would let the item read on: the
reader settles on that token before it.

Repairs of one item chain, up to three of them, and their costs add. The trees of what was read
of an item are its finished nodes and its own tokens; they are counted on the item as repaired
by a missing token, which is read at a byte past every token: a node that reaches that far is
unfinished.

The readers describe their tokens by a `TokenShape` and their items by an `ItemReading`.
-/

namespace ResultLint

/-- Why a reading stopped: the furthest position it reached, and whether a repair was already
tried there and failed, so that no enclosing reading tries one again. -/
structure Stop where
  reach : Nat
  settled : Bool := false
  deriving Repr, Inhabited

/-- What each kind of repair costs. -/
structure RepairCosts where
  /-- A token taken as missing. -/
  missing : Nat
  /-- One error node. -/
  recovery : Nat
  /-- Each tree an error node holds. -/
  tree : Nat
  /-- Each line an error node spans past its first. -/
  line : Nat
  deriving Repr, Inhabited

/-- The costs of repairs. -/
def repairCosts : RepairCosts := { missing := 610, recovery := 500, tree := 100, line := 30 }

/-- What repairs need to know of a language's tokens. -/
structure TokenShape (τ : Type) where
  start : τ → Nat
  stop : τ → Nat
  /-- A token taken as missing, with no width, at a byte: the symbol `text`, or a name when the
  flag is set. -/
  missing : String → Bool → Nat → τ
  opens : τ → Bool
  closes : τ → Bool
  /-- Whether a token is a run of characters that start no token. -/
  invalid : τ → Bool

/-- How an item is read over a token array from a position: the item, if it leaves a node, and
the position after it; or where the reading stopped. -/
abbrev ItemReading (τ κ : Type) := Array τ → Nat → Except Stop (Option (Tree κ) × Nat)

/-- The tokens tried, in order, as the one missing before the token where a reading stopped: a
symbol, or a name when the flag is set. -/
def missingCandidates : List (String × Bool) :=
  [(";", false), ("", true), (")", false), ("]", false), (",", false), ("\x7d", false)]

/-- The tokens tried, in order, to go on with a reading that ran out of tokens: a symbol, or
a name when the flag is set. -/
def closingCandidates : List (String × Bool) :=
  [("\x7d", false), (";", false), (")", false), ("]", false), ("", true), ("\x7b", false)]

/-- What passing over `k` tokens one after another costs in trees. Each token passed over is put
in a node with the ones passed over before it, and that node counts each tree it holds again,
so the cost grows with the square of the count: 100, 400, 800, 1300. -/
def skippedCost (k : Nat) : Nat := if k = 0 then 0 else 50 * k * k + 150 * k - 100

/-- The most tokens passed over just before the token where a reading stopped. -/
def deletionReach : Nat := 4

/-- The most repairs chained in one item. -/
def repairDepth : Nat := 3

/-- A repaired item: its node, if it leaves one, the position after it among the tokens of the
text, and the cost of its repairs. -/
structure Repaired (κ : Type) where
  item : Option (Tree κ)
  next : Nat
  cost : Nat
  deriving Repr, Inhabited

namespace Repaired

variable {κ : Type}

/-- The cheaper of two repairs, the first on a tie. -/
def cheaper : Option (Repaired κ) → Option (Repaired κ) → Option (Repaired κ)
  | some a, some b => if b.cost < a.cost then some b else some a
  | some a, none => some a
  | none, b => b

/-- The repair with a further cost added. -/
def addCost (c : Nat) (r : Repaired κ) : Repaired κ := { r with cost := r.cost + c }

end Repaired

section

variable {τ κ : Type} (sh : TokenShape τ)

/-- The first byte past every token of an array. -/
def pastTokens (toks : Array τ) : Nat := toks.foldl (fun m t => max m (sh.stop t)) 0 + 1

/-- The token array with a missing token put before position `r`, at byte `pos`. -/
def withMissing (toks : Array τ) (r : Nat) (text : String) (isName : Bool) (pos : Nat) : Array τ :=
  (toks.extract 0 r).push (sh.missing text isName pos) ++ toks.extract r toks.size

/-- The starts of the tokens among `toks` in `span` from its start on, ending by byte `limit`,
and in none of the given children. -/
def looseTokens (toks : List τ) (limit : Nat) (span : Span) (children : List (Tree κ)) : List Nat :=
  (toks.filter fun t =>
    sh.stop t ≤ limit && span.start ≤ sh.start t &&
      !children.any fun c => c.start ≤ sh.start t && sh.stop t ≤ c.stop).map sh.start

mutual

/-- The trees a node stands for up to byte `limit`, by their first bytes, with the named ones:
a node that ends by `limit` is one tree, a node that starts past it none, and any other stands
for its loose tokens and the trees of its children. -/
def frontier (toks : List τ) (limit : Nat) : Tree κ → List Nat × List (Tree κ)
  | t@(.node _ _ span children) =>
    if span.stop ≤ limit then ([span.start], [t])
    else if span.start > limit then ([], [])
    else
      let (starts, named) := frontierAll toks limit children
      (starts ++ looseTokens sh toks limit span children, named)

/-- The trees some nodes stand for up to byte `limit`, by their first bytes, with the named
ones. -/
def frontierAll (toks : List τ) (limit : Nat) : List (Tree κ) → List Nat × List (Tree κ)
  | [] => ([], [])
  | t :: ts =>
    let (starts, named) := frontier toks limit t
    let (more, rest) := frontierAll toks limit ts
    (starts ++ more, named ++ rest)

end

mutual

/-- The number of trees a node stands for from byte `first` up to byte `limit`: a node that lies
within them is one tree, a node outside them none, and any other stands for its loose tokens
within them and the trees of its children. -/
def treesWithin (toks : List τ) (first limit : Nat) : Tree κ → Nat
  | .node _ _ span children =>
    if first ≤ span.start && span.stop ≤ limit then 1
    else if span.stop ≤ first || limit < span.start then 0
    else treesWithinAll toks first limit children +
      ((looseTokens sh toks limit span children).filter (first ≤ ·)).length

/-- The number of trees some nodes stand for from byte `first` up to byte `limit`. -/
def treesWithinAll (toks : List τ) (first limit : Nat) : List (Tree κ) → Nat
  | [] => 0
  | t :: ts => treesWithin toks first limit t + treesWithinAll toks first limit ts

end

mutual

/-- Whether a node of a tree, the tree itself included, ends at byte `b`. -/
def endsAt (b : Nat) : Tree κ → Bool
  | .node _ _ span children => span.stop == b || endsAtAny b children

/-- Whether a node of some trees ends at byte `b`. -/
def endsAtAny (b : Nat) : List (Tree κ) → Bool
  | [] => false
  | t :: ts => endsAt b t || endsAtAny b ts

end

/-- The number of trees in a run of tokens, taking each bracketed group that closes in the run
as one tree: an estimate for runs that no repair reads. -/
def groupedCount (ts : List τ) : Nat :=
  let (count, depth) := ts.foldr (fun t (count, depth) =>
    if sh.closes t then (count, depth + 1)
    else if sh.opens t then
      if depth ≤ 1 then (count + 1, 0) else (count, depth - 1)
    else if depth == 0 then (count + 1, 0) else (count, depth)) (0, 0)
  if depth > 0 then count + 1 else count

/-- The byte where the token at position `k` begins to be passed over: the end of the token
before it, so that the blanks before the token go with it. A token taken as missing has no
place of its own, so after one, and at the first token, it is the token's own start. -/
def precedingStop (arr : Array τ) (k : Nat) : Nat :=
  let own := (arr[k]?.map sh.start).getD 0
  match k, arr[k - 1]? with
  | 0, _ => own
  | _, some p => if sh.start p == sh.stop p || sh.stop p > own then own else sh.stop p
  | _, none => own

/-- Whether a run of tokens holds a closing bracket whose opening one lies before the run. A
bracketed group is read as one tree as soon as it closes, so no repair passes over only the end
of it. -/
def splitsGroup (run : Array τ) : Bool :=
  (run.toList.foldl (fun (depth, split) t =>
    if sh.closes t then if depth == 0 then (0, true) else (depth - 1, split)
    else if sh.opens t then (depth + 1, split)
    else (depth, split)) ((0 : Nat), false)).2

/-- The number of opening brackets of a text, by its tokens `given`, that no closing bracket
closes: each is closed by a missing token at the end of the text. -/
def unclosedCount (given : Array τ) : Nat :=
  let opened := (given.toList.filter sh.opens).length
  let closed := (given.toList.filter sh.closes).length
  opened - closed

/-- Whether passing over the tokens `removed` settles a bracket that the tokens `given` of the
text leave open: more of them open a bracket than close one. Tokens taken as missing have no
width and count for nothing. -/
def settles (given removed : Array τ) : Bool :=
  let real := removed.toList.filter fun t => sh.start t < sh.stop t
  unclosedCount sh given > 0 && (real.filter sh.closes).length < (real.filter sh.opens).length

/-- The cost `cost` of passing over the tokens `removed`, weighed against the end of a text
whose tokens `given` leave brackets unclosed: each opening bracket passed over beyond the closing
ones needs no missing token to close it there, and each closing one beyond the opening ones
leaves one more to close. Tokens taken
as missing have no width and count for nothing. -/
def balancedCost (given removed : Array τ) (cost : Nat) : Nat :=
  let unclosed := unclosedCount sh given
  if unclosed == 0 then cost
  else
    let real := removed.toList.filter fun t => sh.start t < sh.stop t
    let opened := (real.filter sh.opens).length
    let closed := (real.filter sh.closes).length
    cost + repairCosts.missing * (closed - opened) - repairCosts.missing * min (opened - closed) unclosed

/-- The position among the tokens of the text of the token at position `k` of a repaired array. -/
def textPosition (given arr : Array τ) (k : Nat) : Nat :=
  match arr[k]? with
  | some t => (given.findIdx? fun o => sh.start o == sh.start t).getD given.size
  | none => given.size

/-- Puts the missing tokens of a repaired item back at their places: `moved` pairs the byte each
was read at with the byte it stands at. -/
def placeMissing (moved : List (Nat × Nat)) (sp : Span) : Span :=
  let place (b : Nat) : Nat := ((moved.find? (·.1 == b)).map (·.2)).getD b
  ⟨place sp.start, place sp.stop⟩

/-- What was read of an item from position `s` up to the token at `r`, as the item read with
the first missing token before `r` that lets it read to its end. None when no missing token
does. -/
def partialTree (read : ItemReading τ κ) (arr : Array τ) (s r : Nat) : Option (Tree κ) :=
  let pos := pastTokens sh arr
  missingCandidates.findSome? fun (text, isName) =>
    match read (withMissing sh arr r text isName pos) s with
    | .ok (some x, _) => some x
    | _ => none

/-- The number of trees passed over from the token at position `q` up to the token at `r`,
counted on what was read of the item from position `s`, or estimated from the tokens. -/
def passedTrees (read : ItemReading τ κ) (arr : Array τ) (s q r : Nat) : Nat :=
  let limit := (arr[r - 1]?.map sh.stop).getD 0
  match partialTree sh read arr s r with
  | some x => treesWithin sh arr.toList (precedingStop sh arr q) limit x
  | none => groupedCount sh (arr.extract q r).toList

/-- Repairs an item read by `read` from position `s` of the token array `arr`, which holds the
tokens of the text `given` with the repairs made so far; `moved` places the missing tokens added,
`n` bounds the repairs still allowed, and `skipping` tells that the last repair passed over tokens
from its stop on. -/
def repairFrom (read : ItemReading τ κ) (resumes : τ → Bool) (given : Array τ) (s : Nat) :
    Nat → Bool → Array τ → List (Nat × Nat) → Option (Repaired κ)
  | 0, _, _, _ => none
  | n + 1, skipping, arr, moved =>
    match read arr s with
    | .ok (x, next) =>
      some { item := x.map (·.mapSpan (placeMissing moved)), next := textPosition sh given arr next,
             cost := 0 }
    | .error stop =>
      let r := stop.reach
      match arr[r]? with
      | none => none
      | some t =>
        if stop.settled || r ≤ s then none
        else
          let costs := repairCosts
          let pos := pastTokens sh arr
          let vpos := (placeMissing moved ⟨0, (arr[r - 1]?.map sh.stop).getD 0⟩).stop
          -- whether a missing token lets the item read on past the stop, closing a node there so
          -- that the stop starts something new
          let fits (more : Array τ) : Bool :=
            let goesOn : Bool := match read more s with
              | .ok (_, next) => next > r + 1 || (next == r + 1 && resumes t)
              | .error stop' => stop'.reach > r + 1
            let closes : Bool := match read more s with
              | .ok (some x, _) => endsAt pos x
              | .ok (none, _) => true
              | .error stop' => ((partialTree sh read more s stop'.reach).map (endsAt pos)).getD true
            goesOn && closes
          -- at a run of invalid characters nothing is taken as missing and nothing before it is
          -- passed over alone: the run itself is passed over, the tokens after it with it
          let atInvalid := sh.invalid t
          let inserted := if atInvalid || skipping then none else
            missingCandidates.findSome? fun (text, isName) =>
              let more := withMissing sh arr r text isName pos
              if fits more then
                (repairFrom read resumes given s n false more ((pos, vpos) :: moved)).map
                  (·.addCost costs.missing)
              else none
          -- a removal that settles a bracket left open is weighed against the end of the text,
          -- unless it costs more than a missing token that would already let the item read on
          let weighed (removed : Array τ) (raw : Nat) : Nat :=
            if settles sh given removed && raw > costs.missing &&
                missingCandidates.any fun (text, isName) => fits (withMissing sh arr r text isName pos) then raw
            else balancedCost sh given removed raw
          let deleted := if atInvalid then none else
            (List.range (min deletionReach (r - s - 1))).findSome? fun i =>
              let q := r - 1 - i
              let fewer := arr.extract 0 q ++ arr.extract r arr.size
              let first := precedingStop sh arr q
              let bytes := (arr[r - 1]?.map sh.stop).getD 0 - first
              let trees := passedTrees sh read arr s q r
              let cost := weighed (arr.extract q r) (costs.recovery + bytes + costs.tree * trees)
              let taken : Bool := !splitsGroup sh (arr.extract q r) && match read fewer s with
                | .ok (_, next) => next > q || (next == q && resumes t)
                | .error stop' => stop'.reach > q
              if taken then
                (repairFrom read resumes given s n false fewer moved).map (·.addCost cost)
              else none
          -- whether the reading goes on when the `i + 1` tokens from the stop on are passed over
          let skipTaken (i : Nat) : Bool :=
            let fewer := arr.extract 0 r ++ arr.extract (r + i + 1) arr.size
            r + i < arr.size && match read fewer s with
              | .ok (_, next) => next > r || (next == r && (fewer[r]?.map resumes).getD false)
              | .error stop' => stop'.reach > r
          let skipped := (List.range deletionReach).findSome? fun i =>
            let fewer := arr.extract 0 r ++ arr.extract (r + i + 1) arr.size
            let last := (arr[r + i]?.map sh.stop).getD (sh.stop t)
            let cost := weighed (arr.extract r (r + i + 1))
              (costs.recovery + skippedCost (i + 1) + (last - precedingStop sh arr r))
            if skipTaken i then
              (repairFrom read resumes given s n true fewer moved).map (·.addCost cost)
            else none
          -- passing over what was read before the stop and the tokens after it at once, which
          -- is worth it only where that settles a bracket left open, or past a run of invalid
          -- characters where the token after the tokens passed over cannot go on from the stop
          let spanned := (List.range deletionReach).findSome? fun i =>
            if atInvalid && skipTaken i then none else
            (List.range (min deletionReach (r - s))).findSome? fun j =>
              let q := r - 1 - j
              let removed := arr.extract q (r + i + 1)
              if r + i < arr.size && (settles sh given removed || atInvalid) then
                let fewer := arr.extract 0 q ++ arr.extract (r + i + 1) arr.size
                let last := (arr[r + i]?.map sh.stop).getD (sh.stop t)
                let trees := passedTrees sh read arr s q r
                let cost := weighed removed
                  (costs.recovery + costs.tree * trees + skippedCost (i + 1) +
                    (last - precedingStop sh arr q))
                let taken : Bool := match read fewer s with
                  | .ok (_, next) => next > q || (next == q && (fewer[q]?.map resumes).getD false)
                  | .error stop' => stop'.reach > q
                if taken then
                  (repairFrom read resumes given s n true fewer moved).map (·.addCost cost)
                else none
              else none
          Repaired.cheaper (Repaired.cheaper (Repaired.cheaper inserted deleted) skipped) spanned

/-- The cost of passing over what was read of an item from position `s` up to the token at `r`. -/
def droppedCost (read : ItemReading τ κ) (toks : Array τ) (s r : Nat) : Nat :=
  let vpos := (toks[r - 1]?.map sh.stop).getD 0
  let trees := passedTrees sh read toks s s r
  let first := if s < toks.size then precedingStop sh toks s else vpos
  repairCosts.recovery + (vpos - first) + repairCosts.tree * trees

/-- How an item that stopped at position `r` is repaired: by its cheapest repair, or by passing
over what was read of it when the token at `r` may go on the list and that costs less. None
when the reading ran out of tokens or no repair applies. -/
def repairItem (read : ItemReading τ κ) (resumes : τ → Bool) (toks : Array τ) (s r : Nat) :
    Option (Repaired κ) :=
  match toks[r]? with
  | none => none
  | some t =>
    let repaired := repairFrom sh read resumes toks s repairDepth false toks []
    let dropped : Option (Repaired κ) :=
      if resumes t then some { item := none, next := r, cost := droppedCost sh read toks s r }
      else none
    match repaired, dropped with
    | some a, some b => if b.cost < a.cost then some b else some a
    | a, b => a.orElse fun _ => b

end

end ResultLint
