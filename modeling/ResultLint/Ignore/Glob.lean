/-!
# Ignore globs

The glob language of ignore files, matched against the bytes of a relative path.

* `?` is one byte other than `/`, and `*` any run of such bytes.
* `**` is special only as a whole part of the path:
  * `**/` at the start is any leading directories, none included;
  * `/**` at the end is `/` and anything after it;
  * `/**/` inside is `/` or `/`, anything, `/`.
  * Elsewhere `**` is two `*`.
* `[...]` is one byte from a set of characters and ranges, with `!` or `^` first to negate
  it. A `]` first or a `-` at either end stands for itself. The set may hold `/`. A character
  outside ASCII stands for each of the bytes it is written with, and a range with one at an end
  runs from the last byte of its start to the first byte of its end.
* `{a,b}` is one of its alternatives. Braces nest, and an alternative that matches only by
  having nothing in it drops out. A `}` with no `{` makes the glob malformed, and a `,` outside
  braces is itself.
* `\` takes the next character literally.

"Anything" stops at a line break. A pattern is matched against the whole path.
-/

namespace ResultLint
namespace Ignore

/-- One step of a glob, below the level of alternatives. -/
inductive Atom where
  | char (c : Char)
  /-- One byte, not a separator. -/
  | any
  /-- Bytes without a separator. -/
  | run
  /-- Leading directories: nothing, a separator, or anything ending in one. -/
  | leadingDirs
  /-- A separator and anything after it. -/
  | trailingDirs
  /-- A separator, or a separator, anything and a separator. -/
  | innerDirs
  /-- One byte in, or with `negated` out of, some ranges of bytes. -/
  | oneOf (negated : Bool) (ranges : List (UInt8 × UInt8))
  deriving DecidableEq, Repr, Inhabited

/-- One step of a glob. -/
inductive Token where
  | atom (a : Atom)
  | choice (alternatives : List (List Token))
  deriving Repr, Inhabited

/-- A glob, its tokens in order. -/
abbrev Glob := List Token

/-- The text of a glob while it is read: the finished tokens of the top in reverse, and the open
groups, innermost first, each with its alternatives read so far, the current one first, each in
reverse. -/
structure Reading where
  top : List Token := []
  groups : List (List (List Token)) := []
  deriving Inhabited

namespace Reading

/-- Whether a group is open. -/
def inGroup (r : Reading) : Bool := !r.groups.isEmpty

/-- Adds a token to the current alternative, or to the top. -/
def push (r : Reading) (t : Token) : Reading :=
  match r.groups with
  | (cur :: done) :: outer => { r with groups := ((t :: cur) :: done) :: outer }
  | _ => { r with top := t :: r.top }

/-- Whether the current alternative, or the top, has tokens. -/
def hasTokens (r : Reading) : Bool :=
  match r.groups with
  | (cur :: _) :: _ => !cur.isEmpty
  | _ => !r.top.isEmpty

/-- The last token of the current alternative or the top taken off, with the atom it is. -/
def pop (r : Reading) : Option Atom × Reading :=
  let atomOf (t : Token) : Option Atom :=
    match t with
    | .atom a => some a
    | .choice _ => none
  match r.groups with
  | ((t :: cur) :: done) :: outer => (atomOf t, { r with groups := (cur :: done) :: outer })
  | _ :: _ => (none, r)
  | [] =>
    match r.top with
    | t :: rest => (atomOf t, { r with top := rest })
    | [] => (none, r)

/-- Opens a group. -/
def openGroup (r : Reading) : Reading := { r with groups := [[]] :: r.groups }

/-- Starts the next alternative of the innermost group. -/
def nextAlternative (r : Reading) : Reading :=
  match r.groups with
  | alts :: outer => { r with groups := ([] :: alts) :: outer }
  | [] => r

/-- Closes the innermost group into one token, or `none` when no group is open. -/
def closeGroup (r : Reading) : Option Reading :=
  match r.groups with
  | alts :: outer =>
    some ({ r with groups := outer }.push (.choice (alts.reverse.map List.reverse)))
  | [] => none

end Reading

/-- The ranges of a character set after its opening bracket and negation, until `]`; `none`
when the set never closes or a range runs backwards. `first` is set before the first
character, and `dash` after a `-` that opens a range. -/
def readSet : List Char → List (Char × Char) → Bool → Bool →
    Option (List (Char × Char) × List Char)
  | [], _, _, _ => none
  | c :: rest, acc, first, dash =>
    if c == ']' then
      if first then readSet rest ((']', ']') :: acc) false false
      else some ((if dash then ('-', '-') :: acc else acc).reverse, rest)
    else if c == '-' then
      if first then readSet rest (('-', '-') :: acc) false false
      else if dash then
        match acc with
        | (lo, _) :: more => if '-' < lo then none else readSet rest ((lo, '-') :: more) false false
        | [] => none
      else readSet rest acc false true
    else if dash then
      match acc with
      | (lo, _) :: more => if c < lo then none else readSet rest ((lo, c) :: more) false false
      | [] => none
    else readSet rest ((c, c) :: acc) false false

theorem readSet_length {cs : List Char} {acc : List (Char × Char)} {first dash : Bool}
    {ranges : List (Char × Char)} {after : List Char}
    (h : readSet cs acc first dash = some (ranges, after)) : after.length < cs.length := by
  fun_induction readSet cs acc first dash <;> simp_all <;> omega

/-- The byte ranges a set of character ranges stands for: a character by each of its bytes,
and a range from the last byte of its start to the first byte of its end, with the other bytes
of its ends on their own. -/
def byteRanges (ranges : List (Char × Char)) : List (UInt8 × UInt8) :=
  ranges.flatMap fun (lo, hi) =>
    let los := lo.toString.toUTF8.toList
    let his := hi.toString.toUTF8.toList
    let single (b : UInt8) : UInt8 × UInt8 := (b, b)
    if lo == hi then los.map single
    else
      los.dropLast.map single ++ [(los.getLast?.getD 0, his.head?.getD 0)] ++ (his.drop 1).map single

/-- Whether a set is negated, and the text after its negation mark. -/
def setOpening : List Char → Bool × List Char
  | '!' :: more | '^' :: more => (true, more)
  | cs => (false, cs)

theorem setOpening_length (cs : List Char) : (setOpening cs).2.length ≤ cs.length := by
  unfold setOpening; split <;> simp

/-- Reads the atom for `**` once both stars are read: `prev` is the character before them and
`rest` what follows. Also tells whether the separator after them is taken. -/
def doubleStar (r : Reading) (prev : Option Char) (rest : List Char) : Reading × Bool :=
  let twoRuns := (r.push (.atom .run)).push (.atom .run)
  if !r.hasTokens then
    match rest with
    | c :: _ => if c == '/' then (r.push (.atom .leadingDirs), true) else (twoRuns, false)
    | [] => (r.push (.atom .leadingDirs), false)
  else if prev != some '/' && (!r.inGroup || (prev != some ',' && prev != some '{')) then
    (twoRuns, false)
  else
    let suffix : Option (Bool × Bool) :=
      match rest with
      | [] => some (true, false)
      | c :: _ =>
        if (c == ',' || c == '}') && r.inGroup then some (true, false)
        else if c == '/' then some (false, true)
        else none
    match suffix with
    | none => (twoRuns, false)
    | some (isSuffix, taken) =>
      let (last, r') := r.pop
      match last with
      | some .leadingDirs => (r'.push (.atom .leadingDirs), taken)
      | some .trailingDirs => (r'.push (.atom .trailingDirs), taken)
      | _ => (r'.push (.atom (if isSuffix then .trailingDirs else .innerDirs)), taken)

/-- Reads a glob's characters; `prev` is the character read before them. `none` for a set that
never closes or runs backwards, a group that is not both opened and closed, or a trailing `\`. -/
def readFrom : List Char → Option Char → Reading → Option Reading
  | [], _, r => if r.inGroup then none else some r
  | '?' :: rest, _, r => readFrom rest (some '?') (r.push (.atom .any))
  | '*' :: '*' :: rest, prev, r =>
    match doubleStar r prev rest with
    | (r', true) => readFrom (rest.drop 1) (some '/') r'
    | (r', false) => readFrom rest (some '*') r'
  | '*' :: rest, _, r => readFrom rest (some '*') (r.push (.atom .run))
  | '[' :: rest, _, r =>
    match h : readSet (setOpening rest).2 [] true false with
    | some (ranges, after) =>
      have := readSet_length h
      have := setOpening_length rest
      readFrom after (some ']') (r.push (.atom (.oneOf (setOpening rest).1 (byteRanges ranges))))
    | none => none
  | '{' :: rest, _, r => readFrom rest (some '{') r.openGroup
  | '}' :: rest, _, r =>
    match r.closeGroup with
    | some r' => readFrom rest (some '}') r'
    | none => none
  | ',' :: rest, _, r =>
    if r.inGroup then readFrom rest (some ',') r.nextAlternative
    else readFrom rest (some ',') (r.push (.atom (.char ',')))
  | '\\' :: c :: rest, _, r => readFrom rest (some c) (r.push (.atom (.char c)))
  | ['\\'], _, _ => none
  | c :: rest, _, r => readFrom rest (some c) (r.push (.atom (.char c)))
termination_by cs => cs.length
decreasing_by all_goals (simp only [List.length_cons, List.length_drop] at *; omega)

/-- Reads a glob, or `none` when it is malformed. -/
def Glob.read? (text : String) : Option Glob :=
  (readFrom text.toList none {}).map fun r => r.top.reverse

mutual

/-- The ways through a token, each a list of atoms. A group with no alternative left stands
for nothing. -/
def Token.paths : Token → List (List Atom)
  | .atom a => [[a]]
  | .choice alts =>
    let ways := alternativePaths alts
    if ways.isEmpty then [[]] else ways

/-- The ways through tokens in a row. -/
def tokenPaths : List Token → List (List Atom)
  | [] => [[]]
  | t :: rest => t.paths.flatMap fun p => (tokenPaths rest).map (p ++ ·)

/-- The ways through a group's alternatives, leaving out an alternative whose only way is
empty. -/
def alternativePaths : List (List Token) → List (List Atom)
  | [] => []
  | alt :: more =>
    let ways := tokenPaths alt
    (if ways == [[]] then [] else ways) ++ alternativePaths more

end

/-- The ways through a glob's alternatives, each a list of atoms. -/
def Glob.paths (g : Glob) : List (List Atom) := tokenPaths g

/-- The separator byte. -/
def separator : UInt8 := 47

/-- The line break byte. -/
def lineBreak : UInt8 := 10

/-- What may follow a run of bytes other than `stop`: the text itself, and each of its tails
after such bytes. -/
def restsAfterRun (stop : UInt8) : List UInt8 → List (List UInt8)
  | [] => [[]]
  | b :: s => (b :: s) :: if b == stop then [] else restsAfterRun stop s

/-- What may follow anything and a separator. -/
def restsAfterDirs (s : List UInt8) : List (List UInt8) :=
  (restsAfterRun lineBreak s).filterMap fun t =>
    match t with
    | b :: u => if b == separator then some u else none
    | [] => none

/-- Whether a byte is in a set of ranges, or out of it when negated. -/
def inSet (negated : Bool) (ranges : List (UInt8 × UInt8)) (b : UInt8) : Bool :=
  (ranges.any fun (lo, hi) => lo ≤ b && b ≤ hi) != negated

/-- Whether atoms match the whole of some bytes. -/
def matchAtoms : List Atom → List UInt8 → Bool
  | [], s => s.isEmpty
  | .char c :: rest, s =>
    let bytes := c.toString.toUTF8.toList
    bytes.isPrefixOf s && matchAtoms rest (s.drop bytes.length)
  | .any :: rest, s =>
    match s with
    | b :: t => b != separator && matchAtoms rest t
    | [] => false
  | .run :: rest, s => (restsAfterRun separator s).any fun t => matchAtoms rest t
  | .leadingDirs :: rest, s =>
    matchAtoms rest s || (restsAfterDirs s).any fun t => matchAtoms rest t
  | .trailingDirs :: rest, s =>
    match s with
    | b :: t => b == separator && (restsAfterRun lineBreak t).any fun u => matchAtoms rest u
    | [] => false
  | .innerDirs :: rest, s =>
    match s with
    | b :: t => b == separator && (matchAtoms rest t || (restsAfterDirs t).any fun u => matchAtoms rest u)
    | [] => false
  | .oneOf negated ranges :: rest, s =>
    match s with
    | b :: t => inSet negated ranges b && matchAtoms rest t
    | [] => false

/-- Whether a glob matches the whole of some bytes. A glob that is only `**` matches anything
without a line break. -/
def Glob.matches (g : Glob) (s : List UInt8) : Bool :=
  match g with
  | [.atom .leadingDirs] => !s.contains lineBreak
  | _ => (Glob.paths g).any fun atoms => matchAtoms atoms s

end Ignore
end ResultLint
