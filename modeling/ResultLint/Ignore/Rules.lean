import ResultLint.Ignore.Glob
import ResultLint.Text.Blank

/-!
# Ignore files

An ignore file holds one rule a line, and the last rule that matches a path decides about it.

* Lines that start with `#` are comments.
* Trailing blanks are dropped unless escaped.
* `!` makes a rule keep what it matches.
* A leading `/` ties the rule to the file's directory, and so does any other `/`.
* A trailing `/` matches directories only.
* A rule with no `/` matches at any depth.
* A rule that ends in `/**` matches what is inside a directory, not the directory itself.

Lines whose glob is malformed are passed over, and reading stops at a line that is not UTF-8.
Byte order marks at the start of the first line are dropped.
-/

namespace ResultLint
namespace Ignore

/-- One rule of an ignore file. -/
structure Rule where
  glob : Glob
  /-- The rule keeps what it matches, where others would pass over it. -/
  keeps : Bool
  directoryOnly : Bool
  deriving Repr, Inhabited

/-- What ignore rules say about a path. -/
inductive Verdict where
  | ignore
  | keep
  deriving DecidableEq, Repr, Inhabited

/-- The rule on one line of an ignore file, if the line holds one. -/
def Rule.ofLine? (line : String) : Option Rule :=
  if line.startsWith "#" then none
  else
    let text := if line.endsWith "\\ " then line.toList else Text.dropBlanksEnd line.toList
    if text.isEmpty then none
    else
      let (keeps, anchored, body) : Bool × Bool × List Char :=
        match text with
        | '\\' :: '!' :: rest => (false, false, '!' :: rest)
        | '\\' :: '#' :: rest => (false, false, '#' :: rest)
        | '!' :: '/' :: rest => (true, true, rest)
        | '!' :: rest => (true, false, rest)
        | '/' :: rest => (false, true, rest)
        | _ => (false, false, text)
      let (directoryOnly, body) : Bool × List Char :=
        match body.reverse with
        | '/' :: '\\' :: rest => (true, rest.reverse)
        | '/' :: rest => (true, rest.reverse)
        | _ => (false, body)
      let anywhere := !anchored && !body.contains '/' &&
        !(['*', '*', '/'].isPrefixOf body || body == ['*', '*'])
      let actual := if anywhere then ['*', '*', '/'] ++ body else body
      let actual := if ['/', '*', '*'].isSuffixOf actual then actual ++ ['/', '*'] else actual
      (Glob.read? (String.ofList actual)).map fun g => { glob := g, keeps, directoryOnly }

/-- The byte order mark. -/
def byteOrderMark : Char := '\uFEFF'

/-- The lines of a file as a line reader gives them: split at line breaks, a carriage return
before a break dropped, and no line after a final break. Reading stops before the first line
that is not UTF-8. -/
def lines (bytes : List UInt8) : List String :=
  let parts := bytes.splitOn 10
  let parts := if parts.getLast? == some [] then parts.dropLast else parts
  let decoded := parts.map fun part =>
    let part := if part.getLast? == some 13 then part.dropLast else part
    String.fromUTF8? ⟨part.toArray⟩
  (decoded.takeWhile Option.isSome).filterMap id

/-- The rules of an ignore file's bytes. -/
def rulesOf (bytes : List UInt8) : List Rule :=
  let lines := match lines bytes with
    | first :: rest => String.ofList (first.toList.dropWhile (· == byteOrderMark)) :: rest
    | [] => []
  lines.filterMap Rule.ofLine?

/-- What the last applicable matching rule says about a path, relative to the file's
directory. -/
def verdict? (rules : List Rule) (path : String) (isDirectory : Bool) : Option Verdict :=
  let bytes := path.toUTF8.toList
  (rules.reverse.find? fun r => (!r.directoryOnly || isDirectory) && r.glob.matches bytes).map
    fun r => if r.keeps then .keep else .ignore

end Ignore
end ResultLint
