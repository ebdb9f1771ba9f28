import ResultLint.Config.Value
import ResultLint.Config.Yaml.Node

/-!
# YAML configuration documents

Reads the YAML a configuration file is written in into a document value. The whole stream
must be read without fault and hold at most one document; an empty stream is an empty plain
scalar, which reads as the default configuration.

Scalars stay untyped (`Value.scalar`), with whether they were written plain and their tag: the
field that reads one decides whether it is a text, a boolean or a profile.

An alias reads as a copy of the node its anchor named. An alias may name a node it lies in, so
copies are made only down to `readDepth` levels, counting each alias as a level; deeper nodes
read as null. No field of a configuration is read that deep.
-/

namespace ResultLint
namespace Config
namespace Yaml

/-- The depth to which a document is read: a configuration reads a field of an entry of a
sequence field, four levels, each of which may be an alias. -/
def readDepth : Nat := 8

/-- The value of a node, aliases replaced by copies of the anchored nodes, down to `depth`
levels. -/
def Node.toValue (anchored : Array Node) : Nat → Node → Value
  | 0, _ => .null
  | _ + 1, .scalar text style tag => .scalar text (style == .plain) tag
  | d + 1, .seq items => .seq (items.map (Node.toValue anchored d))
  | d + 1, .map entries => .map (entries.map fun e => (Node.toValue anchored d e.1, Node.toValue anchored d e.2))
  | d + 1, .alias id =>
    match anchored[id]? with
    | some n => Node.toValue anchored d n
    | none => .null

/-- The value of a document. -/
def Document.value (d : Document) : Value := d.root.toValue d.anchored readDepth

/-- Reads a YAML text into the value of its one document. -/
def read (text : String) : Except String Value := do
  let documents ← Document.ofTokens (← Token.scan text)
  match documents with
  | [] => pure (.scalar "" true none)
  | [d] => pure d.value
  | _ => throw "more than one document"

end Yaml
end Config
end ResultLint
