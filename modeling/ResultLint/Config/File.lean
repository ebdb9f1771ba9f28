import ResultLint.Config.Basic
import ResultLint.Config.Yaml
import ResultLint.Config.Toml
import ResultLint.Path

/-!
# Configuration files

A configuration file is read by its extension: `yml` and `yaml` files as YAML, `toml` files as
TOML, and any other file as YAML or, failing that, as TOML. A file that cannot be read as a
configuration is refused with a message naming the syntax that was tried; the reason itself is
not shown.
-/

namespace ResultLint
namespace Config

/-- The syntaxes a configuration file may be written in. -/
inductive Syntax where
  | yaml
  | toml
  /-- YAML, or TOML if the text is not a YAML configuration. -/
  | either
  deriving DecidableEq, Repr, Inhabited

/-- The syntax a file extension selects. -/
def Syntax.ofExtension : String → Syntax
  | "yml" | "yaml" => .yaml
  | "toml" => .toml
  | _ => .either

/-- The syntax of the file at a path, chosen by the path's extension. -/
def Syntax.ofPath (path : String) : Syntax :=
  match Path.extension? path with
  | some e => ofExtension e
  | none => .either

/-- A configuration read from a YAML text. -/
def ofYaml (text : String) : Except String Config := Yaml.read text >>= ofValue .yaml

/-- A configuration read from a TOML text. -/
def ofToml (text : String) : Except String Config := Toml.read text >>= ofValue .toml

/-- A configuration read from the text of a file in a syntax, or the message refusing it. -/
def ofText (s : Syntax) (text : String) : Except String Config :=
  match s with
  | .yaml => (ofYaml text).mapError fun _ => "Failed to parse YAML config"
  | .toml => (ofToml text).mapError fun _ => "Failed to parse TOML config"
  | .either =>
    match ofYaml text with
    | .ok c => .ok c
    | .error _ => (ofToml text).mapError fun _ => "Failed to parse config file"

end Config
end ResultLint
