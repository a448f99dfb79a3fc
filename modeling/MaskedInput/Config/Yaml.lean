import MaskedInput.Config.Basic
import MaskedInput.Yaml.Reader

/-!
# Configurations written in YAML

The root of the text is a mapping, and its member `fields` gives the definitions by name.

```yaml
fields:
  card:
    mask: "[0000] [0000] [0000] [0000]"
    affine_formats: ["[0000] [000000] [00000]"]
    affinity_strategy: prefix
  color:
    mask: "#[HHHHHH]"
    notations:
      - symbol: "H"
        characters: "0123456789abcdefABCDEF"
```

Only `mask`, and `symbol` and `characters` of a notation, have to be there.  Members with other
names are passed over, whatever their values are; a member that is there twice is an error, but of
two fields with the same name the later one counts.

* `Definition.read`, `Config.read` — a definition and a configuration read from their nodes.
* **`Config.ofYaml`** — the configuration of a text.
* `Config.ofFile`, `Config.load` — the configuration of a file, given its octets, and what is in force.
-/

namespace MaskedInput

open Yaml (Reader)

def Strategy.named? (name : List Char) : Option Strategy :=
  if name = "whole_string".toList then some .wholeString
  else if name = "prefix".toList then some .commonStart
  else none

def Notation.read (node : Yaml.Node Nat) : Reader Notation := do
  let r ← Reader.record node
  return {
    symbol := ← r.required "symbol" Reader.char
    characters := ← r.required "characters" Reader.text
    optional := ← r.optional "optional" Reader.flag false }

def Definition.read (node : Yaml.Node Nat) : Reader Definition := do
  let r ← Reader.record node
  return {
    mask := ← r.required "mask" Reader.text
    affineFormats := ← r.optional "affine_formats" (Reader.list Reader.text) []
    strategy :=
      ← r.optional "affinity_strategy" (Reader.choice Strategy.named?) .wholeString
    autocomplete := ← r.optional "autocomplete" Reader.flag true
    notations := ← r.optional "notations" (Reader.list Notation.read) []
    rightToLeft := ← r.optional "right_to_left" Reader.flag false
    autoskip := ← r.optional "autoskip" Reader.flag false
    autocompleteOnFocus := ← r.optional "autocomplete_on_focus" Reader.flag false }

namespace Config

/-- The definitions of a mapping, in the order of the text. -/
def readFields (node : Yaml.Node Nat) : Reader (List (FieldName × Definition)) := do
  (← Reader.record node).mapM fun (name, d) => do return (name, ← Definition.read d)

def read (node : Yaml.Node Nat) : Reader Config := do
  let r ← Reader.record node
  return ofList (← r.optional "fields" readFields [])

/-- The configuration that a text stands for, whether its patterns compile or not. -/
def parse? (text : List Char) : Option Config := Yaml.read? read text

/-- **The configuration of a text.** -/
def ofYaml (text : List Char) : Except ConfigError Config := ofText parse? text

/-- The configuration of a file, given its octets; there are none if the file does not exist. -/
def ofFile (octets : Option ByteArray) : Except ConfigError Config := ofOctets parse? octets

/-- The configuration that is in force: an empty one where the file gives none. -/
def load (octets : Option ByteArray) : Config := inForce parse? octets

end Config

end MaskedInput
