import BenchTally.Analysis.Settings
import BenchTally.Yaml.Document

set_option autoImplicit false
set_option relaxedAutoImplicit false

/-!
# Configuration files

The choices of a user in a yaml document: a mapping with one entry per choice. A choice without an
entry has its default. Entries that are unknown or told twice refuse the whole document.

## Main definitions

* `Choice` — the choices that a document may hold.
* `Options.ofEntries?` — the choices that the entries of a mapping tell.
* `Options.ofYaml?` — the choices that a document holds.
* `Options.load` — the choices that a configuration file holds.
-/

namespace BenchTally

/-- The choices that a document may hold. -/
inductive Choice where
  /-- The directory of the result files. -/
  | inputDir
  /-- The directory that is written to. -/
  | outputDir
  /-- The pattern that the names of result files match. -/
  | pattern
  /-- Whether a file that cannot be used ends the analysis. -/
  | strict
  deriving DecidableEq, Repr

/-- The choice with the given key. The output directory has two keys. -/
def Choice.ofKey? (key : String) : Option Choice :=
  if key = "input_dir" then some .inputDir
  else if key = "output_dir" ∨ key = "output" then some .outputDir
  else if key = "pattern" then some .pattern
  else if key = "strict" then some .strict
  else none

namespace Yaml

/-- The texts that stand for no value. -/
def Scalar.isNull (x : Scalar) : Bool :=
  ["null", "Null", "NULL", "~"].contains x.text

/-- The path that a scalar tells, which may be none. Only a plain text can tell that there is
none; its type may demand it. -/
def Scalar.path? (x : Scalar) : Option (Option Path) :=
  let told := some (some (Path.ofString x.text))
  if x.style ≠ .plain then told
  else
    match x.tag with
    | none => if x.text.isEmpty || x.isNull then some none else told
    | some tag =>
      if tag ≠ coreTag "null" then told
      else if x.isNull then some none
      else none

/-- The answer that a scalar tells. It is not told by a text with quotes. -/
def Scalar.answer? (x : Scalar) : Option Bool :=
  if x.style = .plain ∨ (x.style = .literal ∧ x.tag = some (coreTag "bool")) then
    if ["true", "True", "TRUE"].contains x.text then some true
    else if ["false", "False", "FALSE"].contains x.text then some false
    else none
  else none

end Yaml

namespace Options

/-- The options with one choice made. -/
def choose (o : Options) (choice : Choice) (value : Yaml.Scalar) : Option Options :=
  match choice with
  | .inputDir => value.path?.map fun p => { o with inputDir := p }
  | .outputDir => value.path?.map fun p => { o with outputDir := p }
  | .pattern => some { o with pattern := value.text }
  | .strict => value.answer?.map fun b => { o with strict := b }

/-- The choices that the entries of a mapping tell. -/
def ofEntries? (entries : List (Yaml.Entry Yaml.Scalar)) : Option Options := do
  let told ← entries.mapM fun e => (Choice.ofKey? e.key.text).map (·, e.value)
  if (told.map Prod.fst).Nodup then told.foldlM (fun o (choice, value) => o.choose choice value) {}
  else none

/-- The choices that a document holds. -/
def ofYaml? (text : String) : Option Options :=
  (Yaml.Document.entries? text.toList).bind ofEntries?

/-- The choices that a text holds, or the error of a text that is no such document. -/
def ofText (text : String) : Except ConfigError Options :=
  match ofYaml? text with
  | some o => .ok o
  | none => .error .invalidContent

/-- The choices that a configuration file holds. -/
def load (tree : FileTree) (file : Path) : Except ConfigError Options :=
  match tree.readFile file with
  | .error _ => .error .unreadable
  | .ok content =>
    match Text.decode? content with
    | none => .error .unreadable
    | some text => ofText text

end Options

end BenchTally
