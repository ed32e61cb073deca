import SourceGen.Value.Decode

/-!
# Settings of the generator

What the generated sources call things that no specification names.
-/

namespace SourceGen

structure Config where
  /-- The namespace of the opcode and dtype tables. -/
  tableNamespace : String := "egen"
  /-- What is called with a message when execution cannot go on. -/
  fatal : String := "global::fatal"
  /-- The same for a message with a format. -/
  fatalFormat : String := "global::fatalf"
  /-- The type that stands for template parameters in the binding module. -/
  bindingAlias : String := "PybindT"
  /-- What header guards begin with. -/
  guardStem : String := "_GENERATED"
deriving DecidableEq, Repr

namespace Config

def fields : RecordType :=
  ⟨"GenConfig", ["namespace", "fatalFn", "fatalfFn", "bindingAlias", "guardPrefix"]⟩

def decode : Decoder Config :=
  Decoder.record fields fun given ↦
    mk <$> given.defaulted "namespace" .text "egen"
      <*> given.defaulted "fatalFn" .text "global::fatal"
      <*> given.defaulted "fatalfFn" .text "global::fatalf"
      <*> given.defaulted "bindingAlias" .text "PybindT"
      <*> given.defaulted "guardPrefix" .text "_GENERATED"

/-- Settings by field name; a field that is not given keeps its usual value. -/
def ofEntries (entries : Entries String) : Config where
  tableNamespace := (entries.get? "namespace").getD "egen"
  fatal := (entries.get? "fatalFn").getD "global::fatal"
  fatalFormat := (entries.get? "fatalfFn").getD "global::fatalf"
  bindingAlias := (entries.get? "bindingAlias").getD "PybindT"
  guardStem := (entries.get? "guardPrefix").getD "_GENERATED"

def toValue (config : Config) : Value :=
  .record [("namespace", .text config.tableNamespace), ("fatalFn", .text config.fatal),
    ("fatalfFn", .text config.fatalFormat), ("bindingAlias", .text config.bindingAlias),
    ("guardPrefix", .text config.guardStem)]

/-- A character of a guard: letters in upper case, digits, and underscores for all else. -/
def guardChar (c : Char) : Char :=
  if c.isAlphanum then c.toUpper else '_'

/-- The macro that guards a header. -/
def guard (config : Config) (file : String) : String :=
  config.guardStem ++ "_" ++ String.ofList (file.toList.map guardChar)

end Config

end SourceGen
