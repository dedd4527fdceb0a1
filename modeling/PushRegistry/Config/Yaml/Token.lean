/-!
# `PushRegistry.Config.Yaml.Token`: the words of a YAML file

Tokens are indicators, scalars and the starts and ends of collections. Those of block
collections have no characters of their own: the indentation makes them.
-/

set_option autoImplicit false

namespace PushRegistry.Config.Yaml

/-- A word of a file. -/
inductive Token where
  | versionDirective
  /-- `handle` is short for `full` in the tags of the next document. -/
  | tagDirective (handle full : String)
  | documentStart
  | documentEnd
  | blockSequenceStart
  | blockMappingStart
  | blockEnd
  | flowSequenceStart
  | flowSequenceEnd
  | flowMappingStart
  | flowMappingEnd
  | blockEntry
  | flowEntry
  | key
  | value
  | alias (name : String)
  | anchor (name : String)
  | tag (handle suffix : String)
  /-- A scalar; plain ones have no quotes and no block indicator. -/
  | scalar (plain : Bool) (text : String)
  deriving DecidableEq, Repr

end PushRegistry.Config.Yaml
