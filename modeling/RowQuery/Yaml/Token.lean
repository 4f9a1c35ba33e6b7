/-!
# Tokens of a YAML text

Indentation shows as tokens of its own: a block sequence or mapping begins with one and ends with
`blockEnd`. `key` stands before every key, also before one that only its colon shows to be a key.
The end of the list is the end of the text.
-/
namespace RowQuery.Yaml

inductive Token
  | version (major minor : Nat)
  | handle (name expansion : String)
  | documentStart
  | documentEnd
  | sequenceStart
  | mappingStart
  | blockEnd
  | flowSequenceStart
  | flowSequenceEnd
  | flowMappingStart
  | flowMappingEnd
  | entry
  | comma
  | key
  | value
  | reference (name : String)
  | anchor (name : String)
  | tag (handle suffix : String)
  | scalar (isPlain : Bool) (text : String)
deriving DecidableEq, Repr

end RowQuery.Yaml
