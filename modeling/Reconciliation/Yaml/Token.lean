import Reconciliation.Yaml.Cursor
/-!
# Tokens of YAML

The tokens of a text make its layout explicit: block collections have a token for their start and their
end, and keys have one before them. A text that stops making sense ends in the token `invalid`, which no
grammar accepts, so a document before that place can still be read.
-/

namespace Reconciliation

namespace Yaml

/-- A tag as it is written: a handle, which is empty for a whole tag, and a suffix. -/
structure TagName where
  handle : String
  suffix : String
  deriving DecidableEq, Repr

/-- A token. -/
inductive Token where
  | version (major minor : Nat)
  | handle (handle leading : String)
  | documentStart
  | documentEnd
  | blockSequence
  | blockMapping
  | blockEnd
  | flowSequence
  | flowSequenceEnd
  | flowMapping
  | flowMappingEnd
  | blockEntry
  | flowEntry
  | key
  | value
  | alias (name : String)
  | anchor (name : String)
  | tag (name : TagName)
  | scalar (plain : Bool) (text : String)
  | invalid (error : Error)
  deriving DecidableEq, Repr

end Yaml

end Reconciliation
