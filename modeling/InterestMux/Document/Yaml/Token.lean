/-!
# Tokens of YAML

The tokens that a YAML text consists of. Where a text marks the start of a block collection or of
a key by its layout alone, there is a token for it all the same.
-/

namespace InterestMux.Yaml

/-- A token. -/
inductive Token where
  /-- A directive with a version. -/
  | version
  /-- A directive that a handle of tags stands for a text. -/
  | handle (name meaning : String)
  | documentStart
  | documentEnd
  | blockList
  | blockMap
  | blockEnd
  | flowList
  | flowListEnd
  | flowMap
  | flowMapEnd
  /-- A hyphen in front of an item of a block list. -/
  | item
  /-- A comma in a flow collection. -/
  | comma
  | key
  | value
  | anchor (name : String)
  | alias (name : String)
  /-- A tag: its handle and what follows it. -/
  | tag (handle suffix : String)
  | scalar (isPlain : Bool) (text : String)
deriving DecidableEq, Repr, Inhabited

end InterestMux.Yaml
