/-!
# Journal entries

What a component writes about itself: a level, a message and named fields.
-/

namespace InterestMux

/-- How important a journal entry is. -/
inductive Level where
  | debug
  | info
  | warn
deriving DecidableEq, Repr, Inhabited

/-- One entry of a journal. -/
structure Entry where
  level : Level
  message : String
  fields : List (String × String) := []
deriving DecidableEq, Inhabited

/-- The name of a level. -/
def Level.text : Level → String
  | .debug => "DEBUG"
  | .info => "INFO"
  | .warn => "WARN"

namespace Entry

/-- The level, the message and the fields with equality signs, with blanks between them. -/
def text (e : Entry) : String :=
  " ".intercalate ((e.level.text :: e.message :: e.fields.map fun f => f.1 ++ "=" ++ f.2))

end Entry

end InterestMux
