import InterestMux.Source

/-!
# Notifications

A change of one registered instance, and the same change tagged with the source it came from.
Subscribers get changes without tags.
-/

namespace InterestMux

/-- What happened to an instance. -/
inductive ChangeKind where
  | add
  | modify
  | delete
deriving DecidableEq, Repr, Inhabited

/-- A change of one instance. -/
structure Change (α : Type) where
  kind : ChangeKind
  data : α
deriving DecidableEq, BEq, Inhabited

/-- A change as the registry reports it, with or without its source. -/
inductive Notification (α : Type) where
  | plain (change : Change α)
  | tagged (change : Change α) (source : Source)
deriving DecidableEq, BEq, Inhabited

namespace ChangeKind

/-- The name of a kind. -/
def text : ChangeKind → String
  | .add => "add"
  | .modify => "modify"
  | .delete => "delete"

/-- The kind with the name. -/
def ofText? (name : String) : Option ChangeKind :=
  if name = "add" then some .add
  else if name = "modify" then some .modify
  else if name = "delete" then some .delete
  else none

/-- The kind that a document stands for. -/
def ofDocument? (d : Document) : Option ChangeKind :=
  d.constant?.bind ofText?

end ChangeKind

namespace Notification

variable {α : Type}

/-- The change, tagged if a source is given. -/
def ofChange (change : Change α) : Option Source → Notification α
  | some source => .tagged change source
  | none => .plain change

/-- The source of the change. -/
def source? : Notification α → Option Source
  | .plain _ => none
  | .tagged _ source => some source

/-- The change without its source. -/
def untag : Notification α → Change α
  | .plain change => change
  | .tagged change _ => change

@[simp] theorem untag_ofChange (change : Change α) (source : Option Source) :
    (ofChange change source).untag = change := by
  cases source <;> rfl

@[simp] theorem source?_ofChange (change : Change α) (source : Option Source) :
    Notification.source? (ofChange change source) = source := by
  cases source <;> rfl

/-- A notification is its change and its source, and nothing else. -/
theorem ofChange_untag (n : Notification α) : ofChange n.untag n.source? = n := by
  cases n <;> rfl

end Notification

end InterestMux
