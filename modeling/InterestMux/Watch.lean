/-!
# Watched values

A watched value keeps only its latest publication, numbered by a version. An observer remembers
the version that it saw last; it never learns of publications that another one replaced.
-/

namespace InterestMux

/-- A value with the number of its publications so far. -/
structure Watch (α : Type) where
  value : α
  version : Nat := 0
deriving DecidableEq, Inhabited

namespace Watch

variable {α : Type}

/-- Replaces the value, whether or not the new one is equal to it. -/
def publish (w : Watch α) (value : α) : Watch α :=
  ⟨value, w.version + 1⟩

/-- There is a publication after the version that an observer saw last. -/
def changedSince (w : Watch α) (seen : Nat) : Bool :=
  w.version != seen

@[simp] theorem publish_value (w : Watch α) (value : α) : (w.publish value).value = value := rfl

@[simp] theorem publish_version (w : Watch α) (value : α) :
    (w.publish value).version = w.version + 1 := rfl

end Watch

end InterestMux
