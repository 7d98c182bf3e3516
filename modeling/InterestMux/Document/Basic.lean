import InterestMux.Binary64.Basic

/-!
# Documents

The value of a structured data document: what a settings file holds, and the form in which
interests and sources are stored. The entries of a map keep their order and may repeat a key.
-/

namespace InterestMux

/-- The value of a structured data document. -/
inductive Document where
  | null
  | boolean (value : Bool)
  | integer (value : Int)
  | real (value : Binary64)
  | text (value : String)
  | list (items : List Document)
  | map (entries : List (String × Document))
deriving Inhabited

namespace Document

/-- The value of the last entry with the key. -/
def lookup? (key : String) (entries : List (String × Document)) : Option Document :=
  (entries.reverse.find? fun entry => entry.1 == key).map (·.2)

mutual

/-- How many maps and lists enclose the innermost value. -/
def depth : Document → Nat
  | list items => depthOfItems items + 1
  | map entries => depthOfEntries entries + 1
  | _ => 0

/-- The greatest depth in a list. -/
def depthOfItems : List Document → Nat
  | [] => 0
  | item :: items => max (depth item) (depthOfItems items)

/-- The greatest depth among the values of a map. -/
def depthOfEntries : List (String × Document) → Nat
  | [] => 0
  | (_, value) :: entries => max (depth value) (depthOfEntries entries)

end

/-- The name of a constant: the text itself, or the one key of a map whose value is null. -/
def constant? : Document → Option String
  | text name => some name
  | map [(name, null)] => some name
  | _ => none

/-- The value as a 64-bit unsigned integer. -/
def word64? : Document → Option UInt64
  | integer n => if 0 ≤ n ∧ n < UInt64.size then some (UInt64.ofNat n.toNat) else none
  | _ => none

/-- The value as a 32-bit unsigned integer. -/
def word32? : Document → Option UInt32
  | integer n => if 0 ≤ n ∧ n < UInt32.size then some (UInt32.ofNat n.toNat) else none
  | _ => none

end Document

end InterestMux
