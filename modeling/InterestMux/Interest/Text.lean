import InterestMux.Interest.Basic
import InterestMux.Text.Quoted

/-!
# Texts of interests

`Interest.text` is the short form that logs show; `Interest.detail` names the constructors and
quotes the texts.
-/

namespace InterestMux.Interest

mutual

/-- The short form of an interest. -/
def text : Interest → String
  | empty => "none"
  | all => "all"
  | application name => "app=" ++ name
  | vip address => "vip=" ++ address
  | instanceId id => "id=" ++ id
  | union xs => "(" ++ " | ".intercalate (texts xs) ++ ")"

/-- The short forms of the members of a union. -/
def texts : List Interest → List String
  | [] => []
  | x :: xs => text x :: texts xs

end

mutual

/-- The constructor form of an interest. -/
def detail : Interest → String
  | empty => "Empty"
  | all => "All"
  | application name => "Application(" ++ Quoted.encode name ++ ")"
  | vip address => "Vip(" ++ Quoted.encode address ++ ")"
  | instanceId id => "Instance(" ++ Quoted.encode id ++ ")"
  | union xs => "Union(\x7b" ++ ", ".intercalate (details xs) ++ "\x7d)"

/-- The constructor forms of the members of a union. -/
def details : List Interest → List String
  | [] => []
  | x :: xs => detail x :: details xs

end

end InterestMux.Interest
