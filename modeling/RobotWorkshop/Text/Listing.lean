/-!
Lists and pairs as messages show them: `[1, 5]`, `(1, 0)`, `[(1, 2), (2, 1)]`.
-/

namespace RobotWorkshop

/-- Items between brackets, each but the last followed by a comma and a space. -/
def listing (items : List String) : String := "[" ++ ", ".intercalate items ++ "]"

/-- Two numbers in parentheses. -/
def pairText (x y : Int) : String := s!"({x}, {y})"

end RobotWorkshop
