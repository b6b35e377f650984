import RobotWorkshop.Settings.Check
import RobotWorkshop.Yaml.Document

/-!
From the text of a settings file to settings.
-/

namespace RobotWorkshop

/-- A text whose lines all end with a line feed, however they were ended. -/
def unifyLines (text : String) : String := String.ofList (go text.toList)
where
  go : List Char → List Char
    | '\r' :: '\n' :: rest => '\n' :: go rest
    | '\r' :: rest => '\n' :: go rest
    | c :: rest => c :: go rest
    | [] => []

/-- The settings that a text stands for. -/
def Settings.ofText? (text : String) : Checked Settings :=
  match Yaml.read (unifyLines text) with
  | .ok document => Settings.ofDocument? document
  | .error cause => .error (.document cause)

end RobotWorkshop
