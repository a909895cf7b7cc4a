/-! Values as they stand in diagnostics: a name, and the fields in braces. -/

set_option autoImplicit false

namespace TunnelBroker.Text

def labelled (name : String) (fields : List (String × String)) : String :=
  name ++ " \x7b " ++ ", ".intercalate (fields.map fun field => field.1 ++ ": " ++ field.2) ++
    " \x7d"

def optional : Option String → String
  | none => "None"
  | some text => "Some(" ++ text ++ ")"

end TunnelBroker.Text
