/-! Cutting a text at a separator. The separator belongs to neither side. -/

set_option autoImplicit false

namespace TunnelBroker.Text

def cut? (separator : List Char) : List Char → Option (List Char × List Char)
  | [] => if separator.isEmpty then some ([], []) else none
  | c :: text =>
    match separator.isPrefixOf? (c :: text) with
    | some after => some ([], after)
    | none => (cut? separator text).map fun sides => (c :: sides.1, sides.2)

def cutLast? (separator : Char) : List Char → Option (List Char × List Char)
  | [] => none
  | c :: text =>
    match cutLast? separator text with
    | some sides => some (c :: sides.1, sides.2)
    | none => if c = separator then some ([], text) else none

end TunnelBroker.Text
