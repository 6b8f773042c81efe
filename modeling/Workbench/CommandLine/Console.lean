set_option autoImplicit false

namespace Workbench

def labelled (label line : String) : String :=
  if label.isEmpty then line else "[" ++ label ++ "] " ++ line

structure Printed where
  out : List String := []
  err : List String := []
  deriving DecidableEq, Repr

def linesText (lines : List String) : String :=
  String.join (lines.map (· ++ "\n"))

end Workbench
