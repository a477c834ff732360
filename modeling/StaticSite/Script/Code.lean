/-!
# Lines of a script

A script as lines and blocks. What a block holds stands four blanks deeper than its head.
-/

namespace StaticSite.Script

inductive Code
  | line (text : String)
  /-- A head, the lines between braces, and what follows the closing brace. -/
  | block (head : String) (body : List Code) (tail : String)
  /-- A block for when a condition holds, and one for when it does not. -/
  | branch (condition : String) (yes no : List Code)
  | blank

def indent : String := "    "

mutual

/-- The lines of a piece of code, behind a margin. -/
def Code.write (margin : String) : Code → String
  | .line text => margin ++ text ++ "\n"
  | .block head body tail =>
    margin ++ head ++ " \x7b\n" ++ writeLines (margin ++ indent) body ++
      margin ++ "\x7d" ++ tail ++ "\n"
  | .branch condition yes no =>
    margin ++ "if (" ++ condition ++ ") \x7b\n" ++ writeLines (margin ++ indent) yes ++
      margin ++ "\x7d else \x7b\n" ++ writeLines (margin ++ indent) no ++ margin ++ "\x7d\n"
  | .blank => "\n"

def writeLines (margin : String) : List Code → String
  | [] => ""
  | code :: rest => code.write margin ++ writeLines margin rest

end

end StaticSite.Script
