import StaticSite.Text.Escape

/-!
# Blocks of a style sheet

A style sheet is a list of blocks: rules for a selector, and media blocks that hold rules
for narrow screens. Selectors, properties and values are escaped where they are written.
-/

namespace StaticSite.Css

structure Declaration where
  property : String
  value : String

structure Rule where
  selector : String
  declarations : List Declaration

inductive Block
  | rule (rule : Rule)
  | media (condition : String) (rules : List Rule)

def margin (depth : Nat) : String :=
  String.ofList (List.replicate (4 * depth) ' ')

def Declaration.write (mode : EscapeMode) (depth : Nat) (d : Declaration) : String :=
  margin depth ++ mode.css d.property ++ ": " ++ mode.css d.value ++ ";\n"

def Rule.write (mode : EscapeMode) (depth : Nat) (r : Rule) : String :=
  margin depth ++ mode.css r.selector ++ " \x7b\n" ++
    String.join (r.declarations.map (Declaration.write mode (depth + 1))) ++
    margin depth ++ "\x7d\n"

def Block.write (mode : EscapeMode) : Block → String
  | .rule r => r.write mode 0
  | .media condition rules =>
    "@media (" ++ condition ++ ") \x7b\n" ++
      String.intercalate "\n" (rules.map (Rule.write mode 1)) ++ "\x7d\n"

end StaticSite.Css
