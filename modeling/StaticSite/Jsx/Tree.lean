import StaticSite.Text.Escape

/-!
# JSX trees

The returned element of a page module as a tree, and its text. Texts and attribute values
are escaped as in HTML; handlers and comments are written as they are.
-/

namespace StaticSite

namespace Jsx

inductive Attribute
  | quoted (name value : String)
  /-- A function that runs some code. -/
  | handler (name code : String)

end Jsx

inductive Jsx
  | text (s : String)
  | comment (s : String)
  | selfClosing (tag : String) (attributes : List Jsx.Attribute)
  | element (tag : String) (attributes : List Jsx.Attribute) (children : List Jsx)

namespace Jsx

def Attribute.write (mode : EscapeMode) : Attribute → String
  | .quoted name value => " " ++ name ++ "=\"" ++ mode.html value ++ "\""
  | .handler name code => " " ++ name ++ "=\x7b() => \x7b " ++ code ++ " \x7d\x7d"

def writeAttributes (mode : EscapeMode) (attributes : List Attribute) : String :=
  String.join (attributes.map (Attribute.write mode))

mutual

def write (mode : EscapeMode) : Jsx → String
  | .text s => mode.html s
  | .comment s => "\x7b/* " ++ s ++ " */\x7d"
  | .selfClosing tag attributes => "<" ++ tag ++ writeAttributes mode attributes ++ " />"
  | .element tag attributes children =>
    "<" ++ tag ++ writeAttributes mode attributes ++ ">" ++ writeAll mode children ++ "</" ++
      tag ++ ">"

def writeAll (mode : EscapeMode) : List Jsx → String
  | [] => ""
  | node :: rest => node.write mode ++ writeAll mode rest

end

end Jsx

end StaticSite
