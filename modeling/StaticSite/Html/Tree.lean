import StaticSite.Text.Escape

/-!
# HTML trees

The output of the generator as a tree, and the one place where such a tree becomes text.
Texts and attribute values are escaped there; what is marked as code is not.
-/

namespace StaticSite

inductive Attribute
  /-- A value in double quotes. -/
  | quoted (name value : String)
  /-- A name without a value. -/
  | bare (name : String)
  /-- A value that is written as it is. -/
  | code (name code : String)

inductive Html
  | text (s : String)
  /-- Written as it is: a declaration, a style sheet, a script or a block of PHP. -/
  | code (s : String)
  /-- An element without content and without an end tag. -/
  | void (tag : String) (attributes : List Attribute)
  | element (tag : String) (attributes : List Attribute) (children : List Html)

def Attribute.write (mode : EscapeMode) : Attribute → String
  | .quoted name value => " " ++ name ++ "=\"" ++ mode.html value ++ "\""
  | .bare name => " " ++ name
  | .code name text => " " ++ name ++ "=\"" ++ text ++ "\""

def writeAttributes (mode : EscapeMode) (attributes : List Attribute) : String :=
  String.join (attributes.map (Attribute.write mode))

def startTag (mode : EscapeMode) (tag : String) (attributes : List Attribute) : String :=
  "<" ++ tag ++ writeAttributes mode attributes ++ ">"

mutual

def Html.write (mode : EscapeMode) : Html → String
  | .text s => mode.html s
  | .code s => s
  | .void tag attributes => startTag mode tag attributes
  | .element tag attributes children =>
    startTag mode tag attributes ++ writeAll mode children ++ "</" ++ tag ++ ">"

/-- The texts of siblings, one behind the other. -/
def writeAll (mode : EscapeMode) : List Html → String
  | [] => ""
  | node :: rest => node.write mode ++ writeAll mode rest

end

def Html.newline : Html := .text "\n"

/-- Siblings on lines of their own. -/
def Html.onLines (nodes : List Html) : List Html :=
  nodes.intersperse newline

end StaticSite
