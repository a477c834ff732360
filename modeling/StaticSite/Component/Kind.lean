/-!
# Kinds of components

The kinds that have a rule of their own. Any other tag is kept as it is written.
-/

namespace StaticSite

inductive Kind
  | text
  | heading
  | image
  | button
  | container
  | section
  | header
  | footer
  | form
  | input
  | textarea
  | select
  | navigation
  | breadcrumb
  | video
  | gallery
  | map
  | testimonial
  | pricing
  | team
  | stats
  | calendar
  | unknown (tag : String)
  deriving DecidableEq

/-- The kinds with a rule of their own, in the order of the palette. -/
def Kind.known : List Kind :=
  [.text, .heading, .image, .button, .container, .section, .header, .footer, .form, .input,
    .textarea, .select, .navigation, .breadcrumb, .video, .gallery, .map, .testimonial,
    .pricing, .team, .stats, .calendar]

def Kind.tag : Kind → String
  | .text => "text"
  | .heading => "heading"
  | .image => "image"
  | .button => "button"
  | .container => "container"
  | .section => "section"
  | .header => "header"
  | .footer => "footer"
  | .form => "form"
  | .input => "input"
  | .textarea => "textarea"
  | .select => "select"
  | .navigation => "navigation"
  | .breadcrumb => "breadcrumb"
  | .video => "video"
  | .gallery => "gallery"
  | .map => "map"
  | .testimonial => "testimonial"
  | .pricing => "pricing"
  | .team => "team"
  | .stats => "stats"
  | .calendar => "calendar"
  | .unknown tag => tag

/-- The known kind with this tag, or else an unknown kind that keeps it. -/
def Kind.ofTag (tag : String) : Kind :=
  (known.find? (·.tag = tag)).getD (.unknown tag)

/-- The markup shows the children of these kinds; other kinds have no use for children. -/
def Kind.acceptsChildren : Kind → Bool
  | .container | .section | .header | .footer | .form => true
  | _ => false

/-- Fields that a form shows among its own. -/
def Kind.isFormControl : Kind → Bool
  | .input | .textarea | .select => true
  | _ => false

/-- Kinds whose font shrinks on narrow screens. -/
def Kind.isTypographic : Kind → Bool
  | .text | .heading => true
  | _ => false

/-- Kinds that show every child as a component of its own. -/
def Kind.isWrapper : Kind → Bool
  | .container | .section | .header | .footer => true
  | _ => false

end StaticSite
