import StaticSite.Proofs.Html.Templates
import StaticSite.Proofs.Php.Splitter

/-!
# Splitting PHP documents of pages

In escaped mode the document of a page has three blocks of PHP: the one in front, which assigns the
title and the description as they are, and the two that show these. Everything else is inline, and
no text of the user begins a block, ends one or gets into one.
-/

namespace StaticSite

open Html Php Text

/-! ## Inline markup -/

namespace Html

theorem angleFree_of_isName {s : String} (h : isName s = true) : AngleFree s := by
  intro hmem
  exact absurd (isName_chars h '<' hmem) (by decide)

theorem angleFree_attributes (attributes : List Attribute)
    (hnames : ∀ a ∈ attributes, isName a.name = true)
    (hvalues : ∀ s ∈ attributes.filterMap (·.value? .escaped), Harmless s) :
    AngleFree (writeAttributes .escaped attributes) := by
  apply angleFree_join
  intro s hs
  obtain ⟨a, ha, rfl⟩ := List.mem_map.mp hs
  have hname := angleFree_of_isName (hnames a ha)
  have hvalue : ∀ v ∈ a.value? .escaped, AngleFree v := fun v hv =>
    (hvalues v (List.mem_filterMap.mpr ⟨a, ha, hv⟩)).angle
  cases a with
  | quoted name value =>
      simp only [Attribute.write, angleFree_append]
      exact ⟨⟨⟨⟨by decide, hname⟩, by decide⟩, hvalue _ rfl⟩, by decide⟩
  | bare name =>
      simp only [Attribute.write, angleFree_append]
      exact ⟨by decide, hname⟩
  | code name s =>
      simp only [Attribute.write, angleFree_append]
      exact ⟨⟨⟨⟨by decide, hname⟩, by decide⟩, hvalue _ rfl⟩, by decide⟩

theorem staysInline_startTag {tag : String} {attributes : List Attribute}
    (h : IsTemplate .escaped tag attributes) : StaysInline (startTag .escaped tag attributes) := by
  obtain ⟨hname, hnames⟩ := templates_names .escaped _ h.known
  have hattributes := angleFree_attributes attributes
    (fun a ha => hnames a.name (List.mem_map_of_mem ha)) fun s hs => h.written_escaped hs
  obtain ⟨c, rest, htag⟩ := List.exists_cons_of_ne_nil (isName_ne_nil hname)
  have hquestion : c ≠ '?' := by
    rintro rfl
    have hchar := isName_chars hname '?' (by simp [htag])
    exact absurd hchar (by decide)
  have hfree : AngleFree (tag ++ writeAttributes .escaped attributes ++ ">") := by
    rw [angleFree_append, angleFree_append]
    exact ⟨⟨angleFree_of_isName hname, hattributes⟩, by decide⟩
  have htail := staysInline_cons (staysInline_of_angleFree hfree) (c := c) (by simp [htag])
    hquestion
  simpa only [startTag, String.append_assoc] using htail

theorem staysInline_endTag {tag : String} (hname : isName tag = true) :
    StaysInline ("</" ++ tag ++ ">") := by
  have hfree : AngleFree ("/" ++ tag ++ ">") := by
    rw [angleFree_append, angleFree_append]
    exact ⟨⟨by decide, angleFree_of_isName hname⟩, by decide⟩
  have htail := staysInline_cons (staysInline_of_angleFree hfree) (c := '/') (by simp) (by decide)
  have hopen : "</" = "<" ++ "/" := by decide
  simpa only [hopen, String.append_assoc] using htail

theorem AllFromTemplates.staysInline {nodes : List Html} (h : AllFromTemplates .escaped nodes) :
    StaysInline (writeAll .escaped nodes) := by
  induction nodes using Html.induction with
  | nil => exact staysInline_of_angleFree (by simp [writeAll])
  | text s rest ih =>
      have htext : AngleFree (EscapeMode.escaped.html s) := (harmless_escapeHtml s).angle
      rw [writeAll, Html.write]
      exact staysInline_append (staysInline_of_angleFree htext) (ih h.2.2)
  | code s rest ih => exact absurd h.1 (by simp [FromTemplates])
  | void tag attributes rest ih =>
      rw [writeAll, Html.write]
      exact staysInline_append (staysInline_startTag h.1.2) (ih h.2.2)
  | element tag attributes children rest ihChildren ihRest =>
      obtain ⟨_, htemplate, hchildren⟩ := h.1
      have hname := (templates_names .escaped _ htemplate.known).1
      have helement := staysInline_append
        (staysInline_append (staysInline_startTag htemplate) (ihChildren hchildren))
        (staysInline_endTag hname)
      rw [writeAll, Html.write]
      simp only [String.append_assoc] at helement ⊢
      have hwhole := staysInline_append helement (ihRest h.2.2)
      simpa only [String.append_assoc] using hwhole

end Html

/-! ## The parts of a document -/

def assigningBlock (title description : String) : List Piece :=
  [.code "php\n", .comment " SiteForge generated PHP page", .code "\n\n$pageTitle = ",
    .literal title, .code ";\n$pageDescription = ", .literal description, .code ";\n\n"]

def showingBlock (name : String) : List Piece :=
  [.code ("php echo htmlspecialchars($" ++ name ++ "); ")]

/-! The inline texts of the template, up to the language, the title, the description, the style
sheet, the components and the script, and behind all of these. -/

def phpOpening : String :=
  "<!DOCTYPE html>\n<html lang=\""

def phpToTitle : String :=
  "\">\n<head>\n    <meta charset=\"UTF-8\">\n    " ++
    "<meta name=\"viewport\" content=\"width=device-width, initial-scale=1.0\">\n    <title>"

def phpToDescription : String :=
  "</title>\n    <meta name=\"description\" content=\""

def phpToStyle : String :=
  "\">\n    <style>\n"

def phpToBody : String :=
  "\n    </style>\n</head>\n<body>\n"

def phpToScript : String :=
  "\n    <script>\n"

def phpClosing : String :=
  "\n    </script>\n</body>\n</html>\n"

def phpFront (lang : String) : String :=
  phpOpening ++ escapeHtml lang ++ phpToTitle

def Page.phpBack (page : Page) : String :=
  phpToStyle ++ page.css .escaped ++ phpToBody ++ page.components.render .escaped ++
    phpToScript ++ page.js .escaped ++ phpClosing

theorem phpOpening_eq :
    phpOpening = "<!DOCTYPE html>\n" ++ ("<" ++ ("html" ++ (" " ++ ("lang" ++ "=\"")))) := by
  decide

theorem phpToTitle_eq : phpToTitle = "\"" ++ (">" ++ (Html.newline.write .escaped ++
    (startTag .escaped "head" [] ++ (Html.newline.write .escaped ++
      (writeAll .escaped (headLine (.void "meta" [.quoted "charset" "UTF-8"])) ++
        (writeAll .escaped (headLine (metaContent "name" "viewport"
          (.quoted "content" "width=device-width, initial-scale=1.0"))) ++ "    <title>")))))) := by
  decide

theorem phpTitle_eq : writeAll .escaped (phpTitle .escaped) =
    "    <title>" ++ (phpEcho .escaped "pageTitle" ++
      (phpToDescription ++ (phpEcho .escaped "pageDescription" ++ "\">\n"))) := by
  decide

theorem phpToStyle_eq : phpToStyle = "\">\n" ++ ((Html.text "    ").write .escaped ++
    (startTag .escaped "style" [] ++ "\n")) := by
  decide

theorem phpToBody_eq : phpToBody = "\n    " ++ ("</" ++ ("style" ++ (">" ++
    (Html.newline.write .escaped ++ ("</" ++ ("head" ++ (">" ++ (Html.newline.write .escaped ++
      (startTag .escaped "body" [] ++ Html.newline.write .escaped))))))))) := by
  decide

theorem phpToScript_eq : phpToScript =
    (Html.text "\n    ").write .escaped ++ (startTag .escaped "script" [] ++ "\n") := by
  decide

theorem phpClosing_eq : phpClosing = "\n    " ++ ("</" ++ ("script" ++ (">" ++
    (Html.newline.write .escaped ++ ("</" ++ ("body" ++ (">" ++ (Html.newline.write .escaped ++
      ("</" ++ ("html" ++ (">" ++ Html.newline.write .escaped))))))))))) := by
  decide

theorem Html.write_element (mode : EscapeMode) (tag : String) (attributes : List Attribute)
    (children : List Html) : (Html.element tag attributes children).write mode =
      startTag mode tag attributes ++ (writeAll mode children ++ ("</" ++ (tag ++ ">"))) := by
  simp only [Html.write, String.append_assoc]

theorem Html.write_code (mode : EscapeMode) (s : String) : (Html.code s).write mode = s := by
  rw [Html.write]

theorem Page.phpDocument_eq (lang : String) (page : Page) (project : Project) :
    page.phpDocument ⟨lang, .escaped⟩ project =
      (Head.ofPage page project).phpPreamble ++ (phpFront lang ++ (phpEcho .escaped "pageTitle" ++
        (phpToDescription ++ (phpEcho .escaped "pageDescription" ++ page.phpBack)))) := by
  have hfront : phpFront lang = "<!DOCTYPE html>\n" ++
      (startTag .escaped "html" [.quoted "lang" lang] ++ (Html.newline.write .escaped ++
        (startTag .escaped "head" [] ++ (Html.newline.write .escaped ++
          (writeAll .escaped (headLine (.void "meta" [.quoted "charset" "UTF-8"])) ++
            (writeAll .escaped (headLine (metaContent "name" "viewport"
              (.quoted "content" "width=device-width, initial-scale=1.0"))) ++
              "    <title>")))))) := by
    simp only [phpFront, phpOpening_eq, phpToTitle_eq, startTag, writeAttributes, Attribute.write,
      EscapeMode.html, String.append_assoc, List.map_cons, List.map_nil, String.join_cons,
      String.join_nil, String.empty_append]
  have hstyle (code : String) : writeAll .escaped (headLine (.element "style" [] [.code code])) =
      (Html.text "    ").write .escaped ++ (startTag .escaped "style" [] ++ (code ++ ("</" ++
        ("style" ++ (">" ++ Html.newline.write .escaped))))) := by
    simp only [headLine, writeAll, Html.write_element, Html.write_code, String.append_assoc,
      String.append_empty]
  simp only [Page.phpDocument, Page.documentTree, writeAll, writeAll_append, Html.write_element,
    Html.write_code, hfront, hstyle, phpTitle_eq, Page.phpBack, phpToStyle_eq, phpToBody_eq,
    phpToScript_eq, phpClosing_eq, Forest.render, List.cons_append, List.nil_append,
    String.append_assoc, String.append_empty]

/-! ## Splitting a document -/

section Blocks

variable (done : List Part)

/-- The block in front takes title and description as they are, whatever these hold. -/
theorem Head.read_preamble (head : Head) :
    Text.read Splitter.step ⟨done, .inline []⟩ head.phpPreamble =
      some ⟨done ++ [.block (assigningBlock head.title head.description)], .inline []⟩ := by
  have hpreamble : head.phpPreamble = "<?" ++ ("php\n" ++
      (("//" ++ " SiteForge generated PHP page" ++ "\n") ++ ("\n$pageTitle = " ++
        (phpLiteral head.title ++ (";\n$pageDescription = " ++ (phpLiteral head.description ++
          (";\n\n" ++ ("?>" ++ "\n")))))))) := by
    unfold Head.phpPreamble
    rw [← String.toList_inj]
    simp
  rw [hpreamble, Text.read_append, Splitter.read_open, Option.bind_some, Text.read_append,
    Splitter.read_code _ _ _ (by decide), Option.bind_some, Text.read_append,
    Splitter.read_comment _ _ _ (by decide) (by decide), Option.bind_some, Text.read_append,
    Splitter.read_code _ _ _ (by decide), Option.bind_some, Text.read_append,
    Splitter.read_literal, Option.bind_some, Text.read_append,
    Splitter.read_code _ _ _ (by decide), Option.bind_some, Text.read_append,
    Splitter.read_literal, Option.bind_some, Text.read_append,
    Splitter.read_code _ _ _ (by decide), Option.bind_some, Text.read_append,
    Splitter.read_close, Option.bind_some]
  have hbreaks : ['\n'] ++ "\n$pageTitle = ".toList = "\n\n$pageTitle = ".toList := by decide
  simp only [List.nil_append, hbreaks, ne_eq, String.reduceEq, not_false_eq_true,
    Piece.codeRun_toList, Part.inlineRun, List.isEmpty_nil, if_true, List.append_nil]
  simp [Text.read, Splitter.step, assigningBlock]

theorem read_phpEcho (chars : List Char) {name : String}
    (hname : name.toList.all Splitter.isPlain = true) :
    Text.read Splitter.step ⟨done, .inline chars⟩ (phpEcho .escaped name) =
      some ⟨done ++ Part.inlineRun chars ++ [.block (showingBlock name)], .behindBlock⟩ := by
  have hecho : phpEcho .escaped name =
      "<?" ++ (("php echo htmlspecialchars($" ++ name ++ "); ") ++ "?>") := by
    have hunfolded : phpEcho .escaped name =
        "<?php echo htmlspecialchars($" ++ name ++ "); ?>" := by
      unfold phpEcho
      exact rfl
    rw [hunfolded, ← String.toList_inj]
    simp
  have hplain : ("php echo htmlspecialchars($" ++ name ++ "); ").toList.all Splitter.isPlain =
      true := by
    simp only [String.toList_append, List.all_append, hname]
    decide
  rw [hecho, Text.read_append, Splitter.read_open, Option.bind_some, Text.read_append,
    Splitter.read_code _ _ _ hplain, Option.bind_some, Splitter.read_close, List.nil_append,
    List.nil_append, Piece.codeRun_toList (by simp), showingBlock]

end Blocks

theorem Page.staysInline_phpBack {page : Page} (hstyles : AngleFree page.styles)
    (hscripts : AngleFree page.scripts) : StaysInline page.phpBack := by
  have hcss : AngleFree (page.css .escaped) := by
    rw [Page.css, angleFree_append, angleFree_append]
    exact ⟨⟨page.components.angleFree_stylesheet, by decide⟩, hstyles⟩
  have hjs : AngleFree (page.js .escaped) := by
    rw [Page.js, angleFree_append, angleFree_append]
    exact ⟨⟨page.components.angleFree_script, by decide⟩, hscripts⟩
  have hfixed : ∀ s ∈ [phpToStyle, phpToBody, phpToScript, phpClosing], StaysInline s := by
    have hchecks : ∀ s ∈ [phpToStyle, phpToBody, phpToScript, phpClosing],
        opensNoBlock s.toList = true := by decide
    exact fun s hs => staysInline_of_check (hchecks s hs)
  simp only [List.forall_mem_cons] at hfixed
  obtain ⟨htoStyle, htoBody, htoScript, hclosing, _⟩ := hfixed
  have hrender := (page.components.markup_fromTemplates .escaped).staysInline
  have hhead := staysInline_append htoStyle (staysInline_of_angleFree hcss)
  have hbody := staysInline_append (staysInline_append hhead htoBody) hrender
  have hscript := staysInline_append (staysInline_append hbody htoScript)
    (staysInline_of_angleFree hjs)
  exact staysInline_append hscript hclosing

/-- The document of a page is split into the three blocks of the template and the inline texts
around them, if the raw styles and scripts have no `<`. -/
theorem php_document_parts (lang : String) (page : Page) (project : Project)
    (hstyles : AngleFree page.styles) (hscripts : AngleFree page.scripts) :
    Php.split (page.phpDocument ⟨lang, .escaped⟩ project) =
      some [.block (assigningBlock page.title page.info.description), .inline (phpFront lang),
        .block (showingBlock "pageTitle"), .inline phpToDescription,
        .block (showingBlock "pageDescription"), .inline page.phpBack] := by
  have hfront : StaysInline (phpFront lang) := by
    have hopening : StaysInline phpOpening := staysInline_of_check (by decide)
    have htoTitle : StaysInline phpToTitle := staysInline_of_check (by decide +kernel)
    have hlang : AngleFree (escapeHtml lang) := (harmless_escapeHtml lang).angle
    exact staysInline_append (staysInline_append hopening (staysInline_of_angleFree hlang)) htoTitle
  have hmiddle : StaysInline phpToDescription := staysInline_of_check (by decide)
  have hback := Page.staysInline_phpBack hstyles hscripts
  have hfrontHead : (phpFront lang).toList.head? = some '<' := by
    have hhead : phpOpening.toList.head? = some '<' := by decide
    simp [phpFront, List.head?_append, hhead]
  have hmiddleHead : phpToDescription.toList.head? = some '<' := by decide
  have hbackHead : page.phpBack.toList.head? = some '"' := by
    have hhead : phpToStyle.toList.head? = some '"' := by decide
    simp [Page.phpBack, List.head?_append, hhead]
  have hread : Text.read Splitter.step ⟨[], .inline []⟩
      (page.phpDocument ⟨lang, .escaped⟩ project) =
        some ⟨[.block (assigningBlock page.title page.info.description), .inline (phpFront lang),
          .block (showingBlock "pageTitle"), .inline phpToDescription,
          .block (showingBlock "pageDescription")], .inline page.phpBack.toList⟩ := by
    rw [page.phpDocument_eq, Text.read_append, Head.read_preamble, Option.bind_some,
      Text.read_append, hfront, Option.bind_some, Text.read_append, read_phpEcho _ _ (by decide),
      Option.bind_some, Text.read_append,
      Splitter.read_behindBlock _ hmiddle hmiddleHead (by decide), Option.bind_some,
      Text.read_append, read_phpEcho _ _ (by decide), Option.bind_some,
      Splitter.read_behindBlock _ hback hbackHead (by decide), List.nil_append, List.nil_append,
      Part.inlineRun_toList hfrontHead, Part.inlineRun_toList hmiddleHead]
    rfl
  rw [Php.split, hread]
  simp [Part.inlineRun_toList hbackHead]

/-- A page whose title and description try to get out of their literals, and the texts of whose
components try to begin a block. -/
def hostilePage : Page :=
  { title := "'; ?><?php evil(); //"
    info := { description := "\\'\n?>" }
    components :=
      [⟨{ id := "<?php evil() ?>", kind := .unknown "<?= evil() ?>",
          props := [("content", .string "<?php evil() ?>")]
          styles := [("<?", .string "?>")] }, []⟩]
    styles := "p > a \x7bcolor: red\x7d"
    scripts := "go(1 > 0 ? 1 : 2);" }

theorem hostilePage_parts : AngleFree hostilePage.styles ∧ AngleFree hostilePage.scripts ∧
    Php.split (hostilePage.phpDocument ⟨"en", .escaped⟩ {}) =
      some [.block (assigningBlock "'; ?><?php evil(); //" "\\'\n?>"), .inline (phpFront "en"),
        .block (showingBlock "pageTitle"), .inline phpToDescription,
        .block (showingBlock "pageDescription"), .inline hostilePage.phpBack] := by
  have hstyles : AngleFree hostilePage.styles := by decide
  have hscripts : AngleFree hostilePage.scripts := by decide
  exact ⟨hstyles, hscripts, php_document_parts "en" hostilePage {} hstyles hscripts⟩

end StaticSite
