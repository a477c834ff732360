import Mathlib.Data.List.Infix
import StaticSite.Css.Block
import StaticSite.Proofs.Text.Machine

/-!
# Reading style sheets

A plain reader takes a sheet apart at its braces, semicolons and line breaks wherever they stand; it
knows no strings, no comments and no escapes. Margins and blanks have to be as they are written, so
that a text with blanks at its ends is read with them. Blocks whose texts hold none of the marks are
read back from what is written.
-/

namespace StaticSite.Css

/-! ## The reader -/

/-- The blocks of a sheet so far, and the media block that is open with its rules. -/
inductive Sheet
  | top (blocks : List Block)
  | media (blocks : List Block) (condition : String) (rules : List Rule)

def Sheet.depth : Sheet → Nat
  | .top _ => 0
  | .media .. => 1

def Sheet.add (rule : Rule) : Sheet → Sheet
  | .top blocks => .top (blocks ++ [.rule rule])
  | .media blocks condition rules => .media blocks condition (rules ++ [rule])

/-- A sheet, the rule that is open in it, and the text behind the last mark. -/
structure Reading where
  sheet : Sheet
  rule : Option Rule
  text : String

/-- What stands between a front and a back. -/
def between? (front back s : String) : Option String :=
  ((front.toList.isPrefixOf? s.toList).bind back.toList.isSuffixOf?).map String.ofList

/-- The block that a head begins. Media blocks begin with `@` and hold nothing but rules. -/
def Sheet.openBlock (sheet : Sheet) (head : String) : Option (Sheet × Option Rule) :=
  if head.toList.head? = some '@' then
    match sheet with
    | .top blocks =>
      (between? "@media (" ")" head).map fun condition => (.media blocks condition [], none)
    | .media .. => none
  else some (sheet, some ⟨head, []⟩)

def readDeclaration (line : String) : Option Declaration :=
  match line.toList.span (· ≠ ':') with
  | (property, ':' :: ' ' :: value) => some ⟨String.ofList property, String.ofList value⟩
  | _ => none

def Rule.add (d : Declaration) (r : Rule) : Rule :=
  { r with declarations := r.declarations ++ [d] }

def Reading.opened (r : Reading) : Option Reading :=
  match r.rule with
  | some _ => none
  | none =>
    ((between? (margin r.sheet.depth) " " r.text).bind r.sheet.openBlock).map
      fun (sheet, rule) => ⟨sheet, rule, ""⟩

def Reading.declared (r : Reading) : Option Reading :=
  match r.rule with
  | some rule =>
    ((between? (margin (r.sheet.depth + 1)) "" r.text).bind readDeclaration).map
      fun d => ⟨r.sheet, some (rule.add d), ""⟩
  | none => none

def Reading.closed (r : Reading) : Option Reading :=
  match r.rule, r.sheet with
  | some rule, sheet =>
    if r.text = margin sheet.depth then some ⟨sheet.add rule, none, ""⟩ else none
  | none, .media blocks condition rules =>
    if r.text = "" then some ⟨.top (blocks ++ [.media condition rules]), none, ""⟩ else none
  | none, .top _ => none

def Reading.step (r : Reading) (c : Char) : Option Reading :=
  match c with
  | '\x7b' => r.opened
  | ';' => r.declared
  | '\x7d' => r.closed
  | '\n' => if r.text = "" then some r else none
  | c => some { r with text := r.text.push c }

/-- The blocks of a text at whose end no block and no line is open. -/
def readSheet (s : String) : Option (List Block) :=
  match Text.read Reading.step ⟨.top [], none, ""⟩ s with
  | some ⟨.top blocks, none, ""⟩ => some blocks
  | _ => none

/-! ## Texts without marks -/

def isMark (c : Char) : Bool :=
  c == '\x7b' || c == '\x7d' || c == ';' || c == '\n'

def Unmarked (s : String) : Prop :=
  ∀ c ∈ s.toList, isMark c = false

/-- What no mark has keeps a character from being a mark. -/
theorem isMark_eq_false {p : Char → Prop} (hp : ¬p '\x7b' ∧ ¬p '\x7d' ∧ ¬p ';' ∧ ¬p '\n')
    {c : Char} (hc : p c) : isMark c = false := by
  obtain ⟨hopen, hclose, hend, hline⟩ := hp
  simp only [isMark, Bool.or_eq_false_iff, beq_eq_false_iff_ne]
  refine ⟨⟨⟨?_, ?_⟩, ?_⟩, ?_⟩ <;> rintro rfl <;> contradiction

instance (s : String) : Decidable (Unmarked s) :=
  decidable_of_iff (s.toList.all (!isMark ·) = true) (by simp [Unmarked])

theorem unmarked_append {a b : String} : Unmarked (a ++ b) ↔ Unmarked a ∧ Unmarked b := by
  simp [Unmarked, or_imp, forall_and]

theorem unmarked_margin (depth : Nat) : Unmarked (margin depth) := by
  intro c hc
  rw [margin, String.toList_ofList] at hc
  rw [List.eq_of_mem_replicate hc]
  rfl

/-- The first colon of a declaration stands behind its property. -/
def UnmarkedName (s : String) : Prop :=
  Unmarked s ∧ ':' ∉ s.toList

instance (s : String) : Decidable (UnmarkedName s) :=
  inferInstanceAs (Decidable (Unmarked s ∧ ':' ∉ s.toList))

structure Declaration.Unmarked (d : Declaration) : Prop where
  property : UnmarkedName d.property
  value : Css.Unmarked d.value

theorem Declaration.unmarked_mk {property value : String} (hproperty : UnmarkedName property)
    (hvalue : Css.Unmarked value) : Declaration.Unmarked ⟨property, value⟩ :=
  ⟨hproperty, hvalue⟩

structure Rule.Unmarked (r : Rule) : Prop where
  selector : Css.Unmarked r.selector
  atSign : r.selector.toList.head? ≠ some '@'
  declarations : ∀ d ∈ r.declarations, d.Unmarked

def Block.Unmarked : Block → Prop
  | .rule r => r.Unmarked
  | .media condition rules => Css.Unmarked condition ∧ ∀ r ∈ rules, r.Unmarked

/-! ## Reading one line -/

variable {sheet : Sheet} {rule : Option Rule}

theorem between?_append (front back s : String) :
    between? front back (front ++ s ++ back) = some s := by
  have hfront : front.toList.isPrefixOf? (front ++ s ++ back).toList =
      some (s.toList ++ back.toList) := by
    rw [List.isPrefixOf?_eq_some_iff_append_eq, String.append_assoc, String.toList_append,
      String.toList_append]
  have hback : back.toList.isSuffixOf? (s.toList ++ back.toList) = some s.toList :=
    List.isSuffixOf?_eq_some_iff_append_eq.mpr rfl
  rw [between?, hfront, Option.bind_some, hback, Option.map_some, String.ofList_toList]

theorem Reading.step_unmarked (r : Reading) {c : Char} (hc : isMark c = false) :
    r.step c = some { r with text := r.text.push c } := by
  simp only [isMark, Bool.or_eq_false_iff, beq_eq_false_iff_ne] at hc
  obtain ⟨⟨⟨hopen, hclose⟩, hend⟩, hline⟩ := hc
  unfold Reading.step
  split <;> first | contradiction | rfl

theorem read_text {text s : String} (hs : Unmarked s) :
    Text.read Reading.step ⟨sheet, rule, text⟩ s = some ⟨sheet, rule, text ++ s⟩ := by
  have hgather (chars : List Char) (c : Char) (hc : isMark c = false) :
      Reading.step ⟨sheet, rule, String.ofList chars⟩ c =
        some ⟨sheet, rule, String.ofList (chars ++ [c])⟩ := by
    rw [Reading.step_unmarked _ hc, String.ofList_append]
    rfl
  have hread := Text.read_gather (g := fun chars => Reading.mk sheet rule (String.ofList chars))
    hgather text.toList hs
  rwa [String.ofList_append, String.ofList_toList, String.ofList_toList] at hread

/-- What a mark does to the text in front of it is what the line does. -/
theorem read_line {line : String} (hline : Unmarked line) {mark : Char} {next : Reading}
    (hmark : Reading.step ⟨sheet, rule, line⟩ mark = some next) (htext : next.text = "") :
    Text.read Reading.step ⟨sheet, rule, ""⟩ (line ++ String.ofList [mark, '\n']) = some next := by
  rw [Text.read_append, read_text hline, Option.bind_some, String.empty_append, Text.read,
    String.toList_ofList, List.foldlM_cons, hmark]
  simp [Reading.step, htext]

theorem read_head {head : String} (hhead : Unmarked head) {next : Sheet}
    (hopen : sheet.openBlock head = some (next, rule)) :
    Text.read Reading.step ⟨sheet, none, ""⟩ (margin sheet.depth ++ head ++ " \x7b\n") =
      some ⟨next, rule, ""⟩ := by
  have hline : Unmarked (margin sheet.depth ++ head ++ " ") := by
    rw [unmarked_append, unmarked_append]
    exact ⟨⟨unmarked_margin _, hhead⟩, by decide⟩
  have hmark : Reading.step ⟨sheet, none, margin sheet.depth ++ head ++ " "⟩ '\x7b' =
      some ⟨next, rule, ""⟩ := by
    simp only [Reading.step, Reading.opened, between?_append, Option.bind_some, hopen,
      Option.map_some]
  have hread := read_line hline hmark rfl
  rwa [String.append_assoc] at hread

theorem readDeclaration_append {property : String} (hcolon : ':' ∉ property.toList)
    (value : String) : readDeclaration (property ++ ": " ++ value) = some ⟨property, value⟩ := by
  have hproperty : ∀ c ∈ property.toList, decide (c ≠ ':') = true := by
    intro c hc
    exact decide_eq_true fun hcolon' => hcolon (hcolon' ▸ hc)
  rw [readDeclaration, String.toList_append, String.toList_append, List.append_assoc,
    List.span_eq_takeWhile_dropWhile, List.takeWhile_append_of_pos hproperty,
    List.dropWhile_append_of_pos hproperty]
  simp

theorem read_declaration (r : Rule) {d : Declaration} (hd : d.Unmarked) :
    Text.read Reading.step ⟨sheet, some r, ""⟩ (d.write .verbatim (sheet.depth + 1)) =
      some ⟨sheet, some (r.add d), ""⟩ := by
  have hline : Unmarked (margin (sheet.depth + 1) ++ (d.property ++ ": " ++ d.value) ++ "") := by
    simp only [unmarked_append]
    exact ⟨⟨unmarked_margin _, ⟨hd.property.1, by decide⟩, hd.value⟩, by decide⟩
  have hmark : Reading.step
      ⟨sheet, some r, margin (sheet.depth + 1) ++ (d.property ++ ": " ++ d.value) ++ ""⟩ ';' =
        some ⟨sheet, some (r.add d), ""⟩ := by
    simp only [Reading.step, Reading.declared, between?_append, Option.bind_some,
      readDeclaration_append hd.property.2, Option.map_some]
  have hwrite : d.write .verbatim (sheet.depth + 1) =
      margin (sheet.depth + 1) ++ (d.property ++ ": " ++ d.value) ++ "" ++
        String.ofList [';', '\n'] := by
    simp only [Declaration.write, EscapeMode.css, id, String.append_empty, String.append_assoc]
  rw [hwrite, read_line hline hmark rfl]

theorem read_close (r : Rule) :
    Text.read Reading.step ⟨sheet, some r, ""⟩ (margin sheet.depth ++ "\x7d\n") =
      some ⟨sheet.add r, none, ""⟩ :=
  read_line (unmarked_margin _) (if_pos rfl) rfl

theorem read_close_media (blocks : List Block) (condition : String) (rules : List Rule) :
    Text.read Reading.step ⟨.media blocks condition rules, none, ""⟩ "\x7d\n" =
      some ⟨.top (blocks ++ [.media condition rules]), none, ""⟩ := rfl

theorem read_newline : Text.read Reading.step ⟨sheet, rule, ""⟩ "\n" = some ⟨sheet, rule, ""⟩ := rfl

/-! ## Reading blocks -/

theorem read_declarations (selector : String) (before : List Declaration) {ds : List Declaration}
    (hds : ∀ d ∈ ds, d.Unmarked) :
    Text.read Reading.step ⟨sheet, some ⟨selector, before⟩, ""⟩
        (String.join (ds.map (Declaration.write .verbatim (sheet.depth + 1)))) =
      some ⟨sheet, some ⟨selector, before ++ ds⟩, ""⟩ := by
  induction ds generalizing before with
  | nil => rw [List.append_nil, List.map_nil, String.join_nil, Text.read_empty]
  | cons d ds ih =>
      obtain ⟨hd, hrest⟩ := List.forall_mem_cons.mp hds
      rw [List.map_cons, String.join_cons, Text.read_append, read_declaration _ hd,
        Option.bind_some, Rule.add, ih _ hrest, List.append_assoc, List.singleton_append]

theorem read_rule {r : Rule} (hr : r.Unmarked) :
    Text.read Reading.step ⟨sheet, none, ""⟩ (r.write .verbatim sheet.depth) =
      some ⟨sheet.add r, none, ""⟩ := by
  have hopen : sheet.openBlock r.selector = some (sheet, some ⟨r.selector, []⟩) :=
    if_neg hr.atSign
  have hwrite : r.write .verbatim sheet.depth =
      margin sheet.depth ++ r.selector ++ " \x7b\n" ++
        (String.join (r.declarations.map (Declaration.write .verbatim (sheet.depth + 1))) ++
          (margin sheet.depth ++ "\x7d\n")) := by
    simp only [Rule.write, EscapeMode.css, id, String.append_assoc]
  rw [hwrite, Text.read_append, read_head hr.selector hopen, Option.bind_some, Text.read_append,
    read_declarations r.selector [] hr.declarations, Option.bind_some, List.nil_append, read_close]

theorem read_media_rules (blocks : List Block) (condition : String) (before : List Rule)
    {rules : List Rule} (hrules : ∀ r ∈ rules, r.Unmarked) :
    Text.read Reading.step ⟨.media blocks condition before, none, ""⟩
        (String.intercalate "\n" (rules.map (Rule.write .verbatim 1))) =
      some ⟨.media blocks condition (before ++ rules), none, ""⟩ := by
  induction rules generalizing before with
  | nil => rw [List.append_nil, List.map_nil, String.intercalate_nil, Text.read_empty]
  | cons r rules ih =>
      obtain ⟨hr, hrest⟩ := List.forall_mem_cons.mp hrules
      have hfirst : Text.read Reading.step ⟨.media blocks condition before, none, ""⟩
          (r.write .verbatim 1) = some ⟨.media blocks condition (before ++ [r]), none, ""⟩ :=
        read_rule hr
      cases rules with
      | nil => exact hfirst
      | cons next rules =>
          have hbehind := ih (before ++ [r]) hrest
          rw [List.map_cons] at hbehind
          rw [List.map_cons, List.map_cons, String.intercalate_cons_cons, Text.read_append,
            Text.read_append, hfirst, Option.bind_some, read_newline, Option.bind_some, hbehind,
            List.append_assoc, List.singleton_append]

theorem Sheet.openBlock_media (blocks : List Block) (condition : String) :
    (Sheet.top blocks).openBlock ("@media (" ++ condition ++ ")") =
      some (.media blocks condition [], none) := by
  have hfront : ("@media (" ++ condition ++ ")").toList.head? = some '@' := by
    simp
  rw [Sheet.openBlock, if_pos hfront, between?_append, Option.map_some]

theorem read_block (blocks : List Block) {b : Block} (hb : b.Unmarked) :
    Text.read Reading.step ⟨.top blocks, none, ""⟩ (b.write .verbatim) =
      some ⟨.top (blocks ++ [b]), none, ""⟩ := by
  cases b with
  | rule r => exact read_rule hb
  | media condition rules =>
      have hhead : Unmarked ("@media (" ++ condition ++ ")") := by
        rw [unmarked_append, unmarked_append]
        exact ⟨⟨by decide, hb.1⟩, by decide⟩
      have hread := read_head hhead (Sheet.openBlock_media blocks condition)
      have hwrite : (Block.media condition rules).write .verbatim =
          margin (Sheet.top blocks).depth ++ ("@media (" ++ condition ++ ")") ++ " \x7b\n" ++
            (String.intercalate "\n" (rules.map (Rule.write .verbatim 1)) ++ "\x7d\n") := by
        have hmargin : margin 0 = "" := rfl
        have hbrace : ") \x7b\n" = ")" ++ " \x7b\n" := rfl
        rw [Block.write, Sheet.depth, hmargin, hbrace]
        simp only [String.empty_append, String.append_assoc]
      rw [hwrite, Text.read_append, hread, Option.bind_some, Text.read_append,
        read_media_rules blocks condition [] hb.2, Option.bind_some, List.nil_append,
        read_close_media]

theorem read_blocks (before : List Block) {blocks : List Block}
    (hblocks : ∀ b ∈ blocks, b.Unmarked) :
    Text.read Reading.step ⟨.top before, none, ""⟩
        (String.join (blocks.map (Block.write .verbatim))) =
      some ⟨.top (before ++ blocks), none, ""⟩ := by
  induction blocks generalizing before with
  | nil => rw [List.append_nil, List.map_nil, String.join_nil, Text.read_empty]
  | cons b blocks ih =>
      obtain ⟨hb, hrest⟩ := List.forall_mem_cons.mp hblocks
      rw [List.map_cons, String.join_cons, Text.read_append, read_block before hb,
        Option.bind_some, ih _ hrest, List.append_assoc, List.singleton_append]

end StaticSite.Css
