import StaticSite.Proofs.Script.Reader
import StaticSite.Script.Wiring

/-!
# The ids that a script looks up

The script that every page begins with looks nothing up. Each listener looks up the id of its
element and nothing else, as long as the lines of the user in it look nothing up and leave nothing
open.
-/

namespace StaticSite

namespace Script

mutual

/-- Code that looks nothing up. -/
def isQuietCode : Code → Bool
  | .line text => isQuiet (text ++ "\n")
  | .block head body tail =>
    isQuiet (head ++ " \x7b\n") && areQuiet body && isQuiet ("\x7d" ++ tail ++ "\n")
  | .branch condition yes no =>
    isQuiet ("if (" ++ condition ++ ") \x7b\n") && areQuiet yes && areQuiet no
  | .blank => true

def areQuiet : List Code → Bool
  | [] => true
  | code :: rest => isQuietCode code && areQuiet rest

end

theorem isQuiet_margin {margin : String} (h : isQuiet margin = true) :
    isQuiet (margin ++ indent) = true :=
  isQuiet_append h (by decide)

mutual

theorem isQuietCode.write : (code : Code) → isQuietCode code = true → ∀ margin,
    isQuiet margin = true → isQuiet (code.write margin) = true
  | .line text, hcode, margin, hmargin => by
      rw [Code.write, String.append_assoc]
      exact isQuiet_append hmargin hcode
  | .block head body tail, hcode, margin, hmargin => by
      rw [isQuietCode, Bool.and_eq_true, Bool.and_eq_true] at hcode
      obtain ⟨⟨hhead, hbody⟩, htail⟩ := hcode
      have hfirst := isQuiet_append hmargin hhead
      have hlines := areQuiet.write body hbody _ (isQuiet_margin hmargin)
      have hlast := isQuiet_append hmargin htail
      have hblock := isQuiet_append (isQuiet_append hfirst hlines) hlast
      simpa only [Code.write, String.append_assoc] using hblock
  | .branch condition yes no, hcode, margin, hmargin => by
      rw [isQuietCode, Bool.and_eq_true, Bool.and_eq_true] at hcode
      obtain ⟨⟨hcondition, hyes⟩, hno⟩ := hcode
      have hfirst := isQuiet_append hmargin hcondition
      have hlines := areQuiet.write yes hyes _ (isQuiet_margin hmargin)
      have helse := isQuiet_append hmargin (b := "\x7d else \x7b\n") (by decide)
      have hothers := areQuiet.write no hno _ (isQuiet_margin hmargin)
      have hlast := isQuiet_append hmargin (b := "\x7d\n") (by decide)
      have hbranch := isQuiet_append
        (isQuiet_append (isQuiet_append (isQuiet_append hfirst hlines) helse) hothers) hlast
      simpa only [Code.write, String.append_assoc] using hbranch
  | .blank, _, _, _ => by
      rw [Code.write]
      decide

theorem areQuiet.write : (lines : List Code) → areQuiet lines = true → ∀ margin,
    isQuiet margin = true → isQuiet (writeLines margin lines) = true
  | [], _, _, _ => isQuiet_empty
  | code :: rest, hlines, margin, hmargin => by
      rw [areQuiet, Bool.and_eq_true] at hlines
      rw [writeLines]
      exact isQuiet_append (isQuietCode.write code hlines.1 margin hmargin)
        (areQuiet.write rest hlines.2 margin hmargin)

end

theorem lineAfter_write (line : List Char) (margin : String) (code : Code) :
    lineAfter line (code.write margin) = [] := by
  cases code with
  | blank =>
      rw [Code.write]
      rfl
  | line text => exact lineAfter_newline line _
  | block head body tail => exact lineAfter_newline line _
  | branch condition yes no =>
      have hlast : "\x7d\n" = "\x7d" ++ "\n" := by decide
      rw [Code.write, hlast, ← String.append_assoc]
      exact lineAfter_newline line _

theorem lineAfter_writeLines (margin : String) (lines : List Code) :
    lineAfter [] (writeLines margin lines) = [] := by
  induction lines with
  | nil => rfl
  | cons code rest ih => rw [writeLines, lineAfter_append, lineAfter_write, ih]

theorem areQuiet.looksUp {lines : List Code} (hlines : areQuiet lines = true) {margin : String}
    (hmargin : isQuiet margin = true) (slashes : Slashes) :
    LooksUp slashes (writeLines margin lines) [] :=
  looksUp_of_plain (isQuiet_iff.mp (areQuiet.write lines hlines margin hmargin))
    (lineAfter_writeLines margin lines) slashes

end Script

open Script

/-- What follows the name of the event, as far as the code that runs. -/
def parameterList (parameter : String) : String :=
  ", function(" ++ (parameter ++ (")" ++ " \x7b\n"))

/-- The line that a listener begins with. -/
def listenerLine (mode : EscapeMode) (id event parameter : String) : String :=
  listenerHead mode id event parameter ++ " \x7b\n"

theorem listenerLine_eq (mode : EscapeMode) (id event parameter : String) :
    listenerLine mode id event parameter =
      "document.getElementById('" ++ (mode.script id ++ ("'" ++ (").addEventListener('" ++ (event ++
        ("'" ++ parameterList parameter))))) := by
  have hlookup : "').addEventListener('" = "'" ++ ").addEventListener('" := by decide
  have hevent : "', function(" = "'" ++ ", function(" := by decide
  unfold listenerLine listenerHead parameterList
  rw [hlookup, hevent]
  simp only [String.append_assoc]

theorem write_listener (mode : EscapeMode) (id event parameter : String) (body : List Code) :
    (Code.block (listenerHead mode id event parameter) body ");").write "" =
      listenerLine mode id event parameter ++ (writeLines indent body ++ "\x7d);\n") := by
  have hend : "\x7d);\n" = "\x7d" ++ (");" ++ "\n") := by decide
  rw [listenerLine, hend]
  simp only [Code.write, String.append_assoc, String.empty_append]

theorem looksUp_listenerLine {mode : EscapeMode} {id event parameter : String}
    (hid : IsLiteral (mode.script id) id) (hevent : IsLiteral event event)
    (hparameter : isQuiet (parameterList parameter) = true) (slashes : Slashes) :
    LooksUp slashes (listenerLine mode id event parameter) [id] := by
  have hopen : Text.read (Reader.step none) ⟨[], .start⟩ "document.getElementById('" =
      some ⟨[], [], .literal '\'' true []⟩ := by
    decide
  have hlisten : Text.read (Reader.step none) ⟨[id], .start⟩ ").addEventListener('" =
      some ⟨[id], [], .literal '\'' false []⟩ :=
    Reader.read_any (by decide) [id]
  have hrest := Reader.read_any (isQuiet_iff.mp hparameter) [id]
  have hline : lineAfter [] (listenerLine mode id event parameter) = [] := by
    have hbrace : " \x7b\n" = " \x7b" ++ "\n" := by decide
    rw [listenerLine, hbrace, ← String.append_assoc]
    exact lineAfter_newline [] _
  refine looksUp_of_plain ?_ hline slashes
  rw [listenerLine_eq, Text.read_append, hopen, Option.bind_some, Text.read_append, hid,
    Option.bind_some, Text.read_append, read_quote, if_pos rfl, String.ofList_toList,
    Option.bind_some, Text.read_append, List.nil_append, hlisten, Option.bind_some,
    Text.read_append, hevent, Option.bind_some, Text.read_append, read_quote,
    if_neg Bool.false_ne_true, Option.bind_some, hrest]

/-- Lines that leave nothing open can be closed, whatever code they end in. -/
theorem LooksUp.close {slashes : Slashes} {body : String} {ids : List String}
    (h : lookups slashes body = some ids) : LooksUp slashes (body ++ "\x7d);\n") ids := by
  obtain ⟨⟨line, found, state⟩, hread, hrest⟩ := Option.bind_eq_some_iff.mp h
  split_ifs at hrest with hstate
  obtain rfl := Option.some.inj hrest
  obtain ⟨before, rfl⟩ := State.exists_of_isAtRest hstate
  have hclose : Text.read (Reader.step none) ⟨found, [], .code before⟩ "\x7d);\n" =
      some ⟨found, .start⟩ := rfl
  have hline : lineAfter line "\x7d);\n" = [] := lineAfter_newline line "\x7d);"
  rw [LooksUp, Text.read_append, hread, Option.bind_some, LineReader.read_plain hclose, hline]

theorem looksUp_listener {mode : EscapeMode} {id event parameter : String} {body : List Code}
    (hid : IsLiteral (mode.script id) id) (hevent : IsLiteral event event)
    (hparameter : isQuiet (parameterList parameter) = true) {slashes : Slashes}
    (hbody : lookups slashes (writeLines indent body) = some []) :
    LooksUp slashes ((Code.block (listenerHead mode id event parameter) body ");").write "")
      [id] := by
  rw [write_listener]
  exact (looksUp_listenerLine hid hevent hparameter slashes).append (LooksUp.close hbody)

/-! ## Wirings -/

/-- The id of the element that is wired. -/
def Wiring.target : Wiring → String
  | .click id _ => id
  | .submit id => id

/-- The lines of the user that a wiring runs. -/
def Wiring.handlers : Wiring → List String
  | .click _ handler => [handler]
  | .submit _ => []

/-- The id stands as it is meant, and the lines of the user look nothing up and leave nothing
open. -/
structure Wiring.Readable (slashes : Slashes) (mode : EscapeMode) (wiring : Wiring) : Prop where
  target : IsLiteral (mode.script wiring.target) wiring.target
  handlers : ∀ handler ∈ wiring.handlers, Script.lookups slashes (handler ++ "\n") = some []

theorem Wiring.readable_submit {slashes : Slashes} {mode : EscapeMode} {id : String}
    (hid : IsLiteral (mode.script id) id) : (Wiring.submit id).Readable slashes mode :=
  ⟨hid, fun _ h => absurd h List.not_mem_nil⟩

theorem writeLines_single (text : String) :
    writeLines indent [.line text] = indent ++ (text ++ "\n") := by
  simp [writeLines, Code.write, String.append_assoc]

theorem looksUp_indent (slashes : Slashes) : LooksUp slashes indent [] :=
  looksUp_of_plain (by decide) (by decide) slashes

theorem looksUp_newline (slashes : Slashes) : LooksUp slashes "\n" [] :=
  looksUp_of_plain (by decide) (by decide) slashes

theorem Wiring.Readable.looksUp {slashes : Slashes} {mode : EscapeMode} {wiring : Wiring}
    (h : wiring.Readable slashes mode) : LooksUp slashes (wiring.write mode) [wiring.target] := by
  obtain ⟨htarget, hhandlers⟩ := h
  cases wiring with
  | click id handler =>
      refine (looksUp_newline slashes).append
        (looksUp_listener htarget (isLiteral_of_plain (by simp)) (by decide) ?_)
      rw [writeLines_single, (looksUp_indent slashes).lookups_append,
        hhandlers handler List.mem_cons_self]
      rfl
  | submit id =>
      refine (looksUp_newline slashes).append
        (looksUp_listener htarget (isLiteral_of_plain (by simp)) (by decide) ?_)
      exact (areQuiet.looksUp (by decide) (by decide) slashes).lookups_eq

end StaticSite
