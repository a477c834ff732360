import Mathlib.Data.List.Infix
import StaticSite.Proofs.Site.PageElement

/-!
# Kinds that are only named

A component of an unknown kind becomes an element with one comment, which names its tag. In the
comment a blank stands between every star of the tag and a slash right behind it. So the star and
the slash that close the comment stand together at one place only, and a reader meets the whole
comment and nothing else, whatever the tag and the escape mode.
-/

namespace StaticSite

open Jsx.Token (enclose)
open Jsx (StaysComment readElement)

/-! ## Blanks in a tag -/

/-- The first character of a text, and a blank if this is a star with a slash right behind it. -/
def spacedHead : List Char → List Char
  | [] => []
  | '*' :: '/' :: _ => ['*', ' ']
  | c :: _ => [c]

/-- A text with a blank between every star and a slash right behind it. Every character is looked
at, with all that follows it in the text. -/
def spaced (text : String) : String :=
  String.ofList (text.toList.tails.flatMap spacedHead)

/-- It makes no difference that the slash behind a star is not looked at again. -/
theorem commentSafe_eq_flatMap (cs : List Char) : commentSafe cs = cs.tails.flatMap spacedHead := by
  induction cs using commentSafe.induct with
  | case1 => rfl
  | case2 rest ih =>
      have hslash : spacedHead ('/' :: rest) = ['/'] := rfl
      rw [commentSafe, ih, List.tails_cons, List.tails_cons, List.flatMap_cons, List.flatMap_cons,
        hslash]
      rfl
  | case3 c rest hends ih =>
      rw [commentSafe.eq_3 c rest hends, ih, List.tails_cons, List.flatMap_cons,
        spacedHead.eq_3 c rest hends]
      rfl

theorem commentSafe_eq_spaced (text : String) :
    String.ofList (commentSafe text.toList) = spaced text := by
  rw [commentSafe_eq_flatMap, spaced]

theorem staysComment_spaced (text : String) : StaysComment (spaced text).toList := by
  rw [← commentSafe_eq_spaced, String.toList_ofList]
  exact Jsx.staysComment_commentSafe text.toList

/-! ## Where a comment ends -/

theorem Jsx.StaysComment.ne_append {cs front back : List Char} (h : StaysComment cs) :
    cs ≠ front ++ '*' :: '/' :: back := by
  intro hcs
  exact List.isChain_iff_forall_rel_of_append_cons_cons.mp h hcs rfl rfl

/-- A star with a slash does not overlap another one. -/
theorem Jsx.eq_nil_or_of_append_closing {gap back back' : List Char}
    (h : gap ++ '*' :: '/' :: back = '*' :: '/' :: back') :
    gap = [] ∨ ∃ others, gap = '*' :: '/' :: others ∧ back' = others ++ '*' :: '/' :: back := by
  rcases gap with _ | ⟨c, _ | ⟨d, others⟩⟩
  · exact Or.inl rfl
  · have hsecond : '*' = '/' := (List.cons.inj (List.cons.inj h).2).1
    exact absurd hsecond (by decide)
  · obtain ⟨rfl, hrest⟩ := List.cons.inj h
    obtain ⟨rfl, hback⟩ := List.cons.inj hrest
    exact Or.inr ⟨others, rfl, hback.symm⟩

/-- Where none stands in front and none behind, a star with a slash stands at one place. -/
theorem Jsx.eq_of_append_closing_eq {front back front' back' : List Char}
    (hfront : StaysComment front) (hback : StaysComment back)
    (h : front ++ '*' :: '/' :: back = front' ++ '*' :: '/' :: back') :
    front = front' ∧ back = back' := by
  rcases List.append_eq_append_iff.mp h with ⟨gap, hgap, hrest⟩ | ⟨gap, hgap, hrest⟩
  · rcases Jsx.eq_nil_or_of_append_closing hrest.symm with rfl | ⟨others, -, hclosed⟩
    · exact ⟨by simpa using hgap.symm, by simpa using hrest⟩
    · exact absurd hclosed hback.ne_append
  · rcases Jsx.eq_nil_or_of_append_closing hrest.symm with rfl | ⟨others, rfl, -⟩
    · exact ⟨by simpa using hgap, by simpa using hrest.symm⟩
    · exact absurd hgap hfront.ne_append

/-! ## The element -/

section Placeholder

variable (kind : Kind) (mode : EscapeMode)

theorem Kind.named_eq : kind.named = "/* " ++ spaced kind.tag ++ " component */" := by
  rw [Kind.named, commentSafe_eq_spaced]

theorem Kind.write_placeholder :
    kind.placeholder.write mode =
      "<div>\x7b/* " ++ spaced kind.tag ++ " component */\x7d</div>" := by
  rw [Kind.placeholder, commentSafe_eq_spaced, ← String.toList_inj]
  simp [Jsx.write, Jsx.writeAll, Jsx.writeAttributes]

/-- Nothing in front of its own end closes the comment of an element. -/
theorem Kind.staysComment_front :
    StaysComment ("<div>\x7b/* " ++ spaced kind.tag ++ " component ").toList := by
  have hopen : StaysComment "<div>\x7b/*".toList := by
    simp [StaysComment]
  have hword : StaysComment " component ".toList := by
    simp [StaysComment]
  have hspaced := Jsx.staysComment_append (staysComment_spaced kind.tag) hword (by simp)
  -- The tag may begin with a slash: the blank in front of it keeps it off the star of the opening.
  have hblank : StaysComment (' ' :: ((spaced kind.tag).toList ++ " component ".toList)) :=
    List.isChain_cons.mpr ⟨by simp, hspaced⟩
  simpa using Jsx.staysComment_append hopen hblank (by simp)

theorem Kind.write_placeholder_eq_iff (before after : String) :
    kind.placeholder.write mode = before ++ "*/" ++ after ↔
      before = "<div>\x7b/* " ++ spaced kind.tag ++ " component " ∧ after = "\x7d</div>" := by
  have hwritten : kind.placeholder.write mode =
      "<div>\x7b/* " ++ spaced kind.tag ++ " component " ++ "*/" ++ "\x7d</div>" := by
    rw [kind.write_placeholder, ← String.toList_inj]
    simp
  have hbehind : StaysComment "\x7d</div>".toList := by
    simp [StaysComment]
  rw [hwritten]
  constructor
  · intro h
    rw [← String.toList_inj] at h
    obtain ⟨hbefore, hafter⟩ :=
      Jsx.eq_of_append_closing_eq kind.staysComment_front hbehind (by simpa using h)
    exact ⟨(String.toList_inj.mp hbefore).symm, (String.toList_inj.mp hafter).symm⟩
  · rintro ⟨rfl, rfl⟩
    rfl

theorem Kind.readElement_placeholder :
    readElement (kind.placeholder.write mode) =
      some (enclose "div" [] [.container kind.named]) := by
  have hmode : kind.placeholder.write mode = Jsx.writeAll .escaped [kind.placeholder] := by
    simp [Jsx.writeAll, kind.write_placeholder]
  have hcontents : Jsx.contentsAll [kind.placeholder] =
      enclose "div" [] [.container kind.named] := by
    simp [Jsx.contentsAll, kind.contents_placeholder]
  have hlegible : Jsx.LegibleAll [kind.placeholder] := ⟨kind.legible_placeholder, trivial⟩
  have hbraces : Jsx.BraceFree ((Jsx.contentsAll [kind.placeholder]).flatMap Text.textChars) := by
    rw [hcontents]
    exact Jsx.braceFree_nil
  rw [hmode, (Jsx.readElement_iff hlegible).mpr hbraces, hcontents]
  rfl

end Placeholder

theorem Component.jsx_of_unknown {c : Component} {tag : String}
    (hkind : c.widget.kind = .unknown tag) (mode : EscapeMode) :
    c.jsx mode = (Kind.unknown tag).placeholder := by
  obtain ⟨w, children⟩ := c
  have hw : w.kind = .unknown tag := hkind
  simp [Component.jsx, Widget.jsx, Kind.isWrapper, hw]

/-- A component of an unknown kind is written as a comment with its tag, in which a blank stands
between every star and a slash right behind it. Only its own end closes the comment, and a reader
meets an element with this comment and nothing else. -/
theorem unknown_kind_commented {c : Component} {tag : String}
    (hkind : c.widget.kind = .unknown tag) (mode : EscapeMode) :
    (c.jsx mode).write mode = "<div>\x7b/* " ++ spaced tag ++ " component */\x7d</div>" ∧
      (∀ before after : String, (c.jsx mode).write mode = before ++ "*/" ++ after ↔
        before = "<div>\x7b/* " ++ spaced tag ++ " component " ∧ after = "\x7d</div>") ∧
      readElement ((c.jsx mode).write mode) =
        some (enclose "div" [] [.container ("/* " ++ spaced tag ++ " component */")]) := by
  rw [Component.jsx_of_unknown hkind mode]
  refine ⟨?_, ?_, ?_⟩
  · exact Kind.write_placeholder (.unknown tag) mode
  · exact Kind.write_placeholder_eq_iff (.unknown tag) mode
  · rw [Kind.readElement_placeholder, Kind.named_eq]
    rfl

/-- Its tag has stars and slashes at both ends and side by side, and its handler is not shown. -/
def starredComponent : Component :=
  ⟨{ id := "s", kind := .unknown "/*/**//*", props := [("onClick", .string "*/\x7d")] },
    [.ofKind "t" .text]⟩

theorem starredComponent_commented :
    starredComponent.widget.kind = .unknown "/*/**//*" ∧
      (starredComponent.jsx .verbatim).write .verbatim =
        "<div>\x7b/* /* /** //* component */\x7d</div>" ∧
      (∀ before after : String,
        (starredComponent.jsx .verbatim).write .verbatim = before ++ "*/" ++ after ↔
          before = "<div>\x7b/* /* /** //* component " ∧ after = "\x7d</div>") ∧
      readElement ((starredComponent.jsx .verbatim).write .verbatim) =
        some (enclose "div" [] [.container "/* /* /** //* component */"]) := by
  have hkind : starredComponent.widget.kind = .unknown "/*/**//*" := rfl
  have hspaced : spaced "/*/**//*" = "/* /** //*" := by decide
  obtain ⟨hwritten, honce, hread⟩ := unknown_kind_commented hkind .verbatim
  rw [hspaced] at hwritten honce hread
  exact ⟨hkind, hwritten, honce, hread⟩

end StaticSite
