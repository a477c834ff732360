import StaticSite.Html.Markup
import StaticSite.Proofs.Decimal.Numerals
import StaticSite.Proofs.Text.Entities

/-!
# Values with escaped strings

A value can be escaped before it is read: each string in it, at any depth, and no key. Then whoever
asks for a text gets the escaped text, and all other questions have the answers that they had
before. Numbers and the fixed texts have no character that escaping changes, and a string that
reads as a number has none either.
-/

namespace StaticSite

namespace Text

/-- A character is kept, or it becomes an entity and cannot be part of a number. -/
theorem htmlChar_kept_or (c : Char) :
    htmlChar c = [c] ∨
      Decimal.isNumeralChar c = false ∧ isBlank c = false ∧ '&' ∈ htmlChar c := by
  unfold htmlChar
  split
  case h_6 => exact .inl rfl
  all_goals exact .inr (by decide)

theorem escapeHtml_of_isNumeral {s : String} (h : Decimal.IsNumeral s) : escapeHtml s = s := by
  apply escapeHtml_of_chars
  intro c hc
  rcases htmlChar_kept_or c with hkept | ⟨hother, _⟩
  · exact hkept
  · rw [h c hc] at hother
    contradiction

theorem mem_dropWhile_of_neg {p : Char → Bool} {c : Char} {cs : List Char} (hc : c ∈ cs)
    (hp : p c = false) : c ∈ cs.dropWhile p := by
  rw [← List.takeWhile_append_dropWhile (p := p) (l := cs), List.mem_append] at hc
  rcases hc with hdropped | hkept
  · rw [List.mem_takeWhile_imp hdropped] at hp
    contradiction
  · exact hkept

theorem mem_trim {c : Char} {s : String} (hc : c ∈ s.toList) (hblank : isBlank c = false) :
    c ∈ (trim s).toList := by
  have hfront := mem_dropWhile_of_neg hc hblank
  have hback := mem_dropWhile_of_neg (List.mem_reverse.mpr hfront) hblank
  simpa [trim] using hback

theorem float?_trim_eq_none {c : Char} {s : String} (hc : c ∈ s.toList)
    (hblank : isBlank c = false) (hother : Decimal.isNumeralChar c = false) :
    Decimal.float? (trim s) = none := by
  cases hread : Decimal.float? (trim s) with
  | none => rfl
  | some x =>
      rw [Decimal.isNumeral_of_float? hread c (mem_trim hc hblank)] at hother
      contradiction

/-- What reads as a number is the same before and behind escaping. -/
theorem float?_trim_escapeHtml (s : String) :
    Decimal.float? (trim (escapeHtml s)) = Decimal.float? (trim s) := by
  by_cases hkept : ∀ c ∈ s.toList, htmlChar c = [c]
  · rw [escapeHtml_of_chars hkept]
  -- The character stands in the way of a number, and so does the ampersand of its entity.
  · simp only [not_forall] at hkept
    obtain ⟨c, hc, hchanged⟩ := hkept
    obtain ⟨hother, hblank, hentity⟩ := (htmlChar_kept_or c).resolve_left hchanged
    have hampersand : '&' ∈ (escapeHtml s).toList := by
      rw [escapeHtml_eq_escapeWith, escapeWith, String.toList_ofList]
      exact List.mem_flatMap.mpr ⟨c, hc, hentity⟩
    rw [float?_trim_eq_none hc hblank hother,
      float?_trim_eq_none hampersand (by decide) (by decide)]

end Text

open Text

namespace Json

mutual

/-- A value with its strings escaped. -/
def Value.preescaped : Value → Value
  | .null => .null
  | .bool b => .bool b
  | .number n => .number n
  | .string s => .string (escapeHtml s)
  | .array items => .array (preescapedItems items)
  | .object members => .object (preescapedMembers members)

def preescapedItems : List Value → List Value
  | [] => []
  | item :: rest => item.preescaped :: preescapedItems rest

def preescapedMembers : List (String × Value) → List (String × Value)
  | [] => []
  | (key, value) :: rest => (key, value.preescaped) :: preescapedMembers rest

end

theorem preescapedItems_eq_map (items : List Value) :
    preescapedItems items = items.map Value.preescaped := by
  induction items with
  | nil => rfl
  | cons item rest ih => rw [preescapedItems, ih, List.map_cons]

theorem get?_preescapedMembers (key : String) (members : Members) :
    Members.get? key (preescapedMembers members) =
      (Members.get? key members).map Value.preescaped := by
  unfold Members.get?
  induction members with
  | nil => rfl
  | cons member rest ih =>
      obtain ⟨k, value⟩ := member
      rw [preescapedMembers, List.lookup_cons, List.lookup_cons, ih]
      split <;> rfl

theorem Number.isNumeral_display (n : Number) : Decimal.IsNumeral n.display := by
  cases n with
  | integer n => exact Decimal.isNumeral_int n
  | float x =>
      rw [Number.display]
      split
      · decide
      · exact Decimal.isNumeral_plain x

theorem displayItems_cons_of_ne {item : Value} (hitem : item ≠ .null) (rest : List Value) :
    displayItems (item :: rest) = item.display :: displayItems rest := by
  rw [displayItems]
  exact hitem

mutual

theorem Value.display_preescaped : (value : Value) →
    value.preescaped.display = escapeHtml value.display
  | .null => rfl
  | .bool b => by cases b <;> rfl
  | .number n => (escapeHtml_of_isNumeral n.isNumeral_display).symm
  | .string s => rfl
  | .array items => by
      rw [Value.preescaped, Value.display, Value.display, displayItems_preescapedItems items,
        escapeHtml_intercalate rfl]
  | .object members => by
      rw [Value.preescaped, Value.display, Value.display]
      decide

theorem displayItems_preescapedItems : (items : List Value) →
    displayItems (preescapedItems items) = (displayItems items).map escapeHtml
  | [] => rfl
  | item :: rest => by
      have hrest := displayItems_preescapedItems rest
      have hitem := Value.display_preescaped item
      cases item
      case null =>
          rw [preescapedItems, Value.preescaped, displayItems, displayItems, hrest, List.map_cons,
            escapeHtml_empty]
      all_goals
          rw [preescapedItems, displayItems_cons_of_ne (by simp [Value.preescaped]), hitem, hrest,
            displayItems_cons_of_ne (by simp), List.map_cons]

end

@[simp] theorem Value.isTruthy_preescaped (value : Value) :
    value.preescaped.isTruthy = value.isTruthy := by
  cases value with
  | string s =>
      rw [Value.preescaped, Value.isTruthy, Value.isTruthy, Bool.not_inj_iff, Bool.eq_iff_iff,
        String.isEmpty_iff, String.isEmpty_iff, escapeHtml_eq_empty]
  | _ => rfl

@[simp] theorem Value.isObject_preescaped (value : Value) :
    value.preescaped.isObject = value.isObject := by
  cases value <;> rfl

@[simp] theorem Value.text_preescaped (value : Value) :
    value.preescaped.text = escapeHtml value.text := by
  have hdisplay := value.display_preescaped
  cases value with
  | null => rfl
  | _ => exact hdisplay

theorem Value.member?_preescaped (key : String) (value : Value) :
    value.preescaped.member? key = (value.member? key).map Value.preescaped := by
  cases value with
  | object members => exact get?_preescapedMembers key members
  | _ => rfl

/-- A value that is present stays present, so a default applies where it applied before. -/
theorem filter_isTruthy_preescaped (value? : Option Value) :
    (value?.map Value.preescaped).filter (·.isTruthy) =
      (value?.filter (·.isTruthy)).map Value.preescaped := by
  cases value? with
  | none => rfl
  | some value =>
      simp only [Option.map_some, Option.filter_some, Value.isTruthy_preescaped]
      split <;> rfl

theorem display_or_default_preescaped {default : String} (hdefault : escapeHtml default = default)
    (value? : Option Value) :
    ((value?.map Value.preescaped).map (·.display)).getD default =
      escapeHtml ((value?.map (·.display)).getD default) := by
  cases value? with
  | none => exact hdefault.symm
  | some value => exact value.display_preescaped

@[simp] theorem Value.memberText_preescaped (key : String) (item : Value) :
    item.preescaped.memberText key = escapeHtml (item.memberText key) := by
  rw [Value.memberText, Value.member?_preescaped, filter_isTruthy_preescaped,
    display_or_default_preescaped escapeHtml_empty, Value.memberText]

@[simp] theorem Value.memberValue_preescaped (key : String) (item : Value) :
    item.preescaped.memberValue key = escapeHtml (item.memberValue key) := by
  rw [Value.memberValue, Value.member?_preescaped, Value.memberValue]
  cases item.member? key with
  | none => rfl
  | some value => exact value.text_preescaped

end Json

open Json

/-! ## Properties -/

namespace Props

/-- Properties with the strings in their values escaped. -/
def preescaped (p : Props) : Props :=
  preescapedMembers p

variable (p : Props) (key : String)

theorem present?_preescaped :
    p.preescaped.present? key = (p.present? key).map Value.preescaped := by
  rw [present?, preescaped, get?_preescapedMembers, filter_isTruthy_preescaped, present?]

@[simp] theorem text_preescaped {default : String} (hdefault : escapeHtml default = default) :
    p.preescaped.text key default = escapeHtml (p.text key default) := by
  rw [text, text?, present?_preescaped, display_or_default_preescaped hdefault, text, text?]

@[simp] theorem flag_preescaped : p.preescaped.flag key = p.flag key := by
  rw [flag, present?_preescaped, Option.isSome_map, flag]

@[simp] theorem flagOr_preescaped (default : Bool) :
    p.preescaped.flagOr key default = p.flagOr key default := by
  rw [flagOr, preescaped, get?_preescapedMembers, flagOr]
  cases Members.get? key p with
  | none => rfl
  | some value =>
      have htruthy := value.isTruthy_preescaped
      cases value with
      | null => rfl
      | _ => exact htruthy

@[simp] theorem number?_preescaped : p.preescaped.number? key = p.number? key := by
  rw [number?, present?_preescaped, number?]
  cases p.present? key with
  | none => rfl
  | some value =>
      cases value with
      | string s => exact float?_trim_escapeHtml s
      | _ => rfl

@[simp] theorem list_preescaped : p.preescaped.list key = (p.list key).map Value.preescaped := by
  rw [list, preescaped, get?_preescapedMembers, list]
  cases Members.get? key p with
  | none => rfl
  | some value =>
      cases value with
      | array items => exact preescapedItems_eq_map items
      | _ => rfl

end Props

end StaticSite
