import StaticSite.Component.Codec
import StaticSite.Proofs.Json.Records

/-!
# Components that are read back

A component that was read has kinds that their own tags lead back to, and properties and styles
with distinct keys, on every level. Such a component is restored, with the entries of its maps
in their order, and so is a record of a component without its children.
-/

namespace StaticSite

open Json

/-! ## Kinds -/

theorem Kind.tag_ofTag (tag : String) : (Kind.ofTag tag).tag = tag := by
  cases hfind : Kind.known.find? (·.tag = tag) with
  | none => rw [Kind.ofTag, hfind, Option.getD_none, Kind.tag]
  | some kind =>
      rw [Kind.ofTag, hfind, Option.getD_some]
      have htag := List.find?_some hfind
      exact of_decide_eq_true htag

theorem Kind.ofTag_eq_unknown_iff (tag : String) :
    (∃ other, Kind.ofTag tag = .unknown other) ↔ tag ∉ Kind.known.map Kind.tag := by
  constructor
  · rintro ⟨other, hunknown⟩ hknown
    obtain ⟨kind, hmem, rfl⟩ := List.mem_map.mp hknown
    cases hfind : Kind.known.find? (·.tag = kind.tag) with
    | none => simpa using List.find?_eq_none.mp hfind kind hmem
    | some found =>
        have hfound := List.mem_of_find?_eq_some hfind
        rw [Kind.ofTag, hfind, Option.getD_some] at hunknown
        rw [hunknown] at hfound
        simp [Kind.known] at hfound
  · intro hunknown
    have hfind : Kind.known.find? (·.tag = tag) = none := by
      rw [List.find?_eq_none]
      intro kind hmem htag
      exact hunknown (of_decide_eq_true htag ▸ List.mem_map_of_mem hmem)
    exact ⟨tag, by rw [Kind.ofTag, hfind, Option.getD_none]⟩

theorem yields_kind : Reader.Yields readKind fun kind => Kind.ofTag kind.tag = kind := by
  intro budget node kind hread
  obtain ⟨tag, _, rfl⟩ := map_eq_ok_iff.mp hread
  rw [Kind.tag_ofTag]

theorem restores_kind {kind : Kind} (hkind : Kind.ofTag kind.tag = kind) :
    Reader.Restores readKind (.string kind.tag) kind := by
  intro budget hbudget
  exact map_eq_ok_iff.mpr ⟨kind.tag, restores_string kind.tag budget hbudget, hkind⟩

/-! ## Members that may be missing -/

theorem takes_option {σ α : Type} {key : String} {reader : Reader α} {set : Option α → σ → σ}
    {write : α → Value} {s t : σ} (o : Option α)
    (h : ∀ a, o = some a → reader.Restores (write a) a) (hwrite : ∀ a, write a ≠ .null)
    (hset : set o s = t) (hnone : set none s = s) :
    (RecordField.optional key (readOption reader) set).Takes (optionalMember key write o) s t := by
  cases o with
  | none =>
      rw [← hset, hnone]
      exact .nothing rfl
  | some a => exact ((h a rfl).option (hwrite a)).takes hset

theorem takes_optionalString {σ : Type} {key : String} {set : Option String → σ → σ} {s t : σ}
    (o : Option String) (hset : set o s = t) (hnone : set none s = s) :
    (RecordField.optional key (readOption readString) set).Takes
      (optionalMember key .string o) s t :=
  takes_option o (fun a _ => restores_string a) (fun _ => Value.noConfusion) hset hnone

/-! ## Places and sizes -/

theorem restores_position (p : Position) : (readPosition .value).Restores p.toValue p :=
  restores_record (by simp [RecordField.needed, RecordField.optional])
    (.congr
      (.cons ((restores_float p.x).takes_needed rfl)
        (.cons ((restores_float p.y).takes_needed rfl) (.nil p))) rfl)

theorem restores_size (s : Size) : (readSize .value).Restores s.toValue s :=
  restores_record (by simp [RecordField.needed, RecordField.optional])
    (.congr
      (.cons ((restores_float s.width).takes_needed rfl)
        (.cons ((restores_float s.height).takes_needed rfl) (.nil s))) rfl)

/-! ## Widgets -/

/-- What holds of a widget that was read. -/
structure Widget.Storable (w : Widget) : Prop where
  kind : Kind.ofTag w.kind.tag = w.kind
  props : (Value.object w.props).DistinctKeys
  styles : (Value.object w.styles).DistinctKeys

theorem blankWidget_storable : blankWidget.Storable where
  kind := by decide
  props := .object List.nodup_nil (by simp [blankWidget])
  styles := .object List.nodup_nil (by simp [blankWidget])

/-- The widget as far as its first four fields tell. -/
def Widget.head (w : Widget) : Widget :=
  { id := w.id, kind := w.kind, name := w.name, props := w.props }

section Fields

variable {σ : Type} {update : (Widget → Widget) → σ → σ}

theorem widgetHeadFields_keep {P : σ → Prop}
    (hupdate : ∀ f s, (∀ w : Widget, w.Storable → (f w).Storable) → P s → P (update f s)) :
    ∀ field ∈ widgetHeadFields update, field.Keeps P := by
  rw [widgetHeadFields]
  simp only [List.forall_mem_cons]
  refine ⟨?id, ?kind, ?name, ?props, List.forall_mem_nil _⟩
  case id =>
    exact RecordField.keeps_of_set "id" fun _ s =>
      hupdate _ s fun w hw => ⟨hw.kind, hw.props, hw.styles⟩
  case kind =>
    exact RecordField.keeps_of_yields "type" yields_kind fun _ s hkind =>
      hupdate _ s fun w hw => ⟨hkind, hw.props, hw.styles⟩
  case name =>
    exact RecordField.keeps_of_set "name" fun _ s =>
      hupdate _ s fun w hw => ⟨hw.kind, hw.props, hw.styles⟩
  case props =>
    exact RecordField.keeps_of_yields "props" yields_map fun _ s hprops =>
      hupdate _ s fun w hw => ⟨hw.kind, hprops, hw.styles⟩

theorem widgetTailFields_keep {source : Source} {P : σ → Prop}
    (hupdate : ∀ f s, (∀ w : Widget, w.Storable → (f w).Storable) → P s → P (update f s)) :
    ∀ field ∈ widgetTailFields source update, field.Keeps P := by
  rw [widgetTailFields]
  simp only [List.forall_mem_cons]
  refine ⟨?styles, ?position, ?size, List.forall_mem_nil _⟩
  case styles =>
    exact RecordField.keeps_of_yields "styles" yields_map fun _ s hstyles =>
      hupdate _ s fun w hw => ⟨hw.kind, hw.props, hstyles⟩
  case position =>
    exact RecordField.keeps_of_set "position" fun _ s =>
      hupdate _ s fun w hw => ⟨hw.kind, hw.props, hw.styles⟩
  case size =>
    exact RecordField.keeps_of_set "size" fun _ s =>
      hupdate _ s fun w hw => ⟨hw.kind, hw.props, hw.styles⟩

variable (update) (put : Widget → σ) (hput : ∀ f w, update f (put w) = put (f w)) {w : Widget}
include hput

theorem fills_head (hw : w.Storable) :
    Fills (widgetHeadFields update) w.headMembers (put blankWidget) (put w.head) :=
  .congr
    (.cons ((restores_string w.id).takes_needed (hput _ _))
      (.cons ((restores_kind hw.kind).takes_needed (hput _ _))
        (.cons ((restores_string w.name).takes (hput _ _))
          (.cons ((restores_map hw.props).takes (hput _ _)) (.nil (put w.head)))))) rfl

theorem fills_tail (hw : w.Storable) :
    Fills (widgetTailFields .value update) w.tailMembers (put w.head) (put w) :=
  .congr
    (.cons ((restores_map hw.styles).takes (hput _ _))
      (.cons (takes_option w.position (fun p _ => restores_position p) (fun _ => Value.noConfusion)
          (hput _ _) (hput _ _))
        (.cons (takes_option w.size (fun s _ => restores_size s) (fun _ => Value.noConfusion)
            (hput _ _) (hput _ _))
          (.nil (put w)))))
    (by simp [Widget.tailMembers])

end Fields

/-! ## Components -/

/-- What holds of a component that was read, on every level. -/
inductive Component.Storable : Component → Prop
  | mk {w : Widget} {children : Forest} (hwidget : w.Storable)
      (hchildren : ∀ c ∈ children, c.Storable) : Storable ⟨w, children⟩

theorem componentFields_keep {source : Source} {readChild : Reader Component}
    (hchild : readChild.Yields Component.Storable) :
    ∀ field ∈ componentFields source readChild, field.Keeps Component.Storable := by
  have hupdate : ∀ f c, (∀ w : Widget, w.Storable → (f w).Storable) → c.Storable →
      (Component.mapWidget f c).Storable := by
    rintro f _ hf ⟨hwidget, hchildren⟩
    exact ⟨hf _ hwidget, hchildren⟩
  have hchildren : ∀ children (c : Component), (∀ child ∈ children, child.Storable) →
      c.Storable → Component.Storable { c with children } := by
    rintro children _ hchildren ⟨hwidget, _⟩
    exact ⟨hwidget, hchildren⟩
  rw [componentFields, List.forall_mem_append, List.forall_mem_cons]
  exact ⟨widgetHeadFields_keep hupdate,
    RecordField.keeps_of_yields "children" hchild.list hchildren, widgetTailFields_keep hupdate⟩

theorem yields_levels (source : Source) (levels : Nat) :
    (readLevels source levels).Yields Component.Storable := by
  induction levels with
  | zero =>
      intro budget node c hread
      cases hread
  | succ levels ih =>
      exact yields_record (componentFields_keep ih) ⟨blankWidget_storable, List.forall_mem_nil _⟩

theorem yields_component (source : Source) : (readComponent source).Yields Component.Storable :=
  fun budget => yields_levels source (budget + 1) budget

theorem forestToValues_eq_map (forest : Forest) :
    forestToValues forest = forest.map Component.toValue := by
  induction forest with
  | nil => rfl
  | cons c rest ih => rw [forestToValues, ih, List.map_cons]

theorem height_lt_of_child {w : Widget} {children : Forest} {c : Component}
    (hc : c ∈ children) :
    (Node.ofValue c.toValue).height < (Node.ofValue (Component.toValue ⟨w, children⟩)).height := by
  have hitem : Node.ofValue c.toValue ∈ nodesOfItems (forestToValues children) := by
    rw [nodesOfItems_eq_map, forestToValues_eq_map]
    exact List.mem_map_of_mem (List.mem_map_of_mem hc)
  have hmember : ("children", Value.array (forestToValues children)) ∈
      w.headMembers ++ ("children", .array (forestToValues children)) :: w.tailMembers :=
    List.mem_append_right _ List.mem_cons_self
  have harray := height_le_of_member hmember
  rw [Node.ofValue, Node.height] at harray
  rw [Component.toValue, Node.ofValue, Node.height]
  exact Nat.lt_succ_of_lt (Nat.lt_of_le_of_lt (height_le_heightOfItems hitem) harray)

theorem restores_levels {c : Component} (hc : c.Storable) {levels : Nat}
    (hlevels : (Node.ofValue c.toValue).height < levels) :
    (readLevels .value levels).Restores c.toValue c := by
  -- A child is lower than its parent, so it fits into the levels that are left.
  induction hc generalizing levels with
  | @mk w children hwidget _ ih =>
      cases levels with
      | zero => cases hlevels
      | succ levels =>
          have hchildren : (readList (readLevels .value levels)).Restores
              (.array (children.map Component.toValue)) children := by
            apply Reader.Restores.list
            intro c hc
            exact ih c hc (Nat.lt_of_lt_of_le (height_lt_of_child hc) (Nat.le_of_lt_succ hlevels))
          have hhead := fills_head Component.mapWidget (fun w => ⟨w, []⟩) (fun _ _ => rfl) hwidget
          have htail := fills_tail Component.mapWidget (fun w => ⟨w, children⟩)
            (fun _ _ => rfl) hwidget
          rw [Component.toValue, forestToValues_eq_map]
          exact restores_record
            (by simp [componentFields, widgetHeadFields, widgetTailFields, RecordField.needed,
              RecordField.optional])
            (hhead.append (.cons (hchildren.takes rfl) htail))

theorem restores_component {c : Component} (hc : c.Storable) :
    (readComponent .value).Restores c.toValue c :=
  fun budget hbudget => restores_levels hc (Nat.lt_succ_of_lt hbudget) budget hbudget

/-! ## Records -/

theorem recordFields_keep (source : Source) :
    ∀ field ∈ recordFields source, field.Keeps (·.widget.Storable) := by
  have hupdate : ∀ f (r : Record), (∀ w : Widget, w.Storable → (f w).Storable) →
      r.widget.Storable → (r.mapWidget f).widget.Storable :=
    fun f r hf => hf r.widget
  rw [recordFields, List.forall_mem_append, List.forall_mem_append, List.forall_mem_singleton]
  exact ⟨⟨widgetHeadFields_keep hupdate, widgetTailFields_keep hupdate⟩,
    RecordField.keeps_of_set "parent" fun _ _ hr => hr⟩

theorem yields_recordOf (source : Source) : (readRecordOf source).Yields (·.widget.Storable) :=
  yields_record (recordFields_keep source) blankWidget_storable

theorem restores_recordOf {r : Record} (hr : r.widget.Storable) :
    (readRecordOf .value).Restores r.toValue r := by
  have hhead := fills_head Record.mapWidget (fun w => ⟨w, none⟩) (fun _ _ => rfl) hr
  have htail := fills_tail Record.mapWidget (fun w => ⟨w, none⟩) (fun _ _ => rfl) hr
  have hparent : Fills [.optional "parent" (readOption readString) fun parent r => { r with parent }]
      (optionalMember "parent" .string r.parent) (Record.mk r.widget none) r :=
    .congr (.cons (takes_optionalString r.parent rfl rfl) (.nil r)) (List.append_nil _)
  exact restores_record
    (by simp [recordFields, widgetHeadFields, widgetTailFields, RecordField.needed,
      RecordField.optional])
    ((hhead.append htail).append hparent)

end StaticSite
