import StaticSite.Proofs.Component.Restoring
import StaticSite.Site.Project

/-!
# Projects that are read back

A page is restored if its components are, and a project if its pages are and its port is one.
Whatever was read is of that form, so reading undoes writing for the whole model.
-/

namespace StaticSite

open Json

theorem restores_strings (strings : List String) :
    (readList readString).Restores (stringsValue strings) strings :=
  Reader.Restores.list fun s _ => restores_string s

/-! ## Pages -/

theorem restores_pageMeta (m : PageMeta) : (readPageMeta .value).Restores m.toValue m :=
  restores_record (by simp [RecordField.optional])
    (.congr
      (.cons ((restores_string m.title).takes rfl)
        (.cons ((restores_string m.description).takes rfl)
          (.cons ((restores_strings m.keywords).takes rfl)
            (.cons (takes_optionalString m.ogImage rfl rfl)
              (.cons (takes_optionalString m.canonical rfl rfl)
                (.nil m))))))
      (by simp))

/-- What holds of a page that was read. -/
def Page.Storable (p : Page) : Prop :=
  ∀ c ∈ p.components, c.Storable

theorem yields_page (source : Source) : (readPage source).Yields Page.Storable := by
  refine yields_record ?_ (List.forall_mem_nil _)
  simp only [List.forall_mem_cons]
  refine ⟨?id, ?name, ?path, ?title, ?content, ?components, ?styles, ?scripts, ?info,
    ?createdAt, ?updatedAt, List.forall_mem_nil _⟩
  case components =>
    exact RecordField.keeps_of_yields "components" (yields_component source).list
      fun _ _ hcomponents _ => hcomponents
  all_goals exact RecordField.keeps_of_set _ fun _ _ hp => hp

theorem restores_page {p : Page} (hp : p.Storable) : (readPage .value).Restores p.toValue p := by
  have hcomponents : (readForest .value).Restores p.components.toValue p.components := by
    rw [Forest.toValue, forestToValues_eq_map]
    exact Reader.Restores.list fun c hc => restores_component (hp c hc)
  exact restores_record (by simp [RecordField.optional])
    (.congr
      (.cons ((restores_string p.id).takes rfl)
        (.cons ((restores_string p.name).takes rfl)
          (.cons ((restores_string p.path).takes rfl)
            (.cons ((restores_string p.title).takes rfl)
              (.cons ((restores_string p.content).takes rfl)
                (.cons (hcomponents.takes rfl)
                  (.cons ((restores_string p.styles).takes rfl)
                    (.cons ((restores_string p.scripts).takes rfl)
                      (.cons ((restores_pageMeta p.info).takes rfl)
                        (.cons ((restores_string p.createdAt).takes rfl)
                          (.cons ((restores_string p.updatedAt).takes rfl)
                            (.nil p))))))))))))
      rfl)

/-! ## Settings -/

theorem restores_seoSettings (s : SeoSettings) : (readSeoSettings .value).Restores s.toValue s :=
  restores_record (by simp [RecordField.optional])
    (.congr
      (.cons ((restores_string s.title).takes rfl)
        (.cons ((restores_string s.description).takes rfl)
          (.cons ((restores_strings s.keywords).takes rfl)
            (.cons (takes_optionalString s.ogImage rfl rfl)
              (.nil s)))))
      (by simp))

/-- What holds of the settings of a deployment that were read. -/
def DeploymentSettings.Storable (d : DeploymentSettings) : Prop :=
  ∀ port, d.port = some port → port < 65536

theorem yields_deploymentSettings (source : Source) :
    (readDeploymentSettings source).Yields DeploymentSettings.Storable := by
  refine yields_record ?_ fun _ hnone => nomatch hnone
  simp only [List.forall_mem_cons]
  refine ⟨?provider, ?host, ?username, ?password, ?path, ?port, ?ssl, List.forall_mem_nil _⟩
  case port =>
    exact RecordField.keeps_of_yields "port" yields_port.option fun _ _ hport _ => hport
  all_goals exact RecordField.keeps_of_set _ fun _ _ hd => hd

theorem restores_deploymentSettings {d : DeploymentSettings} (hd : d.Storable) :
    (readDeploymentSettings .value).Restores d.toValue d := by
  have hprovider : Provider.choices.lookup d.provider.name = some d.provider := by
    cases d.provider <;> rfl
  exact restores_record (by simp [RecordField.optional])
    (.congr
      (.cons ((restores_choice hprovider).takes rfl)
        (.cons ((restores_string d.host).takes rfl)
          (.cons ((restores_string d.username).takes rfl)
            (.cons ((restores_string d.password).takes rfl)
              (.cons ((restores_string d.path).takes rfl)
                (.cons (takes_option d.port (fun port hport => restores_port (hd port hport))
                    (fun _ => Value.noConfusion) rfl rfl)
                  (.cons (takes_option d.ssl (fun ssl _ => restores_bool ssl)
                      (fun _ => Value.noConfusion) rfl rfl)
                    (.nil d))))))))
      (by cases d.port <;> simp [optionalMember]))

theorem yields_projectSettings (source : Source) :
    (readProjectSettings source).Yields (·.deployment.Storable) := by
  refine yields_record ?_ fun _ hnone => nomatch hnone
  simp only [List.forall_mem_cons]
  refine ⟨?domain, ?ssl, ?compression, ?cache, ?analytics, ?seo, ?deployment,
    List.forall_mem_nil _⟩
  case deployment =>
    exact RecordField.keeps_of_yields "deployment" (yields_deploymentSettings source)
      fun _ _ hdeployment _ => hdeployment
  all_goals exact RecordField.keeps_of_set _ fun _ _ hs => hs

theorem restores_projectSettings {s : ProjectSettings} (hs : s.deployment.Storable) :
    (readProjectSettings .value).Restores s.toValue s :=
  restores_record (by simp [RecordField.optional])
    (.congr
      (.cons (takes_optionalString s.domain rfl rfl)
        (.cons ((restores_bool s.ssl).takes rfl)
          (.cons ((restores_bool s.compression).takes rfl)
            (.cons ((restores_bool s.cache).takes rfl)
              (.cons ((restores_bool s.analytics).takes rfl)
                (.cons ((restores_seoSettings s.seo).takes rfl)
                  (.cons ((restores_deploymentSettings hs).takes rfl)
                    (.nil s))))))))
      (by simp))

/-! ## Projects -/

/-- What holds of a project that was read. -/
structure Project.Storable (p : Project) : Prop where
  pages : ∀ page ∈ p.pages, page.Storable
  deployment : p.settings.deployment.Storable

theorem yields_project (source : Source) : (readProject source).Yields Project.Storable := by
  refine yields_record ?_ ⟨List.forall_mem_nil _, fun _ hnone => nomatch hnone⟩
  simp only [List.forall_mem_cons]
  refine ⟨?id, ?name, ?description, ?type, ?status, ?pages, ?createdAt, ?updatedAt, ?settings,
    List.forall_mem_nil _⟩
  case pages =>
    exact RecordField.keeps_of_yields "pages" (yields_page source).list
      fun _ _ hpages hp => ⟨hpages, hp.deployment⟩
  case settings =>
    exact RecordField.keeps_of_yields "settings" (yields_projectSettings source)
      fun _ _ hsettings hp => ⟨hp.pages, hsettings⟩
  all_goals exact RecordField.keeps_of_set _ fun _ _ hp => ⟨hp.pages, hp.deployment⟩

theorem restores_project {p : Project} (hp : p.Storable) :
    (readProject .value).Restores p.toValue p := by
  have htype : ProjectType.choices.lookup p.type.name = some p.type := by
    cases p.type <;> rfl
  have hstatus : ProjectStatus.choices.lookup p.status.name = some p.status := by
    cases p.status <;> rfl
  have hpages : (readList (readPage .value)).Restores (.array (p.pages.map Page.toValue)) p.pages :=
    Reader.Restores.list fun page hpage => restores_page (hp.pages page hpage)
  exact restores_record (by simp [RecordField.optional])
    (.congr
      (.cons ((restores_string p.id).takes rfl)
        (.cons ((restores_string p.name).takes rfl)
          (.cons ((restores_string p.description).takes rfl)
            (.cons ((restores_choice htype).takes rfl)
              (.cons ((restores_choice hstatus).takes rfl)
                (.cons (hpages.takes rfl)
                  (.cons ((restores_string p.createdAt).takes rfl)
                    (.cons ((restores_string p.updatedAt).takes rfl)
                      (.cons ((restores_projectSettings hp.deployment).takes rfl)
                        (.nil p))))))))))
      rfl)

/-- Components, records, pages and projects are read back as they were, the entries of all maps
in their order. Each kind goes back to the tag it was read from, and only tags of no known kind
are unknown. -/
theorem reading_undoes_writing :
    ReadsBack readComponent Component.toValue ∧ ReadsBack readRecordOf Record.toValue ∧
      ReadsBack readPage Page.toValue ∧ ReadsBack readProject Project.toValue ∧
        (∀ tag, readFrom (fun _ => readKind) (.string tag) = .ok (Kind.ofTag tag) ∧
          (Kind.ofTag tag).tag = tag ∧
            ((∃ other, Kind.ofTag tag = .unknown other) ↔ tag ∉ Kind.known.map Kind.tag)) ∧
          (Kind.known.map Kind.tag).Nodup ∧ Kind.known.length = 22 := by
  refine ⟨?component, ?record, ?page, ?project, ?kind, by decide, rfl⟩
  case component => exact .of_yields yields_component fun _ => restores_component
  case record => exact .of_yields yields_recordOf fun _ => restores_recordOf
  case page => exact .of_yields yields_page fun _ => restores_page
  case project => exact .of_yields yields_project fun _ => restores_project
  case kind =>
    intro tag
    exact ⟨rfl, Kind.tag_ofTag tag, Kind.ofTag_eq_unknown_iff tag⟩

/-- A project as somebody might write it: with a key that nobody knows, a page and a place as
arrays, a component of a kind of its own and a null for what is missing. -/
def handwrittenValue : Value :=
  .object
    [("name", .string "Shop"), ("owner", .string "me"),
      ("pages", .array
        [.array [.string "p1", .string "Home", .string "/", .string "Home", .string "",
          .array
            [.object
              [("type", .string "carousel"), ("id", .string "c1"), ("size", .null),
                ("position", .array [.number (.integer 4), .number (.integer 2)]),
                ("props", .object [("z", .null), ("a", .array [.bool true])])]]]]),
      ("settings", .object [("deployment", .object [("port", .number (.integer 22))])])]

def handwrittenProject : Project where
  name := "Shop"
  pages :=
    [{ id := "p1", name := "Home", path := "/", title := "Home"
       components :=
        [⟨{ id := "c1", kind := .unknown "carousel"
            props := [("z", .null), ("a", .array [.bool true])]
            position := some ⟨(Number.integer 4).toFloat, (Number.integer 2).toFloat⟩ }, []⟩] }]
  settings := { deployment := { port := some 22 } }

theorem handwrittenProject_restored :
    readFrom readProject handwrittenValue = .ok handwrittenProject ∧
      readFrom readProject handwrittenProject.toValue = .ok handwrittenProject := by
  have hread : readFrom readProject handwrittenValue = .ok handwrittenProject := rfl
  exact ⟨hread, reading_undoes_writing.2.2.2.1.1 handwrittenValue handwrittenProject hread⟩

end StaticSite
