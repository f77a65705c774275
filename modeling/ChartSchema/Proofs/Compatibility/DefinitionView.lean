import ChartSchema.Compatibility.Analysis
import ChartSchema.Proofs.Compatibility.NodeView
import ChartSchema.Proofs.Crd.Generated
/-!
# The view of a definition

A definition is compared with a later one by what is read from its JSON form. For a definition
that has a name the reading succeeds, and `CrdView.ofCrd_eq` says what it gives. A definition that
was generated has a name, and a single version, so its view is that version's.
-/

namespace ChartSchema

namespace CrdView

/-- The scope that a text names. -/
def scopeOf (text : String) : Scope := if text = "Cluster" then .cluster else .namespaced

/-- What the names of a definition look like. -/
def viewNames (names : CrdNames) : NamesView :=
  { kind := names.kind, plural := names.plural, singular? := names.singular?
    shortNames := names.shortNames?.getD [], listKind? := names.listKind?
    categories := names.categories?.getD [] }

/-- What a version of a definition looks like. -/
def viewVersion (version : CrdVersion) : VersionView :=
  { name := version.name, served := version.served, storage := version.storage
    schema? := version.schema?.map (·.view) }

/-- The members that names are written with. -/
def nameSlots (names : CrdNames) : List (String × Option Json) :=
  [("categories", names.categories?.map Json.strings), ("kind", some (.string names.kind)),
   ("listKind", names.listKind?.map .string), ("plural", some (.string names.plural)),
   ("shortNames", names.shortNames?.map Json.strings),
   ("singular", names.singular?.map .string)]

theorem get?_names (names : CrdNames) (key : String) :
    names.toJson.get? key = (findKey? key (nameSlots names)).join := by
  have hnodup : ((nameSlots names).map (·.1)).Nodup := by
    show ((nameSlots {}).map (·.1)).Nodup
    decide
  rw [← findKey?_filled hnodup, CrdNames.toJson, Json.get?]
  refine congrArg (findKey? key) ?_
  simp only [keywordMember_write _ Json.string, keywordMember_write _ Json.strings, filled,
    nameSlots, List.flatMap_cons, List.flatMap_nil, List.append_assoc, List.append_nil]
  rfl

theorem text_eq_ok {v : Json} {key s : String} (h : v.get? key = some (.string s)) :
    text v [key] = .ok s := by
  have hinside : inside? v [key] = some (.string s) := by
    rw [inside?, List.foldlM_cons, h]
    rfl
  rw [text, hinside]
  rfl

theorem texts_eq {v : Json} {key : String} {texts? : Option (List String)}
    (h : v.get? key = texts?.map Json.strings) : texts v key = texts?.getD [] := by
  rw [texts, h]
  cases texts? with
  | none => rfl
  | some texts =>
    show (texts.map Json.string).filterMap Json.string? = texts
    rw [List.filterMap_map]
    exact List.filterMap_some

theorem bind_string?_eq {v : Json} {key : String} {text? : Option String}
    (h : v.get? key = text?.map .string) : (v.get? key).bind Json.string? = text? := by
  rw [h]
  cases text? <;> rfl

/-- The names of a definition are read as they were written. -/
theorem namesOf_toJson (names : CrdNames) : namesOf names.toJson = .ok (viewNames names) := by
  have hget := get?_names names
  rw [namesOf, text_eq_ok (hget "kind"), text_eq_ok (hget "plural"), texts_eq (hget "shortNames"),
    texts_eq (hget "categories"), bind_string?_eq (hget "singular"),
    bind_string?_eq (hget "listKind")]
  rfl

theorem versionOf_toJson (version : CrdVersion) :
    versionOf version.toJson = .ok (viewVersion version) := by
  obtain ⟨name, served, storage, schema?⟩ := version
  cases schema? <;> rfl

theorem mapM_versionOf (versions : List CrdVersion) :
    (versions.map (·.toJson)).mapM versionOf = .ok (versions.map viewVersion) := by
  induction versions with
  | nil => rfl
  | cons version rest ih =>
    rw [List.map_cons, List.mapM_cons, versionOf_toJson, ih]
    rfl

/-- The specification that a definition is written with. -/
def specOf (group : String) (names : CrdNames) (scope : String) (versions : List CrdVersion) :
    Json :=
  .object [("group", .string group), ("names", names.toJson), ("scope", .string scope),
    ("versions", .array (versions.map (·.toJson)))]

/-- **The view of a definition that has a name.** -/
theorem ofCrd_eq {crd : Crd} {name : String} (hname : crd.name? = some name) :
    ofCrd crd = .ok {
      name, group := crd.group, scope := scopeOf crd.scope, names := viewNames crd.names
      versions := crd.versions.map viewVersion } := by
  obtain ⟨name?, group, names, scope, versions⟩ := crd
  obtain rfl := hname
  have hkind : text (Crd.toJson ⟨some name, group, names, scope, versions⟩) ["kind"]
      = .ok crdKind := rfl
  have hname : text (Crd.toJson ⟨some name, group, names, scope, versions⟩) ["metadata", "name"]
      = .ok name := rfl
  have hspec : member (Crd.toJson ⟨some name, group, names, scope, versions⟩) "spec" "spec"
      = .ok (specOf group names scope versions) := rfl
  have hgroup : text (specOf group names scope versions) ["group"] = .ok group := rfl
  have hnames : member (specOf group names scope versions) "names" "spec.names"
      = .ok names.toJson := rfl
  have hversions : (specOf group names scope versions).get? "versions"
      = some (.array (versions.map (·.toJson))) := rfl
  have hscope : ((specOf group names scope versions).get? "scope").bind Json.string?
      = some scope := rfl
  unfold ofCrd ofJson
  rw [hkind]
  dsimp only [bind, Except.bind]
  rw [bne_self_eq_false, if_neg Bool.false_ne_true, hname]
  dsimp only [pure, Except.pure]
  rw [hspec]
  dsimp only
  rw [hgroup, hnames]
  dsimp only
  rw [namesOf_toJson]
  dsimp only
  rw [hversions]
  dsimp only
  rw [mapM_versionOf, hscope]
  dsimp only
  rw [scopeOf]
  split
  · next h => rw [Option.some.inj h, if_pos rfl]
  · next h => rw [if_neg fun heq => h (congrArg some heq)]

end CrdView
end ChartSchema
