import ChartSchema.Text.Basic
/-!
# API group and version

A values document names the API it belongs to as `group/version`, or as a version alone for
the group without a name.
-/

namespace ChartSchema

/-- An API group and a version in it; both are empty where a document names none. -/
structure GroupVersion where
  /-- The group, such as `apps.example.com`. -/
  group : String := ""
  /-- The version, such as `v1beta1`. -/
  version : String := ""
  deriving Repr, DecidableEq, Inhabited

namespace GroupVersion

/-- The group and version that a text names: at most one slash may stand in it. -/
def parse? (text : String) : Option GroupVersion :=
  if text = "" ∨ text = "/" then some {}
  else
    match Text.splitOn (· == '/') text.toList with
    | [version] => some ⟨"", String.ofList version⟩
    | [group, version] => some ⟨String.ofList group, String.ofList version⟩
    | _ => none

/-- Whether neither a group nor a version is named. -/
def isEmpty (gv : GroupVersion) : Bool :=
  gv.group.isEmpty && gv.version.isEmpty

/-- The text of a group and version. -/
def text (gv : GroupVersion) : String :=
  if gv.group.isEmpty then gv.version else gv.group ++ "/" ++ gv.version

end GroupVersion
end ChartSchema
