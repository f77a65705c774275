import ChartSchema.Proofs.Crd.Generated
import Mathlib.Data.List.Sort
import Mathlib.Order.Defs.LinearOrder
import Mathlib.Data.String.Basic
/-!
# The order inside lists of required members

Which members a node requires is a list, in the order in which the fields were met. The order says
nothing. `SchemaNode.sortRequired` puts the list of a node and of all nodes inside it in order, so
two nodes are the same up to this order if they are equal behind it.

Markers never touch these lists, and therefore commute with sorting them.
-/

namespace ChartSchema

/-- What is said about a value, with the required members in order. -/
def Facets.sortRequired (f : Facets) : Facets :=
  { f with required? := f.required?.map fun keys => keys.mergeSort (· ≤ ·) }

/-- Lists of texts with the same texts are the same in order. -/
theorem mergeSort_eq_of_perm {xs ys : List String} (h : xs.Perm ys) :
    xs.mergeSort (· ≤ ·) = ys.mergeSort (· ≤ ·) :=
  (((List.mergeSort_perm xs _).trans h).trans (List.mergeSort_perm ys _).symm).eq_of_pairwise'
    (List.pairwise_mergeSort' _ xs) (List.pairwise_mergeSort' _ ys)

namespace SchemaNode

mutual

/-- **The node with the required members in order**, in all nodes inside it as well. -/
def sortRequired (node : SchemaNode) : SchemaNode :=
  match node with
  | ⟨type?, facets, properties?, items?, additional?, anyOf?, others⟩ =>
    ⟨type?, facets.sortRequired, sortProperties? properties?, sortItems? items?,
      sortAdditional? additional?, sortAnyOf? anyOf?, others⟩
termination_by structural node

/-- The same for the properties. -/
def sortProperties? (properties? : Option (List (String × SchemaNode))) :
    Option (List (String × SchemaNode)) :=
  match properties? with
  | some properties => some (sortEachProperty properties)
  | none => none
termination_by structural properties?

/-- The same for each of some properties. -/
def sortEachProperty (properties : List (String × SchemaNode)) : List (String × SchemaNode) :=
  match properties with
  | [] => []
  | (key, node) :: rest => (key, node.sortRequired) :: sortEachProperty rest
termination_by structural properties

/-- The same for the items. -/
def sortItems? (items? : Option SchemaNode) : Option SchemaNode :=
  match items? with
  | some items => some items.sortRequired
  | none => none
termination_by structural items?

/-- The same for the members without a property. -/
def sortAdditional? (additional? : Option (OrBool SchemaNode)) : Option (OrBool SchemaNode) :=
  match additional? with
  | some (.bool allowed) => some (.bool allowed)
  | some (.value node) => some (.value node.sortRequired)
  | none => none
termination_by structural additional?

/-- The same for the alternatives. -/
def sortAnyOf? (anyOf? : Option (List SchemaNode)) : Option (List SchemaNode) :=
  match anyOf? with
  | some nodes => some (sortEach nodes)
  | none => none
termination_by structural anyOf?

/-- The same for each of some nodes. -/
def sortEach (nodes : List SchemaNode) : List SchemaNode :=
  match nodes with
  | [] => []
  | node :: rest => node.sortRequired :: sortEach rest
termination_by structural nodes

end

/-- The properties with the required members in order. -/
def sortValues (properties : List (String × SchemaNode)) : List (String × SchemaNode) :=
  properties.map fun p => (p.1, p.2.sortRequired)

theorem sortEachProperty_eq (properties : List (String × SchemaNode)) :
    sortEachProperty properties = sortValues properties := by
  induction properties with
  | nil => rfl
  | cons p rest ih => rw [sortEachProperty, ih, sortValues, sortValues, List.map_cons]

theorem sortRequired_properties? (node : SchemaNode) :
    node.sortRequired.properties? = node.properties?.map sortValues := by
  obtain ⟨type?, facets, properties?, items?, additional?, anyOf?, others⟩ := node
  show sortProperties? properties? = properties?.map sortValues
  cases properties? with
  | none => rfl
  | some properties => exact congrArg some (sortEachProperty_eq properties)

/-- Where there are no properties, none are put in order. -/
theorem sortRequired_properties (node : SchemaNode) :
    node.sortRequired.properties?.getD [] = sortValues (node.properties?.getD []) := by
  rw [sortRequired_properties?]
  cases node.properties? <;> rfl

theorem sortRequired_items? (node : SchemaNode) :
    node.sortRequired.items? = node.items?.map sortRequired := by
  obtain ⟨type?, facets, properties?, items?, additional?, anyOf?, others⟩ := node
  show sortItems? items? = items?.map sortRequired
  cases items? <;> rfl

/-- Facets are put in order, whatever else the node has. -/
theorem sortRequired_withFacets (node : SchemaNode) (f : Facets) :
    { node with facets := f }.sortRequired =
      { node.sortRequired with facets := f.sortRequired } := by
  cases node
  rfl

/-- The node with more keywords that are carried along. -/
def keepOthers (kept : List (String × Json)) (node : SchemaNode) : SchemaNode :=
  { node with others := kept ++ node.others }

theorem sortRequired_keepOthers (kept : List (String × Json)) (node : SchemaNode) :
    (keepOthers kept node).sortRequired = keepOthers kept node.sortRequired := by
  cases node
  rfl

theorem sortRequired_facets (node : SchemaNode) :
    node.sortRequired.facets = node.facets.sortRequired := by
  cases node
  rfl

theorem sortRequired_describe (node : SchemaNode) (documentation : List String) :
    (node.describe documentation).sortRequired = node.sortRequired.describe documentation := by
  unfold describe
  split
  · rfl
  · rw [sortRequired_withFacets, sortRequired_facets]
    rfl

end SchemaNode

/-! ## Markers -/

namespace Marker

open SchemaNode

/-- **A marker commutes with putting required members in order.** -/
theorem sortRequired_apply (node : SchemaNode) (marker : Marker) :
    (apply node marker).sortRequired = apply node.sortRequired marker := by
  have hfacets (h : ∀ node, apply node marker =
      { node with facets := onFacets node.facets marker }) :
      (apply node marker).sortRequired = apply node.sortRequired marker := by
    rw [h, h, sortRequired_withFacets, sortRequired_facets]
    cases marker <;> rfl
  cases marker
  case intOrString =>
    cases node
    rfl
  all_goals exact hfacets fun _ => rfl

/-- Markers commute with putting required members in order. -/
theorem sortRequired_foldl_apply (node : SchemaNode) (markers : List Marker) :
    (markers.foldl apply node).sortRequired = markers.foldl apply node.sortRequired := by
  induction markers generalizing node with
  | nil => rfl
  | cons marker rest ih => rw [List.foldl_cons, List.foldl_cons, ih, sortRequired_apply]

theorem sortRequired_applyToValue (node : SchemaNode) (markers : List Marker) :
    (applyToValue node markers).sortRequired = applyToValue node.sortRequired markers :=
  sortRequired_foldl_apply _ _

theorem sortRequired_applyValues (isList : Bool) (node : SchemaNode) (markers : List Marker) :
    (applyValues isList node markers).sortRequired =
      applyValues isList node.sortRequired markers := by
  obtain ⟨type?, facets, properties?, items?, additional?, anyOf?, others⟩ := node
  cases isList with
  | false => cases items? <;> exact sortRequired_applyToValue _ _
  | true =>
    cases items? with
    | some items =>
      have hitems := sortRequired_applyToValue items markers
      exact congrArg (fun own => SchemaNode.mk type? facets.sortRequired
        (sortProperties? properties?) (some own) (sortAdditional? additional?)
        (sortAnyOf? anyOf?) others) hitems
    | none =>
      have hnew := sortRequired_applyToValue
        ⟨type?, facets, properties?, none, additional?, anyOf?, eraseKey "items" others⟩ markers
      exact (sortRequired_keepOthers _ _).trans (congrArg (keepOthers (others.filter (·.1 == "items"))) hnew)

/-- **The markers of a field commute with putting required members in order.** No marker looks at
the list of required members or at its order. -/
theorem sortRequired_applyLines (isList : Bool) (path : String) (raw : List String)
    (node : SchemaNode) :
    applyLines isList path raw node.sortRequired =
      (applyLines isList path raw node).map fun own => (own.1.sortRequired, own.2) := by
  rw [applyLines_eq, applyLines_eq]
  cases parseAll isList path raw with
  | error e => rfl
  | ok markers =>
    show Except.ok (applyAll isList node.sortRequired markers, required markers) =
      Except.ok ((applyAll isList node markers).sortRequired, required markers)
    rw [applyAll, applyAll, sortRequired_foldl_apply, sortRequired_applyValues]

end Marker

/-! ## Definitions -/

/-- The definition with the required members of its schemas in order. -/
def Crd.sortRequired (crd : Crd) : Crd :=
  { crd with versions := crd.versions.map fun version =>
      { version with schema? := version.schema?.map (·.sortRequired) } }

end ChartSchema
