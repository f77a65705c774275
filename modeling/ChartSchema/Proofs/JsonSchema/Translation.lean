import ChartSchema.JsonSchema.OpenApi
import ChartSchema.Proofs.Crd.Generated
import ChartSchema.Proofs.Crd.Slots
/-!
# The JSON Schema of a node

The words of OpenAPI are turned into those of JSON Schema by one pass over the members of a node
for each thing that is said in another way. For a node of a generated definition the outcome can be
said at once: `SchemaNode.translated` lists the keywords of JSON Schema, each with the value that
comes out, and `SchemaNode.Generated.translation` says that this is what the passes give.
-/

namespace ChartSchema

/-! ## Key order -/

namespace InKeyOrder

variable {α : Type} {xs : List (String × α)}

theorem filter (h : InKeyOrder xs) (p : String × α → Bool) : InKeyOrder (xs.filter p) :=
  List.Pairwise.sublist (List.filter_sublist.map _) h

theorem eraseKey (h : InKeyOrder xs) (key : String) : InKeyOrder (eraseKey key xs) := h.filter _

end InKeyOrder

namespace JsonSchema

variable {members : List (String × Json)} {key : String}

/-! ## What each pass does -/

/-- The inner nodes of a member are converted under its key. -/
theorem convertInner_eq (strict : Bool) (members : List (String × Json)) :
    convertInner strict members = members.map fun m => (m.1, convertUnder strict m.1 m.2) := by
  induction members with
  | nil => rfl
  | cons m rest ih => rw [convertInner, ih, List.map_cons]

theorem findKey?_convertInner (strict : Bool) :
    findKey? key (convertInner strict members)
      = (findKey? key members).map (convertUnder strict key) := by
  induction members with
  | nil => rfl
  | cons m rest ih =>
    obtain ⟨k, v⟩ := m
    rw [convertInner, findKey?_cons, findKey?_cons, ih]
    split
    · next hk => rw [hk]; rfl
    · rfl

theorem inKeyOrder_convertInner (strict : Bool) (h : InKeyOrder members) :
    InKeyOrder (convertInner strict members) := by
  unfold InKeyOrder
  rw [convertInner_eq, List.map_map]
  exact h

theorem isSet_of_find {b? : Option Bool} (h : findKey? key members = b?.map .bool) :
    isSet key members = b?.getD false := by
  rw [isSet, h]
  cases b? <;> rfl

/-- The extensions of the cluster are gone, and nothing else. -/
theorem findKey?_dropExtensions :
    findKey? key (dropExtensions members)
      = if (Text.afterPrefix? "x-kubernetes-" key).isNone then findKey? key members else none := by
  exact findKey?_filter (fun key => (Text.afterPrefix? "x-kubernetes-" key).isNone) key members

/-- An integer or text has two alternatives in place of its type. -/
theorem findKey?_intOrString :
    findKey? key (intOrString members)
      = if "anyOf" = key then some (.array [typed "integer", typed "string"])
        else if key = "type" then none else findKey? key members := by
  rw [intOrString, findKey?_insertKey, findKey?_eraseKey]

/-- A bound that is marked as excluded stands under the keyword of excluded bounds. -/
theorem findKey?_excludeBound (key : String) {bound exclusive : String} {b? : Option Bool}
    (hne : exclusive ≠ bound) (h : findKey? exclusive members = b?.map .bool) :
    findKey? key (excludeBound bound exclusive members)
      = if exclusive = key then (if b?.getD false then findKey? bound members else none)
        else if bound = key then (if b?.getD false then none else findKey? bound members)
        else findKey? key members := by
  rw [excludeBound, h]
  rcases b? with - | - | -
  · -- There is no mark.
    dsimp only [Option.map_none, Option.getD_none]
    rw [if_neg Bool.false_ne_true, if_neg Bool.false_ne_true]
    by_cases hkey : exclusive = key
    · rw [if_pos hkey, ← hkey, h]
      rfl
    · rw [if_neg hkey]
      split
      · next hbound => rw [hbound]
      · rfl
  · -- The mark is not set, and is left out.
    dsimp only [Option.map_some, Option.getD_some]
    rw [findKey?_eraseKey, if_neg Bool.false_ne_true, if_neg Bool.false_ne_true]
    by_cases hkey : exclusive = key
    · rw [if_pos hkey, if_pos hkey.symm]
    · rw [if_neg hkey, if_neg (Ne.symm hkey)]
      split
      · next hbound => rw [hbound]
      · rfl
  · -- The mark is set, and the bound takes its place.
    dsimp only [Option.map_some, Option.getD_some]
    rw [if_pos rfl, if_pos rfl, findKey?_eraseKey, if_neg (Ne.symm hne)]
    cases hbound : findKey? bound members with
    | none =>
      dsimp only
      rw [findKey?_eraseKey]
      by_cases hkey : exclusive = key
      · rw [if_pos hkey, if_pos hkey.symm]
      · rw [if_neg hkey, if_neg (Ne.symm hkey)]
        split
        · next heq => rw [← heq, hbound]
        · rfl
    | some limit =>
      dsimp only
      rw [findKey?_insertKey, findKey?_eraseKey, findKey?_eraseKey]
      by_cases hkey : exclusive = key
      · rw [if_pos hkey, if_pos hkey]
      · rw [if_neg hkey, if_neg hkey, if_neg (Ne.symm hkey)]
        by_cases heq : bound = key
        · rw [if_pos heq, if_pos heq.symm]
        · rw [if_neg heq, if_neg (Ne.symm heq)]

/-- An object is closed only where nothing is said about other members. -/
theorem findKey?_closeObject :
    findKey? key (closeObject members)
      = if "additionalProperties" = key then
          (findKey? key members).or (if declaresProperties members then some (.bool false) else none)
        else findKey? key members := by
  rw [closeObject]
  by_cases hkey : "additionalProperties" = key
  · subst hkey
    rw [if_pos rfl, hasKey]
    cases hfind : findKey? "additionalProperties" members with
    | some v =>
      rw [Option.isSome_some, Bool.not_true, Bool.and_false, if_neg Bool.false_ne_true, hfind]
      rfl
    | none =>
      rw [Option.isSome_none, Bool.not_false, Bool.and_true, Option.none_or]
      split
      · rw [findKey?_insertKey, if_pos rfl]
      · exact hfind
  · rw [if_neg hkey]
    split
    · rw [findKey?_insertKey, if_neg hkey]
    · rfl

/-- Null is one more alternative, where there are alternatives. -/
theorem findKey?_allowNull_of_anyOf {branches : List Json}
    (h : findKey? "anyOf" members = some (.array branches)) :
    findKey? key (allowNull members)
      = if "anyOf" = key then some (.array (branches ++ [typed "null"]))
        else findKey? key members := by
  rw [allowNull, h]
  dsimp only
  rw [findKey?_insertKey]

/-- The members with null as one more type. -/
def withNullType (members : List (String × Json)) : List (String × Json) :=
  match findKey? "type" members with
  | some (.string type) => insertKey "type" (.array [.string type, .string "null"]) members
  | _ => members

theorem allowNull_eq (h : findKey? "anyOf" members = none) :
    allowNull members
      = match findKey? "enum" (withNullType members) with
        | some (.array values) =>
          if values.any isNull then withNullType members
          else insertKey "enum" (.array (values ++ [.null])) (withNullType members)
        | _ => withNullType members := by
  rw [allowNull, h]
  rfl

theorem findKey?_withNullType {type? : Option String}
    (htype : findKey? "type" members = type?.map .string) :
    findKey? key (withNullType members)
      = if "type" = key then type?.map fun type => .array [.string type, .string "null"]
        else findKey? key members := by
  rw [withNullType, htype]
  cases type? with
  | none =>
    dsimp only [Option.map_none]
    split
    · next hkey => rw [← hkey, htype]; rfl
    · rfl
  | some type => exact findKey?_insertKey ..

/-- Null is one more type and one more of the values, where there are no alternatives. -/
theorem findKey?_allowNull {type? : Option String} {values? : Option (List Json)}
    (hanyOf : findKey? "anyOf" members = none)
    (htype : findKey? "type" members = type?.map .string)
    (henum : findKey? "enum" members = values?.map .array)
    (hnull : ∀ values, values? = some values → values.any isNull = false) :
    findKey? key (allowNull members)
      = if "type" = key then type?.map fun type => .array [.string type, .string "null"]
        else if "enum" = key then values?.map fun values => .array (values ++ [Json.null])
        else findKey? key members := by
  rw [allowNull_eq hanyOf, findKey?_withNullType htype, if_neg (by decide), henum]
  cases values? with
  | none =>
    dsimp only [Option.map_none]
    rw [findKey?_withNullType htype]
    congr 1
    split
    · next hkey => rw [← hkey, henum]; rfl
    · rfl
  | some values =>
    dsimp only [Option.map_some]
    rw [hnull values rfl, if_neg Bool.false_ne_true, findKey?_insertKey,
      findKey?_withNullType htype]
    by_cases hkey : "type" = key
    · subst hkey
      rfl
    · rw [if_neg hkey, if_neg hkey]

/-! ## The order of the keywords -/

theorem inKeyOrder_dropExtensions (h : InKeyOrder members) :
    InKeyOrder (dropExtensions members) := h.filter _

theorem inKeyOrder_intOrString (h : InKeyOrder members) : InKeyOrder (intOrString members) :=
  (h.eraseKey _).insertKey _ _

theorem inKeyOrder_excludeBound (h : InKeyOrder members) (bound exclusive : String) :
    InKeyOrder (excludeBound bound exclusive members) := by
  unfold excludeBound
  split
  · dsimp only
    split
    · exact ((h.eraseKey _).eraseKey _).insertKey _ _
    · exact h.eraseKey _
  · exact h
  · exact h
  · exact h.eraseKey _

theorem inKeyOrder_closeObject (h : InKeyOrder members) : InKeyOrder (closeObject members) := by
  unfold closeObject
  split
  · exact h.insertKey _ _
  · exact h

theorem inKeyOrder_allowNull (h : InKeyOrder members) : InKeyOrder (allowNull members) := by
  have htyped : InKeyOrder (withNullType members) := by
    unfold withNullType
    split
    · exact h.insertKey _ _
    · exact h
  unfold allowNull
  split
  · exact h.insertKey _ _
  · dsimp only
    split
    · split
      · exact htyped
      · exact htyped.insertKey _ _
    · exact htyped

/-- **The keywords of JSON Schema are in key order**, if those of OpenAPI were. Each pass drops a
keyword or puts one in its place. -/
theorem inKeyOrder_ofOpenApiMembers (strict : Bool) (h : InKeyOrder members) :
    InKeyOrder (ofOpenApiMembers strict members) := by
  unfold ofOpenApiMembers
  dsimp only
  have hplain := inKeyOrder_dropExtensions (h.eraseKey "nullable")
  have htyped : InKeyOrder (if isSet "x-kubernetes-int-or-string" members then
      intOrString (dropExtensions (eraseKey "nullable" members))
      else dropExtensions (eraseKey "nullable" members)) := by
    split
    · exact inKeyOrder_intOrString hplain
    · exact hplain
  have hbounded := inKeyOrder_excludeBound (inKeyOrder_excludeBound htyped "minimum"
    "exclusiveMinimum") "maximum" "exclusiveMaximum"
  split
  · refine inKeyOrder_allowNull ?_
    split
    · exact inKeyOrder_closeObject hbounded
    · exact hbounded
  · split
    · exact inKeyOrder_closeObject hbounded
    · exact hbounded

end JsonSchema

/-! ## Inner nodes -/

namespace JsonSchema

/-- The value of a keyword that holds no nodes stays as it is. -/
theorem convertUnder_of_plain (strict : Bool) {key : String} (hproperties : key ≠ "properties")
    (hnode : ["items", "additionalProperties", "not"].contains key = false)
    (hnodes : ["anyOf", "allOf", "oneOf"].contains key = false) (v : Json) :
    convertUnder strict key v = v := by
  unfold convertUnder
  split
  · rw [if_neg hproperties, hnode, if_neg Bool.false_ne_true]
  · rw [hnodes, if_neg Bool.false_ne_true]
  · rfl

theorem convertEach_eq (strict : Bool) (members : List (String × Json)) :
    convertEach strict members = members.map fun m => (m.1, ofOpenApi strict m.2) := by
  induction members with
  | nil => rfl
  | cons m rest ih => rw [convertEach, ih, List.map_cons]

end JsonSchema

namespace SchemaNode

open JsonSchema (ofOpenApi convertUnder)

theorem convertUnder_properties (strict : Bool) (properties : List (String × SchemaNode)) :
    convertUnder strict "properties" (.object (properties.map fun p => (p.1, p.2.toJson)))
      = .object (properties.map fun p => (p.1, ofOpenApi strict p.2.toJson)) := by
  show Json.object (JsonSchema.convertEach strict _) = _
  rw [JsonSchema.convertEach_eq, List.map_map]
  rfl

theorem convertUnder_items (strict : Bool) (node : SchemaNode) :
    convertUnder strict "items" node.toJson = ofOpenApi strict node.toJson := by
  cases node
  rfl

theorem convertUnder_additional (strict : Bool) (additional : OrBool SchemaNode) :
    convertUnder strict "additionalProperties" (additionalValue additional)
      = match additional with
        | .bool allowed => .bool allowed
        | .value value => ofOpenApi strict value.toJson := by
  cases additional with
  | bool allowed => rfl
  | value node => cases node; rfl

end SchemaNode

/-! ## The translation of a node -/

namespace Facets

/-- A flag that is not set is as good as one that is absent. -/
def isNullable (f : Facets) : Bool := f.nullable?.getD false

/-- A bound, unless it is excluded. -/
def included (exclusive? : Option Bool) (bound? : Option Binary64) : Option Json :=
  if exclusive?.getD false then none else bound?.map .float

/-- A bound, if it is excluded. -/
def excluded (exclusive? : Option Bool) (bound? : Option Binary64) : Option Json :=
  if exclusive?.getD false then bound?.map .float else none

/-- **The keywords of JSON Schema that lead to no other schema**, but for the type and the listed
values, where null may be allowed. -/
def translated (f : Facets) : List (String × Option Json) :=
  [("description", f.description?.map .string), ("default", f.default?),
   ("format", f.format?.map .string), ("pattern", f.pattern?.map .string),
   ("minimum", included f.exclusiveMinimum? f.minimum?),
   ("maximum", included f.exclusiveMaximum? f.maximum?),
   ("exclusiveMinimum", excluded f.exclusiveMinimum? f.minimum?),
   ("exclusiveMaximum", excluded f.exclusiveMaximum? f.maximum?),
   ("multipleOf", f.multipleOf?.map .float),
   ("minLength", f.minLength?.map .int), ("maxLength", f.maxLength?.map .int),
   ("minItems", f.minItems?.map .int), ("maxItems", f.maxItems?.map .int),
   ("uniqueItems", f.uniqueItems?.map .bool),
   ("minProperties", f.minProperties?.map .int), ("maxProperties", f.maxProperties?.map .int),
   ("required", f.required?.map Json.strings)]

end Facets

namespace SchemaNode

open JsonSchema (ofOpenApi)

variable {node : SchemaNode}

/-- The type in JSON Schema: null is another one of a value that may be null. -/
def typeWords (nullable : Bool) (type : String) : Json :=
  if nullable then .array [.string type, .string "null"] else .string type

/-- The alternatives for an integer or text, of which null may be one. -/
def alternatives (nullable : Bool) : Json :=
  .array ([JsonSchema.typed "integer", JsonSchema.typed "string"] ++
    if nullable then [JsonSchema.typed "null"] else [])

/-- The values that are listed: null is one more, unless there are alternatives. -/
def listedValues (nullable hasAlternatives : Bool) (values : List Json) : Json :=
  .array (values ++ if nullable && !hasAlternatives then [.null] else [])

/-- What is said in JSON Schema about the members without a property. -/
def additionalWords (strict : Bool) (node : SchemaNode) : Option Json :=
  match node.additional? with
  | some (.value value) => some (ofOpenApi strict value.toJson)
  | some (.bool allowed) => some (.bool allowed)
  | none =>
    if strict && !node.facets.preserveUnknown?.getD false && !(node.properties?.getD []).isEmpty
    then some (.bool false) else none

/-- **The keywords of JSON Schema for a node**, each with its value if it has one. -/
def translated (strict : Bool) (node : SchemaNode) : List (String × Option Json) :=
  [("type", node.type?.map (typeWords node.facets.isNullable)),
   ("enum", node.facets.enum?.map (listedValues node.facets.isNullable node.anyOf?.isSome)),
   ("properties", node.properties?.map fun ps =>
      .object (ps.map fun p => (p.1, ofOpenApi strict p.2.toJson))),
   ("items", node.items?.map fun items => ofOpenApi strict items.toJson),
   ("additionalProperties", additionalWords strict node),
   ("anyOf", node.anyOf?.map fun _ => alternatives node.facets.isNullable)] ++
    node.facets.translated

section

variable {strict : Bool} {members : List (String × Json)}

/-- What is found in the members of a node with its inner nodes converted. -/
def FindsConverted (node : SchemaNode) (strict : Bool) (members : List (String × Json)) : Prop :=
  ∀ key, findKey? key members
    = (findKey? key node.slots).join.map (JsonSchema.convertUnder strict key)

/-- A keyword that holds no nodes is found as it was written. -/
theorem FindsConverted.plain (h : FindsConverted node strict members) {key : String}
    (hproperties : key ≠ "properties")
    (hnode : ["items", "additionalProperties", "not"].contains key = false)
    (hnodes : ["anyOf", "allOf", "oneOf"].contains key = false) :
    findKey? key members = (findKey? key node.slots).join := by
  rw [h key]
  cases (findKey? key node.slots).join with
  | none => rfl
  | some v =>
    exact congrArg some (JsonSchema.convertUnder_of_plain strict hproperties hnode hnodes v)

theorem FindsConverted.properties (h : FindsConverted node strict members) :
    findKey? "properties" members = node.properties?.map fun properties =>
      .object (properties.map fun p => (p.1, ofOpenApi strict p.2.toJson)) := by
  refine (h _).trans ?_
  show (node.properties?.map _).map _ = _
  rw [Option.map_map]
  exact congrArg (fun f => node.properties?.map f) (funext (convertUnder_properties strict))

theorem FindsConverted.items (h : FindsConverted node strict members) :
    findKey? "items" members = node.items?.map fun items => ofOpenApi strict items.toJson := by
  refine (h _).trans ?_
  show (node.items?.map toJson).map _ = _
  rw [Option.map_map]
  exact congrArg (fun f => node.items?.map f) (funext (convertUnder_items strict))

/-- What is found behind the passes up to that for bounds. -/
theorem FindsConverted.bounded (h : FindsConverted node strict members) (key : String) :
    findKey? key (JsonSchema.excludeBound "maximum" "exclusiveMaximum"
      (JsonSchema.excludeBound "minimum" "exclusiveMinimum"
        (if node.facets.intOrString?.getD false then
          JsonSchema.intOrString (JsonSchema.dropExtensions (eraseKey "nullable" members))
        else JsonSchema.dropExtensions (eraseKey "nullable" members))))
      = if key = "exclusiveMaximum" then
          Facets.excluded node.facets.exclusiveMaximum? node.facets.maximum?
        else if key = "maximum" then
          Facets.included node.facets.exclusiveMaximum? node.facets.maximum?
        else if key = "exclusiveMinimum" then
          Facets.excluded node.facets.exclusiveMinimum? node.facets.minimum?
        else if key = "minimum" then
          Facets.included node.facets.exclusiveMinimum? node.facets.minimum?
        else if node.facets.intOrString?.getD false && key == "anyOf" then
          some (alternatives false)
        else if node.facets.intOrString?.getD false && key == "type" then none
        else if (Text.afterPrefix? "x-kubernetes-" key).isNone && key != "nullable" then
          findKey? key members
        else none := by
  have hplain (key : String) :
      findKey? key (JsonSchema.dropExtensions (eraseKey "nullable" members))
        = if (Text.afterPrefix? "x-kubernetes-" key).isNone && key != "nullable" then
            findKey? key members else none := by
    rw [JsonSchema.findKey?_dropExtensions, findKey?_eraseKey]
    by_cases hkey : key = "nullable" <;> simp [hkey]
  have htyped (key : String) :
      findKey? key (if node.facets.intOrString?.getD false then
          JsonSchema.intOrString (JsonSchema.dropExtensions (eraseKey "nullable" members))
        else JsonSchema.dropExtensions (eraseKey "nullable" members))
        = if node.facets.intOrString?.getD false && key == "anyOf" then some (alternatives false)
          else if node.facets.intOrString?.getD false && key == "type" then none
          else if (Text.afterPrefix? "x-kubernetes-" key).isNone && key != "nullable" then
            findKey? key members
          else none := by
    split
    · next hset =>
      rw [JsonSchema.findKey?_intOrString, hplain, hset]
      simp only [Bool.true_and, beq_iff_eq, eq_comm (a := "anyOf")]
      rfl
    · next hset =>
      rw [hplain, Bool.eq_false_iff.mpr hset]
      simp only [Bool.false_and, Bool.false_eq_true, if_false]
  generalize (if node.facets.intOrString?.getD false then
      JsonSchema.intOrString (JsonSchema.dropExtensions (eraseKey "nullable" members))
    else JsonSchema.dropExtensions (eraseKey "nullable" members)) = typed at htyped
  -- The keywords of bounds are no extensions and not those that the earlier passes change.
  have hkept (key : String) (hanyOf : key ≠ "anyOf") (htype : key ≠ "type")
      (hkey : ((Text.afterPrefix? "x-kubernetes-" key).isNone && key != "nullable") = true)
      (hproperties : key ≠ "properties")
      (hnode : ["items", "additionalProperties", "not"].contains key = false)
      (hnodes : ["anyOf", "allOf", "oneOf"].contains key = false) :
      findKey? key typed = (findKey? key node.slots).join := by
    rw [htyped, beq_false_of_ne hanyOf, beq_false_of_ne htype, Bool.and_false,
      if_neg Bool.false_ne_true, if_neg Bool.false_ne_true, if_pos hkey]
    exact h.plain hproperties hnode hnodes
  have hmarkMin : findKey? "exclusiveMinimum" typed = node.facets.exclusiveMinimum?.map .bool :=
    hkept _ (by decide) (by decide) (by decide) (by decide) (by decide) (by decide)
  have hmarkMax : findKey? "exclusiveMaximum" typed = node.facets.exclusiveMaximum?.map .bool :=
    hkept _ (by decide) (by decide) (by decide) (by decide) (by decide) (by decide)
  have hmin : findKey? "minimum" typed = node.facets.minimum?.map .float :=
    hkept _ (by decide) (by decide) (by decide) (by decide) (by decide) (by decide)
  have hmax : findKey? "maximum" typed = node.facets.maximum?.map .float :=
    hkept _ (by decide) (by decide) (by decide) (by decide) (by decide) (by decide)
  have hlower (key : String) : findKey? key
      (JsonSchema.excludeBound "minimum" "exclusiveMinimum" typed)
        = if "exclusiveMinimum" = key then
            Facets.excluded node.facets.exclusiveMinimum? node.facets.minimum?
          else if "minimum" = key then
            Facets.included node.facets.exclusiveMinimum? node.facets.minimum?
          else findKey? key typed := by
    rw [JsonSchema.findKey?_excludeBound key (by decide) hmarkMin, hmin]
    rfl
  have hmark := (hlower "exclusiveMaximum").trans
    ((if_neg (by decide)).trans ((if_neg (by decide)).trans hmarkMax))
  have hbound := (hlower "maximum").trans
    ((if_neg (by decide)).trans ((if_neg (by decide)).trans hmax))
  rw [JsonSchema.findKey?_excludeBound key (by decide) hmark, hbound, hlower key, htyped key]
  simp only [eq_comm (b := key)]
  rfl

/-- What is found behind the pass that closes objects. -/
theorem FindsConverted.closed (h : FindsConverted node strict members) {bounded : List (String × Json)}
    (hbounded : ∀ key ∈ ["properties", "additionalProperties"],
      findKey? key bounded = findKey? key members) (key : String) :
    findKey? key (if strict && !JsonSchema.isSet "x-kubernetes-preserve-unknown-fields" members then
        JsonSchema.closeObject bounded else bounded)
      = if key = "additionalProperties" then additionalWords strict node
        else findKey? key bounded := by
  have hset : JsonSchema.isSet "x-kubernetes-preserve-unknown-fields" members
      = node.facets.preserveUnknown?.getD false :=
    JsonSchema.isSet_of_find (h.plain (by decide) (by decide) (by decide))
  have hadditional : findKey? "additionalProperties" bounded
      = node.additional?.map fun additional => match additional with
        | .bool allowed => .bool allowed
        | .value value => ofOpenApi strict value.toJson := by
    refine (hbounded _ (by decide)).trans ((h _).trans ?_)
    show (node.additional?.map additionalValue).map _ = _
    rw [Option.map_map]
    exact congrArg (fun f => node.additional?.map f) (funext (convertUnder_additional strict))
  have hproperties : findKey? "properties" bounded = node.properties?.map fun properties =>
      .object (properties.map fun p => (p.1, ofOpenApi strict p.2.toJson)) :=
    (hbounded _ (by decide)).trans h.properties
  have hdeclares : JsonSchema.declaresProperties bounded
      = !(node.properties?.getD []).isEmpty := by
    rw [JsonSchema.declaresProperties, hproperties]
    cases node.properties? with
    | none => rfl
    | some properties => cases properties <;> rfl
  rw [hset, additionalWords]
  by_cases hkey : key = "additionalProperties"
  · subst hkey
    rw [if_pos rfl]
    split
    · next hclosed =>
      rw [JsonSchema.findKey?_closeObject, if_pos rfl, hadditional, hdeclares]
      rw [Bool.and_eq_true] at hclosed
      rcases node.additional? with - | - | -
      · simp [hclosed.1, hclosed.2]
      · rfl
      · rfl
    · next hopen =>
      rw [hadditional]
      rcases node.additional? with - | - | -
      · rw [Bool.not_eq_true] at hopen
        simp [hopen]
      · rfl
      · rfl
  · rw [if_neg hkey]
    split
    · rw [JsonSchema.findKey?_closeObject, if_neg (Ne.symm hkey)]
    · rfl

/-- Of the generated nodes those that are marked have alternatives, and no type. -/
theorem Generated.marked_iff (h : node.Generated) :
    (node.facets.intOrString?.getD false = true ∧ node.type? = none ∧
        node.anyOf? = some [typed "integer", typed "string"]) ∨
      (node.facets.intOrString?.getD false = false ∧ node.anyOf? = none) := by
  cases h with
  | intOrString hset => exact Or.inl ⟨by rw [hset]; rfl, rfl, rfl⟩
  | scalar _ _ hplain | anything _ _ hplain | object _ hplain | list _ _ hplain
  | map _ _ hplain => exact Or.inr ⟨by rw [hplain.intOrString]; rfl, rfl⟩
  | struct _ _ _ _ hplain => exact Or.inr ⟨by rw [hplain]; rfl, rfl⟩

/-- The keywords that no pass changes. -/
def keptKeywords : List String :=
  ["description", "default", "format", "pattern", "multipleOf", "minLength", "maxLength",
    "minItems", "maxItems", "uniqueItems", "minProperties", "maxProperties", "required"]

/-- The keywords that the passes change or that hold nodes. -/
def changedKeywords : List String :=
  ["type", "enum", "properties", "items", "additionalProperties", "anyOf", "minimum", "maximum",
    "exclusiveMinimum", "exclusiveMaximum"]

/-- The node without the remark that its value may be null. -/
def notNullable (node : SchemaNode) : SchemaNode :=
  { node with facets := { node.facets with nullable? := none } }

/-- A keyword that no pass changes has its value in JSON Schema. -/
theorem translated_kept {key : String} (hkey : key ∈ keptKeywords) :
    (findKey? key node.slots).join = (findKey? key (node.translated strict)).join := by
  simp only [keptKeywords, List.mem_cons, List.not_mem_nil, or_false] at hkey
  rcases hkey with rfl | rfl | rfl | rfl | rfl | rfl | rfl | rfl | rfl | rfl | rfl | rfl | rfl <;>
    rfl

/-- Whether null is allowed makes no difference to a keyword that no pass changes. -/
theorem slots_notNullable {key : String} (hkey : key ∈ keptKeywords) :
    (findKey? key node.notNullable.slots).join = (findKey? key node.slots).join := by
  simp only [keptKeywords, List.mem_cons, List.not_mem_nil, or_false] at hkey
  rcases hkey with rfl | rfl | rfl | rfl | rfl | rfl | rfl | rfl | rfl | rfl | rfl | rfl | rfl <;>
    rfl

theorem translated_other {key : String} (hkept : key ∉ keptKeywords)
    (hchanged : key ∉ changedKeywords) : findKey? key (node.translated strict) = none := by
  have hkeys : (node.translated strict).map (·.1)
      = ["type", "enum", "properties", "items", "additionalProperties", "anyOf", "description",
          "default", "format", "pattern", "minimum", "maximum", "exclusiveMinimum",
          "exclusiveMaximum", "multipleOf", "minLength", "maxLength", "minItems", "maxItems",
          "uniqueItems", "minProperties", "maxProperties", "required"] := rfl
  rw [findKey?_eq_none, hkeys]
  simp only [keptKeywords, changedKeywords, List.mem_cons, List.not_mem_nil, or_false,
    not_or] at hkept hchanged ⊢
  tauto

/-- Apart from those, a node has what the cluster is told, and the remark about null. -/
theorem slots_other {key : String} (hkept : key ∉ keptKeywords)
    (hchanged : key ∉ changedKeywords)
    (hplain : ((Text.afterPrefix? "x-kubernetes-" key).isNone && key != "nullable") = true) :
    findKey? key node.slots = none := by
  have hkeys : node.slots.map (·.1)
      = ["type", "description", "default", "enum", "format", "pattern", "minimum", "maximum",
          "exclusiveMinimum", "exclusiveMaximum", "multipleOf", "minLength", "maxLength",
          "minItems", "maxItems", "uniqueItems", "minProperties", "maxProperties", "required",
          "nullable", "x-kubernetes-int-or-string", "x-kubernetes-preserve-unknown-fields",
          "x-kubernetes-list-type", "x-kubernetes-list-map-keys", "properties", "items",
          "additionalProperties", "anyOf"] := rfl
  have hdropped : ∀ key ∈ ["nullable", "x-kubernetes-int-or-string",
      "x-kubernetes-preserve-unknown-fields", "x-kubernetes-list-type",
      "x-kubernetes-list-map-keys"],
      ((Text.afterPrefix? "x-kubernetes-" key).isNone && key != "nullable") = false := by
    decide +kernel
  have hnot : key ∉ ["nullable", "x-kubernetes-int-or-string",
      "x-kubernetes-preserve-unknown-fields", "x-kubernetes-list-type",
      "x-kubernetes-list-map-keys"] := by
    intro hmem
    rw [hdropped key hmem] at hplain
    exact Bool.false_ne_true hplain
  rw [findKey?_eq_none, hkeys]
  simp only [keptKeywords, changedKeywords, List.mem_cons, List.not_mem_nil, or_false,
    not_or] at hkept hchanged hnot ⊢
  tauto

/-- **What the passes give, but for null**: the keywords of a node that is not nullable. -/
theorem Generated.closed_eq (h : node.Generated) (hfinds : FindsConverted node strict members)
    {closed bounded : List (String × Json)}
    (hbounded : ∀ key, findKey? key bounded
      = if key = "exclusiveMaximum" then
          Facets.excluded node.facets.exclusiveMaximum? node.facets.maximum?
        else if key = "maximum" then
          Facets.included node.facets.exclusiveMaximum? node.facets.maximum?
        else if key = "exclusiveMinimum" then
          Facets.excluded node.facets.exclusiveMinimum? node.facets.minimum?
        else if key = "minimum" then
          Facets.included node.facets.exclusiveMinimum? node.facets.minimum?
        else if node.facets.intOrString?.getD false && key == "anyOf" then
          some (alternatives false)
        else if node.facets.intOrString?.getD false && key == "type" then none
        else if (Text.afterPrefix? "x-kubernetes-" key).isNone && key != "nullable" then
          findKey? key members
        else none)
    (hclosed : ∀ key, findKey? key closed
      = if key = "additionalProperties" then additionalWords strict node
        else findKey? key bounded) (key : String) :
    findKey? key closed = (findKey? key (node.notNullable.translated strict)).join := by
  by_cases hkept : key ∈ keptKeywords
  · have hne : ∀ key ∈ keptKeywords, (key ≠ "additionalProperties" ∧ key ≠ "exclusiveMaximum" ∧
        key ≠ "maximum" ∧ key ≠ "exclusiveMinimum" ∧ key ≠ "minimum") ∧ key ≠ "anyOf" ∧
        key ≠ "type" ∧ ((Text.afterPrefix? "x-kubernetes-" key).isNone && key != "nullable") = true ∧
        key ≠ "properties" ∧ ["items", "additionalProperties", "not"].contains key = false ∧
        ["anyOf", "allOf", "oneOf"].contains key = false := by decide +kernel
    obtain ⟨⟨h₁, h₂, h₃, h₄, h₅⟩, h₆, h₇, h₈, h₉, h₁₀, h₁₁⟩ := hne key hkept
    rw [hclosed, if_neg h₁, hbounded, if_neg h₂, if_neg h₃, if_neg h₄, if_neg h₅,
      beq_false_of_ne h₆, beq_false_of_ne h₇, Bool.and_false, if_neg Bool.false_ne_true,
      if_neg Bool.false_ne_true, if_pos h₈, hfinds.plain h₉ h₁₀ h₁₁]
    rw [← slots_notNullable hkept, translated_kept hkept]
  · by_cases hchanged : key ∈ changedKeywords
    · simp only [changedKeywords, List.mem_cons, List.not_mem_nil, or_false] at hchanged
      have htype : findKey? "type" members = node.type?.map .string :=
        hfinds.plain (by decide) (by decide) (by decide)
      have henum : findKey? "enum" members = node.facets.enum?.map .array :=
        hfinds.plain (by decide) (by decide) (by decide)
      rw [hclosed, hbounded]
      rcases hchanged with rfl | rfl | rfl | rfl | rfl | rfl | rfl | rfl | rfl | rfl
      · -- The type of an integer or text is dropped, but there is none.
        show (if node.facets.intOrString?.getD false && false then _
          else if node.facets.intOrString?.getD false && true then none
          else findKey? "type" members) = node.type?.map _
        rw [Bool.and_false, if_neg Bool.false_ne_true, Bool.and_true, htype]
        rcases h.marked_iff with ⟨-, hnone, -⟩ | ⟨hunset, -⟩
        · rw [hnone, Option.map_none, Option.map_none, ite_self]
        · rw [hunset, if_neg Bool.false_ne_true]
          rfl
      · show (if node.facets.intOrString?.getD false && false then _
          else if node.facets.intOrString?.getD false && false then none
          else findKey? "enum" members) = node.facets.enum?.map _
        rw [Bool.and_false, if_neg Bool.false_ne_true, if_neg Bool.false_ne_true, henum]
        refine congrArg (fun f => node.facets.enum?.map f) (funext fun values => ?_)
        exact congrArg Json.array (List.append_nil values).symm
      · show (if node.facets.intOrString?.getD false && false then _
          else if node.facets.intOrString?.getD false && false then none
          else findKey? "properties" members) = _
        rw [Bool.and_false, if_neg Bool.false_ne_true, if_neg Bool.false_ne_true]
        exact hfinds.properties
      · show (if node.facets.intOrString?.getD false && false then _
          else if node.facets.intOrString?.getD false && false then none
          else findKey? "items" members) = _
        rw [Bool.and_false, if_neg Bool.false_ne_true, if_neg Bool.false_ne_true]
        exact hfinds.items
      · rfl
      · show (if node.facets.intOrString?.getD false && true then some (alternatives false)
          else if node.facets.intOrString?.getD false && false then none
          else findKey? "anyOf" members) = node.anyOf?.map fun _ => alternatives false
        rw [Bool.and_true, Bool.and_false, if_neg Bool.false_ne_true]
        rcases h.marked_iff with ⟨hset, -, hanyOf⟩ | ⟨hunset, hanyOf⟩
        · rw [hset, hanyOf]
          rfl
        · have hnone : findKey? "anyOf" members = none := by
            refine (hfinds _).trans ?_
            show (node.anyOf?.map _).map _ = none
            rw [hanyOf]
            rfl
          rw [hunset, hanyOf, hnone]
          rfl
      · rfl
      · rfl
      · rfl
      · rfl
    · -- The key is that of no keyword that comes out.
      rw [translated_other hkept hchanged, hclosed, hbounded]
      have hslots := @slots_other node key hkept hchanged
      simp only [changedKeywords, List.mem_cons, List.not_mem_nil, or_false, not_or] at hchanged
      obtain ⟨h₁, -, -, -, h₂, h₃, h₄, h₅, h₆, h₇⟩ := hchanged
      rw [if_neg h₂, if_neg h₇, if_neg h₅, if_neg h₆, if_neg h₄, beq_false_of_ne h₃,
        beq_false_of_ne h₁, Bool.and_false, if_neg Bool.false_ne_true, if_neg Bool.false_ne_true]
      split
      · next hplain => rw [hfinds, hslots hplain]; rfl
      · rfl

/-- Whether null is allowed makes no difference but for the type, the values and the
alternatives. -/
theorem translated_notNullable {key : String} (htype : "type" ≠ key) (henum : "enum" ≠ key)
    (hanyOf : "anyOf" ≠ key) :
    (findKey? key (node.notNullable.translated strict)).join
      = (findKey? key (node.translated strict)).join := by
  by_cases hkept : key ∈ keptKeywords
  · rw [← translated_kept hkept, slots_notNullable hkept, translated_kept hkept]
  by_cases hchanged : key ∈ changedKeywords
  · simp only [changedKeywords, List.mem_cons, List.not_mem_nil, or_false] at hchanged
    rcases hchanged with rfl | rfl | rfl | rfl | rfl | rfl | rfl | rfl | rfl | rfl
    · exact absurd rfl htype
    · exact absurd rfl henum
    · rfl
    · rfl
    · rfl
    · exact absurd rfl hanyOf
    · rfl
    · rfl
    · rfl
    · rfl
  · rw [translated_other hkept hchanged, translated_other hkept hchanged]

/-- **The JSON Schema of a generated node** has the keywords of `translated`, in key order. What is
shown of the JSON Schema is shown from this, and not from the passes. -/
theorem Generated.translation (h : node.Generated) (strict : Bool) :
    ∃ members, ofOpenApi strict node.toJson = .object members ∧ InKeyOrder members ∧
      ∀ key, findKey? key members = (findKey? key (node.translated strict)).join := by
  have hfinds : FindsConverted node strict
      (JsonSchema.convertInner strict (sortKeys (filled node.slots))) := by
    intro key
    have hget := get?_toJson h.others_eq key
    rw [toJson_eq h.others_eq] at hget
    rw [JsonSchema.findKey?_convertInner]
    exact congrArg _ hget
  refine ⟨_, by rw [toJson_eq h.others_eq, ofOpenApi], JsonSchema.inKeyOrder_ofOpenApiMembers _
    (JsonSchema.inKeyOrder_convertInner _ (.sortKeys _)), ?_⟩
  generalize JsonSchema.convertInner strict (sortKeys (filled node.slots)) = members at hfinds
  have hmark : JsonSchema.isSet "x-kubernetes-int-or-string" members
      = node.facets.intOrString?.getD false :=
    JsonSchema.isSet_of_find (hfinds.plain (by decide) (by decide) (by decide))
  have hnull : JsonSchema.isSet "nullable" members = node.facets.isNullable :=
    JsonSchema.isSet_of_find (hfinds.plain (by decide) (by decide) (by decide))
  unfold JsonSchema.ofOpenApiMembers
  dsimp only
  rw [hmark, hnull]
  have hbounded := hfinds.bounded
  generalize JsonSchema.excludeBound "maximum" "exclusiveMaximum" _ = bounded at hbounded
  have hinner : ∀ key ∈ ["properties", "additionalProperties"],
      findKey? key bounded = findKey? key members := by
    intro key hkey
    have hne : ∀ key ∈ ["properties", "additionalProperties"], key ≠ "exclusiveMaximum" ∧
        key ≠ "maximum" ∧ key ≠ "exclusiveMinimum" ∧ key ≠ "minimum" ∧ key ≠ "anyOf" ∧
        key ≠ "type" ∧
        ((Text.afterPrefix? "x-kubernetes-" key).isNone && key != "nullable") = true := by
      decide +kernel
    obtain ⟨h₁, h₂, h₃, h₄, h₅, h₆, h₇⟩ := hne key hkey
    rw [hbounded, if_neg h₁, if_neg h₂, if_neg h₃, if_neg h₄, beq_false_of_ne h₅,
      beq_false_of_ne h₆, Bool.and_false, if_neg Bool.false_ne_true, if_neg Bool.false_ne_true,
      if_pos h₇]
  have hclosed := h.closed_eq hfinds hbounded (hfinds.closed hinner)
  generalize (if strict && !JsonSchema.isSet "x-kubernetes-preserve-unknown-fields" members then
    JsonSchema.closeObject bounded else bounded) = closed at hclosed
  intro key
  cases hnullable : node.facets.isNullable with
  | false =>
    -- Nothing is added, and the node says the same without the remark.
    rw [if_neg Bool.false_ne_true, hclosed]
    by_cases hsame : "type" ≠ key ∧ "enum" ≠ key ∧ "anyOf" ≠ key
    · exact translated_notNullable hsame.1 hsame.2.1 hsame.2.2
    · have heq : node.notNullable.facets.isNullable = node.facets.isNullable := hnullable.symm
      unfold translated
      rw [heq]
      rfl
  | true =>
    rw [if_pos rfl]
    have htype := hclosed "type"
    have henum := hclosed "enum"
    have hanyOf := hclosed "anyOf"
    rcases h.marked_iff with ⟨-, hnotype, hsome⟩ | ⟨-, hnone⟩
    · have hbranches : findKey? "anyOf" closed
          = some (.array [JsonSchema.typed "integer", JsonSchema.typed "string"]) := by
        rw [hanyOf]
        show (node.anyOf?.map fun _ => alternatives false) = _
        rw [hsome]
        rfl
      rw [JsonSchema.findKey?_allowNull_of_anyOf hbranches]
      by_cases hkey : "anyOf" = key
      · subst hkey
        rw [if_pos rfl]
        show _ = node.anyOf?.map fun _ => alternatives node.facets.isNullable
        rw [hsome, hnullable]
        rfl
      · rw [if_neg hkey, hclosed]
        by_cases htypeKey : "type" = key
        · subst htypeKey
          show node.type?.map _ = node.type?.map _
          rw [hnotype]
          rfl
        by_cases henumKey : "enum" = key
        · -- Null is no further value, because it is an alternative.
          subst henumKey
          show node.facets.enum?.map (listedValues false node.anyOf?.isSome)
            = node.facets.enum?.map (listedValues node.facets.isNullable node.anyOf?.isSome)
          rw [hsome, hnullable]
          rfl
        · exact translated_notNullable htypeKey henumKey hkey
    · have hvalues : findKey? "enum" closed = node.facets.enum?.map .array := by
        rw [henum]
        refine congrArg (fun f => node.facets.enum?.map f) (funext fun values => ?_)
        exact congrArg Json.array (List.append_nil values)
      have hscalars : ∀ values, node.facets.enum? = some values →
          values.any JsonSchema.isNull = false := by
        intro values hvalues
        rw [List.any_eq_false]
        intro v hv hisNull
        have hscalar := h.proper.scalar values hvalues v hv
        cases v with
        | null => exact Bool.false_ne_true hscalar
        | _ => exact Bool.false_ne_true hisNull
      have hnoAlternatives : findKey? "anyOf" closed = none := by
        rw [hanyOf]
        show (node.anyOf?.map _) = none
        rw [hnone]
        rfl
      rw [JsonSchema.findKey?_allowNull hnoAlternatives htype hvalues hscalars]
      by_cases htypeKey : "type" = key
      · subst htypeKey
        rw [if_pos rfl]
        show _ = node.type?.map (typeWords node.facets.isNullable)
        rw [hnullable]
        rfl
      by_cases henumKey : "enum" = key
      · subst henumKey
        rw [if_neg htypeKey, if_pos rfl]
        show _ = node.facets.enum?.map (listedValues node.facets.isNullable node.anyOf?.isSome)
        rw [hnullable, hnone]
        rfl
      · rw [if_neg htypeKey, if_neg henumKey, hclosed]
        by_cases hkey : "anyOf" = key
        · subst hkey
          show node.anyOf?.map _ = node.anyOf?.map _
          rw [hnone]
          rfl
        · exact translated_notNullable htypeKey henumKey hkey

end

end SchemaNode
end ChartSchema
