import ChartSchema.Proofs.Compatibility.Mirror
import ChartSchema.Proofs.JsonSchema.Usable
/-!
# The translation to JSON Schema keeps the meaning of a node

A node of a definition speaks OpenAPI, and what users validate against is its translation to JSON
Schema. `SchemaNode.Conforms` says what a node means by the rules of OpenAPI, without a look at the
translation: null is a value of its own that a mark lets through, a bound is strict where it is
marked so, a mark for an integer or a text stands in the place of a type, and the other remarks for
the cluster ask nothing. `Crd.jsonSchema_admits_iff_conforms` says that the open JSON Schema of a
generated definition admits exactly the values that conform to its schema.

The translation changes types, listed values, alternatives and bounds, and all of them at every
depth; members and values that happen to have the names of keywords have to stay as they are. The
proof goes keyword by keyword for one node, by the equation for what the schema of a node admits,
and from there by induction on the nodes inside. One combination is left out, since its translation
loses null: an integer or text that may be null and whose values are listed
(`SchemaNode.ListsNoNull`).
-/

namespace ChartSchema

open JsonSchema (Context Keyword Validator ownFaults)
open SchemaNode (unless_eq_nil_iff)

/-! ## What a node asks of a value -/

/-- A number is not below a limit, and above it if the limit itself is excluded. -/
def Number.AtLeast (excluded : Bool) (limit n : Number) : Prop :=
  if excluded then n.compare? limit = some .gt else n.compare? limit ≠ some .lt

/-- A number is not above a limit, and below it if the limit itself is excluded. -/
def Number.AtMost (excluded : Bool) (limit n : Number) : Prop :=
  if excluded then n.compare? limit = some .lt else n.compare? limit ≠ some .gt

/-- **What facets ask of a value** by the rules of OpenAPI, but for the values that they list. A
bound is strict where it is marked so, and a mark without a bound asks nothing. -/
structure Facets.Holds (f : Facets) (v : Json) : Prop where
  /-- The format of a text, if it is one that is checked. -/
  format : ∀ name, f.format? = some name → ∀ ok, JsonSchema.Dialect.draft7.format? name = some ok →
    ∀ s, v = .string s → ok s.toList = true
  /-- The expression that texts match. -/
  pattern : ∀ pattern, f.pattern? = some pattern → ∀ s, v = .string s →
    Keyword.matchesIn (Regex.parse? pattern) s = true
  /-- The least number. -/
  minimum : ∀ limit, f.minimum? = some limit → ∀ n, v = .number n →
    Number.AtLeast (f.exclusiveMinimum?.getD false) (.float limit) n
  /-- The largest number. -/
  maximum : ∀ limit, f.maximum? = some limit → ∀ n, v = .number n →
    Number.AtMost (f.exclusiveMaximum?.getD false) (.float limit) n
  /-- What numbers are multiples of. -/
  multipleOf : ∀ divisor, f.multipleOf? = some divisor → ∀ n, v = .number n →
    Keyword.isMultiple n divisor = true
  /-- The least length of a text. -/
  minLength : ∀ limit, f.minLength? = some limit → ∀ s, v = .string s → limit ≤ s.length
  /-- The largest length of a text. -/
  maxLength : ∀ limit, f.maxLength? = some limit → ∀ s, v = .string s → s.length ≤ limit
  /-- The least number of items. -/
  minItems : ∀ limit, f.minItems? = some limit → ∀ items, v = .array items → limit ≤ items.length
  /-- The largest number of items. -/
  maxItems : ∀ limit, f.maxItems? = some limit → ∀ items, v = .array items → items.length ≤ limit
  /-- Items differ from each other. -/
  uniqueItems : f.uniqueItems? = some true → ∀ items, v = .array items →
    Json.allDistinct items = true
  /-- The least number of members. -/
  minProperties : ∀ limit, f.minProperties? = some limit → ∀ members, v = .object members →
    limit ≤ members.length
  /-- The largest number of members. -/
  maxProperties : ∀ limit, f.maxProperties? = some limit → ∀ members, v = .object members →
    members.length ≤ limit
  /-- The members that have to be there. -/
  required : ∀ keys, f.required? = some keys → ∀ members, v = .object members → ∀ key ∈ keys,
    hasKey key members = true

namespace SchemaNode

/-- Whether a node is marked as an integer or a text. -/
def IsIntOrString (node : SchemaNode) : Prop := node.facets.intOrString? = some true

/-- Whether a node says that its value may be null. -/
def IsNullable (node : SchemaNode) : Prop := node.facets.nullable? = some true

/-- **The value passes the type test of a node.** Null does if the node says so, or if the node
says nothing about types. Any other value does if it is an integer or a text where the node is
marked so, and otherwise if it has the type that is written. -/
def PassesType (node : SchemaNode) (v : Json) : Prop :=
  (v = .null → node.IsNullable ∨ (node.type? = none ∧ ¬ node.IsIntOrString)) ∧
    (v ≠ .null →
      (node.IsIntOrString →
        Keyword.hasType .draft7 v "integer" = true ∨ Keyword.hasType .draft7 v "string" = true) ∧
      (¬ node.IsIntOrString → ∀ type, node.type? = some type →
        Keyword.hasType .draft7 v type = true))

mutual

/-- **A value conforms to a node** by the rules of OpenAPI. -/
inductive Conforms : SchemaNode → Json → Prop
  | intro {node : SchemaNode} {v : Json}
    -- The value passes the type test.
    (type : node.PassesType v)
    -- The value is listed, but for null where the node lets it through.
    (listed : ∀ values, node.facets.enum? = some values →
      values.any (Json.equivalent v) = true ∨ (node.IsNullable ∧ v = .null))
    -- The value is what the facets ask.
    (facets : node.facets.Holds v)
    -- Members with a property conform to it.
    (properties : ∀ members, v = .object members → ∀ key inner,
      (key, inner) ∈ node.properties?.getD [] → ∀ w, findKey? key members = some w →
        Conforms inner w)
    -- Items conform to the node about items.
    (items : ∀ inner, node.items? = some inner → ∀ items, v = .array items →
      ∀ item ∈ items, Conforms inner item)
    -- Members without a property conform to the node about them.
    (additional : ∀ inner, node.additional? = some (.value inner) → ∀ members,
      v = .object members → ∀ m ∈ members, hasKey m.1 (node.properties?.getD []) = false →
        Conforms inner m.2)
    -- There are no such members where none are allowed.
    (closed : node.additional? = some (.bool false) → ∀ members, v = .object members →
      ∀ m ∈ members, hasKey m.1 (node.properties?.getD []) = true)
    -- The value conforms to an alternative. Those of an integer or text spell out its type test,
    -- so they ask nothing of null.
    (alternatives : ∀ nodes, node.anyOf? = some nodes → ¬ (node.IsIntOrString ∧ v = .null) →
      ConformsToOne nodes v) :
    Conforms node v

/-- A value conforms to one of some nodes. -/
inductive ConformsToOne : List SchemaNode → Json → Prop
  | first {node : SchemaNode} {rest : List SchemaNode} {v : Json} :
    Conforms node v → ConformsToOne (node :: rest) v
  | later {node : SchemaNode} {rest : List SchemaNode} {v : Json} :
    ConformsToOne rest v → ConformsToOne (node :: rest) v

end

/-- **No integer or text that may be null has its values listed**, at any location. -/
def ListsNoNull (node : SchemaNode) : Prop :=
  ∀ path inner, node.at? path = some inner →
    ¬ (inner.IsIntOrString ∧ inner.IsNullable ∧ inner.facets.enum?.isSome = true)

end SchemaNode

/-! ## Keywords about the value itself -/

section

variable {v : Json}

/-- Where no limit comes to a fault, there is none, whether the limit is read or not. -/
theorem limitFaults_eq_nil {limit? : Option Nat} {faults : Nat → List JsonSchema.Fault}
    (h : ∀ limit, faults limit = []) :
    (match limit? with
      | some limit => faults limit
      | none => []) = [] := by
  cases limit? with
  | none => rfl
  | some limit => exact h limit

theorem limitFaults_of_some {limit? : Option Nat} {limit : Nat}
    {faults : Nat → List JsonSchema.Fault} :
    limit? = some limit → (match limit? with
      | some limit => faults limit
      | none => []) = faults limit := by
  rintro rfl
  rfl

/-- A remark asks nothing. -/
theorem ownFaults_remark {key : String} (hkey : key = "description" ∨ key = "default")
    (argument : Json) : ownFaults key argument v = [] := by
  rcases hkey with rfl | rfl
  all_goals
    cases argument <;> cases v <;> try rfl
    all_goals exact limitFaults_eq_nil fun _ => rfl

/-- When the keyword of a format has nothing against a value. -/
theorem ownFaults_format_iff {name : String} :
    ownFaults "format" (.string name) v = [] ↔
      ∀ ok, JsonSchema.Dialect.draft7.format? name = some ok → ∀ s, v = .string s →
        ok s.toList = true := by
  cases v with
  | string s =>
    have hown : ownFaults "format" (.string name) (.string s)
        = Keyword.textFaults .draft7 [] "format" name s := rfl
    rw [hown, Keyword.textFaults]
    cases JsonSchema.Dialect.draft7.format? name with
    | none => exact ⟨fun _ _ h => (nomatch h), fun _ => rfl⟩
    | some ok =>
      refine unless_eq_nil_iff.trans ⟨fun hok ok' heq s' hs => ?_, fun h => h ok rfl s rfl⟩
      obtain rfl := Option.some.inj heq
      obtain rfl := Json.string.inj hs
      exact hok
  | _ => exact ⟨fun _ _ _ _ h => (nomatch h), fun _ => rfl⟩

/-- When the keyword of an expression has nothing against a value. -/
theorem ownFaults_pattern_iff {pattern : String} :
    ownFaults "pattern" (.string pattern) v = [] ↔
      ∀ s, v = .string s → Keyword.matchesIn (Regex.parse? pattern) s = true := by
  cases v with
  | string s =>
    have hown : ownFaults "pattern" (.string pattern) (.string s)
        = Keyword.patternFaults (Regex.parse? pattern) pattern s := rfl
    have hmatches : Keyword.patternFaults (Regex.parse? pattern) pattern s = [] ↔
        Keyword.matchesIn (Regex.parse? pattern) s = true := by
      rw [Keyword.patternFaults, Keyword.matchesIn]
      cases Regex.parse? pattern with
      | none => exact ⟨nofun, nofun⟩
      | some r =>
        rw [Option.map_some, Option.any_some, beq_iff_eq]
        rcases r.matchesIn? s.toList with _ | _ | _ <;> simp
    rw [hown, hmatches]
    exact ⟨fun h _ hs => Json.string.inj hs ▸ h, fun h => h s rfl⟩
  | _ => exact ⟨fun _ _ h => (nomatch h), fun _ => rfl⟩

theorem ifFault_eq_nil_iff {α : Type} {p : Prop} [Decidable p] {fault : α} :
    (if p then [fault] else []) = [] ↔ ¬ p := by
  split
  · next h => exact ⟨nofun, fun hnot => absurd h hnot⟩
  · next h => exact ⟨fun _ => h, fun _ => rfl⟩

/-- A least number has nothing against the numbers that are at least that. -/
theorem boundFaults_minimum {excluded : Bool} {limit n : Number} :
    Keyword.boundFaults true excluded limit n = [] ↔ Number.AtLeast excluded limit n := by
  cases excluded with
  | false => exact ifFault_eq_nil_iff.trans (not_congr beq_iff_eq)
  | true => exact unless_eq_nil_iff.trans beq_iff_eq

/-- A largest number has nothing against the numbers that are at most that. -/
theorem boundFaults_maximum {excluded : Bool} {limit n : Number} :
    Keyword.boundFaults false excluded limit n = [] ↔ Number.AtMost excluded limit n := by
  cases excluded with
  | false => exact ifFault_eq_nil_iff.trans (not_congr beq_iff_eq)
  | true => exact unless_eq_nil_iff.trans beq_iff_eq

/-- **When the two keywords of a bound have nothing against a value**: the bound stands under one
of them only, and it is the one that its mark asks for. -/
theorem bound_iff {plain strict : String} {isMinimum : Bool} {exclusive? : Option Bool}
    {bound? : Option Binary64}
    (hplain : ∀ limit v, ownFaults plain (.float limit) v = [] ↔
      ∀ n, v = .number n → Keyword.boundFaults isMinimum false (.float limit) n = [])
    (hstrict : ∀ limit v, ownFaults strict (.float limit) v = [] ↔
      ∀ n, v = .number n → Keyword.boundFaults isMinimum true (.float limit) n = []) :
    ((∀ argument, Facets.included exclusive? bound? = some argument →
        ownFaults plain argument v = []) ∧
      ∀ argument, Facets.excluded exclusive? bound? = some argument →
        ownFaults strict argument v = []) ↔
    ∀ limit, bound? = some limit → ∀ n, v = .number n →
      Keyword.boundFaults isMinimum (exclusive?.getD false) (.float limit) n = [] := by
  unfold Facets.included Facets.excluded
  cases bound? with
  | none => cases exclusive?.getD false <;> simp
  | some limit =>
    cases exclusive?.getD false with
    | false => simp [hplain]
    | true => simp [hstrict]

/-- A keyword about numbers asks nothing of other values. -/
theorem ownFaults_number {key : String}
    (hkey : key ∈ ["minimum", "maximum", "exclusiveMinimum", "exclusiveMaximum", "multipleOf"])
    {limit : Binary64} :
    ownFaults key (.float limit) v = [] ↔ ∀ n, v = .number n →
      Keyword.numberFaults .draft7 [] key (.float limit) n = [] := by
  simp only [List.mem_cons, List.not_mem_nil, or_false] at hkey
  cases v with
  | number n =>
    rcases hkey with rfl | rfl | rfl | rfl | rfl
    all_goals exact ⟨fun h _ heq => Json.number.inj heq ▸ h, fun h => h n rfl⟩
  | _ =>
    refine ⟨fun _ _ heq => (by cases heq), fun _ => ?_⟩
    rcases hkey with rfl | rfl | rfl | rfl | rfl
    all_goals exact limitFaults_eq_nil fun _ => rfl

theorem count?_int {limit : Int} (h : IsCount limit) :
    JsonSchema.Form.count? (.int limit) = some limit.toNat := by
  have hbound : min limit.toNat (Nat.pow 2 64 - 1) = limit.toNat := by
    have hword : limit < 2 ^ 63 := h.2
    have hlargest : Nat.pow 2 64 - 1 = 2 ^ 64 - 1 := rfl
    omega
  show (if (limit : Rat).den = 1 ∧ 0 ≤ (limit : Rat).num
    then some (min (limit : Rat).num.toNat (Nat.pow 2 64 - 1)) else none) = _
  rw [Rat.num_intCast, if_pos ⟨Rat.den_intCast limit, h.1⟩, hbound]

theorem sizeFaults_atLeast {size : Nat} {limit : Int} {fault : Nat → JsonSchema.Fault} :
    Keyword.sizeFaults size limit.toNat true fault = [] ↔ limit ≤ size := by
  refine ifFault_eq_nil_iff.trans ?_
  simp

theorem sizeFaults_atMost {size : Nat} {limit : Int} (h : IsCount limit)
    {fault : Nat → JsonSchema.Fault} :
    Keyword.sizeFaults size limit.toNat false fault = [] ↔ size ≤ limit := by
  have hsize : ¬ limit.toNat < size ↔ (size : Int) ≤ limit := by
    have hlimit : 0 ≤ limit := h.1
    omega
  refine ifFault_eq_nil_iff.trans (Iff.trans ?_ hsize)
  simp

/-- Faults that only values of one form can have. -/
theorem faults_eq_nil_iff_forall {α : Type} {make : α → Json} {Q : α → Prop}
    {faults : List JsonSchema.Fault} (hmade : ∀ x, v = make x → (faults = [] ↔ Q x))
    (hother : (∀ x, v ≠ make x) → faults = []) : faults = [] ↔ ∀ x, v = make x → Q x := by
  refine ⟨fun h x hx => (hmade x hx).mp h, fun h => ?_⟩
  by_cases hform : ∃ x, v = make x
  · obtain ⟨x, hx⟩ := hform
    exact (hmade x hx).mpr (h x hx)
  · exact hother fun x hx => hform ⟨x, hx⟩

/-- A keyword that counts has nothing against a value that its count has nothing against. -/
theorem ownFaults_count {key : String}
    (hkey : key ∈ ["minLength", "maxLength", "minItems", "maxItems", "minProperties",
      "maxProperties"]) {limit : Int} (h : IsCount limit) :
    ownFaults key (.int limit) v = Keyword.countFaults key limit.toNat v := by
  simp only [List.mem_cons, List.not_mem_nil, or_false] at hkey
  rcases hkey with rfl | rfl | rfl | rfl | rfl | rfl
  all_goals
    cases v with
    | number n => rfl
    | _ => exact limitFaults_of_some (count?_int h)

/-- When the keyword of different items has nothing against a value. -/
theorem ownFaults_uniqueItems {unique : Bool} :
    ownFaults "uniqueItems" (.bool unique) v = [] ↔
      (unique = true → ∀ items, v = .array items → Json.allDistinct items = true) := by
  cases unique with
  | false => exact ⟨fun _ h => absurd h Bool.false_ne_true, fun _ => by cases v <;> rfl⟩
  | true =>
    cases v with
    | array items =>
      refine unless_eq_nil_iff.trans ⟨fun h _ _ heq => Json.array.inj heq ▸ h, fun h => ?_⟩
      exact h rfl items rfl
    | _ => exact ⟨fun _ _ _ heq => (nomatch heq), fun _ => rfl⟩

/-- When the keyword of required members has nothing against a value. -/
theorem ownFaults_required {keys : List String} :
    ownFaults "required" (Json.strings keys) v = [] ↔
      ∀ members, v = .object members → ∀ key ∈ keys, hasKey key members = true := by
  cases v with
  | object members =>
    have htexts : (keys.map Json.string).filterMap Json.string? = keys := by
      rw [List.filterMap_map]
      exact List.filterMap_some
    show JsonSchema.requiredFaults (keys.map .string) members = [] ↔ _
    rw [JsonSchema.requiredFaults, htexts, List.filterMap_eq_nil_iff]
    constructor
    · intro h ms heq key hkey
      obtain rfl := Json.object.inj heq
      by_contra hnot
      have := h key hkey
      rw [if_neg hnot] at this
      exact nomatch this
    · intro h key hkey
      rw [if_pos (h members rfl key hkey)]
  | _ => exact ⟨fun _ _ heq => (nomatch heq), fun _ => rfl⟩

end

namespace Facets

variable {f : Facets} {v : Json}

/-- What facets say about a value, keyword by keyword. -/
theorem admits_iff_forall : f.Admits v ↔
    ∀ p ∈ f.translated, ∀ argument, p.2 = some argument → ownFaults p.1 argument v = [] := by
  have hnodup : (f.translated.map (·.1)).Nodup := by
    rw [f.translated_keys]
    decide +kernel
  constructor
  · rintro h ⟨key, _⟩ hmem argument rfl
    exact h key argument (Option.join_eq_some_iff.mpr (findKey?_of_mem hnodup hmem))
  · intro h key argument hfind
    exact h _ (mem_of_findKey? (Option.join_eq_some_iff.mp hfind)) argument rfl

/-- A keyword that is written from a value asks what the value asks. -/
theorem forall_map {α : Type} {value? : Option α} {write : α → Json} {Q : α → Prop} {key : String}
    (h : ∀ value, value? = some value → (ownFaults key (write value) v = [] ↔ Q value)) :
    (∀ argument, value?.map write = some argument → ownFaults key argument v = []) ↔
      ∀ value, value? = some value → Q value := by
  cases value? with
  | none => exact ⟨fun _ _ h => (nomatch h), fun _ _ h => (nomatch h)⟩
  | some value =>
    have hvalue := h value rfl
    exact ⟨fun hall _ heq => Option.some.inj heq ▸ hvalue.mp (hall _ rfl),
      fun hall _ heq => Option.some.inj heq ▸ hvalue.mpr (hall value rfl)⟩

/-- **The keywords of facets ask what the facets ask.** Counts are written as numbers and read as
natural numbers, which is why the facets have to be well formed. -/
theorem admits_iff_holds (hproper : f.Proper) : f.Admits v ↔ f.Holds v := by
  -- A keyword that counts asks the same of a value as the count that it is written from.
  have hsize {n? : Option Int} {key : String} {Q : Int → Prop} (hmem : n? ∈ f.counts)
      (hkey : key ∈ ["minLength", "maxLength", "minItems", "maxItems", "minProperties",
        "maxProperties"])
      (hfaults : ∀ n, IsCount n → (Keyword.countFaults key n.toNat v = [] ↔ Q n)) :
      (∀ argument, n?.map Json.int = some argument → ownFaults key argument v = []) ↔
        ∀ n, n? = some n → Q n :=
    forall_map fun n hn => by
      have hn : IsCount n := hproper.natural n (hn ▸ hmem)
      rw [ownFaults_count hkey hn]
      exact hfaults n hn
  have hlength (n : Int) (hn : IsCount n) :
      (Keyword.countFaults "minLength" n.toNat v = [] ↔ ∀ s, v = .string s → n ≤ s.length) ∧
        (Keyword.countFaults "maxLength" n.toNat v = [] ↔
          ∀ s, v = .string s → s.length ≤ n) := by
    refine ⟨faults_eq_nil_iff_forall (fun s hs => ?_) fun hother => ?_,
      faults_eq_nil_iff_forall (fun s hs => ?_) fun hother => ?_⟩
    · exact hs ▸ sizeFaults_atLeast
    · cases v <;> first | rfl | exact absurd rfl (hother _)
    · exact hs ▸ sizeFaults_atMost hn
    · cases v <;> first | rfl | exact absurd rfl (hother _)
  have hitems (n : Int) (hn : IsCount n) :
      (Keyword.countFaults "minItems" n.toNat v = [] ↔
          ∀ items, v = .array items → n ≤ items.length) ∧
        (Keyword.countFaults "maxItems" n.toNat v = [] ↔
          ∀ items, v = .array items → items.length ≤ n) := by
    refine ⟨faults_eq_nil_iff_forall (fun items hitems => ?_) fun hother => ?_,
      faults_eq_nil_iff_forall (fun items hitems => ?_) fun hother => ?_⟩
    · exact hitems ▸ sizeFaults_atLeast
    · cases v <;> first | rfl | exact absurd rfl (hother _)
    · exact hitems ▸ sizeFaults_atMost hn
    · cases v <;> first | rfl | exact absurd rfl (hother _)
  have hmembers (n : Int) (hn : IsCount n) :
      (Keyword.countFaults "minProperties" n.toNat v = [] ↔
          ∀ members, v = .object members → n ≤ members.length) ∧
        (Keyword.countFaults "maxProperties" n.toNat v = [] ↔
          ∀ members, v = .object members → members.length ≤ n) := by
    refine ⟨faults_eq_nil_iff_forall (fun members hmembers => ?_) fun hother => ?_,
      faults_eq_nil_iff_forall (fun members hmembers => ?_) fun hother => ?_⟩
    · exact hmembers ▸ sizeFaults_atLeast
    · cases v <;> first | rfl | exact absurd rfl (hother _)
    · exact hmembers ▸ sizeFaults_atMost hn
    · cases v <;> first | rfl | exact absurd rfl (hother _)
  have hminimum := @bound_iff v "minimum" "exclusiveMinimum" true f.exclusiveMinimum? f.minimum?
    (fun _ _ => ownFaults_number (by simp)) (fun _ _ => ownFaults_number (by simp))
  have hmaximum := @bound_iff v "maximum" "exclusiveMaximum" false f.exclusiveMaximum? f.maximum?
    (fun _ _ => ownFaults_number (by simp)) (fun _ _ => ownFaults_number (by simp))
  have hmultiple (divisor : Binary64) : ownFaults "multipleOf" (.float divisor) v = [] ↔
      ∀ n, v = .number n → Keyword.isMultiple n divisor = true :=
    (ownFaults_number (by simp)).trans (forall₂_congr fun n _ => unless_eq_nil_iff)
  rw [admits_iff_forall]
  unfold translated
  simp only [List.forall_mem_cons, List.not_mem_nil, false_implies, implies_true, and_true]
  constructor
  · rintro ⟨-, -, hf, hp, hmin, hmax, hmin', hmax', hd, h₁, h₂, h₃, h₄, hu, h₅, h₆, hr⟩
    exact {
      format := (forall_map fun _ _ => ownFaults_format_iff).mp hf
      pattern := (forall_map fun _ _ => ownFaults_pattern_iff).mp hp
      minimum := fun limit hlimit n hn =>
        boundFaults_minimum.mp (hminimum.mp ⟨hmin, hmin'⟩ limit hlimit n hn)
      maximum := fun limit hlimit n hn =>
        boundFaults_maximum.mp (hmaximum.mp ⟨hmax, hmax'⟩ limit hlimit n hn)
      multipleOf := (forall_map fun divisor _ => hmultiple divisor).mp hd
      minLength := (hsize (by simp [counts]) (by simp) fun n hn => (hlength n hn).1).mp h₁
      maxLength := (hsize (by simp [counts]) (by simp) fun n hn => (hlength n hn).2).mp h₂
      minItems := (hsize (by simp [counts]) (by simp) fun n hn => (hitems n hn).1).mp h₃
      maxItems := (hsize (by simp [counts]) (by simp) fun n hn => (hitems n hn).2).mp h₄
      uniqueItems := fun hset => (forall_map fun _ _ => ownFaults_uniqueItems).mp hu true hset rfl
      minProperties := (hsize (by simp [counts]) (by simp) fun n hn => (hmembers n hn).1).mp h₅
      maxProperties := (hsize (by simp [counts]) (by simp) fun n hn => (hmembers n hn).2).mp h₆
      required := (forall_map fun _ _ => ownFaults_required).mp hr }
  · intro h
    have hmin := hminimum.mpr fun limit hlimit n hn =>
      boundFaults_minimum.mpr (h.minimum limit hlimit n hn)
    have hmax := hmaximum.mpr fun limit hlimit n hn =>
      boundFaults_maximum.mpr (h.maximum limit hlimit n hn)
    exact ⟨fun argument _ => ownFaults_remark (.inl rfl) argument,
      fun argument _ => ownFaults_remark (.inr rfl) argument,
      (forall_map fun _ _ => ownFaults_format_iff).mpr h.format,
      (forall_map fun _ _ => ownFaults_pattern_iff).mpr h.pattern, hmin.1, hmax.1, hmin.2, hmax.2,
      (forall_map fun divisor _ => hmultiple divisor).mpr h.multipleOf,
      (hsize (by simp [counts]) (by simp) fun n hn => (hlength n hn).1).mpr h.minLength,
      (hsize (by simp [counts]) (by simp) fun n hn => (hlength n hn).2).mpr h.maxLength,
      (hsize (by simp [counts]) (by simp) fun n hn => (hitems n hn).1).mpr h.minItems,
      (hsize (by simp [counts]) (by simp) fun n hn => (hitems n hn).2).mpr h.maxItems,
      (forall_map fun _ _ => ownFaults_uniqueItems).mpr fun unique hunique htrue =>
        h.uniqueItems (htrue ▸ hunique),
      (hsize (by simp [counts]) (by simp) fun n hn => (hmembers n hn).1).mpr h.minProperties,
      (hsize (by simp [counts]) (by simp) fun n hn => (hmembers n hn).2).mpr h.maxProperties,
      (forall_map fun _ _ => ownFaults_required).mpr h.required⟩

end Facets
/-! ## Nodes -/

namespace SchemaNode

variable {node : SchemaNode} {v : Json}

theorem isNullable_iff : node.facets.isNullable = true ↔ node.IsNullable := getD_false_eq_true

/-- A type alone is what the values of this type conform to. -/
theorem typed_conforms_iff {type : String} (hne : type ≠ "null") :
    (typed type).Conforms v ↔ Keyword.hasType .draft7 v type = true := by
  have hnull : Keyword.hasType .draft7 .null type = false := beq_false_of_ne hne
  constructor
  · intro h
    cases h with
    | intro htype =>
      by_cases hv : v = .null
      · rcases htype.1 hv with hnullable | ⟨hnone, -⟩
        · exact nomatch hnullable
        · exact nomatch hnone
      · exact (htype.2 hv).2 nofun type rfl
  · intro h
    refine .intro ⟨fun hv => ?_, fun _ => ⟨nofun, fun _ type' heq => ?_⟩⟩ nofun ?_ ?_ nofun nofun nofun
      nofun
    · rw [hv, hnull] at h
      exact absurd h Bool.false_ne_true
    · exact Option.some.inj heq ▸ h
    · constructor <;> exact nofun
    · exact fun _ _ _ _ hmem => absurd hmem List.not_mem_nil

/-- **The type test of a generated node** is what its type and its alternatives ask. It has one or
the other: alternatives if it is marked as an integer or a text, and else a type, if any. -/
theorem Generated.passesType_iff (h : node.Generated) : node.PassesType v ↔
    (∀ type, node.type? = some type →
      Keyword.hasType .draft7 v type = true ∨ (node.facets.isNullable = true ∧ v = .null)) ∧
    (node.anyOf?.isSome = true →
      Keyword.hasType .draft7 v "integer" = true ∨ Keyword.hasType .draft7 v "string" = true ∨
        (node.facets.isNullable = true ∧ v = .null)) := by
  rw [PassesType, isNullable_iff]
  rcases h.marked_iff with ⟨hset, hnone, hsome⟩ | ⟨hunset, hnone⟩
  · have hmarked : node.IsIntOrString := getD_false_eq_true.mp hset
    rw [hnone, hsome]
    by_cases hv : v = .null
    · subst hv
      simp [hmarked, Keyword.hasType]
    · simp [hmarked, hv]
  · have hunmarked : ¬ node.IsIntOrString := fun hset => by
      rw [getD_false_eq_true.mpr hset] at hunset
      exact Bool.false_ne_true hunset.symm
    rw [hnone]
    cases htype : node.type? with
    | none => simp [hunmarked]
    | some type =>
      have hne := (h.type_mem htype).2
      by_cases hv : v = .null
      · subst hv
        simp [Keyword.hasType, hne]
      · simp [hunmarked, hv]

/-- The nodes inside a node stand at locations of it. -/
theorem Generated.at?_of_holds (h : node.Generated) {inner : SchemaNode} (hinner : node.Holds inner) :
    ∃ step, ∀ path, node.at? (step :: path) = inner.at? path := by
  rcases hinner with ⟨key, hmem⟩ | hitems | hadditional
  · refine ⟨.property key, fun path => ?_⟩
    cases hproperties : node.properties? with
    | none =>
      rw [declared, hproperties] at hmem
      exact absurd hmem List.not_mem_nil
    | some properties =>
      rw [declared, hproperties] at hmem
      rw [at?, hproperties, Option.getD_some,
        findKey?_of_mem (h.of_properties hproperties).2.1.nodup hmem, Option.bind_some]
  · exact ⟨.items, fun path => by rw [at?, hitems, Option.bind_some]⟩
  · exact ⟨.additional, fun path => by rw [at?, hadditional]⟩

/-- What holds of all locations of a node holds of those of the nodes inside it. -/
theorem ListsNoNull.holds (h : node.Generated) (hlists : node.ListsNoNull) {inner : SchemaNode}
    (hinner : node.Holds inner) : inner.ListsNoNull := by
  obtain ⟨step, hstep⟩ := h.at?_of_holds hinner
  exact fun path other hat => hlists (step :: path) other ((hstep path).trans hat)

/-- A node about other members stands in a node without properties. -/
theorem Generated.declared_of_other (h : node.Generated) {inner : SchemaNode}
    (hother : node.otherNode? = some inner) : node.declared = [] := by
  cases h with
  | map => rfl
  | scalar | anything | object | intOrString | list | struct => exact nomatch hother

/-- **What an open schema says about members** is what the node says about those with a property and
about the others. -/
theorem Generated.membersFit_iff (h : node.Generated) {P : SchemaNode → Json → Prop}
    {members : List (String × Json)} :
    node.MembersFit false P members ↔
      (∀ key inner, (key, inner) ∈ node.declared → ∀ w, findKey? key members = some w → P inner w) ∧
      ∀ inner, node.additional? = some (.value inner) → ∀ m ∈ members,
        hasKey m.1 node.declared = false → P inner m.2 := by
  have hopen : node.isClosed false = false := rfl
  cases hother : node.otherNode? with
  | none =>
    have hnone : node.additional? = none := by rw [h.additional_eq, hother]; rfl
    constructor
    · exact fun hfit => ⟨fun key inner hmem w hw => hfit.declared key inner hmem w hw hother hopen,
        fun inner hadditional => by rw [hnone] at hadditional; exact nomatch hadditional⟩
    · refine fun hall => ⟨fun key inner hmem w hw _ _ => hall.1 key inner hmem w hw, fun hchecked => ?_⟩
      rw [hother, hopen] at hchecked
      exact nomatch hchecked
  | some value =>
    have hdeclared := h.declared_of_other hother
    have hvalue : node.additional? = some (.value value) := by rw [h.additional_eq, hother]; rfl
    constructor
    · refine fun hfit => ⟨fun key inner hmem => ?_, fun inner hadditional m hm _ => ?_⟩
      · rw [hdeclared] at hmem
        exact absurd hmem List.not_mem_nil
      · obtain ⟨found, hfound, hok⟩ := hfit.checked (by rw [hother]; rfl) m hm
        rw [hdeclared, findKey?_nil, Option.none_or, hother] at hfound
        rw [hvalue] at hadditional
        obtain rfl := OrBool.value.inj (Option.some.inj hadditional)
        exact Option.some.inj hfound ▸ hok
    · refine fun hall => ⟨fun key inner hmem => ?_, fun _ m hm => ⟨value, ?_, ?_⟩⟩
      · rw [hdeclared] at hmem
        exact absurd hmem List.not_mem_nil
      · rw [hdeclared, findKey?_nil, Option.none_or, hother]
      · exact hall.2 value hvalue m hm (by rw [hdeclared]; rfl)

/-- **The open schema of a generated node admits what conforms to the node**, unless its translation
loses null somewhere. -/
theorem Generated.admits_iff_conforms (h : node.Generated) (hlists : node.ListsNoNull) :
    node.Admits false v ↔ node.Conforms v := by
  refine h.induction (Q := fun node => node.ListsNoNull → ∀ v, node.Admits false v ↔ node.Conforms v)
    (fun node hgenerated ih hlists v => ?_) hlists v
  have hinner (inner : SchemaNode) (hholds : node.Holds inner) (w : Json) :
      inner.Admits false w ↔ inner.Conforms w := ih inner hholds (hlists.holds hgenerated hholds) w
  rw [hgenerated.admits_iff]
  constructor
  · intro hfits
    have htype := hgenerated.passesType_iff.mpr ⟨hfits.type, hfits.alternatives⟩
    refine .intro htype (fun values hvalues => ?_)
      ((Facets.admits_iff_holds hgenerated.proper).mp hfits.facets) ?_ ?_ ?_ ?_ ?_
    · rcases hfits.listed values hvalues with hlisted | ⟨hnullable, -, hv⟩
      · exact .inl hlisted
      · exact .inr ⟨isNullable_iff.mp hnullable, hv⟩
    · intro members hv key inner hmem w hw
      have hfit := hgenerated.membersFit_iff.mp (hfits.members members hv)
      exact (hinner inner (.inl ⟨key, hmem⟩) w).mp (hfit.1 key inner hmem w hw)
    · intro inner hitems items hv item hitem
      exact (hinner inner (.inr (.inl hitems)) item).mp (hfits.items inner hitems items hv item hitem)
    · intro inner hadditional members hv m hm hother
      have hfit := hgenerated.membersFit_iff.mp (hfits.members members hv)
      exact (hinner inner (.inr (.inr hadditional)) m.2).mp (hfit.2 inner hadditional m hm hother)
    · intro hclosed
      rw [hgenerated.additional_eq] at hclosed
      cases hother : node.otherNode? <;> rw [hother] at hclosed <;> exact nomatch hclosed
    · intro nodes hnodes hnotNull
      rcases hgenerated.marked_iff with ⟨hset, -, hsome⟩ | ⟨-, hnone⟩
      · rw [hsome] at hnodes
        obtain rfl := Option.some.inj hnodes
        have hmarked : node.IsIntOrString := getD_false_eq_true.mp hset
        rcases (htype.2 fun hv => hnotNull ⟨hmarked, hv⟩).1 hmarked with hint | htext
        · exact .first ((typed_conforms_iff (by decide)).mpr hint)
        · exact .later (.first ((typed_conforms_iff (by decide)).mpr htext))
      · rw [hnone] at hnodes
        exact nomatch hnodes
  · intro hconforms
    cases hconforms with
    | intro htype hlisted hfacets hproperties hitems hadditional =>
      obtain ⟨htype, halternatives⟩ := hgenerated.passesType_iff.mp htype
      refine ⟨htype, fun values hvalues => ?_, halternatives,
        (Facets.admits_iff_holds hgenerated.proper).mpr hfacets, ?_, ?_⟩
      · rcases hlisted values hvalues with hlisted | ⟨hnullable, hv⟩
        · exact .inl hlisted
        · refine .inr ⟨isNullable_iff.mpr hnullable, ?_, hv⟩
          -- An integer or text would be the combination that is left out.
          rcases hgenerated.marked_iff with ⟨hset, -, -⟩ | ⟨-, hnone⟩
          · exact absurd ⟨getD_false_eq_true.mp hset, hnullable, hvalues ▸ rfl⟩ (hlists [] node rfl)
          · exact hnone
      · intro inner hinnerItems items hv item hitem
        exact (hinner inner (.inr (.inl hinnerItems)) item).mpr
          (hitems inner hinnerItems items hv item hitem)
      · intro members hv
        refine hgenerated.membersFit_iff.mpr ⟨fun key inner hmem w hw => ?_,
          fun inner hinnerOther m hm hother => ?_⟩
        · exact (hinner inner (.inl ⟨key, hmem⟩) w).mpr (hproperties members hv key inner hmem w hw)
        · exact (hinner inner (.inr (.inr hinnerOther)) m.2).mpr
            (hadditional inner hinnerOther members hv m hm hother)

end SchemaNode
/-! ## Definitions -/

/-- A document of draft 7 has nothing against a value. -/
def JsonSchema.Draft7Admits (document v : Json) : Prop :=
  (SchemaNode.bareContext.check document).violations [] v = []

/-- The only version of a definition is the one that resources are stored in. -/
theorem Crd.jsonSchema_of_name {crd : Crd} {version : CrdVersion}
    (hversions : crd.versions = [version]) (strict : Bool) {name? : Option String}
    (hname : ∀ name, name? = some name → name = version.name) :
    crd.jsonSchema strict name? = crd.jsonSchema strict none := by
  have hnone : crd.version? none = some version := by
    rw [Crd.version?, hversions, List.head?_cons, List.find?_cons]
    cases version.storage <;> rfl
  have hsame : crd.version? name? = some version := by
    cases name? with
    | none => exact hnone
    | some name =>
      obtain rfl := hname name rfl
      rw [Crd.version?, hversions, List.find?_cons, beq_self_eq_true]
  unfold Crd.jsonSchema
  rw [hsame, hnone]

/-- **Translation to JSON Schema preserves meaning.** The open JSON Schema of a generated definition
admits exactly the values that conform to the schema of the definition by the rules of OpenAPI, and
so does every validator of it, unless an integer or text that may be null has its values listed. -/
theorem Crd.jsonSchema_admits_iff_conforms {options : CrdOptions} {schema : Schema} {crd : Crd}
    (h : Crd.ofSchema options schema = .ok crd)
    (hlists : ∀ version ∈ crd.versions, ∀ node, version.schema? = some node → node.ListsNoNull) :
    ∃ version node, crd.versions = [version] ∧ version.schema? = some node ∧
      ∀ name? : Option String, (∀ name, name? = some name → name = version.name) →
        ∃ document, crd.jsonSchema false name? = .ok document ∧
          (∀ v, JsonSchema.Draft7Admits document v ↔ node.Conforms v) ∧
          ∀ validator, Validator.ofSchema document = .ok validator →
            ∀ v, validator.accepts v = true ↔ node.Conforms v := by
  obtain ⟨name, node, hgenerated⟩ := Crd.isGenerated_of_ofSchema h
  have hnode := hgenerated.generated
  have hlistsNode : node.ListsNoNull :=
    hlists _ (by rw [hgenerated.versions]; exact List.mem_singleton_self _) node rfl
  refine ⟨_, node, hgenerated.versions, rfl, fun name? hname => ?_⟩
  obtain ⟨members, hdocument, hschema, hdialect⟩ :=
    Crd.exists_jsonSchema hgenerated.versions rfl hnode false
  refine ⟨_, (Crd.jsonSchema_of_name hgenerated.versions false hname).trans hdocument,
    fun v => ?_, fun validator hvalidator v => ?_⟩
  · rw [← hnode.admits_iff_conforms hlistsNode, hnode.admits_iff]
    exact hschema.admits_iff hnode rfl
  · rw [← hnode.admits_iff_conforms hlistsNode]
    exact Validator.accepts_iff_admits hnode hschema hdialect hvalidator

namespace SchemaNode

mutual

/-- Whether a check holds of the nodes at all locations. -/
def all (ok : SchemaNode → Bool) (node : SchemaNode) : Bool :=
  match node with
  | ⟨type?, facets, properties?, items?, additional?, anyOf?, others⟩ =>
    ok ⟨type?, facets, properties?, items?, additional?, anyOf?, others⟩ &&
      allProperties ok properties? && allItems ok items? && allAdditional ok additional?
termination_by structural node

/-- Whether a check holds of all that is in the properties. -/
def allProperties (ok : SchemaNode → Bool) (properties? : Option (List (String × SchemaNode))) :
    Bool :=
  match properties? with
  | some properties => allMembers ok properties
  | none => true
termination_by structural properties?

/-- Whether a check holds of all that is in some properties. -/
def allMembers (ok : SchemaNode → Bool) (properties : List (String × SchemaNode)) : Bool :=
  match properties with
  | [] => true
  | (_, node) :: rest => all ok node && allMembers ok rest
termination_by structural properties

/-- Whether a check holds of all that is in the items. -/
def allItems (ok : SchemaNode → Bool) (items? : Option SchemaNode) : Bool :=
  match items? with
  | some node => all ok node
  | none => true
termination_by structural items?

/-- Whether a check holds of all that is in what is said about other members. -/
def allAdditional (ok : SchemaNode → Bool) (additional? : Option (OrBool SchemaNode)) : Bool :=
  match additional? with
  | some (.value node) => all ok node
  | _ => true
termination_by structural additional?

end

/-- A check that holds of some properties holds of each. -/
theorem all_of_findKey? {ok : SchemaNode → Bool} {properties : List (String × SchemaNode)}
    (h : allMembers ok properties = true) {key : String} {inner : SchemaNode}
    (hfind : findKey? key properties = some inner) : inner.all ok = true := by
  induction properties with
  | nil => exact nomatch hfind
  | cons p rest ih =>
    obtain ⟨other, node⟩ := p
    rw [allMembers, Bool.and_eq_true] at h
    rw [findKey?_cons] at hfind
    split at hfind
    · exact Option.some.inj hfind ▸ h.1
    · exact ih h.2 hfind

/-- **A check that holds everywhere holds at every location.** The induction is on the path. -/
theorem all_at? {ok : SchemaNode → Bool} {node inner : SchemaNode} (h : node.all ok = true)
    {path : SchemaPath} (hat : node.at? path = some inner) : ok inner = true := by
  induction path generalizing node with
  | nil =>
    obtain rfl := Option.some.inj hat
    obtain ⟨type?, facets, properties?, items?, additional?, anyOf?, others⟩ := node
    simp only [all, Bool.and_eq_true] at h
    exact h.1.1.1
  | cons step path ih =>
    obtain ⟨type?, facets, properties?, items?, additional?, anyOf?, others⟩ := node
    simp only [all, Bool.and_eq_true] at h
    obtain ⟨⟨⟨-, hproperties⟩, hitems⟩, hadditional⟩ := h
    cases step with
    | property key =>
      obtain ⟨next, hnext, hinner⟩ := Option.bind_eq_some_iff.mp hat
      cases properties? with
      | none => cases hnext
      | some properties =>
        rw [allProperties] at hproperties
        exact ih (all_of_findKey? hproperties hnext) hinner
    | items =>
      obtain ⟨next, hnext, hat⟩ := Option.bind_eq_some_iff.mp hat
      obtain rfl : items? = some next := hnext
      rw [allItems] at hitems
      exact ih hitems hat
    | additional =>
      rw [at?] at hat
      split at hat
      · next value hvalue =>
        obtain rfl : additional? = some (.value value) := hvalue
        rw [allAdditional] at hadditional
        exact ih hadditional hat
      · cases hat

/-- Whether the node is no integer or text that may be null and has its values listed. -/
def listsNoNullHere (node : SchemaNode) : Bool :=
  !(node.facets.intOrString? == some true && node.facets.nullable? == some true &&
    node.facets.enum?.isSome)

/-- A check finds whether an integer or text that may be null has its values listed. -/
theorem listsNoNull_of_all {node : SchemaNode} (h : node.all listsNoNullHere = true) :
    node.ListsNoNull := by
  rintro path inner hat ⟨hint, hnullable, henum⟩
  have hhere := all_at? h hat
  rw [listsNoNullHere, hint, hnullable, henum] at hhere
  exact absurd hhere Bool.false_ne_true

end SchemaNode

/-- A text whose keys are keywords of schemas, with an integer or text that may be null, a listed
text that may be null, and an excluded bound. -/
def keywordText : String :=
  "apiVersion: a.io/v1\nkind: Gauge\n# +XIntOrString\n# +nullable\nnullable: 80\n# +Enum=type;items\n# +nullable\ntype: items\n# +Minimum=0\n# +ExclusiveMinimum\nitems: 1\n"

/-- The JSON Schema of the definition of this text admits what conforms to it. -/
theorem Crd.jsonSchema_admits_iff_conforms_keywords :
    ∃ schema crd, Schema.infer {} keywordText = .ok schema ∧ Crd.ofSchema {} schema = .ok crd ∧
      (∀ version ∈ crd.versions, ∀ node, version.schema? = some node → node.ListsNoNull) ∧
      ∃ version node, crd.versions = [version] ∧ version.schema? = some node ∧
        ∀ name? : Option String, (∀ name, name? = some name → name = version.name) →
          ∃ document, crd.jsonSchema false name? = .ok document ∧
            (∀ v, JsonSchema.Draft7Admits document v ↔ node.Conforms v) ∧
            ∀ validator, Validator.ofSchema document = .ok validator →
              ∀ v, validator.accepts v = true ↔ node.Conforms v := by
  have hchars := Text.toList_of_eq (s := keywordText) (by unfold keywordText; rfl)
  have hsome : ((Schema.infer {} keywordText).toOption.bind fun schema =>
      (Crd.ofSchema {} schema).toOption).any (fun crd =>
        crd.versions.all fun version =>
          version.schema?.all fun node => node.all SchemaNode.listsNoNullHere) = true := by
    rw [Schema.infer, Schema.ofText, Yaml.Value.parse?, Yaml.Document.parse?, SourceMap.scan, hchars]
    decide +kernel
  obtain ⟨crd, hbind, hlists⟩ := (Option.any_eq_true ..).mp hsome
  obtain ⟨schema, hschema, hcrd⟩ := Option.bind_eq_some_iff.mp hbind
  have hlistsNode : ∀ version ∈ crd.versions, ∀ node, version.schema? = some node →
      node.ListsNoNull := fun version hversion node hnode => by
    have hall := List.all_eq_true.mp hlists version hversion
    rw [hnode] at hall
    exact SchemaNode.listsNoNull_of_all hall
  exact ⟨schema, crd, Outcome.toOption_eq_some.mp hschema, Outcome.toOption_eq_some.mp hcrd,
    hlistsNode,
    Crd.jsonSchema_admits_iff_conforms (Outcome.toOption_eq_some.mp hcrd) hlistsNode⟩

end ChartSchema
