import ChartSchema.JsonSchema.Validator
import ChartSchema.Proofs.Json.Members
/-!
# Schemas without references

A checker lists what a schema does not admit, keyword by keyword, and is made where the schema
stands: in a dialect, in a resource, with a registry of what references lead to. For a schema of
draft 7 that has no references and no name only the dialect matters. `PlainIn.violations_eq_nil_iff`
says that such a schema admits a value if none of its keywords has anything against it, and the
lemmas behind it say when that is so, for the keywords that speak about the value itself
(`violations_own`) and for those that go on to members and items.
-/

namespace ChartSchema.JsonSchema

/-! ## The keywords of a schema -/

namespace Context

variable {ctx : Context} {members : List (String × Json)}

/-- The keyword of a member. -/
def keyword (ctx : Context) (all : List (String × Json)) (key : String) (argument : Json) :
    Keyword :=
  ⟨key, argument,
    match ctx.dialect.lead key with
    | .nothing => ctx.ownInner all key argument
    | .schema => .schema (ctx.check argument)
    | .list => .list (ctx.checkItems argument)
    | .schemaOrList =>
      if Form.isList argument then .list (ctx.checkItems argument)
      else .schema (ctx.check argument)
    | .named =>
      if key = "patternProperties" then
        .matched ((ctx.checkNamed argument).map fun (pattern, c) => (Regex.parse? pattern, c))
      else .named (ctx.checkNamed argument)⟩

/-- The keywords of a schema, as those beside a keyword. -/
def beside (ctx : Context) (members : List (String × Json)) : List Keyword :=
  members.map fun m => ctx.keyword members m.1 m.2

/-- Without a reference no member is hidden, and each is a keyword. -/
theorem keywords_eq {all : List (String × Json)} (href : findKey? "$ref" all = none) :
    ctx.keywords all members = members.map fun m => ctx.keyword all m.1 m.2 := by
  have hshown (key : String) : ctx.dialect.isHidden all key = false := by
    rw [Dialect.isHidden, hasKey, href]
    exact Bool.and_false _
  induction members with
  | nil => rfl
  | cons m rest ih =>
    obtain ⟨key, argument⟩ := m
    rw [keywords, hshown, if_neg Bool.false_ne_true, ih]
    rfl

theorem checkEach_eq (ctx : Context) (schemas : List Json) :
    ctx.checkEach schemas = schemas.map ctx.check := by
  induction schemas with
  | nil => rfl
  | cons schema rest ih => rw [checkEach, ih, List.map_cons]

theorem checkMembers_eq (ctx : Context) (members : List (String × Json)) :
    ctx.checkMembers members = members.map fun m => (m.1, ctx.check m.2) := by
  induction members with
  | nil => rfl
  | cons m rest ih => rw [checkMembers, ih, List.map_cons]

end Context

namespace Keyword

/-- The keyword of a name is that of the member with this key. -/
theorem find?_map {name : String} (members : List (String × Json))
    (make : String → Json → Keyword) (hname : ∀ key argument, (make key argument).name = key) :
    find? name (members.map fun m => make m.1 m.2) = (findKey? name members).map (make name) := by
  induction members with
  | nil => rfl
  | cons m rest ih =>
    obtain ⟨key, argument⟩ := m
    rw [find?] at ih ⊢
    rw [List.map_cons, List.find?_cons, findKey?_cons, hname]
    by_cases hkey : key = name
    · subst hkey
      rw [beq_self_eq_true, if_pos rfl]
      rfl
    · rw [beq_false_of_ne hkey, if_neg hkey]
      exact ih

end Keyword

/-- **A schema that is used where the dialect is draft 7**, and that says nothing about references,
names and other dialects. -/
structure PlainIn (ctx : Context) (members : List (String × Json)) : Prop where
  /-- The dialect is draft 7. -/
  dialect : ctx.dialect = .draft7
  /-- The keywords are in key order. -/
  inKeyOrder : InKeyOrder members
  /-- The schema names its dialect, or no other. -/
  schema : findKey? "$schema" members = none ∨
    findKey? "$schema" members = some (.string JsonSchema.dialect)
  /-- The schema has no name. -/
  name : findKey? "$id" members = none
  /-- The schema does not refer to another one. -/
  ref : findKey? "$ref" members = none

namespace PlainIn

variable {ctx : Context} {members : List (String × Json)}

theorem enter_eq (h : PlainIn ctx members) : ctx.enter members = ctx := by
  obtain ⟨dialect, way, registry, follow⟩ := ctx
  obtain rfl := h.dialect
  have hdialect : Dialect.detect? .draft7 members = some .draft7 := by
    rw [Dialect.detect?]
    rcases h.schema with hnone | hsome
    · rw [hnone]
    · rw [hsome]
      decide +kernel
  have hname : Dialect.name? .draft7 members = none := by
    have hid : findKey? (Dialect.nameKey .draft7) members = none := h.name
    rw [Dialect.name?, hid]
  rw [Context.enter]
  dsimp only
  rw [hdialect, Way.enter, Option.getD_some, hname]
  rfl

/-- **A value is admitted if no keyword has anything against it.** The schema has no reference and
no name, so its keywords are all that is looked at, each beside the others. -/
theorem violations_eq_nil_iff (h : PlainIn ctx members) {path : List Step} {v : Json} :
    (ctx.check (.object members)).violations path v = [] ↔
      ∀ key argument, findKey? key members = some argument →
        (ctx.keyword members key argument).violations .draft7 (ctx.beside members) path v
          = [] := by
  rw [Context.check, h.enter_eq, Context.keywords_eq h.ref, h.dialect]
  show ((members.map _).flatMap _) = [] ↔ _
  rw [List.flatMap_eq_nil_iff]
  constructor
  · intro hall key argument hfind
    exact hall _ (List.mem_map.mpr ⟨(key, argument), mem_of_findKey? hfind, rfl⟩)
  · intro hall k hk
    obtain ⟨⟨key, argument⟩, hmem, rfl⟩ := List.mem_map.mp hk
    exact hall key argument (findKey?_of_mem h.inKeyOrder.nodup hmem)

end PlainIn

/-! ## Keywords about the value itself -/

/-- The keywords that the schemas of nodes use and that lead to no other schema. -/
def ownKeywords : List String :=
  ["type", "enum", "description", "default", "format", "pattern", "minimum", "maximum",
    "exclusiveMinimum", "exclusiveMaximum", "multipleOf", "minLength", "maxLength", "minItems",
    "maxItems", "uniqueItems", "minProperties", "maxProperties", "required", "$schema", "title"]

/-- What such a keyword has against a value. -/
def ownFaults (key : String) (argument v : Json) : List Fault :=
  if key = "pattern" then
    match argument, v with
    | .string pattern, .string s => Keyword.patternFaults (Regex.parse? pattern) pattern s
    | _, _ => []
  else Keyword.plainFaults .draft7 [] key argument v

section

variable {ctx : Context} {key : String}

/-- In draft 7 no mark beside a bound excludes it, so other keywords say nothing about numbers. -/
theorem numberFaults_draft7 (all : List Keyword) (key : String) (limit n : Number) :
    Keyword.numberFaults .draft7 all key limit n
      = Keyword.numberFaults .draft7 [] key limit n := by
  have hmark (all : List Keyword) (mark : String) :
      Keyword.isExcluded .draft7 all mark = false := by
    unfold Keyword.isExcluded
    split <;> rfl
  unfold Keyword.numberFaults
  simp only [hmark]

/-- Other keywords say nothing about what such a keyword has against a value. -/
theorem plainFaults_own (hkey : key ∈ ownKeywords) (all : List Keyword) (argument v : Json) :
    Keyword.plainFaults .draft7 all key argument v
      = Keyword.plainFaults .draft7 [] key argument v := by
  have htext : ∀ argument s, Keyword.textFaults .draft7 all key argument s
      = Keyword.textFaults .draft7 [] key argument s := by
    intro argument s
    unfold Keyword.textFaults
    split
    -- The keywords about the content of texts look at each other, but they are not used.
    case h_2 | h_3 => exact absurd hkey (by decide +kernel)
    all_goals rfl
  unfold Keyword.plainFaults
  split
  all_goals first | rfl | exact htext .. | exact numberFaults_draft7 ..

theorem target?_own (hkey : key ∈ ownKeywords) (argument : Json) :
    ctx.target? key argument = none := by
  unfold Context.target?
  split
  case h_4 => rfl
  all_goals exact absurd hkey (by decide +kernel)

theorem lead_own (hkey : key ∈ ownKeywords) : Dialect.draft7.lead key = .nothing := by
  have h : ∀ key ∈ ownKeywords, Dialect.draft7.lead key = .nothing := by decide +kernel
  exact h key hkey

/-- A keyword about the value itself is an expression, or it goes on to nothing. -/
theorem keyword_own (hdialect : ctx.dialect = .draft7) (hkey : key ∈ ownKeywords)
    (all : List (String × Json)) (argument : Json) :
    ctx.keyword all key argument = ⟨key, argument,
      if key = "pattern" then .expression (argument.string?.bind Regex.parse?) else .nothing⟩ := by
  unfold Context.keyword
  rw [hdialect, lead_own hkey]
  dsimp only
  rw [Context.ownInner, target?_own hkey]

/-- A keyword that goes on to nothing speaks about the value itself. -/
theorem innerViolations?_nothing (hkey : key ∈ ownKeywords) (all : List Keyword) (argument : Json)
    (path : List Step) (v : Json) :
    Keyword.innerViolations? .draft7 all ⟨key, argument, .nothing⟩ path v = none := by
  simp only [ownKeywords, List.mem_cons, List.not_mem_nil, or_false] at hkey
  repeat' rcases hkey with rfl | hkey
  all_goals rfl

theorem innerViolations?_pattern (all : List Keyword) (argument : Json) (r? : Option Regex)
    (path : List Step) (v : Json) :
    Keyword.innerViolations? .draft7 all ⟨"pattern", argument, .expression r?⟩ path v =
      match v, argument with
      | .string s, .string pattern =>
        some ((Keyword.patternFaults r? pattern s).map (⟨path, ·⟩))
      | _, _ => some [] := by
  cases argument <;> cases v <;> rfl

/-- **What a keyword about the value itself has against it** does not depend on anything else: not
on the keywords beside it, nor on where the value stands. -/
theorem violations_own (hdialect : ctx.dialect = .draft7) (hkey : key ∈ ownKeywords)
    {all : List (String × Json)} {argument : Json} {keywords : List Keyword} {path : List Step}
    {v : Json} :
    (ctx.keyword all key argument).violations .draft7 keywords path v = [] ↔
      ownFaults key argument v = [] := by
  rw [keyword_own hdialect hkey]
  unfold ownFaults
  by_cases hpattern : key = "pattern"
  · subst hpattern
    rw [if_pos rfl, if_pos rfl, Keyword.violations, innerViolations?_pattern]
    cases argument <;> cases v <;>
      first | exact ⟨fun _ => rfl, fun _ => rfl⟩ | exact List.map_eq_nil_iff
  · rw [if_neg hpattern, if_neg hpattern, Keyword.violations, innerViolations?_nothing hkey]
    dsimp only
    rw [List.map_eq_nil_iff, plainFaults_own hkey]

end

/-! ## Keywords that lead to other schemas -/

namespace Keyword

/-- What is said about declared members is kept, if it is about each. -/
theorem propertyViolations_eq_nil_iff {properties : List (String × Checker)} {path : List Step}
    {v : Json} :
    propertyViolations properties path v = [] ↔ ∀ p ∈ properties, ∀ w, v.get? p.1 = some w →
      p.2.violations (path ++ [Step.member p.1]) w = [] := by
  unfold propertyViolations
  rw [List.flatMap_eq_nil_iff]
  refine forall₂_congr fun ⟨key, c⟩ _ => ?_
  dsimp only
  cases v.get? key with
  | none => exact ⟨fun _ _ h => (nomatch h), fun _ => rfl⟩
  | some w => exact ⟨fun h _ hw => Option.some.inj hw ▸ h, fun h => h w rfl⟩

/-- Where all members are checked together, each is declared and is what is said about it, or it
is what is said about others. -/
theorem memberViolations_eq_nil_iff {properties : List (String × Checker)}
    {other? : Option Checker} {path : List Step} {members : List (String × Json)} :
    memberViolations properties [] other? path members = [] ↔ ∀ m ∈ members,
      ∃ c, (findKey? m.1 properties).or other? = some c ∧
        c.violations (path ++ [Step.member m.1]) m.2 = [] := by
  have hdescribed (key : String) :
      isDescribed properties [] key = (findKey? key properties).isSome := Bool.or_false _
  have hunexpected : (if other?.isSome then []
      else unlessEmpty path .unexpected
        ((members.map (·.1)).filter (!isDescribed properties [] ·))) = [] ↔
      (other?.isSome = true ∨ ∀ m ∈ members, (findKey? m.1 properties).isSome = true) := by
    cases other? with
    | some c => exact ⟨fun _ => Or.inl rfl, fun _ => rfl⟩
    | none =>
      have hempty (keys : List String) :
          unlessEmpty path Fault.unexpected keys = [] ↔ keys = [] := by
        cases keys with
        | nil => exact ⟨fun _ => rfl, fun _ => rfl⟩
        | cons key rest => exact ⟨nofun, nofun⟩
      show unlessEmpty path .unexpected _ = [] ↔ _
      rw [hempty, List.filter_eq_nil_iff]
      simp only [List.forall_mem_map, hdescribed, Bool.not_eq_true', Bool.not_eq_false]
      exact ⟨fun h => Or.inr h, fun h => h.resolve_left Bool.false_ne_true⟩
  unfold memberViolations
  rw [List.append_eq_nil_iff, hunexpected, List.flatMap_eq_nil_iff]
  constructor
  · rintro ⟨hall, hothers⟩ m hm
    have hmember := hall m hm
    dsimp only at hmember
    rw [hdescribed] at hmember
    cases hfind : findKey? m.1 properties with
    | some c =>
      rw [hfind, Option.isSome_some, if_pos rfl, List.append_eq_nil_iff] at hmember
      exact ⟨c, rfl, hmember.1⟩
    | none =>
      rcases hothers with hsome | hdeclared
      · obtain ⟨c, rfl⟩ := Option.isSome_iff_exists.mp hsome
        rw [hfind, Option.isSome_none, if_neg Bool.false_ne_true] at hmember
        exact ⟨c, rfl, hmember⟩
      · have := hdeclared m hm
        rw [hfind] at this
        exact absurd this Bool.false_ne_true
  · intro hall
    refine ⟨fun m hm => ?_, ?_⟩
    · obtain ⟨c, hc, hok⟩ := hall m hm
      dsimp only
      rw [hdescribed]
      cases hfind : findKey? m.1 properties with
      | some d =>
        rw [hfind] at hc
        obtain rfl := Option.some.inj hc
        rw [Option.isSome_some, if_pos rfl, List.append_eq_nil_iff]
        exact ⟨hok, rfl⟩
      | none =>
        rw [hfind] at hc
        obtain rfl : other? = some c := hc
        rw [Option.isSome_none, if_neg Bool.false_ne_true]
        exact hok
    · cases other? with
      | some c => exact Or.inl rfl
      | none =>
        refine Or.inr fun m hm => ?_
        obtain ⟨c, hc, -⟩ := hall m hm
        rw [Option.or_none] at hc
        rw [hc]
        rfl

/-- A checker admits all items of a list, if it admits each where it stands. -/
theorem itemViolations_eq_nil_iff {c : Checker} {path : List Step} {items : List Json}
    {P : Json → Prop}
    (hP : ∀ path v, c.violations path v = [] ↔ P v) :
    itemViolations c path 0 items = [] ↔ ∀ item ∈ items, P item := by
  unfold itemViolations
  rw [List.flatMap_eq_nil_iff, List.drop_zero]
  constructor
  · intro hall item hitem
    obtain ⟨i, hi, rfl⟩ := List.getElem_of_mem hitem
    exact (hP _ _).mp (hall (items[i], i) (List.mem_zipIdx_iff_getElem?.mpr (by simp [hi])))
  · rintro hall ⟨item, i⟩ hmem
    exact (hP _ _).mpr (hall item (List.fst_mem_of_mem_zipIdx hmem))

end Keyword

section

variable {ctx : Context} {members : List (String × Json)} {path : List Step} {v : Json}

/-- The keyword of a name is that of the member with this key. -/
theorem find?_beside (name : String) :
    Keyword.find? name (ctx.beside members)
      = (findKey? name members).map (ctx.keyword members name) :=
  Keyword.find?_map members (ctx.keyword members) fun _ _ => rfl

/-- The value of a keyword is that of the member with this key. -/
theorem argument?_beside (name : String) :
    Keyword.argument? name (ctx.beside members) = findKey? name members := by
  rw [Keyword.argument?, find?_beside, Option.map_map]
  exact Option.map_id' ..

/-- The declared properties of a schema. -/
def declaredIn (members : List (String × Json)) : List (String × Json) :=
  match findKey? "properties" members with
  | some (.object properties) => properties
  | _ => []

theorem named_properties (hdialect : ctx.dialect = .draft7) :
    ((Keyword.find? "properties" (ctx.beside members)).map Keyword.named).getD []
      = (declaredIn members).map fun p => (p.1, ctx.check p.2) := by
  rw [find?_beside, declaredIn]
  cases findKey? "properties" members with
  | none => rfl
  | some argument =>
    have hkeyword : ctx.keyword members "properties" argument
        = ⟨"properties", argument, .named (ctx.checkNamed argument)⟩ := by
      unfold Context.keyword
      rw [hdialect]
      rfl
    show Keyword.named (ctx.keyword members "properties" argument) = _
    rw [hkeyword]
    cases argument with
    | object properties => exact ctx.checkMembers_eq properties
    | _ => rfl

/-- **What the items of a list are checked for.** -/
theorem violations_items (hdialect : ctx.dialect = .draft7)
    (hpositioned : findKey? "prefixItems" members = none) {inner : List (String × Json)}
    {P : Json → Prop}
    (hP : ∀ path v, (ctx.check (.object inner)).violations path v = [] ↔ P v) :
    (ctx.keyword members "items" (.object inner)).violations .draft7 (ctx.beside members) path v
        = [] ↔ ∀ items, v = .array items → ∀ item ∈ items, P item := by
  have hkeyword : ctx.keyword members "items" (.object inner)
      = ⟨"items", .object inner, .schema (ctx.check (.object inner))⟩ := by
    unfold Context.keyword
    rw [hdialect]
    rfl
  have hpositions : Keyword.positions "prefixItems" (ctx.beside members) = 0 := by
    rw [Keyword.positions, argument?_beside, hpositioned]
  rw [hkeyword]
  cases v with
  | array items =>
    show Keyword.itemViolations _ path (Keyword.positions _ _) items = [] ↔ _
    rw [hpositions, Keyword.itemViolations_eq_nil_iff hP]
    exact ⟨fun h _ heq => Json.array.inj heq ▸ h, fun h => h items rfl⟩
  | _ => exact ⟨fun _ _ heq => (nomatch heq), fun _ => rfl⟩

theorem checksOthers_beside :
    Keyword.checksOthers (ctx.beside members)
      = match findKey? "additionalProperties" members with
        | some (.bool allowed) => !allowed
        | some (.object _) => true
        | _ => false := by
  show (match Keyword.argument? "additionalProperties" (ctx.beside members) with
    | some (.bool allowed) => !allowed
    | some (.object _) => true
    | _ => false) = _
  rw [argument?_beside]

/-- **What declared members are checked for**, unless all are checked together. Where other members
are checked too, the keyword for these does the work for both. -/
theorem violations_properties (hdialect : ctx.dialect = .draft7)
    {properties : List (String × Json)} :
    (ctx.keyword members "properties" (.object properties)).violations .draft7
        (ctx.beside members) path v = [] ↔
      (Keyword.checksOthers (ctx.beside members) = false → ∀ p ∈ properties, ∀ w,
        v.get? p.1 = some w → (ctx.check p.2).violations (path ++ [Step.member p.1]) w = []) := by
  have hkeyword : ctx.keyword members "properties" (.object properties)
      = ⟨"properties", .object properties, .named (ctx.checkMembers properties)⟩ := by
    unfold Context.keyword
    rw [hdialect]
    rfl
  rw [hkeyword, ctx.checkMembers_eq]
  show (if Keyword.checksOthers (ctx.beside members) then [] else _) = [] ↔ _
  cases Keyword.checksOthers (ctx.beside members) with
  | true => exact ⟨fun _ h => absurd h.symm Bool.false_ne_true, fun _ => rfl⟩
  | false =>
    rw [if_neg Bool.false_ne_true, Keyword.propertyViolations_eq_nil_iff, List.forall_mem_map]
    exact ⟨fun h _ => h, fun h => h rfl⟩

/-- The schema of members that are not declared, if there may be any. -/
def otherSchema? : Json → Option Json
  | .bool _ => none
  | schema => some schema

/-- **What other members are checked for**: each member is declared, or it is what is said about
others. Where there may be no others, some have to be declared. -/
theorem violations_additional (hdialect : ctx.dialect = .draft7)
    (hpatterns : findKey? "patternProperties" members = none) {argument : Json}
    (hargument : (∃ inner, argument = .object inner) ∨
      argument = .bool false ∧ (findKey? "properties" members).isSome = true) :
    (ctx.keyword members "additionalProperties" argument).violations .draft7
        (ctx.beside members) path v = [] ↔
      ∀ ms, v = .object ms → ∀ m ∈ ms, ∃ schema,
        (findKey? m.1 (declaredIn members)).or
            (otherSchema? argument) = some schema ∧
          (ctx.check schema).violations (path ++ [Step.member m.1]) m.2 = [] := by
  have hkeyword : ctx.keyword members "additionalProperties" argument
      = ⟨"additionalProperties", argument, .schema (ctx.check argument)⟩ := by
    unfold Context.keyword
    rw [hdialect]
    rfl
  have hnopatterns : Keyword.find? "patternProperties" (ctx.beside members) = none := by
    rw [find?_beside, hpatterns]
    rfl
  rw [hkeyword]
  cases v with
  | object ms =>
    show Keyword.otherViolations _ _ path ms = [] ↔ _
    have hmembers : Keyword.otherViolations (ctx.beside members)
        ⟨"additionalProperties", argument, .schema (ctx.check argument)⟩ path ms
        = Keyword.memberViolations ((declaredIn members).map fun p => (p.1, ctx.check p.2)) []
          ((otherSchema? argument).map ctx.check)
          path ms := by
      unfold Keyword.otherViolations
      rw [named_properties hdialect, hnopatterns]
      rcases hargument with ⟨inner, rfl⟩ | ⟨rfl, hdeclared⟩
      · rfl
      · have hsome : (Keyword.find? "properties" (ctx.beside members)).isNone = false := by
          rw [find?_beside, Option.isNone_map]
          cases hfind : findKey? "properties" members with
          | none => rw [hfind] at hdeclared; exact absurd hdeclared Bool.false_ne_true
          | some _ => rfl
        dsimp only
        rw [hsome, Bool.false_and, if_neg Bool.false_ne_true]
        rfl
    rw [hmembers, Keyword.memberViolations_eq_nil_iff]
    have hcheck (key : String) :
        (findKey? key ((declaredIn members).map fun p => (p.1, ctx.check p.2))).or
            ((otherSchema? argument).map ctx.check)
          = ((findKey? key (declaredIn members)).or
            (otherSchema? argument)).map
              ctx.check := by
      rw [findKey?_map, Option.map_or]
    constructor
    · intro h ms' heq m hm
      obtain rfl := Json.object.inj heq
      obtain ⟨c, hc, hok⟩ := h m hm
      rw [hcheck] at hc
      obtain ⟨schema, hschema, rfl⟩ := Option.map_eq_some_iff.mp hc
      exact ⟨schema, hschema, hok⟩
    · intro h m hm
      obtain ⟨schema, hschema, hok⟩ := h ms rfl m hm
      exact ⟨ctx.check schema, by rw [hcheck, hschema]; rfl, hok⟩
  | _ => exact ⟨fun _ _ heq => (nomatch heq), fun _ => rfl⟩

/-- **What alternatives are checked for**: one of them admits the value. What the others have
against it is not told. -/
theorem violations_anyOf (hdialect : ctx.dialect = .draft7) {schemas : List Json} :
    (ctx.keyword members "anyOf" (.array schemas)).violations .draft7 (ctx.beside members) path v
        = [] ↔ ∃ schema ∈ schemas, (ctx.check schema).violations [] v = [] := by
  have hkeyword : ctx.keyword members "anyOf" (.array schemas)
      = ⟨"anyOf", .array schemas, .list (ctx.checkEach schemas)⟩ := by
    unfold Context.keyword
    rw [hdialect]
    rfl
  rw [hkeyword, ctx.checkEach_eq]
  show (if (schemas.map ctx.check).any (·.accepts v) then [] else _) = [] ↔ _
  rw [List.any_map]
  split
  · next h =>
    obtain ⟨schema, hmem, haccepts⟩ := List.any_eq_true.mp h
    exact ⟨fun _ => ⟨schema, hmem, List.isEmpty_iff.mp haccepts⟩, fun _ => rfl⟩
  · next h =>
    refine ⟨nofun, fun ⟨schema, hmem, hnone⟩ => absurd ?_ h⟩
    exact List.any_eq_true.mpr ⟨schema, hmem, List.isEmpty_iff.mpr hnone⟩

end

end ChartSchema.JsonSchema
