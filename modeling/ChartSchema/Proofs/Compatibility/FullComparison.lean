import ChartSchema.Proofs.Compatibility.CountBounds
import ChartSchema.Proofs.Compatibility.Mirror
import ChartSchema.Proofs.JsonSchema.Conformance
/-!
# Values that a node admits still

Where one node is compared with a later one and all changes are safe, what the later node says about
a value itself should be nothing new: its type widens, its rules are relaxed, and the values that it
lists are still listed. So a value that passed should pass still. There are differences that the
comparison does not see, and `SchemaNode.ComparesFully` says that there is none of them:

* members that were described together, or only kept, are not compared with a property that one of
  them has from now on;
* bounds that are closer to each other than one is to the next float are not told apart, nor are
  counts that are rounded to one float;
* null is let through by a text whose values are listed, but no longer if the text becomes an
  integer or text;
* listed values are compared by their texts.

With this, types are settled by `SchemaNode.Generated.passesType_of_within`, rules by
`SchemaNode.ComparesFully.holds` and listed values by `SchemaNode.ComparesFully.listed_of`.
-/

namespace ChartSchema

open JsonSchema (Keyword)
open Binary64 (nearest)

/-! ## Types -/

namespace PropertyType

/-- **The values of a type** other than null. Nothing is known about types of other names. -/
def Describes : PropertyType → Json → Prop
  | .string, v => Keyword.hasType .draft7 v "string" = true
  | .integer, v => Keyword.hasType .draft7 v "integer" = true
  | .number, v => Keyword.hasType .draft7 v "number" = true
  | .boolean, v => Keyword.hasType .draft7 v "boolean" = true
  | .array, v => Keyword.hasType .draft7 v "array" = true
  | .object, v => Keyword.hasType .draft7 v "object" = true
  | .intOrString, v =>
    Keyword.hasType .draft7 v "integer" = true ∨ Keyword.hasType .draft7 v "string" = true
  | .any, _ => True
  | .unknown _, _ => False

variable {a b : PropertyType} {v : Json}

theorem hasType_number (h : Keyword.hasType .draft7 v "integer" = true) :
    Keyword.hasType .draft7 v "number" = true := by
  cases v with
  | number n => cases n <;> rfl
  | null | bool | string | array | object => exact absurd h Bool.false_ne_true

/-- **A type that widens keeps its values.** It becomes any type, a number from an integer, or a
type that takes texts or integers besides. -/
theorem Within.describes (h : a.Within b) (hv : a.Describes v) : b.Describes v := by
  rcases h with rfl | h
  · exact hv
  obtain ⟨-, rfl | rfl | ⟨rfl, rfl⟩ | ⟨rfl, rfl⟩ | ⟨rfl, rfl⟩⟩ := widensTo_iff.mp h
  · exact hv
  · trivial
  · exact hasType_number hv
  · exact .inl hv
  · exact .inr hv

end PropertyType

namespace SchemaNode

variable {node old new : SchemaNode} {v : Json}

/-- **The type test of a generated node, by its type as it is compared**: null passes if it is
allowed, or if the node is of any type; other values pass if they are of the type. -/
theorem Generated.passesType_iff_describes (h : node.Generated) : node.PassesType v ↔
    (v = .null → node.IsNullable ∨ node.propertyType = .any) ∧
      (v ≠ .null → node.propertyType.Describes v) := by
  have htyped {name : String} {type : PropertyType} {f : Facets} (hplain : f.intOrString? = none)
      (hf : node.facets = f) (hname : node.type? = some name) (htype : .ofName name = type)
      (hany : type ≠ .any) (hdescribes : type.Describes v ↔ Keyword.hasType .draft7 v name = true) :
      node.PassesType v ↔ (v = .null → node.IsNullable ∨ node.propertyType = .any) ∧
        (v ≠ .null → node.propertyType.Describes v) := by
    subst hf
    have hint : ¬ node.IsIntOrString := by rw [IsIntOrString, hplain]; exact nofun
    rw [propertyType_of_type hplain hname, htype, PassesType, hdescribes, hname]
    simp [hint, hany]
  cases h with
  | @scalar type f hname _ hplain =>
    simp only [List.mem_cons, List.not_mem_nil, or_false] at hname
    rcases hname with rfl | rfl | rfl | rfl
    all_goals exact htyped hplain.intOrString rfl rfl rfl (by decide) Iff.rfl
  | object _ hplain | list _ _ hplain | map _ _ hplain =>
    exact htyped hplain.intOrString rfl rfl rfl (by decide) Iff.rfl
  | struct _ _ _ _ hplain => exact htyped hplain rfl rfl rfl (by decide) Iff.rfl
  | @anything f hset _ hplain =>
    have hany : propertyType { facets := f } = .any := by
      rw [propertyType, hplain.intOrString, hset]
      rfl
    rw [hany, PassesType, IsIntOrString, hplain.intOrString]
    simp [PropertyType.Describes]
  | @intOrString f hset _ _ =>
    have hint : propertyType
        { facets := f, anyOf? := some [typed "integer", typed "string"] } = .intOrString := by
      rw [propertyType, hset]
      rfl
    rw [hint, PassesType, IsIntOrString, hset]
    simp [PropertyType.Describes]

end SchemaNode

/-! ## Bounds -/

namespace Number

variable {a b : Binary64} {n : Number} {q r : Rat} {excluded excluded' : Bool}

/-- The order of numbers that stand for rationals is that of the rationals. -/
theorem compare?_float (hn : n.toRat? = some q) (ha : a.toRat? = some r) :
    n.compare? (.float a) = some (if q < r then .lt else if r < q then .gt else .eq) := by
  rw [compare?, hn, show toRat? (.float a) = some r from ha]

/-- A number that stands for no rational is in no order to others. -/
theorem compare?_eq_none (hn : n.toRat? = none) : n.compare? (.float a) = none := by
  rw [compare?, hn]

theorem atLeast_iff (hn : n.toRat? = some q) (ha : a.toRat? = some r) :
    AtLeast excluded (.float a) n ↔ r ≤ q ∧ (excluded = true → r < q) := by
  rw [AtLeast, compare?_float hn ha]
  cases excluded <;> grind

theorem atMost_iff (hn : n.toRat? = some q) (ha : a.toRat? = some r) :
    AtMost excluded (.float a) n ↔ q ≤ r ∧ (excluded = true → q < r) := by
  rw [AtMost, compare?_float hn ha]
  cases excluded <;> grind

/-- **A least number that did not become larger**, and is not excluded unless it was, admits what it
did. -/
theorem AtLeast.of_le (ha : a.isFinite = true) (hb : b.isFinite = true) (h : a.lt b = false)
    (hexcluded : excluded' = true → excluded = true) (hn : AtLeast excluded (.float a) n) :
    AtLeast excluded' (.float b) n := by
  obtain ⟨r, hr⟩ := Binary64.exists_toRat? ha
  obtain ⟨s, hs⟩ := Binary64.exists_toRat? hb
  have hle : s ≤ r := not_lt.mp fun hlt => Bool.false_ne_true
    (h.symm.trans ((Binary64.lt_iff hr hs).mpr hlt))
  cases hq : n.toRat? with
  | some q =>
    obtain ⟨hrq, hstrict⟩ := (atLeast_iff hq hr).mp hn
    exact (atLeast_iff hq hs).mpr
      ⟨hle.trans hrq, fun hset => lt_of_le_of_lt hle (hstrict (hexcluded hset))⟩
  | none =>
    rw [AtLeast, compare?_eq_none hq] at hn ⊢
    grind

/-- **A largest number that did not become smaller**, and is not excluded unless it was, admits what
it did. -/
theorem AtMost.of_le (ha : a.isFinite = true) (hb : b.isFinite = true) (h : b.lt a = false)
    (hexcluded : excluded' = true → excluded = true) (hn : AtMost excluded (.float a) n) :
    AtMost excluded' (.float b) n := by
  obtain ⟨r, hr⟩ := Binary64.exists_toRat? ha
  obtain ⟨s, hs⟩ := Binary64.exists_toRat? hb
  have hle : r ≤ s := not_lt.mp fun hlt => Bool.false_ne_true
    (h.symm.trans ((Binary64.lt_iff hs hr).mpr hlt))
  cases hq : n.toRat? with
  | some q =>
    obtain ⟨hqr, hstrict⟩ := (atMost_iff hq hr).mp hn
    exact (atMost_iff hq hs).mpr
      ⟨hqr.trans hle, fun hset => lt_of_lt_of_le (hstrict (hexcluded hset)) hle⟩
  | none =>
    rw [AtMost, compare?_eq_none hq] at hn ⊢
    grind

end Number

/-- **A number that a divisor divides is divided by every divisor equal to it.** The quotient is
taken of the values of the divisors, whatever their forms are. -/
theorem JsonSchema.Keyword.isMultiple_congr {a b : Binary64} (ha : a.isFinite = true)
    (hb : b.isFinite = true) (h : a.eq b = true) (n : Number) :
    isMultiple n a = isMultiple n b := by
  obtain ⟨r, hr⟩ := Binary64.exists_toRat? ha
  obtain ⟨s, hs⟩ := Binary64.exists_toRat? hb
  obtain rfl := (Binary64.eq_iff hr hs).mp h
  have hdiv (x : Binary64) : x.div a = x.div b := by
    rw [Binary64.div, Binary64.div, Binary64.lift, Binary64.lift, hr, hs]
  have hmul : a.mul (.ofInt 10) = b.mul (.ofInt 10) := by
    rw [Binary64.mul, Binary64.mul, Binary64.lift, Binary64.lift, hr, hs]
  have hquotient : decimalQuotient 400 a 0 = decimalQuotient 400 b 0 := by
    unfold decimalQuotient
    rw [hr, hs, hmul]
  rw [isMultiple, isMultiple, hr, hs, hdiv, hquotient]

/-! ## What is overlooked -/

namespace SchemaNode

/-- A node says something of members without a property: what they are, or that they are kept. -/
def SpeaksOfOthers (node : SchemaNode) : Prop :=
  node.otherNode?.isSome = true ∨ node.facets.preserveUnknown? = some true

/-- **Nothing that matters is overlooked** where a node is compared with a later one. -/
structure ComparesFully (old new : SchemaNode) : Prop where
  /-- Where something is said of members without a property, none of them has one now. -/
  declared : old.SpeaksOfOthers → ∀ key, hasKey key new.declared = true →
    hasKey key old.declared = true
  /-- Where members are only kept, nothing else is said of them now. -/
  others : old.facets.preserveUnknown? = some true → old.otherNode? = none → new.otherNode? = none
  /-- Where values are listed and null is allowed, the node is no integer or text now, unless it was
  one. -/
  null : old.IsNullable → old.facets.enum?.isSome = true → new.facets.enum?.isSome = true →
    new.IsIntOrString → old.IsIntOrString
  /-- A least number that became larger is not close to the earlier one. -/
  minimum : ∀ a b, old.facets.minimum? = some a → new.facets.minimum? = some b → a.lt b = true →
    a.IsFarFrom b
  /-- A largest number that became smaller is not close to the earlier one. -/
  maximum : ∀ a b, old.facets.maximum? = some a → new.facets.maximum? = some b → b.lt a = true →
    a.IsFarFrom b
  /-- A count that became stricter is rounded to another number than the earlier one. -/
  count : ∀ (rule : CountRule) (a b : Nat), rule.limit? old.facets.rules = some a →
    rule.limit? new.facets.rules = some b → rule.side.Stricter a b → nearest a ≠ nearest b
  /-- Listed values with the same text are the same. -/
  listed : ∀ before after, old.facets.enum? = some before → new.facets.enum? = some after →
    ∀ v ∈ before, ∀ w ∈ after, w.compact = v.compact → w = v

/-- Whether a node says nothing that a comparison may overlook: nothing of members without a
property, no bounds, no counts and no values. -/
def isBare (node : SchemaNode) : Bool :=
  node.otherNode?.isNone && !node.facets.preserveUnknown?.getD false && node.facets.enum?.isNone &&
    node.facets.numbers.all (·.isNone) && node.facets.counts.all (·.isNone)

/-- **Of a node that is bare nothing is overlooked**, whatever it becomes. Each clause of
`ComparesFully` is about something that such a node does not say. -/
theorem ComparesFully.of_isBare {old : SchemaNode} (h : old.isBare = true) (new : SchemaNode) :
    old.ComparesFully new := by
  simp only [isBare, Facets.numbers, Facets.counts, List.all_cons, List.all_nil, Bool.and_eq_true,
    Option.isNone_iff_eq_none, Bool.not_eq_true'] at h
  obtain ⟨⟨⟨⟨hother, hpreserve⟩, henum⟩, hminimum, hmaximum, -⟩, hminLength, hmaxLength, hminItems,
    hmaxItems, hminProperties, hmaxProperties, -⟩ := h
  have hunset : old.facets.preserveUnknown? ≠ some true := fun hset => by
    rw [hset] at hpreserve
    exact Bool.false_ne_true hpreserve.symm
  have hcount (rule : CountRule) : rule.limit? old.facets.rules = none := by
    cases rule <;> simp [CountRule.limit?, Facets.rules, Facets.natural?, hminLength, hmaxLength,
      hminItems, hmaxItems, hminProperties, hmaxProperties]
  refine ⟨fun hspeaks => ?_, fun hset => absurd hset hunset, fun _ hsome => ?_, fun a b ha => ?_,
    fun a b ha => ?_, fun rule a b ha => ?_, fun before after hbefore => ?_⟩
  · rcases hspeaks with hsome | hset
    · rw [hother] at hsome
      cases hsome
    · exact absurd hset hunset
  · rw [henum] at hsome
    cases hsome
  · rw [hminimum] at ha
    cases ha
  · rw [hmaximum] at ha
    cases ha
  · rw [hcount rule] at ha
    cases ha
  · rw [henum] at hbefore
    cases hbefore

end SchemaNode

/-! ## One node -/

/-- A count that is written as a limit on a side allows a size. -/
def Side.AllowsSize : Side → Int → Nat → Prop
  | .lower, limit, n => limit ≤ n
  | .upper, limit, n => n ≤ limit

namespace Facets

variable {side : Side} {old? new? : Option Int}

/-- A count is compared as the natural number that it is. -/
theorem natural?_of_isCount {n : Int} (h : IsCount n) : natural? (some n) = some n.toNat :=
  if_pos h.1

/-- **A count that is relaxed** was there before and allows every size that it allowed, if a
stricter one is rounded to another number. -/
theorem exists_of_countRelaxes (hold : ∀ n, old? = some n → IsCount n)
    (hnew : ∀ n, new? = some n → IsCount n)
    (hrelaxes : Rules.CountRelaxes side (natural? old?) (natural? new?))
    (htold : ∀ a b, natural? old? = some a → natural? new? = some b → side.Stricter a b →
      nearest a ≠ nearest b) {after : Int} (hafter : new? = some after) :
    ∃ before, old? = some before ∧ ∀ n, side.AllowsSize before n → side.AllowsSize after n := by
  have hword {n : Int} (hn : IsCount n) : n.toNat < 2 ^ 64 := by
    have hbound : n < 2 ^ 63 := hn.2
    omega
  subst hafter
  have hcount := hnew after rfl
  rw [natural?_of_isCount hcount] at hrelaxes htold
  obtain ⟨was, hwas, hinwards⟩ := hrelaxes _ rfl
  cases old? with
  | none => cases hwas
  | some before =>
    have hcount' := hold before rfl
    rw [natural?_of_isCount hcount'] at hwas htold
    obtain rfl := Option.some.inj hwas
    -- A stricter count would have been told from the earlier one, and not be safe.
    have hkept : ¬ side.Stricter before.toNat after.toNat := fun hstricter => by
      have hne := htold _ _ rfl rfl hstricter
      have hfar := (Binary64.epsilon_lt_abs_sub_iff (hword hcount') (hword hcount)).mpr hne
      cases side with
      | lower =>
        have hlt := lt_of_le_of_ne (Binary64.nearest_mono (Nat.le_of_lt hstricter)) hne
        exact Bool.false_ne_true ((hinwards hfar).symm.trans
          ((Binary64.ofInt_lt_iff (hword hcount') (hword hcount)).mpr hlt))
      | upper =>
        have hlt := lt_of_le_of_ne (Binary64.nearest_mono (Nat.le_of_lt hstricter)) hne.symm
        exact Bool.false_ne_true ((hinwards hfar).symm.trans
          ((Binary64.ofInt_lt_iff (hword hcount) (hword hcount')).mpr hlt))
    refine ⟨before, rfl, fun n hn => ?_⟩
    have hnatural : 0 ≤ before := hcount'.1
    have hnatural' : 0 ≤ after := hcount.1
    cases side <;> simp only [Side.AllowsSize, Side.Stricter] at hn hkept ⊢ <;> omega

end Facets

namespace SchemaNode

variable {node old new : SchemaNode} {v : Json}

/-- **Relaxed facets ask nothing new**, if nothing was overlooked and no other members are
required. -/
theorem ComparesFully.holds (h : old.ComparesFully new) (hold : old.facets.Proper)
    (hnew : new.facets.Proper) (hrelaxes : old.facets.rules.Relaxes new.facets.rules)
    (hrequired : ∀ key ∈ new.facets.rules.required, key ∈ old.facets.rules.required)
    (hv : old.facets.Holds v) : new.facets.Holds v := by
  have hfinite {f : Facets} (hf : f.Proper) {x? : Option Binary64} {x : Binary64} (hx : x? = some x)
      (hmem : x? ∈ f.numbers) : x.isFinite = true := hf.finite x (hx ▸ hmem)
  have hcount (rule : CountRule) {old? new? : Option Int} (holdMem : old? ∈ old.facets.counts)
      (hnewMem : new? ∈ new.facets.counts)
      (holdLimit : rule.limit? old.facets.rules = Facets.natural? old?)
      (hnewLimit : rule.limit? new.facets.rules = Facets.natural? new?)
      (hrelaxed : Rules.CountRelaxes rule.side (Facets.natural? old?) (Facets.natural? new?))
      {after : Int} (hafter : new? = some after) :
      ∃ before, old? = some before ∧
        ∀ n, rule.side.AllowsSize before n → rule.side.AllowsSize after n :=
    Facets.exists_of_countRelaxes (fun n hn => hold.natural n (hn ▸ holdMem))
      (fun n hn => hnew.natural n (hn ▸ hnewMem)) hrelaxed
      (fun a b ha hb => h.count rule a b (holdLimit.trans ha) (hnewLimit.trans hb)) hafter
  have hmem {f : Facets} : f.minimum? ∈ f.numbers ∧ f.maximum? ∈ f.numbers ∧
      f.multipleOf? ∈ f.numbers := by simp [Facets.numbers]
  have hmem' {f : Facets} : f.minLength? ∈ f.counts ∧ f.maxLength? ∈ f.counts ∧
      f.minItems? ∈ f.counts ∧ f.maxItems? ∈ f.counts ∧ f.minProperties? ∈ f.counts ∧
        f.maxProperties? ∈ f.counts := by simp [Facets.counts]
  obtain ⟨hminLength, hmaxLength, hminItems, hmaxItems, hminProperties, hmaxProperties⟩ :=
    @hmem' old.facets
  obtain ⟨hminLength', hmaxLength', hminItems', hmaxItems', hminProperties', hmaxProperties'⟩ :=
    @hmem' new.facets
  exact {
    format := fun name hname => hv.format name (hrelaxes.format name hname)
    pattern := fun text htext => hv.pattern text (hrelaxes.pattern text htext)
    minimum := fun b hb n hn => by
      obtain ⟨a, ha, hinwards⟩ := hrelaxes.minimum b hb
      have hlt : a.lt b = false := Bool.eq_false_iff.mpr fun hlt => Bool.false_ne_true
        ((hinwards (h.minimum a b ha hb hlt)).symm.trans hlt)
      exact (hv.minimum a ha n hn).of_le (hfinite hold ha hmem.1) (hfinite hnew hb hmem.1) hlt
        hrelaxes.exclusiveMinimum
    maximum := fun b hb n hn => by
      obtain ⟨a, ha, hinwards⟩ := hrelaxes.maximum b hb
      have hlt : b.lt a = false := Bool.eq_false_iff.mpr fun hlt => Bool.false_ne_true
        ((hinwards (h.maximum a b ha hb hlt)).symm.trans hlt)
      exact (hv.maximum a ha n hn).of_le (hfinite hold ha hmem.2.1) (hfinite hnew hb hmem.2.1) hlt
        hrelaxes.exclusiveMaximum
    multipleOf := fun b hb n hn => by
      obtain ⟨a, ha, heq⟩ := hrelaxes.multipleOf b hb
      rw [← Keyword.isMultiple_congr (hfinite hold ha hmem.2.2) (hfinite hnew hb hmem.2.2) heq]
      exact hv.multipleOf a ha n hn
    minLength := fun limit hlimit s hs => by
      obtain ⟨before, hbefore, hallows⟩ :=
        hcount .minLength hminLength hminLength' rfl rfl hrelaxes.minLength hlimit
      exact hallows _ (hv.minLength before hbefore s hs)
    maxLength := fun limit hlimit s hs => by
      obtain ⟨before, hbefore, hallows⟩ :=
        hcount .maxLength hmaxLength hmaxLength' rfl rfl hrelaxes.maxLength hlimit
      exact hallows _ (hv.maxLength before hbefore s hs)
    minItems := fun limit hlimit items hitems => by
      obtain ⟨before, hbefore, hallows⟩ :=
        hcount .minItems hminItems hminItems' rfl rfl hrelaxes.minItems hlimit
      exact hallows _ (hv.minItems before hbefore items hitems)
    maxItems := fun limit hlimit items hitems => by
      obtain ⟨before, hbefore, hallows⟩ :=
        hcount .maxItems hmaxItems hmaxItems' rfl rfl hrelaxes.maxItems hlimit
      exact hallows _ (hv.maxItems before hbefore items hitems)
    uniqueItems := fun hset =>
      hv.uniqueItems (getD_false_eq_true.mp (hrelaxes.uniqueItems (getD_false_eq_true.mpr hset)))
    minProperties := fun limit hlimit members hmembers => by
      obtain ⟨before, hbefore, hallows⟩ :=
        hcount .minProperties hminProperties hminProperties' rfl rfl hrelaxes.minProperties hlimit
      exact hallows _ (hv.minProperties before hbefore members hmembers)
    maxProperties := fun limit hlimit members hmembers => by
      obtain ⟨before, hbefore, hallows⟩ :=
        hcount .maxProperties hmaxProperties hmaxProperties' rfl rfl hrelaxes.maxProperties hlimit
      exact hallows _ (hv.maxProperties before hbefore members hmembers)
    required := fun keys hkeys members hmembers key hkey => by
      have hwas := hrequired key (by rw [Facets.rules, hkeys]; exact hkey)
      cases hothers : old.facets.required? with
      | none =>
        rw [Facets.rules, hothers] at hwas
        exact absurd hwas List.not_mem_nil
      | some others =>
        rw [Facets.rules, hothers] at hwas
        exact hv.required others hothers members hmembers key hwas }

/-- **A value that passed the type test of a node passes that of the later one**, if the type widens
and null is still allowed. -/
theorem Generated.passesType_of_within (hold : old.Generated) (hnew : new.Generated)
    (hwithin : old.propertyType.Within new.propertyType)
    (hnullable : old.IsNullable → new.IsNullable) (hv : old.PassesType v) : new.PassesType v := by
  obtain ⟨hnull, hother⟩ := hold.passesType_iff_describes.mp hv
  refine hnew.passesType_iff_describes.mpr
    ⟨fun hv => ?_, fun hv => hwithin.describes (hother hv)⟩
  rcases hnull hv with hset | hany
  · exact .inl (hnullable hset)
  · rw [hany] at hwithin
    exact .inr hwithin.eq_any

/-- **A listed value is still listed** where the texts of the listed values are, and null is let
through where it was. -/
theorem ComparesFully.listed_of (h : old.ComparesFully new) (hold : old.Generated)
    (hnew : new.Generated) (hrelaxes : old.facets.rules.Relaxes new.facets.rules)
    (hv : ∀ values, old.facets.enum? = some values → values.any (Json.equivalent v) = true ∨
      (old.facets.isNullable = true ∧ old.anyOf? = none ∧ v = .null))
    {values : List Json} (hvalues : new.facets.enum? = some values) :
    values.any (Json.equivalent v) = true ∨
      (new.facets.isNullable = true ∧ new.anyOf? = none ∧ v = .null) := by
  obtain ⟨before, hbefore, htexts⟩ := hrelaxes.enum values hvalues
  rcases hv before hbefore with hlisted | ⟨hset, hnone, hnull⟩
  · obtain ⟨u, hu, heq⟩ := List.any_eq_true.mp hlisted
    obtain ⟨w, hw, htext⟩ := htexts u hu
    obtain rfl := h.listed before values hbefore hvalues u hu w hw htext
    exact .inl (List.any_eq_true.mpr ⟨w, hw, heq⟩)
  · refine .inr ⟨hrelaxes.nullable hset, ?_, hnull⟩
    rcases hnew.marked_iff with ⟨hmarked, -, -⟩ | ⟨-, hunmarked⟩
    · have hint := h.null (isNullable_iff.mp hset) (Option.isSome_of_eq_some hbefore)
        (Option.isSome_of_eq_some hvalues) (getD_false_eq_true.mp hmarked)
      rcases hold.marked_iff with ⟨-, -, hsome⟩ | ⟨hunset, -⟩
      · rw [hsome] at hnone
        cases hnone
      · rw [getD_false_eq_true.mpr hint] at hunset
        exact absurd hunset.symm Bool.false_ne_true
    · exact hunmarked

end SchemaNode
end ChartSchema
