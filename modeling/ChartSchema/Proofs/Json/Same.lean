import ChartSchema.Proofs.Json.Members
import ChartSchema.Yaml.Value
/-!
# Values that are the same as themselves

Equality of values goes back to that of numbers, and one that is not a number is equal to nothing,
not even to itself. `Json` has room for such numbers, and for objects that have a key twice; a value
of JSON has neither, which is what `Json.Proper` says. A proper value is the same as itself
(`Json.Proper.same_self`), and what is read from a text is proper (`Yaml.proper_of_parseJson?`).
-/

namespace ChartSchema

theorem Binary64.eq_self {x : Binary64} (h : x ≠ .nan) : x.eq x = true := by
  cases x with
  | infinite negative => cases negative <;> rfl
  | nan => exact absurd rfl h
  | finite negative mantissa exponent =>
    unfold Binary64.eq compare?
    dsimp only
    cases hrat : toRat? (.finite negative mantissa exponent) with
    | none => exact nomatch hrat
    | some a =>
      dsimp only
      rw [if_neg Rat.lt_irrefl, if_neg Rat.lt_irrefl]
      rfl

theorem Binary64.ne_nan_of_isFinite {x : Binary64} (h : x.isFinite = true) : x ≠ .nan := by
  rintro rfl
  exact Bool.false_ne_true h

/-- The number nearest to an integer is a number, infinite at worst. -/
theorem Binary64.ofInt_ne_nan (n : Int) : ofInt n ≠ .nan := by
  unfold ofInt ofQuotient
  dsimp only
  split
  · simp [zero]
  · split <;> split <;> simp

namespace Json

/-- **A value of JSON**: no object has a key twice, and every number is finite. -/
inductive Proper : Json → Prop
  /-- The null value. -/
  | null : Proper .null
  /-- A truth value. -/
  | bool (b : Bool) : Proper (.bool b)
  /-- An integer. -/
  | int (n : Int) : Proper (.number (.int n))
  /-- A float that is finite. -/
  | float {x : Binary64} : x.isFinite = true → Proper (.number (.float x))
  /-- A text. -/
  | string (s : String) : Proper (.string s)
  /-- A list of such values. -/
  | array {items : List Json} : (∀ v ∈ items, Proper v) → Proper (.array items)
  /-- Members under different keys. -/
  | object {members : List (String × Json)} : (members.map (·.1)).Nodup →
    (∀ member ∈ members, Proper member.2) → Proper (.object members)

theorem Proper.item {items : List Json} (h : (Json.array items).Proper) :
    ∀ v ∈ items, v.Proper := by
  cases h
  assumption

theorem Proper.member {members : List (String × Json)} (h : (Json.object members).Proper)
    {key : String} {v : Json} (hmem : (key, v) ∈ members) : v.Proper := by
  cases h with
  | object _ hvalues => exact hvalues (key, v) hmem

theorem Proper.get? {v w : Json} (h : v.Proper) {key : String} (hget : v.get? key = some w) :
    w.Proper := by
  cases v with
  | object members => exact h.member (mem_of_findKey? hget)
  | null | bool | number | string | array => exact nomatch hget

/-- No object of a value of JSON has a key twice. -/
theorem Proper.keys_nodup {members : List (String × Json)} (h : (Json.object members).Proper) :
    (members.map (·.1)).Nodup := by
  cases h
  assumption

/-- Items are the same as themselves if each of them is. -/
theorem sameItems_self {items : List Json} (h : ∀ v ∈ items, v.same v = true) :
    sameItems Number.same items items = true := by
  induction items with
  | nil => rfl
  | cons v rest ih =>
    rw [sameItems, Bool.and_eq_true]
    exact ⟨h v List.mem_cons_self, ih fun v hv => h v (List.mem_cons_of_mem _ hv)⟩

/-- Members are the same as themselves if each of their values is. -/
theorem sameMembers_self {members : List (String × Json)}
    (h : ∀ member ∈ members, member.2.same member.2 = true) :
    sameMembers Number.same members members = true := by
  induction members with
  | nil => rfl
  | cons member rest ih =>
    rw [sameMembers, beq_self_eq_true, Bool.true_and, Bool.and_eq_true]
    exact ⟨h member List.mem_cons_self, ih fun m hm => h m (List.mem_cons_of_mem _ hm)⟩

/-- **A value of JSON is the same as itself.** This is no matter of course: numbers are compared as
numbers, and one that is not finite would differ from itself. -/
theorem Proper.same_self {v : Json} (h : v.Proper) : v.same v = true := by
  induction h with
  | null => rfl
  | bool b => exact beq_self_eq_true b
  | int n => exact beq_self_eq_true n
  | float hfinite => exact Binary64.eq_self (Binary64.ne_nan_of_isFinite hfinite)
  | string s => exact beq_self_eq_true s
  | array _ ih => exact sameItems_self ih
  | object _ _ ih => exact sameMembers_self ih

end Json

namespace Yaml

/-- A scalar is a value of JSON: a number that is not finite is read as null. -/
theorem proper_jsonOfScalar (scalar : Scalar) : (jsonOfScalar scalar).Proper := by
  match scalar with
  | .null => exact .null
  | .bool b => exact .bool b
  | .string s => exact .string s
  | .number (.int n) => exact .int n
  | .number (.float x) =>
    rw [jsonOfScalar]
    split
    · next hfinite => exact .float hfinite
    · exact .null

mutual

theorem proper_of_jsonOfNode? (node : Node) {v : Json} (h : jsonOfNode? node = some v) :
    v.Proper := by
  match node with
  | .alias _ => exact nomatch h
  | .scalar tag? form text =>
    rw [jsonOfNode?] at h
    split at h
    · exact nomatch h
    · obtain ⟨scalar, -, rfl⟩ := Option.map_eq_some_iff.mp h
      exact proper_jsonOfScalar scalar
  | .sequence tag? items =>
    rw [jsonOfNode?] at h
    split at h
    · exact nomatch h
    · obtain ⟨vs, hvs, rfl⟩ := Option.map_eq_some_iff.mp h
      exact .array (proper_of_jsonOfItems? items hvs)
  | .mapping tag? entries =>
    rw [jsonOfNode?] at h
    split at h
    · exact nomatch h
    · obtain ⟨members, hmembers, rfl⟩ := Option.map_eq_some_iff.mp h
      exact .object (InKeyOrder.sortKeys members).nodup fun member hmember =>
        proper_of_jsonOfEntries? entries hmembers member (mem_of_mem_sortKeys hmember)
termination_by structural node

theorem proper_of_jsonOfItems? (items : List Node) {vs : List Json}
    (h : jsonOfItems? items = some vs) : ∀ v ∈ vs, v.Proper := by
  match items with
  | [] =>
    obtain rfl := Option.some.inj h
    exact fun _ hv => absurd hv List.not_mem_nil
  | item :: rest =>
    obtain ⟨v, hv, h⟩ := Option.bind_eq_some_iff.mp h
    obtain ⟨others, hothers, h⟩ := Option.bind_eq_some_iff.mp h
    obtain rfl := Option.some.inj h
    intro w hw
    rcases List.mem_cons.mp hw with rfl | hw
    · exact proper_of_jsonOfNode? item hv
    · exact proper_of_jsonOfItems? rest hothers w hw
termination_by structural items

theorem proper_of_jsonOfEntries? (entries : List (Node × Node)) {members : List (String × Json)}
    (h : jsonOfEntries? entries = some members) : ∀ member ∈ members, member.2.Proper := by
  match entries with
  | [] =>
    obtain rfl := Option.some.inj h
    exact fun _ hmember => absurd hmember List.not_mem_nil
  | (key, value) :: rest =>
    obtain ⟨k, -, h⟩ := Option.bind_eq_some_iff.mp h
    obtain ⟨v, hv, h⟩ := Option.bind_eq_some_iff.mp h
    obtain ⟨others, hothers, h⟩ := Option.bind_eq_some_iff.mp h
    obtain rfl := Option.some.inj h
    intro member hmember
    rcases List.mem_cons.mp hmember with rfl | hmember
    · exact proper_of_jsonOfNode? value hv
    · exact proper_of_jsonOfEntries? rest hothers member hmember
termination_by structural entries

end

/-- **What is read from a text is a value of JSON.** -/
theorem proper_of_parseJson? {text : String} {v : Json} (h : parseJson? text = some v) :
    v.Proper := by
  unfold parseJson? at h
  split at h
  · exact nomatch h
  · obtain rfl := Option.some.inj h
    exact .null
  · obtain ⟨node, -, h⟩ := Option.bind_eq_some_iff.mp h
    exact proper_of_jsonOfNode? node h

end Yaml
end ChartSchema
