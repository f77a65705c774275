import ChartSchema.Proofs.Compatibility.Reflexive
/-!
# The changes at a location

A comparison goes down two trees of properties at once, through members, through items and through
what is said about other members, each under a condition of its own. `CrdView.filter_changes` says
what it comes to without the way down: at a location that both trees have, the changes are those
between the two properties there (`Property.ownChanges`), each once and in order, and
`CrdView.exists_compared` that there are no changes at other locations.

Two things have to be known of the trees for that. No property has a member twice
(`Property.KeysDistinct`), which holds of all that is read; otherwise a member would be compared
once for each time that it is there. And at the root only members are looked at, so a location
starts with a member (`SchemaPath.StartsAtMember`).
-/

namespace ChartSchema

/-! ## Collecting from one of many -/

/-- What is collected from things of different names, if it comes from one of them only. -/
theorem flatMap_of_mem {α β : Type} {name : α → String} {xs : List α} {x : α}
    {collect : α → List β} (hnodup : (xs.map name).Nodup) (hx : x ∈ xs)
    (hothers : ∀ y ∈ xs, name y ≠ name x → collect y = []) : xs.flatMap collect = collect x := by
  induction xs with
  | nil => exact absurd hx List.not_mem_nil
  | cons first rest ih =>
    rw [List.map_cons, List.nodup_cons] at hnodup
    rw [List.flatMap_cons]
    rcases List.mem_cons.mp hx with rfl | hx
    · have hrest : rest.flatMap collect = [] := by
        refine List.flatMap_eq_nil_iff.mpr fun y hy =>
          hothers y (List.mem_cons_of_mem _ hy) fun hname => hnodup.1 ?_
        rw [← hname]
        exact List.mem_map_of_mem hy
      rw [hrest, List.append_nil]
    · have hfirst : name first ≠ name x := fun hname =>
        hnodup.1 (hname ▸ List.mem_map_of_mem hx)
      rw [hothers first List.mem_cons_self hfirst, List.nil_append]
      exact ih hnodup.2 hx fun y hy => hothers y (List.mem_cons_of_mem _ hy)

/-- What is collected from members, if it comes from the member of one key only. -/
theorem flatMap_of_key {α β : Type} {members : List (String × α)} {key : String}
    {collect : String × α → List β} (hnodup : (members.map (·.1)).Nodup)
    (hothers : ∀ member ∈ members, member.1 ≠ key → collect member = []) :
    members.flatMap collect = (findKey? key members).elim [] fun v => collect (key, v) := by
  cases hfound : findKey? key members with
  | some v => exact flatMap_of_mem hnodup (mem_of_findKey? hfound) hothers
  | none =>
    refine List.flatMap_eq_nil_iff.mpr fun member hmember => hothers member hmember ?_
    rintro rfl
    exact findKey?_eq_none.mp hfound (List.mem_map_of_mem hmember)

/-! ## One step down -/

/-- Whether a comparison goes on by a step: where it is about members only, it goes on by them
only. -/
def SchemaStep.isLooked (membersOnly : Bool) : SchemaStep → Bool
  | .property _ => true
  | .items | .additional => !membersOnly

/-- A location starts with a member, unless it is the root. -/
def SchemaPath.StartsAtMember (path : SchemaPath) : Prop :=
  ∀ step ∈ path.head?, step.isLooked true = true

namespace Property

variable {p q old new : Property} {membersOnly : Bool} {path target : SchemaPath}
  {inward : SchemaStep}

theorem at?_cons (p : Property) (step : SchemaStep) (path : SchemaPath) :
    p.at? (step :: path) = (p.at? [step]).bind (·.at? path) := by
  cases step with
  | property key =>
    show (findKey? key p.properties).bind _ = ((findKey? key p.properties).bind some).bind _
    rw [Option.bind_fun_some]
  | items =>
    show p.items?.bind _ = (p.items?.bind some).bind _
    rw [Option.bind_fun_some]
  | additional =>
    rw [at?, at?]
    split <;> rfl

theorem at?_property (p : Property) (key : String) :
    p.at? [SchemaStep.property key] = findKey? key p.properties :=
  Option.bind_fun_some _

theorem at?_items (p : Property) : p.at? [SchemaStep.items] = p.items? :=
  Option.bind_fun_some _

/-- One step down to what is said about other members, if that is a property. -/
theorem at?_additional_iff : p.at? [SchemaStep.additional] = some q ↔
    p.additional? = some (.value q) := by
  rw [at?]
  split
  · next value hvalue =>
    rw [hvalue, at?]
    simp
  · next hnone => exact iff_of_false (Option.some_ne_none q).symm (hnone q)

/-- **No property has a member twice**, at any location. -/
def KeysDistinct (p : Property) : Prop :=
  ∀ path q, p.at? path = some q → (q.properties.map (·.1)).Nodup

/-- The members of a property are distinct if its own are, and those of what is inside of it. -/
theorem KeysDistinct.intro (hown : (p.properties.map (·.1)).Nodup)
    (hinner : ∀ step q, p.at? [step] = some q → q.KeysDistinct) : p.KeysDistinct := by
  intro path q hq
  cases path with
  | nil => exact Option.some.inj hq ▸ hown
  | cons step path =>
    rw [at?_cons] at hq
    obtain ⟨r, hr, hq⟩ := Option.bind_eq_some_iff.mp hq
    exact hinner step r hr path q hq

/-- A property whose members are distinct has them so below each step. -/
theorem KeysDistinct.inner (h : p.KeysDistinct) (hq : p.at? [inward] = some q) :
    q.KeysDistinct := by
  intro path r hr
  refine h (inward :: path) r ?_
  rw [at?_cons, hq]
  exact hr

/-- **A property that is read has distinct members**, at all of its locations. A value of JSON has
no key twice, so there is only one way down a path. -/
theorem IsRead.keysDistinct (h : p.IsRead) : p.KeysDistinct := by
  intro path q hq
  induction path generalizing p with
  | nil => exact Option.some.inj hq ▸ h.keys_nodup
  | cons step path ih =>
    rw [at?_cons] at hq
    obtain ⟨r, hr, hq⟩ := Option.bind_eq_some_iff.mp hq
    refine ih ?_ hq
    cases step with
    | property key => exact h.member (mem_of_findKey? (at?_property p key ▸ hr))
    | items => exact h.items (at?_items p ▸ hr)
    | additional => exact h.additional (at?_additional_iff.mp hr)

/-! ## The parts of a comparison -/

/-- **The changes between two properties themselves**: of their types and rules, of their members
and of which of these are required. -/
def ownChanges (membersOnly : Bool) (old new : Property) : List PropertyChange :=
  (if membersOnly then [] else typeChange old.type new.type ++ old.rules.changes new.rules) ++
    removedFields old new ++ addedFields old new ++ requiredFields old new

/-- The changes of what is inside of two properties, if both have it. -/
def changesBetween (path : SchemaPath) (old? new? : Option Property) :
    List (SchemaPath × PropertyChange) :=
  match old?, new? with
  | some old, some new => changes false path old new
  | _, _ => []

/-- The changes of members are those between the members of each key. -/
theorem memberChanges_eq (path : SchemaPath) (properties : List (String × Property))
    (new : Property) :
    memberChanges path properties new = properties.flatMap fun member =>
      changesBetween (path ++ [SchemaStep.property member.1]) (some member.2)
        (findKey? member.1 new.properties) := by
  induction properties with
  | nil => rfl
  | cons member rest ih =>
    rw [memberChanges, List.flatMap_cons, ih]
    cases findKey? member.1 new.properties <;> rfl

/-- The changes of items are those between the items of both. -/
theorem itemChanges_eq (path : SchemaPath) (old new : Property) :
    itemChanges path old.items? new
      = changesBetween (path ++ [SchemaStep.items]) (old.at? [SchemaStep.items])
        (new.at? [SchemaStep.items]) := by
  rw [at?_items, at?_items]
  cases old.items? with
  | none => rfl
  | some p =>
    rw [itemChanges]
    cases new.items? <;> rfl

theorem additionalChanges_eq (path : SchemaPath) (old new : Property) :
    additionalChanges path old.additional? new
      = changesBetween (path ++ [SchemaStep.additional]) (old.at? [SchemaStep.additional])
        (new.at? [SchemaStep.additional]) := by
  rw [at?, at?]
  rcases old.additional? with - | - | p
  · rfl
  · rfl
  · rw [additionalChanges]
    rcases new.additional? with - | - | q <;> rfl

theorem sizeOf_lt_of_at? (h : old.at? [inward] = some p) : sizeOf p < sizeOf old := by
  cases inward with
  | property key => exact sizeOf_lt_of_mem (mem_of_findKey? (at?_property old key ▸ h))
  | items => exact sizeOf_lt_of_items (at?_items old ▸ h)
  | additional => exact sizeOf_lt_of_additional (at?_additional_iff.mp h)

/-- **Where a change comes from**: it is one between the properties themselves, or one inside of
both, a step further down. -/
theorem mem_changes_cases (hkeys : (old.properties.map (·.1)).Nodup)
    {change : SchemaPath × PropertyChange} (h : change ∈ changes membersOnly path old new) :
    change ∈ located path (ownChanges membersOnly old new) ∨
      ∃ step : SchemaStep, step.isLooked membersOnly = true ∧
        change ∈ changesBetween (path ++ [step]) (old.at? [step]) (new.at? [step]) := by
  have hown {part : List PropertyChange} (hpart : part ⊆ ownChanges membersOnly old new)
      (hc : change ∈ located path part) : change ∈ located path (ownChanges membersOnly old new) :=
    List.map_subset _ hpart hc
  rw [changes_eq, List.mem_append, List.mem_append, List.mem_append] at h
  rcases h with ((h | h) | h) | h
  · exact .inl (hown (List.subset_append_left _ _) h)
  · rw [memberChanges_eq, List.mem_flatMap] at h
    obtain ⟨⟨key, p⟩, hp, h⟩ := h
    refine .inr ⟨.property key, rfl, ?_⟩
    rw [at?_property, at?_property, findKey?_of_mem hkeys hp]
    exact h
  · exact .inl (hown (List.subset_append_right _ _) h)
  · cases membersOnly with
    | true => exact absurd h List.not_mem_nil
    | false =>
      rcases List.mem_append.mp h with h | h
      · exact .inr ⟨.items, rfl, itemChanges_eq path old new ▸ h⟩
      · exact .inr ⟨.additional, rfl, additionalChanges_eq path old new ▸ h⟩

/-- **A change is found at a location of both properties.** The comparison goes down on both sides
at once, and stops where one of them ends. -/
theorem exists_at?_of_mem_changes {membersOnly : Bool} {path : SchemaPath} {old new : Property}
    (hkeys : old.KeysDistinct) {change : SchemaPath × PropertyChange}
    (h : change ∈ changes membersOnly path old new) :
    ∃ rest p q, change.1 = path ++ rest ∧ old.at? rest = some p ∧ new.at? rest = some q ∧
      ∀ step ∈ rest.head?, step.isLooked membersOnly = true := by
  rcases mem_changes_cases (hkeys [] old rfl) h with h | ⟨step, hlooked, h⟩
  · obtain ⟨own, -, rfl⟩ := List.mem_map.mp h
    exact ⟨[], old, new, (List.append_nil path).symm, rfl, rfl, nofun⟩
  · cases hp : old.at? [step] with
    | none =>
      rw [hp] at h
      exact absurd h List.not_mem_nil
    | some p =>
      cases hq : new.at? [step] with
      | none =>
        rw [hp, hq] at h
        exact absurd h List.not_mem_nil
      | some q =>
        rw [hp, hq] at h
        have := sizeOf_lt_of_at? hp
        obtain ⟨rest, p', q', hpath, hp', hq', -⟩ := exists_at?_of_mem_changes (hkeys.inner hp) h
        refine ⟨step :: rest, p', q', hpath.trans (List.append_assoc ..), ?_, ?_, ?_⟩
        · rw [at?_cons, hp]
          exact hp'
        · rw [at?_cons, hq]
          exact hq'
        · rintro _ ⟨⟩
          exact hlooked
termination_by sizeOf old

/-! ## The changes at one location -/

/-- The changes at a location. -/
def changesAt (target : SchemaPath) (changes : List (SchemaPath × PropertyChange)) :
    List (SchemaPath × PropertyChange) :=
  changes.filter (·.1 = target)

/-- The changes at a location of two lists, one behind the other. -/
theorem changesAt_append (target : SchemaPath) (xs ys : List (SchemaPath × PropertyChange)) :
    changesAt target (xs ++ ys) = changesAt target xs ++ changesAt target ys :=
  List.filter_append ..

/-- The changes at a location of lists that are put together. -/
theorem changesAt_flatMap {α : Type} (target : SchemaPath) (xs : List α)
    (collect : α → List (SchemaPath × PropertyChange)) :
    changesAt target (xs.flatMap collect) = xs.flatMap fun x => changesAt target (collect x) :=
  List.filter_flatMap ..

/-- Changes of the property at a path are at this path. -/
theorem changesAt_located (path : SchemaPath) (own : List PropertyChange) :
    changesAt path (located path own) = located path own := by
  refine List.filter_eq_self.mpr fun change hc => ?_
  obtain ⟨c, -, rfl⟩ := List.mem_map.mp hc
  exact decide_eq_true rfl

/-- Changes of the property at a path are at no other path. -/
theorem changesAt_located_ne (hne : path ≠ target) (own : List PropertyChange) :
    changesAt target (located path own) = [] := by
  refine List.filter_eq_nil_iff.mpr fun change hc => ?_
  obtain ⟨c, -, rfl⟩ := List.mem_map.mp hc
  exact fun h => hne (of_decide_eq_true h)

/-- Behind one step there is nothing that is behind another. -/
theorem not_prefix_of_ne {step : SchemaStep} (hne : step ≠ inward) (rest : SchemaPath) :
    ¬ (path ++ [step]) <+: path ++ inward :: rest := by
  rw [List.prefix_append_right_inj, List.cons_prefix_cons]
  exact fun h => hne h.1

/-- Changes inside of two properties are behind the step that leads there, at no other location. -/
theorem changesAt_between_of_not_behind (hkeys : ∀ p, old.at? [inward] = some p → p.KeysDistinct)
    (hnot : ¬ (path ++ [inward]) <+: target) :
    changesAt target (changesBetween (path ++ [inward]) (old.at? [inward]) (new.at? [inward]))
      = [] := by
  refine List.filter_eq_nil_iff.mpr fun change hc htarget => hnot ?_
  cases hp : old.at? [inward] with
  | none =>
    rw [hp] at hc
    exact absurd hc List.not_mem_nil
  | some p =>
    cases hq : new.at? [inward] with
    | none =>
      rw [hp, hq] at hc
      exact absurd hc List.not_mem_nil
    | some q =>
      rw [hp, hq] at hc
      obtain ⟨rest, -, -, hpath, -⟩ := exists_at?_of_mem_changes (hkeys p hp) hc
      exact ⟨rest, hpath.symm.trans (of_decide_eq_true htarget)⟩

/-- The changes of a member are those one step down. -/
theorem changesBetween_member (hkeys : old.KeysDistinct) {key : String}
    (hp : (key, p) ∈ old.properties) :
    changesBetween (path ++ [SchemaStep.property key]) (some p) (findKey? key new.properties)
      = changesBetween (path ++ [SchemaStep.property key]) (old.at? [SchemaStep.property key])
        (new.at? [SchemaStep.property key]) := by
  rw [at?_property, at?_property, findKey?_of_mem (hkeys [] old rfl) hp]

/-- The changes of members are behind a step to a member, at no other location. -/
theorem changesAt_memberChanges_of_not_behind (hkeys : old.KeysDistinct)
    (hnot : ∀ key : String, (key ∈ old.properties.map (·.1)) →
      ¬ (path ++ [SchemaStep.property key]) <+: target) :
    changesAt target (memberChanges path old.properties new) = [] := by
  rw [memberChanges_eq, changesAt_flatMap, List.flatMap_eq_nil_iff]
  rintro ⟨key, p⟩ hp
  rw [changesBetween_member hkeys hp]
  exact changesAt_between_of_not_behind (fun p hp => hkeys.inner hp)
    (hnot key (List.mem_map_of_mem hp))

/-- **Behind the step to a member the changes of members are those of this member.** Other members
have their changes behind other steps, because keys are distinct. -/
theorem changesAt_memberChanges (hkeys : old.KeysDistinct) (key : String) (rest : SchemaPath) :
    changesAt (path ++ SchemaStep.property key :: rest) (memberChanges path old.properties new)
      = changesAt (path ++ SchemaStep.property key :: rest)
        (changesBetween (path ++ [SchemaStep.property key]) (old.at? [SchemaStep.property key])
          (new.at? [SchemaStep.property key])) := by
  have hothers : ∀ member ∈ old.properties, member.1 ≠ key →
      changesAt (path ++ SchemaStep.property key :: rest)
        (changesBetween (path ++ [SchemaStep.property member.1]) (some member.2)
          (findKey? member.1 new.properties)) = [] := by
    rintro ⟨k, p⟩ hp hne
    rw [changesBetween_member hkeys hp]
    exact changesAt_between_of_not_behind (fun p hp => hkeys.inner hp)
      (not_prefix_of_ne (fun h => hne (SchemaStep.property.inj h)) rest)
  rw [memberChanges_eq, changesAt_flatMap, flatMap_of_key (hkeys [] old rfl) hothers,
    at?_property, at?_property]
  cases findKey? key old.properties <;> rfl

/-- The changes inside of two properties besides those of members. -/
def otherChanges (membersOnly : Bool) (path : SchemaPath) (old new : Property) :
    List (SchemaPath × PropertyChange) :=
  if membersOnly then [] else itemChanges path old.items? new ++
    additionalChanges path old.additional? new

/-- The changes besides those of members are behind a step to items or to what is said about other
members, at no other location. -/
theorem changesAt_otherChanges_of_not_behind (hkeys : old.KeysDistinct)
    (hitems : ¬ (path ++ [SchemaStep.items]) <+: target)
    (hadditional : ¬ (path ++ [SchemaStep.additional]) <+: target) :
    changesAt target (otherChanges membersOnly path old new) = [] := by
  cases membersOnly with
  | true => rfl
  | false =>
    rw [otherChanges, if_neg Bool.false_ne_true, itemChanges_eq, additionalChanges_eq,
      changesAt_append,
      changesAt_between_of_not_behind (fun p hp => hkeys.inner hp) hitems,
      changesAt_between_of_not_behind (fun p hp => hkeys.inner hp) hadditional]
    rfl

/-- The changes of a comparison at a location, part by part. -/
theorem changesAt_changes (membersOnly : Bool) (path target : SchemaPath) (old new : Property) :
    changesAt target (changes membersOnly path old new)
      = changesAt target (located path
          ((if membersOnly then [] else typeChange old.type new.type ++ old.rules.changes new.rules)
            ++ removedFields old new ++ addedFields old new)) ++
        changesAt target (memberChanges path old.properties new) ++
        changesAt target (located path (requiredFields old new)) ++
        changesAt target (otherChanges membersOnly path old new) := by
  rw [changes_eq, changesAt_append, changesAt_append, changesAt_append]
  rfl

/-- A step is no way to stay where one is. -/
theorem not_prefix_self (path : SchemaPath) (step : SchemaStep) : ¬ (path ++ [step]) <+: path := by
  intro h
  have hlength := h.length_le
  rw [List.length_append, List.length_singleton] at hlength
  omega

/-- **The changes at the place of two properties** are those between the properties themselves. All
others are found behind a step further down. -/
theorem changesAt_self (hkeys : old.KeysDistinct) :
    changesAt path (changes membersOnly path old new)
      = located path (ownChanges membersOnly old new) := by
  rw [changesAt_changes,
    changesAt_memberChanges_of_not_behind hkeys fun key _ => not_prefix_self path _,
    changesAt_otherChanges_of_not_behind hkeys (not_prefix_self path _) (not_prefix_self path _),
    changesAt_located, changesAt_located, List.append_nil, List.append_nil]
  exact List.map_append.symm

/-- **The changes one step below two properties** are those between what is inside of both there.
With `changesAt_self` this is all that is needed to go down a path by induction. -/
theorem changesAt_step (hkeys : old.KeysDistinct) (hlooked : inward.isLooked membersOnly = true)
    (rest : SchemaPath) :
    changesAt (path ++ inward :: rest) (changes membersOnly path old new)
      = changesAt (path ++ inward :: rest)
        (changesBetween (path ++ [inward]) (old.at? [inward]) (new.at? [inward])) := by
  have hne : path ≠ path ++ inward :: rest := fun h =>
    List.cons_ne_nil _ _ (List.self_eq_append_right.mp h)
  have hnot (step : SchemaStep) (hstep : step ≠ inward) :
      ¬ (path ++ [step]) <+: path ++ inward :: rest := not_prefix_of_ne hstep rest
  rw [changesAt_changes, changesAt_located_ne hne, changesAt_located_ne hne, List.nil_append,
    List.append_nil]
  cases inward with
  | property key =>
    rw [changesAt_memberChanges hkeys, changesAt_otherChanges_of_not_behind hkeys (hnot _ nofun)
      (hnot _ nofun), List.append_nil]
  | items =>
    have hfull : membersOnly = false := (Bool.not_eq_true' _).mp hlooked
    rw [changesAt_memberChanges_of_not_behind hkeys fun key _ => hnot (.property key) nofun,
      List.nil_append, hfull, otherChanges, if_neg Bool.false_ne_true, changesAt_append, itemChanges_eq,
      additionalChanges_eq,
      changesAt_between_of_not_behind (fun p hp => hkeys.inner hp) (hnot .additional nofun),
      List.append_nil]
  | additional =>
    have hfull : membersOnly = false := (Bool.not_eq_true' _).mp hlooked
    rw [changesAt_memberChanges_of_not_behind hkeys fun key _ => hnot (.property key) nofun,
      List.nil_append, hfull, otherChanges, if_neg Bool.false_ne_true, changesAt_append, itemChanges_eq,
      additionalChanges_eq,
      changesAt_between_of_not_behind (fun p hp => hkeys.inner hp) (hnot .items nofun),
      List.nil_append]

/-- **The changes at a location of two properties** are those between the properties there. The
induction is on the location. -/
theorem changesAt_of_at? (hkeys : old.KeysDistinct) {rest : SchemaPath}
    (hlooked : ∀ step ∈ rest.head?, step.isLooked membersOnly = true)
    (hp : old.at? rest = some p) (hq : new.at? rest = some q) :
    changesAt (path ++ rest) (changes membersOnly path old new)
      = located (path ++ rest) (ownChanges (membersOnly && rest.isEmpty) p q) := by
  induction rest generalizing membersOnly path old new with
  | nil =>
    obtain rfl := Option.some.inj hp
    obtain rfl := Option.some.inj hq
    rw [List.append_nil, changesAt_self hkeys, List.isEmpty_nil, Bool.and_true]
  | cons step rest ih =>
    rw [at?_cons] at hp hq
    obtain ⟨p', hp', hp⟩ := Option.bind_eq_some_iff.mp hp
    obtain ⟨q', hq', hq⟩ := Option.bind_eq_some_iff.mp hq
    have hinner : ∀ step ∈ rest.head?, step.isLooked false = true := by
      rintro (_ | _ | _) _ <;> rfl
    have hrest : changesAt (path ++ [step] ++ rest) (changes false (path ++ [step]) p' q')
        = located (path ++ [step] ++ rest) (ownChanges (false && rest.isEmpty) p q) :=
      ih (hkeys.inner hp') hinner hp hq
    rw [changesAt_step hkeys (hlooked step rfl), hp', hq', List.isEmpty_cons, Bool.and_false]
    rw [List.append_assoc, List.singleton_append, Bool.false_and] at hrest
    exact hrest

end Property

/-! ## Definitions -/

/-- Whether a change is one of a property at a location. -/
def Change.isAt (version : String) (path : SchemaPath) : Change → Bool
  | .property v p _ => v == version && p == path
  | _ => false

namespace CrdView

variable {old new : CrdView} {version : String} {path : SchemaPath} {p q : Property}

/-- **No property has a member twice**, in any version of a definition. -/
def KeysDistinct (crd : CrdView) : Prop :=
  ∀ version ∈ crd.versions, ∀ schema, version.schema? = some schema → schema.KeysDistinct

/-- A property stands at a location of a version. -/
def HasAt (crd : CrdView) (name : String) (path : SchemaPath) (p : Property) : Prop :=
  ∃ version ∈ crd.versions, version.name = name ∧
    ∃ schema, version.schema? = some schema ∧ schema.at? path = some p

/-- **A location that is compared**: both definitions have the version with a schema, both schemas
have the location, and it is the root or starts with a member. -/
structure Compared (old new : CrdView) (version : String) (path : SchemaPath) (p q : Property) :
    Prop where
  /-- The earlier property. -/
  before : old.HasAt version path p
  /-- The later property. -/
  after : new.HasAt version path q
  /-- At the root only members are looked at. -/
  starts : path.StartsAtMember

/-- The changes of a version at a location are those of its schema there. -/
theorem filter_isAt_schemaChanges {a b : VersionView} {before after : Property}
    (hbefore : a.schema? = some before) (hafter : b.schema? = some after) :
    (schemaChanges a b).filter (·.isAt b.name path)
      = (Property.changesAt path (Property.changes true [] before after)).map fun change =>
        .property b.name change.1 change.2 := by
  unfold schemaChanges
  rw [hbefore, hafter]
  dsimp only
  rw [List.filter_map]
  refine congrArg _ (List.filter_congr fun change _ => ?_)
  show (b.name == b.name && change.1 == path) = decide (change.1 = path)
  rw [beq_self_eq_true, Bool.true_and, beq_eq_decide]

/-- The changes of a version are at no location of another one. -/
theorem filter_isAt_versionChanges_ne {b : VersionView} (hne : b.name ≠ version) :
    (versionChanges old b).filter (·.isAt version path) = [] := by
  refine List.filter_eq_nil_iff.mpr fun change hc hat => ?_
  unfold versionChanges at hc
  split at hc
  · unfold schemaChanges at hc
    split at hc
    · obtain ⟨located, -, rfl⟩ := List.mem_map.mp hc
      exact hne (beq_iff_eq.mp (Bool.and_eq_true_iff.mp hat).1)
    · exact absurd hc List.not_mem_nil
  · obtain rfl := List.mem_singleton.mp hc
    exact Bool.false_ne_true hat

/-- A change of what identifies a resource is none of a property. -/
theorem isAt_of_mem_identityChanges {change : Change} (h : change ∈ identityChanges old new) :
    change.isAt version path = false := by
  unfold identityChanges at h
  rcases List.mem_append.mp h with h | h <;> split at h
  · exact absurd h List.not_mem_nil
  · rw [List.mem_singleton.mp h]
    rfl
  · exact absurd h List.not_mem_nil
  · rw [List.mem_singleton.mp h]
    rfl

theorem isAt_of_mem_nameChanges {a b : NamesView} {change : Change} (h : change ∈ nameChanges a b) :
    change.isAt version path = false := by
  unfold nameChanges at h
  rcases List.mem_append.mp h with h | h
  · rcases List.mem_append.mp h with h | h
    · rcases List.mem_append.mp h with h | h
      · split at h
        · exact absurd h List.not_mem_nil
        · rw [List.mem_singleton.mp h]
          rfl
      · obtain ⟨name, -, rfl⟩ := List.mem_map.mp h
        rfl
    · obtain ⟨name, -, rfl⟩ := List.mem_map.mp h
      rfl
  · obtain ⟨name, -, rfl⟩ := List.mem_map.mp h
    rfl

theorem isAt_of_mem_storageChange {change : Change} (h : change ∈ storageChange old new) :
    change.isAt version path = false := by
  unfold storageChange at h
  dsimp only at h
  split at h
  · exact absurd h List.not_mem_nil
  · rw [List.mem_singleton.mp h]
    rfl

/-- **Only the versions of the later definition have changes at a location.** Changes of the names,
the scope or the stored version have no location. -/
theorem filter_isAt_changes_eq (old new : CrdView) (version : String) (path : SchemaPath) :
    (old.changes new).filter (·.isAt version path)
      = new.versions.flatMap fun b => (versionChanges old b).filter (·.isAt version path) := by
  have hnone {changes : List Change} (h : ∀ change ∈ changes, change.isAt version path = false) :
      changes.filter (·.isAt version path) = [] :=
    List.filter_eq_nil_iff.mpr fun change hc => by rw [h change hc]; exact Bool.false_ne_true
  have hremoved : ∀ change ∈ (old.versions.filter fun v => (new.version? v.name).isNone).map
      (Change.versionRemoved ·.name), change.isAt version path = false := by
    intro change hc
    obtain ⟨v, -, rfl⟩ := List.mem_map.mp hc
    rfl
  rw [changes, List.filter_append, List.filter_append, List.filter_append, List.filter_append,
    hnone fun _ => isAt_of_mem_identityChanges, hnone fun _ => isAt_of_mem_nameChanges,
    hnone hremoved, hnone fun _ => isAt_of_mem_storageChange, List.filter_flatMap,
    List.append_nil]
  rfl

/-- **The changes at a location that is compared** are those between the two properties there, each
once. -/
theorem filter_changes (hold : (old.versions.map (·.name)).Nodup)
    (hnew : (new.versions.map (·.name)).Nodup) (hkeys : old.KeysDistinct)
    (h : Compared old new version path p q) :
    (old.changes new).filter (·.isAt version path)
      = (Property.ownChanges path.isEmpty p q).map (.property version path) := by
  obtain ⟨⟨a, ha, rfl, before, hbefore, hp⟩, ⟨b, hb, hname, after, hafter, hq⟩, hstarts⟩ := h
  have hat : Property.changesAt ([] ++ path) (Property.changes true [] before after)
      = Property.located ([] ++ path) (Property.ownChanges (true && path.isEmpty) p q) :=
    Property.changesAt_of_at? (hkeys a ha before hbefore) hstarts hp hq
  rw [List.nil_append, Bool.true_and] at hat
  rw [filter_isAt_changes_eq, flatMap_of_mem hnew hb fun other _ hne =>
      filter_isAt_versionChanges_ne (hname ▸ hne), versionChanges, hname,
    version?_of_mem hold ha]
  dsimp only
  rw [← hname, filter_isAt_schemaChanges hbefore hafter, hat, Property.located, List.map_map]
  rfl

/-- **There are changes only at locations that are compared.** A version has to be in both
definitions, and the path has to lead to a property on both sides. -/
theorem exists_compared (hkeys : old.KeysDistinct) {change : PropertyChange}
    (h : .property version path change ∈ old.changes new) :
    ∃ p q, Compared old new version path p q := by
  have hat : .property version path change ∈
      (old.changes new).filter (·.isAt version path) := by
    refine List.mem_filter.mpr ⟨h, ?_⟩
    show (version == version && path == path) = true
    rw [beq_self_eq_true, beq_self_eq_true]
    rfl
  rw [filter_isAt_changes_eq, List.mem_flatMap] at hat
  obtain ⟨b, hb, hat⟩ := hat
  have hchange := (List.mem_filter.mp hat).1
  unfold versionChanges at hchange
  split at hchange
  · next a ha =>
    unfold schemaChanges at hchange
    split at hchange
    · next before after hbefore hafter =>
      obtain ⟨located, hlocated, heq⟩ := List.mem_map.mp hchange
      obtain ⟨rfl, rfl, -⟩ := Change.property.inj heq
      have hold := List.mem_of_find?_eq_some ha
      have hname : a.name = b.name := by simpa using List.find?_some ha
      obtain ⟨rest, p, q, hrest, hp, hq, hstarts⟩ :=
        Property.exists_at?_of_mem_changes (hkeys a hold before hbefore) hlocated
      obtain rfl : located.1 = rest := hrest
      exact ⟨p, q, ⟨a, hold, hname, before, hbefore, hp⟩, ⟨b, hb, rfl, after, hafter, hq⟩, hstarts⟩
    · exact absurd hchange List.not_mem_nil
  · exact Change.noConfusion (List.mem_singleton.mp hchange)

end CrdView
end ChartSchema
