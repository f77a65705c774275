import ChartSchema.Proofs.Schema.Outline
/-!
# When occurrences can be merged

The keys of a list's items are merged one after the other, and each step looks at two things only:
whether its key has a field so far, and what the comments said that document it (`remembered`). A
comment is compared with this one and with no other of those before, and where they differ the
document is refused.

That this finds every two comments that differ is `isSome_merge?_iff`: occurrences can be merged if
and only if any two of one key agree, and the value that stands where a key occurs first can be read
(`CanMerge`). What is remembered of a key is empty or the first comment that says something, and it
stands for all those before (`agree_remember_iff`).
-/

namespace ChartSchema

/-- Two comments agree, unless both say something and not the same. -/
def Comment.Agree (a b : List String) : Prop := a = [] ∨ b = [] ∨ a = b

namespace Comment.Agree

theorem symm {a b : List String} (h : Agree a b) : Agree b a := by
  rcases h with h | h | h
  · exact .inr (.inl h)
  · exact .inl h
  · exact .inr (.inr h.symm)

theorem refl (a : List String) : Agree a a := .inr (.inr rfl)

end Comment.Agree

namespace Outline

/-- What is remembered of the comments above a key, if it has a field. -/
def remembered (fields : OutlineFields) (key : String) : Option (List String) :=
  (fieldOf? key fields).map (·.1.comments)

/-- What is remembered of a key after one more occurrence of it. -/
def remember (known? : Option (List String)) (lines : List String) : List String :=
  match known? with
  | none => lines
  | some known => if known = [] then lines else known

/-- **One more occurrence can be merged** into fields: its value can be read if the key has no field,
and its comment agrees with what is remembered otherwise. -/
def CanAdd (known? : Option (List String)) (o : Occurrence) : Prop :=
  match known? with
  | none => o.content?.isSome
  | some known => Comment.Agree known o.block.lines

variable {fields merged : OutlineFields} {o : Occurrence}

/-- Other comments leave every field with its key. -/
theorem remembered_document (own : String) (block : CommentBlock) (fields : OutlineFields)
    (key : String) :
    remembered (fields.map fun field =>
        if field.1.key == own then (field.1.document block, field.2) else field) key =
      (remembered fields key).map fun known => if own = key then block.lines else known := by
  unfold remembered fieldOf?
  rw [List.find?_map, Option.map_map, Option.map_map]
  have hkey : ((·.1.key == key) ∘ fun field : FieldHead × Outline =>
      if field.1.key == own then (field.1.document block, field.2) else field) =
        (·.1.key == key) := by
    funext field
    rw [Function.comp_apply]
    split <;> rfl
  rw [hkey]
  cases hfind : fields.find? (·.1.key == key) with
  | none => rfl
  | some field =>
    have hown := List.find?_some hfind
    rw [beq_iff_eq] at hown
    simp only [Option.map_some, Function.comp_apply, hown, beq_iff_eq]
    by_cases heq : key = own
    · rw [if_pos heq, if_pos heq.symm]; rfl
    · rw [if_neg heq, if_neg (Ne.symm heq)]

/-- What is remembered of keys where nothing but one of them changes. -/
theorem remembered_eq_ite {known : List String} (hknown : remembered fields o.key = some known)
    (key : String) :
    remembered fields key = if o.key = key then some known else remembered fields key := by
  split
  · next heq => rw [← heq, hknown]
  · rfl

/-- **What merging one more occurrence does**: it is refused or not by what is remembered of its key,
and nothing else than that changes. -/
theorem add?_spec (fields : OutlineFields) (o : Occurrence) :
    (¬CanAdd (remembered fields o.key) o ∧ add? fields o = none) ∨
      CanAdd (remembered fields o.key) o ∧ ∃ merged, add? fields o = some merged ∧
        ∀ key, remembered merged key =
          if o.key = key then some (remember (remembered fields o.key) o.block.lines)
          else remembered fields key := by
  unfold add?
  cases hfield : fieldOf? o.key fields with
  | none =>
    have hnone : remembered fields o.key = none := by rw [remembered, hfield]; rfl
    rw [hnone, Occurrence.field?]
    cases hcontent : o.content? with
    | none => exact .inl ⟨by rw [CanAdd, hcontent]; exact Bool.false_ne_true, rfl⟩
    | some content =>
      refine .inr ⟨by rw [CanAdd, hcontent]; rfl, _, rfl, fun key => ?_⟩
      rw [remembered, fieldOf?, List.find?_append, List.find?_singleton]
      by_cases hkey : o.key = key
      · subst hkey
        have hfind : fields.find? (·.1.key == o.key) = none := hfield
        rw [hfind, if_pos rfl, Option.none_or]
        show (if (o.key == o.key) = true then some (o.head, content) else none).map _ = _
        rw [if_pos (beq_self_eq_true o.key)]
        rfl
      · have hother : ¬(o.head.key == key) = true := by rwa [beq_iff_eq]
        rw [if_neg hkey, if_neg hother, Option.or_none]
        rfl
  | some field =>
    obtain ⟨head, content⟩ := field
    have hknown : remembered fields o.key = some head.comments := by rw [remembered, hfield]; rfl
    rw [hknown]
    dsimp only
    split
    · next hempty =>
      have hlines : o.block.lines = [] := List.isEmpty_iff.mp hempty
      refine .inr ⟨.inr (.inl hlines), _, rfl, fun key => ?_⟩
      have hremember : remember (some head.comments) o.block.lines = head.comments := by
        unfold remember
        dsimp only
        split
        · next hnil => rw [hlines, hnil]
        · rfl
      rw [hremember]
      exact remembered_eq_ite hknown key
    split
    · next hnil =>
      have hnil : head.comments = [] := List.isEmpty_iff.mp hnil
      refine .inr ⟨.inl hnil, _, rfl, fun key => ?_⟩
      rw [remembered_document]
      split
      · next heq => rw [← heq, hknown, Option.map_some, remember, hnil]; rfl
      · exact Option.map_id'
    · next hnonempty hsaid =>
      have hsaid : head.comments ≠ [] := fun h => hsaid (List.isEmpty_iff.mpr h)
      split
      · next hne =>
        refine .inl ⟨?_, rfl⟩
        rintro (h | h | h)
        · exact hsaid h
        · exact hnonempty (List.isEmpty_iff.mpr h)
        · exact hne h
      · next heq =>
        refine .inr ⟨.inr (.inr (not_not.mp heq)), _, rfl, fun key => ?_⟩
        have hremember : remember (some head.comments) o.block.lines = head.comments := if_neg hsaid
        rw [hremember]
        exact remembered_eq_ite hknown key

/-- **Occurrences can be merged** into fields of whose keys this is remembered: each agrees with what
is remembered of its key, any two of one key agree, and where a key has no field and occurs first,
its value can be read. -/
structure CanMerge (known? : String → Option (List String)) (os : List Occurrence) : Prop where
  /-- Every occurrence agrees with what is remembered. -/
  known : ∀ o ∈ os, ∀ known, known? o.key = some known → Comment.Agree known o.block.lines
  /-- Any two agree. -/
  agree : os.Pairwise fun o other =>
    o.key = other.key → Comment.Agree o.block.lines other.block.lines
  /-- The first one of a new key can be read. -/
  first : ∀ before o after, os = before ++ o :: after → known? o.key = none →
    (∀ earlier ∈ before, earlier.key ≠ o.key) → o.content?.isSome

/-- **What is remembered stands for all that was said**: a comment agrees with it exactly if it
agrees with the last comment and with what was remembered before. -/
theorem agree_remember_iff {known? : Option (List String)} (h : CanAdd known? o)
    (lines : List String) :
    Comment.Agree (remember known? o.block.lines) lines ↔
      Comment.Agree o.block.lines lines ∧
        ∀ known, known? = some known → Comment.Agree known lines := by
  cases known? with
  | none => exact ⟨fun hlast => ⟨hlast, nofun⟩, And.left⟩
  | some known =>
    have hsome : (∀ said, some known = some said → Comment.Agree said lines) ↔
        Comment.Agree known lines :=
      ⟨fun hsaid => hsaid known rfl, fun hsaid _ heq => Option.some.inj heq ▸ hsaid⟩
    rw [hsome, remember]
    split
    · next hnil => exact ⟨fun hlast => ⟨hlast, .inl hnil⟩, And.left⟩
    · next hsaid =>
      refine ⟨fun hknown => ⟨?_, hknown⟩, And.right⟩
      rcases h with hnil | hnil | heq
      · exact absurd hnil hsaid
      · exact .inl hnil
      · exact heq ▸ hknown

/-- **Merging goes on where it can.** What is known of a key after one occurrence is what the
occurrences behind it have to agree with. -/
theorem canMerge_cons_iff {known? : String → Option (List String)} {rest : List Occurrence}
    {known?' : String → Option (List String)} (hknown : ∀ key, known?' key =
      if o.key = key then some (remember (known? o.key) o.block.lines) else known? key) :
    CanMerge known? (o :: rest) ↔ CanAdd (known? o.key) o ∧ CanMerge known?' rest := by
  have hsame {other : Occurrence} (h : o.key = other.key) :
      known?' other.key = some (remember (known? o.key) o.block.lines) := by
    rw [hknown, if_pos h]
  have hother {other : Occurrence} (h : o.key ≠ other.key) :
      known?' other.key = known? other.key := by rw [hknown, if_neg h]
  constructor
  · rintro ⟨hagreed, hpairs, hfirst⟩
    obtain ⟨hagree, hpairs⟩ := List.pairwise_cons.mp hpairs
    have hcan : CanAdd (known? o.key) o := by
      cases heq : known? o.key with
      | none => exact hfirst [] o rest rfl heq nofun
      | some known => exact hagreed o List.mem_cons_self known heq
    refine ⟨hcan, fun other hmem known hsome => ?_, hpairs,
      fun before x after hrest hnone hearlier => ?_⟩
    · by_cases hkey : o.key = other.key
      · rw [hsame hkey] at hsome
        rw [← Option.some.inj hsome, agree_remember_iff hcan]
        exact ⟨hagree other hmem hkey,
          fun said hsaid => hagreed other (List.mem_cons_of_mem _ hmem) said (hkey ▸ hsaid)⟩
      · rw [hother hkey] at hsome
        exact hagreed other (List.mem_cons_of_mem _ hmem) known hsome
    · have hkey : o.key ≠ x.key := fun heq => by
        rw [hsame heq] at hnone
        cases hnone
      rw [hother hkey] at hnone
      exact hfirst (o :: before) x after (by rw [hrest, List.cons_append]) hnone
        (List.forall_mem_cons.mpr ⟨hkey, hearlier⟩)
  · rintro ⟨hcan, hagreed, hpairs, hfirst⟩
    have hall {other : Occurrence} (hmem : other ∈ rest) (hkey : o.key = other.key) :=
      (agree_remember_iff hcan _).mp (hagreed other hmem _ (hsame hkey))
    refine ⟨List.forall_mem_cons.mpr ⟨fun known heq => ?_, fun other hmem known hsome => ?_⟩,
      List.pairwise_cons.mpr ⟨fun other hmem hkey => (hall hmem hkey).1, hpairs⟩,
      fun before x after hrest hnone hearlier => ?_⟩
    · rwa [heq] at hcan
    · by_cases hkey : o.key = other.key
      · exact (hall hmem hkey).2 known (hkey ▸ hsome)
      · exact hagreed other hmem known (by rw [hother hkey, hsome])
    · cases before with
      | nil =>
        obtain ⟨rfl, -⟩ := List.cons.inj hrest
        rwa [hnone] at hcan
      | cons earlier before =>
        obtain ⟨rfl, htail⟩ := List.cons.inj hrest
        obtain ⟨hkey, hearlier⟩ := List.forall_mem_cons.mp hearlier
        exact hfirst before x after htail (by rw [hother hkey, hnone]) hearlier

/-- **Occurrences are merged exactly if they can be.** The induction is on the occurrences, with
what is remembered of the fields that are there already. -/
theorem isSome_merge?_iff (fields : OutlineFields) (os : List Occurrence) :
    (merge? fields os).isSome ↔ CanMerge (remembered fields) os := by
  induction os generalizing fields with
  | nil =>
    refine iff_of_true rfl ⟨nofun, .nil, fun before o after h => ?_⟩
    exact absurd h.symm (by simp)
  | cons o rest ih =>
    rw [merge?]
    rcases add?_spec fields o with ⟨hnot, hadd⟩ | ⟨hcan, merged, hadd, hknown⟩
    · rw [hadd, canMerge_cons_iff fun key => rfl]
      exact iff_of_false Bool.false_ne_true fun h => hnot h.1
    · rw [hadd, Option.bind_some, ih, canMerge_cons_iff hknown]
      exact (and_iff_right hcan).symm

end Outline
end ChartSchema
