import ChartSchema.Proofs.Json.Members
import Mathlib.Data.List.Forall2
import Mathlib.Data.List.Perm.Basic
/-!
# Lists of which only the order within a key matters

Where things have keys, the order of two things with one key may matter, and the order of things
with different keys should not. `AgreeByKey` says that two lists differ in that order only, and
`Gathers` that a list is made of another one in such a way that what becomes of a key depends on
the things of that key only. What is gathered from lists that agree agrees again, and lists that
agree are sorted to the same list.

Lists may also differ in their keys. `ExtendsByKey` says that one has more of them than the other,
and what is made of the things of each key for themselves then has more of them as well.
-/

namespace ChartSchema

/-! ## Results that may be absent -/

section Results

variable {α β γ δ : Type} {R : α → β → Prop} {x : Option α} {y : Option β}

theorem isSome_of_rel (h : Option.Rel R x y) : x.isSome = y.isSome := by
  cases h <;> rfl

theorem of_rel_some {a : α} {b : β} (h : Option.Rel R (some a) (some b)) : R a b := by
  cases h
  assumption

/-- Results that are related to results that are related. -/
theorem rel_trans {S : β → γ → Prop} {T : α → γ → Prop} {z : Option γ}
    (htrans : ∀ a b c, R a b → S b c → T a c) (h : Option.Rel R x y) (h' : Option.Rel S y z) :
    Option.Rel T x z := by
  cases h with
  | none => cases h'; exact .none
  | some h =>
    cases h' with
    | some h' => exact .some (htrans _ _ _ h h')

theorem rel_bind {S : γ → δ → Prop} {f : α → Option γ} {g : β → Option δ}
    (h : Option.Rel R x y) (hstep : ∀ a b, R a b → Option.Rel S (f a) (g b)) :
    Option.Rel S (x.bind f) (y.bind g) := by
  cases h with
  | none => exact .none
  | some h => exact hstep _ _ h

theorem rel_map {S : γ → δ → Prop} {f : α → γ} {g : β → δ} (h : Option.Rel R x y)
    (hstep : ∀ a b, R a b → S (f a) (g b)) : Option.Rel S (x.map f) (y.map g) := by
  cases h with
  | none => exact .none
  | some h => exact .some (hstep _ _ h)

/-- Results of which the same is made are related by that. -/
theorem rel_of_map_eq {x y : Option α} {f : α → γ} (h : x.map f = y.map f) :
    Option.Rel (fun a b => f a = f b) x y := by
  cases x <;> cases y
  · exact .none
  · exact nomatch h
  · exact nomatch h
  · exact .some (Option.some.inj h)

end Results

/-! ## Lists that agree key by key -/

/-- **Two lists agree key by key**: the elements of each key are related, one after the other. The
order of different keys is of no account. -/
def AgreeByKey {α : Type} (keyOf : α → String) (R : α → α → Prop) (xs ys : List α) : Prop :=
  ∀ key, List.Forall₂ R (xs.filter (keyOf · == key)) (ys.filter (keyOf · == key))

namespace AgreeByKey

variable {α : Type} {keyOf : α → String} {R : α → α → Prop} {xs ys : List α}

theorem append {others more : List α} (h : AgreeByKey keyOf R xs ys)
    (h' : AgreeByKey keyOf R others more) : AgreeByKey keyOf R (xs ++ others) (ys ++ more) := by
  intro key
  rw [List.filter_append, List.filter_append]
  exact List.rel_append (h key) (h' key)

/-- Lists that are related one by one agree, if what is related has one key. -/
theorem of_forall₂ (hkey : ∀ x y, R x y → keyOf x = keyOf y) (h : List.Forall₂ R xs ys) :
    AgreeByKey keyOf R xs ys := by
  intro key
  induction h with
  | nil => exact .nil
  | @cons x y _ _ hxy _ ih =>
    rw [List.filter_cons, List.filter_cons, hkey x y hxy]
    split
    · exact .cons hxy ih
    · exact ih

/-- A list without two elements of one key has at most one element of a key. -/
theorem filter_eq_of_perm {mid : List α} (hnodup : (mid.map keyOf).Nodup) (h : mid.Perm ys)
    (key : String) : mid.filter (keyOf · == key) = ys.filter (keyOf · == key) := by
  have hperm : (mid.filter (keyOf · == key)).Perm (ys.filter (keyOf · == key)) := h.filter _
  have hone : ((mid.filter (keyOf · == key)).map keyOf).Nodup :=
    hnodup.sublist (List.filter_sublist.map keyOf)
  have hkey : ∀ x ∈ mid.filter (keyOf · == key), keyOf x = key :=
    fun x hx => beq_iff_eq.mp (List.mem_filter.mp hx).2
  match hfilter : mid.filter (keyOf · == key) with
  | [] => rw [hfilter] at hperm; exact hperm.nil_eq
  | [x] => rw [hfilter] at hperm; exact List.singleton_perm.mp hperm
  | x :: y :: rest =>
    rw [hfilter] at hone hkey
    have hsame : keyOf x = keyOf y := (hkey x List.mem_cons_self).trans
      (hkey y (List.mem_cons_of_mem _ List.mem_cons_self)).symm
    exact absurd (List.mem_cons.mpr (Or.inl hsame)) (List.nodup_cons.mp hone).1

/-- **Without two elements of one key, the order is of no account.** What is related element by
element agrees key by key then, however the second list is put in another order. -/
theorem of_perm {mid : List α} (hkey : ∀ x y, R x y → keyOf x = keyOf y)
    (h : List.Forall₂ R xs mid) (hnodup : (mid.map keyOf).Nodup) (hperm : mid.Perm ys) :
    AgreeByKey keyOf R xs ys := by
  intro key
  rw [← filter_eq_of_perm hnodup hperm]
  exact of_forall₂ hkey h key

/-- What is left of the keys that are kept agrees. -/
theorem filter (kept : String → Bool) (h : AgreeByKey keyOf R xs ys) :
    AgreeByKey keyOf R (xs.filter (kept <| keyOf ·)) (ys.filter (kept <| keyOf ·)) := by
  have hfilter (zs : List α) (key : String) :
      (zs.filter (kept <| keyOf ·)).filter (keyOf · == key) =
        (zs.filter (keyOf · == key)).filter fun _ => kept key := by
    rw [List.filter_filter, List.filter_filter]
    refine List.filter_congr fun z _ => ?_
    by_cases hkey : keyOf z = key
    · rw [hkey]
      exact Bool.and_comm _ _
    · rw [beq_false_of_ne hkey, Bool.false_and, Bool.and_false]
  intro key
  rw [hfilter, hfilter]
  cases kept key with
  | true =>
    rw [List.filter_true, List.filter_true]
    exact h key
  | false =>
    rw [List.filter_false, List.filter_false]
    exact .nil


/-- What is made of lists that agree agrees, if it has the same keys. -/
theorem map {β : Type} {keyOf' : β → String} {S : β → β → Prop} (h : AgreeByKey keyOf R xs ys)
    (f : α → β) (hkey : ∀ x, keyOf' (f x) = keyOf x) (hrelated : ∀ x y, R x y → S (f x) (f y)) :
    AgreeByKey keyOf' S (xs.map f) (ys.map f) := by
  have hfilter (zs : List α) (key : String) :
      (zs.map f).filter (keyOf' · == key) = (zs.filter (keyOf · == key)).map f := by
    rw [List.filter_map]
    exact congrArg _ (List.filter_congr fun z _ => by rw [Function.comp_apply, hkey])
  intro key
  rw [hfilter, hfilter, List.forall₂_map_left_iff, List.forall₂_map_right_iff]
  exact (h key).imp hrelated

/-- What is known of the elements of one list is known of them where they are related. -/
theorem and_left {p : α → Prop} (h : AgreeByKey keyOf R xs ys) (hp : ∀ x ∈ xs, p x) :
    AgreeByKey keyOf (fun x y => p x ∧ R x y) xs ys :=
  fun key => (List.forall₂_and_left _ _).mpr
    ⟨fun x hx => hp x (List.mem_of_mem_filter hx), h key⟩

/-- Lists that agree about the same elements have the same elements. -/
theorem perm (h : AgreeByKey keyOf (· = ·) xs ys) : xs.Perm ys := by
  classical
  refine List.perm_iff_count.mpr fun x => ?_
  have hx := h (keyOf x)
  rw [List.forall₂_eq_eq_eq] at hx
  have hcount (zs : List α) : (zs.filter (keyOf · == keyOf x)).count x = zs.count x :=
    List.count_filter (beq_self_eq_true (keyOf x))
  rw [← hcount xs, hx, hcount]

end AgreeByKey

/-! ## What is gathered from lists that agree -/

section Gathers

variable {α β : Type} {keyOf : α → String} {keyOf' : β → String} {R : α → α → Prop}
  {S : β → β → Prop}

/-- **A list is gathered key by key** from another one: what becomes of a key depends on the
elements of that key only, and from elements that are related come elements that are. -/
structure Gathers (keyOf : α → String) (keyOf' : β → String) (R : α → α → Prop)
    (S : β → β → Prop) (gather : List α → Option (List β)) : Prop where
  /-- The elements of a key are gathered from those of that key. -/
  filter {xs : List α} {zs : List β} (key : String) :
    gather xs = some zs →
      gather (xs.filter (keyOf · == key)) = some (zs.filter (keyOf' · == key))
  /-- The list can be gathered if it can for each key. -/
  isSome {xs : List α} :
    (∀ key, (gather (xs.filter (keyOf · == key))).isSome) → (gather xs).isSome
  /-- From elements that are related come elements that are. -/
  related {xs ys : List α} :
    List.Forall₂ R xs ys → Option.Rel (List.Forall₂ S) (gather xs) (gather ys)

/-- **What is gathered from lists that agree agrees.** Whether anything is gathered is decided by
the elements of each key for themselves, and so is what is gathered for this key; the two lists have
these in common, up to `R`. -/
theorem Gathers.agree {gather : List α → Option (List β)}
    (hgather : Gathers keyOf keyOf' R S gather) {xs ys : List α} (h : AgreeByKey keyOf R xs ys) :
    Option.Rel (AgreeByKey keyOf' S) (gather xs) (gather ys) := by
  have hsome {xs : List α} :
      (gather xs).isSome ↔ ∀ key, (gather (xs.filter (keyOf · == key))).isSome := by
    refine ⟨fun hxs key => ?_, hgather.isSome⟩
    obtain ⟨zs, hzs⟩ := Option.isSome_iff_exists.mp hxs
    rw [hgather.filter key hzs]
    rfl
  have hboth : (gather xs).isSome ↔ (gather ys).isSome := by
    rw [hsome, hsome]
    exact forall_congr' fun key => by rw [isSome_of_rel (hgather.related (h key))]
  cases hxs : gather xs with
  | none =>
    cases hys : gather ys with
    | none => exact .none
    | some zs => rw [hxs, hys] at hboth; exact absurd (hboth.mpr rfl) Bool.false_ne_true
  | some zs =>
    cases hys : gather ys with
    | none => rw [hxs, hys] at hboth; exact absurd (hboth.mp rfl) Bool.false_ne_true
    | some others =>
      refine .some fun key => of_rel_some ?_
      rw [← hgather.filter key hxs, ← hgather.filter key hys]
      exact hgather.related (h key)

theorem filter_own (x : α) (rest : List α) :
    (x :: rest).filter (keyOf · == keyOf x) = x :: rest.filter (keyOf · == keyOf x) :=
  List.filter_cons_of_pos (beq_self_eq_true (keyOf x))

theorem filter_other {x : α} {key : String} (hkey : keyOf x ≠ key) (rest : List α) :
    (x :: rest).filter (keyOf · == key) = rest.filter (keyOf · == key) :=
  List.filter_cons_of_neg (by rw [beq_false_of_ne hkey]; exact Bool.false_ne_true)

/-- A step that may fail, taken for each element, the first one first. -/
theorem mapM_cons_option (f : α → Option β) (x : α) (rest : List α) :
    (x :: rest).mapM f = (f x).bind fun z => (rest.mapM f).map (z :: ·) := by
  rw [List.mapM_cons]
  simp only [Option.map_eq_bind]
  rfl

/-- **From the elements of some keys come those of the same keys.** The induction is on the list: an
element is kept exactly if what is made of it is kept. -/
theorem mapM_filter {f : α → Option β} (hkey : ∀ x z, f x = some z → keyOf' z = keyOf x)
    (kept : String → Bool) {xs : List α} {zs : List β} (h : xs.mapM f = some zs) :
    (xs.filter (kept <| keyOf ·)).mapM f = some (zs.filter (kept <| keyOf' ·)) := by
  induction xs generalizing zs with
  | nil =>
    obtain rfl := Option.some.inj h
    rfl
  | cons x rest ih =>
    rw [mapM_cons_option] at h
    obtain ⟨z, hz, h⟩ := Option.bind_eq_some_iff.mp h
    obtain ⟨others, hothers, rfl⟩ := Option.map_eq_some_iff.mp h
    rw [List.filter_cons, List.filter_cons, hkey x z hz]
    split
    · rw [mapM_cons_option, hz, ih hothers]
      rfl
    · exact ih hothers

/-- **What is made of each element for itself is gathered key by key.** For one key only the
elements of this key count, so one of them fails exactly if the whole list does. -/
theorem gathers_mapM {f : α → Option β} (hkey : ∀ x z, f x = some z → keyOf' z = keyOf x)
    (hrelated : ∀ x y, R x y → Option.Rel S (f x) (f y)) :
    Gathers keyOf keyOf' R S (List.mapM f) where
  filter key h := mapM_filter hkey (· == key) h
  isSome {xs} h := by
    induction xs with
    | nil => rfl
    | cons x rest ih =>
      obtain ⟨zs, hown⟩ := Option.isSome_iff_exists.mp (h (keyOf x))
      rw [filter_own, mapM_cons_option] at hown
      obtain ⟨z, hz, -⟩ := Option.bind_eq_some_iff.mp hown
      rw [mapM_cons_option, hz, Option.bind_some, Option.isSome_map]
      refine ih fun key => ?_
      by_cases hx : keyOf x = key
      · subst hx
        have hsome := h (keyOf x)
        rwa [filter_own, mapM_cons_option, hz, Option.bind_some, Option.isSome_map] at hsome
      · rw [← filter_other hx]
        exact h key
  related {xs ys} h := by
    induction h with
    | nil => exact .some .nil
    | cons hxy _ ih =>
      rw [mapM_cons_option, mapM_cons_option]
      exact rel_bind (hrelated _ _ hxy) fun _ _ hz => rel_map ih fun _ _ hzs => .cons hz hzs

end Gathers

/-! ## Steps that are taken for each element -/

section Steps

variable {α β : Type} {R : α → α → Prop} {S : β → β → Prop} {f : α → Option β} {xs ys : List α}
  {zs ws : List β}

/-- Where lists are related one by one, an element of the one is related to one of the other. -/
theorem exists_of_forall₂ {y : α} (h : List.Forall₂ R xs ys) (hy : y ∈ ys) : ∃ x ∈ xs, R x y := by
  induction h with
  | nil => exact absurd hy List.not_mem_nil
  | @cons x z _ _ hxz _ ih =>
    rcases List.mem_cons.mp hy with rfl | hy
    · exact ⟨x, List.mem_cons_self, hxz⟩
    · obtain ⟨x, hx, hxy⟩ := ih hy
      exact ⟨x, List.mem_cons_of_mem _ hx, hxy⟩

/-- Pairs are related one by one if their first parts are the same and the second ones related. -/
theorem forall₂_prod {γ : Type} {xs ys : List (γ × α)} :
    List.Forall₂ (fun x y => x.1 = y.1 ∧ R x.2 y.2) xs ys ↔
      xs.map (·.1) = ys.map (·.1) ∧ List.Forall₂ R (xs.map (·.2)) (ys.map (·.2)) := by
  rw [← List.forall₂_eq_eq_eq, List.forall₂_map_left_iff, List.forall₂_map_right_iff,
    List.forall₂_map_left_iff, List.forall₂_map_right_iff]
  exact ⟨fun h => ⟨h.imp fun _ _ h => h.1, h.imp fun _ _ h => h.2⟩,
    fun ⟨hfirst, hsecond⟩ => hfirst.mp (fun _ _ => And.intro) hsecond⟩

/-- Steps that are taken for related elements give related elements. -/
theorem forall₂_mapM (h : List.Forall₂ R xs ys)
    (hrelated : ∀ x y, R x y → ∀ z w, f x = some z → f y = some w → S z w)
    (hxs : xs.mapM f = some zs) (hys : ys.mapM f = some ws) : List.Forall₂ S zs ws := by
  induction h generalizing zs ws with
  | nil =>
    obtain rfl := Option.some.inj hxs
    obtain rfl := Option.some.inj hys
    exact .nil
  | cons hxy _ ih =>
    rw [mapM_cons_option] at hxs hys
    obtain ⟨z, hz, hxs⟩ := Option.bind_eq_some_iff.mp hxs
    obtain ⟨w, hw, hys⟩ := Option.bind_eq_some_iff.mp hys
    obtain ⟨others, hothers, rfl⟩ := Option.map_eq_some_iff.mp hxs
    obtain ⟨further, hfurther, rfl⟩ := Option.map_eq_some_iff.mp hys
    exact .cons (hrelated _ _ hxy z w hz hw) (ih hothers hfurther)

theorem exists_of_mem_mapM (h : xs.mapM f = some zs) {z : β}
    (hz : z ∈ zs) : ∃ x ∈ xs, f x = some z := by
  induction xs generalizing zs with
  | nil =>
    obtain rfl := Option.some.inj h
    exact absurd hz List.not_mem_nil
  | cons x rest ih =>
    rw [mapM_cons_option] at h
    obtain ⟨first, hfirst, h⟩ := Option.bind_eq_some_iff.mp h
    obtain ⟨others, hothers, rfl⟩ := Option.map_eq_some_iff.mp h
    rcases List.mem_cons.mp hz with rfl | hz
    · exact ⟨x, List.mem_cons_self, hfirst⟩
    · obtain ⟨y, hy, hyz⟩ := ih hothers hz
      exact ⟨y, List.mem_cons_of_mem _ hy, hyz⟩

/-- A step that may fail succeeds for all elements if it does for each. -/
theorem isSome_mapM_iff : (xs.mapM f).isSome ↔ ∀ x ∈ xs, (f x).isSome := by
  induction xs with
  | nil => exact iff_of_true rfl nofun
  | cons x rest ih =>
    rw [mapM_cons_option, List.forall_mem_cons]
    cases f x with
    | none => exact iff_of_false Bool.false_ne_true fun h => Bool.false_ne_true h.1
    | some z =>
      rw [Option.bind_some, Option.isSome_map, ih]
      exact (and_iff_right rfl).symm

/-- What comes of steps that give nothing else than a value for each element. -/
theorem eq_map_of_mapM {g : α → β} (hstep : ∀ x z, f x = some z → z = g x)
    (h : xs.mapM f = some zs) : zs = xs.map g := by
  induction xs generalizing zs with
  | nil => exact (Option.some.inj h).symm
  | cons x rest ih =>
    rw [mapM_cons_option] at h
    obtain ⟨z, hz, h⟩ := Option.bind_eq_some_iff.mp h
    obtain ⟨others, hothers, rfl⟩ := Option.map_eq_some_iff.mp h
    rw [List.map_cons, hstep x z hz, ih hothers]

end Steps

/-! ## Lists that have more keys -/

/-- **A list is extended by one that has more keys**: what the later list has of the keys that are
kept is related to the earlier one, element by element, and the rest is of a kind. -/
structure ExtendsByKey {α : Type} (keyOf : α → String) (R : α → α → Prop) (Q : α → Prop)
    (kept : String → Bool) (xs ys : List α) : Prop where
  /-- The elements of the kept keys are related, one by one. -/
  same : List.Forall₂ R xs (ys.filter (kept <| keyOf ·))
  /-- Those of other keys are of a kind. -/
  more : ∀ y ∈ ys, kept (keyOf y) = false → Q y

namespace ExtendsByKey

variable {α β : Type} {keyOf : α → String} {keyOf' : β → String} {R : α → α → Prop}
  {S : β → β → Prop} {Q : α → Prop} {P : β → Prop} {kept : String → Bool} {xs ys : List α}

theorem nil : ExtendsByKey keyOf R Q kept [] [] :=
  ⟨.nil, fun _ hy => absurd hy List.not_mem_nil⟩

/-- A related element of a kept key comes before both lists. -/
theorem keep {x y : α} (hkept : kept (keyOf y) = true) (hxy : R x y)
    (h : ExtendsByKey keyOf R Q kept xs ys) : ExtendsByKey keyOf R Q kept (x :: xs) (y :: ys) := by
  refine ⟨?_, fun z hz hgone => ?_⟩
  · rw [List.filter_cons, if_pos hkept]
    exact .cons hxy h.same
  · rcases List.mem_cons.mp hz with rfl | hz
    · exact absurd (hkept.symm.trans hgone) Bool.noConfusion
    · exact h.more z hz hgone

/-- An element of another key comes before the later list. -/
theorem add {y : α} (hother : kept (keyOf y) = false) (hy : Q y)
    (h : ExtendsByKey keyOf R Q kept xs ys) : ExtendsByKey keyOf R Q kept xs (y :: ys) := by
  refine ⟨?_, fun z hz hgone => ?_⟩
  · rw [List.filter_cons, if_neg (by rw [hother]; exact Bool.false_ne_true)]
    exact h.same
  · rcases List.mem_cons.mp hz with rfl | hz
    · exact hy
    · exact h.more z hz hgone

/-- Lists one behind the other are extended if the lists are. -/
theorem append {others further : List α} (h : ExtendsByKey keyOf R Q kept xs ys)
    (h' : ExtendsByKey keyOf R Q kept others further) :
    ExtendsByKey keyOf R Q kept (xs ++ others) (ys ++ further) := by
  refine ⟨?_, fun y hy => (List.mem_append.mp hy).elim (h.more y) (h'.more y)⟩
  rw [List.filter_append]
  exact List.rel_append h.same h'.same

theorem filter (left : String → Bool) (hkey : ∀ x y, R x y → keyOf x = keyOf y)
    (h : ExtendsByKey keyOf R Q kept xs ys) :
    ExtendsByKey keyOf R Q kept (xs.filter (left <| keyOf ·)) (ys.filter (left <| keyOf ·)) := by
  refine ⟨?_, fun y hy => h.more y (List.mem_of_mem_filter hy)⟩
  rw [List.filter_comm]
  exact List.rel_filter (fun x y hxy => by simp only [hkey x y hxy]) h.same

theorem and_left {p : α → Prop} (h : ExtendsByKey keyOf R Q kept xs ys) (hp : ∀ x ∈ xs, p x) :
    ExtendsByKey keyOf (fun x y => p x ∧ R x y) Q kept xs ys :=
  ⟨(List.forall₂_and_left _ _).mpr ⟨hp, h.same⟩, h.more⟩

/-- An element of a kept key is related to one of the earlier list. -/
theorem exists_of_mem {y : α} (h : ExtendsByKey keyOf R Q kept xs ys) (hy : y ∈ ys)
    (hkept : kept (keyOf y) = true) : ∃ x ∈ xs, R x y :=
  exists_of_forall₂ h.same (List.mem_filter.mpr ⟨hy, hkept⟩)

/-- **What is made of each element for itself is extended**, where the lists are and it can be
made of both. -/
theorem mapM {f : α → Option β} {zs ws : List β} (h : ExtendsByKey keyOf R Q kept xs ys)
    (hkey : ∀ x z, f x = some z → keyOf' z = keyOf x)
    (hrelated : ∀ x y, R x y → ∀ z w, f x = some z → f y = some w → S z w)
    (hmore : ∀ y, Q y → ∀ w, f y = some w → P w) (hxs : xs.mapM f = some zs)
    (hys : ys.mapM f = some ws) : ExtendsByKey keyOf' S P kept zs ws := by
  refine ⟨forall₂_mapM h.same hrelated hxs (mapM_filter hkey kept hys), fun w hw hgone => ?_⟩
  obtain ⟨y, hy, hyw⟩ := exists_of_mem_mapM hys hw
  rw [hkey y w hyw] at hgone
  exact hmore y (h.more y hy hgone) w hyw

end ExtendsByKey

/-! ## Lists of members -/

section Members

variable {α : Type} {xs ys : List (String × α)}

/-- Lists in key order in which the same is found are the same. -/
theorem InKeyOrder.ext (hx : InKeyOrder xs) (hy : InKeyOrder ys)
    (h : ∀ key, findKey? key xs = findKey? key ys) : xs = ys := by
  have hmem (x : String × α) : x ∈ xs ↔ x ∈ ys := by
    refine ⟨fun hin => mem_of_findKey? ?_, fun hin => mem_of_findKey? ?_⟩
    · rw [← h, findKey?_of_mem hx.nodup hin]
    · rw [h, findKey?_of_mem hy.nodup hin]
  have hperm : xs.Perm ys :=
    (List.perm_ext_iff_of_nodup hx.nodup.of_map hy.nodup.of_map).mpr hmem
  have hpairs {zs : List (String × α)} (hz : InKeyOrder zs) :
      zs.Pairwise fun a b => a.1 < b.1 := List.pairwise_map.mp hz
  exact hperm.eq_of_pairwise
    (fun a b _ _ hab hba => absurd (String.lt_trans hab hba) (String.lt_irrefl _)) (hpairs hx)
    (hpairs hy)

/-- What is found under a key is the first member of that key. -/
theorem findKey?_eq_head? (key : String) (xs : List (String × α)) :
    findKey? key xs = ((xs.filter (·.1 == key)).head?).map (·.2) := by
  induction xs with
  | nil => rfl
  | cons x rest ih =>
    rw [findKey?_cons, List.filter_cons]
    by_cases hx : x.1 = key
    · rw [if_pos hx, if_pos (beq_iff_eq.mpr hx)]
      rfl
    · rw [if_neg hx, if_neg (by rw [beq_iff_eq]; exact hx)]
      exact ih

/-- **Lists that agree are sorted to the same list.** Both results are in key order, and under each
key both have the value that came last in the lists. -/
theorem AgreeByKey.sortKeys_eq (h : AgreeByKey (·.1) (· = ·) xs ys) : sortKeys xs = sortKeys ys := by
  refine InKeyOrder.ext (.sortKeys xs) (.sortKeys ys) fun key => ?_
  have hkey := h key
  rw [List.forall₂_eq_eq_eq] at hkey
  rw [findKey?_sortKeys_reverse, findKey?_sortKeys_reverse, findKey?_eq_head?, findKey?_eq_head?,
    List.filter_reverse, List.filter_reverse, hkey]

/-- Values are put in at the same place, whatever is made of them. -/
theorem insertKey_map {β : Type} (f : α → β) (key : String) (v : α) (xs : List (String × α)) :
    insertKey key (f v) (xs.map fun x => (x.1, f x.2)) =
      (insertKey key v xs).map fun x => (x.1, f x.2) := by
  induction xs with
  | nil => rfl
  | cons x rest ih =>
    rw [List.map_cons, insertKey, insertKey]
    split
    · rfl
    · split
      · rfl
      · rw [List.map_cons, ih]

/-- Members are sorted in the same way, whatever is made of their values. -/
theorem sortKeys_map {β : Type} (f : α → β) (xs : List (String × α)) :
    sortKeys (xs.map fun x => (x.1, f x.2)) = (sortKeys xs).map fun x => (x.1, f x.2) := by
  have hfold (sorted : List (String × α)) :
      (xs.map fun x => (x.1, f x.2)).foldl (fun sorted pair => insertKey pair.1 pair.2 sorted)
          (sorted.map fun x => (x.1, f x.2)) =
        (xs.foldl (fun sorted pair => insertKey pair.1 pair.2 sorted) sorted).map
          fun x => (x.1, f x.2) := by
    induction xs generalizing sorted with
    | nil => rfl
    | cons x rest ih =>
      rw [List.map_cons, List.foldl_cons, List.foldl_cons, ← ih]
      exact congrArg (List.foldl _ · _) (insertKey_map f x.1 x.2 sorted)
  exact hfold []

/-- Without two members of one key, the order of members does not matter for what is found. -/
theorem findKey?_perm (hnodup : (xs.map (·.1)).Nodup) (h : xs.Perm ys) (key : String) :
    findKey? key xs = findKey? key ys := by
  refine Option.ext fun v => ⟨fun hx => ?_, fun hy => ?_⟩
  · exact findKey?_of_mem ((h.map _).nodup_iff.mp hnodup) (h.mem_iff.mp (mem_of_findKey? hx))
  · exact findKey?_of_mem hnodup (h.mem_iff.mpr (mem_of_findKey? hy))

end Members
end ChartSchema
