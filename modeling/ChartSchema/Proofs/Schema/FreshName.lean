import ChartSchema.Schema.Name
import Mathlib
/-!
# Names that a registry hands out are free

A `NameRegistry` gives a struct the name it wants, the name behind its parent's, or the latter
with a number behind it. These rules are told without the search for a number (`IsNameFor`), and the
registry follows them (`freshName_isNameFor`).

Numbers are tried only as often as there are names in use, and the last one is given without being
tried. That this one is free as well is a matter of counting: the numbered names differ from each
other, so they cannot all be among the names in use. For the same reason a search that just counts
up would end (`countsUp_wellFounded`).

Of calls one after the other each takes at most one name, and one that was free before
(`after_eq`). So no name is taken twice (`taken_nodup`).
-/

namespace ChartSchema.NameRegistry

theorem numbered_injective (name : String) {a b : Nat}
    (h : name ++ toString a = name ++ toString b) : a = b :=
  Nat.repr_inj.mp ((String.append_right_inj name).mp h)

/-- The names that are in use, as a predicate and as a list. -/
theorem isReserved_iff {registry : NameRegistry} {name : String} :
    registry.isReserved name = true ↔ name ∈ registry.reserved := by
  rw [isReserved, List.contains_iff_mem]

theorem reserve_of_mem {registry : NameRegistry} {name : String}
    (h : name ∈ registry.reserved) : registry.reserve name = (false, registry) :=
  if_pos (isReserved_iff.mpr h)

theorem reserve_of_not_mem {registry : NameRegistry} {name : String}
    (h : name ∉ registry.reserved) :
    registry.reserve name = (true, ⟨name :: registry.reserved, registry.shared⟩) :=
  if_neg (mt isReserved_iff.mp h)

/-- The search gives the first number whose name is free among those that are tried, or else the
one behind them. -/
theorem exists_firstNumbered (registry : NameRegistry) (name : String) (steps counter : Nat) :
    ∃ tried ≤ steps,
      registry.firstNumbered name steps counter = name ++ toString (counter + tried) ∧
      (∀ i < tried, name ++ toString (counter + i) ∈ registry.reserved) ∧
      (tried < steps → name ++ toString (counter + tried) ∉ registry.reserved) := by
  induction steps generalizing counter with
  | zero => exact ⟨0, Nat.le_refl 0, rfl, nofun, fun h => absurd h (Nat.lt_irrefl 0)⟩
  | succ steps ih =>
    rw [firstNumbered]
    split
    · next hused =>
      obtain ⟨tried, hle, hname, hbefore, hfree⟩ := ih (counter + 1)
      have hshift (i : Nat) : counter + (i + 1) = counter + 1 + i := by omega
      refine ⟨tried + 1, Nat.succ_le_succ hle, by rw [hname, hshift tried], fun i hi => ?_,
        fun h => ?_⟩
      · cases i with
        | zero => exact isReserved_iff.mp hused
        | succ i =>
          rw [hshift i]
          exact hbefore i (Nat.lt_of_succ_lt_succ hi)
      · rw [hshift tried]
        exact hfree (Nat.lt_of_succ_lt_succ h)
    · next hfree =>
      exact ⟨0, Nat.zero_le _, rfl, nofun, fun _ hmem => hfree (isReserved_iff.mpr hmem)⟩

/-- More numbered names than there are names in use are not all in use. -/
theorem exists_numbered_free (registry : NameRegistry) (name : String) (counter : Nat) :
    ∃ i ≤ registry.reserved.length, name ++ toString (counter + i) ∉ registry.reserved := by
  by_contra hall
  push Not at hall
  let numbered : List String :=
    (List.range (registry.reserved.length + 1)).map fun i => name ++ toString (counter + i)
  have hnodup : numbered.Nodup := by
    refine List.Nodup.map (fun i j hij => ?_) List.nodup_range
    have := numbered_injective name hij
    omega
  have hsub : numbered ⊆ registry.reserved := by
    intro x hx
    obtain ⟨i, hi, rfl⟩ := List.mem_map.mp hx
    exact hall i (Nat.lt_succ_iff.mp (List.mem_range.mp hi))
  have hle := hnodup.length_le_of_subset hsub
  simp only [numbered, List.length_map, List.length_range] at hle
  omega

/-- **The least number whose name is free** is found among as many as there are names in use, and
one more. -/
theorem firstNumbered_least (registry : NameRegistry) (name : String) (counter : Nat) :
    ∃ n ≥ counter,
      registry.firstNumbered name registry.reserved.length counter = name ++ toString n ∧
      name ++ toString n ∉ registry.reserved ∧
      ∀ m ≥ counter, m < n → name ++ toString m ∈ registry.reserved := by
  obtain ⟨tried, hle, hname, hbefore, hfree⟩ :=
    registry.exists_firstNumbered name registry.reserved.length counter
  refine ⟨counter + tried, Nat.le_add_right _ _, hname, ?_, fun m hm hlt => ?_⟩
  · rcases Nat.lt_or_eq_of_le hle with hlt | rfl
    · exact hfree hlt
    · -- Only the last one is left to be free.
      obtain ⟨i, hi, hifree⟩ := registry.exists_numbered_free name counter
      rcases Nat.lt_or_eq_of_le hi with hlt | rfl
      · exact absurd (hbefore i hlt) hifree
      · exact hifree
  · have hmem := hbefore (m - counter) (by omega)
    rwa [Nat.add_sub_cancel' hm] at hmem

/-- One step of a search without bound: the name with this number is in use, so the next number is
looked at. -/
def CountsUp (registry : NameRegistry) (name : String) (next n : Nat) : Prop :=
  name ++ toString n ∈ registry.reserved ∧ next = n + 1

/-- **Counting up ends**, wherever it starts. Only finitely many names are in use, so some number
behind the start gives a name that is free. -/
theorem countsUp_wellFounded (registry : NameRegistry) (name : String) :
    WellFounded (registry.CountsUp name) := by
  -- The distance to a number whose name is free falls with each step.
  have hreach (distance n : Nat) (hfree : name ++ toString (n + distance) ∉ registry.reserved) :
      Acc (registry.CountsUp name) n := by
    induction distance generalizing n with
    | zero => exact ⟨n, fun _ hnext => absurd hnext.1 hfree⟩
    | succ distance ih =>
      refine ⟨n, fun next hnext => ?_⟩
      rw [hnext.2]
      exact ih (n + 1) (by rwa [Nat.add_right_comm])
  refine ⟨fun n => ?_⟩
  obtain ⟨i, -, hfree⟩ := registry.exists_numbered_free name n
  exact hreach i n hfree

/-! ## The name for a struct -/

/-- **The name for a struct** that wants `wanted` below the key `parent`: the one it wants if only
this struct wants it and it is free, else the one with the parent before it if this is free, else
the latter with the least number from 2 on with which it is free. -/
inductive IsNameFor (registry : NameRegistry) (wanted parent : String) : String → Prop
  /-- The name it wants. -/
  | wanted : wanted ∉ registry.shared → wanted ∉ registry.reserved →
      IsNameFor registry wanted parent wanted
  /-- The name with the parent before it. -/
  | prefixed : wanted ∈ registry.shared ∨ wanted ∈ registry.reserved →
      identifier parent ++ wanted ∉ registry.reserved →
      IsNameFor registry wanted parent (identifier parent ++ wanted)
  /-- The name with the parent before it and a number behind it. -/
  | numbered {n : Nat} : wanted ∈ registry.shared ∨ wanted ∈ registry.reserved →
      identifier parent ++ wanted ∈ registry.reserved → 2 ≤ n →
      (∀ m ≥ 2, m < n → identifier parent ++ wanted ++ toString m ∈ registry.reserved) →
      identifier parent ++ wanted ++ toString n ∉ registry.reserved →
      IsNameFor registry wanted parent (identifier parent ++ wanted ++ toString n)

variable {registry : NameRegistry} {wanted parent name other : String}

theorem IsNameFor.free (h : registry.IsNameFor wanted parent name) : name ∉ registry.reserved := by
  cases h with
  | wanted _ hfree | prefixed _ hfree | numbered _ _ _ _ hfree => exact hfree

theorem IsNameFor.unique (h : registry.IsNameFor wanted parent name)
    (h' : registry.IsNameFor wanted parent other) : name = other := by
  cases h with
  | wanted hshared hfree =>
    cases h' with
    | wanted => rfl
    | prefixed htaken | numbered htaken => exact absurd htaken (not_or.mpr ⟨hshared, hfree⟩)
  | prefixed htaken hfree =>
    cases h' with
    | wanted hshared hfree => exact absurd htaken (not_or.mpr ⟨hshared, hfree⟩)
    | prefixed => rfl
    | numbered _ hused => exact absurd hused hfree
  | @numbered n htaken hused hn hbefore hfree =>
    cases h' with
    | wanted hshared hfree => exact absurd htaken (not_or.mpr ⟨hshared, hfree⟩)
    | prefixed _ hfree => exact absurd hused hfree
    | @numbered m _ _ hm hbefore' hfree' =>
      rcases Nat.lt_trichotomy n m with hlt | rfl | hlt
      · exact absurd (hbefore' n hn hlt) hfree
      · rfl
      · exact absurd (hbefore m hm hlt) hfree'

theorem freshName_isNameFor (registry : NameRegistry) (wanted parent : String) :
    registry.IsNameFor wanted parent (registry.freshName wanted parent) := by
  have hshared : registry.shared.contains wanted = true ↔ wanted ∈ registry.shared :=
    List.contains_iff_mem
  simp only [freshName]
  split
  · next h =>
    rw [Bool.and_eq_true, Bool.not_eq_true', Bool.not_eq_true', ← Bool.not_eq_true,
      ← Bool.not_eq_true, hshared, isReserved_iff] at h
    exact .wanted h.1 h.2
  · next h =>
    rw [Bool.and_eq_true, Bool.not_eq_true', Bool.not_eq_true', ← Bool.not_eq_true,
      ← Bool.not_eq_true, hshared, isReserved_iff, not_and_or, not_not, not_not] at h
    split
    · next hfree =>
      rw [Bool.not_eq_true', ← Bool.not_eq_true, isReserved_iff] at hfree
      exact .prefixed h hfree
    · next hused =>
      rw [Bool.not_eq_true', Bool.not_eq_false, isReserved_iff] at hused
      obtain ⟨n, hn, hname, hfree, hbefore⟩ :=
        registry.firstNumbered_least (identifier parent ++ wanted) 2
      rw [hname]
      exact .numbered h hused hn hbefore hfree

theorem freshName_free (registry : NameRegistry) (wanted parent : String) :
    registry.freshName wanted parent ∉ registry.reserved :=
  (registry.freshName_isNameFor wanted parent).free

/-- The name that is handed out is in use from then on, and it is the only new one. -/
@[simp] theorem reserved_uniqueName (registry : NameRegistry) (options : BuildOptions)
    (key parent : String) :
    (registry.uniqueName options key parent).2.reserved
      = (registry.uniqueName options key parent).1 :: registry.reserved := rfl

/-- **A name that is handed out was not in use.** -/
theorem uniqueName_free (registry : NameRegistry) (options : BuildOptions)
    (key parent : String) :
    (registry.uniqueName options key parent).1 ∉ registry.reserved :=
  freshName_free _ _ _

/-- A name that is reserved in the registry without names is the only one in use. -/
theorem reserved_reserve_ofShared (shared : List String) (name : String) :
    ((ofShared shared).reserve name).2.reserved = [name] := rfl

/-! ## Sequences of calls -/

/-- A call on a registry. -/
inductive Call where
  /-- Reserve this name. -/
  | reserve (name : String)
  /-- Give a name to the struct of `key` below `parent`. -/
  | unique (options : BuildOptions) (key parent : String)

/-- The registry after a call. -/
def after (registry : NameRegistry) : Call → NameRegistry
  | .reserve name => (registry.reserve name).2
  | .unique options key parent => (registry.uniqueName options key parent).2

/-- The name that a call takes: the one it reserves, if that was free, or the one it gives. -/
def taken? (registry : NameRegistry) : Call → Option String
  | .reserve name => if (registry.reserve name).1 then some name else none
  | .unique options key parent => some (registry.uniqueName options key parent).1

/-- The name that a call gives to a struct, if it is to give one. -/
def given? (registry : NameRegistry) : Call → Option String
  | .reserve _ => none
  | .unique options key parent => some (registry.uniqueName options key parent).1

/-- What calls one after the other have to say by `answer?`. -/
def answers (answer? : NameRegistry → Call → Option String) (registry : NameRegistry) :
    List Call → List String
  | [] => []
  | call :: rest => (answer? registry call).toList ++ answers answer? (registry.after call) rest

/-- The registry after calls one after the other. -/
def afterAll (registry : NameRegistry) (calls : List Call) : NameRegistry :=
  calls.foldl after registry

/-- **A call takes a name that was free**, if it takes one, and changes nothing else. -/
theorem after_eq (registry : NameRegistry) (call : Call) :
    registry.after call = ⟨(registry.taken? call).toList ++ registry.reserved, registry.shared⟩ ∧
      ∀ name ∈ registry.taken? call, name ∉ registry.reserved := by
  cases call with
  | reserve name =>
    unfold after taken?
    dsimp only
    by_cases hmem : name ∈ registry.reserved
    · rw [reserve_of_mem hmem]
      exact ⟨rfl, nofun⟩
    · rw [reserve_of_not_mem hmem]
      refine ⟨rfl, fun other hother => ?_⟩
      obtain rfl : name = other := Option.some.inj hother
      exact hmem
  | unique options key parent =>
    refine ⟨rfl, fun name hname => ?_⟩
    obtain rfl := Option.some.inj hname
    exact registry.uniqueName_free options key parent

/-- **No name is taken twice**, and none that was in use before. The induction is on the calls: a
name that was taken is in use for all those behind. -/
theorem taken_nodup (registry : NameRegistry) (calls : List Call) :
    (registry.answers taken? calls).Nodup ∧
      (registry.answers taken? calls).Disjoint registry.reserved ∧
      registry.afterAll calls =
        ⟨(registry.answers taken? calls).reverse ++ registry.reserved, registry.shared⟩ := by
  induction calls generalizing registry with
  | nil => exact ⟨List.nodup_nil, List.disjoint_nil_left _, rfl⟩
  | cons call rest ih =>
    obtain ⟨hafter, hfree⟩ := registry.after_eq call
    obtain ⟨hnodup, hdisjoint, hlast⟩ := ih (registry.after call)
    rw [answers, afterAll, List.foldl_cons]
    rw [afterAll] at hlast
    rw [hlast]
    cases htaken : registry.taken? call with
    | none =>
      rw [htaken] at hafter
      have hsame : registry.after call = registry := hafter
      rw [hsame] at hnodup hdisjoint ⊢
      exact ⟨hnodup, hdisjoint, rfl⟩
    | some name =>
      -- The name is in use for the calls behind, so that they take others.
      rw [htaken] at hafter hfree
      have hreserved : (registry.after call).reserved = name :: registry.reserved := by
        rw [hafter]
        rfl
      have hshared : (registry.after call).shared = registry.shared := by rw [hafter]
      rw [hreserved, List.disjoint_cons_right] at hdisjoint
      refine ⟨List.nodup_cons.mpr ⟨hdisjoint.1, hnodup⟩,
        List.disjoint_cons_left.mpr ⟨hfree name rfl, hdisjoint.2⟩, ?_⟩
      rw [hreserved, hshared, Option.toList_some, List.singleton_append, List.reverse_cons,
        List.append_assoc, List.singleton_append]

/-- The names that are given are among those that are taken, in this order. -/
theorem given_sublist_taken (registry : NameRegistry) (calls : List Call) :
    (registry.answers given? calls).Sublist (registry.answers taken? calls) := by
  induction calls generalizing registry with
  | nil => exact List.Sublist.refl _
  | cons call rest ih =>
    refine List.Sublist.append ?_ (ih (registry.after call))
    cases call with
    | reserve name => exact List.nil_sublist _
    | unique options key parent => exact List.Sublist.refl _

/-- **A registry always finds a name that is free.** Whatever is in use, the search for a number
ends, and the name that is given to a struct is the one that the rules say, was free, and is all
that is taken. So whatever calls follow each other, no name is taken twice or was in use before
them, and the names that are given are among those that are taken. -/
theorem uniqueName_takes_free (registry : NameRegistry) :
    (∀ options key parent, WellFounded (registry.CountsUp
        (identifier parent ++ structName options key)) ∧
      (∀ name, registry.IsNameFor (structName options key) parent name ↔
        (registry.uniqueName options key parent).1 = name) ∧
      (registry.uniqueName options key parent).1 ∉ registry.reserved ∧
      (registry.uniqueName options key parent).2 =
        ⟨(registry.uniqueName options key parent).1 :: registry.reserved, registry.shared⟩) ∧
    ∀ calls, (registry.answers given? calls).Sublist (registry.answers taken? calls) ∧
      (registry.answers taken? calls).Nodup ∧
      (registry.answers taken? calls).Disjoint registry.reserved ∧
      registry.afterAll calls =
        ⟨(registry.answers taken? calls).reverse ++ registry.reserved, registry.shared⟩ := by
  refine ⟨fun options key parent => ⟨registry.countsUp_wellFounded _, fun name => ?_,
    registry.uniqueName_free options key parent, rfl⟩, fun calls =>
    ⟨registry.given_sublist_taken calls, registry.taken_nodup calls⟩⟩
  have hgiven := registry.freshName_isNameFor (structName options key) parent
  exact ⟨fun h => hgiven.unique h, fun h => h ▸ hgiven⟩

/-- A name that is shared is given behind its parents, and with numbers where it still is in use. -/
example : answers given? (ofShared ["Config"])
    [.unique {} "config" "service", .reserve "ServiceConfig2", .unique {} "config" "service",
      .unique {} "image" "Demo"] = ["ServiceConfig", "ServiceConfig3", "ImageSpec"] := by
  decide +kernel

end ChartSchema.NameRegistry
