import ChartSchema.Regex.Plan
/-!
# Matching

A `Spot` is a place in a text. `Regex.ends r spot` lists the spots where a match of `r` that
starts at a spot can end, the ways to match in the order in which they are tried, each spot once.
This takes all expressions but those that depend on what groups matched.

`Plan.run` takes those too. It goes through the choices of a plan one by one, with the groups that
were reached so far, and goes back to the last choice where a way fails. It goes back only so
often: an expression can have more ways to fail than can be gone through.

An expression matches a text if a match starts anywhere in it; the edges of the text tie it to
the ends.
-/

namespace ChartSchema.Regex

/-- A place in a text. -/
structure Spot where
  /-- How many characters are before it. -/
  index : Nat
  /-- The characters before it, the nearest one first. -/
  before : List Char
  /-- The characters behind it. -/
  rest : List Char
  deriving Repr

namespace Spot

/-- The start of a text. -/
def start (text : List Char) : Spot := ⟨0, [], text⟩

/-- The spot behind the next character, if it belongs to a set. -/
def step? (spot : Spot) (set : CharSet) : Option Spot :=
  match spot.rest with
  | c :: rest => if set.contains c then some ⟨spot.index + 1, c :: spot.before, rest⟩ else none
  | [] => none

/-- The spot some characters before, if there are so many. -/
def back? : (count : Nat) → Spot → Option Spot
  | 0, spot => some spot
  | count + 1, ⟨index, c :: before, rest⟩ => back? count ⟨index - 1, before, c :: rest⟩
  | _ + 1, ⟨_, [], _⟩ => none

/-- The spot behind some characters, if they come next. -/
def through? : (cs : List Char) → Spot → Option Spot
  | [], spot => some spot
  | c :: cs, spot => (spot.step? (.single c)).bind (through? cs)

/-- Whether a character next to a spot belongs to a word. -/
def inWord (c? : Option Char) : Bool := (c?.map CharSet.word.contains).getD false

/-- Whether a spot is at a place that an expression asks for. -/
def isAt (spot : Spot) (p : Place) : Bool :=
  let wordBefore := inWord spot.before.head?
  let wordBehind := inWord spot.rest.head?
  match p with
  | .textStart => spot.before.isEmpty
  | .textEnd => spot.rest.isEmpty
  | .lineStart => spot.before.isEmpty || spot.before.head? == some '\n'
  | .lineEnd => spot.rest.isEmpty || spot.rest.head? == some '\n'
  | .wordEdge => wordBefore != wordBehind
  | .noWordEdge => wordBefore == wordBehind
  | .wordStart => !wordBefore && wordBehind
  | .wordEnd => wordBefore && !wordBehind

end Spot

/-! ## Without groups -/

/-- The spots of a list, each one where it comes first. -/
def distinct (spots : List Spot) : List Spot :=
  (spots.foldl (fun (found : List Nat × List Spot) spot =>
    if found.1.contains spot.index then found else (spot.index :: found.1, spot :: found.2))
    ([], [])).2.reverse

/-- The spots after exactly `count` steps. -/
def after (step : Spot → List Spot) : (count : Nat) → List Spot → List Spot
  | 0, spots => spots
  | count + 1, spots =>
    let next := distinct (spots.flatMap step)
    if next.map (·.index) = spots.map (·.index) then spots else after step count next

/-- What is known while repetitions are explored: the spots that were reached with the number of
repetitions that are left, and the spots found, the last one first. -/
structure Explored where
  /-- The spots that need not be explored again, with what was left. -/
  seen : List (Nat × Nat)
  /-- The spots found. -/
  found : List Spot

/-- The exploration with one more spot found. -/
def Explored.add (e : Explored) (spot : Spot) : Explored :=
  if e.found.any (·.index == spot.index) then e else { e with found := spot :: e.found }

/-- The spots after at most `left` steps from a spot, or after any number if it is none. A step that
leads nowhere ends the repetition there; without a bound only the first one does, and later ones are
not taken. -/
def explore (step : Spot → List Spot) (greedy bounded : Bool) :
    (fuel : Nat) → (left? : Option Nat) → (first : Bool) → Spot → Explored → Explored
  | 0, _, _, _, e => e
  | fuel + 1, left?, first, spot, e =>
    let key := (spot.index, left?.getD 0)
    if e.seen.contains key then e
    else
      let e := { e with seen := key :: e.seen }
      let e := if greedy then e else e.add spot
      let e :=
        if left? = some 0 then e
        else (step spot).foldl (fun e next =>
          if spot.index < next.index then
            explore step greedy bounded fuel (left?.map (· - 1)) false next e
          else if bounded || first then e.add spot
          else e) e
      if greedy then e.add spot else e

/-- The spots after at least and at most so many steps. A bound that the text cannot reach does not
need to be counted. -/
def repeatedly (step : Spot → List Spot) (least : Nat) (most? : Option Nat) (greedy : Bool)
    (spot : Spot) : List Spot :=
  let walk (bounded first : Bool) (left? : Option Nat) (e : Explored) (next : Spot) : Explored :=
    explore step greedy bounded (next.rest.length + 1) left? first next e
  let all : Explored :=
    match most?, least with
    | some most, _ =>
      let least := min least most
      let left? := if most - least < spot.rest.length then some (most - least) else none
      (after step least [spot]).foldl (walk true false left?) ⟨[], []⟩
    | none, 0 => walk false true none ⟨[], []⟩ spot
    | none, least + 1 =>
      (after step least [spot]).foldl (fun e last =>
        (step last).foldl (fun e next =>
          if last.index < next.index then walk false false none e next else e.add last) e)
        ⟨[], []⟩
  all.found.reverse

/-- The spots where a match that starts at a spot can end, in the order in which they are tried.
There are none for what depends on groups. -/
def ends : Regex → Spot → List Spot
  | .empty, spot => [spot]
  | .char set, spot => (spot.step? set).toList
  | .seq a b, spot => distinct ((a.ends spot).flatMap b.ends)
  | .alt a b, spot => distinct (a.ends spot ++ b.ends spot)
  | .repeated r least most? greedy, spot => repeatedly r.ends least most? greedy spot
  | .place p, spot => if spot.isAt p then [spot] else []
  | .ahead here r, spot => if (r.ends spot).isEmpty != here then [spot] else []
  | .behind here r, spot =>
    let found : Bool := match spot.back? r.length.1 with
      | some before => !(r.ends before).isEmpty
      | none => false
    if found == here then [spot] else []
  | .whole r, spot => (r.ends spot).take 1
  | .group _ r, spot => r.ends spot
  | .reference _, _ | .reached _, _ => []
  | .provided c a b, spot =>
    match c.ends spot with
    | next :: _ => a.ends next
    | [] => b.ends spot

/-! ## With groups -/

/-- A spot, and where the groups reached so far start and end, the last ones first. -/
structure Thread where
  /-- The spot. -/
  spot : Spot
  /-- The starts of groups. -/
  starts : List (Nat × Nat)
  /-- The ends of groups. -/
  ends : List (Nat × Nat)

/-- The text that a group matched, if it was left and not entered again since. -/
def Thread.matched? (text : List Char) (t : Thread) (number : Nat) : Option (List Char) :=
  match t.starts.lookup number, t.ends.lookup number with
  | some first, some last =>
    if first ≤ last then some ((text.drop first).take (last - first)) else none
  | _, _ => none

/-- What going through the ways to match comes to, with the number of times that a choice was gone
back to. -/
inductive Outcome where
  /-- A way led to the end. -/
  | found (retreats : Nat) (t : Thread)
  /-- No way led to the end. -/
  | missed (retreats : Nat)
  /-- There were too many ways that failed. -/
  | exhausted

/-- How often a choice may be gone back to. -/
def maxRetreats : Nat := 1000000

/-- An outcome, or that of the other choice where it missed. -/
def Outcome.orElse (o : Outcome) (other : Nat → Outcome) : Outcome :=
  match o with
  | .missed retreats => if retreats < maxRetreats then other (retreats + 1) else .exhausted
  | o => o

/-- What is done with a thread after so many retreats. -/
abbrev Next := Nat → Thread → Outcome

/-- What a matcher does with a thread, given what is to be done with each way to match; the first
way that leads to the end counts. -/
abbrev Matcher := Nat → Thread → Next → Outcome

/-- A matcher at least and at most so many times, having been used `count` times. If it is watched,
it is not used again where it led nowhere after it was used often enough; `last?` is the spot where
it was used last. -/
def runMany (step : Matcher) (least : Nat) (most? : Option Nat) (greedy watched : Bool)
    (k : Next) : (fuel : Nat) → (count : Nat) → (last? : Option Nat) → Next
  | 0, _, _, retreats, _ => .missed retreats
  | fuel + 1, count, last?, retreats, t =>
    let index := t.spot.index
    if most? = some count then k retreats t
    else if watched && 0 < count && last? == some index then .missed retreats
    else
      let enough := decide (least ≤ count)
      let last? := if enough then some index else last?
      let again (retreats : Nat) : Outcome :=
        step retreats t (runMany step least most? greedy watched k fuel (count + 1) last?)
      if !enough then again retreats
      else if greedy then (again retreats).orElse fun retreats => k retreats t
      else (k retreats t).orElse again

/-- Goes through the ways of a plan that start at a thread, and does `k` with each. A choice inside
something that is looked for ahead or behind stays open, but not inside what is taken as a whole. -/
def Plan.run (text : List Char) : Plan → Matcher
  | .first r, retreats, t, k =>
    match r.ends t.spot with
    | spot :: _ => k retreats { t with spot := spot }
    | [] => .missed retreats
  | .seq a b, retreats, t, k => a.run text retreats t fun retreats u => b.run text retreats u k
  | .alt a b, retreats, t, k =>
    (a.run text retreats t k).orElse fun retreats => b.run text retreats t k
  | .many p least most? greedy watched, retreats, t, k =>
    runMany (p.run text) least most? greedy watched k
      (least + most?.getD 0 + text.length + 2) 0 none retreats t
  | .ahead here p, retreats, t, k =>
    if here then p.run text retreats t fun retreats u => k retreats { u with spot := t.spot }
    else
      match p.run text retreats t .found with
      | .found retreats _ => .missed retreats
      | o => o.orElse fun retreats => k retreats t
  | .behind here count p, retreats, t, k =>
    match t.spot.back? count with
    | some before =>
      if here then
        p.run text retreats { t with spot := before } fun retreats u =>
          k retreats { u with spot := t.spot }
      else
        match p.run text retreats { t with spot := before } .found with
        | .found retreats _ => .missed retreats
        | o => o.orElse fun retreats => k retreats t
    | none =>
      if here then .missed retreats
      else Outcome.orElse (.missed retreats) fun retreats => k retreats t
  | .whole p, retreats, t, k =>
    match p.run text retreats t .found with
    | .found retreats u => k retreats u
    | o => o
  | .group number p, retreats, t, k =>
    p.run text retreats { t with starts := (number, t.spot.index) :: t.starts } fun retreats u =>
      k retreats { u with ends := (number, u.spot.index) :: u.ends }
  | .reference number, retreats, t, k =>
    match (t.matched? text number).bind t.spot.through? with
    | some spot => k retreats { t with spot := spot }
    | none => .missed retreats
  | .reached number, retreats, t, k =>
    if (t.starts.lookup number).isSome then k retreats t else .missed retreats
  | .provided c a b, retreats, t, k =>
    match c.run text retreats t .found with
    | .found retreats u => a.run text retreats u k
    | o => o.orElse fun retreats => b.run text retreats t k

/-! ## Anywhere in a text -/

/-- Whether a test holds at a spot or behind it. -/
def fromSpot (test : Spot → Bool) (index : Nat) (before : List Char) : List Char → Bool
  | [] => test ⟨index, before, []⟩
  | c :: rest =>
    test ⟨index, before, c :: rest⟩ || fromSpot test (index + 1) (c :: before) rest

/-- What going through a plan comes to at a spot or behind it. To go on to the next spot is a
retreat. -/
def Plan.runFrom (text : List Char) (p : Plan) (retreats index : Nat) (before : List Char) :
    List Char → Outcome
  | [] => (p.run text retreats ⟨⟨index, before, []⟩, [(0, index)], []⟩ .found).orElse .missed
  | c :: rest =>
    (p.run text retreats ⟨⟨index, before, c :: rest⟩, [(0, index)], []⟩ .found).orElse
      fun retreats => p.runFrom text retreats (index + 1) (c :: before) rest

/-- The numbers of the groups that an expression refers to. -/
def referred : Regex → List Nat
  | .empty | .char _ | .place _ => []
  | .seq a b | .alt a b => a.referred ++ b.referred
  | .repeated r _ _ _ | .ahead _ r | .behind _ r | .whole r | .group _ r => r.referred
  | .reference number | .reached number => [number]
  | .provided c a b => c.referred ++ a.referred ++ b.referred

/-- Whether an expression matches somewhere in a text. There is no answer if there are too many
ways to try. -/
def matchesIn? (r : Regex) (text : List Char) : Option Bool :=
  let numbers := r.referred
  if r.isHard numbers then
    match (r.plan numbers true .alone).runFrom text 0 0 [] text with
    | .found .. => some true
    | .missed _ => some false
    | .exhausted => none
  else some (fromSpot (fun spot => !(r.ends spot).isEmpty) 0 [] text)

end ChartSchema.Regex
