import Crossing.EgoLane
import Crossing.Proofs.StopLineOrder

/-!
# When the vehicle has a lane

`EgoLane.ofPath` gives the lanes of the vehicle around an intersection, or none.  Here is what
decides which, as long as lanelets can be laid along the path at all (`Laid`).

**What is looked at.**  The vehicle has a lane exactly if there is a range of samples in conflict.
It begins where the path is first inside one area, and ends where the path is last inside one of
several; `InConflict` says without any search when that leaves a range.  If the one area is among
the several, the path only has to enter it before the end of the intersection
(`inConflict_of_mem`).

**Which areas these are.**  Without a first watched area they are the conflicting ones, and then
the vehicle has a lane if the path enters the first conflicting area.  With one they are the
watched ones, and the conflicting areas are not looked at any more (`ofPath_watched`).  The first
watched area may be known from earlier, and neither it nor the areas watched now need to lie on the
path; so a path that does enter the first conflicting area may be left without a lane
(`not_forall_ofPath_isSome`).
-/

namespace Crossing.EgoLane

variable {K : Type} [Scalar K] {s : SampledPath K} {width : Distance K} {i j closest : Nat}
  {first area : Inside K} {all conflicting attention : List (Inside K)} {map : RoadMap K}
  {onPath : List LaneletId} {range : Nat × Nat}

/-! ## Lanelets along the path -/

/-- **There is a lanelet along every range of samples** that is not empty. -/
def Laid (s : SampledPath K) (width : Distance K) : Prop :=
  ∀ i j, i < j → j < s.path.size → ∃ l, between s i j width = .ok (some l)

lemma between_of_le (h : j ≤ i) : between s i j width = .ok none := if_pos (by simp [h])

lemma between_of_size_le (h : s.path.size ≤ j) : between s i j width = .ok none :=
  if_pos (by simp [h])

namespace Laid

variable (hlaid : Laid s width)
include hlaid

lemma exists_between (i j : Nat) : ∃ o, between s i j width = .ok o := by
  by_cases hempty : j ≤ i
  · exact ⟨none, between_of_le hempty⟩
  · by_cases hoff : s.path.size ≤ j
    · exact ⟨none, between_of_size_le hoff⟩
    · obtain ⟨l, hl⟩ := hlaid i j (Nat.lt_of_not_le hempty) (Nat.lt_of_not_le hoff)
      exact ⟨some l, hl⟩

lemma exists_laneAfter : ∃ next, laneAfter s width = .ok next := by
  unfold laneAfter
  dsimp only
  split
  · next hinside =>
    have hbound : s.interval.2 < s.path.size := by omega
    obtain ⟨w, hw⟩ := Path.exists_point hbound
    rw [hw]
    dsimp only [bind, Except.bind]
    split
    · exact ⟨none, rfl⟩
    · split
      · exact ⟨none, rfl⟩
      · exact hlaid.exists_between _ _
  · exact ⟨none, rfl⟩

/-- There are lanelets along the part in conflict unless it ends before it begins, or consists of
the last sample alone. -/
lemma exists_conflictLanes (hrange : range.2 ≤ s.interval.2) (hlast : s.interval.2 < s.path.size) :
    ∃ lanes, conflictLanes s range width = .ok lanes ∧
      (lanes.isSome = true ↔ range.1 ≤ range.2 ∧ range.1 < s.interval.2) := by
  unfold conflictLanes
  dsimp only
  generalize hfinish :
    (if range.1 = range.2 && range.2 < s.interval.2 then range.2 + 1 else range.2) = finish
  have hbound : finish ≤ s.interval.2 ∧
      (range.1 < finish ↔ range.1 ≤ range.2 ∧ range.1 < s.interval.2) := by
    rw [← hfinish]
    split
    · next hsingle =>
      simp only [Bool.and_eq_true, decide_eq_true_eq] at hsingle
      omega
    · next hsingle =>
      simp only [Bool.and_eq_true, decide_eq_true_eq] at hsingle
      omega
  rw [← hbound.2]
  by_cases hwide : range.1 < finish
  · obtain ⟨conflict, hconflict⟩ := hlaid range.1 finish hwide (by omega)
    rw [hconflict]
    dsimp only [bind, Except.bind]
    split
    · obtain ⟨rest, hrest⟩ := hlaid.exists_between finish s.interval.2
      rw [hrest]
      exact ⟨some (conflict :: rest.toList), rfl, by simp [hwide]⟩
    · exact ⟨some [conflict], rfl, by simp [hwide]⟩
  · rw [between_of_le (Nat.le_of_not_lt hwide)]
    exact ⟨none, rfl, by simp [hwide]⟩

end Laid

/-! ## The range in conflict -/

/-- **The path is in conflict**: before the end of the intersection it is inside the first area, and
there or further on inside one of all areas. -/
def InConflict (s : SampledPath K) (first : Inside K) (all : List (Inside K)) : Prop :=
  ∃ i j, i ≤ j ∧ i < s.interval.2 ∧ s.path.InsideAt s.interval first i ∧
    ∃ area ∈ all, s.path.InsideAt s.interval area j

/-- The path enters an area before the end of the intersection. -/
def EntersEarly (s : SampledPath K) (area : Inside K) : Prop :=
  ∃ i < s.interval.2, s.path.InsideAt s.interval area i

omit [Scalar K] in
/-- Where the path is inside one of all areas, it is in conflict. -/
lemma inConflict_of_mem (h : first ∈ all) : InConflict s first all ↔ EntersEarly s first := by
  constructor
  · rintro ⟨i, -, -, hi, hinside, -⟩
    exact ⟨i, hi, hinside⟩
  · rintro ⟨i, hi, hinside⟩
    exact ⟨i, i, Nat.le_refl i, hi, hinside, first, h, hinside⟩

omit [Scalar K] in
/-- A search for the range ends, and gives one that begins early enough and not behind its end
exactly if the path is in conflict. -/
lemma exists_conflictRange (hfirst : s.path.Decides first) (hall : ∀ a ∈ all, s.path.Decides a) :
    ∃ found, conflictRange s first all none [] = .ok found ∧
      (∀ range, found = some range → range.2 ≤ s.interval.2) ∧
      (InConflict s first all ↔
        ∃ range, found = some range ∧ range.1 ≤ range.2 ∧ range.1 < s.interval.2) := by
  obtain ⟨start, hstart⟩ := Path.exists_firstInside hfirst s.interval true
  obtain ⟨finish, hfinish⟩ := Path.exists_firstInsideAny hall s.interval false
  simp only [conflictRange, hstart]
  cases start with
  | none =>
      refine ⟨none, rfl, by simp, ?_⟩
      have hnone := Path.firstInside_eq_none hstart
      constructor
      · rintro ⟨i, -, -, -, hinside, -⟩
        exact absurd hinside (hnone i)
      · rintro ⟨range, h, -⟩
        cases h
  | some start =>
      have hbegin := Path.insideAt_of_firstInside hstart
      dsimp only [bind, Except.bind]
      rw [hfinish]
      cases finish with
      | none =>
          refine ⟨none, rfl, by simp, ?_⟩
          constructor
          · rintro ⟨-, j, -, -, -, area, harea, hinside⟩
            exact absurd ⟨j, hinside⟩ (Path.not_enters_of_any hfinish area harea)
          · rintro ⟨range, h, -⟩
            cases h
      | some finish =>
          obtain ⟨finish, k⟩ := finish
          obtain ⟨area, harea, hend⟩ := Path.insideAt_of_any hfinish
          refine ⟨some (start, finish), rfl, ?_, ?_⟩
          · rintro range ⟨⟩
            exact hend.le_last
          constructor
          · rintro ⟨i, j, hij, hi, hinside, area, harea, hinside'⟩
            have hle := Path.le_of_forward hstart hinside
            have hge := Path.ge_of_any_backward hfinish harea hinside'
            exact ⟨(start, finish), rfl, by dsimp only; omega, by dsimp only; omega⟩
          · rintro ⟨range, ⟨⟩, hle, hlt⟩
            exact ⟨start, finish, hle, hlt, hbegin, area, List.mem_of_getElem? harea, hend⟩

/-! ## When there is a lane -/

/-- With a first watched area, the watched areas take the place of the conflicting ones. -/
lemma ofPath_watched :
    ofPath map onPath s first conflicting (some area) attention closest width =
      ofPath map onPath s area attention none [] closest width := rfl

lemma exists_ofPath (map : RoadMap K) (onPath : List LaneletId)
    (hlast : s.interval.2 < s.path.size) (hwide : s.interval.1 < s.interval.2)
    (hclosest : closest < s.interval.2) (hlaid : Laid s width) (hfirst : s.path.Decides first)
    (hall : ∀ a ∈ all, s.path.Decides a) :
    ∃ lane, ofPath map onPath s first all none [] closest width = .ok lane ∧
      (lane.isSome = true ↔ InConflict s first all) := by
  obtain ⟨entry, hentry⟩ : ∃ entry : Option (Lanelet K),
      (if s.interval.1 < closest then between s s.interval.1 closest width else pure none) =
        .ok entry := by
    split
    · exact hlaid.exists_between _ _
    · exact ⟨none, rfl⟩
  obtain ⟨toExit, hexit⟩ := hlaid (max closest s.interval.1) s.interval.2 (by omega) hlast
  obtain ⟨next, hnext⟩ := hlaid.exists_laneAfter
  obtain ⟨found, hfound, hend, hconflict⟩ := exists_conflictRange hfirst hall
  unfold ofPath
  dsimp only
  rw [← apply_ite (fun x => x >>= _), hentry, hexit, hnext, hfound, hconflict]
  cases found with
  | none => exact ⟨none, rfl, by simp⟩
  | some range =>
      obtain ⟨lanes, hlanes, hsome⟩ := hlaid.exists_conflictLanes (hend range rfl) hlast
      dsimp only [bind, Except.bind]
      rw [hlanes]
      refine ⟨_, rfl, ?_⟩
      rw [Option.isSome_map, hsome]
      simp

/-- **When the vehicle has a lane.**  Let the interval lie on the path, the vehicle be before its
end, lanelets be laid along the path, and the first conflicting area be one of the conflicting ones.
Then, as long as no first watched area is known, the vehicle has a lane exactly if the path enters
the first conflicting area before the end of the interval.  Once one is known, it has a lane exactly
if the path is in conflict with the watched areas, whether or not it enters a conflicting one. -/
theorem ofPath_isSome_iff (map : RoadMap K) (onPath : List LaneletId)
    (attention : List (Inside K)) (closest : Nat) {watched : Option (Inside K)}
    (hwide : s.interval.1 < s.interval.2) (hlast : s.interval.2 < s.path.size)
    (hclosest : closest < s.interval.2) (hlaid : Laid s width) (hmem : first ∈ conflicting)
    (hconflicting : ∀ a ∈ conflicting, s.path.Decides a)
    (hwatched : ∀ a, watched = some a → s.path.Decides a)
    (hattention : ∀ a ∈ attention, s.path.Decides a) :
    ∃ lane, ofPath map onPath s first conflicting watched attention closest width = .ok lane ∧
      (watched = none → (lane.isSome = true ↔ EntersEarly s first)) ∧
      ∀ area, watched = some area → (lane.isSome = true ↔ InConflict s area attention) := by
  cases watched with
  | none =>
      obtain ⟨lane, hlane, hsome⟩ := exists_ofPath map onPath hlast hwide hclosest
        hlaid (hconflicting first hmem) hconflicting
      refine ⟨lane, hlane, fun _ => hsome.trans (inConflict_of_mem hmem), ?_⟩
      rintro area ⟨⟩
  | some area =>
      obtain ⟨lane, hlane, hsome⟩ := exists_ofPath map onPath hlast hwide hclosest
        hlaid (hwatched area rfl) hattention
      refine ⟨lane, hlane, by simp, ?_⟩
      rintro _ ⟨⟩
      exact hsome

/-! ## A path that leaves no lane

A straight path of four metres with a sample each metre, all of it in the intersection.  It is
inside the conflicting area two metres after its start.  The first watched area is known from
earlier and lies far ahead.
-/

def shortDrive : SampledPath Rat where
  path := ⟨(List.range 5).map fun i => ⟨⟨⟨i, 0⟩, ⟨0⟩⟩, ⟨5⟩, [⟨2⟩]⟩⟩
  spacing := ⟨1⟩
  lane := ⟨2⟩
  associated := IdSet.ofList [⟨2⟩]
  interval := (0, 4)

def emptyMap : RoadMap Rat := ⟨[], [], default⟩

/-- The lanes along the short drive, with a first watched area or without one. -/
def laneOfShortDrive (watched : Option (Inside Rat)) : Outcome Rat (Option (EgoLane Rat)) :=
  ofPath emptyMap [] shortDrive (StopLines.ahead 1.5 2.5) [StopLines.ahead 1.5 2.5] watched
    watched.toList 0 ⟨2⟩

/-- What is evaluated about the drive: a lane between any two samples, and where it is inside the
area. -/
lemma shortDrive_evaluated :
    (∀ j < shortDrive.path.size, ∀ i < j,
      ((between shortDrive i j ⟨2⟩).toOption.join.map fun _ => ()) = some ()) ∧
    StopLines.ahead 1.5 2.5 shortDrive.path.points[2].position = .ok true :=
  ⟨by decide +kernel, by decide +kernel⟩

lemma laid_shortDrive : Laid shortDrive ⟨2⟩ := by
  intro i j hij hj
  obtain ⟨l, hl, -⟩ := Outcome.exists_of_toOption (shortDrive_evaluated.1 j hj i hij)
  exact ⟨l, hl⟩

lemma decides_shortDrive {inside : Inside Rat}
    (h : ∀ w ∈ shortDrive.path.points, (inside w.position).isOk = true) :
    shortDrive.path.Decides inside := fun w hw => ⟨_, Outcome.eq_ok_getD (h w hw) false⟩

lemma entersEarly_shortDrive : EntersEarly shortDrive (StopLines.ahead 1.5 2.5) :=
  ⟨2, by decide, shortDrive.path.points[2], rfl, by decide, by decide, shortDrive_evaluated.2⟩

/-- Without a first watched area there is a lane; with one that is not on the path there is
none. -/
theorem ofPath_isSome_iff_shortDrive :
    (∃ lane, laneOfShortDrive none = .ok (some lane)) ∧
      laneOfShortDrive (some (StopLines.ahead 100 110)) = .ok none := by
  have hnear : shortDrive.path.Decides (StopLines.ahead 1.5 2.5) :=
    decides_shortDrive (by decide +kernel)
  have hfar : shortDrive.path.Decides (StopLines.ahead 100 110) :=
    decides_shortDrive (by decide +kernel)
  have hlane (watched : Option (Inside Rat))
      (hwatched : ∀ a, watched = some a → shortDrive.path.Decides a) :=
    ofPath_isSome_iff emptyMap [] watched.toList 0 (by decide) (by decide) (by decide)
      laid_shortDrive (List.mem_singleton_self (StopLines.ahead 1.5 2.5))
      (by simpa using hnear) hwatched (by simpa using hwatched)
  constructor
  · obtain ⟨lane, hok, hsome, -⟩ := hlane none (by simp)
    obtain ⟨lane, rfl⟩ := Option.isSome_iff_exists.mp ((hsome rfl).mpr entersEarly_shortDrive)
    exact ⟨lane, hok⟩
  · obtain ⟨lane, hok, -, hsome⟩ := hlane (some (StopLines.ahead 100 110)) (by simpa using hfar)
    have hout : ∀ w ∈ shortDrive.path.points,
        StopLines.ahead 100 110 w.position = .ok false := by decide +kernel
    cases lane with
    | none => exact hok
    | some lane =>
        obtain ⟨i, -, -, -, ⟨w, hw, -, -, htrue⟩, -⟩ := (hsome _ rfl).mp rfl
        rw [hout w (List.mem_of_getElem? hw)] at htrue
        cases htrue

/-- **A path that enters the first conflicting area may have no lane**, although all else is as it
should be. -/
theorem not_forall_ofPath_isSome :
    ¬ ∀ (map : RoadMap Rat) (onPath : List LaneletId) (s : SampledPath Rat) (first : Inside Rat)
      (conflicting : List (Inside Rat)) (watched : Option (Inside Rat))
      (attention : List (Inside Rat)) (closest : Nat) (width : Distance Rat),
      s.interval.1 < s.interval.2 → s.interval.2 < s.path.size → closest < s.interval.2 →
      Laid s width → first ∈ conflicting → EntersEarly s first →
      ∃ lane, ofPath map onPath s first conflicting watched attention closest width =
        .ok (some lane) := by
  intro h
  obtain ⟨lane, hlane⟩ := h emptyMap [] shortDrive (StopLines.ahead 1.5 2.5)
    [StopLines.ahead 1.5 2.5] (some (StopLines.ahead 100 110)) [StopLines.ahead 100 110] 0 ⟨2⟩
    (by decide) (by decide) (by decide) laid_shortDrive (List.mem_singleton_self _)
    entersEarly_shortDrive
  have hnone : Option.isSome <$> laneOfShortDrive (some (StopLines.ahead 100 110)) = .ok false := by
    decide +kernel
  obtain ⟨lane', hlane', hsome⟩ := Outcome.map_eq_ok.mp hnone
  cases hlane.symm.trans hlane'
  cases hsome

end Crossing.EgoLane
