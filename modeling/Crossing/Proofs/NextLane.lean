import Crossing.Proofs.EgoLane
import Crossing.Proofs.LaneRuns

/-!
# The lane behind the intersection

Where the path leaves the intersection it comes onto another lanelet, and `EgoLane.next` is laid
along a run of samples on that lanelet.  Which run, the lanelet alone decides: it is the first one
anywhere on the path (`laneAfter_eq_some`).

**It is the run behind the intersection only if the path was not there before.**  A path that was
on the lanelet and left it, before it comes to the end of the intersection, has an earlier run, and
`next` is laid along that (`next_laid_iff`).  A vehicle that drives around a block and comes back to
the lanelet where it started is such a case; its next lane is the one that it started on
(`not_forall_next_behind`).
-/

namespace Crossing.EgoLane

variable {K : Type} [Scalar K] {s : SampledPath K} {width : Distance K} {map : RoadMap K}
  {onPath : List LaneletId} {first : Inside K} {conflicting attention : List (Inside K)}
  {watched : Option (Inside K)} {closest : Nat} {e : EgoLane K} {l : Lanelet K}

/-- **Where a lane behind the intersection comes from.** -/
lemma laneAfter_eq_some (h : laneAfter s width = .ok (some l)) :
    ∃ w id i j, s.path.points[s.interval.2]? = some w ∧ w.lanes.head? = some id ∧
      s.path.laneInterval (IdSet.ofList [id]) = some (i, j) ∧
      between s i j width = .ok (some l) := by
  unfold laneAfter at h
  dsimp only at h
  split at h
  · obtain ⟨w, hw, h⟩ := Outcome.bind_eq_ok.mp h
    cases hhead : w.lanes.head? with
    | none =>
        simp only [hhead] at h
        cases h
    | some id =>
        simp only [hhead] at h
        cases hinterval : s.path.laneInterval (IdSet.ofList [id]) with
        | none =>
            simp only [hinterval] at h
            cases h
        | some range =>
            simp only [hinterval] at h
            have hpoint := Outcome.demand_eq_ok.mp hw
            exact ⟨w, id, range.1, range.2, hpoint, hhead, hinterval, h⟩
  · cases h

lemma laneAfter_of_ofPath
    (h : ofPath map onPath s first conflicting watched attention closest width = .ok (some e)) :
    laneAfter s width = .ok e.next := by
  unfold ofPath at h
  dsimp only at h
  rw [← apply_ite (fun x => x >>= _)] at h
  obtain ⟨entry, -, h⟩ := Outcome.bind_eq_ok.mp h
  obtain ⟨toExit, -, h⟩ := Outcome.bind_eq_ok.mp h
  cases toExit with
  | none => cases h
  | some toExit =>
      obtain ⟨next, hnext, h⟩ := Outcome.bind_eq_ok.mp h
      obtain ⟨range, -, h⟩ := Outcome.bind_eq_ok.mp h
      cases range with
      | none => cases h
      | some range =>
          obtain ⟨lanes, -, h⟩ := Outcome.bind_eq_ok.mp h
          obtain ⟨conflictAndRest, -, rfl⟩ := Option.map_eq_some_iff.mp (Except.ok.inj h)
          exact hnext

omit [Scalar K] in
/-- A waypoint is on the first of its lanelets. -/
lemma onAt_of_head? {path : Path K} {w : Waypoint K} {id : LaneletId} {n : Nat}
    (hw : path.points[n]? = some w) (hhead : w.lanes.head? = some id) :
    path.OnAt (IdSet.ofList [id]) n := by
  refine ⟨w, hw, List.any_eq_true.mpr ⟨id, List.mem_of_head? hhead, ?_⟩⟩
  simp [IdSet.mem_ofList]

/-- **Where the lane behind the intersection is laid.**  If there is one, it is laid along the first
run of samples on the lanelet that the path is on when it leaves the intersection.  That run goes
through the end of the intersection exactly if the path was not on the lanelet and off it again
before; if it was, the run ends before the end of the intersection. -/
theorem next_laid_iff
    (h : ofPath map onPath s first conflicting watched attention closest width = .ok (some e))
    (hnext : e.next = some l) :
    ∃ w id i j, s.path.points[s.interval.2]? = some w ∧ w.lanes.head? = some id ∧
      s.path.laneInterval (IdSet.ofList [id]) = some (i, j) ∧
      between s i j width = .ok (some l) ∧
      (i ≤ s.interval.2 ∧ s.interval.2 ≤ j ↔
        ¬ s.path.LeftBefore (IdSet.ofList [id]) s.interval.2) ∧
      (s.path.LeftBefore (IdSet.ofList [id]) s.interval.2 → j < s.interval.2) := by
  have hafter := laneAfter_of_ofPath h
  rw [hnext] at hafter
  obtain ⟨w, id, i, j, hw, hhead, hinterval, hlaid⟩ := laneAfter_eq_some hafter
  obtain ⟨hcovered, hearlier⟩ := Path.covered_iff hinterval (onAt_of_head? hw hhead)
  exact ⟨w, id, i, j, hw, hhead, hinterval, hlaid, hcovered, hearlier⟩

/-! ## The boundary of a lanelet along the path -/

/-- The left boundary of the lanelet along a range of samples. -/
def leftBetween (s : SampledPath K) (start finish : Nat) (width : Distance K) :
    Outcome K (Polyline K) := do
  match ((s.path.points.drop start).take (finish + 1 - start)).map Waypoint.position with
  | [] => Outcome.breach .nothingToChoose
  | first :: rest =>
    let centre ← Polyline.ofThinned (first :: (← guidePoints first Distance.zero rest))
    centre.shiftLeft (← width.half)

lemma leftBetween_of_between {i j : Nat} (h : between s i j width = .ok (some l)) :
    leftBetween s i j width = .ok l.left := by
  unfold between at h
  split at h
  · cases h
  · dsimp only at h
    unfold leftBetween
    generalize ((s.path.points.drop i).take (j + 1 - i)).map Waypoint.position = points at h ⊢
    cases points with
    | nil => cases h
    | cons first rest =>
        obtain ⟨guide, hguide, h⟩ := Outcome.bind_eq_ok.mp h
        have halong := Outcome.eq_ok_of_tolerate h
        obtain ⟨centre, hcentre, halong⟩ := Outcome.bind_eq_ok.mp halong
        obtain ⟨half, hhalf, halong⟩ := Outcome.bind_eq_ok.mp halong
        obtain ⟨left, hleft, halong⟩ := Outcome.bind_eq_ok.mp halong
        obtain ⟨right, -, halong⟩ := Outcome.bind_eq_ok.mp halong
        obtain ⟨line, -, halong⟩ := Outcome.bind_eq_ok.mp halong
        obtain ⟨region, -, halong⟩ := Outcome.bind_eq_ok.mp halong
        cases halong
        simp only [hguide, hcentre, hhalf, bind, Except.bind]
        exact hleft

/-! ## Around the block

The vehicle starts at the end of the lanelet behind the intersection, drives around the block and
through the intersection, and comes back onto that lanelet, but not as far as where it started.
-/

def blockPath : Path Rat :=
  let at_ (x y : Rat) (lane : Int) : Waypoint Rat := ⟨⟨⟨x, y⟩, ⟨0⟩⟩, ⟨5⟩, [⟨lane⟩]⟩
  ⟨[at_ 6 0 3, at_ 12 0 4, at_ 12 6 4, at_ (-6) 6 4, at_ (-6) 0 2, at_ 0 0 3, at_ 6 0 3]⟩

/-- The drive with a sample every six metres; the last but one is the first behind the
intersection. -/
def blockDrive : SampledPath Rat :=
  (SampledPath.ofPath ⟨2⟩ (IdSet.ofList [⟨2⟩]) blockPath ⟨6⟩).toOption.join.getD shortDrive

def blockArea : Inside Rat := StopLines.ahead (-7) (-5)

/-- The lanes along the drive. -/
def laneOfBlockDrive : Outcome Rat (Option (EgoLane Rat)) :=
  ofPath emptyMap [] blockDrive blockArea [blockArea] none [] 0 ⟨2⟩

/-- What is evaluated about the drive: its samples, and the next lane along them. -/
lemma blockDrive_evaluated :
    SampledPath.ofPath ⟨2⟩ (IdSet.ofList [⟨2⟩]) blockPath ⟨6⟩ = .ok (some blockDrive) ∧
      (laneOfBlockDrive.toOption.join.map fun e => e.next.map fun l => l.left.points) =
        some (some [⟨6, 1⟩, ⟨12, 1⟩]) :=
  ⟨by decide +kernel, by decide +kernel⟩

lemma ofPath_blockPath :
    SampledPath.ofPath ⟨2⟩ (IdSet.ofList [⟨2⟩]) blockPath ⟨6⟩ = .ok (some blockDrive) :=
  blockDrive_evaluated.1

lemma exists_laneOfBlockDrive : ∃ e l, laneOfBlockDrive = .ok (some e) ∧ e.next = some l ∧
    l.left.points = [⟨6, 1⟩, ⟨12, 1⟩] := by
  obtain ⟨e, he, hmap⟩ := Outcome.exists_of_toOption blockDrive_evaluated.2
  obtain ⟨l, hl, hleft⟩ := Option.map_eq_some_iff.mp hmap
  exact ⟨e, l, he, hl, hleft⟩

/-- Around the block, the next lane is laid before the intersection. -/
theorem next_laid_iff_blockDrive : ∃ e l i j, laneOfBlockDrive = .ok (some e) ∧
    e.next = some l ∧ between blockDrive i j ⟨2⟩ = .ok (some l) ∧ j < blockDrive.interval.2 := by
  obtain ⟨e, l, he, hnext, -⟩ := exists_laneOfBlockDrive
  obtain ⟨w, id, i, j, hw, hhead, -, hlaid, -, hearlier⟩ := next_laid_iff he hnext
  have hlane : blockDrive.path.points[blockDrive.interval.2]?.bind (·.lanes.head?) = some ⟨3⟩ := by
    decide +kernel
  rw [hw] at hlane
  cases hhead.symm.trans hlane
  -- the vehicle starts on the lanelet and has left it at the next sample
  have hleft : blockDrive.path.LeftBefore (IdSet.ofList [⟨3⟩]) blockDrive.interval.2 := by
    refine ⟨0, 1, by decide, by decide +kernel, ?_, ?_⟩
    · exact (Path.onAt_iff (by decide +kernel)).mpr (by decide +kernel)
    · exact (Path.onAt_iff (by decide +kernel)).not.mpr (by decide +kernel)
  exact ⟨e, l, i, j, he, hnext, hlaid, hearlier hleft⟩

/-- **The next lane may be one that the vehicle has left before the intersection**, and then it is
laid along no range of samples through the end of the intersection. -/
theorem not_forall_next_behind :
    ¬ ∀ (lane : LaneletId) (associated : IdSet) (path : Path Rat) (spacing : Distance Rat)
      (s : SampledPath Rat) (map : RoadMap Rat) (onPath : List LaneletId) (first : Inside Rat)
      (conflicting : List (Inside Rat)) (watched : Option (Inside Rat))
      (attention : List (Inside Rat)) (closest : Nat) (width : Distance Rat) (e : EgoLane Rat)
      (l : Lanelet Rat),
      SampledPath.ofPath lane associated path spacing = .ok (some s) →
      ofPath map onPath s first conflicting watched attention closest width = .ok (some e) →
      e.next = some l →
      ∃ i j, i ≤ s.interval.2 ∧ s.interval.2 ≤ j ∧ between s i j width = .ok (some l) := by
  intro h
  obtain ⟨e, l, he, hnext, hleft⟩ := exists_laneOfBlockDrive
  obtain ⟨i, j, hi, hj, hlaid⟩ := h ⟨2⟩ _ blockPath ⟨6⟩ blockDrive emptyMap [] blockArea
    [blockArea] none [] 0 ⟨2⟩ e l ofPath_blockPath he hnext
  have hlast : blockDrive.interval.2 = 7 := by decide +kernel
  have hsize : blockDrive.path.size = 9 := by decide +kernel
  rw [hlast] at hi hj
  obtain ⟨k, rfl⟩ := Nat.exists_eq_add_of_le hj
  -- no lanelet through the end of the intersection goes where the vehicle started
  have hother : ∀ k < 2, ∀ i < 8,
      (leftBetween blockDrive i (7 + k) ⟨2⟩).toOption.map Polyline.points ≠
        some [⟨6, 1⟩, ⟨12, 1⟩] := by decide +kernel
  by_cases hoff : blockDrive.path.size ≤ 7 + k
  · rw [between_of_size_le hoff] at hlaid
    cases hlaid
  · refine hother k (by omega) i (Nat.lt_succ_of_le hi) ?_
    rw [leftBetween_of_between hlaid]
    exact congrArg some hleft

end Crossing.EgoLane
