import Mathlib.Data.List.Basic
import Mathlib.Data.Nat.Find
import Mathlib.Order.Bounds.Defs
import Crossing.Path

/-!
# Where a path runs through lanelets

`Path.laneInterval` searches a path twice, for the first waypoint on some lanelets and for the first
one behind it that is off them again.  Together these are the bounds of the first run through the
lanelets (`Path.FirstRun`), so what is known of an interval is read off the run: that it lies on
the path (`Path.lt_size_of_laneInterval`), when there is none (`Path.laneInterval_eq_none_iff`), and
which waypoints it covers.  `Path.laneInterval_spec` says all of it in terms of the waypoints alone.

**A waypoint on the lanelets is covered by the interval unless the path was on them before and left
them** (`Path.covered_iff`).  Otherwise the interval ends before that waypoint.
-/

namespace Crossing.Path

variable {K : Type} {path : Path K} {ids : IdSet} {i j k n entry stop : Nat}

/-! ## The first run -/

/-- The waypoint at an index is on one of the lanelets. -/
def OnAt (path : Path K) (ids : IdSet) (k : Nat) : Prop :=
  ∃ w, path.points[k]? = some w ∧ w.isOn ids = true

/-- **The first run through some lanelets**: from `entry` on the path is on them, up to `stop`,
where it is not, be it that it ends there. -/
structure FirstRun (path : Path K) (ids : IdSet) (entry stop : Nat) : Prop where
  nonempty : entry < stop
  before : ∀ k < entry, ¬ path.OnAt ids k
  on : ∀ k, entry ≤ k → k < stop → path.OnAt ids k
  ends : ¬ path.OnAt ids stop

lemma lt_size_of_getElem? {w : Waypoint K} (h : path.points[k]? = some w) : k < path.size :=
  (List.getElem?_eq_some_iff.mp h).1

lemma OnAt.lt_size (h : path.OnAt ids k) : k < path.size := by
  obtain ⟨w, hw, -⟩ := h
  exact lt_size_of_getElem? hw

lemma onAt_iff (hk : k < path.points.length) :
    path.OnAt ids k ↔ path.points[k].isOn ids = true := by
  simp [OnAt, List.getElem?_eq_getElem hk]

lemma exists_onAt_iff : (∃ k, path.OnAt ids k) ↔ ∃ w ∈ path.points, w.isOn ids = true := by
  simp only [OnAt, List.mem_iff_getElem?]
  constructor
  · rintro ⟨k, w, hw, hon⟩
    exact ⟨w, ⟨k, hw⟩, hon⟩
  · rintro ⟨w, ⟨k, hw⟩, hon⟩
    exact ⟨k, w, hw, hon⟩

lemma FirstRun.stop_le_size (h : path.FirstRun ids entry stop) : stop ≤ path.size := by
  have hlast := (h.on (stop - 1) (Nat.le_sub_one_of_lt h.nonempty)
    (Nat.sub_one_lt_of_lt h.nonempty)).lt_size
  omega

/-- A run begins where the first search ends. -/
lemma findIdx_isOn (hentry : path.OnAt ids entry) (hbefore : ∀ k < entry, ¬ path.OnAt ids k) :
    path.points.findIdx? (·.isOn ids) = some entry := by
  have hlt := hentry.lt_size
  rw [List.findIdx?_eq_some_iff_getElem]
  refine ⟨hlt, (onAt_iff hlt).mp hentry, fun k hk => ?_⟩
  have hkoff := hbefore k hk
  rwa [onAt_iff (Nat.lt_trans hk hlt)] at hkoff

/-- Where the path is on the lanelets there is a first run. -/
lemma exists_firstRun (h : path.OnAt ids k) : ∃ entry stop, path.FirstRun ids entry stop := by
  classical
  obtain ⟨entry, hentry, hbefore⟩ : ∃ entry, path.OnAt ids entry ∧
      ∀ k < entry, ¬ path.OnAt ids k :=
    ⟨Nat.find ⟨k, h⟩, Nat.find_spec ⟨k, h⟩, fun _ => Nat.find_min ⟨k, h⟩⟩
  -- the path is not on anything behind its end
  have hstop : ∃ stop, entry < stop ∧ ¬ path.OnAt ids stop :=
    ⟨path.size, hentry.lt_size, fun h => Nat.lt_irrefl _ h.lt_size⟩
  obtain ⟨hlt, hoff⟩ := Nat.find_spec hstop
  refine ⟨entry, Nat.find hstop, hlt, hbefore, fun k hle hk => ?_, hoff⟩
  by_contra hkoff
  have hne : k ≠ entry := fun heq => hkoff (heq ▸ hentry)
  exact Nat.find_min hstop hk ⟨by omega, hkoff⟩

/-! ## The interval -/

/-- **The interval of a run**: the waypoint before it, if there is one, and the one behind it or the
last. -/
lemma FirstRun.laneInterval_eq (h : path.FirstRun ids entry stop) :
    path.laneInterval ids =
      if entry - 1 < min stop (path.size - 1) then some (entry - 1, min stop (path.size - 1))
      else none := by
  have hentry := h.on entry (Nat.le_refl _) h.nonempty
  have hstop := h.stop_le_size
  have hsize : path.size = path.points.length := rfl
  rw [laneInterval, findIdx_isOn hentry h.before]
  dsimp only [bind, Option.bind]
  by_cases hend : stop = path.size
  · -- the run reaches the end of the path, so the second search finds nothing
    have hnone : (path.points.drop entry).findIdx? (fun w => !w.isOn ids) = none := by
      rw [List.findIdx?_eq_none_iff]
      intro w hw
      obtain ⟨n, hn, rfl⟩ := List.mem_iff_getElem.mp hw
      rw [List.length_drop] at hn
      have hon := h.on (entry + n) (by omega) (by omega)
      rw [onAt_iff (by omega)] at hon
      simp [hon]
    have hmin : min stop (path.size - 1) = path.size - 1 := by omega
    rw [hnone, hmin]
  · have hsome : (path.points.drop entry).findIdx? (fun w => !w.isOn ids) =
        some (stop - entry) := by
      rw [List.findIdx?_eq_some_iff_getElem]
      have hlt := h.nonempty
      refine ⟨by rw [List.length_drop]; omega, ?_, fun n hn => ?_⟩
      · have hoff := h.ends
        rw [onAt_iff (by omega)] at hoff
        simpa [show entry + (stop - entry) = stop by omega] using hoff
      · have hon := h.on (entry + n) (by omega) (by omega)
        rw [onAt_iff (by omega)] at hon
        simpa using hon
    have hlt := h.nonempty
    have hmin : min stop (path.size - 1) = stop := by omega
    have hadd : entry + (stop - entry) = stop := by omega
    rw [hsome, hmin]
    simp only [hadd]

/-- **Where an interval comes from.** -/
lemma laneInterval_eq_some_iff : path.laneInterval ids = some (i, j) ↔
    ∃ entry stop, path.FirstRun ids entry stop ∧ i = entry - 1 ∧ j = min stop (path.size - 1) ∧
      i < j := by
  constructor
  · intro h
    obtain ⟨k, hk⟩ : ∃ k, path.OnAt ids k := by
      by_contra hnever
      rw [exists_onAt_iff] at hnever
      have hnone : path.points.findIdx? (·.isOn ids) = none :=
        List.findIdx?_eq_none_iff.mpr fun w hw => by simpa using fun hon => hnever ⟨w, hw, hon⟩
      rw [laneInterval, hnone] at h
      cases h
    obtain ⟨entry, stop, hrun⟩ := exists_firstRun hk
    rw [hrun.laneInterval_eq, Option.ite_none_right_eq_some] at h
    obtain ⟨hlt, heq⟩ := h
    cases heq
    exact ⟨entry, stop, hrun, rfl, rfl, hlt⟩
  · rintro ⟨entry, stop, hrun, rfl, rfl, hlt⟩
    rw [hrun.laneInterval_eq, if_pos hlt]

/-- **There is no interval** when no waypoint is on the lanelets, and when the path is a single
waypoint; otherwise there is one. -/
lemma laneInterval_eq_none_iff : path.laneInterval ids = none ↔
    path.size ≤ 1 ∨ ∀ w ∈ path.points, w.isOn ids = false := by
  have hnever : (∀ w ∈ path.points, w.isOn ids = false) ↔ ¬ ∃ k, path.OnAt ids k := by
    rw [exists_onAt_iff]
    simp
  rw [hnever]
  by_cases hon : ∃ k, path.OnAt ids k
  · obtain ⟨k, hk⟩ := hon
    obtain ⟨entry, stop, hrun⟩ := exists_firstRun hk
    have hlt := hrun.nonempty
    have hle := hrun.stop_le_size
    rw [hrun.laneInterval_eq, or_iff_left (not_not_intro ⟨k, hk⟩)]
    simp only [ite_eq_right_iff, reduceCtorEq, imp_false]
    omega
  · refine iff_of_true (Option.eq_none_iff_forall_ne_some.mpr ?_) (Or.inr hon)
    rintro ⟨i, j⟩ h
    obtain ⟨entry, stop, hrun, -⟩ := laneInterval_eq_some_iff.mp h
    exact hon ⟨entry, hrun.on entry (Nat.le_refl _) hrun.nonempty⟩

/-- An interval has two waypoints at least, and they are on the path. -/
lemma lt_size_of_laneInterval {interval : Nat × Nat} (h : path.laneInterval ids = some interval) :
    interval.1 < interval.2 ∧ interval.2 < path.size := by
  obtain ⟨i, j⟩ := interval
  obtain ⟨entry, stop, hrun, -, rfl, hlt⟩ := laneInterval_eq_some_iff.mp h
  have hle := hrun.stop_le_size
  have hnonempty := hrun.nonempty
  exact ⟨hlt, by dsimp only; omega⟩

/-! ## What an interval covers -/

/-- The path was on the lanelets and left them, all before an index. -/
def LeftBefore (path : Path K) (ids : IdSet) (n : Nat) : Prop :=
  ∃ a b, a < b ∧ b < n ∧ path.OnAt ids a ∧ ¬ path.OnAt ids b

/-- **A waypoint on the lanelets belongs to the first run** unless the path left them before it. -/
lemma FirstRun.lt_stop_iff (h : path.FirstRun ids entry stop) (hon : path.OnAt ids n) :
    n < stop ↔ ¬ path.LeftBefore ids n := by
  constructor
  · rintro hlt ⟨a, b, hab, hb, ha, hoff⟩
    have hentry : entry ≤ a := Nat.le_of_not_lt fun hlt => h.before a hlt ha
    exact hoff (h.on b (by omega) (by omega))
  · intro hstay
    by_contra hpast
    have hne : stop ≠ n := fun heq => h.ends (heq ▸ hon)
    exact hstay ⟨entry, stop, h.nonempty, by omega, h.on entry (Nat.le_refl _) h.nonempty, h.ends⟩

/-- **A waypoint on the lanelets is covered by the interval** unless the path left them before it;
then the interval ends before it. -/
lemma covered_iff (h : path.laneInterval ids = some (i, j)) (hon : path.OnAt ids n) :
    (i ≤ n ∧ n ≤ j ↔ ¬ path.LeftBefore ids n) ∧ (path.LeftBefore ids n → j < n) := by
  obtain ⟨entry, stop, hrun, rfl, rfl, -⟩ := laneInterval_eq_some_iff.mp h
  have hentry : entry ≤ n := Nat.le_of_not_lt fun hlt => hrun.before n hlt hon
  have hsize := hon.lt_size
  have hne : stop ≠ n := fun heq => hrun.ends (heq ▸ hon)
  have hmem := hrun.lt_stop_iff hon
  rw [← not_iff_not, not_not] at hmem
  rw [← hmem]
  omega

/-- **Which interval a path has.**  There is none exactly if no waypoint is on the lanelets or the
path is a single waypoint.  Otherwise it begins with the waypoint before the first one on them, or
with the first of all, and ends with the next one that is off them, or with the last of all.  So
it covers the first run and a waypoint on either side of it, where there is one; and whatever comes
back to the lanelets later lies behind it. -/
theorem laneInterval_spec (path : Path K) (ids : IdSet) :
    (path.laneInterval ids = none ↔
      (∀ w ∈ path.points, w.isOn ids = false) ∨ path.size = 1) ∧
    (∀ first, IsLeast {k | path.OnAt ids k} first → path.size ≠ 1 →
      ∃ last, path.laneInterval ids = some (first - 1, last) ∧ first - 1 < last ∧
        last < path.size ∧
        (IsLeast {k | first < k ∧ k < path.size ∧ ¬ path.OnAt ids k} last ∨
          (∀ k, first < k → k < path.size → path.OnAt ids k) ∧ last + 1 = path.size)) ∧
    ∀ i j, path.laneInterval ids = some (i, j) →
      (∃ entry stop, path.FirstRun ids entry stop ∧
        ∀ n, i ≤ n ∧ n ≤ j ↔ n < path.size ∧ entry ≤ n + 1 ∧ n ≤ stop) ∧
      ∀ n, path.OnAt ids n → path.LeftBefore ids n → j < n := by
  refine ⟨?_, ?_, ?_⟩
  · rw [laneInterval_eq_none_iff, or_comm, Nat.le_one_iff_eq_zero_or_eq_one, or_left_comm]
    -- a path without waypoints has none on the lanelets either
    refine or_iff_right_of_imp fun hempty => Or.inl ?_
    rw [List.eq_nil_of_length_eq_zero hempty]
    exact List.forall_mem_nil _
  · rintro first ⟨hon, hleast⟩ hsize
    obtain ⟨entry, stop, hrun⟩ := exists_firstRun hon
    have hnonempty := hrun.nonempty
    have hstop := hrun.stop_le_size
    have hentry : entry = first :=
      le_antisymm (Nat.le_of_not_lt fun hlt => hrun.before first hlt hon)
        (hleast (hrun.on entry (Nat.le_refl _) hnonempty))
    subst hentry
    have hlt : entry - 1 < min stop (path.size - 1) := by omega
    refine ⟨_, by rw [hrun.laneInterval_eq, if_pos hlt], hlt, by omega, ?_⟩
    by_cases hend : stop = path.size
    · right
      exact ⟨fun k hk hksize => hrun.on k (Nat.le_of_lt hk) (hend ▸ hksize), by omega⟩
    · left
      have hmin : min stop (path.size - 1) = stop := by omega
      rw [hmin]
      refine ⟨⟨hnonempty, by omega, hrun.ends⟩, fun k ⟨hk, _, hoff⟩ => ?_⟩
      exact Nat.le_of_not_lt fun hkstop => hoff (hrun.on k (Nat.le_of_lt hk) hkstop)
  · intro i j h
    obtain ⟨entry, stop, hrun, hi, hj, hlt⟩ := laneInterval_eq_some_iff.mp h
    have hstop := hrun.stop_le_size
    refine ⟨⟨entry, stop, hrun, fun n => by omega⟩, fun n hon hleft => ?_⟩
    exact (covered_iff h hon).2 hleft

/-- A path that comes back to lanelet 2 after it has left it. -/
example :
    let on (id : Int) : Waypoint Unit := ⟨⟨⟨(), ()⟩, ⟨()⟩⟩, ⟨()⟩, [⟨id⟩]⟩
    (⟨[on 1, on 2, on 2, on 1, on 2, on 2]⟩ : Path Unit).laneInterval (IdSet.ofList [⟨2⟩]) =
      some (0, 3) := by
  decide

end Crossing.Path
