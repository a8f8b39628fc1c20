import EntroTunnel.Client.PacketSession

/-!
# Stall detection

The `monitor` of `bridge_connection` for any threshold, over any history of the byte counters. It
keeps one count for the seconds in which exactly one direction moved bytes, whichever it was, so it
reports at the end of the first window of one-sided seconds that is as long as the threshold
(`reportsAt_iff`). A stall is a window in which the same direction is silent throughout.
`reports_stall_iff` says for which histories the two agree; with the threshold of the source they
always do (`stalls_at_once`).
-/

set_option autoImplicit false
set_option relaxedAutoImplicit false

namespace EntroTunnel.Client

/-! ### First times and streaks -/

section Streaks

variable {Holds Other : ℕ → Prop}

/-- The first time at which something holds. -/
def First (Holds : ℕ → Prop) (time : ℕ) : Prop :=
  Holds time ∧ ∀ before < time, ¬ Holds before

theorem exists_first {time : ℕ} (hholds : Holds time) :
    ∃ first, first ≤ time ∧ First Holds first := by
  classical
  have hexists : ∃ time, Holds time := ⟨time, hholds⟩
  exact ⟨Nat.find hexists, Nat.find_min' hexists hholds, Nat.find_spec hexists,
    fun _ hbefore ↦ Nat.find_min hexists hbefore⟩

/-- The first times of two events, the second of which implies the first, are the same exactly when
the first time of the first is one of the second. -/
theorem first_iff_first (himplies : ∀ time, Other time → Holds time) :
    (∀ time, First Holds time ↔ First Other time) ↔ ∀ time, First Holds time → Other time := by
  constructor
  · exact fun hsame time hfirst ↦ ((hsame time).mp hfirst).1
  · intro hother time
    constructor
    · exact fun hfirst ↦ ⟨hother time hfirst,
        fun before hbefore h ↦ hfirst.2 before hbefore (himplies before h)⟩
    · intro hfirst
      obtain ⟨first, hle, hholds⟩ := exists_first (himplies time hfirst.1)
      rcases hle.lt_or_eq with hlt | rfl
      · exact absurd (hother first hholds) (hfirst.2 first hlt)
      · exact hholds

/-- How many of the times up to this one, counted back from it, the event has held at. -/
def streak (Holds : ℕ → Prop) [DecidablePred Holds] : ℕ → ℕ
  | 0 => 0
  | time + 1 => if Holds (time + 1) then streak Holds time + 1 else 0

theorem le_streak_iff [DecidablePred Holds] {count time : ℕ} :
    count ≤ streak Holds time ↔ count ≤ time ∧ ∀ back < count, Holds (time - back) := by
  induction time generalizing count with
  | zero =>
    rw [streak]
    refine ⟨fun hcount ↦ ⟨hcount, fun back hback ↦ ?_⟩, And.left⟩
    omega
  | succ time ih =>
    rw [streak]
    cases count with
    | zero =>
      exact ⟨fun _ ↦ ⟨Nat.zero_le _, fun _ h ↦ absurd h (Nat.not_lt_zero _)⟩,
        fun _ ↦ Nat.zero_le _⟩
    | succ count =>
      split_ifs with hnow
      · rw [Nat.add_le_add_iff_right, ih, Nat.add_le_add_iff_right]
        refine and_congr_right fun _ ↦ ⟨fun hback back hlt ↦ ?_, fun hback back hlt ↦ ?_⟩
        · cases back with
          | zero => exact hnow
          | succ back =>
            rw [Nat.add_sub_add_right]
            exact hback back (Nat.lt_of_succ_lt_succ hlt)
        · rw [← Nat.add_sub_add_right time 1 back]
          exact hback (back + 1) (Nat.succ_lt_succ hlt)
      · exact ⟨fun h ↦ absurd h (Nat.not_succ_le_zero _),
          fun h ↦ absurd (h.2 0 (Nat.succ_pos _)) hnow⟩

end Streaks

/-! ### The monitor over a history -/

namespace Monitor

/-- A history of the record: at the first sample, and at each tick after it. -/
abbrev History := ℕ → LiveStatus

/-- The monitor after so many ticks, if it has not reported. -/
def after (threshold : ℕ) (history : History) : ℕ → Option Monitor
  | 0 => some (sample (history 0))
  | time + 1 =>
    (after threshold history time).bind fun monitor ↦
      let ticked := monitor.tick threshold (history (time + 1))
      if ticked.2 then none else some ticked.1

/-- The monitor reports a stall at a tick. -/
def reportsAt (threshold : ℕ) (history : History) : ℕ → Bool
  | 0 => false
  | time + 1 =>
    (after threshold history time).any fun monitor ↦
      (monitor.tick threshold (history (time + 1))).2

/-! ### What a stall is -/

/-- A direction of the tunnel. -/
inductive Direction
  | up
  | down
  deriving DecidableEq, Repr

/-- Between two samples one direction moved bytes, and the other none. -/
def Direction.Alone (before now : LiveStatus) : Direction → Prop
  | .up => before.upBytes < now.upBytes ∧ ¬ before.downBytes < now.downBytes
  | .down => before.downBytes < now.downBytes ∧ ¬ before.upBytes < now.upBytes

/-- In the interval that ends at a tick exactly one direction moved bytes. -/
def OneSided (history : History) (time : ℕ) : Prop :=
  ∃ direction : Direction, direction.Alone (history (time - 1)) (history time)

/-- During each of so many intervals that end at a tick exactly one direction moved bytes. -/
def WindowAt (threshold : ℕ) (history : History) (time : ℕ) : Prop :=
  threshold ≤ time ∧ ∀ back < threshold, OneSided history (time - back)

/-- During each of so many intervals that end at a tick the same direction moved bytes while the
other moved none. -/
def StallAt (threshold : ℕ) (history : History) (time : ℕ) : Prop :=
  threshold ≤ time ∧ ∃ direction : Direction, ∀ back < threshold,
    direction.Alone (history (time - back - 1)) (history (time - back))

instance (before now : LiveStatus) (direction : Direction) :
    Decidable (direction.Alone before now) := by
  cases direction <;> exact instDecidableAnd

theorem oneSided_iff {monitor : Monitor} {before now : LiveStatus}
    (hup : monitor.lastUp = before.upBytes) (hdown : monitor.lastDown = before.downBytes) :
    monitor.oneSided now = true ↔ ∃ direction : Direction, direction.Alone before now := by
  rw [oneSided, hup, hdown, bne_iff_ne, ne_eq, decide_eq_decide]
  constructor
  · intro hdiffers
    by_cases hmoved : before.upBytes < now.upBytes
    · exact ⟨.up, hmoved, fun h ↦ hdiffers ⟨fun _ ↦ h, fun _ ↦ hmoved⟩⟩
    · refine ⟨.down, ?_, hmoved⟩
      by_contra h
      exact hdiffers ⟨fun h' ↦ absurd h' hmoved, fun h' ↦ absurd h' h⟩
  · rintro ⟨direction, halone⟩ hsame
    cases direction with
    | up => exact halone.2 (hsame.mp halone.1)
    | down => exact halone.2 (hsame.mpr halone.1)

instance (history : History) : DecidablePred (OneSided history) := fun time ↦
  decidable_of_iff ((Monitor.mk (history (time - 1)).upBytes (history (time - 1)).downBytes
    0).oneSided (history time) = true) (oneSided_iff rfl rfl)

/-! ### What the monitor counts -/

variable {threshold time : ℕ} {history : History} {monitor : Monitor}

theorem windowAt_iff : WindowAt threshold history time ↔
    threshold ≤ streak (OneSided history) time :=
  le_streak_iff.symm

/-- A tick of a monitor that knows the last counters and the streak. -/
theorem tick_of_follows (hup : monitor.lastUp = (history time).upBytes)
    (hdown : monitor.lastDown = (history time).downBytes)
    (hsilent : monitor.silentSecs = streak (OneSided history) time) (hthreshold : 0 < threshold) :
    monitor.tick threshold (history (time + 1)) =
      (⟨(history (time + 1)).upBytes, (history (time + 1)).downBytes,
          streak (OneSided history) (time + 1)⟩,
        decide (threshold ≤ streak (OneSided history) (time + 1))) := by
  have hsides : monitor.oneSided (history (time + 1)) = true ↔ OneSided history (time + 1) :=
    oneSided_iff hup hdown
  rw [tick, streak]
  by_cases hone : OneSided history (time + 1)
  · rw [if_pos (hsides.mpr hone), if_pos hone, hsilent]
  · rw [if_neg (mt hsides.mp hone), if_neg hone, decide_eq_false hthreshold.not_ge]

/-- A monitor that goes on knows the last counters and the streak, which was never as long as the
threshold. -/
theorem after_eq_some (hthreshold : 0 < threshold)
    (hafter : after threshold history time = some monitor) :
    monitor.lastUp = (history time).upBytes ∧ monitor.lastDown = (history time).downBytes ∧
      monitor.silentSecs = streak (OneSided history) time ∧
      ∀ before ≤ time, ¬ WindowAt threshold history before := by
  induction time generalizing monitor with
  | zero =>
    obtain rfl := Option.some.inj hafter
    refine ⟨rfl, rfl, rfl, fun before hbefore hwindow ↦ ?_⟩
    exact hthreshold.not_ge (hwindow.1.trans hbefore)
  | succ time ih =>
    obtain ⟨previous, hprevious, hticked⟩ := Option.bind_eq_some_iff.mp hafter
    obtain ⟨hup, hdown, hsilent, hquiet⟩ := ih hprevious
    rw [tick_of_follows hup hdown hsilent hthreshold] at hticked
    dsimp only at hticked
    split_ifs at hticked with hreported
    obtain rfl := Option.some.inj hticked
    refine ⟨rfl, rfl, rfl, fun before hbefore ↦ ?_⟩
    rcases hbefore.lt_or_eq with hlt | rfl
    · exact hquiet before (Nat.le_of_lt_succ hlt)
    · exact fun hwindow ↦ hreported (decide_eq_true (windowAt_iff.mp hwindow))

/-- The monitor goes on until the streak is as long as the threshold. -/
theorem after_isSome (hthreshold : 0 < threshold)
    (hquiet : ∀ before ≤ time, ¬ WindowAt threshold history before) :
    ∃ monitor, after threshold history time = some monitor := by
  induction time with
  | zero => exact ⟨_, rfl⟩
  | succ time ih =>
    obtain ⟨monitor, hmonitor⟩ := ih fun before hbefore ↦ hquiet before (Nat.le_succ_of_le hbefore)
    obtain ⟨hup, hdown, hsilent, -⟩ := after_eq_some hthreshold hmonitor
    have hnot : ¬ threshold ≤ streak (OneSided history) (time + 1) :=
      mt windowAt_iff.mpr (hquiet (time + 1) le_rfl)
    refine ⟨(monitor.tick threshold (history (time + 1))).1, ?_⟩
    rw [after, hmonitor, Option.bind_some, tick_of_follows hup hdown hsilent hthreshold]
    exact if_neg (by rwa [decide_eq_true_iff])

/-- The monitor reports at the end of the first window of one-sided intervals that is as long as the
threshold, whichever the sides. -/
theorem reportsAt_iff (hthreshold : 0 < threshold) :
    reportsAt threshold history time = true ↔ First (WindowAt threshold history) time := by
  cases time with
  | zero => exact ⟨nofun, fun hfirst ↦ absurd hfirst.1.1 hthreshold.not_ge⟩
  | succ time =>
    rw [reportsAt, Option.any_eq_true]
    constructor
    · rintro ⟨monitor, hmonitor, hreported⟩
      obtain ⟨hup, hdown, hsilent, hquiet⟩ := after_eq_some hthreshold hmonitor
      rw [tick_of_follows hup hdown hsilent hthreshold, decide_eq_true_iff] at hreported
      exact ⟨windowAt_iff.mpr hreported,
        fun before hbefore ↦ hquiet before (Nat.le_of_lt_succ hbefore)⟩
    · rintro ⟨hwindow, hquiet⟩
      obtain ⟨monitor, hmonitor⟩ := after_isSome hthreshold
        fun before hbefore ↦ hquiet before (Nat.lt_succ_of_le hbefore)
      obtain ⟨hup, hdown, hsilent, -⟩ := after_eq_some hthreshold hmonitor
      refine ⟨monitor, hmonitor, ?_⟩
      rw [tick_of_follows hup hdown hsilent hthreshold, decide_eq_true_iff]
      exact windowAt_iff.mp hwindow

/-! ### When it is a stall -/

theorem StallAt.windowAt (hstall : StallAt threshold history time) :
    WindowAt threshold history time := by
  obtain ⟨hlong, direction, hdirection⟩ := hstall
  exact ⟨hlong, fun back hback ↦ ⟨direction, hdirection back hback⟩⟩

/-- With the threshold of the source every report is at the first stall. -/
theorem stalls_at_once (history : History) (time : ℕ) :
    reportsAt stallSilentSecs history time = true ↔
      First (StallAt stallSilentSecs history) time := by
  refine (reportsAt_iff Nat.one_pos).trans ?_
  refine (first_iff_first fun _ ↦ StallAt.windowAt).mpr (fun time hfirst ↦ ?_) time
  obtain ⟨hlong, hsides⟩ := hfirst.1
  obtain ⟨direction, hdirection⟩ := hsides 0 Nat.one_pos
  refine ⟨hlong, direction, fun back hback ↦ ?_⟩
  obtain rfl : back = 0 := Nat.lt_one_iff.mp hback
  exact hdirection

/-- The monitor reports at exactly the first stall when the first window of one-sided intervals that
is as long as the threshold, if there is one, has the same silent direction throughout. -/
theorem reports_stall_iff (threshold : ℕ) (hthreshold : 0 < threshold) (history : History) :
    (∀ time, reportsAt threshold history time = true ↔ First (StallAt threshold history) time) ↔
      ∀ time, First (WindowAt threshold history) time → StallAt threshold history time := by
  simp only [reportsAt_iff hthreshold]
  exact first_iff_first fun _ ↦ StallAt.windowAt

/-- One byte up in the first interval, one down in the second, and no more. -/
def alternating : History
  | 0 => {}
  | 1 => { upBytes := 1 }
  | _ => { upBytes := 1, downBytes := 1 }

/-- On this history neither side holds: its first window of two intervals is no stall. -/
theorem reports_stall_iff_alternating :
    (∀ time, reportsAt 2 alternating time = true ↔ First (StallAt 2 alternating) time) ↔
      ∀ time, First (WindowAt 2 alternating) time → StallAt 2 alternating time :=
  reports_stall_iff 2 Nat.two_pos alternating

/-- Two intervals of different sides are reported as a stall of two. -/
theorem alternating_reported :
    reportsAt 2 alternating 2 = true ∧ ¬ First (StallAt 2 alternating) 2 := by
  refine ⟨rfl, ?_⟩
  rintro ⟨⟨-, direction, hdirection⟩, -⟩
  cases direction with
  | up => exact absurd (hdirection 0 Nat.two_pos).1 (by decide)
  | down => exact absurd (hdirection 1 Nat.one_lt_two).1 (by decide)

end Monitor

end EntroTunnel.Client
