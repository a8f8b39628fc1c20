import EntroTunnel.Foundation.PartialRun
import EntroTunnel.Foundation.Sums

/-!
# The throughput timeline

`Metrics::sample` and what it reads and writes. Sessions add to the two counters at any time, also
between the two loads of a sampler call, and the timeline keeps the last `maxSamples` differences.
The sampler is the only caller of `sample`, so its locks are free whenever it takes them.

`Observed` follows a run without the code: what has been added in all, and the totals at the moments
at which the sampler read them. `timeline_conserved` says that the timeline is the end of the list
of their differences, and that these differences telescope.
-/

set_option autoImplicit false
set_option relaxedAutoImplicit false

namespace EntroTunnel.Server

open EntroTunnel.Foundation

/-- `MAX_SAMPLES`. -/
def maxSamples : ℕ := 180

/-- One throughput sample: the bytes of the interval that ends `t` seconds after the start. -/
structure TrafficSample where
  t : ℕ
  up : ℕ
  down : ℕ
  deriving DecidableEq, Repr

/-- Where a call of `sample` is; with what it has read, or with the differences to store. -/
inductive Sampler
  | waiting
  | loadedUp (up : ℕ)
  | loaded (up down : ℕ)
  | storing (up down : ℕ)
  deriving DecidableEq, Repr

/-- The counters of `Metrics`, and what the sampler writes. -/
structure Throughput where
  totalUp : ℕ
  totalDown : ℕ
  last : ℕ × ℕ
  timeline : List TrafficSample
  sampler : Sampler
  deriving DecidableEq, Repr

/-- A session adds to a counter, or the sampler goes on; `uptime` is read when a sample is
stored. -/
inductive ThroughputAction
  | addUp (bytes : ℕ)
  | addDown (bytes : ℕ)
  | loadUp
  | loadDown
  | takeDelta
  | push (uptime : ℕ)
  deriving DecidableEq, Repr

/-- `while tl.len() > MAX_SAMPLES`. -/
def evict : List TrafficSample → List TrafficSample
  | [] => []
  | first :: rest => if maxSamples < (first :: rest).length then evict rest else first :: rest

namespace Throughput

/-- `Metrics::new`. -/
def start : Throughput where
  totalUp := 0
  totalDown := 0
  last := (0, 0)
  timeline := []
  sampler := .waiting

/-- One step. -/
def step (state : Throughput) : ThroughputAction → Option Throughput
  | .addUp bytes => some { state with totalUp := addU64 state.totalUp bytes }
  | .addDown bytes => some { state with totalDown := addU64 state.totalDown bytes }
  | .loadUp =>
    match state.sampler with
    | .waiting => some { state with sampler := .loadedUp state.totalUp }
    | _ => none
  | .loadDown =>
    match state.sampler with
    | .loadedUp up => some { state with sampler := .loaded up state.totalDown }
    | _ => none
  | .takeDelta =>
    match state.sampler with
    | .loaded up down =>
      some { state with
        last := (up, down)
        sampler := .storing (up - state.last.1) (down - state.last.2) }
    | _ => none
  | .push uptime =>
    match state.sampler with
    | .storing up down =>
      some { state with
        timeline := evict (state.timeline ++ [⟨uptime, up, down⟩])
        sampler := .waiting }
    | _ => none

end Throughput

/-! ### What is observed -/

/-- What has been added in all, the totals that the sampler read last, and those of its samples. -/
structure Observed where
  up : ℕ
  down : ℕ
  readUp : ℕ
  readDown : ℕ
  sampled : List TrafficSample
  deriving DecidableEq, Repr

namespace Observed

def start : Observed where
  up := 0
  down := 0
  readUp := 0
  readDown := 0
  sampled := []

def next (seen : Observed) : ThroughputAction → Observed
  | .addUp bytes => { seen with up := seen.up + bytes }
  | .addDown bytes => { seen with down := seen.down + bytes }
  | .loadUp => { seen with readUp := seen.up }
  | .loadDown => { seen with readDown := seen.down }
  | .takeDelta => seen
  | .push uptime => { seen with sampled := seen.sampled ++ [⟨uptime, seen.readUp, seen.readDown⟩] }

/-- What a run shows. -/
def of (actions : List ThroughputAction) : Observed :=
  actions.foldl next start

/-- The totals of the last of some samples, zero if there is none. -/
def lastOf (sampled : List TrafficSample) : TrafficSample :=
  sampled.getLast?.getD ⟨0, 0, 0⟩

/-- How many of the samples the timeline has given up. -/
def evicted (seen : Observed) : ℕ :=
  seen.sampled.length - maxSamples

/-- The totals that were sampled just before the oldest sample that is kept. -/
def before (seen : Observed) : TrafficSample :=
  lastOf (seen.sampled.take seen.evicted)

end Observed

/-- The differences of the totals, each to the one before it. -/
def differences : TrafficSample → List TrafficSample → List TrafficSample
  | _, [] => []
  | previous, total :: rest =>
    ⟨total.t, total.up - previous.up, total.down - previous.down⟩ :: differences total rest

/-- The totals that were added stay below 2^64. -/
def Observed.Fits (seen : Observed) : Prop :=
  seen.up < UInt64.size ∧ seen.down < UInt64.size

instance (seen : Observed) : Decidable seen.Fits :=
  inferInstanceAs (Decidable (_ ∧ _))

/-- The timeline holds the most recent samples in order, and their values make what was added from
the sample before the oldest one to the last one. -/
structure Conserved (seen : Observed) (timeline : List TrafficSample) : Prop where
  bounded : timeline.length ≤ maxSamples
  recent : timeline = (differences ⟨0, 0, 0⟩ seen.sampled).drop seen.evicted
  up : seen.before.up + (timeline.map TrafficSample.up).sum = (Observed.lastOf seen.sampled).up
  down : seen.before.down + (timeline.map TrafficSample.down).sum =
    (Observed.lastOf seen.sampled).down

/-! ### The samples -/

theorem evict_eq_drop (timeline : List TrafficSample) :
    evict timeline = timeline.drop (timeline.length - maxSamples) := by
  induction timeline with
  | nil => rfl
  | cons first rest ih =>
    rw [evict, ih]
    split_ifs with hfull
    · rw [List.length_cons] at hfull ⊢
      rw [show rest.length + 1 - maxSamples = rest.length - maxSamples + 1 by omega,
        List.drop_succ_cons]
    · rw [Nat.sub_eq_zero_of_le (Nat.not_lt.mp hfull), List.drop_zero]

theorem length_differences (previous : TrafficSample) (sampled : List TrafficSample) :
    (differences previous sampled).length = sampled.length := by
  induction sampled generalizing previous with
  | nil => rfl
  | cons total rest ih => rw [differences, List.length_cons, List.length_cons, ih]

theorem differences_concat (previous total : TrafficSample) (sampled : List TrafficSample) :
    differences previous (sampled ++ [total]) =
      differences previous sampled ++
        [⟨total.t, total.up - (sampled.getLast?.getD previous).up,
          total.down - (sampled.getLast?.getD previous).down⟩] := by
  induction sampled generalizing previous with
  | nil => rfl
  | cons first rest ih =>
    rw [List.cons_append, differences, differences, ih, List.getLast?_cons, Option.getD_some,
      List.cons_append]

/-- A value of the samples that is a difference, along the whole list. -/
theorem map_differences {value : TrafficSample → ℕ}
    (hvalue : ∀ total previous : TrafficSample,
      value ⟨total.t, total.up - previous.up, total.down - previous.down⟩ =
        value total - value previous)
    (previous : TrafficSample) (sampled : List TrafficSample) :
    (differences previous sampled).map value =
      deltas (value previous) (sampled.map value) := by
  induction sampled generalizing previous with
  | nil => rfl
  | cons first rest ih => rw [differences, List.map_cons, ih, hvalue, List.map_cons, deltas]

/-- A sample more, and the oldest ones given up. -/
theorem evict_concat {all : List TrafficSample} (sample : TrafficSample) :
    evict (all.drop (all.length - maxSamples) ++ [sample]) =
      (all ++ [sample]).drop ((all ++ [sample]).length - maxSamples) := by
  have hcount : all.length - maxSamples +
      ((all.drop (all.length - maxSamples) ++ [sample]).length - maxSamples) =
        (all ++ [sample]).length - maxSamples := by
    simp only [List.length_append, List.length_drop, List.length_singleton]
    omega
  rw [evict_eq_drop, ← hcount, ← List.drop_drop,
    List.drop_append_of_le_length (Nat.sub_le _ _)]

/-- A sample is stored: the difference of new totals to the last ones. -/
theorem evict_differences {timeline sampled : List TrafficSample}
    (htimeline : timeline =
      (differences ⟨0, 0, 0⟩ sampled).drop (sampled.length - maxSamples))
    (total : TrafficSample) :
    evict (timeline ++ [⟨total.t, total.up - (Observed.lastOf sampled).up,
        total.down - (Observed.lastOf sampled).down⟩]) =
      (differences ⟨0, 0, 0⟩ (sampled ++ [total])).drop
        ((sampled ++ [total]).length - maxSamples) := by
  rw [htimeline, ← length_differences ⟨0, 0, 0⟩ sampled, evict_concat, differences_concat,
    ← length_differences ⟨0, 0, 0⟩ (sampled ++ [total]), differences_concat]
  rfl

/-! ### The invariant -/

/-- The sampler between its steps: what it holds is what it has read, and what it will store the
difference to the last sample. -/
def Sampler.Holds (sampler : Sampler) (last : ℕ × ℕ) (seen : Observed) : Prop :=
  let lastTotals := ((Observed.lastOf seen.sampled).up, (Observed.lastOf seen.sampled).down)
  match sampler with
  | .waiting => last = lastTotals
  | .loadedUp up => last = lastTotals ∧ up = seen.readUp
  | .loaded up down => last = lastTotals ∧ up = seen.readUp ∧ down = seen.readDown
  | .storing up down => last = (seen.readUp, seen.readDown) ∧
    up = seen.readUp - lastTotals.1 ∧ down = seen.readDown - lastTotals.2

/-- The state of the code against what is observed, and the order of the totals. -/
structure Tracks (seen : Observed) (state : Throughput) : Prop where
  totalUp : state.totalUp = seen.up
  totalDown : state.totalDown = seen.down
  sampler : state.sampler.Holds state.last seen
  timeline : state.timeline = (differences ⟨0, 0, 0⟩ seen.sampled).drop seen.evicted
  growUp : (seen.sampled.map TrafficSample.up ++ [seen.readUp, seen.up]).Pairwise (· ≤ ·)
  growDown : (seen.sampled.map TrafficSample.down ++ [seen.readDown, seen.down]).Pairwise (· ≤ ·)

variable {seen : Observed} {state next : Throughput}

theorem tracks_start : Tracks .start .start where
  totalUp := rfl
  totalDown := rfl
  sampler := rfl
  timeline := rfl
  growUp := by simp [Observed.start]
  growDown := by simp [Observed.start]

/-- What has been read and added grows. -/
theorem grow_replace {totals : List ℕ} {read total readNext totalNext : ℕ}
    (hgrow : (totals ++ [read, total]).Pairwise (· ≤ ·)) (hread : read ≤ readNext)
    (htotal : readNext ≤ totalNext) : (totals ++ [readNext, totalNext]).Pairwise (· ≤ ·) := by
  rw [List.pairwise_append] at hgrow ⊢
  obtain ⟨htotals, -, hbelow⟩ := hgrow
  refine ⟨htotals, by simpa using htotal, fun value hvalue other hother ↦ ?_⟩
  have hle := hbelow value hvalue read List.mem_cons_self
  simp only [List.mem_cons, List.not_mem_nil, or_false] at hother
  omega

theorem read_le {totals : List ℕ} {read total : ℕ}
    (hgrow : (totals ++ [read, total]).Pairwise (· ≤ ·)) : read ≤ total := by
  have hpair := (List.pairwise_append.mp hgrow).2.1
  simpa using hpair

/-- What has been read becomes a sample. -/
theorem grow_concat {totals : List ℕ} {read total : ℕ}
    (hgrow : (totals ++ [read, total]).Pairwise (· ≤ ·)) :
    (totals ++ [read] ++ [read, total]).Pairwise (· ≤ ·) := by
  obtain ⟨htotals, hpair, hbelow⟩ := List.pairwise_append.mp hgrow
  have hread : ∀ value ∈ totals, value ≤ read :=
    fun value hvalue ↦ hbelow value hvalue read List.mem_cons_self
  refine List.pairwise_append.mpr ⟨List.pairwise_append.mpr ⟨htotals, by simp, ?_⟩, hpair, ?_⟩
  · simpa using hread
  · intro value hvalue other hother
    rcases List.mem_append.mp hvalue with hold | hlast
    · exact hbelow value hold other hother
    · obtain rfl := List.mem_singleton.mp hlast
      rcases List.mem_cons.mp hother with rfl | hnext
      · exact le_rfl
      · exact List.rel_of_pairwise_cons hpair hnext

theorem Tracks.step (htracks : Tracks seen state) {action : ThroughputAction}
    (hfits : (seen.next action).Fits) (hstep : state.step action = some next) :
    Tracks (seen.next action) next := by
  cases action with
  | addUp bytes =>
    obtain rfl := Option.some.inj hstep
    have hsum : addU64 state.totalUp bytes = seen.up + bytes := by
      rw [htracks.totalUp]
      exact addU64_of_lt hfits.1
    exact { htracks with
      totalUp := hsum
      growUp := grow_replace htracks.growUp le_rfl
        ((read_le htracks.growUp).trans (Nat.le_add_right _ _)) }
  | addDown bytes =>
    obtain rfl := Option.some.inj hstep
    have hsum : addU64 state.totalDown bytes = seen.down + bytes := by
      rw [htracks.totalDown]
      exact addU64_of_lt hfits.2
    exact { htracks with
      totalDown := hsum
      growDown := grow_replace htracks.growDown le_rfl
        ((read_le htracks.growDown).trans (Nat.le_add_right _ _)) }
  | loadUp =>
    simp only [Throughput.step] at hstep
    split at hstep
    · rename_i hwaiting
      obtain rfl := Option.some.inj hstep
      have hholds := htracks.sampler
      rw [hwaiting] at hholds
      exact { htracks with
        sampler := ⟨hholds, htracks.totalUp⟩
        growUp := grow_replace htracks.growUp (read_le htracks.growUp) le_rfl }
    · cases hstep
  | loadDown =>
    simp only [Throughput.step] at hstep
    split at hstep
    · rename_i up hloaded
      obtain rfl := Option.some.inj hstep
      have hholds := htracks.sampler
      rw [hloaded] at hholds
      exact { htracks with
        sampler := ⟨hholds.1, hholds.2, htracks.totalDown⟩
        growDown := grow_replace htracks.growDown (read_le htracks.growDown) le_rfl }
    · cases hstep
  | takeDelta =>
    simp only [Throughput.step] at hstep
    split at hstep
    · rename_i up down hloaded
      obtain rfl := Option.some.inj hstep
      have hholds := htracks.sampler
      rw [hloaded] at hholds
      obtain ⟨hlast, rfl, rfl⟩ := hholds
      refine { htracks with sampler := ⟨rfl, ?_, ?_⟩ }
      · rw [hlast]
        rfl
      · rw [hlast]
        rfl
    · cases hstep
  | push uptime =>
    simp only [Throughput.step] at hstep
    split at hstep
    · rename_i up down hstoring
      obtain rfl := Option.some.inj hstep
      have hholds := htracks.sampler
      rw [hstoring] at hholds
      obtain ⟨hlast, rfl, rfl⟩ := hholds
      refine { htracks with
        sampler := ?_
        timeline := evict_differences htracks.timeline ⟨uptime, seen.readUp, seen.readDown⟩
        growUp := ?_
        growDown := ?_ }
      · simp only [Sampler.Holds, Observed.next, Observed.lastOf, List.getLast?_concat]
        exact hlast
      · rw [Observed.next, List.map_append]
        exact grow_concat htracks.growUp
      · rw [Observed.next, List.map_append]
        exact grow_concat htracks.growDown
    · cases hstep

/-! ### Whole runs -/

theorem Observed.of_concat (actions : List ThroughputAction) (action : ThroughputAction) :
    Observed.of (actions ++ [action]) = (Observed.of actions).next action := by
  rw [Observed.of, List.foldl_append]
  rfl

theorem Observed.Fits.of_next {action : ThroughputAction} (hfits : (seen.next action).Fits) :
    seen.Fits := by
  have hup : seen.up ≤ (seen.next action).up := by cases action <;> simp [Observed.next]
  have hdown : seen.down ≤ (seen.next action).down := by cases action <;> simp [Observed.next]
  exact ⟨hup.trans_lt hfits.1, hdown.trans_lt hfits.2⟩

theorem tracks_of_run {actions : List ThroughputAction}
    (hrun : run Throughput.step .start actions = some state) (hfits : (Observed.of actions).Fits) :
    Tracks (Observed.of actions) state := by
  refine @run_records _ _ _ (fun actions state ↦ (Observed.of actions).Fits →
    Tracks (Observed.of actions) state) _ (fun _ ↦ tracks_start) ?_ _ _ hrun hfits
  intro actions action state next _ htracks hstep hfits
  rw [Observed.of_concat] at hfits ⊢
  exact (htracks hfits.of_next).step hfits hstep

theorem map_lastOf {value : TrafficSample → ℕ} (hzero : value ⟨0, 0, 0⟩ = 0)
    (sampled : List TrafficSample) :
    value (Observed.lastOf sampled) = (sampled.map value).getLast?.getD 0 := by
  rw [Observed.lastOf, List.getLast?_map]
  cases sampled.getLast? with
  | none => exact hzero
  | some total => rfl

/-- What is left of the differences of growing totals makes what was added since the total before
them. -/
theorem before_add_sum {value : TrafficSample → ℕ} (hzero : value ⟨0, 0, 0⟩ = 0)
    (hvalue : ∀ total previous : TrafficSample,
      value ⟨total.t, total.up - previous.up, total.down - previous.down⟩ =
        value total - value previous) {later : List ℕ}
    (hgrow : (seen.sampled.map value ++ later).Pairwise (· ≤ ·)) :
    value seen.before +
        (((differences ⟨0, 0, 0⟩ seen.sampled).drop seen.evicted).map value).sum =
      value (Observed.lastOf seen.sampled) := by
  have hfromZero : (0 :: seen.sampled.map value).Pairwise (· ≤ ·) :=
    List.pairwise_cons.mpr ⟨fun _ _ ↦ Nat.zero_le _, (List.pairwise_append.mp hgrow).1⟩
  have hsum := add_sum_drop_deltas hfromZero seen.evicted
  rw [Observed.before, map_lastOf hzero, map_lastOf hzero, List.map_take, List.map_drop,
    map_differences hvalue, hzero]
  exact hsum

/-- In every run of the sampler and of sessions that add to the counters, while the totals stay
below 2^64: the timeline is bounded, holds the most recent samples in order, and no byte between the
first and the last of them is in two samples or in none. -/
theorem timeline_conserved {actions : List ThroughputAction} {state : Throughput}
    (hrun : run Throughput.step .start actions = some state)
    (hfits : (Observed.of actions).Fits) :
    Conserved (Observed.of actions) state.timeline := by
  have htracks := tracks_of_run hrun hfits
  rw [htracks.timeline]
  refine ⟨?_, rfl, before_add_sum rfl (fun _ _ ↦ rfl) htracks.growUp,
    before_add_sum rfl (fun _ _ ↦ rfl) htracks.growDown⟩
  rw [List.length_drop, length_differences, Observed.evicted]
  omega

/-- Two samples; bytes are added between the two loads of the first. -/
def twoSamples : List ThroughputAction :=
  [.addUp 5, .loadUp, .addUp 2, .addDown 9, .loadDown, .takeDelta, .push 5, .loadUp, .addDown 1,
    .loadDown, .takeDelta, .push 10]

/-- What is added between the two loads of a sample is in that sample or in the next one. -/
theorem timeline_conserved_twoSamples :
    ∃ state, run Throughput.step .start twoSamples = some state ∧
      state.timeline = [⟨5, 5, 9⟩, ⟨10, 2, 1⟩] ∧
      Conserved (Observed.of twoSamples) state.timeline := by
  obtain ⟨state, hrun, htimeline⟩ : ∃ state, run Throughput.step .start twoSamples = some state ∧
      state.timeline = [⟨5, 5, 9⟩, ⟨10, 2, 1⟩] := ⟨_, rfl, by decide⟩
  exact ⟨state, hrun, htimeline, timeline_conserved hrun (by decide)⟩

end EntroTunnel.Server
