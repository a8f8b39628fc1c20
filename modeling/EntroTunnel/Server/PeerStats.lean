import EntroTunnel.Server.Ledger
import Mathlib.Data.List.Sort

/-!
# The peers in the statistics

`Metrics::peer_stats`: the totals of the peers with the live sessions on top of them, one line for
each token. `mem_peerStats` says what a line adds up: the total that was folded for its token, and
the counters of the live sessions with that token.

The address that a client connects from and the time since then are left out. The lines are sorted
by their traffic; lines with equal traffic stand in an arbitrary order.
-/

set_option autoImplicit false
set_option relaxedAutoImplicit false

namespace EntroTunnel.Server

open EntroTunnel.Core EntroTunnel.Foundation

/-- One live session of the snapshot, with its counters. -/
structure LiveEntry where
  ip : Ipv4Addr
  name : String
  token : String
  mode : SessionMode
  up : ℕ
  down : ℕ
  deriving DecidableEq, Repr

/-- Per-peer line in the stats API. -/
structure PeerStat where
  name : String
  token : String
  ip : Ipv4Addr
  mode : Option SessionMode
  online : Bool
  up : ℕ
  down : ℕ
  deriving DecidableEq, Repr

namespace PeerStat

/-- The line of a peer that has been connected before. -/
def ofAgg (token : String) (total : PeerAgg) : PeerStat where
  name := total.name
  token := token
  ip := total.ip
  mode := some total.mode
  online := false
  up := total.up
  down := total.down

/-- The line that a live session is added to if its token has none. -/
def ofLive (entry : LiveEntry) : PeerStat where
  name := entry.name
  token := entry.token
  ip := entry.ip
  mode := none
  online := false
  up := 0
  down := 0

/-- A live session is added to the line of its token. -/
def addLive (stat : PeerStat) (entry : LiveEntry) : PeerStat :=
  { stat with
    name := entry.name
    ip := entry.ip
    mode := some entry.mode
    online := true
    up := stat.up + entry.up
    down := stat.down + entry.down }

end PeerStat

/-- The lines of the totals. -/
def historyStats (agg : AList fun _ : String ↦ PeerAgg) : AList fun _ : String ↦ PeerStat :=
  ⟨agg.entries.map (.map id PeerStat.ofAgg), agg.nodupKeys.map₂ PeerStat.ofAgg agg.entries⟩

def mergeLive (out : AList fun _ : String ↦ PeerStat) (entry : LiveEntry) :
    AList fun _ : String ↦ PeerStat :=
  out.insert entry.token (((out.lookup entry.token).getD (.ofLive entry)).addLive entry)

/-- `peer_stats`. -/
def peerStats (agg : AList fun _ : String ↦ PeerAgg) (live : List LiveEntry) : List PeerStat :=
  ((live.foldl mergeLive (historyStats agg)).entries.map Sigma.snd).insertionSort fun first second ↦
    second.up + second.down ≤ first.up + first.down

/-- The sum of a counter over the live sessions with a token. -/
def liveFor (amount : LiveEntry → ℕ) (live : List LiveEntry) (token : String) : ℕ :=
  (live.map fun entry ↦ if entry.token = token then amount entry else 0).sum

theorem liveFor_concat (amount : LiveEntry → ℕ) (live : List LiveEntry) (entry : LiveEntry)
    (token : String) :
    liveFor amount (live ++ [entry]) token =
      liveFor amount live token + if entry.token = token then amount entry else 0 := by
  rw [liveFor, List.map_append, List.sum_append, List.map_singleton, List.sum_singleton, liveFor]

/-- Each line stands under its token, and has the total of the token with the live sessions that
were merged so far on top of it. -/
structure Merged (agg : AList fun _ : String ↦ PeerAgg) (live : List LiveEntry)
    (out : AList fun _ : String ↦ PeerStat) : Prop where
  token : ∀ token stat, out.lookup token = some stat → stat.token = token
  up : ∀ token, ((out.lookup token).map PeerStat.up).getD 0 =
    ((agg.lookup token).map PeerAgg.up).getD 0 + liveFor LiveEntry.up live token
  down : ∀ token, ((out.lookup token).map PeerStat.down).getD 0 =
    ((agg.lookup token).map PeerAgg.down).getD 0 + liveFor LiveEntry.down live token

variable {agg : AList fun _ : String ↦ PeerAgg} {live : List LiveEntry}
  {out : AList fun _ : String ↦ PeerStat}

theorem lookup_historyStats (agg : AList fun _ : String ↦ PeerAgg) (token : String) :
    (historyStats agg).lookup token = (agg.lookup token).map (.ofAgg token) :=
  List.dlookup_map₂ token

theorem merged_historyStats (agg : AList fun _ : String ↦ PeerAgg) :
    Merged agg [] (historyStats agg) where
  token := by
    intro token stat hlookup
    rw [lookup_historyStats] at hlookup
    obtain ⟨total, -, rfl⟩ := Option.map_eq_some_iff.mp hlookup
    rfl
  up := by
    intro token
    rw [lookup_historyStats, Option.map_map]
    rfl
  down := by
    intro token
    rw [lookup_historyStats, Option.map_map]
    rfl

/-- What an entry adds to a counter of the lines. -/
theorem lookup_mergeLive {amount : PeerStat → ℕ} {added : LiveEntry → ℕ} (entry : LiveEntry)
    (hnew : amount (.ofLive entry) = 0)
    (hadd : ∀ stat : PeerStat, amount (stat.addLive entry) = amount stat + added entry)
    (out : AList fun _ : String ↦ PeerStat) (token : String) :
    (((mergeLive out entry).lookup token).map amount).getD 0 =
      ((out.lookup token).map amount).getD 0 +
        if entry.token = token then added entry else 0 := by
  rw [mergeLive]
  by_cases htoken : token = entry.token
  · rw [htoken, AList.lookup_insert, if_pos rfl, Option.map_some, Option.getD_some, hadd]
    cases out.lookup entry.token with
    | some stat => rfl
    | none => exact congrArg (· + added entry) hnew
  · rw [AList.lookup_insert_ne htoken, if_neg (Ne.symm htoken), Nat.add_zero]

theorem Merged.mergeLive (hmerged : Merged agg live out) (entry : LiveEntry) :
    Merged agg (live ++ [entry]) (mergeLive out entry) where
  token := by
    intro token stat hlookup
    rw [Server.mergeLive] at hlookup
    by_cases htoken : token = entry.token
    · rw [htoken, AList.lookup_insert] at hlookup
      obtain rfl := Option.some.inj hlookup
      cases hold : out.lookup entry.token with
      | some old => exact (hmerged.token _ _ hold).trans htoken.symm
      | none => exact htoken.symm
    · rw [AList.lookup_insert_ne htoken] at hlookup
      exact hmerged.token token stat hlookup
  up := by
    intro token
    rw [lookup_mergeLive entry rfl fun _ ↦ rfl, hmerged.up, liveFor_concat, Nat.add_assoc]
  down := by
    intro token
    rw [lookup_mergeLive entry rfl fun _ ↦ rfl, hmerged.down, liveFor_concat, Nat.add_assoc]

theorem Merged.foldl (hmerged : Merged agg live out) (more : List LiveEntry) :
    Merged agg (live ++ more) (more.foldl Server.mergeLive out) := by
  induction more generalizing live out with
  | nil =>
    rw [List.append_nil]
    exact hmerged
  | cons entry rest ih =>
    rw [List.foldl_cons, ← List.singleton_append, ← List.append_assoc]
    exact ih (hmerged.mergeLive entry)

/-- What a line adds up. -/
theorem mem_peerStats {stat : PeerStat} (hstat : stat ∈ peerStats agg live) :
    stat.up = ((agg.lookup stat.token).map PeerAgg.up).getD 0 +
        liveFor LiveEntry.up live stat.token ∧
      stat.down = ((agg.lookup stat.token).map PeerAgg.down).getD 0 +
        liveFor LiveEntry.down live stat.token := by
  have hmerged := (merged_historyStats agg).foldl live
  rw [List.nil_append] at hmerged
  obtain ⟨⟨token, line⟩, hentry, rfl⟩ := List.mem_map.mp ((List.mem_insertionSort _).mp hstat)
  have hlookup := AList.mem_lookup_iff.mpr hentry
  obtain rfl := hmerged.token _ _ hlookup
  have hup := hmerged.up line.token
  have hdown := hmerged.down line.token
  rw [Option.mem_def.mp hlookup] at hup hdown
  exact ⟨hup, hdown⟩

end EntroTunnel.Server
