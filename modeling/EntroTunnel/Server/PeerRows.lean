import EntroTunnel.Server.PeerStats

/-!
# The rows of the statistics

`Metrics::peer_stats` with all that it reads and returns: the counters are `u64` and wrap around,
a row has the address and the age of its live session, and the map is read in an order of its own
before the rows are sorted. While the sums stay below 2^64 the rows are the lines of `peerStats`, in
which the counters are natural numbers (`peerRows_perm_peerStats`), and `peerRows_table` says what
they are: one for each token, with the sums of its counters, sorted by the traffic of both
directions.
-/

set_option autoImplicit false
set_option relaxedAutoImplicit false

namespace EntroTunnel.Server

open EntroTunnel.Core EntroTunnel.Foundation

/-- A live session of the snapshot, with the address that it comes from and its age. -/
structure LiveRow extends LiveEntry where
  addr : String
  connectedSecs : ℕ
  deriving DecidableEq, Repr

/-- A line of the stats API, with the address and the age of the live session. -/
structure PeerRow extends PeerStat where
  addr : Option String
  connectedSecs : ℕ
  deriving DecidableEq, Repr

namespace PeerRow

def ofAgg (token : String) (total : PeerAgg) : PeerRow where
  toPeerStat := .ofAgg token total
  addr := none
  connectedSecs := 0

def ofLive (entry : LiveRow) : PeerRow where
  toPeerStat := .ofLive entry.toLiveEntry
  addr := none
  connectedSecs := 0

/-- A live session is added to the row of its token. -/
def addLive (row : PeerRow) (entry : LiveRow) : PeerRow where
  name := entry.name
  token := row.token
  ip := entry.ip
  mode := some entry.mode
  online := true
  up := addU64 row.up entry.up
  down := addU64 row.down entry.down
  addr := some entry.addr
  connectedSecs := entry.connectedSecs

/-- What the rows are sorted by. -/
def traffic (row : PeerRow) : ℕ :=
  addU64 row.up row.down

end PeerRow

/-- The rows of the totals. -/
def historyRows (agg : AList fun _ : String ↦ PeerAgg) : AList fun _ : String ↦ PeerRow :=
  ⟨agg.entries.map (.map id PeerRow.ofAgg), agg.nodupKeys.map₂ PeerRow.ofAgg agg.entries⟩

def mergeRow (out : AList fun _ : String ↦ PeerRow) (entry : LiveRow) :
    AList fun _ : String ↦ PeerRow :=
  out.insert entry.token (((out.lookup entry.token).getD (.ofLive entry)).addLive entry)

/-- The map of `peer_stats` after its two loops. -/
def rowMap (agg : AList fun _ : String ↦ PeerAgg) (live : List LiveRow) :
    AList fun _ : String ↦ PeerRow :=
  live.foldl mergeRow (historyRows agg)

/-- `Metrics::peer_stats`; `order` is the order in which the map gives its values. -/
def peerRows (order : List PeerRow → List PeerRow) (agg : AList fun _ : String ↦ PeerAgg)
    (live : List LiveRow) : List PeerRow :=
  (order ((rowMap agg live).entries.map Sigma.snd)).mergeSort fun first second ↦
    second.traffic ≤ first.traffic

section Sums

variable (agg : AList fun _ : String ↦ PeerAgg) (live : List LiveRow) (token : String)

/-- The bytes up of a token, folded and live. -/
def upSum : ℕ :=
  ((agg.lookup token).map PeerAgg.up).getD 0 +
    liveFor LiveEntry.up (live.map LiveRow.toLiveEntry) token

/-- The bytes down of a token, folded and live. -/
def downSum : ℕ :=
  ((agg.lookup token).map PeerAgg.down).getD 0 +
    liveFor LiveEntry.down (live.map LiveRow.toLiveEntry) token

end Sums

/-- The sums stay below 2^64, also the one of both directions that the rows are sorted by. -/
def SumsFit (agg : AList fun _ : String ↦ PeerAgg) (live : List LiveRow) : Prop :=
  ∀ token, upSum agg live token + downSum agg live token < UInt64.size

/-- What the statistics list: each token that was folded or is live once, with its sums, as online
if it is live, and no row before one with more traffic. -/
structure PeerTable (agg : AList fun _ : String ↦ PeerAgg) (live : List LiveRow)
    (rows : List PeerRow) : Prop where
  distinct : (rows.map fun row ↦ row.token).Nodup
  listed : ∀ token, (∃ row ∈ rows, row.token = token) ↔
    token ∈ agg ∨ ∃ entry ∈ live, entry.token = token
  up : ∀ row ∈ rows, row.up = upSum agg live row.token
  down : ∀ row ∈ rows, row.down = downSum agg live row.token
  online : ∀ row ∈ rows, row.online = true ↔ ∃ entry ∈ live, entry.token = row.token
  sorted : rows.Pairwise fun first second ↦ second.up + second.down ≤ first.up + first.down

variable {agg : AList fun _ : String ↦ PeerAgg} {live : List LiveRow}

/-! ### The rows are the lines of the statistics -/

theorem upSum_concat (entry : LiveRow) (token : String) :
    upSum agg (live ++ [entry]) token =
      upSum agg live token + if entry.token = token then entry.up else 0 := by
  rw [upSum, upSum, List.map_append, List.map_singleton, liveFor_concat, Nat.add_assoc]

theorem downSum_concat (entry : LiveRow) (token : String) :
    downSum agg (live ++ [entry]) token =
      downSum agg live token + if entry.token = token then entry.down else 0 := by
  rw [downSum, downSum, List.map_append, List.map_singleton, liveFor_concat, Nat.add_assoc]

theorem SumsFit.of_concat {entry : LiveRow} (hfits : SumsFit agg (live ++ [entry])) :
    SumsFit agg live := by
  intro token
  have hmore := hfits token
  rw [upSum_concat, downSum_concat] at hmore
  omega

theorem PeerRow.toPeerStat_addLive {row : PeerRow} {entry : LiveRow}
    (hup : row.up + entry.up < UInt64.size) (hdown : row.down + entry.down < UInt64.size) :
    (row.addLive entry).toPeerStat = row.toPeerStat.addLive entry.toLiveEntry := by
  simp only [addLive, PeerStat.addLive, addU64_of_lt hup, addU64_of_lt hdown]

/-- The lines that the first loop and so many steps of the second have made. -/
def statMap (agg : AList fun _ : String ↦ PeerAgg) (live : List LiveRow) :
    AList fun _ : String ↦ PeerStat :=
  (live.map LiveRow.toLiveEntry).foldl mergeLive (historyStats agg)

theorem merged_statMap (agg : AList fun _ : String ↦ PeerAgg) (live : List LiveRow) :
    Merged agg (live.map LiveRow.toLiveEntry) (statMap agg live) := by
  have hmerged := (merged_historyStats agg).foldl (live.map LiveRow.toLiveEntry)
  rwa [List.nil_append] at hmerged

theorem lookup_historyRows (agg : AList fun _ : String ↦ PeerAgg) (token : String) :
    (historyRows agg).lookup token = (agg.lookup token).map (.ofAgg token) :=
  List.dlookup_map₂ token

theorem rowMap_concat (entry : LiveRow) :
    rowMap agg (live ++ [entry]) = mergeRow (rowMap agg live) entry := by
  rw [rowMap, List.foldl_append]
  rfl

theorem statMap_concat (entry : LiveRow) :
    statMap agg (live ++ [entry]) = mergeLive (statMap agg live) entry.toLiveEntry := by
  rw [statMap, List.map_append, List.foldl_append]
  rfl

/-- While the sums fit, the rows are the lines. -/
theorem toPeerStat_foldl (hfits : SumsFit agg live) (token : String) :
    ((rowMap agg live).lookup token).map PeerRow.toPeerStat = (statMap agg live).lookup token := by
  induction live using List.reverseRecOn generalizing token with
  | nil =>
    change ((historyRows agg).lookup token).map _ = (historyStats agg).lookup token
    rw [lookup_historyRows, lookup_historyStats, Option.map_map]
    rfl
  | append_singleton live entry ih =>
    rw [rowMap_concat, statMap_concat, mergeRow, mergeLive]
    have hbefore := ih hfits.of_concat
    by_cases htoken : token = entry.token
    · subst htoken
      have hsum := hfits entry.token
      rw [upSum_concat, downSum_concat, if_pos rfl, if_pos rfl] at hsum
      have hup := (merged_statMap agg live).up entry.token
      have hdown := (merged_statMap agg live).down entry.token
      rw [AList.lookup_insert, AList.lookup_insert, Option.map_some, ← hbefore entry.token]
      cases hold : (rowMap agg live).lookup entry.token with
      | none =>
        have hfirstUp : 0 + entry.up < UInt64.size := by omega
        have hfirstDown : 0 + entry.down < UInt64.size := by omega
        exact congrArg some (PeerRow.toPeerStat_addLive hfirstUp hfirstDown)
      | some row =>
        rw [← hbefore entry.token, hold] at hup hdown
        have hupRow : row.up = upSum agg live entry.token := hup
        have hdownRow : row.down = downSum agg live entry.token := hdown
        have hnextUp : row.up + entry.up < UInt64.size := by omega
        have hnextDown : row.down + entry.down < UInt64.size := by omega
        exact congrArg some (PeerRow.toPeerStat_addLive hnextUp hnextDown)
    · rw [AList.lookup_insert_ne htoken, AList.lookup_insert_ne htoken]
      exact hbefore token

/-- The lines of a map of rows. -/
def toStats (rows : AList fun _ : String ↦ PeerRow) : AList fun _ : String ↦ PeerStat :=
  ⟨rows.entries.map (.map id fun _ ↦ PeerRow.toPeerStat),
    rows.nodupKeys.map₂ (fun _ ↦ PeerRow.toPeerStat) rows.entries⟩

theorem peerRows_perm {order : List PeerRow → List PeerRow}
    (horder : ∀ rows, (order rows).Perm rows)
    (agg : AList fun _ : String ↦ PeerAgg) (live : List LiveRow) :
    (peerRows order agg live).Perm ((rowMap agg live).entries.map Sigma.snd) :=
  (List.mergeSort_perm _ _).trans (horder _)

/-- While the sums fit, the rows and the lines are the same but for their order: both are sorted by
traffic, and differ in how equal traffic is arranged. -/
theorem peerRows_perm_peerStats {order : List PeerRow → List PeerRow}
    (horder : ∀ rows, (order rows).Perm rows) (hfits : SumsFit agg live) :
    ((peerRows order agg live).map PeerRow.toPeerStat).Perm
      (peerStats agg (live.map LiveRow.toLiveEntry)) := by
  have hentries : (toStats (rowMap agg live)).entries.Perm (statMap agg live).entries := by
    refine List.lookup_ext (toStats _).nodupKeys (statMap agg live).nodupKeys fun token stat ↦ ?_
    have hsame : (toStats (rowMap agg live)).lookup token = (statMap agg live).lookup token :=
      (List.dlookup_map₂ token).trans (toPeerStat_foldl hfits token)
    exact iff_of_eq (congrArg (stat ∈ ·) hsame)
  have hvalues : ((rowMap agg live).entries.map Sigma.snd).map PeerRow.toPeerStat =
      (toStats (rowMap agg live)).entries.map Sigma.snd := by
    rw [toStats, List.map_map, List.map_map]
    rfl
  have hrows := (peerRows_perm horder agg live).map PeerRow.toPeerStat
  rw [hvalues] at hrows
  exact (hrows.trans (hentries.map Sigma.snd)).trans (List.perm_insertionSort _ _).symm

/-! ### What the rows are -/

theorem mem_rowMap (agg : AList fun _ : String ↦ PeerAgg) (live : List LiveRow) (token : String) :
    token ∈ rowMap agg live ↔ token ∈ agg ∨ ∃ entry ∈ live, entry.token = token := by
  induction live using List.reverseRecOn with
  | nil =>
    rw [rowMap, List.foldl_nil, ← AList.lookup_isSome, lookup_historyRows, Option.isSome_map,
      AList.lookup_isSome]
    simp
  | append_singleton live entry ih =>
    rw [rowMap_concat, mergeRow, AList.mem_insert, ih]
    simp only [List.mem_append, List.mem_singleton, or_and_right, exists_or, exists_eq_left]
    rw [or_comm, or_assoc, eq_comm]

/-- A row is online if a live session was added to it. -/
theorem online_of_lookup {token : String} {row : PeerRow}
    (hrow : (rowMap agg live).lookup token = some row) :
    row.online = true ↔ ∃ entry ∈ live, entry.token = token := by
  induction live using List.reverseRecOn generalizing row with
  | nil =>
    rw [rowMap, List.foldl_nil, lookup_historyRows] at hrow
    obtain ⟨total, -, rfl⟩ := Option.map_eq_some_iff.mp hrow
    simp [PeerRow.ofAgg, PeerStat.ofAgg]
  | append_singleton live entry ih =>
    rw [rowMap_concat, mergeRow] at hrow
    by_cases htoken : token = entry.token
    · rw [htoken, AList.lookup_insert] at hrow
      obtain rfl := Option.some.inj hrow
      exact iff_of_true rfl ⟨entry, by simp, htoken.symm⟩
    · rw [AList.lookup_insert_ne htoken] at hrow
      rw [ih hrow]
      simp [or_and_right, exists_or, Ne.symm htoken]

/-- A row of the map stands under its token with the sums of its counters. -/
theorem row_of_lookup (hfits : SumsFit agg live) {token : String} {row : PeerRow}
    (hrow : (rowMap agg live).lookup token = some row) :
    row.token = token ∧ row.up = upSum agg live token ∧ row.down = downSum agg live token := by
  have hmerged := merged_statMap agg live
  have hstat : (statMap agg live).lookup token = some row.toPeerStat := by
    rw [← toPeerStat_foldl hfits, hrow]
    rfl
  have hup := hmerged.up token
  have hdown := hmerged.down token
  rw [hstat] at hup hdown
  exact ⟨hmerged.token token _ hstat, hup, hdown⟩

/-- The rows of `peer_stats`, whatever the order of the map, while the sums stay below 2^64. -/
theorem peerRows_table (order : List PeerRow → List PeerRow)
    (agg : AList fun _ : String ↦ PeerAgg) (live : List LiveRow)
    (horder : ∀ rows, (order rows).Perm rows) (hfits : SumsFit agg live) :
    PeerTable agg live (peerRows order agg live) := by
  have hperm := peerRows_perm horder agg live
  have hmem : ∀ row, row ∈ peerRows order agg live ↔
      (rowMap agg live).lookup row.token = some row := by
    intro row
    rw [hperm.mem_iff, List.mem_map]
    constructor
    · rintro ⟨⟨token, line⟩, hentry, rfl⟩
      have hlookup := AList.mem_lookup_iff.mpr hentry
      rwa [(row_of_lookup hfits hlookup).1]
    · exact fun hlookup ↦ ⟨⟨row.token, row⟩, AList.mem_lookup_iff.mp hlookup, rfl⟩
  have hsums : ∀ row ∈ peerRows order agg live,
      row.up = upSum agg live row.token ∧ row.down = downSum agg live row.token :=
    fun row hrow ↦ (row_of_lookup hfits ((hmem row).mp hrow)).2
  refine ⟨?_, fun token ↦ ?_, fun row hrow ↦ (hsums row hrow).1, fun row hrow ↦ (hsums row hrow).2,
    fun row hrow ↦ online_of_lookup ((hmem row).mp hrow), ?_⟩
  · have htokens : ((rowMap agg live).entries.map Sigma.snd).map (fun row ↦ row.token) =
        (rowMap agg live).keys := by
      rw [List.map_map]
      refine List.map_congr_left fun entry hentry ↦ ?_
      exact (row_of_lookup hfits (AList.mem_lookup_iff.mpr hentry)).1
    rw [(hperm.map _).nodup_iff, htokens]
    exact (rowMap agg live).keys_nodup
  · rw [← mem_rowMap]
    constructor
    · rintro ⟨row, hrow, rfl⟩
      exact AList.lookup_isSome.mp (Option.isSome_of_mem ((hmem row).mp hrow))
    · intro htoken
      obtain ⟨row, hrow⟩ := Option.isSome_iff_exists.mp (AList.lookup_isSome.mpr htoken)
      have hsame := (row_of_lookup hfits hrow).1
      exact ⟨row, (hmem row).mpr (hsame.symm ▸ hrow), hsame⟩
  · have hsorted : (peerRows order agg live).Pairwise fun first second ↦
        decide (second.traffic ≤ first.traffic) = true := by
      refine List.pairwise_mergeSort (fun first second third h h' ↦ ?_) (fun first second ↦ ?_) _
      · exact decide_eq_true ((of_decide_eq_true h').trans (of_decide_eq_true h))
      · simpa using Nat.le_total second.traffic first.traffic
    have htraffic : ∀ row ∈ peerRows order agg live, row.traffic = row.up + row.down := by
      intro row hrow
      have hsum := hfits row.token
      rw [← (hsums row hrow).1, ← (hsums row hrow).2] at hsum
      exact addU64_of_lt hsum
    refine hsorted.imp_of_mem fun {first second} hfirst hsecond hle ↦ ?_
    rw [← htraffic first hfirst, ← htraffic second hsecond]
    exact of_decide_eq_true hle

/-- One token that was folded, and is live twice. -/
def phoneAgg : AList fun _ : String ↦ PeerAgg :=
  (∅ : AList fun _ : String ↦ PeerAgg).insert "phone" ⟨"phone", 10, .vpn, 7, 9⟩

def phoneLive : List LiveRow :=
  [⟨⟨10, "phone", "phone", .vpn, 1, 2⟩, "198.51.100.7:4000", 30⟩,
    ⟨⟨11, "laptop", "laptop", .httpProxy, 50, 60⟩, "198.51.100.8:4001", 5⟩,
    ⟨⟨10, "phone", "phone", .globalProxy, 3, 4⟩, "198.51.100.7:4002", 1⟩]

/-- A token that was folded and is live twice has one line with the sum of the three. -/
theorem peerRows_table_phone :
    PeerTable phoneAgg phoneLive (peerRows List.reverse phoneAgg phoneLive) ∧
      upSum phoneAgg phoneLive "phone" = 11 := by
  refine ⟨peerRows_table _ _ _ List.reverse_perm fun token ↦ ?_, by decide⟩
  rcases eq_or_ne token "phone" with rfl | hphone
  · decide
  rcases eq_or_ne token "laptop" with rfl | hlaptop
  · decide
  have hnone : phoneAgg.lookup token = none := AList.lookup_insert_ne hphone
  simp [upSum, downSum, hnone, liveFor, phoneLive, Ne.symm hphone, Ne.symm hlaptop, UInt64.size]

end EntroTunnel.Server
