import Mathlib.Algebra.BigOperators.Group.List.Basic
import Mathlib.Algebra.Ring.Nat

/-!
# Argument lines

On Windows a program is started with one line of text, and the program splits it into its arguments:
blanks separate, quotes group, and backslashes before a quote escape. `parseArgs` follows the rules
of the standard runtimes, one character at a time. A line loses a character for every separator and
every quote (`length_parseArgs_lt`), so an argument that is put on the line as it is comes back
unchanged exactly if it is not empty and has none of these characters (`parseArgs_join_iff`).
-/

set_option autoImplicit false
set_option relaxedAutoImplicit false

namespace EntroTunnel.Foundation

/-- Where the parser is: between arguments, in one, between quotes, or behind a quote that closes
unless another one follows. -/
inductive ArgMode
  | skip
  | plain
  | quoted
  | closing
  deriving DecidableEq, Repr

/-- The parser: the arguments read, the current one, and the backslashes at its end that are not
decided yet. -/
structure ArgState where
  mode : ArgMode
  slashes : ℕ
  current : List Char
  done : List (List Char)
  deriving DecidableEq, Repr

namespace ArgState

/-- The current argument with its backslashes. -/
def flushed (state : ArgState) : List Char :=
  state.current ++ List.replicate state.slashes '\\'

def isBlank (char : Char) : Bool :=
  char = ' ' || char = '\t'

/-- A quote, outside or between quotes; `toggled` is what an unescaped one leads to. -/
def quote (state : ArgState) (stay toggled : ArgMode) : ArgState :=
  let current := state.current ++ List.replicate (state.slashes / 2) '\\'
  if state.slashes % 2 = 1 then
    { state with mode := stay, slashes := 0, current := current ++ ['"'] }
  else { state with mode := toggled, slashes := 0, current }

/-- A character that is taken literally. -/
def push (state : ArgState) (mode : ArgMode) (char : Char) : ArgState :=
  { state with mode, slashes := 0, current := state.flushed ++ [char] }

/-- A character outside quotes. -/
def outside (state : ArgState) (char : Char) : ArgState :=
  if char = '\\' then { state with mode := .plain, slashes := state.slashes + 1 }
  else if char = '"' then state.quote .plain .quoted
  else if isBlank char then
    if state.mode = .skip then state
    else { mode := .skip, slashes := 0, current := [], done := state.done ++ [state.flushed] }
  else state.push .plain char

def step (state : ArgState) (char : Char) : ArgState :=
  match state.mode with
  | .skip | .plain => state.outside char
  | .quoted =>
    if char = '\\' then { state with slashes := state.slashes + 1 }
    else if char = '"' then state.quote .quoted .closing
    else state.push .quoted char
  | .closing =>
    if char = '"' then state.push .quoted '"' else state.outside char

/-- The arguments at the end of the line. -/
def finish (state : ArgState) : List (List Char) :=
  match state.mode with
  | .skip => state.done
  | .plain => if state.flushed = [] then state.done else state.done ++ [state.flushed]
  | .quoted | .closing => state.done ++ [state.flushed]

def start : ArgState where
  mode := .skip
  slashes := 0
  current := []
  done := []

end ArgState

/-- The arguments of a line. -/
def parseArgs (line : List Char) : List (List Char) :=
  (line.foldl ArgState.step .start).finish

/-- A blank or a quote. -/
def splits (char : Char) : Bool :=
  ArgState.isBlank char || char = '"'

namespace ArgState

variable {state : ArgState} {char : Char}

/-- The characters that the parser keeps. -/
def kept (state : ArgState) : ℕ :=
  (state.done.map List.length).sum + state.current.length + state.slashes

theorem length_flushed (state : ArgState) :
    state.flushed.length = state.current.length + state.slashes := by
  rw [flushed, List.length_append, List.length_replicate]

theorem kept_quote (state : ArgState) (stay toggled : ArgMode) :
    (state.quote stay toggled).kept ≤ state.kept := by
  rw [quote]
  split
  · simp only [kept, List.length_append, List.length_replicate, List.length_singleton]
    omega
  · simp only [kept, List.length_append, List.length_replicate]
    omega

theorem kept_push (state : ArgState) (mode : ArgMode) (char : Char) :
    (state.push mode char).kept = state.kept + 1 := by
  simp only [kept, push, List.length_append, length_flushed, List.length_singleton]
  omega

theorem kept_outside_le (state : ArgState) (char : Char) :
    (state.outside char).kept ≤ state.kept + 1 := by
  rw [outside]
  split_ifs
  · exact Nat.le_refl _
  · exact Nat.le_succ_of_le (kept_quote ..)
  · exact Nat.le_succ _
  · simp only [kept, List.map_append, List.map_singleton, List.sum_append, List.sum_singleton,
      length_flushed, List.length_nil]
    omega
  · exact Nat.le_of_eq (kept_push ..)

/-- A character adds one to what is kept, at most. -/
theorem kept_step_le (state : ArgState) (char : Char) :
    (state.step char).kept ≤ state.kept + 1 := by
  rw [step]
  split
  · exact kept_outside_le ..
  · exact kept_outside_le ..
  · split_ifs
    · exact Nat.le_refl _
    · exact Nat.le_succ_of_le (kept_quote ..)
    · exact Nat.le_of_eq (kept_push ..)
  · split_ifs
    · exact Nat.le_of_eq (kept_push ..)
    · exact kept_outside_le ..

theorem kept_foldl_le (state : ArgState) (line : List Char) :
    (line.foldl step state).kept ≤ state.kept + line.length := by
  induction line generalizing state with
  | nil => exact Nat.le_refl _
  | cons char rest ih =>
    have hfirst := kept_step_le state char
    have hrest := ih (state.step char)
    rw [List.foldl_cons, List.length_cons]
    omega

/-- The parser is outside quotes. -/
def Outside (state : ArgState) : Prop :=
  state.mode = .skip ∨ state.mode = .plain

theorem step_of_outside (houtside : state.Outside) (char : Char) :
    state.step char = state.outside char := by
  rw [step]
  rcases houtside with hmode | hmode <;> rw [hmode]

/-- A blank or a quote outside quotes is lost. -/
theorem kept_step_of_splits (houtside : state.Outside) (hsplits : splits char = true) :
    (state.step char).kept ≤ state.kept := by
  rw [step_of_outside houtside, outside]
  split_ifs with hslash hquote hblank hskip
  · rw [hslash] at hsplits
    exact absurd hsplits (by decide)
  · exact kept_quote ..
  · exact Nat.le_refl _
  · simp only [kept, List.map_append, List.map_singleton, List.sum_append, List.sum_singleton,
      length_flushed, List.length_nil]
    omega
  · simp [splits, hquote, hblank] at hsplits

/-- Any other character outside quotes is kept, behind what is there. -/
theorem step_of_not_splits (houtside : state.Outside) (hsplits : splits char = false) :
    (state.step char).mode = .plain ∧ (state.step char).done = state.done ∧
      (state.step char).flushed = state.flushed ++ [char] := by
  rw [splits, Bool.or_eq_false_iff, decide_eq_false_iff_not] at hsplits
  rw [step_of_outside houtside, outside]
  split_ifs with hslash hquote hblank
  · rw [hslash]
    refine ⟨rfl, rfl, ?_⟩
    rw [flushed, flushed, List.replicate_succ', List.append_assoc]
  · exact absurd hquote hsplits.2
  · exact absurd hblank (hsplits.1 ▸ Bool.false_ne_true)
  · exact absurd hblank (hsplits.1 ▸ Bool.false_ne_true)
  · refine ⟨rfl, rfl, ?_⟩
    simp [push, flushed]

/-- A line with a blank or a quote loses a character. -/
theorem kept_foldl_lt (houtside : state.Outside) {line : List Char}
    (hline : ∃ char ∈ line, splits char = true) :
    (line.foldl step state).kept < state.kept + line.length := by
  induction line generalizing state with
  | nil =>
    obtain ⟨char, hchar, -⟩ := hline
    exact absurd hchar List.not_mem_nil
  | cons first rest ih =>
    rw [List.foldl_cons, List.length_cons]
    cases hfirst : splits first with
    | true =>
      have hlost := kept_step_of_splits houtside hfirst
      have hrest := kept_foldl_le (state.step first) rest
      omega
    | false =>
      obtain ⟨char, hchar, hsplits⟩ := hline
      have hmem : char ∈ rest := by
        rcases List.mem_cons.mp hchar with rfl | hmem
        · rw [hfirst] at hsplits
          cases hsplits
        · exact hmem
      have hrest := ih (.inr (step_of_not_splits houtside hfirst).1) ⟨char, hmem, hsplits⟩
      have hkept := kept_step_le state first
      omega

/-- A text without blanks and quotes is put behind the current argument as it is. -/
theorem foldl_of_not_splits (hmode : state.mode = .plain) {line : List Char}
    (hline : ∀ char ∈ line, splits char = false) :
    (line.foldl step state).mode = .plain ∧ (line.foldl step state).done = state.done ∧
      (line.foldl step state).flushed = state.flushed ++ line := by
  induction line generalizing state with
  | nil => exact ⟨hmode, rfl, (List.append_nil _).symm⟩
  | cons first rest ih =>
    rw [List.forall_mem_cons] at hline
    obtain ⟨hplain, hdone, hflushed⟩ := step_of_not_splits (.inr hmode) hline.1
    obtain ⟨hlast, hrest, htext⟩ := ih hplain hline.2
    refine ⟨hlast, hrest.trans hdone, htext.trans ?_⟩
    rw [hflushed, List.append_assoc, List.singleton_append]

/-- The state with arguments read before. -/
def behind (state : ArgState) (before : List (List Char)) : ArgState :=
  { state with done := before ++ state.done }

theorem quote_behind (state : ArgState) (before : List (List Char)) (stay toggled : ArgMode) :
    (state.behind before).quote stay toggled = (state.quote stay toggled).behind before := by
  by_cases hodd : state.slashes % 2 = 1 <;> simp [quote, behind, hodd]

theorem outside_behind (state : ArgState) (before : List (List Char)) (char : Char) :
    (state.behind before).outside char = (state.outside char).behind before := by
  simp only [outside, quote_behind]
  split_ifs
  all_goals simp_all [behind, push, flushed]

theorem step_behind (state : ArgState) (before : List (List Char)) (char : Char) :
    (state.behind before).step char = (state.step char).behind before := by
  have hmode : (state.behind before).mode = state.mode := rfl
  simp only [step, hmode, outside_behind, quote_behind]
  cases state.mode <;> split_ifs <;> rfl

theorem foldl_behind (state : ArgState) (before : List (List Char)) (line : List Char) :
    line.foldl step (state.behind before) = (line.foldl step state).behind before := by
  induction line generalizing state with
  | nil => rfl
  | cons first rest ih => rw [List.foldl_cons, step_behind, ih, List.foldl_cons]

theorem finish_behind (state : ArgState) (before : List (List Char)) :
    (state.behind before).finish = before ++ state.finish := by
  have hflushed : (state.behind before).flushed = state.flushed := rfl
  have hmode : (state.behind before).mode = state.mode := rfl
  rw [finish, finish, hflushed, hmode]
  cases state.mode with
  | plain => split_ifs <;> simp [behind]
  | _ => simp [behind]

/-- The arguments have what is kept, at most. -/
theorem sum_finish_le (state : ArgState) : (state.finish.map List.length).sum ≤ state.kept := by
  rw [finish]
  split
  · exact Nat.le_trans (Nat.le_add_right ..) (Nat.le_add_right ..)
  · split_ifs
    · exact Nat.le_trans (Nat.le_add_right ..) (Nat.le_add_right ..)
    · simp [kept, length_flushed, Nat.add_assoc]
  all_goals simp [kept, length_flushed, Nat.add_assoc]

end ArgState

open ArgState

/-- The arguments of a line with a blank or a quote are shorter than the line. -/
theorem length_parseArgs_lt {line : List Char} (hline : ∃ char ∈ line, splits char = true) :
    ((parseArgs line).map List.length).sum < line.length := by
  have hkept := @kept_foldl_lt .start (.inl rfl) line hline
  have hstart : start.kept = 0 := rfl
  rw [hstart, Nat.zero_add] at hkept
  exact Nat.lt_of_le_of_lt (sum_finish_le _) hkept

theorem foldl_start {text : List Char} (hne : text ≠ [])
    (htext : ∀ char ∈ text, splits char = false) :
    (text.foldl step start).mode = .plain ∧ (text.foldl step start).done = [] ∧
      (text.foldl step start).flushed = text := by
  cases text with
  | nil => exact absurd rfl hne
  | cons first rest =>
    rw [List.forall_mem_cons] at htext
    obtain ⟨hmode, hdone, hflushed⟩ := @step_of_not_splits .start first (.inl rfl) htext.1
    obtain ⟨hlast, hrest, hall⟩ := foldl_of_not_splits hmode htext.2
    refine ⟨hlast, hrest.trans hdone, hall.trans ?_⟩
    rw [hflushed]
    rfl

/-- A text without blanks and quotes is one argument. -/
theorem parseArgs_of_not_splits {text : List Char} (hne : text ≠ [])
    (htext : ∀ char ∈ text, splits char = false) : parseArgs text = [text] := by
  obtain ⟨hmode, hdone, hflushed⟩ := foldl_start hne htext
  rw [parseArgs, finish, hmode]
  dsimp only
  rw [hflushed, if_neg hne, hdone, List.nil_append]

/-- A blank ends an argument. -/
theorem parseArgs_cons {first : List Char} (hne : first ≠ [])
    (hfirst : ∀ char ∈ first, splits char = false) (rest : List Char) :
    parseArgs (first ++ ' ' :: rest) = first :: parseArgs rest := by
  obtain ⟨hmode, hdone, hflushed⟩ := foldl_start hne hfirst
  have hblank : (first.foldl step start).step ' ' = start.behind [first] := by
    rw [step_of_outside (.inr hmode), ArgState.outside]
    have hnotSkip : ¬(first.foldl step start).mode = .skip := by
      rw [hmode]
      exact ArgMode.noConfusion
    have hblank : isBlank ' ' = true := rfl
    rw [if_neg (by decide), if_neg (by decide), if_pos hblank, if_neg hnotSkip, hdone, hflushed]
    rfl
  rw [parseArgs, List.foldl_append, List.foldl_cons, hblank, foldl_behind, finish_behind]
  rfl

/-- Behind a first argument and a blank, a text is one argument exactly if it is not empty and has
no blanks and quotes. -/
theorem parseArgs_join_iff {first : List Char} (hne : first ≠ [])
    (hfirst : ∀ char ∈ first, splits char = false) (text : List Char) :
    parseArgs (first ++ ' ' :: text) = [first, text] ↔
      text ≠ [] ∧ ∀ char ∈ text, splits char = false := by
  rw [parseArgs_cons hne hfirst, List.cons.injEq, eq_self, true_and]
  constructor
  · intro hparse
    refine ⟨?_, fun char hchar ↦ ?_⟩
    · rintro rfl
      cases hparse
    · rw [← Bool.not_eq_true]
      intro hsplits
      have hlength := length_parseArgs_lt ⟨char, hchar, hsplits⟩
      rw [hparse, List.map_singleton, List.sum_singleton] at hlength
      exact Nat.lt_irrefl _ hlength
  · exact fun htext ↦ parseArgs_of_not_splits htext.1 htext.2

end EntroTunnel.Foundation
