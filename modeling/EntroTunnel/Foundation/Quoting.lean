import Mathlib.Algebra.BigOperators.Group.List.Basic
import Mathlib.Algebra.Ring.Nat

/-!
# Quoted text

Two forms of a literal between quotes: one in which a quote is written twice (`readDoubled`), with
possibly several characters that count as quotes, and one in which a quote is written behind an
escape character (`readEscaped`). `readDoubled_doubled` and `readEscaped_escaped` read back what was
quoted. A weight that counts a quote once and any other character twice is left by the first form as
it was (`weight_of_readDoubled`); from it follows which texts are not read back.
-/

set_option autoImplicit false
set_option relaxedAutoImplicit false

namespace EntroTunnel.Foundation

variable {α : Type*}

/-! ### Literals in which a quote is written twice -/

section Doubled

variable (isQuote : α → Bool)

/-- The value of a literal, read behind its opening quote, and what follows its closing quote. Of
two quotes in a row the second one belongs to the value. -/
def readDoubled : List α → Option (List α × List α)
  | [] => none
  | item :: rest =>
    if isQuote item then
      match rest with
      | [] => some ([], [])
      | second :: later =>
        if isQuote second then (readDoubled later).map fun read ↦ (second :: read.1, read.2)
        else some ([], second :: later)
    else (readDoubled rest).map fun read ↦ (item :: read.1, read.2)

/-- A quote counts once, anything else twice. -/
def weight (text : List α) : ℕ :=
  (text.map fun item ↦ if isQuote item then 1 else 2).sum

variable {isQuote}

@[simp] theorem weight_nil : weight isQuote [] = 0 := rfl

theorem weight_cons (item : α) (text : List α) :
    weight isQuote (item :: text) = (if isQuote item then 1 else 2) + weight isQuote text := by
  rw [weight, List.map_cons, List.sum_cons, weight]

@[simp] theorem weight_append (first second : List α) :
    weight isQuote (first ++ second) = weight isQuote first + weight isQuote second := by
  rw [weight, List.map_append, List.sum_append, weight, weight]

/-- What is read has the weight of its value and of a closing quote. -/
theorem weight_of_readDoubled {text value rest : List α}
    (hread : readDoubled isQuote text = some (value, rest)) :
    weight isQuote text = 2 * value.length + 1 + weight isQuote rest := by
  induction text using readDoubled.induct isQuote generalizing value with
  | case1 => cases hread
  | case2 item hquote =>
    rw [readDoubled, if_pos hquote] at hread
    cases hread
    simp [weight_cons, hquote]
  | case3 item hquote second later hsecond ih =>
    rw [readDoubled, if_pos hquote, if_pos hsecond] at hread
    obtain ⟨read, hlater, hvalue⟩ := Option.map_eq_some_iff.mp hread
    cases hvalue
    rw [weight_cons, weight_cons, ih hlater, if_pos hquote, if_pos hsecond, List.length_cons]
    omega
  | case4 item hquote second later hsecond =>
    rw [readDoubled, if_pos hquote, if_neg hsecond] at hread
    cases hread
    rw [weight_cons, if_pos hquote, List.length_nil]
  | case5 item rest hquote ih =>
    rw [readDoubled.eq_def] at hread
    dsimp only at hread
    rw [if_neg hquote] at hread
    obtain ⟨read, hlater, hvalue⟩ := Option.map_eq_some_iff.mp hread
    cases hvalue
    rw [weight_cons, ih hlater, if_neg hquote, List.length_cons]
    omega

/-! ### Quoting and reading back -/

variable [DecidableEq α]

/-- Every `old` becomes the text `new`. -/
def replaceEach (old : α) (new text : List α) : List α :=
  text.flatMap fun item ↦ if item = old then new else [item]

@[simp] theorem replaceEach_nil (old : α) (new : List α) : replaceEach old new [] = [] := rfl

theorem replaceEach_cons (old : α) (new : List α) (item : α) (text : List α) :
    replaceEach old new (item :: text) =
      (if item = old then new else [item]) ++ replaceEach old new text := rfl

variable (isQuote) in
/-- The quotes of a text other than `quote`. -/
def strangers (quote : α) (text : List α) : ℕ :=
  text.countP fun item ↦ isQuote item && item ≠ quote

variable {quote : α}

/-- Doubling the quotes brings the weight of a text to twice its length, less one for each quote
that is not doubled. -/
theorem weight_replaceEach (hquote : isQuote quote = true) (text : List α) :
    weight isQuote (replaceEach quote [quote, quote] text) + strangers isQuote quote text =
      2 * text.length := by
  induction text with
  | nil => rfl
  | cons item rest ih =>
    rw [replaceEach_cons, weight_append, strangers, List.countP_cons, ← strangers,
      List.length_cons]
    by_cases hitem : item = quote
    · simp [hitem, weight_cons, hquote]
      omega
    · cases hstranger : isQuote item
      · simp [hitem, weight_cons, hstranger]
        omega
      · simp [hitem, weight_cons, hstranger]
        omega

/-- A text without other quotes is read back. -/
theorem readDoubled_doubled (hquote : isQuote quote = true) {text after : List α}
    (htext : strangers isQuote quote text = 0)
    (hafter : ∀ item ∈ after.head?, ¬isQuote item = true) :
    readDoubled isQuote (replaceEach quote [quote, quote] text ++ quote :: after) =
      some (text, after) := by
  induction text with
  | nil =>
    cases after with
    | nil => simp [readDoubled, hquote]
    | cons item later => simp [readDoubled, hquote, hafter item rfl]
  | cons item rest ih =>
    rw [strangers, List.countP_cons, ← strangers] at htext
    have hrest := ih (by omega)
    rw [replaceEach_cons]
    by_cases hitem : item = quote
    · simp [hitem, readDoubled, hquote, hrest]
    · have hplain : ¬isQuote item = true := by
        intro hstranger
        simp [hstranger, hitem] at htext
      rw [if_neg hitem, List.cons_append, List.nil_append, List.cons_append, readDoubled.eq_def]
      dsimp only
      rw [if_neg hplain, hrest]
      rfl

end Doubled

/-! ### Literals with escape sequences -/

section Escaped

variable [DecidableEq α] (quote escape : α) (unescape : α → Option α)

/-- The value of a literal, read behind its opening quote, and what follows its closing quote. -/
def readEscaped : List α → Option (List α × List α)
  | [] => none
  | item :: rest =>
    if item = quote then some ([], rest)
    else if item = escape then
      match rest with
      | [] => none
      | second :: later =>
        (unescape second).bind fun value ↦
          (readEscaped later).map fun read ↦ (value :: read.1, read.2)
    else (readEscaped rest).map fun read ↦ (item :: read.1, read.2)

variable {quote escape unescape}

/-- A text in which first the escape characters and then the quotes are escaped is read back. -/
theorem readEscaped_escaped (hquote : unescape quote = some quote)
    (hescape : unescape escape = some escape) (hne : escape ≠ quote) (text after : List α) :
    readEscaped quote escape unescape
        (replaceEach quote [escape, quote] (replaceEach escape [escape, escape] text) ++
          quote :: after) =
      some (text, after) := by
  induction text with
  | nil =>
    rw [replaceEach_nil, replaceEach_nil, List.nil_append, readEscaped.eq_def]
    exact if_pos rfl
  | cons item rest ih =>
    rw [replaceEach_cons]
    by_cases hitem : item = escape
    · simp [hitem, replaceEach_cons, hne, readEscaped, hescape, ih]
    · by_cases hsame : item = quote
      · simp [hsame, hne.symm, hne, replaceEach_cons, readEscaped, hquote, ih]
      · rw [if_neg hitem, List.cons_append, List.nil_append, replaceEach_cons, if_neg hsame,
          List.cons_append, List.nil_append, List.cons_append, readEscaped.eq_def]
        dsimp only
        rw [if_neg hsame, if_neg hitem, ih]
        rfl

end Escaped

end EntroTunnel.Foundation
