import EntroTunnel.Core.Text
import Mathlib.Data.List.TakeWhile

/-!
# Rules for the text operations

How lossy decoding, lines, words and trimming act on text that is put together from pieces. Decoding
splits in front of an ASCII byte (`fromUtf8Lossy_append`) and makes no line feed of other bytes
(`lineFeed_notMem`). A line is taken off at its line feed (`lines_append`), a word at its space
(`splitWhitespace_append`), and white space around a text is trimmed (`trim_append`). A text is cut
at its last separator (`rsplitOnce_append`), and a number is read from its digits
(`parseU16_digits`).
-/

set_option autoImplicit false
set_option relaxedAutoImplicit false

namespace EntroTunnel.Core

/-- ASCII text as bytes. -/
def ascii (text : List Char) : Bytes :=
  text.map fun char ↦ UInt8.ofNat char.toNat

def IsAscii (char : Char) : Prop :=
  char.toNat < 128

instance (char : Char) : Decidable (IsAscii char) :=
  inferInstanceAs (Decidable (char.toNat < 128))

theorem notMem_ascii {text : List Char} {byte : UInt8}
    (htext : ∀ char ∈ text, IsAscii char ∧ char.toNat ≠ byte.toNat) : byte ∉ ascii text := by
  intro hmem
  obtain ⟨char, hchar, rfl⟩ := List.mem_map.mp hmem
  obtain ⟨hascii, hne⟩ := htext char hchar
  exact hne (UInt8.toNat_ofNat_of_lt' (Nat.lt_trans hascii (by decide))).symm

/-- A condition on the characters of a text is tested on the text, not on all characters. -/
instance decidableForallText (text : List Char) (test : Char → Prop) [DecidablePred test] :
    Decidable (∀ char ∈ text, test char) :=
  List.decidableBAll test text

/-! ### Decoding -/

theorem fromUtf8Lossy_cons {byte : UInt8} (hbyte : byte < 0x80) (rest : Bytes) :
    fromUtf8Lossy (byte :: rest) = Char.ofNat byte.toNat :: fromUtf8Lossy rest := by
  rw [fromUtf8Lossy.eq_def]
  simp only [hbyte, if_true]
  rfl

theorem fromUtf8Lossy_ascii {text : List Char} (htext : ∀ char ∈ text, IsAscii char)
    (rest : Bytes) : fromUtf8Lossy (ascii text ++ rest) = text ++ fromUtf8Lossy rest := by
  induction text with
  | nil => rfl
  | cons char others ih =>
    have hchar : char.toNat < 128 := htext char List.mem_cons_self
    have hbyte : (UInt8.ofNat char.toNat).toNat = char.toNat :=
      UInt8.toNat_ofNat_of_lt' (Nat.lt_trans hchar (by decide))
    have hlt : UInt8.ofNat char.toNat < 0x80 := by
      rw [UInt8.lt_iff_toNat_lt, hbyte]
      exact hchar
    rw [ascii, List.map_cons, List.cons_append, fromUtf8Lossy_cons hlt, hbyte, Char.ofNat_toNat,
      List.cons_append]
    exact congrArg _ (ih fun other hother ↦ htext other (List.mem_cons_of_mem _ hother))

theorem isContinuation_of_lt {byte : UInt8} (hbyte : byte < 0x80) :
    isContinuation byte = false := by
  have hlt := UInt8.lt_iff_toNat_lt.mp hbyte
  simp only [isContinuation, Bool.and_eq_false_iff, decide_eq_false_iff_not, UInt8.le_iff_toNat_le]
  exact Or.inl (Nat.not_le.mpr hlt)

theorem secondFits_of_lt {byte : UInt8} (hbyte : byte < 0x80) (lead : UInt8) :
    secondFits lead byte = false := by
  have hlt : byte.toNat < 128 := UInt8.lt_iff_toNat_lt.mp hbyte
  have hbounds : ∀ low high : UInt8, 128 ≤ low.toNat →
      (decide (low ≤ byte) && decide (byte ≤ high)) = false := by
    intro low high hlow
    rw [Bool.and_eq_false_iff, decide_eq_false_iff_not, UInt8.le_iff_toNat_le]
    exact Or.inl (by omega)
  unfold secondFits
  split_ifs
  · exact hbounds _ _ (by decide)
  · exact hbounds _ _ (by decide)
  · exact hbounds _ _ (by decide)
  · exact hbounds _ _ (by decide)
  · exact isContinuation_of_lt hbyte

theorem fromUtf8Lossy_append (bytes : Bytes) {byte : UInt8} (hbyte : byte < 0x80) (rest : Bytes) :
    fromUtf8Lossy (bytes ++ byte :: rest) =
      fromUtf8Lossy bytes ++ fromUtf8Lossy (byte :: rest) := by
  have hcontinuation := isContinuation_of_lt hbyte
  have hfits := secondFits_of_lt hbyte
  fun_induction fromUtf8Lossy bytes with
  | case1 => rfl
  | _ =>
    simp only [List.cons_append, List.nil_append] at *
    conv_lhs => rw [fromUtf8Lossy.eq_def]
    simp only [*, if_true, if_false, Bool.false_eq_true]

theorem ofNat_ne_lineFeed {code : ℕ} (hcode : code ≠ 10) : Char.ofNat code ≠ '\n' := by
  intro heq
  have hnat : (Char.ofNat code).toNat = 10 := congrArg Char.toNat heq
  by_cases hvalid : code.isValidChar
  · rw [show Char.ofNat code = Char.ofNatAux code hvalid from dif_pos hvalid] at hnat
    exact hcode hnat
  · rw [show Char.ofNat code = Char.ofNatAux 0 (by decide) from dif_neg hvalid] at hnat
    exact absurd hnat (by decide)

theorem lineFeed_notMem {bytes : Bytes} (hbytes : 10 ∉ bytes) : '\n' ∉ fromUtf8Lossy bytes := by
  have hreplacement : '\n' ≠ replacement := by decide
  fun_induction fromUtf8Lossy bytes with
  | case1 => exact List.not_mem_nil
  | case2 lead rest hlead ih =>
    rw [List.mem_cons, not_or] at hbytes ⊢
    refine ⟨(ofNat_ne_lineFeed fun hcode ↦ hbytes.1 ?_).symm, ih hbytes.2⟩
    have hcode : lead.toNat = (10 : UInt8).toNat := hcode
    exact (UInt8.toNat_inj.mp hcode).symm
  | case4 lead hascii hlead second rest hsecond ih =>
    simp only [List.mem_cons, not_or] at hbytes ⊢
    refine ⟨(ofNat_ne_lineFeed ?_).symm, ih hbytes.2.2⟩
    simp only [Bool.and_eq_true, decide_eq_true_eq, UInt8.le_iff_toNat_le] at hlead
    change 64 * (lead.toNat % 32) + second.toNat % 64 ≠ 10
    have hlow : 194 ≤ lead.toNat := hlead.1
    have hhigh : lead.toNat ≤ 223 := hlead.2
    omega
  | case8 lead hascii htwo hlead second hsecond third rest hthird ih =>
    simp only [List.mem_cons, not_or] at hbytes ⊢
    refine ⟨(ofNat_ne_lineFeed ?_).symm, ih hbytes.2.2.2⟩
    change 64 * (64 * (lead.toNat % 16) + second.toNat % 64) + third.toNat % 64 ≠ 10
    simp only [Bool.and_eq_true, decide_eq_true_eq, UInt8.le_iff_toNat_le] at hlead
    have hlow : 224 ≤ lead.toNat := hlead.1
    have hhigh : lead.toNat ≤ 239 := hlead.2
    -- No overlong form begins with this lead byte.
    have hmin : lead.toNat % 16 = 0 → 32 ≤ second.toNat % 64 := by
      intro hzero
      have hlead : lead = 0xE0 := UInt8.toNat_inj.mp (show lead.toNat = 224 by omega)
      rw [secondFits, if_pos hlead, Bool.and_eq_true, decide_eq_true_eq, decide_eq_true_eq,
        UInt8.le_iff_toNat_le, UInt8.le_iff_toNat_le] at hsecond
      have hlow : 160 ≤ second.toNat := hsecond.1
      have hhigh : second.toNat ≤ 191 := hsecond.2
      omega
    omega
  | case14 lead hascii htwo hthree hlead second hsecond third hthird fourth rest hfourth ih =>
    simp only [List.mem_cons, not_or] at hbytes ⊢
    refine ⟨(ofNat_ne_lineFeed ?_).symm, ih hbytes.2.2.2.2⟩
    change 64 * (64 * (64 * (lead.toNat % 8) + second.toNat % 64) + third.toNat % 64) +
      fourth.toNat % 64 ≠ 10
    simp only [Bool.and_eq_true, decide_eq_true_eq, UInt8.le_iff_toNat_le] at hlead
    have hlow : 240 ≤ lead.toNat := hlead.1
    have hhigh : lead.toNat ≤ 244 := hlead.2
    have hmin : lead.toNat % 8 = 0 → 16 ≤ second.toNat % 64 := by
      intro hzero
      have hlead : lead = 0xF0 := UInt8.toNat_inj.mp (show lead.toNat = 240 by omega)
      rw [secondFits, if_neg (by rw [hlead]; decide), if_neg (by rw [hlead]; decide),
        if_pos hlead, Bool.and_eq_true, decide_eq_true_eq, decide_eq_true_eq,
        UInt8.le_iff_toNat_le, UInt8.le_iff_toNat_le] at hsecond
      have hlow : 144 ≤ second.toNat := hsecond.1
      have hhigh : second.toNat ≤ 191 := hsecond.2
      omega
    omega
  | _ => simp_all

/-! ### Lines and words -/

theorem linesFrom_append {line : List Char} (hline : '\n' ∉ line) (before rest : List Char) :
    linesFrom before (line ++ '\r' :: '\n' :: rest) = (before.reverse ++ line) :: lines rest := by
  induction line generalizing before with
  | nil => simp [linesFrom, lines]
  | cons char others ih =>
    rw [List.mem_cons, not_or] at hline
    rw [List.cons_append, linesFrom, ih hline.2, List.reverse_cons, List.append_assoc]
    · rfl
    · exact fun heq ↦ hline.1 heq.symm

/-- A line is taken off at its end. -/
theorem lines_append {line : List Char} (hline : '\n' ∉ line) (rest : List Char) :
    lines (line ++ '\r' :: '\n' :: rest) = line :: lines rest :=
  linesFrom_append hline [] rest

theorem linesFrom_lineFeed {line : List Char} (hline : '\n' ∉ line) (before rest : List Char) :
    linesFrom before (line ++ '\n' :: rest) =
      linesFrom (line.reverse ++ before) ('\n' :: rest) := by
  induction line generalizing before with
  | nil => rfl
  | cons char others ih =>
    rw [List.mem_cons, not_or] at hline
    have hstep : linesFrom before (char :: (others ++ '\n' :: rest)) =
        linesFrom (char :: before) (others ++ '\n' :: rest) := by
      rw [linesFrom]
      exact fun heq ↦ hline.1 heq.symm
    rw [List.cons_append, hstep, ih hline.2, List.reverse_cons, List.append_assoc]
    rfl

theorem splitWhitespaceFrom_append {word : List Char} (hword : ∀ char ∈ word, ¬isWhitespace char)
    (before rest : List Char) :
    splitWhitespaceFrom before (word ++ rest) =
      splitWhitespaceFrom (word.reverse ++ before) rest := by
  induction word generalizing before with
  | nil => rfl
  | cons char others ih =>
    rw [List.forall_mem_cons] at hword
    rw [List.cons_append, splitWhitespaceFrom, if_neg hword.1, ih hword.2, List.reverse_cons,
      List.append_assoc]
    rfl

/-- A word is taken off at its space. -/
theorem splitWhitespace_append {word : List Char} (hne : word ≠ [])
    (hword : ∀ char ∈ word, ¬isWhitespace char) (rest : List Char) :
    splitWhitespace (word ++ ' ' :: rest) = word :: splitWhitespace rest := by
  have hspace : isWhitespace ' ' := by decide
  have hne : word.reverse ≠ [] := by
    rw [ne_eq, List.reverse_eq_nil_iff]
    exact hne
  rw [splitWhitespace, splitWhitespaceFrom_append hword, List.append_nil, splitWhitespaceFrom,
    if_pos hspace, if_neg hne, List.reverse_reverse]
  rfl

/-! ### Trimming -/

theorem dropWhile_append_of_all {α : Type*} {test : α → Bool} {first : List α}
    (hfirst : ∀ item ∈ first, test item) (second : List α) :
    (first ++ second).dropWhile test = second.dropWhile test := by
  induction first with
  | nil => rfl
  | cons item rest ih =>
    rw [List.forall_mem_cons] at hfirst
    rw [List.cons_append, List.dropWhile_cons_of_pos hfirst.1, ih hfirst.2]

/-- White space around a text is trimmed, and nothing of the text itself. -/
theorem trim_append {left text right : List Char} (hleft : ∀ char ∈ left, isWhitespace char)
    (hright : ∀ char ∈ right, isWhitespace char) (hhead : ∀ char ∈ text.head?, ¬isWhitespace char)
    (hlast : ∀ char ∈ text.getLast?, ¬isWhitespace char) (hne : text ≠ []) :
    trim (left ++ text ++ right) = text := by
  obtain ⟨first, rest, rfl⟩ := List.exists_cons_of_ne_nil hne
  have hfirst : ¬isWhitespace first := hhead first rfl
  have hreverse : ((first :: rest).reverse).dropWhile isWhitespace = (first :: rest).reverse := by
    obtain ⟨last, others, hsplit⟩ := List.exists_cons_of_ne_nil
      (show (first :: rest).reverse ≠ [] by simp)
    have hgetLast : (first :: rest).getLast? = some last := by
      rw [← List.head?_reverse, hsplit, List.head?_cons]
    rw [hsplit, List.dropWhile_cons_of_neg (hlast last hgetLast)]
  rw [trim, List.append_assoc, dropWhile_append_of_all hleft, List.cons_append,
    List.dropWhile_cons_of_neg hfirst, ← List.cons_append, List.reverse_append,
    dropWhile_append_of_all (fun char hchar ↦ hright char (List.mem_reverse.mp hchar)), hreverse,
    List.reverse_reverse]

theorem trim_append_left {left text : List Char} (hleft : ∀ char ∈ left, isWhitespace char)
    (hhead : ∀ char ∈ text.head?, ¬isWhitespace char)
    (hlast : ∀ char ∈ text.getLast?, ¬isWhitespace char) (hne : text ≠ []) :
    trim (left ++ text) = text := by
  have hnone : ∀ char ∈ ([] : List Char), isWhitespace char := fun _ hchar ↦ nomatch hchar
  have htrim := trim_append hleft hnone hhead hlast hne
  rwa [List.append_nil] at htrim

theorem trim_append_right {text right : List Char} (hright : ∀ char ∈ right, isWhitespace char)
    (hhead : ∀ char ∈ text.head?, ¬isWhitespace char)
    (hlast : ∀ char ∈ text.getLast?, ¬isWhitespace char) (hne : text ≠ []) :
    trim (text ++ right) = text := by
  have hnone : ∀ char ∈ ([] : List Char), isWhitespace char := fun _ hchar ↦ nomatch hchar
  exact trim_append hnone hright hhead hlast hne

theorem dropWhile_of_head? {α : Type*} {test : α → Bool} {list : List α}
    (hhead : ∀ item ∈ list.head?, ¬test item) : list.dropWhile test = list := by
  cases list with
  | nil => rfl
  | cons first rest => exact List.dropWhile_cons_of_neg (hhead first rfl)

/-- A text without white space is left when white space around it is trimmed. -/
theorem trim_append_of_forall {left text right : List Char}
    (hleft : ∀ char ∈ left, isWhitespace char) (htext : ∀ char ∈ text, ¬isWhitespace char)
    (hright : ∀ char ∈ right, isWhitespace char) : trim (left ++ text ++ right) = text := by
  by_cases hne : text = []
  · subst hne
    have hall : ∀ char ∈ left ++ [] ++ right, isWhitespace char := by
      intro char hchar
      rw [List.append_nil, List.mem_append] at hchar
      exact hchar.elim (hleft char) (hright char)
    rw [trim, List.dropWhile_eq_nil_iff.mpr hall]
    rfl
  · exact trim_append hleft hright (fun char hchar ↦ htext char (List.mem_of_mem_head? hchar))
      (fun char hchar ↦ htext char (List.mem_of_getLast? hchar)) hne

/-- A text that does not begin with white space is trimmed to a beginning of itself. -/
theorem trim_isPrefix {text : List Char} (hhead : ∀ char ∈ text.head?, ¬isWhitespace char) :
    trim text <+: text := by
  rw [trim, dropWhile_of_head? hhead, ← List.reverse_suffix, List.reverse_reverse]
  exact List.dropWhile_suffix _

theorem trim_append_whitespace_left {left : List Char} (hleft : ∀ char ∈ left, isWhitespace char)
    (text : List Char) : trim (left ++ text) = trim text := by
  rw [trim, dropWhile_append_of_all hleft, trim]

theorem trim_append_whitespace {right : List Char} (hright : ∀ char ∈ right, isWhitespace char)
    (text : List Char) : trim (text ++ right) = trim text := by
  rw [trim, List.dropWhile_append, trim]
  split_ifs with hempty
  · rw [List.isEmpty_iff.mp hempty, List.dropWhile_eq_nil_iff.mpr hright]
  · rw [List.reverse_append,
      dropWhile_append_of_all fun char hchar ↦ hright char (List.mem_reverse.mp hchar)]

/-- `str::trim_end`. -/
def trimEnd (text : List Char) : List Char :=
  (text.reverse.dropWhile isWhitespace).reverse

theorem trimEnd_eq_nil_iff {text : List Char} :
    trimEnd text = [] ↔ ∀ char ∈ text, isWhitespace char := by
  rw [trimEnd, List.reverse_eq_nil_iff, List.dropWhile_eq_nil_iff]
  simp only [List.mem_reverse]

/-- White space is trimmed from the second of two parts, and from the first when nothing is left of
the second. -/
theorem trimEnd_append (first second : List Char) :
    trimEnd (first ++ second) =
      if trimEnd second = [] then trimEnd first else first ++ trimEnd second := by
  rw [trimEnd, List.reverse_append, List.dropWhile_append]
  simp only [trimEnd, List.isEmpty_iff, List.reverse_eq_nil_iff]
  split_ifs
  · rfl
  · rw [List.reverse_append, List.reverse_reverse]

theorem trim_of_head {char : Char} (hchar : ¬isWhitespace char) (text : List Char) :
    trim (char :: text) = trimEnd (char :: text) := by
  rw [trim, List.dropWhile_cons_of_neg hchar, trimEnd]

theorem trim_trimEnd (text : List Char) : trim (trimEnd text) = trim text := by
  have hright : ∀ char ∈ (text.reverse.takeWhile isWhitespace).reverse, isWhitespace char :=
    fun _ hchar ↦ List.mem_takeWhile_imp (List.mem_reverse.mp hchar)
  have htext : text = trimEnd text ++ (text.reverse.takeWhile isWhitespace).reverse := by
    rw [trimEnd, ← List.reverse_append, List.takeWhile_append_dropWhile, List.reverse_reverse]
  conv_rhs => rw [htext, trim_append_whitespace hright]

theorem trim_dropWhile (text : List Char) : trim (text.dropWhile isWhitespace) = trim text := by
  have hleft : ∀ char ∈ text.takeWhile isWhitespace, isWhitespace char := fun _ hchar ↦
    List.mem_takeWhile_imp hchar
  conv_rhs => rw [← List.takeWhile_append_dropWhile (p := isWhitespace) (l := text),
    trim_append_whitespace_left hleft]

theorem trim_trim (text : List Char) : trim (trim text) = trim text :=
  (trim_trimEnd _).trans (trim_dropWhile text)

/-- Nothing is left of a text exactly when it is white space. -/
theorem trim_eq_nil_iff {text : List Char} : trim text = [] ↔ ∀ char ∈ text, isWhitespace char := by
  constructor
  · intro htrim char hchar
    have hdrop : ∀ char ∈ text.dropWhile isWhitespace, isWhitespace char :=
      trimEnd_eq_nil_iff.mp htrim
    rw [← List.takeWhile_append_dropWhile (p := isWhitespace) (l := text), List.mem_append] at hchar
    exact hchar.elim List.mem_takeWhile_imp (hdrop char)
  · intro htext
    exact trimEnd_eq_nil_iff.mpr fun char hchar ↦ htext char (List.dropWhile_subset _ hchar)

/-- A line is taken off at its line feed, up to white space at its end. -/
theorem exists_lines_lineFeed {line : List Char} (hline : '\n' ∉ line) (rest : List Char) :
    ∃ first, lines (line ++ '\n' :: rest) = first :: lines rest ∧ trim first = trim line := by
  have hfrom := linesFrom_lineFeed hline [] rest
  rw [List.append_nil] at hfrom
  obtain ⟨before, hbefore⟩ | hnone :=
    (em (∃ before, line.reverse = '\r' :: before))
  · refine ⟨before.reverse, ?_, ?_⟩
    · rw [lines, hfrom, hbefore]
      rfl
    · have hline : line = before.reverse ++ ['\r'] := by
        rw [← List.reverse_reverse line, hbefore, List.reverse_cons]
      rw [hline, trim_append_whitespace (by decide)]
  · refine ⟨line, ?_, rfl⟩
    rw [lines, hfrom, linesFrom, List.reverse_reverse]
    · rfl
    · exact fun before hbefore ↦ hnone ⟨before, hbefore⟩

/-! ### Cutting a text -/

theorem takeWhile_append_cons {α : Type*} {test : α → Bool} {first : List α}
    (hfirst : ∀ item ∈ first, test item) {item : α} (hitem : ¬test item) (rest : List α) :
    (first ++ item :: rest).takeWhile test = first := by
  rw [List.takeWhile_append_of_pos hfirst, List.takeWhile_cons_of_neg hitem, List.append_nil]

/-- A text is cut at its last separator. -/
theorem rsplitOnce_append {separator : Char} {after : List Char} (hafter : separator ∉ after)
    (before : List Char) :
    rsplitOnce separator (before ++ separator :: after) = some (before, after) := by
  have htake : (before ++ separator :: after).reverse.takeWhile (· ≠ separator) =
      after.reverse := by
    rw [List.reverse_append, List.reverse_cons, List.append_assoc, List.singleton_append]
    refine takeWhile_append_cons (fun char hchar ↦ ?_) (by simp) _
    simp only [decide_eq_true_eq]
    exact fun heq ↦ hafter (heq ▸ List.mem_reverse.mp hchar)
  have hlength : (before ++ separator :: after).length - after.length - 1 = before.length := by
    rw [List.length_append, List.length_cons]
    omega
  rw [rsplitOnce, htake, List.length_reverse, if_pos (by simp; omega), hlength, List.take_left,
    List.reverse_reverse]

theorem rsplitOnce_of_notMem {separator : Char} {text : List Char} (htext : separator ∉ text) :
    rsplitOnce separator text = none := by
  have htake : text.reverse.takeWhile (· ≠ separator) = text.reverse := by
    rw [List.takeWhile_eq_self_iff]
    intro char hchar
    simp only [decide_eq_true_eq]
    exact fun heq ↦ htext (heq ▸ List.mem_reverse.mp hchar)
  rw [rsplitOnce, htake, List.length_reverse, if_neg (lt_irrefl _)]

/-- The parts of a cut text, with the separator between them, are the text. -/
theorem rsplitOnce_eq_some {separator : Char} {text before after : List Char}
    (hsplit : rsplitOnce separator text = some (before, after)) :
    text = before ++ separator :: after := by
  by_cases hmem : separator ∈ text
  · obtain ⟨first, second, hnot, hrev⟩ :=
      List.eq_append_cons_of_mem (List.mem_reverse.mpr hmem)
    have htext : text = second.reverse ++ separator :: first.reverse := by
      rw [← List.reverse_reverse text, hnot]
      simp
    rw [htext, rsplitOnce_append (by rwa [List.mem_reverse]), Option.some.injEq,
      Prod.mk.injEq] at hsplit
    rw [htext, hsplit.1, hsplit.2]
  · rw [rsplitOnce_of_notMem hmem] at hsplit
    cases hsplit

theorem stripPrefix_append (start rest : List Char) :
    stripPrefix start (start ++ rest) = some rest := by
  rw [stripPrefix, if_pos (List.isPrefixOf_iff_prefix.mpr (List.prefix_append _ _)),
    List.drop_left]

theorem eq_append_of_stripPrefix {start text rest : List Char}
    (hstrip : stripPrefix start text = some rest) : text = start ++ rest := by
  rw [stripPrefix, Option.ite_none_right_eq_some, List.isPrefixOf_iff_prefix] at hstrip
  obtain ⟨hbegins, hrest⟩ := hstrip
  rw [← Option.some.inj hrest]
  exact (List.prefix_iff_eq_append.mp hbegins).symm

theorem stripPrefix_eq_none {start text : List Char} :
    stripPrefix start text = none ↔ ¬start <+: text := by
  rw [stripPrefix, ite_eq_right_iff, List.isPrefixOf_iff_prefix]
  simp only [reduceCtorEq, imp_false]

/-- A word with a separator begins a text that has the same word before its first separator. -/
theorem eq_of_append_isPrefix {start word rest : List Char} {separator mark : Char}
    (hbegins : start ++ [separator] <+: word ++ mark :: rest) (hword : separator ∉ word)
    (hstart : mark ∉ start) : word = start ∧ mark = separator := by
  induction start generalizing word with
  | nil =>
    cases word with
    | nil => exact ⟨rfl, (List.cons_prefix_cons.mp hbegins).1.symm⟩
    | cons char others =>
      have hchar : separator = char := (List.cons_prefix_cons.mp hbegins).1
      exact absurd (hchar ▸ List.mem_cons_self) hword
  | cons first others ih =>
    rw [List.mem_cons, not_or] at hstart
    cases word with
    | nil => exact absurd (List.cons_prefix_cons.mp hbegins).1.symm hstart.1
    | cons char remaining =>
      obtain ⟨hchar, hothers⟩ := List.cons_prefix_cons.mp hbegins
      rw [List.mem_cons, not_or] at hword
      obtain ⟨hremaining, hmark⟩ := ih hothers hword.2 hstart.2
      exact ⟨by rw [hremaining, hchar], hmark⟩

/-! ### Numbers -/

theorem decimalFrom_digits {text : List Char} (htext : ∀ char ∈ text, char.isDigit) (value : ℕ) :
    decimalFrom value text = some (Nat.ofDigitChars 10 text value) := by
  induction text generalizing value with
  | nil => rfl
  | cons char rest ih =>
    rw [List.forall_mem_cons] at htext
    rw [decimalFrom, if_pos htext.1, ih htext.2, Nat.ofDigitChars_cons]

theorem isDigit_of_decimalFrom {text : List Char} {value number : ℕ}
    (htext : decimalFrom value text = some number) : ∀ char ∈ text, char.isDigit := by
  induction text generalizing value with
  | nil => simp
  | cons char rest ih =>
    rw [decimalFrom] at htext
    by_cases hchar : char.isDigit
    · rw [if_pos hchar] at htext
      exact List.forall_mem_cons.mpr ⟨hchar, ih htext⟩
    · rw [if_neg hchar] at htext
      cases htext

theorem parseU16_plus (rest : List Char) :
    parseU16 ('+' :: rest) = if rest = [] then none
      else (decimalFrom 0 rest).bind fun value ↦
        if value < 65536 then some (UInt16.ofNat value) else none :=
  rfl

theorem parseU16_of_head_ne {text : List Char} (hhead : text.head? ≠ some '+') :
    parseU16 text = if text = [] then none
      else (decimalFrom 0 text).bind fun value ↦
        if value < 65536 then some (UInt16.ofNat value) else none := by
  cases text with
  | nil => rfl
  | cons first rest =>
    have hfirst : first ≠ '+' := fun heq ↦ hhead (congrArg some heq)
    simp [parseU16, hfirst]

/-- A number is read from its digits. -/
theorem parseU16_digits {text : List Char} (hne : text ≠ []) (htext : ∀ char ∈ text, char.isDigit)
    (hlt : Nat.ofDigitChars 10 text 0 < 65536) :
    parseU16 text = some (UInt16.ofNat (Nat.ofDigitChars 10 text 0)) := by
  have hhead : text.head? ≠ some '+' := by
    intro heq
    exact absurd (htext '+' (List.mem_of_mem_head? heq)) (by decide)
  rw [parseU16_of_head_ne hhead, if_neg hne, decimalFrom_digits htext, Option.bind_some,
    if_pos hlt]

/-- A text that is read as a number has digits only, after a plus sign at most. -/
theorem isDigit_of_parseU16 {text : List Char} {number : UInt16}
    (htext : parseU16 text = some number) : ∀ char ∈ text, char = '+' ∨ char.isDigit := by
  by_cases hhead : text.head? = some '+'
  · obtain ⟨rest, rfl⟩ := List.head?_eq_some_iff.mp hhead
    rw [parseU16_plus, ite_eq_iff] at htext
    simp only [reduceCtorEq, and_false, false_or] at htext
    obtain ⟨value, hvalue, -⟩ := Option.bind_eq_some_iff.mp htext.2
    exact List.forall_mem_cons.mpr
      ⟨Or.inl rfl, fun char hchar ↦ Or.inr (isDigit_of_decimalFrom hvalue char hchar)⟩
  · rw [parseU16_of_head_ne hhead, ite_eq_iff] at htext
    simp only [reduceCtorEq, and_false, false_or] at htext
    obtain ⟨value, hvalue, -⟩ := Option.bind_eq_some_iff.mp htext.2
    exact fun char hchar ↦ Or.inr (isDigit_of_decimalFrom hvalue char hchar)

end EntroTunnel.Core
