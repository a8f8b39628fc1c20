import EntroTunnel.Foundation.Quoting
import Mathlib.Data.Option.Basic

/-!
# Shell text

The part of the language of the POSIX shell in which a text is a list of simple commands: words,
single quotes, backslashes, redirections and `&`. `shellCommands` reads a text; one with any other
construct (expansions, pipes, lists, double quotes, unquoted characters that are not plain) is not
read, so what is read means what it says. `lex_singleQuoted` is the rule for a text between single
quotes in which every single quote is written as `'\''`.
-/

set_option autoImplicit false
set_option relaxedAutoImplicit false

namespace EntroTunnel.Foundation

/-- The tokens; a number directly before a redirection is a token of its own. -/
inductive ShellToken
  | word (text : List Char)
  | ioNumber (digits : List Char)
  | great
  | greatAnd
  | amp
  deriving DecidableEq, Repr

/-- Where the reader is: between tokens, in a word, in single quotes, behind a backslash, or behind
a `>` that may be followed by `&`. -/
inductive ShellMode
  | blank
  | word (text : List Char) (quoted : Bool)
  | single (text : List Char)
  | escape (text : List Char)
  | great
  deriving DecidableEq, Repr

structure ShellLexer where
  mode : ShellMode
  tokens : List ShellToken
  deriving DecidableEq, Repr

/-- A character that stands for itself outside quotes. -/
def isPlain (char : Char) : Bool :=
  char.isAlphanum || "-_./:,+@".toList.contains char

namespace ShellLexer

/-- The word being read, if there is one. -/
def word (lexer : ShellLexer) : List Char :=
  match lexer.mode with
  | .word text _ => text
  | _ => []

/-- The tokens when the current one ends. -/
def ended (lexer : ShellLexer) : List ShellToken :=
  match lexer.mode with
  | .word text _ => lexer.tokens ++ [.word text]
  | .great => lexer.tokens ++ [.great]
  | _ => lexer.tokens

/-- The tokens when a `>` comes. -/
def redirected (lexer : ShellLexer) : List ShellToken :=
  match lexer.mode with
  | .word text false =>
    if text.all Char.isDigit then lexer.tokens ++ [.ioNumber text] else lexer.ended
  | _ => lexer.ended

/-- A character outside quotes. -/
def outside (lexer : ShellLexer) (char : Char) : Option ShellLexer :=
  if char = ' ' || char = '\t' then some ⟨.blank, lexer.ended⟩
  else if char = '&' then some ⟨.blank, lexer.ended ++ [.amp]⟩
  else if char = '>' then some ⟨.great, lexer.redirected⟩
  else
    let tokens := match lexer.mode with
      | .word _ _ => lexer.tokens
      | _ => lexer.ended
    if char = '\'' then some ⟨.single lexer.word, tokens⟩
    else if char = '\\' then some ⟨.escape lexer.word, tokens⟩
    else if isPlain char then
      let quoted := match lexer.mode with
        | .word _ quoted => quoted
        | _ => false
      some ⟨.word (lexer.word ++ [char]) quoted, tokens⟩
    else none

def step (lexer : ShellLexer) (char : Char) : Option ShellLexer :=
  match lexer.mode with
  | .single text =>
    if char = '\'' then some { lexer with mode := .word text true }
    else some { lexer with mode := .single (text ++ [char]) }
  | .escape text =>
    if char = '\n' then none else some { lexer with mode := .word (text ++ [char]) true }
  | .great =>
    if char = '&' then some ⟨.blank, lexer.tokens ++ [.greatAnd]⟩
    else if char = '>' then none
    else lexer.outside char
  | .blank | .word _ _ => lexer.outside char

/-- Read a text from a state of the reader on. -/
def lex (lexer : ShellLexer) (text : List Char) : Option ShellLexer :=
  text.foldlM step lexer

end ShellLexer

/-- What a redirection opens: a file, or a descriptor that is already open. -/
inductive ShellTarget
  | file (name : List Char)
  | descriptor (digits : List Char)
  deriving DecidableEq, Repr

/-- A simple command with its redirections. -/
structure ShellCommand where
  words : List (List Char)
  redirects : List (List Char × ShellTarget)
  background : Bool
  deriving DecidableEq, Repr

/-- The commands of a list of tokens; `words` and `redirects` belong to the first one. -/
def commandsFrom (words : List (List Char)) (redirects : List (List Char × ShellTarget)) :
    List ShellToken → Option (List ShellCommand)
  | [] => if words = [] ∧ redirects = [] then some [] else some [⟨words, redirects, false⟩]
  | .amp :: rest =>
    if words = [] ∧ redirects = [] then none
    else (commandsFrom [] [] rest).map (⟨words, redirects, true⟩ :: ·)
  | .word text :: rest => commandsFrom (words ++ [text]) redirects rest
  | .great :: .word name :: rest =>
    commandsFrom words (redirects ++ [("1".toList, .file name)]) rest
  | .greatAnd :: .word digits :: rest =>
    commandsFrom words (redirects ++ [("1".toList, .descriptor digits)]) rest
  | .ioNumber number :: .great :: .word name :: rest =>
    commandsFrom words (redirects ++ [(number, .file name)]) rest
  | .ioNumber number :: .greatAnd :: .word digits :: rest =>
    commandsFrom words (redirects ++ [(number, .descriptor digits)]) rest
  | _ => none

/-- The commands of a text. -/
def shellCommands (text : List Char) : Option (List ShellCommand) :=
  (ShellLexer.lex ⟨.blank, []⟩ text).bind fun lexer ↦
    match lexer.mode with
    | .single _ | .escape _ => none
    | _ => commandsFrom [] [] lexer.ended

namespace ShellLexer

theorem lex_append (lexer : ShellLexer) (first second : List Char) :
    lexer.lex (first ++ second) = (lexer.lex first).bind (lex · second) := by
  rw [lex, List.foldlM_append]
  rfl

theorem lex_cons (lexer : ShellLexer) (char : Char) (text : List Char) :
    lexer.lex (char :: text) = (lexer.step char).bind (lex · text) := by
  rw [lex, List.foldlM_cons]
  rfl

/-- Between single quotes a text with its quotes replaced is read as it is. -/
theorem lex_replaceEach (tokens : List ShellToken) (before text : List Char) :
    lex ⟨.single before, tokens⟩ (replaceEach '\'' "'\\''".toList text) =
      some ⟨.single (before ++ text), tokens⟩ := by
  induction text generalizing before with
  | nil =>
    rw [replaceEach_nil, List.append_nil]
    rfl
  | cons char rest ih =>
    rw [replaceEach_cons, lex_append]
    by_cases hquote : char = '\''
    · have hsequence : lex ⟨.single before, tokens⟩ "'\\''".toList =
          some ⟨.single (before ++ ['\'']), tokens⟩ := rfl
      rw [hquote, if_pos rfl, hsequence, Option.bind_some, ih, List.append_assoc,
        List.singleton_append]
    · have hstep : lex ⟨.single before, tokens⟩ [char] =
          some ⟨.single (before ++ [char]), tokens⟩ := by
        rw [lex_cons, step]
        dsimp only
        rw [if_neg hquote]
        rfl
      rw [if_neg hquote, hstep, Option.bind_some, ih, List.append_assoc, List.singleton_append]

theorem not_special_of_plain {char : Char} (hplain : isPlain char = true) :
    (char = ' ' || char = '\t') = false ∧ char ≠ '&' ∧ char ≠ '>' ∧ char ≠ '\'' ∧ char ≠ '\\' := by
  refine ⟨Bool.or_eq_false_iff.mpr ⟨decide_eq_false ?_, decide_eq_false ?_⟩, ?_, ?_, ?_, ?_⟩
  all_goals
    rintro rfl
    exact absurd hplain (by decide)

/-- A plain character goes on with the word, or starts one behind what has ended. -/
theorem outside_of_plain (lexer : ShellLexer) {char : Char} (hplain : isPlain char = true) :
    lexer.outside char = some
      (match lexer.mode with
      | .word text quoted => ⟨.word (text ++ [char]) quoted, lexer.tokens⟩
      | _ => ⟨.word [char] false, lexer.ended⟩) := by
  obtain ⟨hblank, hamp, hgreat, hquote, hslash⟩ := not_special_of_plain hplain
  rw [outside, hblank, if_neg Bool.false_ne_true, if_neg hamp, if_neg hgreat]
  dsimp only
  rw [if_neg hquote, if_neg hslash, if_pos hplain, word]
  cases lexer.mode <;> rfl

theorem step_word (tokens : List ShellToken) (text : List Char) (quoted : Bool) {char : Char}
    (hplain : isPlain char = true) :
    step ⟨.word text quoted, tokens⟩ char = some ⟨.word (text ++ [char]) quoted, tokens⟩ :=
  outside_of_plain _ hplain

theorem step_blank (tokens : List ShellToken) {char : Char} (hplain : isPlain char = true) :
    step ⟨.blank, tokens⟩ char = some ⟨.word [char] false, tokens⟩ :=
  outside_of_plain _ hplain

theorem step_great (tokens : List ShellToken) {char : Char} (hplain : isPlain char = true) :
    step ⟨.great, tokens⟩ char = some ⟨.word [char] false, tokens ++ [.great]⟩ := by
  obtain ⟨-, hamp, hgreat, -, -⟩ := not_special_of_plain hplain
  rw [step]
  dsimp only
  rw [if_neg hamp, if_neg hgreat]
  exact outside_of_plain _ hplain

/-- Plain characters up to a blank end the word. -/
theorem lex_word (tokens : List ShellToken) (before : List Char) (quoted : Bool) {text : List Char}
    (htext : ∀ char ∈ text, isPlain char = true) (rest : List Char) :
    lex ⟨.word before quoted, tokens⟩ (text ++ ' ' :: rest) =
      lex ⟨.blank, tokens ++ [.word (before ++ text)]⟩ rest := by
  induction text generalizing before with
  | nil =>
    have hblank : step ⟨.word before quoted, tokens⟩ ' ' =
        some ⟨.blank, tokens ++ [.word before]⟩ := rfl
    rw [List.nil_append, List.append_nil, lex_cons, hblank, Option.bind_some]
  | cons char others ih =>
    rw [List.forall_mem_cons] at htext
    rw [List.cons_append, lex_cons, step_word tokens before quoted htext.1, Option.bind_some,
      ih _ htext.2, List.append_assoc, List.singleton_append]

/-- Plain characters and a blank are a word. -/
theorem lex_plain (tokens : List ShellToken) {text : List Char} (hne : text ≠ [])
    (htext : ∀ char ∈ text, isPlain char = true) (rest : List Char) :
    lex ⟨.blank, tokens⟩ (text ++ ' ' :: rest) = lex ⟨.blank, tokens ++ [.word text]⟩ rest := by
  cases text with
  | nil => exact absurd rfl hne
  | cons char others =>
    rw [List.forall_mem_cons] at htext
    rw [List.cons_append, lex_cons, step_blank tokens htext.1, Option.bind_some,
      lex_word tokens _ _ htext.2, List.singleton_append]

/-- A redirection into a file with a plain name. -/
theorem lex_great (tokens : List ShellToken) {name : List Char} (hne : name ≠ [])
    (hname : ∀ char ∈ name, isPlain char = true) (rest : List Char) :
    lex ⟨.blank, tokens⟩ ('>' :: (name ++ ' ' :: rest)) =
      lex ⟨.blank, tokens ++ [.great] ++ [.word name]⟩ rest := by
  have hgreat : step ⟨.blank, tokens⟩ '>' = some ⟨.great, tokens⟩ := rfl
  cases name with
  | nil => exact absurd rfl hne
  | cons char others =>
    rw [List.forall_mem_cons] at hname
    rw [lex_cons, hgreat, Option.bind_some, List.cons_append, lex_cons, step_great tokens hname.1,
      Option.bind_some, lex_word _ _ _ hname.2, List.singleton_append]

/-- A text between single quotes and a blank are a word. -/
theorem lex_singleQuoted (tokens : List ShellToken) (text rest : List Char) :
    lex ⟨.blank, tokens⟩
        ('\'' :: (replaceEach '\'' "'\\''".toList text ++ '\'' :: ' ' :: rest)) =
      lex ⟨.blank, tokens ++ [.word text]⟩ rest := by
  have hstart : step ⟨.blank, tokens⟩ '\'' = some ⟨.single [], tokens⟩ := rfl
  have hclose : step ⟨.single ([] ++ text), tokens⟩ '\'' = some ⟨.word text true, tokens⟩ := rfl
  rw [lex_cons, hstart, Option.bind_some, lex_append, lex_replaceEach, Option.bind_some, lex_cons,
    hclose, Option.bind_some]
  have hblank := @lex_word tokens text true [] (fun _ hchar ↦ absurd hchar List.not_mem_nil) rest
  rwa [List.nil_append, List.append_nil] at hblank

end ShellLexer

end EntroTunnel.Foundation
