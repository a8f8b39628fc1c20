import EntroTunnel.Core.TextRules
import EntroTunnel.Foundation.ArgumentLine
import EntroTunnel.Foundation.ShellText

/-!
# The elevated relaunch

`elevate_relaunch` starts the app again with the rights of the administrator. On macOS it hands a
shell text to `sudo` or, within an AppleScript, to `osascript`; on Windows it hands a command to
PowerShell; on Linux it passes the arguments to `pkexec`. `Launch.starts` is what becomes of a
command: the programs that it starts, with their arguments. Commands of another form are not
interpreted.

`elevateRelaunch_exact_iff` says when the app is started with exactly the given arguments. The
quoting for macOS is right for every text. On Windows, PowerShell takes the typographic single
quotes for quotes too, and the arguments of `Start-Process` are joined without quotes.
-/

set_option autoImplicit false
set_option relaxedAutoImplicit false

namespace EntroTunnel.Desktop

open EntroTunnel.Core EntroTunnel.Foundation

/-! ### The commands -/

/-- The programs that are run: `/usr/bin/sudo`, `osascript`, `powershell` and `pkexec`. -/
inductive Program
  | usrBinSudo
  | osascript
  | powershell
  | pkexec
  deriving DecidableEq, Repr

/-- A program that is run, with its arguments. -/
structure Launch where
  program : Program
  args : List (List Char)
  deriving DecidableEq, Repr

/-- What `elevate_relaunch` is compiled for: macOS, where Touch ID may be enabled for `sudo`, with
the user id, Windows, or Linux. -/
inductive Platform
  | macos (touchId : Bool) (uid : ℕ)
  | windows
  | linux
  deriving DecidableEq, Repr

/-- The closure `q`: quoted for `/bin/sh`. -/
def shellQuoted (text : List Char) : List Char :=
  replaceEach '\'' "'\\''".toList text

/-- The shell text `inner`. -/
def launchText (uid : ℕ) (exe cfgDir : List Char) : List Char :=
  "launchctl asuser ".toList ++ Nat.toDigits 10 uid ++ " '".toList ++ shellQuoted exe ++
    "' --config-dir '".toList ++ shellQuoted cfgDir ++ "' >/dev/null 2>&1 &".toList

def appleScript (inner : List Char) : List Char :=
  "do shell script \"".toList ++
    replaceEach '"' "\\\"".toList (replaceEach '\\' "\\\\".toList inner) ++
    "\" with administrator privileges".toList

def startProcess (exe cfgDir : List Char) : List Char :=
  "Start-Process -FilePath '".toList ++ replaceEach '\'' "''".toList exe ++
    "' -ArgumentList '--config-dir','".toList ++ replaceEach '\'' "''".toList cfgDir ++
    "' -Verb RunAs".toList

def sudoLaunch (inner : List Char) : Launch :=
  ⟨.usrBinSudo, ["/bin/sh".toList, "-c".toList, inner]⟩

def osascriptLaunch (inner : List Char) : Launch :=
  ⟨.osascript, ["-e".toList, appleScript inner]⟩

def powershellLaunch (exe cfgDir : List Char) : Launch :=
  ⟨.powershell, ["-NoProfile".toList, "-WindowStyle".toList, "Hidden".toList, "-Command".toList,
    startProcess exe cfgDir]⟩

def pkexecLaunch (exe cfgDir : List Char) : Launch :=
  ⟨.pkexec, [exe, "--config-dir".toList, cfgDir]⟩

/-- The result of a program whose exit status is looked at. -/
def statusResult (status : Except String Bool) (refused : String) : Except String Unit :=
  match status with
  | .error error => .error error
  | .ok true => .ok ()
  | .ok false => .error refused

/-- `elevate_relaunch`: the programs that it runs and its result. `status` is how a program ends:
an error if it cannot be started, else whether it succeeds. -/
def elevateRelaunch (platform : Platform) (exe cfgDir : List Char)
    (status : Launch → Except String Bool) : List Launch × Except String Unit :=
  match platform with
  | .macos touchId uid =>
    let inner := launchText uid exe cfgDir
    let fingerprint := sudoLaunch inner
    let dialog := osascriptLaunch inner
    let result := statusResult (status dialog) "authorization was cancelled"
    if touchId then
      match status fingerprint with
      | .ok true => ([fingerprint], .ok ())
      -- `sudo` could not authorize: the dialog of AppleScript comes next.
      | _ => ([fingerprint, dialog], result)
    else ([dialog], result)
  | .windows =>
    let powershell := powershellLaunch exe cfgDir
    ([powershell], statusResult (status powershell) "UAC elevation was cancelled")
  | .linux =>
    let pkexec := pkexecLaunch exe cfgDir
    ([pkexec],
      match status pkexec with
      | .error error =>
        .error ("pkexec failed: " ++ error ++ " (install policykit, or run with sudo)")
      | .ok _ => .ok ())

/-! ### What becomes of a command -/

/-- A program that is started in the end, with its arguments. -/
structure Started where
  program : List Char
  args : List (List Char)
  deriving DecidableEq, Repr

/-- `launchctl asuser` runs a program in the session of a user. -/
def launchctlStarts : List (List Char) → Option Started
  | launchctl :: asuser :: uid :: program :: args =>
    if launchctl = "launchctl".toList ∧ asuser = "asuser".toList ∧ uid.all Char.isDigit then
      some ⟨program, args⟩
    else none
  | _ => none

/-- What a shell text starts. -/
def shellStarts (text : List Char) : Option (List Started) :=
  (shellCommands text).bind fun commands ↦
    commands.mapM fun command ↦ launchctlStarts command.words

/-- The escape sequences of an AppleScript literal. -/
def appleUnescape : Char → Option Char
  | '\\' => some '\\'
  | '"' => some '"'
  | 'n' => some '\n'
  | 'r' => some '\r'
  | 't' => some '\t'
  | _ => none

/-- What `do shell script` with a literal starts. -/
def scriptStarts (script : List Char) : Option (List Started) := do
  let rest ← stripPrefix "do shell script \"".toList script
  let (text, rest) ← readEscaped '"' '\\' appleUnescape rest
  if rest = " with administrator privileges".toList then shellStarts text else none

/-- The characters that PowerShell takes for a single quote: the ASCII one and the typographic ones
from U+2018 to U+201B. -/
def isSingleQuote (char : Char) : Bool :=
  char = '\'' || (0x2018 ≤ char.toNat && char.toNat ≤ 0x201B)

/-- What `Start-Process` with two arguments starts: none of its values may be empty, and it joins
the arguments with a space. -/
def startProcessStarts (command : List Char) : Option (List Started) := do
  let rest ← stripPrefix "Start-Process -FilePath '".toList command
  let (file, rest) ← readDoubled isSingleQuote rest
  let rest ← stripPrefix " -ArgumentList '".toList rest
  let (first, rest) ← readDoubled isSingleQuote rest
  let rest ← stripPrefix ",'".toList rest
  let (second, rest) ← readDoubled isSingleQuote rest
  if rest = " -Verb RunAs".toList ∧ file ≠ [] ∧ first ≠ [] ∧ second ≠ [] then
    some [⟨file, parseArgs (first ++ ' ' :: second)⟩]
  else none

/-- What a program that is run starts. -/
def Launch.starts (launch : Launch) : Option (List Started) :=
  match launch.program, launch.args with
  | .usrBinSudo, [shell, flag, text] =>
    if shell = "/bin/sh".toList ∧ flag = "-c".toList then shellStarts text else none
  | .osascript, [flag, script] => if flag = "-e".toList then scriptStarts script else none
  | .powershell, [profile, window, style, flag, command] =>
    if profile = "-NoProfile".toList ∧ window = "-WindowStyle".toList ∧ style = "Hidden".toList ∧
        flag = "-Command".toList then
      startProcessStarts command
    else none
  | .pkexec, program :: args => some [⟨program, args⟩]
  | _, _ => none

/-- The app with its configuration directory, and nothing else. -/
def relaunched (exe cfgDir : List Char) : List Started :=
  [⟨exe, ["--config-dir".toList, cfgDir]⟩]

/-! ### The shells of macOS -/

theorem plain_of_isDigit {char : Char} (hdigit : char.isDigit = true) : isPlain char = true := by
  rw [isPlain, Char.isAlphanum, hdigit]
  simp

theorem append_words (launchctl asuser uid exe flag cfgDir name rest : List Char) :
    (launchctl ++ ' ' :: (asuser ++ [' '])) ++ uid ++ [' ', '\''] ++ exe ++
        ('\'' :: ' ' :: (flag ++ [' ', '\''])) ++ cfgDir ++
        ('\'' :: ' ' :: '>' :: (name ++ ' ' :: rest)) =
      launchctl ++ ' ' :: (asuser ++ ' ' :: (uid ++ ' ' :: ('\'' :: (exe ++ '\'' :: ' ' ::
        (flag ++ ' ' :: ('\'' :: (cfgDir ++ '\'' :: ' ' ::
          ('>' :: (name ++ ' ' :: rest))))))))) := by
  simp

/-- The shell text, word by word. -/
theorem launchText_eq (uid : ℕ) (exe cfgDir : List Char) :
    launchText uid exe cfgDir =
      "launchctl".toList ++ ' ' :: ("asuser".toList ++ ' ' :: (Nat.toDigits 10 uid ++ ' ' ::
        ('\'' :: (shellQuoted exe ++ '\'' :: ' ' :: ("--config-dir".toList ++ ' ' ::
          ('\'' :: (shellQuoted cfgDir ++ '\'' :: ' ' ::
            ('>' :: ("/dev/null".toList ++ ' ' :: "2>&1 &".toList))))))))) :=
  append_words "launchctl".toList "asuser".toList (Nat.toDigits 10 uid) (shellQuoted exe)
    "--config-dir".toList (shellQuoted cfgDir) "/dev/null".toList "2>&1 &".toList

/-- The shell reads the text as one command. -/
theorem shellCommands_launchText (uid : ℕ) (exe cfgDir : List Char) :
    shellCommands (launchText uid exe cfgDir) =
      some [⟨["launchctl".toList, "asuser".toList, Nat.toDigits 10 uid, exe, "--config-dir".toList,
        cfgDir], [("1".toList, .file "/dev/null".toList), ("2".toList, .descriptor "1".toList)],
        true⟩] := by
  have huid : ∀ char ∈ Nat.toDigits 10 uid, isPlain char = true := fun char hchar ↦
    plain_of_isDigit (Nat.isDigit_of_mem_toDigits (by decide) (by decide) hchar)
  have hend (tokens : List ShellToken) : ShellLexer.lex ⟨.blank, tokens⟩ "2>&1 &".toList =
      some ⟨.blank, tokens ++ [.ioNumber "2".toList] ++ [.greatAnd] ++ [.word "1".toList] ++
        [.amp]⟩ := rfl
  rw [shellCommands, launchText_eq, ShellLexer.lex_plain _ (by decide) (by decide),
    ShellLexer.lex_plain _ (by decide) (by decide), ShellLexer.lex_plain _ Nat.toDigits_ne_nil huid,
    shellQuoted, ShellLexer.lex_singleQuoted, ShellLexer.lex_plain _ (by decide) (by decide),
    shellQuoted, ShellLexer.lex_singleQuoted, ShellLexer.lex_great _ (by decide) (by decide), hend,
    Option.bind_some]
  rfl

theorem shellStarts_launchText (uid : ℕ) (exe cfgDir : List Char) :
    shellStarts (launchText uid exe cfgDir) = some (relaunched exe cfgDir) := by
  have huid : (Nat.toDigits 10 uid).all Char.isDigit = true :=
    List.all_eq_true.mpr fun char hchar ↦
      Nat.isDigit_of_mem_toDigits (by decide) (by decide) hchar
  rw [shellStarts, shellCommands_launchText, Option.bind_some, List.mapM_cons, launchctlStarts,
    if_pos ⟨rfl, rfl, huid⟩]
  rfl

theorem appleScript_eq (inner : List Char) :
    appleScript inner = "do shell script \"".toList ++
      (replaceEach '"' "\\\"".toList (replaceEach '\\' "\\\\".toList inner) ++
        '"' :: " with administrator privileges".toList) :=
  List.append_assoc ..

/-- AppleScript hands the shell the text that was quoted for it. -/
theorem scriptStarts_appleScript (inner : List Char) :
    scriptStarts (appleScript inner) = shellStarts inner := by
  have hread : readEscaped '"' '\\' appleUnescape
      (replaceEach '"' "\\\"".toList (replaceEach '\\' "\\\\".toList inner) ++
        '"' :: " with administrator privileges".toList) =
      some (inner, " with administrator privileges".toList) := by
    have hquote : appleUnescape '"' = some '"' := rfl
    have hescape : appleUnescape '\\' = some '\\' := rfl
    have hne : '\\' ≠ '"' := by decide
    exact readEscaped_escaped hquote hescape hne inner _
  rw [scriptStarts, appleScript_eq, stripPrefix_append, Option.bind_eq_bind, Option.bind_some,
    hread, Option.bind_eq_bind, Option.bind_some]
  exact if_pos rfl

/-! ### PowerShell -/

theorem append_literals (start exe list flag comma cfgDir verb : List Char) :
    start ++ exe ++ ('\'' :: (list ++ (flag ++ '\'' :: comma))) ++ cfgDir ++ ('\'' :: verb) =
      start ++ (exe ++ '\'' ::
        (list ++ (flag ++ '\'' :: (comma ++ (cfgDir ++ '\'' :: verb))))) := by
  simp

/-- The command, literal by literal. -/
theorem startProcess_eq (exe cfgDir : List Char) :
    startProcess exe cfgDir =
      "Start-Process -FilePath '".toList ++ (replaceEach '\'' ['\'', '\''] exe ++ '\'' ::
        (" -ArgumentList '".toList ++ ("--config-dir".toList ++ '\'' ::
          (",'".toList ++ (replaceEach '\'' ['\'', '\''] cfgDir ++ '\'' ::
            " -Verb RunAs".toList))))) :=
  append_literals "Start-Process -FilePath '".toList (replaceEach '\'' "''".toList exe)
    " -ArgumentList '".toList "--config-dir".toList ",'".toList
    (replaceEach '\'' "''".toList cfgDir) " -Verb RunAs".toList

/-- A command that starts something consists of three literals between fixed texts. -/
theorem literals_of_startProcessStarts {command : List Char} {started : List Started}
    (hstarts : startProcessStarts command = some started) :
    ∃ file first second text₁ text₂ text₃,
      command = "Start-Process -FilePath '".toList ++ text₁ ∧
      readDoubled isSingleQuote text₁ = some (file, " -ArgumentList '".toList ++ text₂) ∧
      readDoubled isSingleQuote text₂ = some (first, ",'".toList ++ text₃) ∧
      readDoubled isSingleQuote text₃ = some (second, " -Verb RunAs".toList) ∧
      file ≠ [] ∧ second ≠ [] ∧ started = [⟨file, parseArgs (first ++ ' ' :: second)⟩] := by
  rw [startProcessStarts] at hstarts
  obtain ⟨text₁, hstart, hstarts⟩ := Option.bind_eq_some_iff.mp hstarts
  obtain ⟨⟨file, rest₁⟩, hfile, hstarts⟩ := Option.bind_eq_some_iff.mp hstarts
  obtain ⟨text₂, hlist, hstarts⟩ := Option.bind_eq_some_iff.mp hstarts
  obtain ⟨⟨first, rest₂⟩, hfirst, hstarts⟩ := Option.bind_eq_some_iff.mp hstarts
  obtain ⟨text₃, hcomma, hstarts⟩ := Option.bind_eq_some_iff.mp hstarts
  obtain ⟨⟨second, rest₃⟩, hsecond, hstarts⟩ := Option.bind_eq_some_iff.mp hstarts
  obtain ⟨⟨hverb, hfileNe, -, hsecondNe⟩, hstarted⟩ := Option.ite_none_right_eq_some.mp hstarts
  refine ⟨file, first, second, text₁, text₂, text₃, eq_append_of_stripPrefix hstart, ?_, ?_, ?_,
    hfileNe, hsecondNe, (Option.some.inj hstarted).symm⟩
  · rw [← eq_append_of_stripPrefix hlist]
    exact hfile
  · rw [← eq_append_of_stripPrefix hcomma]
    exact hfirst
  · rw [hsecond, hverb]

theorem isSingleQuote_quote : isSingleQuote '\'' = true := by
  decide

theorem not_isSingleQuote_head {first : Char} (hfirst : isSingleQuote first = false)
    (rest : List Char) : ∀ char ∈ (first :: rest).head?, ¬isSingleQuote char = true := by
  intro char hchar
  rw [← Option.some.inj hchar, hfirst]
  exact Bool.false_ne_true

/-- The values are read back when they have no other quotes. -/
theorem startProcessStarts_startProcess {exe cfgDir : List Char}
    (hexe : strangers isSingleQuote '\'' exe = 0)
    (hcfgDir : strangers isSingleQuote '\'' cfgDir = 0) :
    startProcessStarts (startProcess exe cfgDir) =
      if exe ≠ [] ∧ cfgDir ≠ [] then
        some [⟨exe, parseArgs ("--config-dir".toList ++ ' ' :: cfgDir)⟩]
      else none := by
  have hblank : isSingleQuote ' ' = false := by decide
  have hcomma : isSingleQuote ',' = false := by decide
  have hflag : strangers isSingleQuote '\'' "--config-dir".toList = 0 := by decide
  have hname : replaceEach '\'' ['\'', '\''] "--config-dir".toList = "--config-dir".toList := by
    decide
  have hfile (rest : List Char) : readDoubled isSingleQuote
      (replaceEach '\'' ['\'', '\''] exe ++ '\'' :: (" -ArgumentList '".toList ++ rest)) =
      some (exe, " -ArgumentList '".toList ++ rest) :=
    readDoubled_doubled isSingleQuote_quote hexe (not_isSingleQuote_head hblank _)
  have hfirst (rest : List Char) : readDoubled isSingleQuote
      ("--config-dir".toList ++ '\'' :: (",'".toList ++ rest)) =
      some ("--config-dir".toList, ",'".toList ++ rest) :=
    hname ▸ readDoubled_doubled isSingleQuote_quote hflag (not_isSingleQuote_head hcomma _)
  have hsecond : readDoubled isSingleQuote
      (replaceEach '\'' ['\'', '\''] cfgDir ++ '\'' :: " -Verb RunAs".toList) =
      some (cfgDir, " -Verb RunAs".toList) :=
    readDoubled_doubled isSingleQuote_quote hcfgDir (not_isSingleQuote_head hblank _)
  have hflagNe : "--config-dir".toList ≠ [] := by decide
  rw [startProcessStarts, startProcess_eq, stripPrefix_append, Option.bind_eq_bind,
    Option.bind_some, hfile, Option.bind_eq_bind, Option.bind_some]
  dsimp only
  rw [stripPrefix_append, Option.bind_some, hfirst, Option.bind_some]
  dsimp only
  rw [stripPrefix_append, Option.bind_some, hsecond, Option.bind_some]
  refine if_congr ?_ rfl rfl
  exact ⟨fun hall ↦ ⟨hall.2.1, hall.2.2.2⟩, fun hall ↦ ⟨rfl, hall.1, hflagNe, hall.2⟩⟩

/-- An app that is started as it should be has no other quotes in its path and its directory. -/
theorem strangers_eq_zero_of_starts {exe cfgDir : List Char}
    (hstarts : startProcessStarts (startProcess exe cfgDir) = some (relaunched exe cfgDir)) :
    strangers isSingleQuote '\'' exe = 0 ∧ strangers isSingleQuote '\'' cfgDir = 0 := by
  obtain ⟨file, first, second, text₁, text₂, text₃, hcommand, hfile, hfirst, hsecond, -, -,
    hstarted⟩ := literals_of_startProcessStarts hstarts
  rw [startProcess_eq] at hcommand
  obtain rfl := List.append_cancel_left hcommand
  obtain ⟨hprogram, hargs⟩ := Started.mk.injEq .. ▸ List.cons_eq_cons.mp hstarted |>.1
  subst hprogram
  -- The arguments are shorter than the two literals and the blank between them.
  have hlength : "--config-dir".toList.length + cfgDir.length <
      first.length + 1 + second.length := by
    have hshorter := @length_parseArgs_lt (first ++ ' ' :: second) ⟨' ', by simp, by decide⟩
    rw [← hargs] at hshorter
    simp only [List.map_cons, List.map_nil, List.sum_cons, List.sum_nil, List.length_append,
      List.length_cons] at hshorter ⊢
    omega
  have hweight₁ := weight_of_readDoubled hfile
  have hweight₂ := weight_of_readDoubled hfirst
  have hweight₃ := weight_of_readDoubled hsecond
  have hexe := weight_replaceEach isSingleQuote_quote exe
  have hcfgDir := weight_replaceEach isSingleQuote_quote cfgDir
  have hflag : weight isSingleQuote "--config-dir".toList = 2 * "--config-dir".toList.length := by
    decide
  simp only [weight_append, weight_cons, isSingleQuote_quote, if_true] at hweight₁ hweight₂ hweight₃
  omega

/-- What Windows needs in order to start the app as it should be: there is a path and a directory,
neither has a typographic single quote, and the directory has no blank and no double quote. -/
def PassesAsIs (exe cfgDir : List Char) : Prop :=
  exe ≠ [] ∧ cfgDir ≠ [] ∧ (∀ char ∈ exe ++ cfgDir, isSingleQuote char = true → char = '\'') ∧
    ∀ char ∈ cfgDir, splits char = false

theorem strangers_eq_zero_iff (text : List Char) :
    strangers isSingleQuote '\'' text = 0 ↔
      ∀ char ∈ text, isSingleQuote char = true → char = '\'' := by
  simp [strangers, List.countP_eq_zero]

theorem startProcessStarts_iff (exe cfgDir : List Char) :
    startProcessStarts (startProcess exe cfgDir) = some (relaunched exe cfgDir) ↔
      PassesAsIs exe cfgDir := by
  have hflagNe : "--config-dir".toList ≠ [] := by decide
  have hflag : ∀ char ∈ "--config-dir".toList, splits char = false := by decide
  rw [PassesAsIs, List.forall_mem_append, ← strangers_eq_zero_iff, ← strangers_eq_zero_iff]
  constructor
  · intro hstarts
    obtain ⟨hexe, hcfgDir⟩ := strangers_eq_zero_of_starts hstarts
    rw [startProcessStarts_startProcess hexe hcfgDir] at hstarts
    obtain ⟨⟨hexeNe, hcfgDirNe⟩, hstarted⟩ := Option.ite_none_right_eq_some.mp hstarts
    have hargs : parseArgs ("--config-dir".toList ++ ' ' :: cfgDir) =
        ["--config-dir".toList, cfgDir] :=
      congrArg Started.args (List.head_eq_of_cons_eq (Option.some.inj hstarted))
    exact ⟨hexeNe, hcfgDirNe, ⟨hexe, hcfgDir⟩,
      ((parseArgs_join_iff hflagNe hflag cfgDir).mp hargs).2⟩
  · rintro ⟨hexeNe, hcfgDirNe, ⟨hexe, hcfgDir⟩, hsplits⟩
    rw [startProcessStarts_startProcess hexe hcfgDir, if_pos ⟨hexeNe, hcfgDirNe⟩,
      (parseArgs_join_iff hflagNe hflag cfgDir).mpr ⟨hcfgDirNe, hsplits⟩]
    rfl

/-! ### The relaunch -/

theorem sudoLaunch_starts (inner : List Char) : (sudoLaunch inner).starts = shellStarts inner := by
  rw [sudoLaunch, Launch.starts]
  exact if_pos ⟨rfl, rfl⟩

theorem osascriptLaunch_starts (inner : List Char) :
    (osascriptLaunch inner).starts = shellStarts inner := by
  rw [osascriptLaunch, Launch.starts, ← scriptStarts_appleScript]
  exact if_pos rfl

theorem powershellLaunch_starts (exe cfgDir : List Char) :
    (powershellLaunch exe cfgDir).starts = startProcessStarts (startProcess exe cfgDir) := by
  rw [powershellLaunch, Launch.starts]
  exact if_pos ⟨rfl, rfl, rfl, rfl⟩

/-- On macOS both ways hand over the same shell text. -/
theorem mem_elevateRelaunch_macos {touchId : Bool} {uid : ℕ} {exe cfgDir : List Char}
    {status : Launch → Except String Bool} {launch : Launch}
    (hlaunch : launch ∈ (elevateRelaunch (.macos touchId uid) exe cfgDir status).1) :
    launch = sudoLaunch (launchText uid exe cfgDir) ∨
      launch = osascriptLaunch (launchText uid exe cfgDir) := by
  simp only [elevateRelaunch] at hlaunch
  split at hlaunch
  · split at hlaunch
    · exact .inl (List.mem_singleton.mp hlaunch)
    · rw [List.mem_cons, List.mem_singleton] at hlaunch
      exact hlaunch
  · exact .inr (List.mem_singleton.mp hlaunch)

/-- The programs that `elevate_relaunch` runs start the app with exactly the given arguments, and
nothing else: always on macOS and Linux, and on Windows exactly if the texts pass as they are. -/
theorem elevateRelaunch_exact_iff (platform : Platform) (exe cfgDir : List Char)
    (status : Launch → Except String Bool) :
    (∀ launch ∈ (elevateRelaunch platform exe cfgDir status).1,
      launch.starts = some (relaunched exe cfgDir)) ↔
      (platform = .windows → PassesAsIs exe cfgDir) := by
  cases platform with
  | macos touchId uid =>
    refine iff_of_true (fun launch hlaunch ↦ ?_) Platform.noConfusion
    rcases mem_elevateRelaunch_macos hlaunch with rfl | rfl
    · rw [sudoLaunch_starts, shellStarts_launchText]
    · rw [osascriptLaunch_starts, shellStarts_launchText]
  | windows =>
    rw [elevateRelaunch, List.forall_mem_singleton, powershellLaunch_starts,
      startProcessStarts_iff, eq_self, forall_const]
  | linux =>
    refine iff_of_true (fun launch hlaunch ↦ ?_) Platform.noConfusion
    obtain rfl := List.mem_singleton.mp hlaunch
    rfl

/-- On Windows a directory with a space becomes two arguments. -/
theorem powershell_splits_directory :
    ∃ launch ∈ (elevateRelaunch .windows "C:\\EntroTunnel.exe".toList "C:\\My Dir".toList
        fun _ ↦ .ok true).1,
      launch.starts = some [⟨"C:\\EntroTunnel.exe".toList,
        ["--config-dir".toList, "C:\\My".toList, "Dir".toList]⟩] ∧
      launch.starts ≠ some (relaunched "C:\\EntroTunnel.exe".toList "C:\\My Dir".toList) := by
  have hargs : parseArgs ("--config-dir".toList ++ ' ' :: "C:\\My Dir".toList) =
      ["--config-dir".toList, "C:\\My".toList, "Dir".toList] := by
    decide
  have hstarts : (powershellLaunch "C:\\EntroTunnel.exe".toList "C:\\My Dir".toList).starts =
      some [⟨"C:\\EntroTunnel.exe".toList,
        ["--config-dir".toList, "C:\\My".toList, "Dir".toList]⟩] := by
    rw [powershellLaunch_starts, startProcessStarts_startProcess (by decide) (by decide),
      if_pos ⟨by decide, by decide⟩, hargs]
  refine ⟨_, List.mem_singleton_self _, hstarts, ?_⟩
  rw [hstarts]
  decide

end EntroTunnel.Desktop
