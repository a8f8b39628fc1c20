import EntroTunnel.Core.Text
import EntroTunnel.Foundation.Assignments

/-!
# The system proxy switch

`sysproxy::enable` points the proxy settings of the operating system at the local listener, with
`networksetup` on macOS, `gsettings` on GNOME and `reg` on Windows, and returns a guard whose
commands are run when it is dropped. Each command may succeed or fail by itself; one that fails
changes nothing. The settings of all three systems are one store here: a setting has a place (a
network service, a schema, a registry key) and a name there, and `writes` says which settings a
command assigns.

The guard never holds more than commands that switch the proxy off. `proxy_restored_iff` is the
exact condition under which this is what was there before.
-/

set_option autoImplicit false
set_option relaxedAutoImplicit false

namespace EntroTunnel.Client.SysProxy

open EntroTunnel.Core EntroTunnel.Foundation

/-! ### Commands and settings -/

/-- A setting by its place and its name there. -/
abbrev Setting := String × String

/-- The proxy settings of the operating system. -/
abbrev ProxySettings := Setting → Option String

/-- A program with its arguments. -/
structure ShellCommand where
  program : String
  args : List String
  deriving DecidableEq, Repr

/-- What a command assigns when it succeeds. -/
def writes : ShellCommand → List (Setting × Option String)
  | ⟨"networksetup", ["-setwebproxy", service, host, port]⟩ =>
    [((service, "HTTPProxy"), some host), ((service, "HTTPPort"), some port),
      ((service, "HTTPEnable"), some "on")]
  | ⟨"networksetup", ["-setsecurewebproxy", service, host, port]⟩ =>
    [((service, "HTTPSProxy"), some host), ((service, "HTTPSPort"), some port),
      ((service, "HTTPSEnable"), some "on")]
  | ⟨"networksetup", ["-setwebproxystate", service, state]⟩ =>
    [((service, "HTTPEnable"), some state)]
  | ⟨"networksetup", ["-setsecurewebproxystate", service, state]⟩ =>
    [((service, "HTTPSEnable"), some state)]
  | ⟨"gsettings", ["set", schema, key, value]⟩ => [((schema, key), some value)]
  | ⟨"reg", ["add", path, "/v", name, "/t", type, "/d", data, "/f"]⟩ =>
    [((path, name), some (type ++ ":" ++ data))]
  | _ => []

/-- The commands that the guard runs when it is dropped. -/
structure SysProxyGuard where
  undo : List ShellCommand
  deriving DecidableEq, Repr

def SysProxyGuard.noop : SysProxyGuard where
  undo := []

/-- `drop`, when its commands succeed. -/
def SysProxyGuard.drop (guard : SysProxyGuard) (settings : ProxySettings) : ProxySettings :=
  assign (guard.undo.flatMap writes) settings

/-- `run`: the settings after a command. -/
def runCommand (succeeds : ShellCommand → Bool) (command : ShellCommand)
    (settings : ProxySettings) : ProxySettings :=
  if succeeds command then assign (writes command) settings else settings

/-! ### The listen address -/

/-- `host_port`: a wildcard or empty host is reported as loopback. -/
def hostPort (listen : String) : String × String :=
  let (host, port) := (rsplitOnce ':' listen.toList).getD (listen.toList, "7890".toList)
  let host :=
    if host = [] ∨ host = "0.0.0.0".toList ∨ host = "::".toList ∨ host = "[::]".toList then
      "127.0.0.1".toList
    else
      let inner := host.dropWhile fun char ↦ char = '[' || char = ']'
      (inner.reverse.dropWhile fun char ↦ char = '[' || char = ']').reverse
  (String.ofList host, String.ofList port)

example : hostPort "0.0.0.0:7890" = ("127.0.0.1", "7890") := by decide +kernel

/-! ### macOS -/

/-- Whether a text occurs in another. -/
def contains (text : List Char) (sought : List Char) : Bool :=
  sought.isPrefixOf text || match text with
    | [] => false
    | _ :: rest => contains rest sought

/-- The service name of a line such as `(1) Wi-Fi`. -/
def serviceOnLine (line : List Char) : Option (List Char) :=
  (stripPrefix "(".toList line).bind fun rest ↦
    let mark := rest.takeWhile (· ≠ ')')
    if mark.length < rest.length && !contains mark "Hardware Port".toList then
      some (trim (rest.drop (mark.length + 1)))
    else none

/-- The loop over the service order listing: `last` is the service named last. -/
def serviceFrom (device : List Char) (last : Option (List Char)) :
    List (List Char) → Option (List Char)
  | [] => none
  | line :: rest =>
    match serviceOnLine (trim line) with
    | some service => serviceFrom device (some service) rest
    | none =>
      if contains (trim line) ("Device: ".toList ++ device) then last
      else serviceFrom device last rest

/-- `primary_service`, from what `route` and `networksetup` print if they run. -/
def primaryService (route order : Option Bytes) : Option String := do
  let route ← route
  let device ← (lines (fromUtf8Lossy route)).findSome? fun line ↦
    stripPrefix "interface:".toList (trim line)
  let order ← order
  let service ← serviceFrom (trim device) none (lines (fromUtf8Lossy order))
  return String.ofList service

/-- The command of a proxy of one kind on macOS. -/
def setWebProxy (service host port : String) : ShellCommand :=
  ⟨"networksetup", ["-setwebproxy", service, host, port]⟩

def setSecureWebProxy (service host port : String) : ShellCommand :=
  ⟨"networksetup", ["-setsecurewebproxy", service, host, port]⟩

/-- `enable_impl` on macOS. -/
def enableMacos (service : Option String) (succeeds : ShellCommand → Bool) (host port : String)
    (settings : ProxySettings) : SysProxyGuard × ProxySettings :=
  match service with
  | none => (.noop, settings)
  | some service =>
    let web := setWebProxy service host port
    let secure := setSecureWebProxy service host port
    let settings := runCommand succeeds secure (runCommand succeeds web settings)
    if !(succeeds web && succeeds secure) then (.noop, settings)
    else
      (⟨[⟨"networksetup", ["-setwebproxystate", service, "off"]⟩,
        ⟨"networksetup", ["-setsecurewebproxystate", service, "off"]⟩]⟩, settings)

/-! ### GNOME -/

def gnomeBase : String := "org.gnome.system.proxy"

def gsettings (schema key value : String) : ShellCommand :=
  ⟨"gsettings", ["set", schema, key, value]⟩

/-- `enable_impl` on Linux. -/
def enableLinux (succeeds : ShellCommand → Bool) (host port : String)
    (settings : ProxySettings) : SysProxyGuard × ProxySettings :=
  let mode := gsettings gnomeBase "mode" "manual"
  if !succeeds mode then (.noop, settings)
  else
    let settings := ["http", "https"].foldl (fun settings proto ↦
      let schema := gnomeBase ++ "." ++ proto
      runCommand succeeds (gsettings schema "port" port)
        (runCommand succeeds (gsettings schema "host" host) settings))
      (runCommand succeeds mode settings)
    (⟨[gsettings gnomeBase "mode" "none"]⟩, settings)

/-! ### Windows -/

def inetSettings : String :=
  "HKCU\\Software\\Microsoft\\Windows\\CurrentVersion\\Internet Settings"

def regAdd (name type data : String) : ShellCommand :=
  ⟨"reg", ["add", inetSettings, "/v", name, "/t", type, "/d", data, "/f"]⟩

/-- `WININET_REFRESH`. -/
def wininetRefresh : String :=
  "Add-Type -Namespace ET -Name WinInet -MemberDefinition " ++
    "'[System.Runtime.InteropServices.DllImport(\"wininet.dll\", SetLastError=true)] " ++
    "public static extern bool InternetSetOption(System.IntPtr h, int o, System.IntPtr b, int l);'; " ++
    "[void][ET.WinInet]::InternetSetOption([System.IntPtr]::Zero,39,[System.IntPtr]::Zero,0); " ++
    "[void][ET.WinInet]::InternetSetOption([System.IntPtr]::Zero,37,[System.IntPtr]::Zero,0)"

/-- The refresh of WinINet, which assigns no setting. -/
def refreshWininet : ShellCommand :=
  ⟨"powershell", ["-NoProfile", "-NonInteractive", "-Command", wininetRefresh]⟩

/-- `enable_impl` on Windows. -/
def enableWindows (succeeds : ShellCommand → Bool) (host port : String)
    (settings : ProxySettings) : SysProxyGuard × ProxySettings :=
  let server := regAdd "ProxyServer" "REG_SZ" (host ++ ":" ++ port)
  let override := regAdd "ProxyOverride" "REG_SZ" "localhost;127.*;<local>"
  let enable := regAdd "ProxyEnable" "REG_DWORD" "1"
  let settings := runCommand succeeds enable
    (runCommand succeeds override (runCommand succeeds server settings))
  if !(succeeds server && succeeds enable) then (.noop, settings)
  else
    (⟨[regAdd "ProxyEnable" "REG_DWORD" "0", refreshWininet]⟩,
      runCommand succeeds refreshWininet settings)

/-! ### Switching it on and off -/

/-- The operating system; on macOS with what `route` and `networksetup` print. -/
inductive Platform
  | macos (route order : Option Bytes)
  | linux
  | windows
  | other
  deriving DecidableEq, Repr

/-- `enable`. -/
def enable (platform : Platform) (succeeds : ShellCommand → Bool) (listen : String)
    (settings : ProxySettings) : SysProxyGuard × ProxySettings :=
  let host := (hostPort listen).1
  let port := (hostPort listen).2
  match platform with
  | .macos route order => enableMacos (primaryService route order) succeeds host port settings
  | .linux => enableLinux succeeds host port settings
  | .windows => enableWindows succeeds host port settings
  | .other => (.noop, settings)

/-- The settings after the guard was dropped. -/
def enableAndDrop (platform : Platform) (succeeds : ShellCommand → Bool) (listen : String)
    (settings : ProxySettings) : ProxySettings :=
  (enable platform succeeds listen settings).1.drop (enable platform succeeds listen settings).2

/-- A service has a proxy of one kind. -/
def HasProxy (settings : ProxySettings) (service kind host port state : String) : Prop :=
  settings (service, kind ++ "Proxy") = some host ∧ settings (service, kind ++ "Port") = some port ∧
    settings (service, kind ++ "Enable") = some state

/-- Before the switch, every setting that a successful command assigns has the value that is left
there at the end. -/
def AlreadyLeft (platform : Platform) (succeeds : ShellCommand → Bool) (listen : String)
    (settings : ProxySettings) : Prop :=
  let host := (hostPort listen).1
  let port := (hostPort listen).2
  match platform with
  | .macos route order =>
    ∀ service ∈ primaryService route order,
      let web := succeeds (setWebProxy service host port)
      let secure := succeeds (setSecureWebProxy service host port)
      (web → HasProxy settings service "HTTP" host port (if secure then "off" else "on")) ∧
        (secure → HasProxy settings service "HTTPS" host port (if web then "off" else "on"))
  | .linux =>
    succeeds (gsettings gnomeBase "mode" "manual") →
      settings (gnomeBase, "mode") = some "none" ∧ ∀ proto ∈ ["http", "https"],
        let schema := gnomeBase ++ "." ++ proto
        (succeeds (gsettings schema "host" host) → settings (schema, "host") = some host) ∧
          (succeeds (gsettings schema "port" port) → settings (schema, "port") = some port)
  | .windows =>
    let server := succeeds (regAdd "ProxyServer" "REG_SZ" (host ++ ":" ++ port))
    (server → settings (inetSettings, "ProxyServer") = some ("REG_SZ:" ++ (host ++ ":" ++ port))) ∧
      (succeeds (regAdd "ProxyOverride" "REG_SZ" "localhost;127.*;<local>") →
        settings (inetSettings, "ProxyOverride") = some "REG_SZ:localhost;127.*;<local>") ∧
      (succeeds (regAdd "ProxyEnable" "REG_DWORD" "1") →
        settings (inetSettings, "ProxyEnable") =
          some (if server then "REG_DWORD:0" else "REG_DWORD:1"))
  | .other => True

/-! ### What is left after dropping the guard -/

section Restored

variable {succeeds : ShellCommand → Bool} {host port : String} {settings : ProxySettings}

/-- What a command assigns, if it succeeds. -/
def attempted (succeeds : ShellCommand → Bool) (command : ShellCommand) :
    List (Setting × Option String) :=
  if succeeds command then writes command else []

theorem runCommand_eq (command : ShellCommand) (settings : ProxySettings) :
    runCommand succeeds command settings = assign (attempted succeeds command) settings :=
  assign_if _ _ _

theorem mem_attempted {command : ShellCommand} {setting : Setting} :
    setting ∈ (attempted succeeds command).map Prod.fst ↔
      succeeds command = true ∧ setting ∈ (writes command).map Prod.fst := by
  rw [attempted]
  split_ifs with hsucceeds <;> simp [hsucceeds]

/-- A command leaves everything as it was when what it assigns was there, unless it is assigned
again. -/
theorem attempted_eq_self_iff {command : ShellCommand}
    (hwrites : ((writes command).map Prod.fst).Nodup) (rest : List (Setting × Option String)) :
    assign (attempted succeeds command ++ rest) settings = settings ↔
      (succeeds command = true → ∀ write ∈ writes command, write.1 ∉ rest.map Prod.fst →
        settings write.1 = write.2) ∧ assign rest settings = settings :=
  assign_block_eq_self_iff hwrites _ rest settings

theorem writes_gsettings (schema key value : String) :
    writes (gsettings schema key value) = [((schema, key), some value)] := rfl

theorem writes_regAdd (name type data : String) :
    writes (regAdd name type data) = [((inetSettings, name), some (type ++ ":" ++ data))] := rfl

theorem writes_setWebProxy (service host port : String) :
    writes (setWebProxy service host port) =
      [((service, "HTTPProxy"), some host), ((service, "HTTPPort"), some port),
        ((service, "HTTPEnable"), some "on")] := rfl

theorem writes_setSecureWebProxy (service host port : String) :
    writes (setSecureWebProxy service host port) =
      [((service, "HTTPSProxy"), some host), ((service, "HTTPSPort"), some port),
        ((service, "HTTPSEnable"), some "on")] := rfl

theorem writes_proxyState (service : String) :
    writes ⟨"networksetup", ["-setwebproxystate", service, "off"]⟩ =
      [((service, "HTTPEnable"), some "off")] := rfl

theorem writes_secureProxyState (service : String) :
    writes ⟨"networksetup", ["-setsecurewebproxystate", service, "off"]⟩ =
      [((service, "HTTPSEnable"), some "off")] := rfl

theorem restored_macos (service : String) :
    (enableMacos (some service) succeeds host port settings).1.drop
        (enableMacos (some service) succeeds host port settings).2 = settings ↔
      (succeeds (setWebProxy service host port) →
        HasProxy settings service "HTTP" host port
          (if succeeds (setSecureWebProxy service host port) then "off" else "on")) ∧
        (succeeds (setSecureWebProxy service host port) →
          HasProxy settings service "HTTPS" host port
            (if succeeds (setWebProxy service host port) then "off" else "on")) := by
  by_cases hweb : succeeds (setWebProxy service host port) <;>
    by_cases hsecure : succeeds (setSecureWebProxy service host port) <;>
      simp [enableMacos, hweb, hsecure, SysProxyGuard.drop, SysProxyGuard.noop, runCommand,
        writes_setWebProxy, writes_setSecureWebProxy, writes_proxyState, writes_secureProxyState,
        ← assign_append, assign_eq_self_iff, HasProxy]
  -- The guard writes the two switches at the end.
  constructor
  · rintro ⟨hhost, hport, hhosts, hports, hon, hons⟩
    exact ⟨⟨hhost, hport, hon⟩, hhosts, hports, hons⟩
  · rintro ⟨⟨hhost, hport, hon⟩, hhosts, hports, hons⟩
    exact ⟨hhost, hport, hhosts, hports, hon, hons⟩

theorem restored_linux :
    (enableLinux succeeds host port settings).1.drop
        (enableLinux succeeds host port settings).2 = settings ↔
      (succeeds (gsettings gnomeBase "mode" "manual") →
        settings (gnomeBase, "mode") = some "none" ∧ ∀ proto ∈ ["http", "https"],
          (succeeds (gsettings (gnomeBase ++ "." ++ proto) "host" host) →
            settings (gnomeBase ++ "." ++ proto, "host") = some host) ∧
            (succeeds (gsettings (gnomeBase ++ "." ++ proto) "port" port) →
              settings (gnomeBase ++ "." ++ proto, "port") = some port)) := by
  by_cases hmode : succeeds (gsettings gnomeBase "mode" "manual")
  · simp only [enableLinux, hmode, Bool.not_true, Bool.false_eq_true, if_false, SysProxyGuard.drop,
      List.foldl_cons, List.foldl_nil, runCommand_eq, List.flatMap_singleton, ← assign_append,
      List.append_assoc]
    have hwrites : ∀ schema key value,
        ((writes (gsettings schema key value)).map Prod.fst).Nodup := by
      simp [writes_gsettings]
    rw [attempted_eq_self_iff (hwrites _ _ _), attempted_eq_self_iff (hwrites _ _ _),
      attempted_eq_self_iff (hwrites _ _ _), attempted_eq_self_iff (hwrites _ _ _),
      attempted_eq_self_iff (hwrites _ _ _)]
    -- Only the mode is assigned twice, so that its first value does not matter.
    simp [writes_gsettings, mem_attempted, assign_eq_self_iff, gnomeBase]
    constructor
    · rintro ⟨hhost, hport, hhosts, hports, hmanual⟩
      exact ⟨hmanual, ⟨hhost, hport⟩, hhosts, hports⟩
    · rintro ⟨hmanual, ⟨hhost, hport⟩, hhosts, hports⟩
      exact ⟨hhost, hport, hhosts, hports, hmanual⟩
  · simp [enableLinux, hmode, SysProxyGuard.drop, SysProxyGuard.noop]

theorem restored_windows :
    (enableWindows succeeds host port settings).1.drop
        (enableWindows succeeds host port settings).2 = settings ↔
      (succeeds (regAdd "ProxyServer" "REG_SZ" (host ++ ":" ++ port)) →
        settings (inetSettings, "ProxyServer") = some ("REG_SZ:" ++ (host ++ ":" ++ port))) ∧
        (succeeds (regAdd "ProxyOverride" "REG_SZ" "localhost;127.*;<local>") →
          settings (inetSettings, "ProxyOverride") = some "REG_SZ:localhost;127.*;<local>") ∧
        (succeeds (regAdd "ProxyEnable" "REG_DWORD" "1") →
          settings (inetSettings, "ProxyEnable") =
            some (if succeeds (regAdd "ProxyServer" "REG_SZ" (host ++ ":" ++ port)) then
              "REG_DWORD:0" else "REG_DWORD:1")) := by
  have hrefresh : writes refreshWininet = [] := rfl
  by_cases hserver : succeeds (regAdd "ProxyServer" "REG_SZ" (host ++ ":" ++ port)) <;>
    by_cases hoverride : succeeds (regAdd "ProxyOverride" "REG_SZ" "localhost;127.*;<local>") <;>
      by_cases henable : succeeds (regAdd "ProxyEnable" "REG_DWORD" "1") <;>
        simp [enableWindows, hserver, hoverride, henable, SysProxyGuard.drop, SysProxyGuard.noop,
          runCommand, writes_regAdd, hrefresh, ← assign_append, assign_eq_self_iff]

end Restored

/-- The settings are restored exactly when they were already as the switch leaves them. -/
theorem proxy_restored_iff (platform : Platform) (succeeds : ShellCommand → Bool) (listen : String)
    (settings : ProxySettings) :
    enableAndDrop platform succeeds listen settings = settings ↔
      AlreadyLeft platform succeeds listen settings := by
  cases platform with
  | macos route order =>
    simp only [enableAndDrop, enable, AlreadyLeft]
    cases primaryService route order with
    | none => exact iff_of_true rfl (by simp)
    | some service =>
      rw [restored_macos]
      simp
  | linux => exact restored_linux
  | windows => exact restored_windows
  | other => exact iff_of_true rfl trivial

/-- A store with a few settings. -/
def settingsOf (entries : List (Setting × String)) : ProxySettings :=
  fun setting ↦ entries.lookup setting

def wifiRoute : Bytes := "  interface: en0\n".toUTF8.data.toList

def wifiOrder : Bytes :=
  "(1) Wi-Fi\n(Hardware Port: Wi-Fi, Device: en0)\n".toUTF8.data.toList

example : primaryService (some wifiRoute) (some wifiOrder) = some "Wi-Fi" := by decide +kernel

/-- A manual proxy on GNOME is lost; on macOS, with everything off before, a proxy stays on when the
command for the other fails; on Windows the proxy of the user is switched off. -/
theorem proxy_not_restored :
    enableAndDrop .linux (fun _ ↦ true) "127.0.0.1:7890"
        (settingsOf [((gnomeBase, "mode"), "manual")]) ≠
          settingsOf [((gnomeBase, "mode"), "manual")] ∧
      enableAndDrop (.macos (some wifiRoute) (some wifiOrder))
        (fun command ↦ command = setWebProxy "Wi-Fi" "127.0.0.1" "7890") "127.0.0.1:7890"
        (settingsOf [(("Wi-Fi", "HTTPEnable"), "off")]) ≠
          settingsOf [(("Wi-Fi", "HTTPEnable"), "off")] ∧
      enableAndDrop .windows (fun _ ↦ true) "127.0.0.1:7890"
        (settingsOf [((inetSettings, "ProxyEnable"), "REG_DWORD:1")]) ≠
          settingsOf [((inetSettings, "ProxyEnable"), "REG_DWORD:1")] := by
  refine ⟨fun heq ↦ ?_, fun heq ↦ ?_, fun heq ↦ ?_⟩
  · exact absurd (congrFun heq (gnomeBase, "mode")) (by decide +kernel)
  · exact absurd (congrFun heq ("Wi-Fi", "HTTPEnable")) (by decide +kernel)
  · exact absurd (congrFun heq (inetSettings, "ProxyEnable")) (by decide +kernel)

end EntroTunnel.Client.SysProxy
