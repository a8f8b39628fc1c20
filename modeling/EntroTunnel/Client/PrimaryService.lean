import EntroTunnel.Client.SysProxy
import EntroTunnel.Core.TextRules
import Mathlib.Data.List.Infix
import Mathlib.Data.List.Nodup

/-!
# The primary network service on macOS

`netcfg.rs` and `sysproxy.rs` each look up the network service that has the device of the default
route, in what `networksetup -listnetworkserviceorder` prints: a head line, and for every service a
line with its name, a line with its hardware port and its device, and an empty line. Both remember
the name of the last service line and return it at the first hardware-port line that mentions the
device. `netcfg.rs` looks for the device up to the closing parenthesis, `sysproxy.rs` for its
beginning only, so that `en10` passes for `en1`.

A listing is a list of `NetworkService`s here. `serviceFrom_listing` and `netcfgFrom_listing` say
what the two loops make of its text, and `lookups_agree_iff` when both find the service that has
exactly the device.
-/

set_option autoImplicit false
set_option relaxedAutoImplicit false

namespace EntroTunnel.Client.PrimaryService

open EntroTunnel.Core SysProxy

/-! ### The lookup of the network setup -/

/-- What follows the first occurrence of a text. -/
def afterFirst (sought : List Char) : List Char → Option (List Char)
  | [] => if sought = [] then some [] else none
  | char :: rest =>
    match stripPrefix sought (char :: rest) with
    | some after => some after
    | none => afterFirst sought rest

/-- The loop of `netcfg::primary_service`: `name` is the service named last. -/
def netcfgFrom (device : List Char) (name : Option (List Char)) :
    List (List Char) → Option (List Char)
  | [] => none
  | line :: rest =>
    match stripPrefix "(".toList (trim line) with
    | none => netcfgFrom device name rest
    | some tail =>
      if "Hardware Port:".toList.isPrefixOf tail then
        if contains (trim line) ("Device: ".toList ++ device ++ ")".toList) then name
        else netcfgFrom device name rest
      else
        match afterFirst ") ".toList tail with
        | some service => netcfgFrom device (some (trim service)) rest
        | none => netcfgFrom device name rest

/-- The device of the default route, from what `route` prints. -/
def routeDevice (route : Bytes) : Option (List Char) :=
  ((lines (fromUtf8Lossy route)).findSome? fun line ↦
    stripPrefix "interface:".toList (trim line)).map trim

/-- `netcfg::primary_service`, from what `route` and `networksetup` print if they succeed. -/
def netcfgService (route order : Option Bytes) : Option String := do
  let route ← route
  let device ← routeDevice route
  let order ← order
  let service ← netcfgFrom device none (lines (fromUtf8Lossy order))
  return String.ofList service

/-! ### Listings -/

/-- A network service as it is listed. -/
structure NetworkService where
  /-- Its number, unless it is disabled. -/
  position : Option ℕ
  name : List Char
  hardwarePort : List Char
  device : List Char
  name_line : '\n' ∉ name
  hardwarePort_line : '\n' ∉ hardwarePort
  device_line : '\n' ∉ device

namespace NetworkService

variable (service : NetworkService)

def mark : List Char :=
  match service.position with
  | none => ['*']
  | some position => Nat.toDigits 10 position

def nameLine : List Char :=
  '(' :: (service.mark ++ [')'] ++ ' ' :: service.name)

/-- What stands in the hardware-port line before the device. -/
def portPart : List Char :=
  ' ' :: service.hardwarePort ++ ", ".toList

def portLine : List Char :=
  '(' :: ("Hardware Port:".toList ++
    (service.portPart ++ ("Device: ".toList ++ service.device ++ [')'])))

def text : List Char :=
  service.nameLine ++ '\n' :: (service.portLine ++ '\n' :: ['\n'])

/-- The hardware-port line has the device name after `Device: `, alone or as a beginning. -/
def Mentions (device : List Char) : Prop :=
  contains service.portLine ("Device: ".toList ++ device)

instance (device : List Char) : Decidable (service.Mentions device) :=
  inferInstanceAs (Decidable (contains service.portLine ("Device: ".toList ++ device) = true))

end NetworkService

/-- The head line of a listing. -/
def headLine : List Char :=
  "An asterisk (*) denotes that a network service is disabled.".toList

/-- What `networksetup -listnetworkserviceorder` prints. -/
def listingText (listing : List NetworkService) : List Char :=
  headLine ++ '\n' :: listing.flatMap NetworkService.text

/-- The name of the first service that has the device. -/
def serviceWith (device : List Char) (listing : List NetworkService) : Option String :=
  (listing.find? fun service ↦ service.device = device).map fun service ↦
    String.ofList service.name

/-- Both lookups return the service that has the device. -/
def LookupsAgree (route order : Bytes) (device : List Char) (listing : List NetworkService) :
    Prop :=
  netcfgService (some route) (some order) = primaryService (some route) (some order) ∧
    primaryService (some route) (some order) = serviceWith device listing

/-- The first service whose hardware-port line mentions the device is the one that has it, and its
name is not empty and has no white space around it. -/
def MentionedByOwner (device : List Char) (listing : List NetworkService) : Prop :=
  ∀ service ∈ listing.find? fun service ↦ service.Mentions device,
    service.device = device ∧ trim service.name = service.name ∧ service.name ≠ []

/-! ### The lines of a listing -/

theorem contains_iff {text sought : List Char} : contains text sought ↔ sought <:+: text := by
  induction text with
  | nil =>
    rw [contains, List.infix_nil, Bool.or_false, List.isPrefixOf_iff_prefix, List.prefix_nil]
  | cons char rest ih =>
    rw [contains, Bool.or_eq_true, List.isPrefixOf_iff_prefix, ih, List.infix_cons_iff]

theorem stripPrefix_parenthesis (rest : List Char) :
    stripPrefix "(".toList ('(' :: rest) = some rest :=
  stripPrefix_append ['('] rest

section Lines

variable (service : NetworkService)

theorem mem_mark {char : Char} (hchar : char ∈ service.mark) : char = '*' ∨ char.isDigit := by
  unfold NetworkService.mark at hchar
  cases hposition : service.position with
  | none =>
    rw [hposition] at hchar
    exact .inl (List.mem_singleton.mp hchar)
  | some position =>
    rw [hposition] at hchar
    exact .inr (Nat.isDigit_of_mem_toDigits (by decide) (by decide) hchar)

theorem notMem_mark {char : Char} (hstar : char ≠ '*') (hdigit : char.isDigit = false) :
    char ∉ service.mark := by
  intro hchar
  rcases mem_mark service hchar with hchar | hchar
  · exact hstar hchar
  · rw [hdigit] at hchar
    cases hchar

/-- Nothing is trimmed from a line in parentheses. -/
theorem trim_parenthesized (text : List Char) :
    trim ('(' :: text ++ [')']) = '(' :: text ++ [')'] := by
  rw [List.cons_append, trim_of_head (by decide), ← List.cons_append, trimEnd_append]
  exact if_neg (by decide)

/-- What is left of a name line: without a name the space goes, too. -/
theorem trim_nameLine : trim service.nameLine =
    '(' :: (service.mark ++ ')' ::
      if trim service.name = [] then [] else ' ' :: trimEnd service.name) := by
  have hnil : trimEnd (' ' :: service.name) = [] ↔ trim service.name = [] := by
    rw [trimEnd_eq_nil_iff, trim_eq_nil_iff, List.forall_mem_cons]
    exact and_iff_right (by decide)
  rw [NetworkService.nameLine, trim_of_head (by decide), ← List.cons_append, trimEnd_append]
  by_cases hname : trim service.name = []
  · have htrim := trim_parenthesized service.mark
    rw [List.cons_append, trim_of_head (by decide)] at htrim
    rw [if_pos (hnil.mpr hname), if_pos hname, htrim]
  · have hspace : trimEnd (' ' :: service.name) = ' ' :: trimEnd service.name := by
      have hname : trimEnd service.name ≠ [] := by
        rwa [ne_eq, trimEnd_eq_nil_iff, ← trim_eq_nil_iff]
      rw [← List.singleton_append, trimEnd_append, if_neg hname, List.singleton_append]
    rw [if_neg (mt hnil.mp hname), if_neg hname, hspace, List.cons_append, List.append_assoc]
    rfl

theorem portLine_eq : service.portLine =
    '(' :: ("Hardware Port:".toList ++ (service.portPart ++ ("Device: ".toList ++ service.device)))
      ++ [')'] := by
  simp only [NetworkService.portLine, List.cons_append, List.append_assoc]

theorem trim_portLine : trim service.portLine = service.portLine := by
  rw [portLine_eq, trim_parenthesized]

theorem lineFeed_notMem_nameLine : '\n' ∉ service.nameLine := by
  have hmark : '\n' ∉ service.mark := notMem_mark service (by decide) (by decide)
  simp [NetworkService.nameLine, hmark, service.name_line]

theorem lineFeed_notMem_portLine : '\n' ∉ service.portLine := by
  have hlabels :
      '\n' ∉ "Hardware Port:".toList ∧ '\n' ∉ ", ".toList ∧ '\n' ∉ "Device: ".toList := by
    decide
  simp only [NetworkService.portLine, NetworkService.portPart, List.mem_cons, List.mem_append,
    hlabels, service.hardwarePort_line, service.device_line, List.not_mem_nil, or_false, false_or]
  decide

/-- The three lines of a service, up to white space. -/
theorem exists_lines_text (rest : List Char) : ∃ first second third,
    lines (service.text ++ rest) = first :: second :: third :: lines rest ∧
      trim first = trim service.nameLine ∧ trim second = service.portLine ∧ trim third = [] := by
  obtain ⟨first, hfirst, htrimFirst⟩ := exists_lines_lineFeed
    (lineFeed_notMem_nameLine service) (service.portLine ++ '\n' :: '\n' :: rest)
  obtain ⟨second, hsecond, htrimSecond⟩ := exists_lines_lineFeed
    (lineFeed_notMem_portLine service) ('\n' :: rest)
  obtain ⟨third, hthird, htrimThird⟩ := exists_lines_lineFeed (List.not_mem_nil (a := '\n')) rest
  refine ⟨first, second, third, ?_, htrimFirst, htrimSecond.trans (trim_portLine service),
    htrimThird⟩
  rw [← hthird, List.nil_append, ← hsecond, ← hfirst, NetworkService.text]
  simp only [List.append_assoc, List.cons_append, List.nil_append]

end Lines

theorem exists_lines_listing (listing : List NetworkService) : ∃ first,
    lines (listingText listing) = first :: lines (listing.flatMap NetworkService.text) ∧
      trim first = headLine := by
  obtain ⟨first, hfirst, htrim⟩ := exists_lines_lineFeed
    (by decide +kernel : '\n' ∉ headLine) (listing.flatMap NetworkService.text)
  exact ⟨first, hfirst, htrim.trans (by decide +kernel)⟩

/-! ### The lookup of the system proxy -/

section SysProxy

variable (service : NetworkService)

theorem contains_mark : contains service.mark "Hardware Port".toList = false := by
  refine Bool.eq_false_iff.mpr fun hcontains ↦ ?_
  have hletter : 'H' ∉ service.mark := notMem_mark service (by decide) (by decide)
  exact hletter ((contains_iff.mp hcontains).subset (by decide))

theorem serviceOnLine_nameLine :
    serviceOnLine (trim service.nameLine) = some (trim service.name) := by
  have hmark : ')' ∉ service.mark := notMem_mark service (by decide) (by decide)
  have htake (rest : List Char) :
      (service.mark ++ ')' :: rest).takeWhile (· ≠ ')') = service.mark := by
    refine takeWhile_append_cons (fun char hchar ↦ ?_) (by simp) rest
    rw [decide_eq_true_eq]
    rintro rfl
    exact hmark hchar
  have hname : trim (if trim service.name = [] then [] else ' ' :: trimEnd service.name) =
      trim service.name := by
    split_ifs with hblank
    · exact hblank.symm
    · rw [← List.singleton_append, trim_append_whitespace_left (by decide), trim_trimEnd]
  rw [trim_nameLine, serviceOnLine, stripPrefix_parenthesis, Option.bind_some]
  simp only [htake, contains_mark]
  rw [if_pos (by simp), List.drop_append, List.drop_eq_nil_of_le (by omega)]
  simpa using hname

theorem serviceOnLine_portLine : serviceOnLine service.portLine = none := by
  have hcontains (rest : List Char) :
      contains (("Hardware Port:".toList ++ rest).takeWhile (· ≠ ')')) "Hardware Port".toList := by
    refine contains_iff.mpr (List.IsPrefix.isInfix ?_)
    rw [show "Hardware Port:".toList = "Hardware Port".toList ++ [':'] from rfl, List.append_assoc,
      List.takeWhile_append_of_pos (by decide)]
    exact List.prefix_append _ _
  rw [NetworkService.portLine, serviceOnLine, stripPrefix_parenthesis, Option.bind_some]
  simp only [hcontains]
  simp

/-- No text is mentioned in an empty line. -/
theorem contains_nil (device : List Char) : contains [] ("Device: ".toList ++ device) = false :=
  rfl

theorem serviceFrom_text (device : List Char) (last : Option (List Char)) (rest : List Char) :
    serviceFrom device last (lines (service.text ++ rest)) =
      if service.Mentions device then some (trim service.name)
      else serviceFrom device (some (trim service.name)) (lines rest) := by
  obtain ⟨first, second, third, hlines, hfirst, hsecond, hthird⟩ := exists_lines_text service rest
  have hblank : serviceOnLine [] = none := rfl
  rw [hlines, serviceFrom, hfirst, serviceOnLine_nameLine]
  simp only [serviceFrom, hsecond, serviceOnLine_portLine, hthird, hblank, contains_nil,
    Bool.false_eq_true, if_false]
  rfl

/-- The lookup of the system proxy ends at the first service that mentions the device. -/
theorem serviceFrom_listing (device : List Char) (listing : List NetworkService) :
    serviceFrom device none (lines (listingText listing)) =
      (listing.find? fun service ↦ service.Mentions device).map fun service ↦
        trim service.name := by
  have hrun : ∀ last, serviceFrom device last (lines (listing.flatMap NetworkService.text)) =
      (listing.find? fun service ↦ service.Mentions device).map fun service ↦
        trim service.name := by
    induction listing with
    | nil => exact fun last ↦ rfl
    | cons service others ih =>
      intro last
      rw [List.flatMap_cons, serviceFrom_text]
      by_cases hmentions : service.Mentions device
      · simp only [if_pos hmentions, List.find?_cons, decide_eq_true hmentions, Option.map_some]
      · simp only [if_neg hmentions, List.find?_cons, decide_eq_false hmentions, ih]
  obtain ⟨first, hlines, htrim⟩ := exists_lines_listing listing
  have hhead : contains headLine ("Device: ".toList ++ device) = false := by
    refine Bool.eq_false_iff.mpr fun hcontains ↦ ?_
    have hlabel : "Device: ".toList <:+: headLine :=
      (List.prefix_append _ _).isInfix.trans (contains_iff.mp hcontains)
    exact absurd hlabel (by decide +kernel)
  have hnone : serviceOnLine headLine = none := by decide
  rw [hlines, serviceFrom, htrim, hnone]
  simp only [hhead, Bool.false_eq_true, if_false]
  exact hrun none

end SysProxy

/-! ### The lookup of the network setup, on a listing -/

section Netcfg

variable (service : NetworkService)

/-- The hardware-port line has the device name between `Device: ` and a parenthesis. -/
def NetworkService.Closes (device : List Char) : Prop :=
  contains service.portLine ("Device: ".toList ++ device ++ ")".toList)

instance (device : List Char) : Decidable (service.Closes device) :=
  inferInstanceAs
    (Decidable (contains service.portLine ("Device: ".toList ++ device ++ ")".toList) = true))

/-- The service named last after a name line. -/
def named (name : Option (List Char)) : Option (List Char) :=
  if trim service.name = [] then name else some (trim service.name)

theorem afterFirst_append {first : Char} {sought before : List Char} (hbefore : first ∉ before)
    (rest : List Char) :
    afterFirst (first :: sought) (before ++ rest) = afterFirst (first :: sought) rest := by
  induction before with
  | nil => rfl
  | cons char others ih =>
    rw [List.mem_cons, not_or] at hbefore
    have hnone : stripPrefix (first :: sought) (char :: (others ++ rest)) = none :=
      stripPrefix_eq_none.mpr fun hbegins ↦ hbefore.1 (List.cons_prefix_cons.mp hbegins).1
    rw [List.cons_append, afterFirst, hnone]
    exact ih hbefore.2

theorem netcfgFrom_nameLine (device : List Char) (name : Option (List Char)) {line : List Char}
    (hline : trim line = trim service.nameLine) (rest : List (List Char)) :
    netcfgFrom device name (line :: rest) = netcfgFrom device (named service name) rest := by
  have hmark : ')' ∉ service.mark := notMem_mark service (by decide) (by decide)
  have hletter : 'H' ∉ service.mark := notMem_mark service (by decide) (by decide)
  have hport (tail : List Char) :
      "Hardware Port:".toList.isPrefixOf (service.mark ++ ')' :: tail) = false := by
    refine Bool.eq_false_iff.mpr fun hbegins ↦ ?_
    obtain ⟨after, hafter⟩ := List.isPrefixOf_iff_prefix.mp hbegins
    cases hcases : service.mark with
    | nil =>
      rw [hcases, List.nil_append] at hafter
      exact absurd (List.cons_eq_cons.mp hafter).1 (by decide)
    | cons char others =>
      rw [hcases, List.cons_append] at hafter
      rw [hcases] at hletter
      exact hletter ((List.cons_eq_cons.mp hafter).1 ▸ List.mem_cons_self)
  rw [netcfgFrom, hline, trim_nameLine, stripPrefix_parenthesis]
  simp only [hport, Bool.false_eq_true, if_false]
  rw [show ") ".toList = [')', ' '] from rfl, afterFirst_append hmark, named]
  by_cases hblank : trim service.name = []
  · rw [if_pos hblank, if_pos hblank]
    rfl
  · rw [if_neg hblank, if_neg hblank]
    change netcfgFrom device (some (trim (trimEnd service.name))) rest = _
    rw [trim_trimEnd]

theorem netcfgFrom_portLine (device : List Char) (name : Option (List Char)) {line : List Char}
    (hline : trim line = service.portLine) (rest : List (List Char)) :
    netcfgFrom device name (line :: rest) =
      if service.Closes device then name else netcfgFrom device name rest := by
  have hport (tail : List Char) :
      "Hardware Port:".toList.isPrefixOf ("Hardware Port:".toList ++ tail) = true :=
    List.isPrefixOf_iff_prefix.mpr (List.prefix_append _ _)
  have hstrip : stripPrefix "(".toList service.portLine = some ("Hardware Port:".toList ++
      (service.portPart ++ ("Device: ".toList ++ service.device ++ [')']))) :=
    stripPrefix_parenthesis _
  rw [netcfgFrom, hline, hstrip]
  simp only [hport, if_true]
  rfl

theorem netcfgFrom_text (device : List Char) (name : Option (List Char)) (rest : List Char) :
    netcfgFrom device name (lines (service.text ++ rest)) =
      if service.Closes device then named service name
      else netcfgFrom device (named service name) (lines rest) := by
  obtain ⟨first, second, third, hlines, hfirst, hsecond, hthird⟩ := exists_lines_text service rest
  have hempty (name : Option (List Char)) :
      netcfgFrom device name (third :: lines rest) = netcfgFrom device name (lines rest) := by
    rw [netcfgFrom, hthird]
    rfl
  rw [hlines, netcfgFrom_nameLine service device name hfirst,
    netcfgFrom_portLine service device _ hsecond, hempty]

/-- The lookup of the network setup passes over the head line. -/
theorem netcfgFrom_listing (device : List Char) (listing : List NetworkService) :
    netcfgFrom device none (lines (listingText listing)) =
      netcfgFrom device none (lines (listing.flatMap NetworkService.text)) := by
  obtain ⟨first, hlines, htrim⟩ := exists_lines_listing listing
  have hnone : stripPrefix "(".toList headLine = none := by decide
  rw [hlines, netcfgFrom, htrim, hnone]

theorem mentions_of_closes {service : NetworkService} {device : List Char}
    (hcloses : service.Closes device) : service.Mentions device :=
  contains_iff.mpr ((List.prefix_append _ _).isInfix.trans (contains_iff.mp hcloses))

theorem closes_of_device {service : NetworkService} {device : List Char}
    (hdevice : service.device = device) : service.Closes device := by
  refine contains_iff.mpr ?_
  rw [NetworkService.portLine, hdevice]
  exact ⟨'(' :: ("Hardware Port:".toList ++ service.portPart), [], by simp⟩

theorem netcfgFrom_find_some {device : List Char} {listing : List NetworkService}
    {found : NetworkService}
    (hfound : (listing.find? fun service ↦ service.Mentions device) = some found)
    (hcloses : found.Closes device) (hname : trim found.name ≠ []) (name : Option (List Char)) :
    netcfgFrom device name (lines (listing.flatMap NetworkService.text)) =
      some (trim found.name) := by
  induction listing generalizing name with
  | nil => cases hfound
  | cons service others ih =>
    rw [List.flatMap_cons, netcfgFrom_text]
    rw [List.find?_cons] at hfound
    by_cases hmentions : service.Mentions device
    · simp only [decide_eq_true hmentions, Option.some.injEq] at hfound
      subst hfound
      rw [if_pos hcloses, named, if_neg hname]
    · simp only [decide_eq_false hmentions] at hfound
      rw [if_neg (mt mentions_of_closes hmentions), ih hfound]

theorem netcfgFrom_find_none {device : List Char} {listing : List NetworkService}
    (hnone : (listing.find? fun service ↦ service.Mentions device) = none)
    (name : Option (List Char)) :
    netcfgFrom device name (lines (listing.flatMap NetworkService.text)) = none := by
  induction listing generalizing name with
  | nil => rfl
  | cons service others ih =>
    rw [List.flatMap_cons, netcfgFrom_text]
    rw [List.find?_cons] at hnone
    by_cases hmentions : service.Mentions device
    · simp only [decide_eq_true hmentions, reduceCtorEq] at hnone
    · simp only [decide_eq_false hmentions] at hnone
      rw [if_neg (mt mentions_of_closes hmentions), ih hnone]

/-- A service without a name is passed over, so no empty name is returned. -/
theorem netcfgFrom_ne_empty {name : Option (List Char)} (hname : name ≠ some [])
    (device : List Char) (listing : List NetworkService) :
    netcfgFrom device name (lines (listing.flatMap NetworkService.text)) ≠ some [] := by
  induction listing generalizing name with
  | nil => exact Option.some_ne_none [] ∘ Eq.symm
  | cons service others ih =>
    have hnamed : named service name ≠ some [] := by
      rw [named]
      split_ifs with hblank
      · exact hname
      · exact fun heq ↦ hblank (Option.some.inj heq)
    rw [List.flatMap_cons, netcfgFrom_text]
    split_ifs
    · exact hnamed
    · exact ih hnamed

end Netcfg

/-! ### When the lookups agree -/

section Agree

variable {route order : Bytes} {device : List Char} {listing : List NetworkService}

theorem primaryService_eq (hroute : routeDevice route = some device)
    (horder : fromUtf8Lossy order = listingText listing) :
    primaryService (some route) (some order) =
      (listing.find? fun service ↦ service.Mentions device).map fun service ↦
        String.ofList (trim service.name) := by
  obtain ⟨text, htext, rfl⟩ := Option.map_eq_some_iff.mp hroute
  have hlookup := serviceFrom_listing (trim text) listing
  rw [← horder] at hlookup
  simp only [primaryService, Option.bind_eq_bind, Option.bind_some, htext, hlookup]
  cases listing.find? fun service ↦ service.Mentions (trim text) <;> rfl

theorem netcfgService_eq (hroute : routeDevice route = some device)
    (horder : fromUtf8Lossy order = listingText listing) :
    netcfgService (some route) (some order) =
      (netcfgFrom device none (lines (listing.flatMap NetworkService.text))).map
        String.ofList := by
  have hlookup := netcfgFrom_listing device listing
  rw [← horder] at hlookup
  simp only [netcfgService, Option.bind_eq_bind, Option.bind_some, hroute, hlookup]
  cases netcfgFrom device none (lines (listing.flatMap NetworkService.text)) <;> rfl

/-- The owner that is mentioned first is the first owner. -/
theorem find?_device {found : NetworkService}
    (hfound : (listing.find? fun service ↦ service.Mentions device) = some found)
    (hdevice : found.device = device) :
    (listing.find? fun service ↦ service.device = device) = some found := by
  obtain ⟨-, before, after, rfl, hbefore⟩ := List.find?_eq_some_iff_append.mp hfound
  refine List.find?_eq_some_iff_append.mpr ⟨decide_eq_true hdevice, before, after, rfl, ?_⟩
  intro service hservice
  have hmentions := hbefore service hservice
  simp only [Bool.not_eq_true', decide_eq_false_iff_not] at hmentions ⊢
  exact fun howner ↦ hmentions (mentions_of_closes (closes_of_device howner))

theorem find?_device_none
    (hnone : (listing.find? fun service ↦ service.Mentions device) = none) :
    (listing.find? fun service ↦ service.device = device) = none := by
  rw [List.find?_eq_none] at hnone ⊢
  intro service hservice howner
  have hmentions := hnone service hservice
  rw [decide_eq_true_eq] at howner hmentions
  exact hmentions (mentions_of_closes (closes_of_device howner))

theorem lookupsAgree_of_mentionedByOwner (hroute : routeDevice route = some device)
    (horder : fromUtf8Lossy order = listingText listing)
    (howner : MentionedByOwner device listing) : LookupsAgree route order device listing := by
  rw [LookupsAgree, netcfgService_eq hroute horder, primaryService_eq hroute horder, serviceWith]
  cases hfound : listing.find? fun service ↦ service.Mentions device with
  | none =>
    rw [netcfgFrom_find_none hfound, find?_device_none hfound]
    exact ⟨rfl, rfl⟩
  | some found =>
    obtain ⟨hdevice, hclean, hname⟩ := howner found hfound
    rw [netcfgFrom_find_some hfound (closes_of_device hdevice) (hclean.symm ▸ hname),
      find?_device hfound hdevice, Option.map_some, Option.map_some, Option.map_some, hclean]
    exact ⟨rfl, rfl⟩

theorem mentionedByOwner_of_lookupsAgree (hroute : routeDevice route = some device)
    (horder : fromUtf8Lossy order = listingText listing)
    (hnames : (listing.map fun service ↦ trim service.name).Nodup)
    (hagree : LookupsAgree route order device listing) : MentionedByOwner device listing := by
  obtain ⟨hsame, hservice⟩ := hagree
  intro found hfound
  rw [primaryService_eq hroute horder, Option.mem_def.mp hfound, Option.map_some] at hsame hservice
  obtain ⟨owner, howner, hname⟩ := Option.map_eq_some_iff.mp hservice.symm
  have hname : owner.name = trim found.name := String.ofList_injective hname
  have heq : owner = found := by
    refine List.inj_on_of_nodup_map hnames (List.mem_of_find?_eq_some howner)
      (List.mem_of_find?_eq_some hfound) ?_
    rw [hname, trim_trim]
  subst heq
  have hdevice : owner.device = device := by
    simpa using List.find?_some howner
  refine ⟨hdevice, hname.symm, fun hempty ↦ ?_⟩
  -- An empty name would have to come from the other lookup, too.
  rw [netcfgService_eq hroute horder] at hsame
  obtain ⟨name, hlookup, htext⟩ := Option.map_eq_some_iff.mp hsame
  have hblank : name = [] := by
    rw [String.ofList_injective htext, ← hname, hempty]
  exact netcfgFrom_ne_empty (Option.some_ne_none [] ∘ Eq.symm) device listing (hblank ▸ hlookup)

/-- Both lookups find the service that has the device when the first service whose hardware-port
line mentions the device is the one; and only then, when no two services share a name. -/
theorem lookups_agree_iff (hroute : routeDevice route = some device)
    (horder : fromUtf8Lossy order = listingText listing) :
    (MentionedByOwner device listing → LookupsAgree route order device listing) ∧
      ((listing.map fun service ↦ trim service.name).Nodup →
        LookupsAgree route order device listing → MentionedByOwner device listing) :=
  ⟨lookupsAgree_of_mentionedByOwner hroute horder,
    mentionedByOwner_of_lookupsAgree hroute horder⟩

end Agree

/-! ### A device whose name extends another -/

theorem lineFeed_notMem_wifi : '\n' ∉ "Wi-Fi".toList := by decide

theorem lineFeed_notMem_ethernet : '\n' ∉ "Ethernet".toList := by decide

theorem lineFeed_notMem_en1 : '\n' ∉ "en1".toList := by decide

theorem lineFeed_notMem_en10 : '\n' ∉ "en10".toList := by decide

def wifi (position : Option ℕ) : NetworkService where
  position
  name := "Wi-Fi".toList
  hardwarePort := "Wi-Fi".toList
  device := "en1".toList
  name_line := lineFeed_notMem_wifi
  hardwarePort_line := lineFeed_notMem_wifi
  device_line := lineFeed_notMem_en1

def ethernet (position : Option ℕ) : NetworkService where
  position
  name := "Ethernet".toList
  hardwarePort := "Ethernet".toList
  device := "en10".toList
  name_line := lineFeed_notMem_ethernet
  hardwarePort_line := lineFeed_notMem_ethernet
  device_line := lineFeed_notMem_en10

def en1Route : Bytes := ascii "   route to: default\n  interface: en1\n".toList

theorem routeDevice_en1Route : routeDevice en1Route = some "en1".toList := by decide +kernel

/-- The bytes of a listing in ASCII. -/
def orderBytes (listing : List NetworkService) : Bytes := ascii (listingText listing)

theorem fromUtf8Lossy_orderBytes {listing : List NetworkService}
    (hascii : ∀ char ∈ listingText listing, IsAscii char) :
    fromUtf8Lossy (orderBytes listing) = listingText listing := by
  have hdecode := fromUtf8Lossy_ascii hascii []
  rw [List.append_nil] at hdecode
  exact hdecode.trans (List.append_nil _)

/-- The Wi-Fi service comes first, owns the device of the default route, and both lookups find it.
-/
theorem lookups_agree_iff_wifiFirst :
    LookupsAgree en1Route (orderBytes [wifi (some 1), ethernet none]) "en1".toList
        [wifi (some 1), ethernet none] ∧
      MentionedByOwner "en1".toList [wifi (some 1), ethernet none] := by
  have horder : fromUtf8Lossy (orderBytes [wifi (some 1), ethernet none]) =
      listingText [wifi (some 1), ethernet none] :=
    fromUtf8Lossy_orderBytes (by decide +kernel)
  have hagree := lookups_agree_iff routeDevice_en1Route horder
  have hmentions : (wifi (some 1)).Mentions "en1".toList := by decide +kernel
  have howner : MentionedByOwner "en1".toList [wifi (some 1), ethernet none] := by
    intro service hservice
    rw [List.find?_cons, decide_eq_true hmentions] at hservice
    obtain rfl := Option.some.inj hservice
    exact ⟨rfl, by decide +kernel, by decide +kernel⟩
  exact ⟨hagree.1 howner, hagree.2 (by decide +kernel) (hagree.1 howner)⟩

/-- With `en10` listed before `en1`, the system proxy is set on the service of `en10`. -/
theorem lookups_disagree_ethernetFirst : ¬∀ (route order : Bytes) (device : List Char)
    (listing : List NetworkService), routeDevice route = some device →
      fromUtf8Lossy order = listingText listing → LookupsAgree route order device listing := by
  intro hall
  have horder : fromUtf8Lossy (orderBytes [ethernet (some 1), wifi (some 2)]) =
      listingText [ethernet (some 1), wifi (some 2)] :=
    fromUtf8Lossy_orderBytes (by decide +kernel)
  have hnetcfg : netcfgService (some en1Route)
      (some (orderBytes [ethernet (some 1), wifi (some 2)])) = some "Wi-Fi" := by decide +kernel
  have hsysproxy : primaryService (some en1Route)
      (some (orderBytes [ethernet (some 1), wifi (some 2)])) = some "Ethernet" := by decide +kernel
  obtain ⟨hsame, -⟩ := hall _ _ _ _ routeDevice_en1Route horder
  rw [hnetcfg, hsysproxy] at hsame
  exact absurd hsame (by decide)

end EntroTunnel.Client.PrimaryService
