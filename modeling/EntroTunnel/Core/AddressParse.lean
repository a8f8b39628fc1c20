import EntroTunnel.Core.AddressText
import EntroTunnel.Core.Wire

/-!
# Addresses from text

`FromStr` of the standard library's addresses. An IPv6 address has groups of up to four hexadecimal
digits, one `::` for at least one zero group, and the last two groups in dotted decimal if the text
has them so; a socket address is an IPv4 address or an IPv6 address in brackets, and a port.
`parseIpv6_ipv6Text` reads an IPv6 address back from its text, whichever form the text has, and
`port_of_parseSocketAddr` says where the port of a socket address stands.
-/

set_option autoImplicit false
set_option relaxedAutoImplicit false

namespace EntroTunnel.Core

/-! ### Numbers -/

/-- `char::to_digit`. -/
def toDigit (radix : ℕ) (char : Char) : Option ℕ :=
  let code := char.toNat
  let value :=
    if char.isDigit then some (code - '0'.toNat)
    else if 'a'.toNat ≤ code ∧ code ≤ 'z'.toNat then some (code - 'a'.toNat + 10)
    else if 'A'.toNat ≤ code ∧ code ≤ 'Z'.toNat then some (code - 'A'.toNat + 10)
    else none
  value.filter (· < radix)

/-- The loop of `read_number`: the number of digits, their value and the rest of the text; `none`
when there are too many. -/
def readDigits (radix maxDigits count value : ℕ) : List Char → Option (ℕ × ℕ × List Char)
  | [] => some (count, value, [])
  | char :: rest =>
    match toDigit radix char with
    | none => some (count, value, char :: rest)
    | some digit =>
      if count = maxDigits then none
      else readDigits radix maxDigits (count + 1) (radix * value + digit) rest

/-- `read_number`. -/
def readNumber (radix maxDigits bound : ℕ) (allowZeroPrefix : Bool) (text : List Char) :
    Option (ℕ × List Char) :=
  match readDigits radix maxDigits 0 0 text with
  | none => none
  | some (count, value, rest) =>
    if count = 0 ∨ (allowZeroPrefix = false ∧ text.head? = some '0' ∧ 1 < count) then none
    else if value < bound then some (value, rest) else none

/-- `read_given_char`. -/
def readGivenChar (given : Char) : List Char → Option (List Char)
  | char :: rest => if char = given then some rest else none
  | [] => none

/-- Octets in decimal; every one but the first after a dot. -/
def readOctets (first : Bool) : ℕ → List Char → Option (List ℕ × List Char)
  | 0, text => some ([], text)
  | count + 1, text =>
    match if first then some text else readGivenChar '.' text with
    | none => none
    | some digits =>
      match readNumber 10 3 256 false digits with
      | none => none
      | some (octet, rest) => (readOctets false count rest).map fun (octets, after) ↦
          (octet :: octets, after)

/-- `read_ipv4_addr`, as two groups. -/
def readIpv4Addr (text : List Char) : Option ((ℕ × ℕ) × List Char) :=
  match readOctets true 4 text with
  | some ([one, two, three, four], rest) => some ((256 * one + two, 256 * three + four), rest)
  | _ => none

/-! ### Groups -/

/-- `read_groups`: the groups, whether they end in dotted decimal, and the rest of the text. The
number is that of the places left. -/
def readGroups (first : Bool) : ℕ → List Char → List ℕ × Bool × List Char
  | 0, text => ([], false, text)
  | left + 1, text =>
    match if first then some text else readGivenChar ':' text with
    | none => ([], false, text)
    | some digits =>
      match if left = 0 then none else readIpv4Addr digits with
      | some ((high, low), rest) => ([high, low], true, rest)
      | none =>
        match readNumber 16 4 65536 true digits with
        | none => ([], false, text)
        | some (group, rest) =>
          let (groups, ipv4, after) := readGroups false left rest
          (group :: groups, ipv4, after)

/-- The address of eight groups. -/
def ofGroups (groups : List ℕ) : Ipv6Addr :=
  BitVec.ofNat 128 (groups.foldl (fun value group ↦ 65536 * value + group) 0)

/-- `Ipv6Addr::from_str`. -/
def parseIpv6 (text : List Char) : Option Ipv6Addr :=
  let (head, headIpv4, rest) := readGroups true 8 text
  if head.length = 8 then
    if rest = [] then some (ofGroups head) else none
  else if headIpv4 then none
  else
    match (readGivenChar ':' rest).bind (readGivenChar ':') with
    | none => none
    | some rest =>
      let (tail, _, rest) := readGroups true (7 - head.length) rest
      if rest = [] then
        some (ofGroups (head ++ List.replicate (8 - head.length - tail.length) 0 ++ tail))
      else none

example : parseIpv6 "fd66::a42:2".toList = some (0xfd66 <<< 112 ||| 0x0a420002) := by
  decide +kernel

/-! ### Numbers that are read back -/

theorem toDigit_digitChar {radix digit : ℕ} (hdigit : digit < radix) (hradix : radix ≤ 16) :
    toDigit radix (Nat.digitChar digit) = some digit := by
  have hall : ∀ digit < 16, toDigit 16 (Nat.digitChar digit) = some digit := by decide +kernel
  have hvalue := hall digit (hdigit.trans_le hradix)
  simp only [toDigit, Option.filter_eq_some_iff] at hvalue ⊢
  exact ⟨hvalue.1, by simpa using hdigit⟩

/-- The value of digits, each of which is one. -/
def digitsValue (radix value : ℕ) (text : List Char) : ℕ :=
  text.foldl (fun value char ↦ radix * value + (toDigit radix char).getD 0) value

/-- Digits are read up to what is no digit. -/
theorem readDigits_append {radix maxDigits count value : ℕ} {text rest : List Char}
    (htext : ∀ char ∈ text, (toDigit radix char).isSome = true)
    (hrest : ∀ char ∈ rest.head?, toDigit radix char = none)
    (hcount : count + text.length ≤ maxDigits) :
    readDigits radix maxDigits count value (text ++ rest) =
      some (count + text.length, digitsValue radix value text, rest) := by
  induction text generalizing count value with
  | nil =>
    cases rest with
    | nil => rfl
    | cons char rest =>
      have hchar : toDigit radix char = none := hrest char (by simp)
      rw [List.nil_append, readDigits, hchar]
      rfl
  | cons char text ih =>
    rw [List.forall_mem_cons] at htext
    obtain ⟨digit, hdigit⟩ := Option.isSome_iff_exists.mp htext.1
    rw [List.length_cons] at hcount
    have hless : count ≠ maxDigits := by omega
    rw [List.cons_append, readDigits, hdigit]
    simp only [hless, if_false]
    have hvalue : digitsValue radix value (char :: text) =
        digitsValue radix (radix * value + digit) text := by
      rw [digitsValue, List.foldl_cons, hdigit, Option.getD_some, digitsValue]
    rw [ih htext.2 (by omega), hvalue, List.length_cons, Nat.add_assoc, Nat.add_comm 1]

theorem digitsValue_toDigits {radix : ℕ} (hlow : 1 < radix) (hhigh : radix ≤ 16) (number : ℕ) :
    digitsValue radix 0 (Nat.toDigits radix number) = number := by
  induction number using Nat.strongRecOn with
  | ind number ih =>
    by_cases hsmall : number < radix
    · rw [Nat.toDigits_of_lt_base hsmall, digitsValue, List.foldl_cons, List.foldl_nil,
        toDigit_digitChar hsmall hhigh, Option.getD_some, Nat.mul_zero, Nat.zero_add]
    · have hlarge : radix ≤ number := Nat.not_lt.mp hsmall
      have hless : number / radix < number :=
        Nat.div_lt_self (by omega) hlow
      have hmod : number % radix < radix := Nat.mod_lt _ (by omega)
      have hfront := ih _ hless
      rw [digitsValue] at hfront
      rw [Nat.toDigits_of_base_le hlow hlarge, digitsValue, List.foldl_append, hfront,
        List.foldl_cons, List.foldl_nil, toDigit_digitChar hmod hhigh, Option.getD_some,
        Nat.div_add_mod]

theorem isSome_toDigit {radix number : ℕ} (hlow : 1 < radix) (hhigh : radix ≤ 16) :
    ∀ char ∈ Nat.toDigits radix number, (toDigit radix char).isSome = true := by
  induction number using Nat.strongRecOn with
  | ind number ih =>
    by_cases hsmall : number < radix
    · rw [Nat.toDigits_of_lt_base hsmall, List.forall_mem_singleton,
        toDigit_digitChar hsmall hhigh, Option.isSome_some]
    · have hlarge : radix ≤ number := Nat.not_lt.mp hsmall
      have hmod : number % radix < radix := Nat.mod_lt _ (by omega)
      rw [Nat.toDigits_of_base_le hlow hlarge, List.forall_mem_append, List.forall_mem_singleton,
        toDigit_digitChar hmod hhigh, Option.isSome_some]
      exact ⟨ih _ (Nat.div_lt_self (by omega) hlow), rfl⟩

theorem head?_append_digits {radix number : ℕ} {rest : List Char} :
    (Nat.toDigits radix number ++ rest).head? = (Nat.toDigits radix number).head? := by
  obtain ⟨first, others, hdigits⟩ :=
    List.exists_cons_of_ne_nil (Nat.toDigits_ne_nil : Nat.toDigits radix number ≠ [])
  rw [hdigits]
  rfl

/-- Digits of a number do not begin with a zero unless they are one digit. -/
theorem head?_toDigits {radix number : ℕ} (hlow : 1 < radix) (hhigh : radix ≤ 16)
    (hhead : (Nat.toDigits radix number).head? = some '0') :
    (Nat.toDigits radix number).length = 1 := by
  induction number using Nat.strongRecOn with
  | ind number ih =>
    by_cases hsmall : number < radix
    · rw [Nat.toDigits_of_lt_base hsmall, List.length_singleton]
    · have hlarge : radix ≤ number := Nat.not_lt.mp hsmall
      have hless : number / radix < number := Nat.div_lt_self (by omega) hlow
      have hpos : 0 < number / radix := Nat.div_pos hlarge (by omega)
      rw [Nat.toDigits_of_base_le hlow hlarge,
        head?_append_digits] at hhead
      have hfront := ih _ hless hhead
      -- the digits in front are those of a number that is not zero
      have hone : number / radix < radix := by
        have hle := (Nat.length_toDigits_le_iff hlow Nat.one_pos).mp hfront.le
        rwa [Nat.pow_one] at hle
      rw [Nat.toDigits_of_lt_base hone, List.head?_cons, Option.some.injEq,
        Nat.digitChar_eq_zero] at hhead
      omega

/-- A number is read up to what is no digit. -/
theorem readNumber_toDigits {radix maxDigits bound number : ℕ} {allowZeroPrefix : Bool}
    {rest : List Char} (hlow : 1 < radix) (hhigh : radix ≤ 16) (hbound : number < bound)
    (hmax : (Nat.toDigits radix number).length ≤ maxDigits)
    (hrest : ∀ char ∈ rest.head?, toDigit radix char = none) :
    readNumber radix maxDigits bound allowZeroPrefix (Nat.toDigits radix number ++ rest) =
      some (number, rest) := by
  have hpos : 0 < (Nat.toDigits radix number).length := Nat.length_toDigits_pos
  have hdigits : readDigits radix maxDigits 0 0 (Nat.toDigits radix number ++ rest) =
      some ((Nat.toDigits radix number).length, number, rest) := by
    rw [readDigits_append (isSome_toDigit hlow hhigh) hrest (by omega), Nat.zero_add,
      digitsValue_toDigits hlow hhigh]
  have hzero : ¬ ((Nat.toDigits radix number).length = 0 ∨ (allowZeroPrefix = false ∧
      (Nat.toDigits radix number ++ rest).head? = some '0' ∧
        1 < (Nat.toDigits radix number).length)) := by
    rintro (hnone | ⟨-, hhead, hlong⟩)
    · omega
    · rw [head?_append_digits] at hhead
      have hone := head?_toDigits hlow hhigh hhead
      omega
  simp only [readNumber, hdigits, hzero, if_false, hbound, if_true]

/-- What is left after digits is a part of the text. -/
theorem mem_of_readDigits {radix maxDigits count value : ℕ} {text rest : List Char}
    {length number : ℕ}
    (hread : readDigits radix maxDigits count value text = some (length, number, rest)) :
    ∀ char ∈ rest, char ∈ text := by
  induction text generalizing count value with
  | nil =>
    obtain ⟨-, -, rfl⟩ : count = length ∧ value = number ∧ [] = rest := by
      simpa [readDigits] using hread
    exact fun _ hmem ↦ hmem
  | cons first text ih =>
    rw [readDigits] at hread
    split at hread
    · obtain ⟨-, -, rfl⟩ : count = length ∧ value = number ∧ first :: text = rest := by
        simpa using hread
      exact fun _ hmem ↦ hmem
    · split_ifs at hread
      exact fun char hmem ↦ List.mem_cons_of_mem _ (ih hread char hmem)

/-- Text without a dot is no IPv4 address. -/
theorem readIpv4Addr_eq_none {text : List Char} (htext : '.' ∉ text) :
    readIpv4Addr text = none := by
  have hnone : readOctets true 4 text = none := by
    rw [readOctets, if_pos rfl]
    simp only [readNumber]
    cases hdigits : readDigits 10 3 0 0 text with
    | none => rfl
    | some read =>
      obtain ⟨count, value, after⟩ := read
      have hdot : readGivenChar '.' after = none := by
        cases after with
        | nil => rfl
        | cons first others =>
          refine if_neg fun hfirst ↦ htext ?_
          exact mem_of_readDigits hdigits _ (hfirst ▸ List.mem_cons_self)
      split
      · rfl
      · rename_i hnumber
        simp only at hnumber
        split_ifs at hnumber
        obtain ⟨rfl, rfl⟩ := Prod.mk.inj (Option.some.inj hnumber)
        rw [readOctets]
        simp only [Bool.false_eq_true, if_false, hdot, Option.map_none]
  rw [readIpv4Addr, hnone]

/-! ### Groups that are read back -/

/-- Groups, each after a colon. -/
def groupsTail (groups : List ℕ) : List Char :=
  groups.flatMap fun group ↦ ':' :: Nat.toDigits 16 group

theorem toList_groupsText (group : ℕ) (groups : List ℕ) :
    (groupsText (group :: groups)).toList = Nat.toDigits 16 group ++ groupsTail groups := by
  have hdigits : (String.toList ∘ fun group ↦ String.ofList (Nat.toDigits 16 group)) =
      Nat.toDigits 16 := funext fun _ ↦ String.toList_ofList
  rw [groupsText, String.toList_intercalate, List.map_map, hdigits]
  induction groups generalizing group with
  | nil =>
    rw [groupsTail, List.flatMap_nil, List.append_nil, List.map_singleton]
    exact List.intercalate_singleton
  | cons next rest ih =>
    have htail : groupsTail (next :: rest) = ':' :: (Nat.toDigits 16 next ++ groupsTail rest) := by
      rw [groupsTail, List.flatMap_cons, List.cons_append]
      rfl
    rw [List.map_cons, List.map_cons, List.intercalate_cons_cons, ← List.map_cons, ih, htail,
      List.append_assoc]
    rfl

theorem dot_notMem_toDigits (number : ℕ) : '.' ∉ Nat.toDigits 16 number := by
  intro hmem
  have hdigit := isSome_toDigit (by decide) (by decide) '.' hmem
  exact absurd hdigit (by decide)

theorem dot_notMem_groupsTail (groups : List ℕ) : '.' ∉ groupsTail groups := by
  rw [groupsTail, List.mem_flatMap]
  rintro ⟨group, -, hmem⟩
  rcases List.mem_cons.mp hmem with hcolon | hmem
  · exact absurd hcolon (by decide)
  · exact dot_notMem_toDigits group hmem

/-- What stands behind a group: nothing, or a colon. -/
def AtColon (text : List Char) : Prop :=
  ∀ char ∈ text.head?, char = ':'

theorem atColon_groupsTail {groups : List ℕ} {rest : List Char} (hrest : AtColon rest) :
    AtColon (groupsTail groups ++ rest) := by
  cases groups with
  | nil => exact hrest
  | cons group others =>
    intro char hchar
    rw [groupsTail, List.flatMap_cons, List.cons_append, List.cons_append, List.head?_cons,
      Option.mem_some_iff] at hchar
    exact hchar.symm

/-- A group up to the next colon. -/
theorem readGroup {group : ℕ} {rest : List Char} (hgroup : group < 65536) (hrest : AtColon rest) :
    readNumber 16 4 65536 true (Nat.toDigits 16 group ++ rest) = some (group, rest) := by
  refine readNumber_toDigits (by decide) (by decide) hgroup
    ((Nat.length_toDigits_le_iff (by decide) (by decide)).mpr hgroup) fun char hchar ↦ ?_
  rw [hrest char hchar]
  decide

/-- Groups in hexadecimal are read one after the other. -/
theorem readGroups_tail {groups : List ℕ} {left : ℕ} {rest : List Char}
    (hgroups : ∀ group ∈ groups, group < 65536) (hdot : '.' ∉ rest) (hrest : AtColon rest) :
    readGroups false (groups.length + left) (groupsTail groups ++ rest) =
      (groups ++ (readGroups false left rest).1, (readGroups false left rest).2) := by
  induction groups with
  | nil => rw [List.length_nil, Nat.zero_add]; rfl
  | cons group others ih =>
    rw [List.forall_mem_cons] at hgroups
    have hcolon : readGivenChar ':' (groupsTail (group :: others) ++ rest) =
        some (Nat.toDigits 16 group ++ (groupsTail others ++ rest)) := by
      rw [groupsTail, List.flatMap_cons, List.cons_append, List.cons_append, readGivenChar,
        if_pos rfl, List.append_assoc]
      rfl
    have hnone : readIpv4Addr (Nat.toDigits 16 group ++ (groupsTail others ++ rest)) = none := by
      refine readIpv4Addr_eq_none fun hmem ↦ ?_
      rcases List.mem_append.mp hmem with hmem | hmem
      · exact dot_notMem_toDigits group hmem
      · rcases List.mem_append.mp hmem with hmem | hmem
        · exact dot_notMem_groupsTail others hmem
        · exact hdot hmem
    rw [List.length_cons, Nat.add_right_comm, readGroups]
    simp only [Bool.false_eq_true, if_false, hcolon, hnone, ite_self,
      readGroup hgroups.1 (atColon_groupsTail hrest), ih hgroups.2, List.cons_append]

/-- No group follows. -/
def Stops (left : ℕ) (rest : List Char) : Prop :=
  readGroups false left rest = ([], false, rest)

theorem readGroups_first {groups : List ℕ} {left : ℕ} {rest : List Char}
    (hgroups : ∀ group ∈ groups, group < 65536) (hdot : '.' ∉ rest) (hrest : AtColon rest)
    (hstops : Stops left rest) :
    readGroups true (groups.length + left) ((groupsText groups).toList ++ rest) =
      (groups, false, rest) := by
  cases groups with
  | nil =>
    have htext : (groupsText []).toList = [] := rfl
    rw [htext, List.nil_append, List.length_nil, Nat.zero_add]
    cases left with
    | zero => rfl
    | succ left =>
      -- what stands at a colon is no number
      have hnumber : readNumber 16 4 65536 true rest = none := by
        cases rest with
        | nil => rfl
        | cons char after =>
          have hchar := hrest char rfl
          subst hchar
          rfl
      rw [readGroups]
      simp only [if_true, readIpv4Addr_eq_none hdot, ite_self, hnumber]
  | cons group others =>
    rw [List.forall_mem_cons] at hgroups
    have hnone : readIpv4Addr (Nat.toDigits 16 group ++ (groupsTail others ++ rest)) = none := by
      refine readIpv4Addr_eq_none fun hmem ↦ ?_
      rcases List.mem_append.mp hmem with hmem | hmem
      · exact dot_notMem_toDigits group hmem
      · rcases List.mem_append.mp hmem with hmem | hmem
        · exact dot_notMem_groupsTail others hmem
        · exact hdot hmem
    have hnext : readGroups false left rest = ([], false, rest) := hstops
    rw [toList_groupsText, List.append_assoc, List.length_cons, Nat.add_right_comm, readGroups]
    simp only [if_true, hnone, ite_self, readGroup hgroups.1 (atColon_groupsTail hrest),
      readGroups_tail hgroups.2 hdot hrest, hnext, List.append_nil]

/-! ### Zero groups -/

/-- The groups of the run are zero. -/
def IsZeroRun (groups : List ℕ) (run : ZeroRun) : Prop :=
  ∀ index, run.start ≤ index → index < run.start + run.length → groups[index]? = some 0

theorem IsZeroRun.append {groups : List ℕ} {run : ZeroRun} (hrun : IsZeroRun groups run)
    (more : List ℕ) : IsZeroRun (groups ++ more) run := by
  intro index hstart hend
  have hzero := hrun index hstart hend
  rw [List.getElem?_append_left (List.getElem?_eq_some_iff.mp hzero).1, hzero]

/-- The run that is found is one. -/
theorem isZeroRun_longestZeroRun {done rest : List ℕ} {current longest : ZeroRun}
    (hcurrent : IsZeroRun done current)
    (hends : current.length = 0 ∨ current.start + current.length = done.length)
    (hlongest : IsZeroRun done longest) :
    IsZeroRun (done ++ rest) (longestZeroRun done.length current longest rest) := by
  induction rest generalizing done current longest with
  | nil => rw [List.append_nil]; exact hlongest
  | cons group rest ih =>
    have hlength : (done ++ [group]).length = done.length + 1 := List.length_append
    rw [List.append_cons, longestZeroRun, ← hlength]
    split_ifs with hzero hnew
    · have hextended : IsZeroRun (done ++ [group]) ⟨done.length, 1⟩ := by
        intro index hstart hend
        obtain rfl : index = done.length := by simp only at hstart hend; omega
        rw [List.getElem?_append_right le_rfl, Nat.sub_self, List.getElem?_cons_zero, hzero]
      refine ih hextended (.inr hlength.symm) ?_
      split_ifs
      · exact hextended
      · exact hlongest.append _
    · have hend : current.start + current.length = done.length := hends.resolve_left hnew
      have hextended : IsZeroRun (done ++ [group]) ⟨current.start, current.length + 1⟩ := by
        intro index hstart hless
        simp only at hstart hless
        by_cases hlast : index < done.length
        · exact hcurrent.append _ index hstart (by omega)
        · obtain rfl : index = done.length := by omega
          rw [List.getElem?_append_right le_rfl, Nat.sub_self, List.getElem?_cons_zero, hzero]
      refine ih hextended (.inr ?_) ?_
      · simp only [hlength]
        omega
      · split_ifs
        · exact hextended
        · exact hlongest.append _
    · exact ih (fun index hstart hend ↦ by simp only at hstart hend; omega) (.inl rfl)
        (hlongest.append _)

/-- The groups before a run, its zeros, and the groups after it. -/
theorem IsZeroRun.split {groups : List ℕ} {run : ZeroRun} (hrun : IsZeroRun groups run)
    (hlength : 0 < run.length) :
    run.start + run.length ≤ groups.length ∧
      groups.take run.start ++ List.replicate run.length 0 ++
        groups.drop (run.start + run.length) = groups := by
  have hlast := hrun (run.start + run.length - 1) (by omega) (by omega)
  have hfits := (List.getElem?_eq_some_iff.mp hlast).1
  have hzeros : (groups.drop run.start).take run.length = List.replicate run.length 0 := by
    refine List.ext_getElem? fun index ↦ ?_
    by_cases hindex : index < run.length
    · rw [List.getElem?_take_of_lt hindex, List.getElem?_drop,
        hrun (run.start + index) (by omega) (by omega), List.getElem?_replicate, if_pos hindex]
    · rw [List.getElem?_eq_none (by rw [List.length_take]; omega),
        List.getElem?_eq_none (by rw [List.length_replicate]; omega)]
  refine ⟨by omega, ?_⟩
  rw [← hzeros, ← List.drop_drop, List.append_assoc, List.take_append_drop, List.take_append_drop]

/-! ### The address -/

theorem length_segments (addr : Ipv6Addr) : (segments addr).length = 8 := rfl

theorem segments_lt (addr : Ipv6Addr) : ∀ group ∈ segments addr, group < 65536 := by
  intro group hgroup
  obtain ⟨shift, -, rfl⟩ := List.mem_map.mp hgroup
  exact Nat.mod_lt _ (by decide)

/-- An address is put together from its groups. -/
theorem ofGroups_segments (addr : Ipv6Addr) : ofGroups (segments addr) = addr := by
  apply BitVec.eq_of_toNat_eq
  have haddr := addr.isLt
  simp only [ofGroups, segments, List.map_cons, List.map_nil, List.foldl_cons, List.foldl_nil,
    BitVec.toNat_ofNat, Nat.shiftRight_eq_div_pow]
  omega

/-! ### Dotted decimal -/

/-- An octet up to the next dot or the end. -/
theorem readOctet {octet : ℕ} {rest : List Char} (hoctet : octet < 256)
    (hrest : ∀ char ∈ rest.head?, char = '.') :
    readNumber 10 3 256 false (Nat.toDigits 10 octet ++ rest) = some (octet, rest) := by
  have hshort : (Nat.toDigits 10 octet).length ≤ 3 :=
    (Nat.length_toDigits_le_iff (by decide) (by decide)).mpr (by omega)
  refine readNumber_toDigits (by decide) (by decide) hoctet hshort fun char hchar ↦ ?_
  rw [hrest char hchar]
  decide

theorem readOctets_tail {octets : List ℕ} (hoctets : ∀ octet ∈ octets, octet < 256) :
    readOctets false octets.length (octets.flatMap fun octet ↦ '.' :: Nat.toDigits 10 octet) =
      some (octets, []) := by
  induction octets with
  | nil => rfl
  | cons octet others ih =>
    rw [List.forall_mem_cons] at hoctets
    have hnext : ∀ char ∈ (others.flatMap fun octet ↦ '.' :: Nat.toDigits 10 octet).head?,
        char = '.' := by
      cases others with
      | nil => exact fun _ hchar ↦ by cases hchar
      | cons next rest => exact fun _ hchar ↦ (Option.some.inj hchar).symm
    rw [List.length_cons, List.flatMap_cons, List.cons_append, readOctets]
    simp only [Bool.false_eq_true, if_false, readGivenChar, if_true, readOctet hoctets.1 hnext,
      ih hoctets.2, Option.map_some]

/-- The octets of an address, as two groups. -/
theorem readIpv4Addr_ipv4Text (addr : Ipv4Addr) :
    readIpv4Addr (ipv4Text addr).toList =
      some ((addr.toNat / 65536, addr.toNat % 65536), []) := by
  have hoctets : ∀ octet ∈ octets addr, octet < 256 := by
    intro octet hoctet
    obtain ⟨shift, -, rfl⟩ := List.mem_map.mp hoctet
    exact Nat.mod_lt _ (by decide)
  have htext : (ipv4Text addr).toList = Nat.toDigits 10 (addr.toNat >>> 24 % 256) ++
      (octets addr).tail.flatMap fun octet ↦ '.' :: Nat.toDigits 10 octet := by
    rw [toList_ipv4Text]
    simp only [octets, List.map_cons, List.map_nil, List.intercalate_cons_cons,
      List.intercalate_singleton, List.tail_cons, List.flatMap_cons, List.flatMap_nil,
      List.append_nil, List.append_assoc, List.cons_append, List.nil_append]
  have hread : readOctets true 4 (ipv4Text addr).toList = some (octets addr, []) := by
    have htail := readOctets_tail fun octet hmem ↦ hoctets octet (List.mem_of_mem_tail hmem)
    have hfirst := @readOctet (addr.toNat >>> 24 % 256)
      ((octets addr).tail.flatMap fun octet ↦ '.' :: Nat.toDigits 10 octet)
      (Nat.mod_lt _ (by decide)) fun char hchar ↦ (Option.some.inj hchar).symm
    rw [htext, readOctets]
    simp only [if_true, hfirst]
    exact congrArg (Option.map _) htail
  have haddr := addr.isLt
  simp only [readIpv4Addr, hread, octets, List.map_cons, List.map_nil, Option.some.injEq,
    Prod.mk.injEq, and_true, Nat.shiftRight_eq_div_pow]
  constructor <;> omega

/-! ### Every form -/

theorem parseIpv6_groups {groups : List ℕ} (hlength : groups.length = 8)
    (hgroups : ∀ group ∈ groups, group < 65536) :
    parseIpv6 (groupsText groups).toList = some (ofGroups groups) := by
  have hread := @readGroups_first groups 0 [] hgroups List.not_mem_nil
    (fun _ hchar ↦ by cases hchar) rfl
  rw [List.append_nil, Nat.add_zero, hlength] at hread
  simp only [parseIpv6, hread, hlength, if_true]

/-- A compressed text. -/
theorem parseIpv6_compressed {head tail : List ℕ} {count : ℕ}
    (hlength : head.length + count + tail.length = 8) (hcount : 1 ≤ count)
    (hhead : ∀ group ∈ head, group < 65536) (htail : ∀ group ∈ tail, group < 65536) :
    parseIpv6 ((groupsText head).toList ++ ':' :: ':' :: (groupsText tail).toList) =
      some (ofGroups (head ++ List.replicate count 0 ++ tail)) := by
  have hdot : '.' ∉ (groupsText tail).toList := by
    cases tail with
    | nil => exact List.not_mem_nil
    | cons group groups =>
      rw [toList_groupsText, List.mem_append, not_or]
      exact ⟨dot_notMem_toDigits group, dot_notMem_groupsTail groups⟩
  have hstart : readGroups true 8
      ((groupsText head).toList ++ ':' :: ':' :: (groupsText tail).toList) =
        (head, false, ':' :: ':' :: (groupsText tail).toList) := by
    obtain ⟨left, hleft⟩ : ∃ left, 8 = head.length + (left + 1) :=
      ⟨7 - head.length, by omega⟩
    have hnone : readIpv4Addr (':' :: (groupsText tail).toList) = none :=
      readIpv4Addr_eq_none fun hmem ↦ by
        rcases List.mem_cons.mp hmem with hcolon | hmem
        · exact absurd hcolon (by decide)
        · exact hdot hmem
    rw [hleft]
    refine readGroups_first hhead (fun hmem ↦ ?_) (fun _ hchar ↦ (Option.some.inj hchar).symm) ?_
    · simp only [List.mem_cons, hdot, or_false] at hmem
      rcases hmem with hcolon | hcolon <;> exact absurd hcolon (by decide)
    · rw [Stops, readGroups]
      simp only [Bool.false_eq_true, if_false, readGivenChar, if_true, hnone, ite_self]
      rfl
  have hend : readGroups true (7 - head.length) (groupsText tail).toList = (tail, false, []) := by
    have hread := @readGroups_first tail (count - 1) [] htail List.not_mem_nil
      (fun _ hchar ↦ by cases hchar) (by cases count - 1 <;> rfl)
    rwa [List.append_nil, show tail.length + (count - 1) = 7 - head.length by omega] at hread
  have hless : head.length ≠ 8 := by omega
  simp only [parseIpv6, hstart, hless, if_false, Bool.false_eq_true, readGivenChar, if_true,
    Option.bind_some, hend]
  rw [show 8 - head.length - tail.length = count by omega]

/-- An IPv4-mapped address. -/
theorem parseIpv6_mapped (addr : Ipv4Addr) :
    parseIpv6 ("::ffff:".toList ++ (ipv4Text addr).toList) =
      some (ofGroups [0, 0, 0, 0, 0, 65535, addr.toNat / 65536, addr.toNat % 65536]) := by
  have htext : "::ffff:".toList = [':', ':', 'f', 'f', 'f', 'f', ':'] := rfl
  have hread := readIpv4Addr_ipv4Text addr
  rw [htext]
  generalize (ipv4Text addr).toList = text at hread
  have hgroups : readGroups true 7 ('f' :: 'f' :: 'f' :: 'f' :: ':' :: text) =
      ([65535, addr.toNat / 65536, addr.toNat % 65536], true, []) := by
    have hfirst : readNumber 16 4 65536 true ('f' :: 'f' :: 'f' :: 'f' :: ':' :: text) =
        some (65535, ':' :: text) := rfl
    have hnone : readIpv4Addr ('f' :: 'f' :: 'f' :: 'f' :: ':' :: text) = none := rfl
    have hnext : readGroups false 6 (':' :: text) =
        ([addr.toNat / 65536, addr.toNat % 65536], true, []) := by
      rw [readGroups]
      simp only [Bool.false_eq_true, if_false, readGivenChar, if_true, hread,
        show (5 : ℕ) ≠ 0 from Nat.succ_ne_zero 4]
    rw [readGroups]
    simp only [if_true, hnone, ite_self, hfirst, hnext]
  have hhead : readGroups true 8 (':' :: ':' :: 'f' :: 'f' :: 'f' :: 'f' :: ':' :: text) =
      ([], false, ':' :: ':' :: 'f' :: 'f' :: 'f' :: 'f' :: ':' :: text) := rfl
  simp only [parseIpv6, List.cons_append, List.nil_append, hhead, List.length_nil, readGivenChar,
    if_true, Option.bind_some, Nat.sub_zero, hgroups]
  rfl

/-- An address is read back from its text. -/
theorem parseIpv6_ipv6Text (addr : Ipv6Addr) : parseIpv6 (ipv6Text addr).toList = some addr := by
  rw [ipv6Text]
  dsimp only
  split_ifs with hmapped hlong
  · have hgroups : segments addr = [0, 0, 0, 0, 0, 65535, (addr.setWidth 32).toNat / 65536,
        (addr.setWidth 32).toNat % 65536] := by
      rw [← List.take_append_drop 6 (segments addr), hmapped]
      simp only [segments, List.map_cons, List.map_nil, List.drop_succ_cons, List.drop_zero,
        List.cons_append, List.nil_append, BitVec.toNat_setWidth, Nat.shiftRight_eq_div_pow]
      congr 7
      · omega
      · congr 1
        omega
    rw [String.toList_append, parseIpv6_mapped, ← hgroups, ofGroups_segments]
  · have hrun : IsZeroRun (segments addr) (longestZeroRun 0 ⟨0, 0⟩ ⟨0, 0⟩ (segments addr)) :=
      @isZeroRun_longestZeroRun [] (segments addr) _ _
        (fun index hstart hend ↦ by simp only at hstart hend; omega) (.inl rfl)
        fun index hstart hend ↦ by simp only at hstart hend; omega
    generalize longestZeroRun 0 ⟨0, 0⟩ ⟨0, 0⟩ (segments addr) = run at hlong hrun
    obtain ⟨hfits, hsplit⟩ := hrun.split (by omega)
    have hlength := length_segments addr
    have hsize := segments_lt addr
    have hread := @parseIpv6_compressed ((segments addr).take run.start)
      ((segments addr).drop (run.start + run.length)) run.length
      (by rw [List.length_take, List.length_drop]; omega) (by omega)
      (fun group hmem ↦ hsize group (List.mem_of_mem_take hmem))
      fun group hmem ↦ hsize group (List.mem_of_mem_drop hmem)
    rw [hsplit, ofGroups_segments] at hread
    rw [String.toList_append, String.toList_append, List.append_assoc]
    exact hread
  · rw [parseIpv6_groups (length_segments addr) (segments_lt addr), ofGroups_segments]

/-! ### Socket addresses -/

/-- `IpAddr::from_str`. -/
def parseIpAddr (text : List Char) : Option IpAddr :=
  match parseIpv4 text with
  | some addr => some (.v4 addr)
  | none => (parseIpv6 text).map .v6

/-- A decimal number below a bound. -/
def parseDecimal (bound : ℕ) (text : List Char) : Option ℕ :=
  if text = [] then none else (decimalFrom 0 text).filter (· < bound)

/-- An IPv6 address with its scope, which is a number. -/
def parseScopedIpv6 (text : List Char) : Option Ipv6Addr :=
  let addr := text.takeWhile (· ≠ '%')
  match text.drop addr.length with
  | [] => parseIpv6 addr
  | _ :: scope => (parseDecimal 0x100000000 scope).bind fun _ ↦ parseIpv6 addr

/-- `SocketAddr::from_str`. -/
def parseSocketAddr (text : List Char) : Option SocketAddr :=
  match text with
  | '[' :: rest =>
    let inside := rest.takeWhile (· ≠ ']')
    match rest.drop inside.length with
    | ']' :: ':' :: port =>
      (parseScopedIpv6 inside).bind fun ip ↦
        (parseDecimal 65536 port).map fun port ↦ ⟨.v6 ip, .ofNat port⟩
    | _ => none
  | _ =>
    match rsplitOnce ':' text with
    | some (ip, port) =>
      (parseIpv4 ip).bind fun ip ↦
        (parseDecimal 65536 port).map fun port ↦ ⟨.v4 ip, .ofNat port⟩
    | none => none

example : parseSocketAddr "[::1]:9000".toList = some ⟨.v6 1, 9000⟩ := by decide +kernel

theorem parseDecimal_eq_some {bound number : ℕ} {text : List Char}
    (hparse : parseDecimal bound text = some number) :
    text ≠ [] ∧ decimalFrom 0 text = some number ∧ number < bound := by
  unfold parseDecimal at hparse
  split_ifs at hparse with hnone
  obtain ⟨hvalue, hbound⟩ := Option.filter_eq_some_iff.mp hparse
  exact ⟨hnone, hvalue, of_decide_eq_true hbound⟩

/-- A number has no colon. -/
theorem colon_notMem_of_decimalFrom {text : List Char} {value number : ℕ}
    (hdecimal : decimalFrom value text = some number) : ':' ∉ text :=
  fun hmem ↦ absurd (isDigit_of_decimalFrom hdecimal ':' hmem) (by decide)

/-- The port of a socket address stands behind its last colon. -/
theorem port_of_parseSocketAddr {text : List Char} {addr : SocketAddr}
    (hparse : parseSocketAddr text = some addr) :
    ∃ before port, rsplitOnce ':' text = some (before, port) ∧ port ≠ [] ∧
      decimalFrom 0 port = some addr.port.toNat := by
  have hport : ∀ {port : List Char} {number : ℕ}, parseDecimal 65536 port = some number →
      port ≠ [] ∧ decimalFrom 0 port = some (UInt16.ofNat number).toNat := by
    intro port number hnumber
    obtain ⟨hne, hvalue, hbound⟩ := parseDecimal_eq_some hnumber
    rw [UInt16.toNat_ofNat_of_lt' hbound]
    exact ⟨hne, hvalue⟩
  unfold parseSocketAddr at hparse
  split at hparse
  · rename_i rest
    dsimp only at hparse
    split at hparse
    · rename_i port hdrop
      obtain ⟨ip, -, hparse⟩ := Option.bind_eq_some_iff.mp hparse
      obtain ⟨number, hnumber, rfl⟩ := Option.map_eq_some_iff.mp hparse
      obtain ⟨hne, hvalue⟩ := hport hnumber
      refine ⟨'[' :: rest.takeWhile (· ≠ ']') ++ [']'], port, ?_, hne, hvalue⟩
      have htext : '[' :: rest =
          ('[' :: rest.takeWhile (· ≠ ']') ++ [']']) ++ ':' :: port := by
        rw [List.append_assoc, List.singleton_append, List.cons_append, ← hdrop]
        exact congrArg _ (List.prefix_iff_eq_append.mp (List.takeWhile_prefix _)).symm
      rw [htext]
      exact rsplitOnce_append (colon_notMem_of_decimalFrom hvalue) _
    · cases hparse
  · split at hparse
    · rename_i ip port hsplit
      obtain ⟨addr, -, hparse⟩ := Option.bind_eq_some_iff.mp hparse
      obtain ⟨number, hnumber, rfl⟩ := Option.map_eq_some_iff.mp hparse
      obtain ⟨hne, hvalue⟩ := hport hnumber
      exact ⟨ip, port, hsplit, hne, hvalue⟩
    · cases hparse

end EntroTunnel.Core
