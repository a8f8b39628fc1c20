import EntroTunnel.Core.Wire

/-!
# Text operations of the standard library

The string functions that the request parser uses, on lists of characters: lossy UTF-8 decoding,
lines, white space, and decimal numbers. Each follows the documented behaviour of the function of
the Rust standard library that its docstring names.
-/

set_option autoImplicit false
set_option relaxedAutoImplicit false

namespace EntroTunnel.Core

/-- `char::is_whitespace`. -/
def isWhitespace (char : Char) : Bool :=
  let code := char.toNat
  (9 ≤ code && code ≤ 13) || code = 0x20 || code = 0x85 || code = 0xA0 || code = 0x1680 ||
    (0x2000 ≤ code && code ≤ 0x200A) || code = 0x2028 || code = 0x2029 || code = 0x202F ||
    code = 0x205F || code = 0x3000

/-- `str::trim`. -/
def trim (text : List Char) : List Char :=
  ((text.dropWhile isWhitespace).reverse.dropWhile isWhitespace).reverse

/-- The words collected so far and the word being read, last characters first. -/
def splitWhitespaceFrom (word : List Char) : List Char → List (List Char)
  | [] => if word = [] then [] else [word.reverse]
  | char :: rest =>
    if isWhitespace char then
      if word = [] then splitWhitespaceFrom [] rest
      else word.reverse :: splitWhitespaceFrom [] rest
    else splitWhitespaceFrom (char :: word) rest

/-- `str::split_whitespace`. -/
def splitWhitespace (text : List Char) : List (List Char) :=
  splitWhitespaceFrom [] text

/-- The lines from here on; `line` is the line being read, last characters first. -/
def linesFrom (line : List Char) : List Char → List (List Char)
  | [] => if line = [] then [] else [line.reverse]
  | '\n' :: rest =>
    match line with
    | '\r' :: before => before.reverse :: linesFrom [] rest
    | _ => line.reverse :: linesFrom [] rest
  | char :: rest => linesFrom (char :: line) rest

/-- `str::lines`: a line ends with a line feed, or with a carriage return and a line feed. -/
def lines (text : List Char) : List (List Char) :=
  linesFrom [] text

/-- `str::strip_prefix`. -/
def stripPrefix (start text : List Char) : Option (List Char) :=
  if start.isPrefixOf text then some (text.drop start.length) else none

/-- `str::eq_ignore_ascii_case`. -/
def eqIgnoreAsciiCase (first second : List Char) : Bool :=
  first.map Char.toLower = second.map Char.toLower

/-- `str::rsplit_once`: the parts before and after the last separator. -/
def rsplitOnce (separator : Char) (text : List Char) : Option (List Char × List Char) :=
  let after := text.reverse.takeWhile (· ≠ separator)
  if after.length < text.length then
    some (text.take (text.length - after.length - 1), after.reverse)
  else none

/-- The value of decimal digits; `none` when a character is not a digit. -/
def decimalFrom (value : ℕ) : List Char → Option ℕ
  | [] => some value
  | char :: rest =>
    if char.isDigit then decimalFrom (10 * value + (char.toNat - '0'.toNat)) rest else none

/-- `str::parse::<u16>`: decimal digits, at least one, after an optional plus sign. -/
def parseU16 (text : List Char) : Option UInt16 :=
  let digits := match text with
    | '+' :: rest => rest
    | _ => text
  if digits = [] then none
  else (decimalFrom 0 digits).bind fun value ↦
    if value < 65536 then some (UInt16.ofNat value) else none

/-- A decimal octet: at most three digits, and no zero before other digits. -/
def parseOctet (text : List Char) : Option ℕ :=
  if text = [] ∨ 3 < text.length ∨ (text.head? = some '0' ∧ 1 < text.length) then none
  else (decimalFrom 0 text).filter (· < 256)

/-- `Ipv4Addr::from_str`. -/
def parseIpv4 (text : List Char) : Option Ipv4Addr :=
  match (text.splitOn '.').mapM parseOctet with
  | some [a, b, c, d] => some (ipv4 (.ofNat a) (.ofNat b) (.ofNat c) (.ofNat d))
  | _ => none

/-! ### Lossy decoding -/

/-- A continuation byte. -/
def isContinuation (byte : UInt8) : Bool :=
  0x80 ≤ byte && byte ≤ 0xBF

/-- The second byte fits the lead byte: no overlong form, no surrogate, nothing past the last code
point. -/
def secondFits (lead second : UInt8) : Bool :=
  if lead = 0xE0 then 0xA0 ≤ second && second ≤ 0xBF
  else if lead = 0xED then 0x80 ≤ second && second ≤ 0x9F
  else if lead = 0xF0 then 0x90 ≤ second && second ≤ 0xBF
  else if lead = 0xF4 then 0x80 ≤ second && second ≤ 0x8F
  else isContinuation second

/-- The character of a lead byte, reduced to its payload, and its continuation bytes. -/
def decodeChar (payload : ℕ) (continuation : List UInt8) : Char :=
  Char.ofNat (continuation.foldl (fun code byte ↦ 64 * code + byte.toNat % 64) payload)

/-- The replacement character. -/
def replacement : Char := Char.ofNat 0xFFFD

/-- `String::from_utf8_lossy`: every maximal ill-formed start of a sequence becomes one replacement
character. -/
def fromUtf8Lossy : Bytes → List Char
  | [] => []
  | lead :: rest =>
    if lead < 0x80 then decodeChar lead.toNat [] :: fromUtf8Lossy rest
    else if 0xC2 ≤ lead && lead ≤ 0xDF then
      match rest with
      | [] => [replacement]
      | second :: rest =>
        if isContinuation second then
          decodeChar (lead.toNat % 32) [second] :: fromUtf8Lossy rest
        else replacement :: fromUtf8Lossy (second :: rest)
    else if 0xE0 ≤ lead && lead ≤ 0xEF then
      match rest with
      | [] => [replacement]
      | second :: rest =>
        if secondFits lead second then
          match rest with
          | [] => [replacement]
          | third :: rest =>
            if isContinuation third then
              decodeChar (lead.toNat % 16) [second, third] :: fromUtf8Lossy rest
            else replacement :: fromUtf8Lossy (third :: rest)
        else replacement :: fromUtf8Lossy (second :: rest)
    else if 0xF0 ≤ lead && lead ≤ 0xF4 then
      match rest with
      | [] => [replacement]
      | second :: rest =>
        if secondFits lead second then
          match rest with
          | [] => [replacement]
          | third :: rest =>
            if isContinuation third then
              match rest with
              | [] => [replacement]
              | fourth :: rest =>
                if isContinuation fourth then
                  decodeChar (lead.toNat % 8) [second, third, fourth] :: fromUtf8Lossy rest
                else replacement :: fromUtf8Lossy (fourth :: rest)
            else replacement :: fromUtf8Lossy (third :: rest)
        else replacement :: fromUtf8Lossy (second :: rest)
    else replacement :: fromUtf8Lossy rest

end EntroTunnel.Core
