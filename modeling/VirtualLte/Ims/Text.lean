import VirtualLte.Engine.Security

/-!
# Text of SIP messages

The byte and string helpers of `ims_service.c`.

* A message is searched for header lines: `headerLines` is the loop that all the
  `header_…` functions share, and each of them looks at the lines in its own way.
* `authParamCopy` finds a parameter of a challenge, `base64Decode` decodes its nonce.
* A C string is the octets before its terminator; `cstr` is what is left of octets that are
  read back as a string, and `snprintf` what a buffer of a given size holds of a text.
-/

namespace VirtualLte.Ims

open Engine

/-! ## Searching -/

/-- The first place where `p` holds of what follows. -/
def firstAt (p : Bytes → Bool) : Bytes → Option Nat
  | [] => none
  | c :: rest => if p (c :: rest) then some 0 else (firstAt p rest).map (· + 1)

def findBytes (data needle : Bytes) : Option Nat :=
  if needle.length = 0 then none else firstAt (needle.isPrefixOf ·) data

def asciiLower (c : UInt8) : UInt8 := if 0x41 ≤ c ∧ c ≤ 0x5A then c + 32 else c

/-- `text` starts with `name`, in any case. -/
def startsNoCase (name text : Bytes) : Bool :=
  (name.map asciiLower).isPrefixOf (text.map asciiLower)

def findAsciiCase (haystack needle : Bytes) : Option Nat :=
  if needle.length = 0 then some 0 else firstAt (startsNoCase needle) haystack

def cstr (b : Bytes) : Bytes := b.takeWhile (· ≠ 0)

/-- What a buffer of `size` octets holds of a formatted text. -/
def snprintf (size : Nat) (text : Bytes) : Bytes := text.take (size - 1)

def isBlank (c : UInt8) : Bool := c = 0x20 || c = 0x09

def isDigit (c : UInt8) : Bool := 0x30 ≤ c && c ≤ 0x39

/-! ## Header lines -/

def crlf : Bytes := [0x0D, 0x0A]

/-- The lines up to the end of the text; the fuel bounds their number. -/
def linesFrom : Nat → Bytes → List Bytes
  | 0, _ => []
  | n + 1, text =>
    if text.length = 0 then []
    else
      match findBytes text crlf with
      | none => [text]
      | some i => text.take i :: linesFrom n (text.drop (i + 2))

def headerLines (hdr : Bytes) : List Bytes := linesFrom hdr.length hdr

/-- A line that is longer than the name of a field and starts with it. -/
def isHeader (name line : Bytes) : Bool := name.length < line.length && startsNoCase name line

def headerHasContentTypeSms (hdr : Bytes) : Bool :=
  (headerLines hdr).any fun line =>
    isHeader (asciiText "Content-Type:") line &&
      (findBytes line (asciiText "application/vnd.3gpp.sms")).isSome

def headerHasCseqMethod (hdr method : Bytes) : Bool :=
  (headerLines hdr).any fun line =>
    isHeader (asciiText "CSeq:") line && (findBytes line method).isSome

/-- The first line of a field. -/
def findHeader (hdr name : Bytes) : Option Bytes := (headerLines hdr).find? (isHeader name)

def headerCopyLine (hdr name : Bytes) (cap : Nat) : Option Bytes :=
  (findHeader hdr name).map fun line => cstr (line.take (cap - 1))

/-- The digits of the first line of a field; `none` if there is no such line or no digit
behind the blanks. -/
def headerDigits (hdr name : Bytes) : Option Bytes :=
  match findHeader hdr name with
  | none => none
  | some line =>
    let value := (line.drop name.length).dropWhile isBlank
    if value.length = 0 ∨ isDigit (octet value 0) = false then none
    else some (value.takeWhile isDigit)

/-- The number that digits write in a register of `width` bits. -/
def digitsValue (width : Nat) (digits : Bytes) : Nat :=
  digits.foldl (fun v c => (v * 10 + (c - 0x30).toNat) % 2 ^ width) 0

def headerGetContentLength (hdr : Bytes) : Option Nat :=
  (headerDigits hdr (asciiText "Content-Length:")).map (digitsValue 64)

def headerGetUint (hdr name : Bytes) : Option Nat := (headerDigits hdr name).map (digitsValue 32)

/-- The lines of a field that fit, each with its CRLF, and their number. -/
def headerCopyAllLines (hdr name : Bytes) (cap : Nat) : Bytes × Nat :=
  (headerLines hdr).foldl (fun (out, count) line =>
    if isHeader name line && out.length + line.length + 3 ≤ cap then (out ++ line ++ crlf, count + 1)
    else (out, count)) ([], 0)

/-- The text inside the first pair of angle brackets. -/
def imsExtractAngleUri (line : Bytes) (cap : Nat) : Bytes :=
  match findBytes line [0x3C] with
  | none => []
  | some lt =>
    match findBytes (line.drop lt) [0x3E] with
    | none => []
    | some n => if 1 < n then ((line.drop (lt + 1)).take (n - 1)).take (cap - 1) else []

/-! ## Parameters of a challenge -/

def isBeforeParam (c : UInt8) : Bool := c = 0x20 || c = 0x2C || c = 0x09

def isTokenEnd (c : UInt8) : Bool :=
  c = 0x2C || c = 0x20 || c = 0x09 || c = 0x0D || c = 0x0A

/-- The value behind the equals sign, quoted or not. -/
def authParamValue (v : Bytes) : Bytes :=
  if octet v 0 = 0x22 then (v.drop 1).takeWhile (· ≠ 0x22) else v.takeWhile fun c => !isTokenEnd c

/-- The value of the first occurrence of `name` from `p` on that follows a separator and is
followed by an equals sign; the fuel bounds the number of occurrences. -/
def authParamFrom (line name : Bytes) : Nat → Nat → Option Bytes
  | 0, _ => none
  | n + 1, p =>
    match findAsciiCase (line.drop p) name with
    | none => none
    | some k =>
      let p := p + k
      let v := (line.drop (p + name.length)).dropWhile isBlank
      if p ≠ 0 ∧ isBeforeParam (octet line (p - 1)) = false ∨ octet v 0 ≠ 0x3D then
        authParamFrom line name n (p + name.length)
      else some (authParamValue ((v.drop 1).dropWhile isBlank))

/-- An empty value counts as none. -/
def authParamCopy (line name : Bytes) (cap : Nat) : Option Bytes :=
  match authParamFrom line name (line.length + 1) 0 with
  | none => none
  | some value => if value.length = 0 then none else some (value.take (cap - 1))

/-! ## Base64 -/

def base64Val (c : UInt8) : Option UInt32 :=
  if 0x41 ≤ c ∧ c ≤ 0x5A then some (c - 0x41).toUInt32
  else if 0x61 ≤ c ∧ c ≤ 0x7A then some (26 + (c - 0x61)).toUInt32
  else if isDigit c then some (52 + (c - 0x30)).toUInt32
  else if c = 0x2B then some 62
  else if c = 0x2F then some 63
  else none

/-- The loop: `bits` is eight more than the source's. -/
def base64Loop (cap : Nat) : Bytes → UInt32 → Nat → Bytes → Option Bytes
  | [], _, _, out => some out
  | c :: rest, val, bits, out =>
    if c = 0x3D then some out
    else
      match base64Val c with
      | none => base64Loop cap rest val bits out
      | some v =>
        let val := (val <<< 6) ||| v
        if bits + 6 ≥ 8 then
          if out.length ≥ cap then none
          else
            base64Loop cap rest val (bits + 6 - 8)
              (out ++ [(val >>> UInt32.ofNat (bits + 6 - 8)).toUInt8])
        else base64Loop cap rest val (bits + 6) out

def base64Decode (text : Bytes) (cap : Nat) : Option Bytes := base64Loop cap text 0 0 []

end VirtualLte.Ims
