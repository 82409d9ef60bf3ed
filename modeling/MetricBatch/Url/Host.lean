import MetricBatch.Url.Idna.Domain

namespace MetricBatch

/-- Why a text is no URL. -/
inductive UrlError where
  | emptyHost
  | invalidDomain
  | invalidPort
  | invalidIpv4
  | invalidIpv6
  | invalidHostCharacter
  | noScheme
  deriving DecidableEq, Repr

def UrlError.message : UrlError → String
  | .emptyHost => "empty host"
  | .invalidDomain => "invalid international domain name"
  | .invalidPort => "invalid port number"
  | .invalidIpv4 => "invalid IPv4 address"
  | .invalidIpv6 => "invalid IPv6 address"
  | .invalidHostCharacter => "invalid domain character"
  | .noScheme => "relative URL without a base"

inductive Host where
  | name (text : String)
  | ipv4 (address : Nat)
  | ipv6 (pieces : List Nat)
  deriving DecidableEq, Repr

namespace Host

def isHexDigit (c : Char) : Bool := c.isDigit || ('a' ≤ c && c ≤ 'f') || ('A' ≤ c && c ≤ 'F')

def hexValue (c : Char) : Nat :=
  if c.isDigit then c.toNat - 48 else if c.toNat < 97 then c.toNat - 55 else c.toNat - 87

def numberIn (base : Nat) (cs : List Char) : Nat := cs.foldl (fun n c => n * base + hexValue c) 0

/-- A part of an address: decimal, hexadecimal behind `0x`, or octal behind another zero. -/
def ipv4Part? (cs : List Char) : Option Nat :=
  match cs with
  | [] => none
  | '0' :: x :: rest =>
    if x = 'x' || x = 'X' then if rest.all isHexDigit then some (numberIn 16 rest) else none
    else if (x :: rest).all (fun c => '0' ≤ c && c ≤ '7') then some (numberIn 8 (x :: rest))
    else none
  | cs => if cs.all Char.isDigit then some (numberIn 10 cs) else none

/-- The parts of a name; an empty one at the end does not count. -/
def parts (cs : List Char) : List (List Char) :=
  match (Url.Form.split '.' cs).reverse with
  | [] :: rest => rest.reverse
  | parts => parts.reverse

/-- Whether a name has to be an address, by its last part. -/
def endsInNumber (cs : List Char) : Bool :=
  match (parts cs).getLast? with
  | none => false
  | some last => (!last.isEmpty && last.all Char.isDigit) || (ipv4Part? last).isSome

/-- The last part fills all the bytes that the parts before it leave. -/
def ipv4? (cs : List Char) : Option Nat := do
  let parts := parts cs
  let numbers ← parts.mapM ipv4Part?
  if 4 < numbers.length then none
  else
    let first := numbers.dropLast
    let last := numbers.getLastD 0
    if first.all (· ≤ 255) && last < Nat.pow 256 (4 - first.length) then
      some (first.foldl (fun n b => n * 256 + b) 0 * Nat.pow 256 (4 - first.length) + last)
    else none

/-- Four decimal numbers below 256 between full stops, without zeros in front, as two pieces. -/
def dotted? (cs : List Char) : Option (List Nat) := do
  let part? (cs : List Char) : Option Nat :=
    if cs.isEmpty || !cs.all Char.isDigit || (1 < cs.length && cs.head? == some '0')
        || 255 < numberIn 10 cs then none
    else some (numberIn 10 cs)
  match ← (Url.Form.split '.' cs).mapM part? with
  | [a, b, c, d] => some [a * 256 + b, c * 256 + d]
  | _ => none

/-- Reads pieces, with the place of the gap if there is one. At most eight pieces are read; a gap
counts as one. -/
def pieces? : (turns : Nat) → List Char → (sofar : List Nat) → (gap : Option Nat) →
    Option (List Nat × Option Nat)
  | _, [], sofar, gap => some (sofar, gap)
  | 0, _, _, _ => none
  | turns + 1, ':' :: rest, sofar, gap =>
    if gap.isSome then none
    else pieces? turns rest (sofar ++ [0]) (some (sofar.length + 1))
  | turns + 1, cs, sofar, gap =>
    let digits := (cs.take 4).takeWhile isHexDigit
    match cs.drop digits.length with
    | [] => some (sofar ++ [numberIn 16 digits], gap)
    | '.' :: _ =>
      if digits.isEmpty || 6 < sofar.length then none
      else (dotted? cs).map fun last => (sofar ++ last, gap)
    | ':' :: rest =>
      if rest.isEmpty then none else pieces? turns rest (sofar ++ [numberIn 16 digits]) gap
    | _ => none

/-- The gap stands for as many zeros as make eight pieces. -/
def ipv6? (cs : List Char) : Option (List Nat) := do
  let (pieces, gap) ←
    match cs with
    | ':' :: ':' :: rest => pieces? 7 rest [0] (some 1)
    | ':' :: _ => none
    | [_] | [] => none
    | cs => pieces? 8 cs [] none
  match gap with
  | none => if pieces.length = 8 then some pieces else none
  | some place =>
    some (pieces.take place ++ List.replicate (8 - pieces.length) 0 ++ pieces.drop place)

/-- The length of the run of zeros at the front. -/
def zeros (pieces : List Nat) : Nat := (pieces.takeWhile (· == 0)).length

/-- The place and the length of the first longest run of zeros. -/
def longestZeros (pieces : List Nat) : Nat × Nat :=
  (List.range pieces.length).foldl (fun (place, length) i =>
    let n := zeros (pieces.drop i)
    if length < n then (i, n) else (place, length)) (0, 0)

def pieceList (pieces : List Nat) : List Char :=
  List.intercalate [':'] (pieces.map (Nat.toDigits 16))

def ipv6Text (pieces : List Nat) : List Char :=
  let (place, length) := longestZeros pieces
  let body :=
    if length < 2 then pieceList pieces
    else pieceList (pieces.take place) ++ ':' :: ':' :: pieceList (pieces.drop (place + length))
  '[' :: body ++ [']']

def ipv4Text (address : Nat) : List Char :=
  List.intercalate ['.'] ([3, 2, 1, 0].map fun i => Nat.toDigits 10 (address / Nat.pow 256 i % 256))

/-- An address may be written in several ways and has one text. -/
def text : Host → String
  | .name s => s
  | .ipv4 address => String.ofList (ipv4Text address)
  | .ipv6 pieces => String.ofList (ipv6Text pieces)

def bracketed (cs : List Char) : Except UrlError Host :=
  let inner := (cs.drop 1).dropLast
  if cs.getLast? != some ']' then .error .invalidIpv6
  else
    match ipv6? inner with
    | some pieces => .ok (.ipv6 pieces)
    | none => .error .invalidIpv6

/-- The host of a URL whose scheme has a host by its nature. -/
def ofDomain (cs : List Char) : Except UrlError Host :=
  if cs.head? = some '[' then bracketed cs
  else
    match Url.Idna.domain? (Url.Percent.decode (Text.Utf8.encode cs)) with
    | none => .error .invalidDomain
    | some domain =>
      if domain.isEmpty then .error .emptyHost
      else if endsInNumber domain then
        match ipv4? domain with
        | some address => .ok (.ipv4 address)
        | none => .error .invalidIpv4
      else .ok (.name (String.ofList domain))

/-- The host of any other URL: a name that nothing is known about. -/
def ofText (cs : List Char) : Except UrlError Host :=
  if cs.head? = some '[' then bracketed cs
  else if cs.any fun c => c == '\x00' || "\t\n\r #/:<>?@[\\]^|".toList.contains c then
    .error .invalidHostCharacter
  else .ok (.name (String.ofList (Url.Percent.encode Url.Percent.control cs)))

end Host

end MetricBatch
