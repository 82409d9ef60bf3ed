import MetricBatch.Url.Percent

namespace MetricBatch.Url.Form

def isPlain (b : UInt8) : Bool :=
  let c := Char.ofNat b.toNat
  c.isAlphanum || c == '*' || c == '-' || c == '.' || c == '_'

def encodeByte (b : UInt8) : List Char :=
  if isPlain b then [Char.ofNat b.toNat]
  else if b = 0x20 then ['+']
  else Percent.encodeByte b

def encodeText (cs : List Char) : List Char := (Text.Utf8.encode cs).flatMap encodeByte

def encodePair (pair : String × String) : List Char :=
  encodeText pair.1.toList ++ '=' :: encodeText pair.2.toList

/-- The query string of a list of parameters. Letters, digits and `*-._` stand for themselves, a
space becomes a plus sign and every other byte is percent-encoded. -/
def encode (pairs : List (String × String)) : String :=
  String.ofList (List.intercalate ['&'] (pairs.map encodePair))

/-- The text of an encoded name or value. Bytes that are no character are replaced. -/
def decodeText (cs : List Char) : String :=
  let spaced := cs.map fun c => if c = '+' then ' ' else c
  String.ofList (Text.Utf8.lossy (Percent.decode (Text.Utf8.encode spaced)))

def decodePair (cs : List Char) : String × String :=
  (decodeText (cs.takeWhile (· != '=')), decodeText ((cs.dropWhile (· != '=')).drop 1))

/-- The parts of a list between separators. -/
def split (separator : Char) : List Char → List (List Char)
  | [] => [[]]
  | c :: rest =>
    if c = separator then [] :: split separator rest
    else
      match split separator rest with
      | part :: parts => (c :: part) :: parts
      | [] => [[c]]

/-- The parameters of a query string; empty parts hold none. -/
def decode (query : String) : List (String × String) :=
  ((split '&' query.toList).filter (! ·.isEmpty)).map decodePair

end MetricBatch.Url.Form
