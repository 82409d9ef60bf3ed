import MetricBatch.Text.Unprintable

namespace MetricBatch.Text

/-- The digit characters of a number in a base up to sixteen, most significant first. -/
def digitsIn (base n : Nat) : List Char := Nat.toDigits base n

/-- One character inside quotes. -/
def quoteChar (c : Char) : List Char :=
  if c = '"' then ['\\', '"']
  else if c = '\\' then ['\\', '\\']
  else if c = '\n' then ['\\', 'n']
  else if c = '\r' then ['\\', 'r']
  else if c = '\t' then ['\\', 't']
  else if c = '\x00' then ['\\', '0']
  else if isUnprintable c then ['\\', 'u', '\x7b'] ++ digitsIn 16 c.toNat ++ ['\x7d']
  else [c]

/-- Text between double quotes, as messages show it. Quotes and backslashes are escaped, the common
controls have letters, and what cannot be printed is given by its number. -/
def quoted (s : String) : String :=
  String.ofList (['"'] ++ s.toList.flatMap quoteChar ++ ['"'])

end MetricBatch.Text
