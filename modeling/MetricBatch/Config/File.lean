import MetricBatch.Config.Basic
import MetricBatch.Toml.Reader

namespace MetricBatch.Config

open Toml (Value Entries)

/-- A section by the names of its settings, in the order in which an array has them. Nothing means
that the value is no section. -/
def sectionEntries (names : List String) : Value → Option Entries
  | .table _ entries => some entries
  | .array items => some (names.zip items)
  | .tables list => some (names.zip (list.map (Value.table .header)))
  | .time => some []
  | _ => none

def sectionOf (document : Entries) (key : String) (names : List String) : Option Entries :=
  match document.get? key with
  | some v => sectionEntries names v
  | none => some []

/-- A setting that may be absent but has to be of its kind. -/
def setting {α : Type} (read : Value → Option α) (entries : Entries) (name : String) :
    Option (Option α) :=
  match entries.get? name with
  | none => some none
  | some v => (read v).map some

def stringOf? : Value → Option String
  | .string s => some s
  | _ => none

def naturalOf? : Value → Option Nat
  | .integer n => if 0 ≤ n then some n.toNat else none
  | _ => none

def settingsOf? (document : Entries) : Option Settings := do
  let backend ← sectionOf document "prometheus" ["endpoint", "auth_token"]
  let limits ← sectionOf document "query" ["max_concurrency", "timeout_secs"]
  return {
    endpoint := ← setting stringOf? backend "endpoint"
    token := ← setting stringOf? backend "auth_token"
    maxConcurrency := ← setting naturalOf? limits "max_concurrency"
    timeout := (← setting naturalOf? limits "timeout_secs").map Span.ofSeconds }

/-- The settings in the bytes of a file. -/
def settingsOfFile (path : String) (bytes : List UInt8) : Except ConfigError Settings :=
  match Text.Utf8.toString? bytes with
  | none => .error (.notText ⟨path, .notUtf8⟩)
  | some text =>
    match (Toml.read text).bind settingsOf? with
    | none => .error .malformed
    | some settings => .ok settings

/-- What comes of reading a file that is there: its bytes, or the system's reason not to give
them. -/
abbrev FileContent := Except String (List UInt8)

/-- Bytes that are there can be read. -/
instance : Coe (Option (List UInt8)) (Option FileContent) := ⟨Option.map Except.ok⟩

def readSettings (path : String) : FileContent → Except ConfigError Settings
  | .ok bytes => settingsOfFile path bytes
  | .error reason => .error (.notText ⟨path, .refused reason⟩)

end MetricBatch.Config
