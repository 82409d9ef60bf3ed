
namespace MetricBatch

/-- A dictionary from text to values. The keys ascend by code point, so that a dictionary has one
form only. -/
abbrev Dictionary (α : Type) := List (String × α)

namespace Dictionary

variable {α : Type}

def Ascending (entries : Dictionary α) : Prop := entries.Pairwise (·.1 < ·.1)

/-- Adds an entry, in place of one under the same key. -/
def put (key : String) (value : α) : Dictionary α → Dictionary α
  | [] => [(key, value)]
  | (k, v) :: rest =>
    if key < k then (key, value) :: (k, v) :: rest
    else if key = k then (key, value) :: rest
    else (k, v) :: put key value rest

def get? (key : String) : Dictionary α → Option α
  | [] => none
  | (k, v) :: rest => if k = key then some v else get? key rest

/-- Of entries under one key the last stays. -/
def ofList (entries : List (String × α)) : Dictionary α :=
  entries.foldl (fun d (k, v) => put k v d) []

end Dictionary

end MetricBatch
