/-!
Entries: keys with their values, in the order in which the keys were first written.
-/
namespace PagedQuery.Entries

variable {κ α : Type}

/-- A known key keeps its place and takes the new value; a new key goes last. -/
def insert [BEq κ] (key : κ) (value : α) : List (κ × α) → List (κ × α)
  | [] => [(key, value)]
  | (k, v) :: rest => if k == key then (k, value) :: rest else (k, v) :: insert key value rest

def ofPairs [BEq κ] (pairs : List (κ × α)) : List (κ × α) :=
  pairs.foldl (fun entries p => insert p.1 p.2 entries) []

def erase [BEq κ] (key : κ) (entries : List (κ × α)) : List (κ × α) :=
  entries.filter fun p => !(p.1 == key)

def find? [BEq κ] (key : κ) (entries : List (κ × α)) : Option α :=
  (entries.find? fun p => p.1 == key).map Prod.snd

end PagedQuery.Entries
