import PagedQuery.Sql.Clause
import PagedQuery.Transport.Basic

/-!
Rows of results. When tables are joined, the id of the joined table hides that of the main
table, which comes under a name of its own and is put back here.
-/
namespace PagedQuery

/-- The key of an entry of a row that came as a list of pairs. -/
inductive Key
  | null
  | number (n : Number)
  | text (s : String)
deriving DecidableEq, Repr

/-- Numbers of any form are the same key if they are equal; not a number is none. -/
def Key.same : Key → Key → Bool
  | null, null => true
  | number a, number b => a.same b
  | text s, text t => s == t
  | _, _ => false

instance : BEq Key := ⟨Key.same⟩

/-- A row: a value as it came, or entries that were put together from pairs. -/
inductive Row
  | value (v : Value)
  | keyed (entries : List (Key × Value))
deriving Repr

namespace Row

def idName : String := "id"

/-- Puts the value under `name` in the place of the one under `id`. -/
def restoreUnder {κ α : Type} [BEq κ] (name id : κ) (entries : List (κ × α)) : List (κ × α) :=
  match Entries.find? name entries with
  | some v => Entries.insert id v (Entries.erase name entries)
  | none => entries

def restore (fields : Fields) : Fields := restoreUnder rowIdAlias idName fields

def keyOf? (v : Value) : Option Key :=
  match v with
  | .null => some .null
  | .string s => some (.text s)
  | _ => v.number?.map .number

/-- A key and a value from a value with two members. -/
def pairOf (v : Value) : Except Failure (Key × Value) :=
  match v.members? with
  | none => .error (.fault .wrongType)
  | some [k, v] =>
    match keyOf? k with
    | some key => .ok (key, v)
    | none => .error (.fault .wrongType)
  | some _ => .error (.fault .wrongValue)

/-- A row of joined tables: an object, or something that can be made one. -/
def ofJoined : Value → Except Failure Row
  | .object fields => .ok (.value (.object (restore fields)))
  | v => do
    let pairs ← (← v.listed).mapM pairOf
    pure (.keyed (restoreUnder (.text rowIdAlias) (.text idName) (Entries.ofPairs pairs)))

def ofReply (joined : Bool) (reply : Value) : Except Failure (List Row) := do
  let items ← reply.listed
  if joined then items.mapM ofJoined else pure (items.map value)

end Row
end PagedQuery
