import PagedQuery.Runtime
import PagedQuery.Text.Quoted
import PagedQuery.Value.Basic

/-!
Values as text. On its own a string is written as it is; inside a list or an object it is
quoted. A whole number may have too many digits to be written, and a value may lie inside too many
others.
-/
namespace PagedQuery.Value

def commaSeparated : List String → String
  | [] => ""
  | [s] => s
  | s :: rest => s ++ ", " ++ commaSeparated rest

mutual

/-- A value as it is shown inside others, with `room` levels left, of which it takes one. -/
def quotedWithin (room : Nat) (v : Value) : Except Fault String :=
  match room, v with
  | 0, _ => .error .tooDeep
  | _ + 1, null => .ok "None"
  | _ + 1, bool b => .ok (Number.boolText b)
  | _ + 1, int n => Number.wholeText n
  | _ + 1, real x => .ok x.text
  | _ + 1, string s => .ok (Text.quoted s)
  | room + 1, list items => do
    let texts ← quotedItems room items
    pure ("[" ++ commaSeparated texts ++ "]")
  | room + 1, object entries => do
    let texts ← quotedEntries room entries
    pure ("\x7b" ++ commaSeparated texts ++ "\x7d")

def quotedItems (room : Nat) : List Value → Except Fault (List String)
  | [] => .ok []
  | v :: rest => do
    let text ← quotedWithin room v
    let texts ← quotedItems room rest
    pure (text :: texts)

def quotedEntries (room : Nat) : List (String × Value) → Except Fault (List String)
  | [] => .ok []
  | (k, v) :: rest => do
    let text ← quotedWithin room v
    let texts ← quotedEntries room rest
    pure ((Text.quoted k ++ ": " ++ text) :: texts)

end

variable [Runtime]

def quoted (v : Value) : Except Fault String := quotedWithin (Runtime.textDepth + 1) v

def text : Value → Except Fault String
  | string s => .ok s
  | v => v.quoted

end PagedQuery.Value
