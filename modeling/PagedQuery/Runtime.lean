import PagedQuery.Fault
import PagedQuery.Text.Charset

/-!
What a program is run on: how deep values may lie inside one another, which depends on how much of
the stack is in use, and the charsets that are installed.
-/
namespace PagedQuery

class Runtime where
  /-- How many lists and objects JSON may hold inside one another. -/
  readDepth : Nat
  /-- How many of them may lie around a value that is written as text. -/
  textDepth : Nat
  /-- The text that bytes hold in the charset of a name, if there is one of that name. -/
  decoder? : String → Option (List UInt8 → Except Fault String)

/-- An interpreter as it comes, with little of its stack in use. Of its charsets the universal
ones and the code pages of one byte are here. -/
@[reducible] def Runtime.usual : Runtime where
  readDepth := 975
  textDepth := 975
  decoder? name := (Text.Charset.ofName? name).map fun charset bytes =>
    match charset.decode? bytes with
    | some cs => .ok (String.ofList cs)
    | none => .error .missingMark

namespace Runtime.Usual

scoped instance usualRuntime : Runtime := usual

end Runtime.Usual
end PagedQuery
