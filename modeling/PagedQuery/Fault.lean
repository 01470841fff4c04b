/-!
Faults: what goes wrong when an operation is not defined for the values that it is given.
-/
namespace PagedQuery

inductive Fault
  | wrongType
  | wrongValue
  | missingKey
  | missingAttribute
  | overflow
  /-- Bytes whose order has to be told by a mark. -/
  | missingMark
  /-- Values inside one another without end. -/
  | tooDeep
  /-- What a decoder of a charset raises, by its name. -/
  | codec (name : String)
deriving DecidableEq, Repr

end PagedQuery
