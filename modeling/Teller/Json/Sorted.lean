import Teller.Json.Value

/-!
# Sorted objects

A form that does not depend on the order in which members were written: at every depth the members
of an object stand in the order of their names. Of several members with one name the last one
counts.
-/

namespace Teller.Json

/-- Puts a member in its place, unless there is one of its name. -/
def putMember (m : String × Value) : List (String × Value) → List (String × Value)
  | [] => [m]
  | n :: rest =>
    if m.1 = n.1 then n :: rest
    else if m.1 < n.1 then m :: n :: rest
    else n :: putMember m rest

mutual

/-- The value with the members of its objects in the order of their names, on all levels. -/
def Value.sorted : Value → Value
  | .array items => .array (sortedItems items)
  | .object members => .object (sortedMembers members)
  | v => v

/-- Each item is sorted by itself. -/
def sortedItems : List Value → List Value
  | [] => []
  | v :: rest => v.sorted :: sortedItems rest

/-- Members are put in one by one, from the last to the first. -/
def sortedMembers : List (String × Value) → List (String × Value)
  | [] => []
  | (name, v) :: rest => putMember (name, v.sorted) (sortedMembers rest)

end

end Teller.Json
