/-
  The HTTP methods that an operation can have, in the order in which operations are listed.
-/
namespace ClientForge

/-- An HTTP method. -/
inductive Method where
  | get
  | post
  | put
  | patch
  | delete
deriving DecidableEq, Repr, Inhabited

namespace Method

/-- Every method, in the fixed order. -/
def all : List Method := [get, post, put, patch, delete]

/-- The name of the method on the wire. -/
def name : Method → String
  | get => "GET"
  | post => "POST"
  | put => "PUT"
  | patch => "PATCH"
  | delete => "DELETE"

/-- The place of the method in the fixed order. -/
def rank : Method → Nat
  | get => 0
  | post => 1
  | put => 2
  | patch => 3
  | delete => 4

/-- The method of that name in any mixture of upper and lower case. -/
def ofName? (text : String) : Option Method :=
  let upper := String.ofList (text.toList.map Char.toUpper)
  all.find? fun method => method.name == upper

theorem mem_all (method : Method) : method ∈ all := by cases method <;> decide

example : ofName? "gEt" = some get := by decide +kernel

end Method

end ClientForge
