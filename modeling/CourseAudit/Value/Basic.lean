/-!
Data as configuration files and machine-readable reports hold it.
-/
namespace CourseAudit

inductive Value where
  | null
  | bool (b : Bool)
  | integer (n : Int)
  | float (x : Float)
  | string (s : String)
  | array (items : List Value)
  | object (fields : List (String × Value))

namespace Value

-- The last field of a name.
def field? (fields : List (String × Value)) (name : String) : Option Value :=
  (fields.reverse.find? (·.1 = name)).map (·.2)

end Value
end CourseAudit
