/-
  Headers — named values of a message, several of one name allowed.

  Names are tokens in lower case.  A value is any text without control characters (the tab
  excepted); it can be read as text only when it is plain ASCII.  A set of headers keeps the values
  of each name in the order in which they were added.
-/
import Turnpike.Text.Ascii

namespace Turnpike.Http

open Turnpike.Text

/-- The header name that a text states, in lower case. -/
def headerName? (s : String) : Option String :=
  if s.toList ≠ [] ∧ s.toList.all isTokenChar then some (lowerAscii s) else none

/-- A character of a plain value. -/
def isPlain (c : Char) : Bool := c == '\t' || (' ' ≤ c && c ≤ '~')

/-- A character of any value. -/
def isValueChar (c : Char) : Bool := c == '\t' || (' ' ≤ c && c != '\x7f')

/-- Can the value be read as text? -/
def isReadable (value : String) : Bool := value.toList.all isPlain

/-- May the text be a value? -/
def isValue (value : String) : Bool := value.toList.all isValueChar

/-- Headers in order. -/
structure Headers where
  fields : List (String × String) := []
  deriving DecidableEq, Repr, Inhabited

namespace Headers

/-- The values of a name, in order. -/
def values (h : Headers) (name : String) : List String :=
  (h.fields.filter (·.1 == name)).map (·.2)

/-- The first value of a name. -/
def get? (h : Headers) (name : String) : Option String :=
  (h.fields.find? (·.1 == name)).map (·.2)

/-- The first value of a name, if it can be read as text. -/
def text? (h : Headers) (name : String) : Option String := (h.get? name).filter isReadable

/-- The headers with one more value. -/
def append (h : Headers) (name value : String) : Headers := ⟨h.fields ++ [(name, value)]⟩

/-- The headers without any value of a name. -/
def erase (h : Headers) (name : String) : Headers := ⟨h.fields.filter (·.1 != name)⟩

/-- The headers with one value for a name in place of those it had. -/
def set (h : Headers) (name value : String) : Headers := (h.erase name).append name value

/-- The headers of a list of names and values. -/
def ofList (fields : List (String × String)) : Headers := ⟨fields⟩

end Headers

end Turnpike.Http
