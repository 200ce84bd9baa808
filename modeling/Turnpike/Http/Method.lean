/-
  Request methods — non-empty tokens, compared letter by letter.
-/
import Turnpike.Text.Ascii

namespace Turnpike.Http

open Turnpike.Text

/-- A method name: one or more token characters, case significant. -/
structure Method where
  name : String
  token : name.toList ≠ [] ∧ name.toList.all isTokenChar = true
  deriving DecidableEq

/-- The method of that name, if the name is a token. -/
def Method.ofString? (s : String) : Option Method :=
  if h : s.toList ≠ [] ∧ s.toList.all isTokenChar = true then some ⟨s, h⟩ else none

theorem Method.name_of_ofString? {s : String} {m : Method} (h : Method.ofString? s = some m) :
    m.name = s := by
  unfold Method.ofString? at h
  split at h
  · cases h; rfl
  · cases h

/-- The method of a plain read. -/
def Method.get : Method := ⟨"GET", by decide⟩

/-- The method that asks for the head of an answer only. -/
def Method.head : Method := ⟨"HEAD", by decide⟩

/-- The method that asks for a tunnel. -/
def Method.connect : Method := ⟨"CONNECT", by decide⟩

instance : Inhabited Method := ⟨Method.get⟩

example : (Method.ofString? "X-Y").isSome = true ∧ Method.ofString? "GE T" = none := by decide

end Turnpike.Http
