/-
  The program — loads settings and first values and shows the proxy in service with them.
-/
import Turnpike.Command

namespace Turnpike.Command

/-- The content of a file, if there is such a file. -/
def contentOf (path : String) : IO (Option String) := do
  try
    return some (← IO.FS.readFile path)
  catch _ =>
    return none

/-- Shows what is wrong. -/
def complain (message : String) : IO UInt32 := do
  (← IO.getStderr).putStrLn ("Error: " ++ message)
  return 1

/-- The first values that the settings name. -/
def seedOf (s : Settings) : IO (Except Settings.Fault (List (String × Json))) :=
  match s.storage.seedFile with
  | none => return .ok []
  | some path => return Settings.seedOfFile (← contentOf path)

/-- Loads, starts and shows. -/
def run (c : Command) : IO UInt32 := do
  let loaded ← match c.settingsFile with
    | none => pure (.ok {})
    | some path => do pure (Settings.ofFile (← contentOf path))
  match loaded with
  | .error f => complain f.message
  | .ok s =>
    let s := c.override s
    match ← seedOf s with
    | .error f => complain f.message
    | .ok seed =>
      match Command.report s seed with
      | .error e => complain e.message
      | .ok j =>
        IO.println j.text
        return 0

end Turnpike.Command

open Turnpike.Command in
/-- The program. -/
def main (args : List String) : IO UInt32 :=
  match parse {} args with
  | .error message => complain message
  | .ok c => run c
