/-!
# Forwarded arguments

Arguments that the command line does not take for itself go on to a tool. They arrive in two lists, positional ones and
unrecognized options, and are put back into the order in which they were typed.
-/

namespace Amalgam.CommandLine

/-- Walks through the typed arguments and takes from the two lists what comes next; what is left over comes last. -/
def forwarded : (typed positional unknown : List String) → List String
  | [], positional, unknown => unknown ++ positional
  | token :: rest, positional, u :: us =>
    if token = u then u :: forwarded rest positional us
    else
      -- A text that is next in neither list was consumed by the command line itself.
      match positional with
      | [] => forwarded rest [] (u :: us)
      | p :: ps => if token = p then p :: forwarded rest ps (u :: us) else forwarded rest (p :: ps) (u :: us)
  | token :: rest, p :: ps, [] => if token = p then p :: forwarded rest ps [] else forwarded rest (p :: ps) []
  | _ :: _, [], [] => []

example : forwarded ["a", "-x", "b", "-y"] ["a", "b"] ["-x", "-y"] = ["a", "-x", "b", "-y"] := by decide

end Amalgam.CommandLine
