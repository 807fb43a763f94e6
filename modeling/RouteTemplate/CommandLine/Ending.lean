import RouteTemplate.ErrorClass
import RouteTemplate.Output.Basic

set_option autoImplicit false

namespace RouteTemplate.CommandLine

/-- How the program ends. Help and the word on misuse are told apart by what they are for. -/
inductive Ending where
  | done (code : Int) (written : Written)
  | help (code : Int)
  | misuse
deriving Repr, DecidableEq

structure Failure where
  message : Text
  code : Int
deriving Repr, DecidableEq

namespace Failure

def ofReport (r : Report) : Failure := ⟨r.message, r.exitCode⟩

/-- The failure of an error that is not a reported one. -/
def unexpected (message : Text) : Failure := ⟨"Unexpected error: " ++ message, 1⟩

end Failure

namespace Ending

def failed (output : Output) (before : Written) (failure : Failure) : Ending :=
  done failure.code (before ++ output.tell .error failure.message)

def abortMessage : Text := "Aborted.\n"

def aborted (before : Written) : Ending := done 1 (before ++ { diagnostics := abortMessage })

/-- The program was interrupted. -/
def interrupted : Ending := done 130 { diagnostics := "\nInterrupted.\n" }

end Ending

end RouteTemplate.CommandLine
