import RouteTemplate.ResolveError

set_option autoImplicit false

namespace RouteTemplate

/-- The classes of reported errors. -/
inductive ErrorClass where
  | general
  | usage
  | resolution
  | missing
  | malformed
  | configuration
deriving Repr, DecidableEq

namespace ErrorClass

def parent? : ErrorClass → Option ErrorClass
  | general => none
  | usage => some general
  | resolution => some general
  | missing => some resolution
  | malformed => some resolution
  | configuration => some general

/-- The class and those above it. -/
def line : ErrorClass → List ErrorClass
  | general => [general]
  | usage => [usage, general]
  | resolution => [resolution, general]
  | missing => [missing, resolution, general]
  | malformed => [malformed, resolution, general]
  | configuration => [configuration, general]

def exitCode : ErrorClass → Int
  | general => 1
  | usage => 2
  | resolution => 3
  | missing => 3
  | malformed => 4
  | configuration => 1

end ErrorClass

/-- An error as it is told, with the exit code of the process that ends with it. -/
structure Report where
  kind : ErrorClass
  message : Text
  exitCode : Int
deriving Repr, DecidableEq

namespace Report

/-- A report of a class, with the exit code of the class unless another is given. -/
def of (kind : ErrorClass) (message : Text) (exitCode : Option Int) : Report :=
  ⟨kind, message, exitCode.getD kind.exitCode⟩

/-- What is told of a failed resolution when nothing else is. -/
def resolutionDefault : Text := "Error resolving HTTP route with the provided parameters."

/-- A report of a failed resolution; an empty message counts as none. -/
def resolution (message : Option Text) (exitCode : Option Int) : Report :=
  match message with
  | some (c :: rest) => of .resolution (c :: rest) exitCode
  | _ => of .resolution resolutionDefault exitCode

def missing (name template : Text) : Report := of .missing (missingMessage name template) none

def malformed (template : Text) (offset : Int) : Report := of .malformed (malformedMessage template offset) none

/-- The report of an error of resolution, if the error has one: other errors come from the bag and its values. -/
def ofResolveError? : ResolveError → Option Report
  | .missing name template => some (missing name template)
  | .malformed template offset => some (malformed template offset)
  | _ => none

end Report

end RouteTemplate
