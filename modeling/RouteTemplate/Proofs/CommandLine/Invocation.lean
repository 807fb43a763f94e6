import RouteTemplate.CommandLine.Run

set_option autoImplicit false

namespace RouteTemplate.CommandLine

open RouteTemplate.Configuration

def Ending.exitCode : Ending → Int
  | done code _ => code
  | help code => code
  | misuse => 2

/-- The program ends with an exit code and this data on the first stream, whatever it told besides. -/
def Ending.Shows (ending : Ending) (code : Int) (data : Text) : Prop :=
  ∃ written, ending = .done code written ∧ written.data = data

@[simp] theorem data_append (first second : Written) : (first ++ second).data = first.data ++ second.data := rfl

theorem tellTraces_data (output : Output) (traces : List Trace) : (tellTraces output traces).data = [] := by
  suffices kept : ∀ written : Written, written.data = [] →
      (traces.foldl (fun written trace => written ++ output.tell .debug trace.message) written).data = [] from kept {} rfl
  induction traces with
  | nil => exact fun _ empty => empty
  | cons trace traces ih =>
    intro written empty
    apply ih
    rw [data_append, empty, Output.tell_data]
    rfl

/-- What is told adds nothing to the data. -/
theorem told_shows (output : Output) (code : Int) (before : Written) (level : Level) (message : Text) :
    (Ending.done code (before ++ output.tell level message)).Shows code before.data := by
  refine ⟨_, rfl, ?_⟩
  rw [data_append, Output.tell_data, List.append_nil]

theorem failed_shows (output : Output) {before : Written} (silent : before.data = []) (failure : Failure) :
    (Ending.failed output before failure).Shows failure.code [] := by
  rw [← silent]
  exact told_shows output failure.code before .error failure.message

theorem exitCode_ne_zero (c : ErrorClass) : c.exitCode ≠ 0 := by
  cases c <;> decide

theorem code_unexpected (message : Text) : (Failure.unexpected message).code ≠ 0 := Int.one_ne_zero

/-- Without a configuration the exit code is 1, whether the error is a reported one or not. -/
theorem code_of_configurationError (e : ConfigurationError) : (Failure.ofConfigurationError e).code = 1 := by
  cases e with
  | host fault => rfl
  | tooDeep container => rfl
  | file layer path fault => rfl
  | badVariable name value => rfl
  | invalid issues => rfl

/-- A process that runs the program: what it finds around it, its arguments and its input. -/
structure Invocation where
  host : Host
  interactive : Bool := false
  arguments : List Text
  input : Text := []

namespace Invocation

def outcome (i : Invocation) : Ending × Host := run i.host i.interactive i.arguments i.input

def exitCode (i : Invocation) : Int := i.outcome.1.exitCode

/-- The command that the arguments ask for, if they ask for one. -/
def command? (i : Invocation) : Option Command :=
  match Request.read i.arguments with
  | .start _ (.command c) => some c
  | _ => none

variable {i : Invocation} {globals : Globals}

theorem outcome_of_error {asked : Asked} {e : ConfigurationError}
    (request : Request.read i.arguments = .start globals asked)
    (failed : effective i.host globals.layer none = .error e) :
    i.outcome = (.failed (outputOf i.host i.interactive globals.outputOptions) {} (.ofConfigurationError e), i.host) := by
  rw [outcome, run, request]
  dsimp only
  rw [failed]

theorem outcome_of_command {c : Command} {settings : Settings}
    (request : Request.read i.arguments = .start globals (.command c))
    (found : effective i.host globals.layer none = .ok settings) :
    i.outcome = c.run (outputOf i.host i.interactive globals.outputOptions) settings i.input i.host := by
  rw [outcome, run, request]
  dsimp only
  rw [found]

/-- How a process goes: it has no command to run, it fails for want of settings, or it runs its command. Only a command
changes what is around it. -/
inductive Course (i : Invocation) : Prop
  | idle (none : i.command? = none) (left : i.outcome.2 = i.host)
  | unsettled (code : i.exitCode = 1) (left : i.outcome.2 = i.host)
  | ran (c : Command) (globals : Globals) (settings : Settings) (asked : i.command? = some c)
      (found : effective i.host globals.layer none = .ok settings)
      (same : i.outcome = c.run (outputOf i.host i.interactive globals.outputOptions) settings i.input i.host)

theorem course (i : Invocation) : i.Course := by
  cases request : Request.read i.arguments with
  | version => exact .idle (by rw [command?, request]) (by rw [outcome, run, request])
  | help code => exact .idle (by rw [command?, request]) (by rw [outcome, run, request])
  | misuse => exact .idle (by rw [command?, request]) (by rw [outcome, run, request])
  | start globals asked =>
    cases found : effective i.host globals.layer none with
    | error e =>
      have stopped := outcome_of_error request found
      exact .unsettled (by rw [exitCode, stopped]; exact code_of_configurationError e) (by rw [stopped])
    | ok settings =>
      cases asked with
      | help code => exact .idle (by rw [command?, request]) (by rw [outcome, run, request]; dsimp only; rw [found])
      | misuse => exact .idle (by rw [command?, request]) (by rw [outcome, run, request]; dsimp only; rw [found])
      | command c => exact .ran c globals settings (by rw [command?, request]) found (outcome_of_command request found)

end Invocation

end RouteTemplate.CommandLine
