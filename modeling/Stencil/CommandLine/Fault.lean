import Stencil.Batch.Basic
import Stencil.CommandLine.Assignment
import Stencil.Settings.File

/-!
# `Stencil.CommandLine.Fault` — why a run has no output

A fault of a run is raised as an exception.  The program catches two families of exceptions: the errors
that a user is meant to see, and those of values.  All others leave it.

## Contents
- **`ExceptionClass.isCaught`**, whether the program catches the exceptions of a class.
- **`RunFault`**, why there is no output, with its **`exceptionClass`** and its **`message`**.
- **`Ending`**, how the program ends; **`RunFault.ending`** and **`RunFault.complaint`**, what a fault leaves
  behind.
-/

namespace Stencil

/-- Whether the program catches the exceptions of a class: it looks for the errors that the user is meant to
see, and then for those of values. -/
def ExceptionClass.isCaught (kind : ExceptionClass) : Bool :=
  kind.isUserError || kind.isValueError

namespace CommandLine

/-- Why there is no output. -/
inductive RunFault where
  | load (fault : LoadFault)
  | assignment (fault : AssignmentFault)
  /-- The file with the settings is not there. -/
  | noSettings (path : Path)
  | batch (fault : BatchFault)
  | template (fault : TemplateFault)
deriving DecidableEq, Repr

namespace RunFault

/-- The class of the exception that a fault is raised as. -/
def exceptionClass : RunFault → ExceptionClass
  | .load fault => fault.exceptionClass
  | .assignment _ | .noSettings _ => .value
  | .batch fault => fault.exceptionClass
  | .template fault => fault.exceptionClass

/-- What is said of a fault. -/
def message : RunFault → Text
  | .load fault => fault.message
  | .assignment fault => fault.message
  | .noSettings path => Text.of "Config file not found: " ++ path.toText
  | .batch fault => fault.message
  | .template fault => fault.message

/-- The exception that a fault is raised as. -/
def exception (fault : RunFault) : Exception :=
  ⟨fault.exceptionClass, fault.message⟩

end RunFault

/-! ## What a fault leaves behind -/

/-- How the program ends: with an exit code, or with an exception that it does not catch. -/
inductive Ending where
  | exit (code : Nat)
  | raise (exception : Exception)
deriving DecidableEq, Repr

theorem Ending.not_raise_of_exit (code : Nat) :
    ¬ ∃ exception, Ending.exit code = .raise exception := by
  rintro ⟨exception, h⟩
  cases h

/-- The exit code where an exception is caught. -/
def faultCode : Nat := 2

namespace RunFault

/-- How the program ends with a fault. -/
def ending (fault : RunFault) : Ending :=
  if fault.exceptionClass.isCaught then .exit faultCode else .raise fault.exception

/-- What the user is told of a fault: where its exception is caught, what it says, without the blanks at the
end; where it leaves the program, nothing. -/
def complaint (fault : RunFault) : Text :=
  if fault.exceptionClass.isCaught then fault.message.trimEnd ++ ['\n'] else []

section

variable {fault : RunFault}

theorem ending_of_caught (h : fault.exceptionClass.isCaught = true) :
    fault.ending = .exit faultCode :=
  if_pos h

theorem ending_of_uncaught (h : fault.exceptionClass.isCaught = false) :
    fault.ending = .raise fault.exception :=
  if_neg (Bool.eq_false_iff.1 h)

theorem complaint_of_caught (h : fault.exceptionClass.isCaught = true) :
    fault.complaint = fault.message.trimEnd ++ ['\n'] :=
  if_pos h

theorem complaint_of_uncaught (h : fault.exceptionClass.isCaught = false) :
    fault.complaint = [] :=
  if_neg (Bool.eq_false_iff.1 h)

/-- A program does not end well with a fault. -/
theorem ending_ne_exit_zero (fault : RunFault) : fault.ending ≠ .exit 0 := by
  unfold ending
  split
  next =>
    intro h
    cases Ending.exit.inj h
  next =>
    intro h
    cases h

end

end RunFault

end CommandLine

end Stencil
