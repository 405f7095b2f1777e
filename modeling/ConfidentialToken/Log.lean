import ConfidentialToken.Error
import ConfidentialToken.Text.Quoted

/-!
# Logs

What a component reports while it works is part of its result, also when it fails. A logger is the
dotted name under which records are filed; a task is a computation that changes some state, may
fail, and keeps the state it had when it failed.
-/

namespace ConfidentialToken

/-- The name that records are filed under. -/
structure Logger where
  target : String
deriving DecidableEq, Repr

/-- A reported message and the name it is filed under. -/
structure LogRecord where
  target : String
  message : String
deriving DecidableEq, Repr

namespace Logger

/-- The logger of the library. -/
def default : Logger := ⟨"private_token"⟩

/-- The logger of a part: both names with a dot between them, less an empty one. -/
def named (logger : Logger) (name : String) : Logger :=
  ⟨String.intercalate "." ([logger.target, name].filter (· ≠ ""))⟩

/-- The logger in record notation. -/
def display (logger : Logger) : String := Text.wrapped "Logger" (Text.quote logger.target)

end Logger

/-- A computation over a state that may fail; what it did to the state stays done. -/
abbrev Task (σ : Type) := ExceptT Error (StateM σ)

namespace Task

variable {σ α : Type}

/-- Runs a task. -/
def perform (task : Task σ α) (state : σ) : Outcome α × σ := StateT.run (ExceptT.run task) state

/-- Puts an error inside a context. -/
def inContext (context : String) (task : Task σ α) : Task σ α :=
  fun state =>
    let (result, state) := task.perform state
    (result.inContext context, state)

/-- A task on a part of the state; the rest stays as it is. -/
def onPart {τ : Type} (part : σ → τ) (replace : τ → σ → σ) (task : Task τ α) : Task σ α :=
  fun state =>
    let (result, changed) := task.perform (part state)
    (result, replace changed state)

end Task

/-- A computation that may fail and reports records. -/
abbrev Logged := Task (List LogRecord)

/-- Reports a message. -/
def Logger.debug (logger : Logger) (message : String) : Logged Unit :=
  modify (· ++ [⟨logger.target, message⟩])

end ConfidentialToken
