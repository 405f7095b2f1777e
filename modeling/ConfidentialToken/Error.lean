import ConfidentialToken.Wire.Codec

/-!
# Errors

An error has a kind, a sentence, and the contexts it has passed through on its way out. The kind is
that of the cause and survives every context, so that a caller can tell a fraudulent request from a
component that is set up wrongly.
-/

namespace ConfidentialToken

/-- What an error says about its input. -/
inductive ErrorKind where
  /-- The input is not well formed. -/
  | malformed
  /-- A proof, an opening, an ownership or a signature does not hold. -/
  | verification
  /-- A component is not set up to do its work. -/
  | setup
deriving DecidableEq, Repr

namespace ErrorKind

/-- The name of a kind in a sentence. -/
def description : ErrorKind → String
  | malformed => "malformed input"
  | verification => "verification failure"
  | setup => "setup failure"

/-- What stands in front of the sentence of an error of the kind. -/
def lead : ErrorKind → String
  | malformed => "malformed input: "
  | verification => "verification failed: "
  | setup => "setup failure: "

end ErrorKind

/-- An error: its cause and the contexts around it, the outermost first. -/
structure Error where
  kind : ErrorKind
  message : String
  contexts : List String := []
deriving DecidableEq, Repr

namespace Error

def malformed (message : String) : Error := ⟨.malformed, message, []⟩

def verification (message : String) : Error := ⟨.verification, message, []⟩

def setup (message : String) : Error := ⟨.setup, message, []⟩

/-- The error inside one more context. -/
def inContext (e : Error) (context : String) : Error :=
  { e with contexts := context :: e.contexts }

/-- The cause alone. -/
def root (e : Error) : Error := { e with contexts := [] }

/-- Whether the cause is a failed verification. -/
def isVerification (e : Error) : Bool := e.kind = .verification

/-- The whole text: every context, then the cause. -/
def text (e : Error) : String :=
  String.join (e.contexts.map (· ++ ": ")) ++ e.kind.lead ++ e.message

/-- The same text as a failed verification. -/
def asVerification (e : Error) : Error := verification e.text

/-- The same text as a failure to set up. -/
def asSetup (e : Error) : Error := setup e.text

/-- Bytes that cannot be decoded are malformed. -/
def ofWire (fault : Wire.Fault) : Error := malformed ("cannot decode: " ++ fault.message)

/-- A range proof can fail by its parameters, by its input, or by not verifying. -/
def ofRangeProof (fault : RangeProof.Fault) : Error :=
  match fault with
  | .bitSize | .generatorCount => setup ("range proof parameters: " ++ fault.message)
  | .blindingCount | .inputLength => malformed ("range proof input: " ++ fault.message)
  | .notVerified | .unreadable | .aggregation | .zeroChallenge =>
    verification ("range proof: " ++ fault.message)

end Error

/-- A result that may be an error. -/
abbrev Outcome := Except Error

namespace Outcome

variable {α : Type}

/-- Puts an error inside a context. -/
def inContext (context : String) (result : Outcome α) : Outcome α :=
  result.mapError (·.inContext context)

/-- Reports an error as a failed verification. -/
def asVerification (result : Outcome α) : Outcome α :=
  result.mapError Error.asVerification

/-- Fails with an error unless a condition holds. -/
def require (condition : Bool) (e : Error) : Outcome Unit :=
  if condition then .ok () else .error e

end Outcome

/-- Decodes a value that takes up all bytes. -/
def Wire.Codec.read {α : Type} (codec : Wire.Codec α) (bytes : Bytes) : Outcome α :=
  (codec.ofBytes bytes).mapError Error.ofWire

/-- Writes a value whose byte form is within the size limit. -/
def Wire.Codec.write {α : Type} (codec : Wire.Codec α) (value : α) : Outcome Bytes :=
  let bytes := codec.encode value
  if bytes.length ≤ Wire.sizeLimit then .ok bytes else .error (.ofWire .sizeLimit)

/-- Shows a list's entries with their positions. -/
def withPositions {α : Type} (items : List α) : List (Nat × α) :=
  (List.range items.length).zip items

end ConfidentialToken
