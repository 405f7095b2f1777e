import ConfidentialToken.Identity.Signing
import ConfidentialToken.Log

/-!
# Signatures in order

The signatures of a request name no signer. They are taken one by one, in the order in which the
rules ask for signers, and a signature is used up also when it turns out not to be valid.
-/

namespace ConfidentialToken

/-- Signatures not yet asked for, and how many were taken before them. -/
structure SignatureQueue where
  taken : Nat
  rest : List Bytes
deriving DecidableEq

namespace SignatureQueue

/-- The signatures of a request, none of them taken. -/
def ofList (signatures : List Bytes) : SignatureQueue := ⟨0, signatures⟩

/-- How many signatures are left. -/
def remaining (queue : SignatureQueue) : Nat := queue.rest.length

/-- Takes the next signature and checks that an identity made it over a message. -/
def take (verify : SignatureCheck) (message : Bytes) (signer : Identity) :
    Task SignatureQueue Unit := do
  let queue ← get
  match queue.rest with
  | [] => throw <| .verification s!"signature [{queue.taken}] is missing"
  | signature :: rest =>
    set (⟨queue.taken + 1, rest⟩ : SignatureQueue)
    (verify signer message signature).asVerification.inContext
      s!"signature [{queue.taken}] is not valid"

end SignatureQueue

end ConfidentialToken
