import ConfidentialToken.Identity

/-!
# Hash time locks

A token owned by a script can be claimed by the script's recipient before the deadline, by giving a
pre-image of the script's hash, and reclaimed by the sender from the deadline on.
-/

namespace ConfidentialToken

/-- The hash function of a lock. -/
inductive HashFunction where
  | sha256
  | sha512
deriving DecidableEq, Repr

/-- What is made of the digest to get the image. -/
inductive ImageEncoding where
  /-- The digest itself. -/
  | raw
  /-- The digest in hexadecimal. -/
  | hex
deriving DecidableEq, Repr

/-- A lock that a pre-image opens. -/
structure HashLock where
  hash : Bytes
  function : HashFunction
  encoding : ImageEncoding
deriving DecidableEq

namespace HashLock

/-- The byte form: hash, function, encoding. -/
def codec : Wire.Codec HashLock :=
  (Wire.Codec.bytes.pair
    ((Wire.Codec.choice [HashFunction.sha256, .sha512]).pair
      (Wire.Codec.choice [ImageEncoding.raw, .hex]))).via
    (fun (h, f, e) => ⟨h, f, e⟩) (fun l => (l.hash, l.function, l.encoding))

/-- The image of some bytes under a function and an encoding. -/
def imageUnder (function : HashFunction) (encoding : ImageEncoding) (preImage : Bytes) : Bytes :=
  let digest := match function with
    | .sha256 => Hash.sha256 preImage
    | .sha512 => Hash.sha512 preImage
  match encoding with
  | .raw => digest
  | .hex => Bytes.ofText (Bytes.hex digest)

/-- The image of some bytes under the lock's function and encoding. -/
def image (lock : HashLock) (preImage : Bytes) : Bytes :=
  imageUnder lock.function lock.encoding preImage

/-- The lock that a pre-image opens. -/
def ofPreImage (preImage : Bytes) (function : HashFunction) (encoding : ImageEncoding) : HashLock :=
  ⟨imageUnder function encoding preImage, function, encoding⟩

/-- Whether some bytes open the lock. Nothing opens a lock with an empty hash. -/
def isPreImage (lock : HashLock) (preImage : Bytes) : Bool :=
  lock.hash ≠ [] ∧ lock.image preImage = lock.hash

/-- The key under which the metadata of a claim holds the pre-image of a hash. -/
def claimKey (hash : Bytes) : String := "htlc.claim." ++ Bytes.hex hash

end HashLock

/-- A hash time lock between two parties. -/
structure Script where
  sender : Identity
  recipient : Identity
  /-- In seconds since the epoch. -/
  deadline : UInt64
  lock : HashLock
deriving DecidableEq

namespace Script

/-- The byte form: sender, recipient, deadline, lock. -/
def codec : Wire.Codec Script :=
  (Identity.codec.pair (Identity.codec.pair (Wire.Codec.u64.pair HashLock.codec))).via
    (fun (s, r, d, l) => ⟨s, r, d, l⟩) (fun s => (s.sender, s.recipient, s.deadline, s.lock))

/-- The script as the identity of an owner. -/
def toIdentity (script : Script) : Identity := TypedIdentity.wrap .script ⟨codec.encode script⟩

/-- Reads a script from a typed identity of its kind. -/
def ofTyped (typed : TypedIdentity) : Outcome Script := do
  let kind ← typed.kind
  if kind ≠ .script then
    throw <| .malformed s!"expected a script identity, got [{typed.tag}]"
  (codec.read typed.identity.bytes).inContext "cannot decode script"

/-- Reads a script from an identity. -/
def ofIdentity (identity : Identity) : Outcome Script := do
  ofTyped (← TypedIdentity.parse identity)

/-- Whether an identity is typed as a script; its raw identity may still be no script. -/
def isScript (identity : Identity) : Bool :=
  match TypedIdentity.parse identity with
  | .ok typed => typed.tag = IdentityKind.script.tag
  | .error _ => false

/-- Checks that a script may lock an output that is made at time `now`. -/
def check (script : Script) (now : UInt64) : Outcome Unit := do
  if script.sender.isNone ∨ script.recipient.isNone then
    throw <| .malformed "script sender and recipient must be set"
  if isScript script.sender ∨ isScript script.recipient then
    throw <| .malformed "script sender and recipient cannot be scripts"
  if script.lock.hash = [] then throw <| .malformed "script hash is empty"
  if script.deadline ≤ now then
    throw <| .verification
      s!"script deadline {script.deadline} is not after the current time {now}"

/-- The party entitled to spend at time `now`. -/
def spender (script : Script) (now : UInt64) : Identity :=
  if now < script.deadline then script.recipient else script.sender

end Script

/-- The audit infos of a script's parties. -/
structure ScriptInfo where
  sender : Bytes
  recipient : Bytes
deriving DecidableEq

namespace ScriptInfo

/-- The byte form: sender, recipient. -/
def codec : Wire.Codec ScriptInfo :=
  (Wire.Codec.bytes.pair Wire.Codec.bytes).via (fun (s, r) => ⟨s, r⟩)
    (fun i => (i.sender, i.recipient))

/-- Reads the audit info of a script. -/
def ofBytes (bytes : Bytes) : Outcome ScriptInfo :=
  (codec.read bytes).inContext "cannot decode script info"

/-- The audit info of a script as bytes. -/
def toBytes (info : ScriptInfo) : Bytes := codec.encode info

/-- The audit info of a script in record notation: lengths alone. -/
def display (info : ScriptInfo) : String :=
  Text.record "ScriptInfo"
    [("sender_len", toString info.sender.length), ("recipient_len", toString info.recipient.length)]

end ScriptInfo

end ConfidentialToken
