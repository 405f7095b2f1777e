import ConfidentialToken.Commitment
import ConfidentialToken.Identity

/-!
# Tokens

A token on the ledger is an owner and a commitment. What the commitment hides is its opening; the
recipient and the auditor are told it, with the issuer of an issued token.
-/

namespace ConfidentialToken

/-- The place of an output: the request that made it and its number there. -/
structure TokenId where
  txId : String
  index : UInt64
deriving DecidableEq

namespace TokenId

/-- Ids are ordered by request and then by number. -/
instance : Ord TokenId := ⟨compareLex (compareOn txId) (compareOn index)⟩

instance : Std.TransOrd TokenId :=
  inferInstanceAs (Std.TransCmp (compareLex (compareOn txId) (compareOn index)))

instance : Std.LawfulEqOrd TokenId where
  eq_of_compare {x y} h := by
    have ⟨ht, hi⟩ := compareLex_eq_eq.mp h
    have ht : x.txId = y.txId := Std.LawfulEqOrd.eq_of_compare ht
    have hi : x.index = y.index := Std.LawfulEqOrd.eq_of_compare hi
    cases x
    cases y
    simp_all

/-- The byte form: request and number. -/
def codec : Wire.Codec TokenId :=
  (Wire.Codec.text.pair Wire.Codec.u64).via (fun (t, i) => ⟨t, i⟩) (fun id => (id.txId, id.index))

/-- The id in a sentence. -/
def text (id : TokenId) : String := s!"[{id.txId}:{id.index}]"

/-- The id in record notation. -/
def display (id : TokenId) : String :=
  Text.record "TokenId" [("tx_id", Text.quote id.txId), ("index", toString id.index)]

end TokenId

/-- A token as the ledger holds it. -/
structure Token (P : Type) where
  owner : Identity
  data : Commitment P

namespace Token

variable {P : Type} [PointGroup P]

instance : DecidableEq (Token P) := fun t u =>
  if h : t.owner = u.owner ∧ t.data = u.data then
    isTrue (by cases t; cases u; obtain ⟨rfl, rfl⟩ := h; rfl)
  else isFalse fun e => h (e ▸ ⟨rfl, rfl⟩)

/-- Whether the token is redeemed, that is, owned by nobody. -/
def isRedeemed (token : Token P) : Bool := token.owner.isNone

/-- The byte form: owner and commitment. -/
def codec : Wire.Codec (Token P) :=
  (Identity.codec.pair Commitment.codec).via (fun (o, d) => ⟨o, d⟩) (fun t => (t.owner, t.data))

/-- A token as bytes. -/
def toBytes (token : Token P) : Bytes := codec.encode token

/-- Reads a token. -/
def ofBytes (bytes : Bytes) : Outcome (Token P) :=
  (codec.read bytes).inContext "cannot decode token"

end Token

/-- What a token's commitment hides. -/
structure Opening where
  tokenType : String
  value : UInt64
  blinding : Scalar
deriving DecidableEq

namespace Opening

/-- The byte form: type, value, blinding factor. -/
def codec : Wire.Codec Opening :=
  (Wire.Codec.text.pair (Wire.Codec.u64.pair Wire.Codec.scalar)).via
    (fun (t, v, b) => ⟨t, v, b⟩) (fun o => (o.tokenType, o.value, o.blinding))

/-- The opening in record notation, without the blinding factor. -/
def display (opening : Opening) : String :=
  Text.record "TokenDataWitness"
    [("token_type", Text.quote opening.tokenType), ("value", toString opening.value)]

variable {P : Type} [PointGroup P]

/-- The commitment that the opening opens. -/
def commitment (opening : Opening) (g : Generators P) : Commitment P :=
  g.commitToken opening.tokenType opening.value opening.blinding

/-- Whether the opening opens a commitment. -/
def opens (opening : Opening) (c : Commitment P) (g : Generators P) : Bool :=
  opening.commitment g = c

/-- The sum of the values of openings. -/
def total : List Opening → Nat
  | [] => 0
  | opening :: rest => opening.value.toNat + total rest

end Opening

/-- An opening told to the recipient and the auditor; issued tokens come with their issuer. -/
structure Disclosure where
  opening : Opening
  issuer : Option Identity
deriving DecidableEq

namespace Disclosure

/-- The byte form: the opening, then the issuer. -/
def codec : Wire.Codec Disclosure :=
  (Opening.codec.pair Identity.codec.option).via (fun (o, i) => ⟨o, i⟩)
    (fun d => (d.opening, d.issuer))

/-- A disclosure as bytes. -/
def toBytes (disclosure : Disclosure) : Bytes := codec.encode disclosure

/-- Reads a disclosure. -/
def ofBytes (bytes : Bytes) : Outcome Disclosure :=
  (codec.read bytes).inContext "cannot decode token metadata"

/-- The disclosure in record notation: type and issuer alone. -/
def display (disclosure : Disclosure) : String :=
  Text.record "TokenMetadata"
    [("token_type", Text.quote disclosure.opening.tokenType),
      ("issuer", Text.option (disclosure.issuer.map Identity.display))]

end Disclosure

end ConfidentialToken
