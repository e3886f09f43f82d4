import HubAuth.Text.Form
import HubAuth.Text.Quoted
import HubAuth.Token.Key

/-! # Tokens

  A shared access signature: proof that its bearer could sign with a device
  key, for one resource and until an expiry. A token keeps the exact text it
  was read from or written as. Signing writes the text

      SharedAccessSignature sr=<resource>&sig=<signature>&se=<expiry>

  in form encoding, where the signature covers the encoded resource and the
  expiry. Reading accepts the three fields in any order among others; the last
  of each name counts.
-/

namespace HubAuth

/-- A shared access signature. -/
structure Token where
  /-- The resource the token is for. -/
  resourceUri : String
  /-- The signature, in base64. -/
  signature : String
  /-- The time from which the token no longer counts. -/
  expiry : Instant
  /-- The token as it is sent. -/
  text : String
  deriving DecidableEq, Repr

namespace Token

/-! ### Signing -/

/-- What every token begins with. -/
def marker : List Char :=
  "SharedAccessSignature ".toList

/-- The message that a signature covers. -/
def signedMessage (resourceUri : String) (expiry : Instant) : List UInt8 :=
  Text.Utf8.encode (Text.Form.encode resourceUri.toList ++ '\n' :: expiry.toText)

/-- The text of a token with the given fields. -/
def write (resourceUri signature : List Char) (expiry : Instant) : List Char :=
  marker ++ "sr=".toList ++ Text.Form.encode resourceUri ++ "&sig=".toList
    ++ Text.Form.encode signature ++ "&se=".toList ++ expiry.toText

/-- The token for a resource, signed with a key and good until an expiry. -/
def sign (resourceUri : String) (key : DeviceKey) (expiry : Instant) : Token :=
  let signature := key.sign (signedMessage resourceUri expiry)
  { resourceUri
    signature := String.ofList signature
    expiry
    text := String.ofList (write resourceUri.toList signature expiry) }

/-- The token for a resource that is good for a duration from now on. -/
def issue (now : Instant) (resourceUri : String) (key : DeviceKey) (validity : Duration) : Token :=
  sign resourceUri key (now.add validity)

/-! ### Expiry -/

/-- A token has expired once its expiry is reached. -/
def isExpiredAt (t : Token) (now : Instant) : Bool :=
  t.expiry ≤ now

/-! ### Reading -/

/-- The fields of a token that have been read so far. -/
structure Fields where
  /-- The value of `sr`. -/
  resourceUri : Option String := none
  /-- The value of `sig`. -/
  signature : Option String := none
  /-- The value of `se`. -/
  expiry : Option Instant := none
  deriving DecidableEq, Repr

/-- Takes up one field. A later value replaces an earlier one, and a field of
    another name changes nothing. -/
def Fields.put (f : Fields) (name value : List Char) : Except CredentialFault Fields :=
  if name = "sr".toList then .ok { f with resourceUri := some (String.ofList value) }
  else if name = "sig".toList then .ok { f with signature := some (String.ofList value) }
  else if name = "se".toList then
    match Instant.ofText? value with
    | some t => .ok { f with expiry := some t }
    | none => .error (.tokenExpiry (String.ofList value))
  else .ok f

/-- Takes up fields in order, up to the first that is at fault. -/
def Fields.putAll (f : Fields) : List (List Char × List Char) → Except CredentialFault Fields
  | [] => .ok f
  | p :: ps =>
    match f.put p.1 p.2 with
    | .error e => .error e
    | .ok g => g.putAll ps

/-- The token that a text stands for. -/
def parse (s : String) : Except CredentialFault Token :=
  match marker.isPrefixOf? s.toList with
  | none => .error .tokenStart
  | some rest =>
    match Fields.putAll {} (Text.Form.fields rest) with
    | .error e => .error e
    | .ok ⟨some resourceUri, some signature, some expiry⟩ =>
      .ok { resourceUri, signature, expiry, text := s }
    | .ok _ => .error .tokenFields

/-! ### Description -/

/-- A token in words, without its signature and text. -/
def describe (t : Token) : String :=
  Text.record "SasToken"
    [("resource_uri", Text.quoted t.resourceUri), ("expiry", String.ofList t.expiry.toText)]

end Token

end HubAuth
