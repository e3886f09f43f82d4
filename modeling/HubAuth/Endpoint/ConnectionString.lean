import HubAuth.Endpoint.Basic
import HubAuth.Text.Blank
import HubAuth.Text.Cut

/-! # Connection strings

  The text form of an endpoint: segments between semicolons, each a name, an
  equals sign and a value. Blank segments mean nothing. White space around a
  name does not count; a value is taken as it stands, so it may hold equals
  signs. Of several values of a name the last one counts, and unknown names
  are ignored.
-/

namespace HubAuth.ConnectionString

/-! ### Segments -/

/-- A name with its value. -/
structure Segment where
  /-- The name, trimmed. -/
  name : String
  /-- The value, as it stands. -/
  value : String
  deriving DecidableEq, Repr

/-- The texts between semicolons that are not blank. -/
def pieces (cs : List Char) : List (List Char) :=
  (cs.splitOn ';').filter fun piece => !piece.all Text.isBlank

/-- The name and value of one piece. -/
def segment (piece : List Char) : Except ArgumentFault Segment :=
  match Text.cutAt '=' piece with
  | some (name, value) => .ok ⟨String.ofList (Text.trim name), String.ofList value⟩
  | none => .error (.malformedSegment (String.ofList piece))

/-- The segments of a connection string, or the first piece that is none. -/
def segments (s : String) : Except ArgumentFault (List Segment) :=
  (pieces s.toList).mapM segment

/-- The last value of a name. -/
def lastValue (name : String) (ss : List Segment) : Option String :=
  (ss.reverse.find? fun s => s.name == name).map (·.value)

/-! ### Endpoints -/

/-- A text is the word `true` in any case. -/
def isTrue (s : String) : Bool :=
  s.toList.map Char.toLower == "true".toList

/-- The endpoint that a key, a token and the wish for a certificate describe.
    The names are checked first. A certificate takes precedence over key and
    token, which are dropped. -/
def choose (hostName deviceId : String) (key token : Option String) (x509 : Bool) :
    Outcome Endpoint := do
  -- The login is put in place of this one once it is known.
  let e ← Outcome.ofExcept ((Endpoint.withCertificate hostName deviceId).mapError .argument)
  if x509 then
    if key.isSome || token.isSome then
      Outcome.note .sharedAccessIgnored
    return e
  else
    match key, token with
    | some k, none => return { e with login := .sharedKey k }
    | none, some t => return { e with login := .sharedToken t }
    | _, _ => Outcome.fail (.argument .credentialCount)

/-- The endpoint that a connection string describes. -/
def parse (s : String) : Outcome Endpoint :=
  match segments s with
  | .error e => .fail (.argument e)
  | .ok ss =>
    match lastValue "HostName" ss, lastValue "DeviceId" ss with
    | none, _ => .fail (.argument (.missingName .host))
    | some _, none => .fail (.argument (.missingName .device))
    | some host, some device =>
      choose host device (lastValue "SharedAccessKey" ss) (lastValue "SharedAccessSignature" ss)
        ((lastValue "x509" ss).any isTrue)

end HubAuth.ConnectionString
