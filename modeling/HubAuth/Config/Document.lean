import HubAuth.Config.Basic
import HubAuth.Json.Skip

/-! # Configuration documents

  A configuration is written as a JSON object that names what differs from the
  defaults, each name at most once and other names ignored, or as an array of
  values in a fixed order, of which the last ones may be missing.
-/

namespace HubAuth.Config

open Json (Fault)

/-! ### Settings -/

/-- One of the tunables. -/
inductive Setting where
  /-- The lifetime of tokens. -/
  | tokenValidity
  /-- The renewal skew. -/
  | renewalSkew
  /-- The read timeout. -/
  | readTimeout
  /-- The message lock. -/
  | messageLock
  /-- The choice of transport. -/
  | websocket
  deriving DecidableEq, Repr

namespace Setting

/-- The settings in the order of the array form. -/
def all : List Setting :=
  [.tokenValidity, .renewalSkew, .readTimeout, .messageLock, .websocket]

/-- The name of a setting in the object form. -/
def name : Setting → String
  | .tokenValidity => "token_validity_secs"
  | .renewalSkew => "token_renewal_skew_secs"
  | .readTimeout => "read_timeout_ms"
  | .messageLock => "message_lock_timeout_secs"
  | .websocket => "use_websocket"

/-- The setting of a name. -/
def ofName? (name : List Char) : Option Setting :=
  all.find? fun s => s.name.toList == name

end Setting

/-! ### Values -/

/-- The fault of a value that is not of the kind that is needed: it must be
    well formed as far as its kind shows. -/
def refuse (cs : List Char) : Fault :=
  let after {α : Type} (r : Except Fault α) : Fault :=
    match r with
    | .error e => e
    | .ok _ => .unsuitable
  match Json.skipSpace cs with
  | [] => .truncated
  | c :: cs =>
    if c = 'n' then after (Json.word "ull".toList cs)
    else if c = 't' then after (Json.word "rue".toList cs)
    else if c = 'f' then after (Json.word "alse".toList cs)
    else if c = '-' ∨ Json.isDigit c then after (Json.natural (c :: cs))
    else if c = '"' then after (Json.text cs)
    else if c = '[' ∨ c = '\x7b' then .unsuitable
    else .malformed

/-- Reads a natural number. -/
def number (cs : List Char) : Except Fault (Nat × List Char) :=
  match Json.skipSpace cs with
  | c :: rest =>
    if c = '-' ∨ Json.isDigit c then Json.natural (c :: rest) else .error (refuse cs)
  | [] => .error .truncated

/-- Reads a truth value. -/
def truth (cs : List Char) : Except Fault (Bool × List Char) :=
  match Json.skipSpace cs with
  | 't' :: rest => (Json.word "rue".toList rest).map fun r => (true, r)
  | 'f' :: rest => (Json.word "alse".toList rest).map fun r => (false, r)
  | _ => .error (refuse cs)

/-- Reads the value of a setting into a configuration. -/
def readSetting (c : Config) (s : Setting) (cs : List Char) :
    Except Fault (Config × List Char) :=
  match s with
  | .tokenValidity => (number cs).map fun r => ({ c with tokenValiditySecs := r.1 }, r.2)
  | .renewalSkew => (number cs).map fun r => ({ c with renewalSkewSecs := r.1 }, r.2)
  | .readTimeout => (number cs).map fun r => ({ c with readTimeoutMillis := r.1 }, r.2)
  | .messageLock => (number cs).map fun r => ({ c with messageLockSecs := r.1 }, r.2)
  | .websocket => (truth cs).map fun r => ({ c with useWebsocket := r.1 }, r.2)

/-! ### The array form -/

/-- Reads the remaining settings of an array, up to and with its end. A comma
    comes before every value but the first. -/
def readArray (c : Config) (first : Bool) :
    List Setting → List Char → Except Fault (Config × List Char)
  | settings, cs =>
    match Json.skipSpace cs with
    | [] => .error .truncated
    | ']' :: rest => .ok (c, rest)
    | mark :: rest =>
      match settings with
      -- There is no setting for a sixth value.
      | [] => .error .malformed
      | s :: settings => do
        let value ←
          if first then pure (mark :: rest)
          else if mark = ',' then
            -- A comma promises a value.
            match Json.skipSpace rest with
            | [] => throw .truncated
            | ']' :: _ => throw .malformed
            | value => pure value
          else throw .malformed
        let (c, rest) ← readSetting c s value
        readArray c false settings rest

/-! ### The object form -/

/-- What an object has said so far. -/
structure Progress where
  /-- The configuration with what was said. -/
  config : Config
  /-- The settings that were named. -/
  named : List Setting
  deriving DecidableEq, Repr

/-- Reads the name of a member and, unless the setting has been named before,
    its value. -/
def readMember (p : Progress) (cs : List Char) : Except Fault (Progress × List Char) := do
  let (name, cs) ← Json.text (← Json.mark '"' cs)
  match Setting.ofName? name with
  | none => return (p, ← Json.skip (← Json.mark ':' cs))
  | some s =>
    -- A repeated name is refused before its colon is looked for.
    if s ∈ p.named then throw .unsuitable
    else
      let (config, cs) ← readSetting p.config s (← Json.mark ':' cs)
      return ({ config, named := s :: p.named }, cs)

/-- Reads the remaining members of an object, up to and with its end. A comma
    comes before every member but the first. The first number bounds the
    number of members. -/
def readObject : Nat → (first : Bool) → Progress → List Char →
    Except Fault (Config × List Char)
  | 0, _, _, _ => .error .truncated
  | n + 1, first, p, cs =>
    match Json.skipSpace cs with
    | [] => .error .truncated
    | '\x7d' :: rest => .ok (p.config, rest)
    | mark :: rest => do
      let member ←
        if first then pure (mark :: rest)
        else if mark = ',' then pure rest
        else throw .malformed
      let (p, rest) ← readMember p member
      readObject n false p rest

/-! ### Documents -/

/-- The configuration that a document describes. -/
def ofJson (s : String) : Except Fault Config := do
  let (config, rest) ←
    match Json.skipSpace s.toList with
    | '[' :: cs => readArray {} true Setting.all cs
    | '\x7b' :: cs => readObject (cs.length + 1) true { config := {}, named := [] } cs
    | cs => throw (refuse cs)
  Json.finish rest
  return config

end HubAuth.Config
