import HubAuth.Text.Decimal

/-! # Failures

  Why an operation on credentials is refused, as causes. The wording of every
  cause is in `message`, and nothing is decided by looking at a wording.
-/

namespace HubAuth

/-! ### What can be at fault -/

/-- A name that every connection string gives. -/
inductive RequiredName where
  /-- The host name of the hub. -/
  | host
  /-- The id of the device. -/
  | device
  deriving DecidableEq, Repr

/-- The spelling of a required name. -/
def RequiredName.label : RequiredName → String
  | .host => "HostName"
  | .device => "DeviceId"

/-- One half of the material of a certificate login. -/
inductive Half where
  /-- The certificate that the device presents. -/
  | publicCertificate
  /-- The key that belongs to it. -/
  | privateKey
  deriving DecidableEq, Repr

/-- What a half is called. -/
def Half.label : Half → String
  | .publicCertificate => "public key certificate"
  | .privateKey => "private key"

/-! ### Causes -/

/-- Why an argument does not describe an endpoint, or the wrong kind of one. -/
inductive ArgumentFault where
  /-- A segment of a connection string has no equals sign. -/
  | malformedSegment (segment : String)
  /-- A required name does not occur. -/
  | missingName (name : RequiredName)
  /-- A required name has an empty value. -/
  | emptyName (name : RequiredName)
  /-- Not exactly one credential is given. -/
  | credentialCount
  /-- The endpoint logs in with a certificate, where a token is needed. -/
  | certificateEndpoint
  /-- The endpoint does not log in with a certificate. -/
  | noCertificateEndpoint
  deriving DecidableEq, Repr

/-- Why a key, a token or certificate material is unusable. -/
inductive CredentialFault where
  /-- A device key holds characters outside ASCII. -/
  | keyNotAscii
  /-- A device key holds a byte outside the base64 alphabet. -/
  | keyByte (code offset : Nat)
  /-- A device key has no bytes. -/
  | emptyKey
  /-- A token does not begin as tokens do. -/
  | tokenStart
  /-- The expiry of a token is no point of time. -/
  | tokenExpiry (value : String)
  /-- A token lacks one of its fields. -/
  | tokenFields
  /-- One half of certificate material is empty. -/
  | emptyHalf (half : Half)
  /-- The file of one half is empty. -/
  | emptyFile (half : Half) (path : String)
  deriving DecidableEq, Repr

/-- Why an operation does not apply to the way of login in use. -/
inductive StateFault where
  /-- A certificate is given to token credentials. -/
  | certificateForToken
  /-- A token is given to certificate credentials. -/
  | tokenForCertificate
  deriving DecidableEq, Repr

/-- Why a file gives no text. -/
inductive FileFault where
  /-- There is no such file. -/
  | notFound
  /-- The file, or a directory on the way to it, may not be used. -/
  | permissionDenied
  /-- The path goes through something that is not a directory. -/
  | notADirectory
  /-- The path names a directory. -/
  | isADirectory
  /-- The contents are not UTF-8. -/
  | notText
  /-- The path or one of its names is too long. -/
  | nameTooLong
  /-- The path holds a zero character. -/
  | zeroInName
  deriving DecidableEq, Repr

/-- Why no TLS context can be built. -/
inductive TlsFault where
  /-- One half of the material does not parse. -/
  | unparsable (half : Half)
  /-- The key does not belong to the certificate. -/
  | pair
  /-- A trust anchor does not parse. -/
  | trustAnchor
  /-- The platform refuses the material. -/
  | platform
  deriving DecidableEq, Repr

/-- Why an operation fails. -/
inductive Failure where
  /-- An argument is at fault. -/
  | argument (cause : ArgumentFault)
  /-- A credential is at fault. -/
  | credential (cause : CredentialFault)
  /-- The operation does not apply. -/
  | state (cause : StateFault)
  /-- A file of certificate material cannot be read. -/
  | unreadable (half : Half) (path : String) (cause : FileFault)
  /-- The material gives no TLS context. -/
  | tls (cause : TlsFault)
  /-- The token has expired, and there is no key to sign another. -/
  | expired
  deriving DecidableEq, Repr

/-! ### Wording -/

/-- The wording of an argument's fault. -/
def ArgumentFault.message : ArgumentFault → String
  | .malformedSegment segment => "malformed connection string segment `" ++ segment ++ "`"
  | .missingName name => "connection string is missing " ++ name.label
  | .emptyName name => name.label ++ " must not be empty"
  | .credentialCount =>
    "exactly one of SharedAccessKey, SharedAccessSignature or x509=true must be given"
  | .certificateEndpoint =>
    "endpoint uses x509 authentication; supply a certificate and private key instead"
  | .noCertificateEndpoint => "endpoint does not use x509 authentication"

/-- The wording of a credential's fault. -/
def CredentialFault.message : CredentialFault → String
  | .keyNotAscii => "device key is not base64"
  | .keyByte code offset =>
    "device key is not base64: Invalid byte " ++ String.ofList (Text.decimal code)
      ++ ", offset " ++ String.ofList (Text.decimal offset) ++ "."
  | .emptyKey => "device key cannot be empty"
  | .tokenStart => "shared access signature must start with `SharedAccessSignature`"
  | .tokenExpiry value => "shared access signature expiry `" ++ value ++ "` is not a timestamp"
  | .tokenFields => "shared access signature must carry sr, sig and se"
  | .emptyHalf half => half.label ++ " cannot be empty"
  | .emptyFile half path => half.label ++ " file " ++ path ++ " is empty"

/-- The wording of a state's fault. -/
def StateFault.message : StateFault → String
  | .certificateForToken => "cannot replace the certificate of SAS token credentials"
  | .tokenForCertificate => "cannot install a SAS token on x509 certificate credentials"

/-- The wording of a TLS fault. -/
def TlsFault.message : TlsFault → String
  | .unparsable half => "failed to parse " ++ half.label
  | .pair => "failed to parse certificate and private key pair"
  | .trustAnchor => "failed to parse trust anchor"
  | .platform => "platform crypto provider unavailable"

/-- The wording of a failure. For a file and for TLS it names what was tried;
    the cause is told apart from it. -/
def Failure.message : Failure → String
  | .argument cause => "invalid argument: " ++ cause.message
  | .credential cause => "invalid credential: " ++ cause.message
  | .state cause => "invalid state: " ++ cause.message
  | .unreadable half path _ => "failed to read " ++ half.label ++ " from " ++ path
  | .tls _ => "failed to build TLS context"
  | .expired => "credentials expired and cannot be renewed without a device key"

end HubAuth
