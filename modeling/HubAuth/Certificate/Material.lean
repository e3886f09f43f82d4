import HubAuth.Files.Tree
import HubAuth.Outcome
import HubAuth.Text.Quoted

/-! # Certificate material

  The certificate of a device and the private key that belongs to it, both as
  PEM text. Each is given as the text itself or as the path of a file, which
  is read once, when the material is loaded. Paths are only remembered.

  Loading looks first at whether a source is empty, then reads the certificate
  and then the key; the first fault is the one reported.
-/

namespace HubAuth

/-! ### Sources -/

/-- Where a piece of PEM text comes from. -/
inductive PemSource where
  /-- The text itself. -/
  | literal (pem : String)
  /-- A file that holds it. -/
  | file (path : Files.Path)
  deriving DecidableEq, Repr

namespace PemSource

/-- The source has no characters. -/
def isEmpty : PemSource → Bool
  | .literal pem => pem == ""
  | .file path => path.isEmpty

/-- The path of the source, if it is a file. -/
def path? : PemSource → Option Files.Path
  | .literal _ => none
  | .file path => some path

/-- The text of a source; a file must hold some. -/
def load (files : Files.Tree) (half : Half) : PemSource → Outcome String
  | .literal pem => .ok pem
  | .file path => do
    Outcome.note (.reading half path.text)
    match files.read path with
    | .error e => .fail (.unreadable half path.text e)
    | .ok pem => if pem = "" then .fail (.credential (.emptyFile half path.text)) else .ok pem

end PemSource

/-! ### Material -/

/-- A certificate and its private key, as PEM text. -/
structure Material where
  /-- The certificate. -/
  publicCertificate : String
  /-- The private key. -/
  privateKey : String
  /-- The file the certificate was read from. -/
  publicPath : Option Files.Path
  /-- The file the private key was read from. -/
  privatePath : Option Files.Path
  deriving DecidableEq, Repr

namespace Material

/-- The material that two sources give. -/
def load (files : Files.Tree) (publicSource privateSource : PemSource) : Outcome Material :=
  if publicSource.isEmpty then .fail (.credential (.emptyHalf .publicCertificate))
  else if privateSource.isEmpty then .fail (.credential (.emptyHalf .privateKey))
  else do
    let publicCertificate ← publicSource.load files .publicCertificate
    let privateKey ← privateSource.load files .privateKey
    return {
      publicCertificate
      privateKey
      publicPath := publicSource.path?
      privatePath := privateSource.path? }

/-- Optional paths are written alike. -/
def samePath : Option Files.Path → Option Files.Path → Bool
  | none, none => true
  | some p, some q => p.same q
  | _, _ => false

/-- Two pieces of material are the same: their texts are, and their paths are
    written alike. -/
def same (m n : Material) : Bool :=
  m.publicCertificate == n.publicCertificate && m.privateKey == n.privateKey
    && samePath m.publicPath n.publicPath && samePath m.privatePath n.privatePath

/-- Material in words, without the private key. -/
def describe (m : Material) : String :=
  let path (p : Option Files.Path) := Text.optional (p.map fun p => Text.quotedPath p.text)
  Text.record "CertificateMaterial"
    [("public_certificate", Text.quoted m.publicCertificate),
     ("private_key", Text.redacted),
     ("public_certificate_path", path m.publicPath),
     ("private_key_path", path m.privatePath)]

end Material

end HubAuth
