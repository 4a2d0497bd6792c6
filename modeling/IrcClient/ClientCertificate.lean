import IrcClient.File
import IrcClient.Text.Base64
import IrcClient.Text.Blank

/-!
# Client certificates

A client may prove who it is by a certificate. The file that holds it, and the key that
belongs to it, consists of sections: Base64 between a line that begins the section and
names what it holds, and a line that ends it. What stands between sections is passed over,
and so are sections of other kinds, as long as they are well written.
-/

namespace IrcClient

/-- A section: what it holds, and its contents. -/
structure PemSection where
  label : String
  content : Bytes
deriving DecidableEq, Repr

/--
What has been read of a file: the open section, its Base64, the last character first, and
the sections so far.
-/
structure PemReader where
  label : Option String := none
  reversedBody : List Char := []
  sections : List PemSection := []

namespace PemReader

/-- What stands before the name in the line that begins a section. -/
def beginMark : List Char := "-----BEGIN ".toList

/-- What stands around the name in the lines that begin and end a section. -/
def dashes : List Char := "-----".toList

/-- What comes before the first dashes. -/
def label? : List Char → Option (List Char)
  | [] => none
  | c :: rest =>
    if (rest? dashes (c :: rest)).isSome then some [] else (label? rest).map (c :: ·)

/-- The line that ends a section. -/
def endMark (label : String) : List Char :=
  "-----END ".toList ++ label.toList ++ dashes

/-- Text without the blanks around it. -/
def trimmed (line : List Char) : List Char :=
  dropEndBlanks (dropBlanks line)

/-- Ends a section. Its Base64 may leave the padding out. -/
def close (r : PemReader) (label : String) : Option PemReader :=
  match Base64.decodeWith false (Utf8.encode (String.ofList r.reversedBody.reverse)) with
  | .ok content => some { sections := r.sections ++ [⟨label, content⟩] }
  | .error _ => none

/-- Reads a line. -/
def step (r : PemReader) (line : List Char) : Option PemReader :=
  match rest? beginMark line with
  | some rest => (label? rest).map fun label => { r with label := some (String.ofList label) }
  | none =>
    match r.label with
    | none => some r
    | some label =>
      -- only the line that names the same kind ends a section
      if (rest? (endMark label) line).isSome then r.close label
      else some { r with reversedBody := (trimmed line).reverse ++ r.reversedBody }

/-- The sections of a file, unless one of them is still open. -/
def result? (r : PemReader) : Option (List PemSection) :=
  if r.label.isSome then none else some r.sections

end PemReader

/-- The sections of a file. -/
def readPem (s : String) : Option (List PemSection) := do
  let r ← (pieces '\n' s.toList).foldlM PemReader.step {}
  r.result?

/-- A chain of certificates, and the key that belongs to it. -/
structure ClientCertificate where
  chain : List Bytes
  key : Bytes
deriving DecidableEq, Repr

/-- Why there is no certificate. -/
inductive CertificateError where
  | file (error : FileError)
  | noCertificate
  | noKey
deriving DecidableEq, Repr

/-- The words for it. -/
def CertificateError.message : CertificateError → String
  | .file e => e.message
  | .noCertificate => "No certificate in client certificate file"
  | .noKey => "No private key in client certificate file"

namespace ClientCertificate

/-- The contents of the sections that hold something of a kind. -/
def contents (sections : List PemSection) (label : String) : List Bytes :=
  (sections.filter (·.label = label)).map (·.content)

/-- The key to use: the last one, where a key of the general form comes before one for RSA. -/
def key? (sections : List PemSection) : Option Bytes :=
  (contents sections "PRIVATE KEY").getLast? <|>
    (contents sections "RSA PRIVATE KEY").getLast?

/-- The certificate of some sections. -/
def ofSections (sections : List PemSection) : Except CertificateError ClientCertificate :=
  let chain := contents sections "CERTIFICATE"
  if chain.isEmpty then .error .noCertificate
  else match key? sections with
    | some key => .ok ⟨chain, key⟩
    | none => .error .noKey

/-- Reads a certificate from a file. -/
def load (content : FileContent) : Except CertificateError ClientCertificate :=
  match readTextFile content with
  | .error e => .error (.file e)
  | .ok text =>
    match readPem text with
    | none => .error (.file .invalidData)
    | some sections => ofSections sections

end ClientCertificate

end IrcClient
