import NodeBootstrap.Text.Utf8
import NodeBootstrap.Tls.Base64
import NodeBootstrap.Tls.PublicKey

/-! # PEM files

A PEM file holds labelled blocks of base64 between lines of their own; everything else in it is
ignored. -/

namespace NodeBootstrap.Tls

structure PemBlock where
  label : String
  content : List UInt8
  deriving DecidableEq, Repr

namespace PemBlock

/-- The blocks that are understood. -/
def knownLabels : List String :=
  ["CERTIFICATE", "PUBLIC KEY", "RSA PRIVATE KEY", "PRIVATE KEY", "EC PRIVATE KEY", "X509 CRL",
    "CERTIFICATE REQUEST", "ECHCONFIG"]

def keyLabels : List String := ["RSA PRIVATE KEY", "PRIVATE KEY", "EC PRIVATE KEY"]

def isCertificate (b : PemBlock) : Bool := b.label = "CERTIFICATE"

def isKey (b : PemBlock) : Bool := keyLabels.contains b.label

end PemBlock

namespace Pem

def opening : List Char := "-----BEGIN ".toList

def ending (label : List Char) : List Char := "-----END ".toList ++ label ++ "-----".toList

def isLineEnd (c : Char) : Bool := c = '\n' || c = '\r'

def isBlank (c : Char) : Bool := c = ' ' || c = '\t' || isLineEnd c

def lines : List Char → List (List Char)
  | [] => [[]]
  | c :: rest =>
    if isLineEnd c then [] :: lines rest
    else
      match lines rest with
      | [] => [[c]]
      | line :: more => (c :: line) :: more

/-- The label of an opening line, which ends in exactly five dashes. -/
def label? (line : List Char) : Option (List Char) :=
  let body := ((line.drop opening.length).reverse.dropWhile isBlank)
  let dashes := (body.takeWhile (· == '-')).length
  if dashes = 5 then some (body.drop 5).reverse else none

/-- The blocks in the lines of a file, from inside a block with its label and text so far, or from
outside. Nothing is read from a file with a fault in it. -/
def blocks : Option (List Char × List Char) → List (List Char) → Option (List PemBlock)
  | none, [] => some []
  | some _, [] => none
  | current, line :: rest =>
    if opening.isPrefixOf line then do
      let label ← label? line
      blocks (some (label, [])) rest
    else
      match current with
      | none => blocks none rest
      | some (label, text) =>
        if (ending label).isPrefixOf line then
          if PemBlock.knownLabels.contains (String.ofList label) then do
            let content ← decodeBase64 (text.filter (! isBlank ·))
            return ⟨String.ofList label, content⟩ :: (← blocks none rest)
          else blocks none rest
        else blocks (some (label, text ++ line)) rest

def parse (octets : List UInt8) : Option (List PemBlock) :=
  blocks none (lines (Text.Utf8.decodeLossy octets))

end Pem

/-! ## What is taken from PEM files -/

/-- The public key in a private key, by the label of its block. -/
def heldKey? (b : PemBlock) : Option PublicKey :=
  if b.label = "EC PRIVATE KEY" then PublicKey.ofCurveKey? b.content
  else if b.label = "RSA PRIVATE KEY" then PublicKey.ofRsaKey? b.content
  else PublicKey.ofNamedKey? b.content

/-- A file of trusted certificates may be without any, but holds no broken one. -/
def trusts (octets : List UInt8) : Bool :=
  match Pem.parse octets with
  | some blocks =>
    (blocks.filter (·.isCertificate)).all fun b => (PublicKey.ofCertificate? b.content).isSome
  | none => false

/-- An identity is made of certificates and keys, in any order, and nothing else. The last key must
belong to the first certificate. -/
def identifies (octets : List UInt8) : Bool :=
  match Pem.parse octets with
  | some blocks =>
    let certificate? := (blocks.find? (·.isCertificate)).bind (PublicKey.ofCertificate? ·.content)
    let key? := (blocks.filter (·.isKey)).getLast?.bind heldKey?
    blocks.all (fun b => b.isCertificate || b.isKey) &&
      match certificate?, key? with
      | some stated, some held => stated.agrees held
      | _, _ => false
  | none => false

end NodeBootstrap.Tls
