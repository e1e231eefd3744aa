import DeltaFunnel.Support
import Mathlib.Data.List.Forall2

/-! How the cause of a failed snapshot load is shown, and the texts it may be read as. -/

namespace DeltaFunnel

/-- `str::split_whitespace`. -/
def splitWhitespace (text : String) : List String :=
  ((text.toList.splitOnP isWhitespace).filter (· ≠ [])).map String.ofList

def sanitizeLoadToken (token : String) : String :=
  if containsText "://" token then sanitizeUriForDisplay token else sanitizeTextForDisplay token

def sanitizeSnapshotLoadCause (cause : String) : String :=
  " ".intercalate ((splitWhitespace cause).map sanitizeLoadToken)

inductive S3AuthModeHint where
  | explicitStatic
  | implicitProviderChain
  deriving DecidableEq

def snapshotLoadFailed : String := "snapshot could not be loaded"

def s3ImplicitCredentialHint : String :=
  "S3 credential hint: no explicit S3 credentials were supplied through storage_options; " ++
    "local shells may need explicit AWS_ACCESS_KEY_ID, AWS_SECRET_ACCESS_KEY, optional " ++
    "AWS_SESSION_TOKEN, and AWS_REGION."

/-- An error of the reader, with the text of its source when it has one. -/
structure DeltaReaderError where
  display : String
  source : Option String

def readerErrorSourceReason (error : DeltaReaderError) : String :=
  error.source.getD error.display

def snapshotLoadFailedReason (error : DeltaReaderError) (authMode : Option S3AuthModeHint) :
    String :=
  let reason := snapshotLoadFailed ++ ": " ++
    sanitizeSnapshotLoadCause (readerErrorSourceReason error)
  if authMode = some .implicitProviderChain then reason ++ " " ++ s3ImplicitCredentialHint
  else reason

def schemeMark : List Char := [':', '/', '/']

structure Uri where
  scheme : List Char
  userinfo : List Char
  host : List Char
  path : List Char
  /-- query and fragment -/
  tail : List Char
  scheme_ne_nil : scheme ≠ []
  scheme_free : ∀ c ∈ scheme, c ∉ [':', '/', '?', '#', '@']
  userinfo_free : ∀ c ∈ userinfo, c ∉ ['/', '?', '#']
  host_free : ∀ c ∈ host, c ∉ ['/', '?', '#', '@']
  path_free : ∀ c ∈ path, c ∉ ['?', '#']
  path_start : path = [] ∨ path.head? = some '/'
  tail_start : tail = [] ∨ tail.head? = some '?' ∨ tail.head? = some '#'

def Uri.text (uri : Uri) : List Char :=
  uri.scheme ++ schemeMark ++ uri.userinfo ++ '@' :: (uri.host ++ uri.path ++ uri.tail)

inductive Piece where
  | uri (uri : Uri)
  | plain (text : List Char) (h : containsChars schemeMark text = false)

def Piece.text : Piece → List Char
  | .uri source => source.text
  | .plain text _ => text

def tokenText (token : List Piece) : List Char := token.flatMap Piece.text

/-- An error text as tokens between single whitespace characters, where a token may be empty. -/
structure ErrorText where
  first : List Piece
  rest : List (Char × List Piece)
  separators : ∀ part ∈ rest, isWhitespace part.1 = true
  solid : ∀ token ∈ first :: rest.map Prod.snd, ∀ c ∈ tokenText token, isWhitespace c = false

def ErrorText.tokens (text : ErrorText) : List (List Piece) :=
  text.first :: text.rest.map Prod.snd

def ErrorText.text (text : ErrorText) : String :=
  String.ofList
    (tokenText text.first ++ text.rest.flatMap fun part => part.1 :: tokenText part.2)

/-- Pieces that differ in a userinfo and in a tail that both have, at most. -/
inductive SamePlace : Piece → Piece → Prop
  | uri {uri other : Uri} (hscheme : uri.scheme = other.scheme) (hhost : uri.host = other.host)
      (hpath : uri.path = other.path) (htail : uri.tail = [] ↔ other.tail = []) :
      SamePlace (.uri uri) (.uri other)
  | plain (text : List Char) (h : containsChars schemeMark text = false) :
      SamePlace (.plain text h) (.plain text h)

/-- Error texts that differ in their credentials at most. -/
def SameText (text other : ErrorText) : Prop :=
  List.Forall₂ SamePlace text.first other.first ∧
    List.Forall₂ (fun part otherPart => part.1 = otherPart.1 ∧
      List.Forall₂ SamePlace part.2 otherPart.2) text.rest other.rest

end DeltaFunnel
