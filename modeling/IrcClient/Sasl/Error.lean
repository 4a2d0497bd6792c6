import IrcClient.Text.Base64
import IrcClient.Text.Quoted

/-!
# Why an authentication fails

Each cause on the client's side is a constructor. Those that quote the server carry
its text.
-/

namespace IrcClient

/-- What makes the client give up an authentication. -/
inductive SaslError where
  | malformed (what : String)
  | base64 (error : Base64.DecodeError)
  | nonceMismatch
  | invalidIterations (count : String)
  | serverSignatureMismatch
  | serverError (what : String)
  | unexpectedChallenge
  | internal (reason : String)
deriving DecidableEq, Repr

/-- The words for a cause. -/
def SaslError.message : SaslError → String
  | .malformed what => "Malformed server message: " ++ what
  | .base64 e => "Invalid base64: " ++ e.message
  | .nonceMismatch => "Server nonce does not extend the client nonce"
  | .invalidIterations count => "Invalid iteration count " ++ quoted count
  | .serverSignatureMismatch => "Server signature did not verify"
  | .serverError what => "Server reported error: " ++ what
  | .unexpectedChallenge => "Unexpected challenge after the exchange finished"
  | .internal reason => "Internal error: " ++ reason

/-- Reads Base64 in the course of an authentication. -/
def SaslError.decode (text : String) : Except SaslError Bytes :=
  (Base64.decode text).mapError .base64

end IrcClient
