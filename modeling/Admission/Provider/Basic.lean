import Admission.Log
import Admission.Token.Basic

/-!
# Providers

A provider judges tokens of the kinds that it supports. Asked about a token it declines, fails, or
gives a token, and it may change a state on the way; it notes what it did. A provider declares the
kinds of errors that it may fail with.

A provider that needs only a part of a larger state is put to work there by `Provider.within`.
-/

namespace Admission

/-- What a provider says to a token. A token that it gives need not be proven. -/
inductive Answer
  | declined
  | failed (error : AuthError)
  | gave (token : Token)
  deriving DecidableEq

namespace Answer

/-- The proven token of an answer. -/
def proven? : Answer → Option Token
  | gave t => if t.authenticated then some t else none
  | _ => none

/-- The error of an answer. -/
def error? : Answer → Option AuthError
  | failed e => some e
  | _ => none

/-- The answer that a newly made token amounts to. A refused one is a failure with bad credentials
of the given wording. -/
def ofToken (refusal : String) : Except TokenError Token → Answer
  | .ok t => gave t
  | .error _ => failed ⟨.badCredentials, refusal, none⟩

end Answer

/-- What a provider did. -/
inductive Note
  /-- It looked a user up. -/
  | lookup (username : String)
  /-- It had a password encoded. -/
  | encode
  /-- It had a password compared with a stored one. -/
  | compare
  /-- It wrote a record. -/
  | log (record : LogRecord)
  deriving Repr, DecidableEq

/-- The records among notes. -/
def Note.logRecords (notes : List Note) : List LogRecord :=
  notes.filterMap fun
    | .log record => some record
    | _ => none

/-- The answer of a provider and what it did, in order. -/
structure Attempt where
  answer : Answer
  notes : List Note := []
  deriving DecidableEq

/-- A judge of tokens over a state. -/
structure Provider (σ : Type) where
  name : String
  declared : List ErrorKind
  supports : TokenKind → Bool
  attempt : Token → σ → Attempt × σ

namespace Provider

/-- A provider at work in a larger state, of which it sees and changes a part. -/
def within {σ τ : Type} (get : τ → σ) (put : σ → τ → τ) (p : Provider σ) : Provider τ where
  name := p.name
  declared := p.declared
  supports := p.supports
  attempt token t :=
    let (a, s) := p.attempt token (get t)
    (a, put s t)

end Provider

end Admission
