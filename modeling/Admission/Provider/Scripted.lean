import Admission.Provider.Basic

/-!
# Scripted provider

A provider with a fixed answer, for trials of a chain: it declines, gives the request back, fails
with a given error, or grants given authorities.
-/

namespace Admission

/-- A fixed answer. -/
inductive Script
  | decline
  | echo
  | fail (error : AuthError)
  /-- Proves the request, as another principal if one is given, with or without its details. -/
  | grant (authorities : List String) (principal : Option Principal) (dropDetails : Bool)

/-- The answer of a script to a request. -/
def Script.answer (s : Script) (request : Token) : Answer :=
  match s with
  | decline => .declined
  | echo => .gave request
  | fail e => .failed e
  | grant authorities principal dropDetails =>
    let principal := principal.getD request.principal
    .ofToken TokenError.noAuthorities.message <|
      if dropDetails then Token.proven request.kind principal request.credentials authorities
      else request.provenFrom principal authorities

/-- The provider that answers by a script, for tokens of the given kinds. -/
def Provider.scripted {σ : Type} (name : String) (kinds : List TokenKind)
    (declared : List ErrorKind) (script : Script) : Provider σ where
  name := name
  declared := declared
  supports kind := kinds.contains kind
  attempt request s := (⟨script.answer request, []⟩, s)

end Admission
