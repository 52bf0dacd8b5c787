/-!
# Errors

What can go wrong, as causes: a refused or failed authentication (`AuthError`), a fault of the user
store behind it (`StoreError`), a fault in the set-up (`ConfigError`), and the two outcomes that a
caller of the manager has to tell apart (`ManagerError`). The wording of each cause is fixed by its
`message`.
-/

namespace Admission

/-! ## Failed authentications -/

/-- Why an authentication failed. The order is the order of `ErrorKind.all`. -/
inductive ErrorKind
  | badCredentials
  | accountDisabled
  | accountExpired
  | credentialsExpired
  | accountLocked
  | concurrentLoginLimitExceeded
  | providerNotFound
  | providerUnavailable
  | proxyUntrusted
  deriving Repr, DecidableEq

namespace ErrorKind

/-- Every kind once, in order. -/
def all : List ErrorKind :=
  [badCredentials, accountDisabled, accountExpired, credentialsExpired, accountLocked,
    concurrentLoginLimitExceeded, providerNotFound, providerUnavailable, proxyUntrusted]

/-- The name of a kind in messages and records. -/
def name : ErrorKind → String
  | badCredentials => "BadCredentials"
  | accountDisabled => "AccountDisabled"
  | accountExpired => "AccountExpired"
  | credentialsExpired => "CredentialsExpired"
  | accountLocked => "AccountLocked"
  | concurrentLoginLimitExceeded => "ConcurrentLoginLimitExceeded"
  | providerNotFound => "ProviderNotFound"
  | providerUnavailable => "ProviderUnavailable"
  | proxyUntrusted => "ProxyUntrusted"

theorem mem_all (k : ErrorKind) : k ∈ all := by
  cases k <;> decide

end ErrorKind

/-- A fault of a user store. -/
inductive StoreError
  | alreadyExists
  | notFound
  | storage (reason : String)
  deriving Repr, DecidableEq

/-- The wording of a store fault. -/
def StoreError.message : StoreError → String
  | .alreadyExists => "User already exists"
  | .notFound => "User not found"
  | .storage reason => "Storage error: " ++ reason

/-- A failed authentication. The cause is the store fault behind an unavailable provider, where
there is one. -/
structure AuthError where
  kind : ErrorKind
  message : String
  cause : Option StoreError := none
  deriving Repr, DecidableEq

/-! ## Faults in the set-up -/

/-- A fault that keeps a component from being built or a decision from being published. -/
inductive ConfigError
  | emptyProviderList
  | missingEventMapping (kind : ErrorKind)
  | missingCollaborator (name : String)
  | invalidSetting (name reason : String)
  deriving Repr, DecidableEq

/-- The wording of a fault in the set-up. -/
def ConfigError.message : ConfigError → String
  | .emptyProviderList => "A list of AuthenticationProviders is required"
  | .missingEventMapping kind => "A valid event must be available for the exception " ++ kind.name
  | .missingCollaborator name => name ++ " is required"
  | .invalidSetting name reason => "invalid setting '" ++ name ++ "': " ++ reason

/-! ## Outcomes of the manager -/

/-- Why the manager gave no token: the authentication failed, or its set-up has a gap. -/
inductive ManagerError
  | authentication (error : AuthError)
  | configuration (error : ConfigError)
  deriving Repr, DecidableEq

namespace ManagerError

/-- The wording of an outcome. -/
def message : ManagerError → String
  | authentication e => e.message
  | configuration e => "authentication chain misconfigured: " ++ e.message

/-- The kind of a failed authentication. -/
def kind? : ManagerError → Option ErrorKind
  | authentication e => some e.kind
  | configuration _ => none

/-- Whether the set-up is to blame. -/
def isConfiguration : ManagerError → Bool
  | authentication _ => false
  | configuration _ => true

/-- The wording of the error inside the outcome. -/
def causeMessage : ManagerError → String
  | authentication e => e.message
  | configuration e => e.message

/-- The wording of the store fault at the root, where there is one. -/
def rootMessage? : ManagerError → Option String
  | authentication e => e.cause.map StoreError.message
  | configuration _ => none

end ManagerError

/-- A failed encoding of a password. -/
structure EncodingError where
  reason : String
  deriving Repr, DecidableEq

/-- The wording of a failed encoding. -/
def EncodingError.message (e : EncodingError) : String :=
  "password encoding failed: " ++ e.reason

end Admission
