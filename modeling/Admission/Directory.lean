import Std.Data.TreeMap.Basic
import Admission.Error
import Admission.User

/-!
# User directories

Providers look users up by name in a service. A service is any way to answer such a look-up that
may change a state (`UserService`). Here are two: a store in memory, and a cache in front of one.

The store files each user under the user's own name. While an outage lasts every look-up in it
fails, but changes still take effect; it counts the look-ups. The cache remembers the users that
were found, each with the time of its look-up, for as long as its time to live; what was not found,
or not answered, is asked again.
-/

namespace Admission

/-- A way to look users up by name. -/
structure UserService (σ : Type) where
  load : String → σ → Except StoreError (Option User) × σ

namespace UserService

variable {σ : Type}

/-- Whether a user of that name exists. -/
def contains (service : UserService σ) (username : String) (s : σ) :
    Except StoreError Bool × σ :=
  let (found, s) := service.load username s
  (found.map Option.isSome, s)

end UserService

/-! ## Store -/

/-- Users by name. -/
structure UserStore where
  users : Std.TreeMap String User := ∅
  outage : Option StoreError := none
  lookups : Nat := 0

namespace UserStore

/-- The store without users. -/
def empty : UserStore := {}

/-- The user filed under a name. -/
def find? (s : UserStore) (username : String) : Option User :=
  s.users[username]?

/-- Files a user under its name, in place of a former one. -/
def add (s : UserStore) (u : User) : UserStore :=
  { s with users := s.users.insert u.username u }

/-- Files users one after the other. -/
def addAll (s : UserStore) (users : List User) : UserStore :=
  users.foldl add s

/-- Files a new user. A user of that name must not exist. -/
def create (s : UserStore) (u : User) : Except StoreError UserStore :=
  if (s.find? u.username).isSome then .error .alreadyExists else .ok (s.add u)

/-- Removes the user of a name, who must exist. -/
def delete (s : UserStore) (username : String) : Except StoreError UserStore :=
  if (s.find? username).isSome then .ok { s with users := s.users.erase username }
  else .error .notFound

/-- Looks a user up. -/
def load (username : String) (s : UserStore) : Except StoreError (Option User) × UserStore :=
  (match s.outage with
    | some e => .error e
    | none => .ok (s.find? username),
    { s with lookups := s.lookups + 1 })

/-- The store as a service. -/
def service : UserService UserStore := ⟨load⟩

end UserStore

/-! ## Cache -/

/-- A user found earlier, and when. -/
structure CachedUser where
  user : User
  since : Nat
  deriving Repr, DecidableEq

/-- A service with a memory of the users it found. `now` is the time, in the unit of the time to
live. -/
structure Cached (σ : Type) where
  inner : σ
  entries : Std.TreeMap String CachedUser := ∅
  ttl : Nat := 300000
  now : Nat := 0

namespace Cached

variable {σ : Type}

/-- The remembered user of a name, while it is fresh. -/
def fresh? (c : Cached σ) (username : String) : Option User :=
  match c.entries[username]? with
  | some entry => if c.now - entry.since < c.ttl then some entry.user else none
  | none => none

/-- Remembers a user under the name it was asked for by. -/
def remember (c : Cached σ) (username : String) (u : User) : Cached σ :=
  { c with entries := c.entries.insert username ⟨u, c.now⟩ }

/-- Forgets the user of a name. -/
def invalidate (c : Cached σ) (username : String) : Cached σ :=
  { c with entries := c.entries.erase username }

/-- Forgets everybody. -/
def clear (c : Cached σ) : Cached σ :=
  { c with entries := ∅ }

/-- How many users are remembered. -/
def size (c : Cached σ) : Nat :=
  c.entries.size

/-- Looks a user up: from memory while it is fresh, else from the service behind. -/
def load (inner : UserService σ) (username : String) (c : Cached σ) :
    Except StoreError (Option User) × Cached σ :=
  match c.fresh? username with
  | some u => (.ok (some u), c)
  | none =>
    let (found, s) := inner.load username c.inner
    let c := { c with inner := s }
    match found with
    | .ok (some u) => (found, c.remember username u)
    | _ => (found, c)

/-- The service with its memory as a service. -/
def service (inner : UserService σ) : UserService (Cached σ) := ⟨load inner⟩

end Cached

/-! ## Directory -/

/-- The users of an installation: a store, with or without a cache in front of it. -/
inductive Directory
  | direct (store : UserStore)
  | cached (cache : Cached UserStore)

namespace Directory

def store : Directory → UserStore
  | direct s => s
  | cached c => c.inner

/-- Applies a change to the store, past the cache. -/
def mapStore (f : UserStore → UserStore) : Directory → Directory
  | direct s => direct (f s)
  | cached c => cached { c with inner := f c.inner }

/-- Applies a change to the cache, if there is one. -/
def mapCache (f : Cached UserStore → Cached UserStore) : Directory → Directory
  | direct s => direct s
  | cached c => cached (f c)

/-- How many users the cache remembers. -/
def cachedCount : Directory → Nat
  | direct _ => 0
  | cached c => c.size

/-- Looks a user up. -/
def load (username : String) : Directory → Except StoreError (Option User) × Directory
  | direct s => let (found, s) := s.load username; (found, direct s)
  | cached c => let (found, c) := c.load UserStore.service username; (found, cached c)

/-- The directory as a service. -/
def service : UserService Directory := ⟨load⟩

end Directory

end Admission
