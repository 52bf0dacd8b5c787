import Mathlib.Data.List.Induction
import Admission.Proofs.Account

/-!
# Building users

A user is built by calls, one after the other (`User.Call`, `User.built`). A call adds to one of the
two lists of names, sets one of the four flags or takes the password away.

Adding names one by one keeps each at its first occurrence (`addNew_nil`), and it does not matter in
how many batches they come (`addNew_addNew`). So each list of a built user is made of all the names
ever given for it, whatever the calls in between (`User.listed_built`), and giving a name again
changes nothing. What the user is granted follows from the names given, whatever their order
(`User.mem_granted_built`).
-/

namespace Admission

/-! ## Lists without repetition -/

/-- Names may be added in one batch or in two. -/
theorem addNew_addNew (listed xs ys : List String) :
    addNew (addNew listed xs) ys = addNew listed (xs ++ ys) :=
  List.foldl_append.symm

/-- The last of several names is added unless it is listed by then. -/
theorem addNew_concat (listed names : List String) (name : String) :
    addNew listed (names ++ [name]) =
      if name ∈ addNew listed names then addNew listed names else addNew listed names ++ [name] :=
  (addNew_addNew listed names [name]).symm

/-- Adding what is listed already changes nothing. -/
theorem addNew_of_subset {listed names : List String} (h : names ⊆ listed) :
    addNew listed names = listed := by
  induction names with
  | nil => rfl
  | cons name names ih =>
    obtain ⟨hname, hnames⟩ := List.cons_subset.1 h
    rw [addNew, List.foldl_cons, if_pos hname]
    exact ih hnames

/-- Adding names makes none double. -/
theorem nodup_addNew {listed : List String} (h : listed.Nodup) (names : List String) :
    (addNew listed names).Nodup := by
  induction names using List.reverseRecOn with
  | nil => exact h
  | append_singleton names name ih =>
    rw [addNew_concat]
    split
    · exact ih
    · next hnew =>
      refine List.nodup_append.2 ⟨ih, List.pairwise_singleton _ name, ?_⟩
      rintro x hx y hy rfl
      exact hnew (List.mem_singleton.1 hy ▸ hx)

/-- Adding names to nothing keeps each at its first occurrence. -/
theorem addNew_nil (names : List String) : addNew [] names = names.eraseDups := by
  -- The induction is from the end, where names are added; `eraseDups` recurses from the front.
  induction names using List.reverseRecOn with
  | nil => rfl
  | append_singleton names name ih =>
    rw [addNew_concat, ih, List.eraseDups_append]
    by_cases h : name ∈ names <;> simp [List.removeAll, h, List.eraseDups_cons]

namespace User

/-! ## Calls -/

/-- The lists of names that a user has. -/
inductive Listing
  | roles
  | authorities
  deriving Repr, DecidableEq

/-- What may be said of the state of an account. -/
inductive Flag
  | enabled
  | accountExpired
  | accountLocked
  | credentialsExpired
  deriving Repr, DecidableEq

/-- What of a user a call changes. -/
inductive Field
  | names (l : Listing)
  | flag (f : Flag)
  | password
  deriving Repr, DecidableEq

/-- A call by which a user is built. -/
inductive Call
  | add (l : Listing) (names : List String)
  | set (f : Flag) (b : Bool)
  | withoutPassword
  deriving Repr, DecidableEq

namespace Call

/-- The field that a call changes. -/
def field : Call → Field
  | add l _ => .names l
  | set f _ => .flag f
  | withoutPassword => .password

/-- The names that a call gives for a list. -/
def names (l : Listing) : Call → List String
  | add l' names => if l' = l then names else []
  | set .. | withoutPassword => []

end Call

/-- A list of a user. -/
def listed (u : User) : Listing → List String
  | .roles => u.roles
  | .authorities => u.authorities

/-- What a call makes of a user. -/
def apply (u : User) : Call → User
  | .add .roles names => u.addRoles names
  | .add .authorities names => u.addAuthorities names
  | .set .enabled b => u.setEnabled b
  | .set .accountExpired b => u.setAccountExpired b
  | .set .accountLocked b => u.setAccountLocked b
  | .set .credentialsExpired b => u.setCredentialsExpired b
  | .withoutPassword => u.withoutPassword

/-- The user after a sequence of calls. -/
def after (u : User) (calls : List Call) : User :=
  calls.foldl apply u

/-- The user that a sequence of calls makes of a new one. -/
def built (username password : String) (calls : List Call) : User :=
  ({ username := username, password := password } : User).after calls

/-- All the names that calls give for a list, in order. -/
def given (l : Listing) (calls : List Call) : List String :=
  calls.flatMap (Call.names l)

variable {u : User} {c d : Call} {calls : List Call} {l : Listing}

/-! ## One call -/

/-- A call adds to a list what it gives for it, and leaves it alone if that is nothing. -/
theorem listed_apply (u : User) (c : Call) (l : Listing) :
    (u.apply c).listed l = addNew (u.listed l) (c.names l) := by
  cases c with
  | add l' names => cases l' <;> cases l <;> rfl
  | set f b => cases f <;> cases l <;> rfl
  | withoutPassword => cases l <;> rfl

/-- Names may be given in one call or in two. -/
theorem apply_add_add (u : User) (l : Listing) (xs ys : List String) :
    (u.apply (.add l xs)).apply (.add l ys) = u.apply (.add l (xs ++ ys)) := by
  cases l with
  | roles => simp only [apply, addRoles, addNew_addNew]
  | authorities => simp only [apply, addAuthorities, addNew_addNew]

/-- Giving names that are listed already changes nothing. -/
theorem apply_add_of_subset {names : List String} (h : names ⊆ u.listed l) :
    u.apply (.add l names) = u := by
  cases l with
  | roles => exact congrArg (fun roles => { u with roles := roles }) (addNew_of_subset h)
  | authorities =>
    exact congrArg (fun authorities => { u with authorities := authorities }) (addNew_of_subset h)

/-- A call that is made twice in a row might as well be made once. -/
theorem apply_apply (u : User) (c : Call) : (u.apply c).apply c = u.apply c := by
  cases c with
  | add l names =>
    refine apply_add_of_subset fun name hname => ?_
    rw [listed_apply, Call.names, if_pos rfl]
    exact mem_addNew.2 (.inr hname)
  | set f b => cases f <;> rfl
  | withoutPassword => rfl

/-- Calls that change different fields may change places. -/
theorem apply_comm (u : User) (h : c.field ≠ d.field) :
    (u.apply c).apply d = (u.apply d).apply c := by
  cases c with
  | add l names =>
    cases d with
    | add l' names' =>
      cases l <;> cases l' <;> first | rfl | exact absurd rfl h
    | set f b => cases l <;> cases f <;> rfl
    | withoutPassword => cases l <;> rfl
  | set f b =>
    cases d with
    | add l names => cases f <;> cases l <;> rfl
    | set f' b' => cases f <;> cases f' <;> first | rfl | exact absurd rfl h
    | withoutPassword => cases f <;> rfl
  | withoutPassword =>
    cases d with
    | add l names => cases l <;> rfl
    | set f b => cases f <;> rfl
    | withoutPassword => exact absurd rfl h

/-! ## Sequences of calls -/

theorem after_cons (u : User) (c : Call) (calls : List Call) :
    u.after (c :: calls) = (u.apply c).after calls := rfl

/-- Further calls go on from the user built so far. -/
theorem built_append (username password : String) (before rest : List Call) :
    built username password (before ++ rest) = (built username password before).after rest :=
  List.foldl_append

/-- Calls add to a list what they give for it together. -/
theorem listed_after (u : User) (calls : List Call) (l : Listing) :
    (u.after calls).listed l = addNew (u.listed l) (given l calls) := by
  induction calls generalizing u with
  | nil => rfl
  | cons c calls ih =>
    calc ((u.apply c).after calls).listed l
      _ = addNew ((u.apply c).listed l) (given l calls) := ih _
      _ = addNew (addNew (u.listed l) (c.names l)) (given l calls) := by rw [listed_apply]
      _ = addNew (u.listed l) (given l (c :: calls)) := addNew_addNew ..

variable {username password a : String}

/-- A list of a built user has all the names given for it, each at its first occurrence. -/
theorem listed_built (username password : String) (calls : List Call) (l : Listing) :
    (built username password calls).listed l = (given l calls).eraseDups := by
  rw [built, listed_after, ← addNew_nil]
  cases l <;> rfl

/-- A name is in a list of a built user if it was given for that list. -/
theorem mem_listed_built :
    a ∈ (built username password calls).listed l ↔ a ∈ given l calls := by
  rw [listed_built, List.mem_eraseDups]

/-- No name is there twice. -/
theorem nodup_listed_built (username password : String) (calls : List Call) (l : Listing) :
    ((built username password calls).listed l).Nodup := by
  rw [listed_built, ← addNew_nil]
  exact nodup_addNew .nil _

/-- What a built user is granted: the authorities given, and the roles given under their mark. -/
theorem mem_granted_built : a ∈ (built username password calls).granted ↔
    a ∈ given .authorities calls ∨
      ∃ role ∈ given .roles calls, a = Text.ensureLeading roleMark role := by
  have hroles : ∀ role, role ∈ (built username password calls).roles ↔ role ∈ given .roles calls :=
    fun role => mem_listed_built (l := .roles)
  have hauthorities : a ∈ (built username password calls).authorities ↔
      a ∈ given .authorities calls := mem_listed_built (l := .authorities)
  simp only [mem_granted, hroles, hauthorities]

/-- Nothing is granted to whom nothing was given. -/
theorem granted_built_eq_nil : (built username password calls).granted = [] ↔
    given .roles calls = [] ∧ given .authorities calls = [] := by
  simp only [List.eq_nil_iff_forall_not_mem, mem_granted_built]
  refine ⟨fun h => ⟨fun role hrole => ?_, fun a ha => h a (.inl ha)⟩, ?_⟩
  · exact h _ (.inr ⟨role, hrole, rfl⟩)
  · rintro ⟨hroles, hauthorities⟩ a (ha | ⟨role, hrole, -⟩)
    · exact hauthorities a ha
    · exact hroles role hrole

/-- **A built user is what it was given.**

Each of the two lists holds the names given for it in all the calls together, each once and at its
first occurrence. Wherever it stands among the calls, a batch of names may be split, a call that
gives only names given before may be left out, and so may the second of two equal calls in a row.
Calls that change different fields may change places. The user is granted the authorities given and,
with the mark put in front where it is missing, the roles given, hence nothing exactly if no role
and no authority was ever given. -/
theorem built_as_given (username password : String) :
    let made (calls : List Call) : User := built username password calls
    (∀ calls, (made calls).roles = (given .roles calls).eraseDups ∧
      (made calls).authorities = (given .authorities calls).eraseDups ∧
      (made calls).roles.Nodup ∧ (made calls).authorities.Nodup) ∧
    (∀ before rest l xs ys, made (before ++ .add l xs :: .add l ys :: rest) =
      made (before ++ .add l (xs ++ ys) :: rest)) ∧
    (∀ before rest l names, names ⊆ given l before →
      made (before ++ .add l names :: rest) = made (before ++ rest)) ∧
    (∀ before rest c, made (before ++ c :: c :: rest) = made (before ++ c :: rest)) ∧
    (∀ before rest c d, c.field ≠ d.field →
      made (before ++ c :: d :: rest) = made (before ++ d :: c :: rest)) ∧
    ∀ calls, (∀ a, a ∈ (made calls).granted ↔ a ∈ given .authorities calls ∨
        ∃ role ∈ given .roles calls,
          a = if Text.startsWith "ROLE_" role then role else "ROLE_" ++ role) ∧
      ((made calls).granted = [] ↔ given .roles calls = [] ∧ given .authorities calls = []) := by
  intro made
  have hmade : ∀ before c rest,
      made (before ++ c :: rest) = ((made before).apply c).after rest :=
    fun before c rest => built_append username password before (c :: rest)
  refine ⟨fun calls => ⟨listed_built _ _ calls .roles, listed_built _ _ calls .authorities,
    nodup_listed_built _ _ calls .roles, nodup_listed_built _ _ calls .authorities⟩,
    ?_, ?_, ?_, ?_, fun calls => ⟨fun a => mem_granted_built, granted_built_eq_nil⟩⟩
  · intro before rest l xs ys
    rw [hmade, hmade, after_cons, apply_add_add]
  · intro before rest l names h
    have hlisted : names ⊆ (made before).listed l := fun name hname => mem_listed_built.2 (h hname)
    rw [hmade, apply_add_of_subset hlisted, ← built_append]
  · intro before rest c
    rw [hmade, hmade, after_cons, apply_apply]
  · intro before rest c d h
    rw [hmade, hmade, after_cons, after_cons, apply_comm _ h]

/-- A role is given twice, once already under the mark, and the account is disabled in between. -/
theorem built_as_given_operator :
    let disable : Call := .set .enabled false
    let calls : List Call := [.add .roles ["ADMIN", "USER"], disable,
      .add .authorities ["users:read"], .add .roles ["USER", "ROLE_OPS", "USER"]]
    let u := built "admin" "pass" calls
    u.roles = ["ADMIN", "USER", "ROLE_OPS"] ∧
      u.granted = ["ROLE_ADMIN", "ROLE_USER", "ROLE_OPS", "users:read"] ∧
      built "admin" "pass" (calls ++ [.add .roles ["ROLE_OPS", "ADMIN"]]) = u ∧
      built "admin" "pass" (calls ++ [.withoutPassword, disable]) =
        built "admin" "pass" (calls ++ [disable, .withoutPassword]) := by
  intro disable calls u
  obtain ⟨hlists, -, hagain, -, hcomm, -⟩ := built_as_given "admin" "pass"
  have hroles : u.roles = ["ADMIN", "USER", "ROLE_OPS"] := (hlists calls).1.trans (by decide)
  have hgiven : ["ROLE_OPS", "ADMIN"] ⊆ given .roles calls := by decide
  refine ⟨hroles, by decide, ?_, hcomm calls [] _ _ (by decide)⟩
  exact (hagain calls [] .roles _ hgiven).trans (by rw [List.append_nil])

end User

end Admission
