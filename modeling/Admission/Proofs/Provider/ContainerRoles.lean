import Admission.Proofs.Provider.Answers
import Admission.Proofs.Token.Canonical

/-!
# Roles asserted by a container

Without a user service a pre-authenticated provider grants what a mapper makes of the roles that are
asserted along with the name. `RoleMapper.Grants` says what that is, as a relation between the
asserted roles and an authority. It mentions neither an order nor a number of occurrences.

The roles pass through the mapper, the lists of a user and the set of a token, and what is left is
that relation (`PreAuthenticatedProvider.mem_authorities_container`). So the grant is a function of
the set of roles, it grows with that set and with the roles that the mapper lets pass
(`RoleMapper.Grants.mono`), and it is within what the mapper can make of a role at all.
-/

namespace Admission

variable {σ : Type}

/-! ## Mappers -/

namespace RoleMapper

variable {m : RoleMapper} {roles roles' : List String} {a : String}

/-- A mapper makes an authority of one of the roles. -/
def Grants (m : RoleMapper) (roles : List String) (a : String) : Prop :=
  ∃ role ∈ roles, m.admits role = true ∧ a = m.authority role

/-- A new choice of mappable roles leaves out none of an old one: it is a list with the same roles
and perhaps more, or it makes all roles mappable. -/
def Covers : (old new : Option (List String)) → Prop
  | _, none => True
  | some allowed, some allowed' => allowed ⊆ allowed'
  | none, some _ => False

/-- Whatever a mapper makes of a role is under its mark. -/
theorem startsWith_authority (m : RoleMapper) (role : String) :
    Text.startsWith m.mark (m.authority role) = true :=
  Text.startsWith_ensureLeading ..

/-- So is whatever it grants. -/
theorem Grants.startsWith (h : m.Grants roles a) : Text.startsWith m.mark a = true := by
  obtain ⟨role, -, -, rfl⟩ := h
  exact m.startsWith_authority role

/-- A role that was mappable stays so. -/
theorem admits_of_covers {mappable : Option (List String)} (h : Covers m.mappable mappable)
    {role : String} (hrole : m.admits role = true) :
    ({ m with mappable := mappable } : RoleMapper).admits role = true := by
  unfold admits at hrole ⊢
  cases mappable with
  | none => rfl
  | some allowed' =>
    cases hm : m.mappable with
    | none => rw [hm] at h; exact h.elim
    | some allowed =>
      rw [hm] at h hrole
      exact List.contains_iff_mem.2 (h (List.contains_iff_mem.1 hrole))

/-- More roles, or more of them mappable, make no authority go away. -/
theorem Grants.mono {mappable : Option (List String)} (h : m.Grants roles a)
    (hcovers : Covers m.mappable mappable) (hroles : roles ⊆ roles') :
    ({ m with mappable := mappable } : RoleMapper).Grants roles' a := by
  obtain ⟨role, hrole, hadmits, rfl⟩ := h
  exact ⟨role, hroles hrole, admits_of_covers hcovers hadmits, rfl⟩

/-- A mapper that changes no letters and leaves no role out keeps what is under its mark. -/
theorem map_of_startsWith (hupper : m.uppercase = false) (hall : m.mappable = none)
    (h : ∀ role ∈ roles, Text.startsWith m.mark role = true) : m.map roles = roles := by
  have hkeep : ∀ role ∈ roles, m.authority role = role := by
    intro role hrole
    rw [authority, hupper, if_neg Bool.false_ne_true]
    exact Text.ensureLeading_of_startsWith (h role hrole)
  have hadmits : ∀ role ∈ roles, m.admits role = true := by
    intro role _
    rw [admits, hall]
  rw [map, List.filter_eq_self.2 hadmits, List.map_congr_left hkeep, List.map_id']

end RoleMapper

/-! ## Requests -/

/-- Roles asserted in several batches are asserted. -/
theorem Token.containerRoles_addRoles (request : Token) (d : Details)
    (batches : List (List String)) :
    (request.withDetails (batches.foldl Details.addRoles d)).containerRoles =
      d.roles ++ batches.flatten := by
  show (batches.foldl Details.addRoles d).roles = _
  induction batches generalizing d with
  | nil => exact (List.append_nil _).symm
  | cons batch batches ih =>
    rw [List.foldl_cons, ih, List.flatten_cons, ← List.append_assoc]
    rfl

/-- A request by which a system in front asserts the name of somebody. -/
structure Token.AssertsName (request : Token) : Prop where
  kind : request.kind = .preAuthenticated
  named : Text.isBlank request.name = false

/-- What an answer grants, or the error with which it refuses. -/
def Answer.granted? : Answer → Option (Except AuthError Authorities)
  | declined => none
  | failed e => some (.error e)
  | gave t => some (.ok t.authorities)

/-! ## Grants -/

namespace PreAuthenticatedProvider

variable {m : RoleMapper} {request : Token} {s : σ} {t : Token} {a : String}

/-- The refusal of a name to which nothing is granted. -/
def noGrants : AuthError :=
  ⟨.badCredentials, "Pre-authenticated principal has no granted authorities", none⟩

/-- The answer of a provider without a user service. -/
def containerAnswer (m : RoleMapper) (request : Token) (s : σ) : Answer :=
  ((⟨.containerRoles m⟩ : PreAuthenticatedProvider σ).attempt request s).1.answer

/-- The user made from the roles is judged. -/
theorem containerAnswer_eq (h : request.AssertsName) :
    containerAnswer m request s = judge request (containerUser m request) := by
  simp [containerAnswer, attempt, h.kind, h.named, resolve]

/-- The lists of a user keep the grant of the mapper. -/
theorem mem_granted_containerUser :
    a ∈ (containerUser m request).granted ↔ m.Grants request.containerRoles a := by
  have hroles : (containerUser m request).roles = [] := rfl
  simp only [User.mem_granted, hroles, List.not_mem_nil, false_and, exists_false, or_false,
    mem_authorities_containerUser, RoleMapper.Grants, eq_comm]

/-- The name is let in if the user is granted anything, and the token lists it. -/
theorem containerAnswer_eq_gave (h : request.AssertsName) :
    containerAnswer m request s = .gave t ↔ (containerUser m request).granted ≠ [] ∧
      t = ⟨request.kind, .user (containerUser m request), request.credentials,
        .ofList (containerUser m request).granted, request.details, true⟩ := by
  rw [containerAnswer_eq h, judge_containerUser, Token.provenFrom_eq_ok]

/-- The set of a token keeps the grant of the mapper. -/
theorem mem_authorities_container (h : request.AssertsName)
    (ht : containerAnswer m request s = .gave t) :
    a ∈ t.authorities.toList ↔ m.Grants request.containerRoles a := by
  obtain ⟨-, rfl⟩ := (containerAnswer_eq_gave h).1 ht
  rw [Authorities.mem_toList_ofList, mem_granted_containerUser]

/-- A mappable role is all it takes. -/
theorem exists_containerAnswer_eq_gave (h : request.AssertsName) :
    (∃ t, containerAnswer m request s = .gave t) ↔
      ∃ role ∈ request.containerRoles, m.admits role = true := by
  rw [← hasGrants_containerUser, ← User.granted_ne_nil]
  simp only [containerAnswer_eq_gave h, exists_and_left, exists_eq, and_true]

/-- Without one the name is refused. -/
theorem containerAnswer_eq_failed (h : request.AssertsName)
    (hnone : ∀ role ∈ request.containerRoles, m.admits role = false) :
    containerAnswer m request s = .failed noGrants := by
  have hgranted : (containerUser m request).granted = [] := by
    refine List.eq_nil_iff_forall_not_mem.2 fun a ha => ?_
    obtain ⟨role, hrole, hadmits, -⟩ := mem_granted_containerUser.1 ha
    rw [hnone role hrole] at hadmits
    cases hadmits
  have hcheck : (containerUser m request).check = .ok () :=
    User.check_eq_ok.2 ⟨⟨rfl, rfl, rfl⟩, rfl⟩
  rw [containerAnswer_eq h, judge, hcheck, hgranted]
  rfl

/-- The grant is a function of the set of roles. -/
theorem granted?_congr {other : Token} {s' : σ} (h : request.AssertsName)
    (hother : other.AssertsName)
    (hroles : ∀ role, role ∈ other.containerRoles ↔ role ∈ request.containerRoles) :
    (containerAnswer m other s').granted? = (containerAnswer m request s).granted? := by
  -- Both requests are answered or both are refused, for the roles alone say which.
  by_cases hsome : ∃ role ∈ request.containerRoles, m.admits role = true
  · have hsome' : ∃ role ∈ other.containerRoles, m.admits role = true := by
      simpa only [hroles] using hsome
    obtain ⟨t, ht⟩ := (exists_containerAnswer_eq_gave (s := s) h).2 hsome
    obtain ⟨t', ht'⟩ := (exists_containerAnswer_eq_gave (s := s') hother).2 hsome'
    have hset : t'.authorities = t.authorities := by
      refine Authorities.ext_mem fun a => ?_
      rw [mem_authorities_container hother ht', mem_authorities_container h ht]
      simp only [RoleMapper.Grants, hroles]
    rw [ht, ht', Answer.granted?, Answer.granted?, hset]
  · have hnone : ∀ role ∈ request.containerRoles, m.admits role = false := by
      intro role hrole
      exact Bool.eq_false_iff.2 fun hadmits => hsome ⟨role, hrole, hadmits⟩
    rw [containerAnswer_eq_failed h hnone,
      containerAnswer_eq_failed hother fun role hrole => hnone role ((hroles role).1 hrole)]

/-- A grant grows with the roles and with the choice of mappable ones. -/
theorem exists_containerAnswer_superset {other : Token} {s' : σ}
    {mappable : Option (List String)} (h : request.AssertsName)
    (ht : containerAnswer m request s = .gave t) (hcovers : RoleMapper.Covers m.mappable mappable)
    (hother : other.AssertsName) (hroles : request.containerRoles ⊆ other.containerRoles) :
    ∃ t', containerAnswer { m with mappable := mappable } other s' = .gave t' ∧
      t.authorities.toList ⊆ t'.authorities.toList := by
  obtain ⟨role, hrole, hadmits⟩ := (exists_containerAnswer_eq_gave h).1 ⟨t, ht⟩
  obtain ⟨t', ht'⟩ := (exists_containerAnswer_eq_gave (s := s') hother).2
    ⟨role, hroles hrole, RoleMapper.admits_of_covers hcovers hadmits⟩
  refine ⟨t', ht', fun a ha => ?_⟩
  have hgrants := (mem_authorities_container h ht).1 ha
  exact (mem_authorities_container hother ht').2 (hgrants.mono hcovers hroles)

/-- **Roles are mapped as a set, within bounds.**

Batches of asserted roles come to their concatenation. The set of authorities granted, or the error,
depends on the asserted roles as a set, and something is granted exactly if one of them is mappable.
What is granted is what the mapper makes of the mappable ones, hence under its mark. Further roles,
or further mappable ones, take no authority away. And without upper case, mapping what was granted
once more, with every role mappable, changes nothing. -/
theorem container_roles_as_set (m : RoleMapper) {request : Token} (h : request.AssertsName)
    (s : σ) :
    (∀ (d : Details) (batches : List (List String)),
      (request.withDetails (batches.foldl Details.addRoles d)).containerRoles =
        d.roles ++ batches.flatten) ∧
    (∀ (other : Token) (s' : σ), other.AssertsName →
      (∀ role, role ∈ other.containerRoles ↔ role ∈ request.containerRoles) →
      (containerAnswer m other s').granted? = (containerAnswer m request s).granted?) ∧
    ((∃ t, containerAnswer m request s = .gave t) ↔
      ∃ role ∈ request.containerRoles, m.admits role = true) ∧
    ((∀ role ∈ request.containerRoles, m.admits role = false) →
      containerAnswer m request s = .failed noGrants) ∧
    ∀ t, containerAnswer m request s = .gave t →
      (∀ a, a ∈ t.authorities.toList ↔
        ∃ role ∈ request.containerRoles, m.admits role = true ∧ a = m.authority role) ∧
      (∀ a ∈ t.authorities.toList, Text.startsWith m.mark a = true) ∧
      (∀ mappable (other : Token) (s' : σ), RoleMapper.Covers m.mappable mappable →
        other.AssertsName → request.containerRoles ⊆ other.containerRoles →
        ∃ t', containerAnswer { m with mappable := mappable } other s' = .gave t' ∧
          t.authorities.toList ⊆ t'.authorities.toList) ∧
      (m.uppercase = false →
        ({ m with mappable := none } : RoleMapper).map t.authorities.toList =
          t.authorities.toList) := by
  refine ⟨request.containerRoles_addRoles, fun other s' hother => granted?_congr h hother,
    exists_containerAnswer_eq_gave h, containerAnswer_eq_failed h, fun t ht => ?_⟩
  have hmark : ∀ a ∈ t.authorities.toList, Text.startsWith m.mark a = true :=
    fun a ha => ((mem_authorities_container h ht).1 ha).startsWith
  refine ⟨fun a => mem_authorities_container h ht, hmark, ?_, fun hupper => ?_⟩
  · intro mappable other s' hcovers hother hroles
    exact exists_containerAnswer_superset h ht hcovers hother hroles
  · exact RoleMapper.map_of_startsWith hupper rfl hmark

/-- Roles in two orders and different batches, one of them under the mark and one not mappable; then
all of them mappable, and a further one. -/
theorem container_roles_as_set_carol :
    let m : RoleMapper := { mappable := some ["admin", "ROLE_ops"] }
    let asking (batches : List (List String)) : Token :=
      (Token.preAuthenticated "carol" .absent).withDetails (batches.foldl Details.addRoles {})
    let answer (batches : List (List String)) : Answer := containerAnswer m (asking batches) ()
    ∃ t, answer [["admin", "guest"], ["ROLE_ops"]] = .gave t ∧
      t.authorities.toList = ["ROLE_admin", "ROLE_ops"] ∧
      (answer [["ROLE_ops"], [], ["admin", "guest", "admin"]]).granted? =
        (answer [["admin", "guest"], ["ROLE_ops"]]).granted? ∧
      ∃ t', containerAnswer { m with mappable := none }
          (asking [["ROLE_ops", "guest"], ["auditor", "admin"]]) () = .gave t' ∧
        t.authorities.toList ⊆ t'.authorities.toList := by
  intro m asking answer
  have hasks : ∀ batches, (asking batches).AssertsName := by
    intro batches
    exact ⟨rfl, (by decide : Text.isBlank "carol" = false)⟩
  obtain ⟨-, hset, hgave, -, hbounds⟩ :=
    container_roles_as_set m (hasks [["admin", "guest"], ["ROLE_ops"]]) ()
  obtain ⟨t, ht⟩ := hgave.2 ⟨"admin", by decide, by decide⟩
  obtain ⟨-, -, hmore, -⟩ := hbounds t ht
  refine ⟨t, ht, ?_, hset _ () (hasks _) ?_, hmore none _ () trivial (hasks _) (by decide)⟩
  · obtain ⟨-, rfl⟩ := (containerAnswer_eq_gave (hasks _)).1 ht
    decide
  · intro role
    change role ∈ ["ROLE_ops", "admin", "guest", "admin"] ↔ role ∈ ["admin", "guest", "ROLE_ops"]
    simp only [List.mem_cons, List.not_mem_nil, or_false]
    tauto

end PreAuthenticatedProvider

end Admission
