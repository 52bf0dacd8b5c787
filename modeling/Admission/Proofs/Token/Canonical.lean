import Mathlib.Data.List.Sort
import Admission.Proofs.Account
import Admission.Proofs.Event.Reading

/-!
# Authorities are canonical

A set of authorities is determined by its members (`Authorities.ext_mem`): there is one strictly
ascending list of them. So sets made from two lists are equal exactly if the lists have the same
members (`Authorities.ofList_eq_iff`), however often and in whatever order.

There are two ways to prove a token from a list of authorities (`Token.Proving`), and either keeps
nothing of the list but its set (`Token.Proving.token_of_ne_nil`). Whoever looks at the token, its
text or the events that announce it sees the members in ascending order, each once.
-/

namespace Admission

namespace Authorities

variable {a b : Authorities} {xs ys : List String} {s : String}

/-- A set is determined by its members. -/
theorem ext_mem (h : ∀ s, s ∈ a.toList ↔ s ∈ b.toList) : a = b := by
  obtain ⟨l, hl⟩ := a
  obtain ⟨l', hl'⟩ := b
  cases hl.eq_of_mem_iff hl' h
  rfl

/-- Two lists make one set exactly if they have the same members. -/
theorem ofList_eq_iff : ofList xs = ofList ys ↔ ∀ s, s ∈ xs ↔ s ∈ ys := by
  constructor
  · intro h s
    rw [← mem_toList_ofList (l := xs), h, mem_toList_ofList]
  · intro h
    exact ext_mem fun s => by rw [mem_toList_ofList, mem_toList_ofList, h]

/-- A set made from a list contains what is in the list. -/
theorem contains_ofList : (ofList xs).contains s = true ↔ s ∈ xs := by
  rw [contains, List.contains_iff_mem, mem_toList_ofList]

end Authorities

namespace Token

/-! ## Ways to prove a token -/

/-- A way to prove a token from a list of authorities: out of its parts, or from a request. -/
inductive Proving
  | parts (kind : TokenKind) (principal : Principal) (credentials : Credentials)
  | request (request : Token) (principal : Principal)

namespace Proving

/-- The token that is proven with a list of authorities. -/
def token : Proving → List String → Except TokenError Token
  | parts kind principal credentials, authorities => proven kind principal credentials authorities
  | request r principal, authorities => r.provenFrom principal authorities

/-- The token with a set of authorities. -/
def withSet : Proving → Authorities → Token
  | parts kind principal credentials, set => ⟨kind, principal, credentials, set, none, true⟩
  | request r principal, set => ⟨r.kind, principal, r.credentials, set, r.details, true⟩

/-- Of a list of authorities, of which there must be one, the token keeps the set. -/
theorem token_of_ne_nil (way : Proving) {xs : List String} (h : xs ≠ []) :
    way.token xs = .ok (way.withSet (.ofList xs)) := by
  cases way with
  | parts kind principal credentials => simp [token, withSet, proven, h]
  | request r principal => exact provenFrom_eq_ok.2 ⟨h, rfl⟩

@[simp] theorem authorities_withSet (way : Proving) (a : Authorities) :
    (way.withSet a).authorities = a := by
  cases way <;> rfl

variable {way : Proving} {a b : Authorities} {e e' : Event}

/-- Tokens proven in one way are the same exactly if their sets are. -/
theorem sameAs_withSet : (way.withSet a).sameAs (way.withSet b) = true ↔ a = b := by
  cases way <;> simp [withSet, sameAs]

/-- The text of a proven token lists its set. -/
theorem display_withSet (way : Proving) (a : Authorities) :
    (way.withSet a).display = (way.withSet a).kind.display ++ ": Principal: " ++
      (way.withSet a).name ++ "; Credentials: [PROTECTED]; Authenticated: true" ++
      "; Granted Authorities: " ++ ", ".intercalate a.toList := by
  have hmark : toString true = "true" := rfl
  cases way <;> simp only [display, withSet, hmark, String.append_assoc] <;> rfl

/-- The log line of an event does not tell one set from another. -/
theorem logLine_withSet (hkind : e.kind = e'.kind) (herror : e.error = e'.error) :
    ({ e with token := way.withSet a } : Event).logLine =
      ({ e' with token := way.withSet b } : Event).logLine := by
  cases way <;> simp only [Event.logLine, hkind, herror] <;> rfl

/-- The JSON of an event lists the set of its token. -/
theorem authorities_read?_json (h : e.token = way.withSet a) :
    (Event.Shown.read? e.json).map Event.Shown.authorities = some a.toList := by
  rw [e.read?_json, Option.map_some, Event.shown, h, authorities_withSet]

/-- So it tells one set from another. -/
theorem json_withSet : ({ e with token := way.withSet a } : Event).json =
    ({ e with token := way.withSet b } : Event).json ↔ a = b := by
  refine ⟨fun h => ?_, fun h => by rw [h]⟩
  have hread : some a.toList = some b.toList := by
    rw [← authorities_read?_json (e := { e with token := way.withSet a }) rfl, h,
      authorities_read?_json rfl]
  exact Authorities.ext_mem fun s => by rw [Option.some.inj hread]

/-- **Authorities are canonical.**

Prove tokens from two lists of authorities in one way, out of the same parts or from the same
request. They are the same exactly if the lists have the same members, and then they have the same
text. Events of one type with one error have the same log line, and under one identifier and time
the same JSON exactly if the lists have the same members. Text and JSON list the members of the set
in strictly ascending order, and the token has an authority exactly if it is in the list. -/
theorem proven_canonical (way : Proving) {xs ys : List String} (hxs : xs ≠ []) (hys : ys ≠ []) :
    ∃ a b, way.token xs = .ok a ∧ way.token ys = .ok b ∧
      (a.sameAs b = true ↔ ∀ s, s ∈ xs ↔ s ∈ ys) ∧
      ((∀ s, s ∈ xs ↔ s ∈ ys) → a.display = b.display) ∧
      (∀ e e' : Event, e.kind = e'.kind → e.error = e'.error →
        ({ e with token := a } : Event).logLine = ({ e' with token := b } : Event).logLine) ∧
      (∀ e : Event, ({ e with token := a } : Event).json = ({ e with token := b } : Event).json ↔
        ∀ s, s ∈ xs ↔ s ∈ ys) ∧
      (∃ members : List String, members.Pairwise (· < ·) ∧ (∀ s, s ∈ members ↔ s ∈ xs) ∧
        a.display = a.kind.display ++ ": Principal: " ++ a.name ++
          "; Credentials: [PROTECTED]; Authenticated: true" ++ "; Granted Authorities: " ++
          ", ".intercalate members ∧
        ∀ e : Event, e.token = a →
          (Event.Shown.read? e.json).map Event.Shown.authorities = some members) ∧
      ∀ s, a.hasAuthority s = true ↔ s ∈ xs := by
  refine ⟨_, _, way.token_of_ne_nil hxs, way.token_of_ne_nil hys, ?_, ?_, ?_, ?_, ?_, ?_⟩
  · rw [sameAs_withSet, Authorities.ofList_eq_iff]
  · intro h
    rw [Authorities.ofList_eq_iff.2 h]
  · exact fun e e' => logLine_withSet
  · intro e
    rw [json_withSet, Authorities.ofList_eq_iff]
  · exact ⟨(Authorities.ofList xs).toList, (Authorities.ofList xs).ascending,
      fun s => Authorities.mem_toList_ofList, way.display_withSet _,
      fun e he => authorities_read?_json he⟩
  · intro s
    rw [hasAuthority, authorities_withSet, Authorities.contains_ofList]

/-- The roles of a login, out of order and repeated. -/
theorem proven_canonical_login :
    let request := (Token.usernamePassword "alice" "pw").withDetails { sessionId := some "a" }
    let way : Proving := .request request request.principal
    let roles : List String := ["ROLE_USER", "ROLE_ADMIN", "ROLE_USER"]
    let sorted : List String := ["ROLE_ADMIN", "ROLE_USER"]
    roles ≠ [] ∧ sorted ≠ [] ∧
      ∃ a b, way.token roles = .ok a ∧ way.token sorted = .ok b ∧ a.sameAs b = true ∧
        a.authorities.toList = sorted ∧ a.display = b.display ∧
        ∀ e : Event, ({ e with token := a } : Event).json =
          ({ e with token := b } : Event).json := by
  intro request way roles sorted
  have hroles : roles ≠ [] := List.cons_ne_nil _ _
  have hsorted : sorted ≠ [] := List.cons_ne_nil _ _
  have hmem : ∀ s, s ∈ roles ↔ s ∈ sorted := by
    intro s
    simp only [roles, sorted, List.mem_cons, List.not_mem_nil, or_false]
    tauto
  obtain ⟨a, b, ha, hb, hsame, hdisplay, -, hjson, -⟩ := proven_canonical way hroles hsorted
  have hlist : a.authorities.toList = sorted := by
    cases ha
    decide
  exact ⟨hroles, hsorted, a, b, ha, hb, hsame.2 hmem, hlist, hdisplay hmem,
    fun e => (hjson e).2 hmem⟩

end Proving

end Token

end Admission
