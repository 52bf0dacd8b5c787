import Admission.Proofs.Provider.Answers

/-!
# Secrets in answers

The answer of a standard provider owes to a presented secret only what comparisons say of it
(`Comparison`), and `StandardProvider.RestsOn` says which: a password is compared with the stored
one of a user who may be used, a signature with that of the name. The comparison with the stand-in
for an unknown user is not among them, for its outcome is dropped. A pre-authenticated provider
compares nothing.

If these comparisons say the same of two secrets, the provider does the same with both. The answers
differ at most in the credentials that a given token carries
(`StandardProvider.attempt_withCredentials`).
-/

namespace Admission

open Password (Encoder)

variable {σ : Type} {request t : Token} {c : Credentials} {refusal : String}

/-! ## Other credentials -/

/-- Credentials of one form, whatever the secrets. -/
inductive Credentials.SameForm : Credentials → Credentials → Prop
  | absent : SameForm .absent .absent
  | password (x y : String) : SameForm (.password x) (.password y)
  | keyHash (x y : String) : SameForm (.keyHash x) (.keyHash y)
  | ticket (x y : String) : SameForm (.ticket x) (.ticket y)

namespace Token

/-- The token with other credentials. -/
def withCredentials (t : Token) (c : Credentials) : Token :=
  { t with credentials := c }

@[simp] theorem kind_withCredentials : (t.withCredentials c).kind = t.kind := rfl

@[simp] theorem name_withCredentials : (t.withCredentials c).name = t.name := rfl

@[simp] theorem credentials_withCredentials : (t.withCredentials c).credentials = c := rfl

@[simp] theorem withoutCredentials_withCredentials :
    (t.withCredentials c).withoutCredentials = t.withoutCredentials := rfl

/-- Two tokens agree in everything but the secret of their credentials. -/
structure SameButSecret (a b : Token) : Prop where
  rest : a.withoutCredentials = b.withoutCredentials
  form : a.credentials.SameForm b.credentials

/-- The second token is the first with its own credentials. -/
theorem SameButSecret.eq_withCredentials {a b : Token} (h : a.SameButSecret b) :
    b = a.withCredentials b.credentials :=
  congrArg (fun t => t.withCredentials b.credentials) h.rest.symm

/-- A proven token carries the credentials of the request, whichever they are. -/
theorem provenFrom_withCredentials {principal : Principal} {authorities : List String} :
    (request.withCredentials c).provenFrom principal authorities =
      (request.provenFrom principal authorities).map fun t => t.withCredentials c := by
  cases authorities with
  | nil => simp [provenFrom, proven, Except.map]
  | cons a as => simp [provenFrom, proven, Except.map, withCredentials]

end Token

/-- The answer with other credentials in a token that is given. -/
def Answer.withCredentials : Answer → Credentials → Answer
  | gave t, c => gave (t.withCredentials c)
  | declined, _ => declined
  | failed e, _ => failed e

/-- The attempt with other credentials in a token that is given. What was done is the same. -/
def Attempt.withCredentials (a : Attempt) (c : Credentials) : Attempt :=
  { a with answer := a.answer.withCredentials c }

namespace Answer

variable {a : Answer}

/-- Whether an answer proves a request does not depend on credentials. -/
@[simp] theorem proven?_withCredentials :
    (a.withCredentials c).proven? = a.proven?.map fun t => t.withCredentials c := by
  cases a with
  | declined | failed => rfl
  | gave t =>
    show (if t.authenticated then some (t.withCredentials c) else none) =
      (if t.authenticated then some t else none).map fun t => t.withCredentials c
    split <;> rfl

/-- The error of an answer has no credentials. -/
@[simp] theorem error?_withCredentials : (a.withCredentials c).error? = a.error? := by
  cases a <;> rfl

/-- An answer made of a token with other credentials is the answer with other credentials. -/
theorem ofToken_map {x : Except TokenError Token} :
    ofToken refusal (x.map fun t => t.withCredentials c) =
      (ofToken refusal x).withCredentials c := by
  cases x <;> rfl

/-- The answer that grants a request, with other credentials. -/
theorem ofToken_provenFrom_withCredentials {principal : Principal} {authorities : List String} :
    ofToken refusal ((request.withCredentials c).provenFrom principal authorities) =
      (ofToken refusal (request.provenFrom principal authorities)).withCredentials c := by
  rw [Token.provenFrom_withCredentials, ofToken_map]

end Answer

/-! ## Comparisons -/

/-- A comparison that a secret is put to. -/
inductive Comparison
  /-- A password is compared with a stored one. -/
  | password (encoder : Encoder) (stored : String)
  /-- A signature is compared with that of a name. -/
  | signature (key : KeyedHash) (name : String)

namespace Comparison

/-- Whether a secret passes. -/
def passes : Comparison → String → Bool
  | password encoder stored, secret => encoder.accepts secret stored
  | signature key name, secret => key.verify name secret

/-- What a comparison says of the secret of credentials, if they have one. -/
def verdict (k : Comparison) (c : Credentials) : Option Bool :=
  c.secret?.map k.passes

end Comparison

/-- The comparisons on which the answer of a provider rests, the users being in a given state. -/
inductive StandardProvider.RestsOn (request : Token) (users : σ) :
    StandardProvider σ → Comparison → Prop
  | password {number : Nat} {p : PasswordProvider σ} {password : String} {u : User}
    (credentials : request.credentials = .password password)
    (found : (p.users.load request.name users).1 = .ok (some u)) (usable : u.Usable) :
    RestsOn request users (.password number p) (.password p.encoder u.password)
  | rememberMe {p : RememberMeProvider} {presented : String}
    (credentials : request.credentials = .keyHash presented) :
    RestsOn request users (.rememberMe p) (.signature p.key request.name)
  | anonymous {p : AnonymousProvider} {presented : String}
    (credentials : request.credentials = .keyHash presented) :
    RestsOn request users (.anonymous p) (.signature p.key request.name)

/-! ## Answers to other secrets -/

namespace PasswordProvider

variable {p : PasswordProvider σ} {s : Placeholder × σ} {x y : String} {u : User}

/-- Two passwords of which the comparison says the same are judged alike. -/
theorem judge_withCredentials
    (h : u.Usable → p.encoder.accepts x u.password = p.encoder.accepts y u.password) :
    p.judge (request.withCredentials c) y u = (p.judge request x u).withCredentials c := by
  unfold judge
  cases hpre : u.preCheck with
  | error e => rfl
  | ok _ =>
    simp only [h (User.preCheck_eq_ok.1 hpre)]
    cases p.encoder.accepts y u.password with
    | false => rfl
    | true =>
      cases u.postCheck with
      | error e => rfl
      | ok _ => exact congrArg (Attempt.mk · _) Answer.ofToken_provenFrom_withCredentials

/-- Two passwords of which the comparison with the stored one says the same are answered alike. -/
theorem attempt_withCredentials (form : request.credentials.SameForm c)
    (h : ∀ x u, request.credentials = .password x →
      (p.users.load request.name s.2).1 = .ok (some u) → u.Usable →
      (Comparison.password p.encoder u.password).verdict request.credentials =
        (Comparison.password p.encoder u.password).verdict c) :
    p.attempt (request.withCredentials c) s =
      ((p.attempt request s).1.withCredentials c, (p.attempt request s).2) := by
  unfold attempt
  simp only [Token.kind_withCredentials, Token.name_withCredentials,
    Token.credentials_withCredentials]
  by_cases hk : request.kind = .usernamePassword
  · simp only [hk, if_true]
    generalize request.credentials = presented at form h
    cases form with
    | absent | keyHash | ticket => rfl
    | password x y =>
      rcases hl : p.users.load request.name s.2 with ⟨_ | _ | u, users⟩
      · simp only [hl]
        rfl
      · simp only [hl]
        rfl
      · have hagree : u.Usable → p.encoder.accepts x u.password = p.encoder.accepts y u.password :=
          fun usable => Option.some.inj (h x u rfl (congrArg Prod.fst hl) usable)
        simp only [hl, judge_withCredentials hagree, Attempt.withCredentials]
  · simp only [hk, if_false]
    rfl

end PasswordProvider

namespace KeyedHash

variable {k : KeyedHash} {kind : TokenKind} {error : AuthError} {given : Answer}

/-- Two signatures of which the comparison says the same are answered alike. -/
theorem answer_withCredentials (form : request.credentials.SameForm c)
    (h : ∀ x, request.credentials = .keyHash x →
      (Comparison.signature k request.name).verdict request.credentials =
        (Comparison.signature k request.name).verdict c) :
    k.answer kind error (given.withCredentials c) (request.withCredentials c) =
      (k.answer kind error given request).withCredentials c := by
  unfold answer
  simp only [Token.kind_withCredentials, Token.name_withCredentials,
    Token.credentials_withCredentials]
  by_cases hk : request.kind = kind
  · simp only [hk, if_true]
    generalize request.credentials = presented at form h
    cases form with
    | absent | password | ticket => rfl
    | keyHash x y =>
      have hagree : k.verify request.name x = k.verify request.name y :=
        Option.some.inj (h x rfl)
      simp only [hagree]
      by_cases hv : k.verify request.name y = true
      · simp only [hv, if_true]
      · simp only [hv]
        rfl
  · simp only [hk, if_false]
    rfl

end KeyedHash

namespace PreAuthenticatedProvider

variable {p : PreAuthenticatedProvider σ} {s : σ} {u : User}

/-- The account of an asserted name is judged without regard to credentials. -/
theorem judge_withCredentials :
    judge (request.withCredentials c) u = (judge request u).withCredentials c := by
  unfold judge
  cases u.check with
  | error e => rfl
  | ok _ => exact Answer.ofToken_provenFrom_withCredentials

/-- An asserted name is answered alike whatever credentials come with it. -/
theorem attempt_withCredentials : p.attempt (request.withCredentials c) s =
    ((p.attempt request s).1.withCredentials c, (p.attempt request s).2) := by
  have hresolve : p.resolve (request.withCredentials c) s = p.resolve request s := rfl
  unfold attempt
  simp only [Token.kind_withCredentials, Token.name_withCredentials, hresolve]
  split
  · split
    · rfl
    · rcases p.resolve request s with ⟨_ | u, notes, s'⟩
      · rfl
      · simp only [judge_withCredentials, Attempt.withCredentials]
  · rfl

end PreAuthenticatedProvider

namespace StandardProvider

variable {r : Realm σ}

/-- **A provider treats two secrets alike if the comparisons on which its answer rests do.** -/
theorem attempt_withCredentials (p : StandardProvider σ) (form : request.credentials.SameForm c)
    (hverdicts : ∀ k, p.RestsOn request r.users k → k.verdict request.credentials = k.verdict c) :
    p.provider.attempt (request.withCredentials c) r =
      ((p.provider.attempt request r).1.withCredentials c, (p.provider.attempt request r).2) := by
  cases p with
  | password number p =>
    have hattempt := p.attempt_withCredentials (s := Realm.forPassword number r) form
      fun _ _ credentials found usable => hverdicts _ (.password credentials found usable)
    simp only [provider, Provider.within, PasswordProvider.provider, hattempt]
  | rememberMe p =>
    have hanswer : p.answer (request.withCredentials c) =
        (p.answer request).withCredentials c := by
      rw [RememberMeProvider.answer_eq_signed, RememberMeProvider.answer_eq_signed,
        ← KeyedHash.answer_withCredentials form fun _ hx => hverdicts _ (.rememberMe hx),
        ← Answer.ofToken_provenFrom_withCredentials]
      rfl
    simp only [provider, RememberMeProvider.provider, hanswer, Attempt.withCredentials]
  | anonymous p =>
    have hanswer : p.answer (request.withCredentials c) =
        (p.answer request).withCredentials c := by
      rw [AnonymousProvider.answer_eq_signed, AnonymousProvider.answer_eq_signed,
        ← KeyedHash.answer_withCredentials form fun _ hx => hverdicts _ (.anonymous hx),
        ← Answer.ofToken_provenFrom_withCredentials]
      rfl
    simp only [provider, AnonymousProvider.provider, hanswer, Attempt.withCredentials]
  | preAuthenticated p =>
    have hattempt : p.attempt (request.withCredentials c) r.users =
        ((p.attempt request r.users).1.withCredentials c, (p.attempt request r.users).2) :=
      PreAuthenticatedProvider.attempt_withCredentials
    simp only [provider, Provider.within, PreAuthenticatedProvider.provider, hattempt]

end StandardProvider

end Admission
