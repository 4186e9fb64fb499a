import ArrayWatch.CmcServer.Basic
import ArrayWatch.Dashboard.Basic

/-!
# Answers without credentials

Where user and password are configured, a request without them is answered by what can be read off
the request: whether its path leads anywhere, whether the parts of the path are texts, whether the
method is served, and that credentials are missing. What was published and what was counted plays
no part in it.

* `Response.withoutCredentials` is that answer, as a function of the request.
* `Dashboard.dispatch_of_not_admitted`: the dashboard gives it.
* `Dashboard.same_without_credentials`: two dashboards that differ in what they know cannot be told
  apart, and neither of them gives what was asked for.
-/

namespace ArrayWatch

/-! ## The answer -/

/-- The answer to a request that does not give the credentials. -/
def Response.withoutCredentials (r : HttpRequest) : Response :=
  match Route.ofTarget? r.target with
  | none => .notFound "no such route"
  | some route =>
    if r.method = "GET" ∨ r.method = "HEAD" then
      match route with
      | .error parameter => .badParameter parameter
      | .ok _ => .unauthorized
    else .methodNotAllowed

theorem Response.status_withoutCredentials (r : HttpRequest) :
    (withoutCredentials r).status ∈ [400, 401, 404, 405] := by
  unfold withoutCredentials
  cases Route.ofTarget? r.target with
  | none => simp [notFound]
  | some route =>
    dsimp only
    split
    · cases route with
      | error parameter => simp [badParameter]
      | ok route => simp [unauthorized]
    · simp [methodNotAllowed]

@[simp] theorem Response.status_headOnly (response : Response) :
    response.headOnly.status = response.status := rfl

/-! ## Who is admitted -/

/-- Where user and password are configured, only a header with both of them admits. -/
theorem DashboardConfig.admits_eq_false {c : DashboardConfig} (husername : c.username ≠ "")
    (hpassword : c.password ≠ "") {header : Option String}
    (hheader : ∀ text, header = some text →
      Credentials.decode? text.toList ≠ some c.credentials) :
    c.admits header = false := by
  have hprotected : c.isProtected = true := isProtected_iff.2 ⟨husername, hpassword⟩
  have haccepts : c.accepts header = false := by
    cases header with
    | none => rfl
    | some text => simpa [accepts] using hheader text rfl
  simp [admits, hprotected, haccepts]

namespace Dashboard

theorem dispatch_of_not_admitted {d : Dashboard} {r : HttpRequest}
    (h : d.config.admits r.authorization? = false) : d.dispatch r = .withoutCredentials r := by
  unfold dispatch Response.withoutCredentials
  cases Route.ofTarget? r.target with
  | none => rfl
  | some route =>
    cases route with
    | error parameter => rfl
    | ok route =>
      simp only [respondTo, handle_of_not_admitted h]
      rfl

theorem respond_eq (d : Dashboard) (r : HttpRequest) :
    d.respond r = if r.method = "HEAD" then (d.dispatch r).headOnly else d.dispatch r := rfl

theorem status_respond (d : Dashboard) (r : HttpRequest) :
    (d.respond r).status = (d.dispatch r).status := by
  rw [respond_eq]
  split
  · exact Response.status_headOnly _
  · rfl

/-- Someone who does not give the configured user and password gets the same answer whatever was
published and counted, and never what was asked for. It is the same also before its content is left
out for a request of the head only, so that a length of that content would tell nothing either. -/
theorem same_without_credentials {c : DashboardConfig} (husername : c.username ≠ "")
    (hpassword : c.password ≠ "") {r : HttpRequest}
    (hheader : ∀ text, r.authorization? = some text →
      Credentials.decode? text.toList ≠ some c.credentials)
    (s₁ s₂ : Snapshot) (m₁ m₂ : Metrics) :
    let d₁ : Dashboard := ⟨c, s₁, m₁⟩
    let d₂ : Dashboard := ⟨c, s₂, m₂⟩
    d₁.respond r = d₂.respond r ∧ d₁.dispatch r = d₂.dispatch r ∧ (d₁.respond r).status ≠ 200 := by
  intro d₁ d₂
  have hrefused : c.admits r.authorization? = false :=
    DashboardConfig.admits_eq_false husername hpassword hheader
  have h₁ : d₁.dispatch r = .withoutCredentials r := dispatch_of_not_admitted hrefused
  have h₂ : d₂.dispatch r = .withoutCredentials r := dispatch_of_not_admitted hrefused
  refine ⟨?_, h₁.trans h₂.symm, ?_⟩
  · rw [respond_eq, respond_eq, h₁, h₂]
  · rw [status_respond, h₁]
    intro hok
    have hstatus := Response.status_withoutCredentials r
    rw [hok] at hstatus
    exact absurd hstatus (by decide)

/-- A dashboard for the user `ops` with the password `secret`. -/
def guarded : DashboardConfig :=
  { DashboardConfig.default with username := "ops", password := "secret" }

/-- A snapshot of one CMC. -/
def oneCmcShown : Snapshot :=
  .ofServers ⟨1⟩ [.ofLink "cmc" CmcServer.defaultPort ⟨[], defaultEnginesPerHost⟩ 0 ⟨0, "cmc:7147"⟩]

/-- A request for the first CMC, by the user `ops` with a password. -/
def requestCmc (authorization : String) : HttpRequest :=
  ⟨"GET", "/api/cmcs/1", [("Authorization", authorization)]⟩

/-- With the password `wrong` one cannot tell whether there is a CMC. With the right one one can. -/
theorem same_without_credentials_wrongPassword :
    let wrong := requestCmc "Basic b3BzOndyb25n"
    let right := requestCmc "Basic b3BzOnNlY3JldA=="
    let shown : Dashboard := ⟨guarded, oneCmcShown, .zero⟩
    let empty : Dashboard := ⟨guarded, .empty ⟨0⟩, Metrics.zero.reconnected⟩
    guarded.username ≠ "" ∧ guarded.password ≠ "" ∧
      wrong.authorization?.bind (Credentials.decode? ·.toList) = some "ops:wrong".toList ∧
      shown.respond wrong = empty.respond wrong ∧ (shown.respond wrong).status = 401 ∧
      (shown.respond right).status = 200 ∧ (empty.respond right).status = 404 := by
  intro wrong right shown empty
  have hwrong : wrong.authorization? = some "Basic b3BzOndyb25n" := by decide +kernel
  have hdecoded : Credentials.decode? "Basic b3BzOndyb25n".toList = some "ops:wrong".toList := by
    decide +kernel
  have hheader : ∀ text, wrong.authorization? = some text →
      Credentials.decode? text.toList ≠ some guarded.credentials := by
    intro text htext
    obtain rfl := Option.some.inj (hwrong.symm.trans htext)
    rw [hdecoded]
    decide
  have husername : guarded.username ≠ "" := by decide
  have hpassword : guarded.password ≠ "" := by decide
  have hsame := (same_without_credentials husername hpassword hheader oneCmcShown (.empty ⟨0⟩) .zero
    Metrics.zero.reconnected).1
  refine ⟨husername, hpassword, ?_, hsame, ?_, ?_, ?_⟩
  · rw [hwrong]
    exact hdecoded
  all_goals decide +kernel

end Dashboard

end ArrayWatch
