import Earth2Sandbox.Http.AccessControl

/-!
# The bound on requests from one address

With keys not required, the limiter still takes its identity from the key of the request, which
nobody has checked.  `countP_forwarded` counts what one identity gets through from one address to
one route until the first window ends: as much as the capacity allows.  Each further identity gets
as much again, so that the bound holds for the address exactly when the requests of the window
share their identity or are few anyway (`forwarded_le_capacity_iff`).
-/

namespace Earth2Sandbox

lemma countP_add_countP_le {α : Type} {p q r : α → Bool} (hpq : ∀ x, p x = true → q x = false)
    (hp : ∀ x, p x = true → r x = true) (hq : ∀ x, q x = true → r x = true) (l : List α) :
    l.countP p + l.countP q ≤ l.countP r := by
  induction l with
  | nil => simp
  | cons x l ih =>
    simp only [List.countP_cons]
    have := hpq x
    have := hp x
    have := hq x
    grind

open InMemoryFixedWindowRateLimiter

section Library

variable [Library] {settings : Settings}

/-- The requests that come before the first window ends. -/
def ApiRequest.before (limit : ℚ) (request : ApiRequest) : Bool := request.now < limit

omit [Library] in
lemma responseTo_eq_forward {decision : RateLimitDecision} :
    responseTo decision = .forward ↔ decision.allowed = true := by
  unfold responseTo
  split <;> simp_all

lemma countP_forwarded (hrequired : settings.apiKeyRequired = false) (route identity : String)
    (start : ℚ) (requests : List ApiRequest) (windows : Windows)
    (hlimited : ∀ request ∈ requests, request.limited settings = true ∧
      request.routeSpec = route ∧ start ≤ request.now)
    (hordered : requests.Pairwise (·.now ≤ ·.now))
    (hopen : ∀ begun count, windows (identity, route) = some (begun, count) → start ≤ begun) :
    (decisions settings windows requests).countP (fun o =>
        o.1.before (start + settings.rateLimitWindowSeconds) &&
          (o.1.identity = identity && o.2 = .forward)) =
      min (settings.rateLimitCapacity - used windows (identity, route))
        (requests.countP fun request =>
          request.before (start + settings.rateLimitWindowSeconds) &&
            request.identity = identity) := by
  induction requests generalizing windows with
  | nil => simp [decisions, outputs]
  | cons request requests ih =>
    obtain ⟨⟨hlimit, rfl, hstart⟩, hrest⟩ := List.forall_mem_cons.mp hlimited
    obtain ⟨hfirst, hordered⟩ := List.pairwise_cons.mp hordered
    have hstep : dispatch settings windows request = _ := dispatch_authenticated (.inl hrequired)
    rw [if_pos hlimit] at hstep
    by_cases hbefore : request.now < start + settings.rateLimitWindowSeconds
    · by_cases hidentity : request.identity = identity
      · subst hidentity
        obtain ⟨hallowed, hused, hbegun⟩ := check_within settings.limiter request.now
          settings.rateLimitCapacity_ok settings.rateLimitWindowSeconds_ok
          (fun begun count hwindow => by
            have : start ≤ begun := hopen begun count hwindow
            change request.now < begun + settings.rateLimitWindowSeconds
            linarith)
        have ih := ih (dispatch settings windows request).2 hrest hordered ?_
        · have hforward : (dispatch settings windows request).1 = .forward ↔
              used windows (request.identity, request.routeSpec) < settings.rateLimitCapacity := by
            rw [hstep]
            exact responseTo_eq_forward.trans (by rw [hallowed]; exact decide_eq_true_iff)
          rw [← congrArg Prod.snd hstep] at hused
          simp only [decisions, outputs, List.countP_cons] at ih ⊢
          rw [ih, hused]
          change _ = min (settings.rateLimitCapacity - _) _
          have hroom : settings.limiter.capacity = settings.rateLimitCapacity := rfl
          simp only [ApiRequest.before, hbefore, hforward, hroom, decide_true, Bool.true_and,
            decide_eq_true_eq, if_true]
          split <;> omega
        · intro begun count hwindow
          rw [hstep] at hwindow
          rcases hbegun begun count hwindow with rfl | ⟨count', hwindow⟩
          · exact hstart
          · exact hopen begun count' hwindow
      · have hframe : (dispatch settings windows request).2 (identity, request.routeSpec) =
            windows (identity, request.routeSpec) :=
          dispatch_frame fun heq => hidentity (Prod.mk.inj heq).1.symm
        have ih := ih (dispatch settings windows request).2 hrest hordered (by rwa [hframe])
        simp only [decisions, outputs, List.countP_cons] at ih ⊢
        rw [ih]
        simp [hidentity, used, hframe]
    · -- the first window has ended, for this request and all later ones
      have hlate : ∀ later ∈ request :: requests,
          later.before (start + settings.rateLimitWindowSeconds) = false := by
        intro later hmem
        rcases List.mem_cons.mp hmem with rfl | hmem
        · simpa [ApiRequest.before] using hbefore
        · have := hfirst later hmem
          simp only [ApiRequest.before, decide_eq_false_iff_not, not_lt] at hbefore ⊢
          linarith
      rw [List.countP_eq_zero.mpr, List.countP_eq_zero.mpr, Nat.min_zero]
      · intro later hmem
        simp [hlate later hmem]
      · intro outcome hmem
        have : outcome.1 ∈ request :: requests := by
          rw [← map_fst_outputs (dispatch settings) windows (request :: requests)]
          exact List.mem_map_of_mem hmem
        simp [hlate _ this]

/-! ## The bound for an address -/

/-- The requests go to one limited route and come from one address, in the order of their
times. -/
structure OneAddress (settings : Settings) (requests : List ApiRequest) : Prop where
  limited : ∀ request ∈ requests, request.limited settings = true
  alike : ∀ request ∈ requests, ∀ other ∈ requests, request.method = other.method ∧
    request.path = other.path ∧ request.clientHost = other.clientHost ∧
    request.forwardedFor = other.forwardedFor
  ordered : requests.Pairwise (·.now ≤ ·.now)

/-- The requests of the window that the first one opens. -/
def inWindow (settings : Settings) (first : ApiRequest) (requests : List ApiRequest) :
    List ApiRequest :=
  requests.filter fun request => request.before (first.now + settings.rateLimitWindowSeconds)

/-- The requests that reach the handler within the window that the first one opens, when the
limiter has seen none before. -/
def forwardedInWindow (settings : Settings) (first : ApiRequest) (requests : List ApiRequest) :
    List (ApiRequest × AccessDecision) :=
  (decisions settings (fun _ => none) requests).filter fun o =>
    o.1.before (first.now + settings.rateLimitWindowSeconds) && o.2 = .forward

section OneAddress

variable {first : ApiRequest} {rest : List ApiRequest}

/-- Of the requests of one identity, as many reach the handler as the capacity allows. -/
lemma countP_identity (hrequired : settings.apiKeyRequired = false)
    (h : OneAddress settings (first :: rest)) (identity : String) :
    (decisions settings (fun _ => none) (first :: rest)).countP (fun o =>
        o.1.before (first.now + settings.rateLimitWindowSeconds) &&
          (o.1.identity = identity && o.2 = .forward)) =
      min settings.rateLimitCapacity ((inWindow settings first (first :: rest)).countP
        fun request => request.identity = identity) := by
  have hcount := countP_forwarded hrequired first.routeSpec identity first.now (first :: rest)
    (fun _ => none) ?_ h.ordered (by simp)
  · rw [hcount, inWindow, List.countP_filter]
    simp only [used, Option.map_none, Option.getD_none, Nat.sub_zero, Bool.and_comm]
  · intro request hmem
    obtain ⟨hmethod, hpath, -⟩ := h.alike request hmem first List.mem_cons_self
    refine ⟨h.limited request hmem, by rw [ApiRequest.routeSpec, hmethod, hpath]; rfl, ?_⟩
    rcases List.mem_cons.mp hmem with rfl | hmem
    · exact le_rfl
    · exact (List.pairwise_cons.mp h.ordered).1 request hmem

lemma length_forwardedInWindow (requests : List ApiRequest) :
    (forwardedInWindow settings first requests).length =
      (decisions settings (fun _ => none) requests).countP fun o =>
        o.1.before (first.now + settings.rateLimitWindowSeconds) && o.2 = .forward :=
  List.countP_eq_length_filter.symm

lemma countP_inWindow (settings : Settings) (first : ApiRequest) (p : ApiRequest → Bool)
    (requests : List ApiRequest) :
    (inWindow settings first requests).countP p =
      (decisions settings (fun _ => none) requests).countP fun o =>
        o.1.before (first.now + settings.rateLimitWindowSeconds) && p o.1 := by
  rw [inWindow, List.countP_filter]
  conv_lhs => rw [← map_fst_outputs (dispatch settings) (fun _ => none) requests, List.countP_map]
  simp only [decisions, Function.comp_def, Bool.and_comm]

omit [Library] in
lemma first_mem_inWindow : first ∈ inWindow settings first (first :: rest) := by
  refine List.mem_filter.mpr ⟨List.mem_cons_self, ?_⟩
  have : (1 : ℚ) ≤ settings.rateLimitWindowSeconds := by
    exact_mod_cast settings.rateLimitWindowSeconds_ok
  simp only [ApiRequest.before, decide_eq_true_eq]
  linarith

/-- When no identity exceeds the capacity, every request of the window reaches the handler. -/
lemma inWindow_le_forwarded (hrequired : settings.apiKeyRequired = false)
    (h : OneAddress settings (first :: rest))
    (hfew : ∀ identity, (inWindow settings first (first :: rest)).countP
      (fun request => request.identity = identity) ≤ settings.rateLimitCapacity) :
    (inWindow settings first (first :: rest)).length ≤
      (forwardedInWindow settings first (first :: rest)).length := by
  have hall : ∀ o ∈ decisions settings (fun _ => none) (first :: rest),
      o.1.before (first.now + settings.rateLimitWindowSeconds) = true → o.2 = .forward := by
    by_contra! hsome
    obtain ⟨o, hmem, hbefore, hrefused⟩ := hsome
    have hforwarded := countP_identity hrequired h o.1.identity
    rw [Nat.min_eq_right (hfew o.1.identity), countP_inWindow] at hforwarded
    have hsplit := countP_add_countP_le
      (p := fun o' : ApiRequest × AccessDecision =>
        o'.1.before (first.now + settings.rateLimitWindowSeconds) &&
          (o'.1.identity = o.1.identity && o'.2 = .forward))
      (q := fun o' => o'.1.before (first.now + settings.rateLimitWindowSeconds) &&
          (o'.1.identity = o.1.identity && o'.2 ≠ .forward))
      (r := fun o' => o'.1.before (first.now + settings.rateLimitWindowSeconds) &&
          o'.1.identity = o.1.identity)
      (by grind) (by grind) (by grind)
      (decisions settings (fun _ => none) (first :: rest))
    have hone : 0 < (decisions settings (fun _ => none) (first :: rest)).countP fun o' =>
        o'.1.before (first.now + settings.rateLimitWindowSeconds) &&
          (o'.1.identity = o.1.identity && o'.2 ≠ .forward) :=
      List.countP_pos_iff.mpr ⟨o, hmem, by simp [hbefore, hrefused]⟩
    omega
  have hlength := countP_inWindow settings first (fun _ => true) (first :: rest)
  rw [List.countP_true] at hlength
  rw [hlength, length_forwardedInWindow]
  refine List.countP_mono_left fun o hmem hbefore => ?_
  simp only [Bool.and_true] at hbefore
  simp [hbefore, hall o hmem hbefore]

/-- **The bound holds for an address exactly when its requests share an identity or are few.**
With keys not required, the requests of one address to one limited route that reach the handler
before the window of the first one ends are at most the capacity if and only if the requests of
that window are, or all of them have the identity of the first. -/
theorem forwarded_le_capacity_iff (settings : Settings)
    (hrequired : settings.apiKeyRequired = false)
    (first : ApiRequest) (rest : List ApiRequest) (h : OneAddress settings (first :: rest)) :
    (forwardedInWindow settings first (first :: rest)).length ≤ settings.rateLimitCapacity ↔
      (inWindow settings first (first :: rest)).length ≤ settings.rateLimitCapacity ∨
        ∀ request ∈ inWindow settings first (first :: rest), request.identity = first.identity := by
  have hcapacity := settings.rateLimitCapacity_ok
  constructor
  · intro hbound
    by_contra! hmany
    obtain ⟨hlong, other, hother, hne⟩ := hmany
    by_cases hfew : ∀ identity, (inWindow settings first (first :: rest)).countP
        (fun request => request.identity = identity) ≤ settings.rateLimitCapacity
    · have := inWindow_le_forwarded hrequired h hfew
      omega
    · -- one identity fills the capacity, and another one gets something through
      simp only [not_forall, not_le] at hfew
      obtain ⟨identity, hfull⟩ := hfew
      obtain ⟨request, hmem, hrequest⟩ : ∃ request ∈ inWindow settings first (first :: rest),
          request.identity ≠ identity := by
        by_cases hidentity : first.identity = identity
        · exact ⟨other, hother, fun heq => hne (heq.trans hidentity.symm)⟩
        · exact ⟨first, first_mem_inWindow, hidentity⟩
      have hone : 0 < (inWindow settings first (first :: rest)).countP
          fun request' => request'.identity = request.identity :=
        List.countP_pos_iff.mpr ⟨request, hmem, by simp⟩
      have hfirst := countP_identity hrequired h identity
      have hsecond := countP_identity hrequired h request.identity
      have hsplit := countP_add_countP_le
        (p := fun o : ApiRequest × AccessDecision =>
          o.1.before (first.now + settings.rateLimitWindowSeconds) &&
            (o.1.identity = identity && o.2 = .forward))
        (q := fun o => o.1.before (first.now + settings.rateLimitWindowSeconds) &&
            (o.1.identity = request.identity && o.2 = .forward))
        (r := fun o => o.1.before (first.now + settings.rateLimitWindowSeconds) &&
            o.2 = .forward)
        (by simp +contextual [hrequest.symm]) (by simp +contextual) (by simp +contextual)
        (decisions settings (fun _ => none) (first :: rest))
      rw [length_forwardedInWindow] at hbound
      omega
  · rintro (hshort | hshared)
    · rw [length_forwardedInWindow]
      have hlength := countP_inWindow settings first (fun _ => true) (first :: rest)
      rw [List.countP_true] at hlength
      rw [hlength] at hshort
      refine le_trans (List.countP_mono_left fun o _ ho => ?_) hshort
      simp only [Bool.and_eq_true] at ho ⊢
      exact ⟨ho.1, trivial⟩
    · rw [length_forwardedInWindow]
      have hfirst := countP_identity hrequired h first.identity
      rw [List.countP_congr (q := fun o : ApiRequest × AccessDecision =>
        o.1.before (first.now + settings.rateLimitWindowSeconds) &&
          (o.1.identity = first.identity && o.2 = .forward)), hfirst]
      · exact Nat.min_le_left _ _
      · intro o hmem
        have hsame : o.1.before (first.now + settings.rateLimitWindowSeconds) = true →
            o.1.identity = first.identity := by
          intro hbefore
          refine hshared o.1 (List.mem_filter.mpr ⟨?_, hbefore⟩)
          rw [← map_fst_outputs (dispatch settings) (fun _ => none) (first :: rest)]
          exact List.mem_map_of_mem hmem
        simp only [Bool.and_eq_true, decide_eq_true_eq]
        exact ⟨fun ⟨hbefore, hforward⟩ => ⟨hbefore, hsame hbefore, hforward⟩,
          fun ⟨hbefore, _, hforward⟩ => ⟨hbefore, hforward⟩⟩

end OneAddress

end Library

section MadeUpKeys

/-- Rate limiting without keys. -/
def openService : Settings :=
  { twoKeys with apiKeyRequired := false, apiKeys := none }

/-- The digests of two keys that are not configured. -/
local instance madeUpDigests : Library := .ofDigests
  [(encodeUtf8 "a", "ca978112ca1bbdcafac231b39a23dc4da786eff8147c4e72b9807785afee48bb"),
    (encodeUtf8 "b", "3e23e8160039594a33894f6564e1b1348bbd7a0088d42c4acb73eeaed59c009d")]

/-- Two requests of one address within a second, each with a key of its own making. -/
lemma madeUpKeys_oneAddress :
    OneAddress openService [pointRequest (some "a") 0, pointRequest (some "b") 1] :=
  ⟨by decide +kernel, by decide +kernel, by decide +kernel⟩

/-- With one key of its own making an address gets one of two requests through. -/
theorem sharedKey_bound :
    (inWindow openService (pointRequest (some "a") 0)
        [pointRequest (some "a") 0, pointRequest (some "a") 1]).length = 2 ∧
      (forwardedInWindow openService (pointRequest (some "a") 0)
        [pointRequest (some "a") 0, pointRequest (some "a") 1]).length ≤ 1 := by
  have hone : OneAddress openService [pointRequest (some "a") 0, pointRequest (some "a") 1] :=
    ⟨by decide +kernel, by decide +kernel, by decide +kernel⟩
  exact ⟨by decide +kernel,
    (forwarded_le_capacity_iff openService rfl _ _ hone).mpr (.inr (by decide +kernel))⟩

/-- With a capacity of one, both requests reach the handler. -/
theorem madeUpKeys_evade :
    OneAddress openService [pointRequest (some "a") 0, pointRequest (some "b") 1] ∧
      configuredApiKeys openService = [] ∧
      ¬ (forwardedInWindow openService (pointRequest (some "a") 0)
          [pointRequest (some "a") 0, pointRequest (some "b") 1]).length ≤
        openService.rateLimitCapacity :=
  ⟨madeUpKeys_oneAddress, by decide +kernel, by decide +kernel⟩

end MadeUpKeys

end Earth2Sandbox
