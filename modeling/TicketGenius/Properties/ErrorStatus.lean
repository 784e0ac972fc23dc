import Mathlib.Data.List.Infix
import TicketGenius.Entrypoints.Api
import TicketGenius.Entrypoints.ErrorHandlers
import TicketGenius.ServiceLayer.ConfirmationSpec

/-!
# The status of an error

The API should answer an exception by its kind: an entity that is missing with 404, a lost race with
409, any other domain exception with some problem document, and a `ValueError` with 400.  But of the
exceptions of Python itself only `ValueError` has an error handler, and no domain exception is one;
so every domain exception is an internal server error (`answer_domain`), also that of a request to
cancel an order that does not exist (`cancelMissing_answered`).  And the handler of `ValueError`
looks at the text of the exception (`answer_value`), which quotes what the client wrote
(`refundCurrency_answered`).  `followsKind_iff` puts the two together.
-/

namespace TicketGenius.ErrorStatus

open Api Framework

/-! ## The property -/

/-- An entity is missing. -/
def Missing (e : PyException) : Prop :=
  e.IsA .planNotFoundError ∨ e.IsA .orderNotFoundError ∨ e.IsA .paymentNotFoundError

/-- An exception is answered by its class. -/
structure FollowsKind (propagate : Bool) (path : String) (e : PyException) : Prop where
  missing : Missing e → (answer propagate path e).status = some 404
  conflict : e.IsA .optimisticLockError → (answer propagate path e).status = some 409
  problem : e.IsA .domainException → ¬ Missing e → ¬ e.IsA .optimisticLockError →
    ∃ status body, answer propagate path e = .document status body ∧ 400 ≤ status ∧ status < 600
  refused : e.IsA .valueError → (answer propagate path e).status = some 400

/-! ## The hierarchy of classes -/

section Classes

variable {cls base : ExceptionClass}

/-- A base class brings its own base classes with it. -/
lemma mro_subset (h : base ∈ cls.mro) : base.mro ⊆ cls.mro := by
  induction cls with
  | subclass name parent ih =>
    rcases List.mem_cons.mp h with rfl | hparent
    · exact List.Subset.refl _
    · exact List.Subset.trans (ih hparent) (List.subset_cons_self _ _)
  | exception | valueError | domainException | httpException code =>
    simp only [ExceptionClass.mro, List.mem_cons, List.not_mem_nil, or_false] at h
    rcases h with rfl | rfl <;> simp [ExceptionClass.mro]

/-- A domain exception is neither a `ValueError` nor an exception of HTTP. -/
lemma domain_apart (h : .domainException ∈ cls.mro) : .valueError ∉ cls.mro ∧ cls.code = none := by
  induction cls with
  | subclass name parent ih =>
    have hparent : .domainException ∈ parent.mro := (List.mem_cons.mp h).resolve_left nofun
    obtain ⟨hvalue, hcode⟩ := ih hparent
    refine ⟨fun hmem => ?_, hcode⟩
    exact hvalue ((List.mem_cons.mp hmem).resolve_left nofun)
  | domainException => exact ⟨by decide, rfl⟩
  | exception | valueError | httpException code => simp [ExceptionClass.mro] at h

/-- A `ValueError` is no exception of HTTP. -/
lemma code_of_value (h : .valueError ∈ cls.mro) : cls.code = none := by
  induction cls with
  | subclass name parent ih => exact ih ((List.mem_cons.mp h).resolve_left nofun)
  | valueError => rfl
  | exception | domainException | httpException code => simp [ExceptionClass.mro] at h

end Classes

/-! ## The handlers that are found -/

/-- The only handler that is registered for a class. -/
def valueErrorHandler : ErrorHandler := ⟨none, .valueError, handleValueError⟩

lemma find_errorHandlers (cls : ExceptionClass) :
    (errorHandlers.find? fun handler => handler.code = none ∧ handler.cls = cls) =
      if cls = .valueError then some valueErrorHandler else none := by
  by_cases hcls : cls = .valueError
  · subst hcls
    rfl
  · simp [errorHandlers, hcls, Ne.symm hcls]

lemma findAlong_of_mem {mro : List ExceptionClass} (h : .valueError ∈ mro) :
    findAlong none mro = some valueErrorHandler := by
  unfold findAlong
  simp only [find_errorHandlers]
  induction mro with
  | nil => cases h
  | cons cls mro ih =>
    by_cases hcls : cls = .valueError
    · simp [hcls]
    · have hrest := ih ((List.mem_cons.mp h).resolve_left (Ne.symm hcls))
      simpa [List.findSome?_cons, hcls] using hrest

lemma findAlong_of_notMem {mro : List ExceptionClass} (h : .valueError ∉ mro) :
    findAlong none mro = none := by
  refine List.findSome?_eq_none_iff.mpr fun cls hcls => ?_
  have hne : cls ≠ .valueError := fun heq => h (heq ▸ hcls)
  rw [find_errorHandlers, if_neg hne]

lemma findAlong_mem {code : Option ℕ} {mro : List ExceptionClass} {handler : ErrorHandler}
    (h : findAlong code mro = some handler) : handler ∈ errorHandlers := by
  obtain ⟨cls, -, hfind⟩ := List.exists_of_findSome?_eq_some h
  exact List.mem_of_find?_eq_some hfind

lemma findErrorHandler_mem {cls : ExceptionClass} {handler : ErrorHandler}
    (h : findErrorHandler cls = some handler) : handler ∈ errorHandlers := by
  unfold findErrorHandler at h
  split at h
  · rcases Option.or_eq_some_iff.mp h with hcode | ⟨-, hnone⟩
    · exact findAlong_mem hcode
    · exact findAlong_mem hnone
  · exact findAlong_mem h

section Answers

variable {propagate : Bool} {path : String} {e : PyException}

/-- Every handler writes its status and the path of the request into the document. -/
lemma respond_document {handler : ErrorHandler} (h : handler ∈ errorHandlers) {status : ℕ}
    {body : ErrorResponse} (heq : handler.respond path e = .document status body) :
    body.status = status ∧ body.instance = some path := by
  simp only [errorHandlers, List.mem_cons, List.not_mem_nil, or_false] at h
  rcases h with rfl | rfl | rfl | rfl
  · cases heq
    exact ⟨rfl, rfl⟩
  · cases heq
    exact ⟨rfl, rfl⟩
  · cases heq
    exact ⟨rfl, rfl⟩
  · simp only [handleValueError] at heq
    split at heq <;> cases heq <;> exact ⟨rfl, rfl⟩

/-- **A problem document tells the status of its response.** -/
theorem answer_document {status : ℕ} {body : ErrorResponse}
    (h : answer propagate path e = .document status body) :
    body.status = status ∧ body.instance = some path := by
  unfold answer at h
  split at h
  next handler hfound => exact respond_document (findErrorHandler_mem hfound) h
  next =>
    split at h
    · exact absurd h nofun
    · unfold handleException at h
      split at h
      · exact absurd h nofun
      · split at h
        next handler hfound => exact respond_document (findErrorHandler_mem hfound) h
        next => exact absurd h nofun

/-- **A domain exception finds no handler.** -/
theorem answer_domain (h : e.IsA .domainException) :
    answer propagate path e = handleException propagate path := by
  obtain ⟨hvalue, hcode⟩ := domain_apart h
  have hnone : findErrorHandler e.cls = none := by
    rw [findErrorHandler, hcode]
    exact findAlong_of_notMem hvalue
  rw [answer, hnone, hcode]

/-- The internal server error finds one. -/
lemma handleException_false (path : String) :
    handleException false path = internalError path internalServerError := rfl

/-- **A `ValueError` is answered by its text.** -/
theorem answer_value (h : e.IsA .valueError) :
    answer propagate path e = handleValueError path e := by
  have hfound : findErrorHandler e.cls = some valueErrorHandler := by
    rw [findErrorHandler, code_of_value h]
    exact findAlong_of_mem h
  rw [answer, hfound]
  rfl

lemma status_domain (h : e.IsA .domainException) :
    (answer propagate path e).status = if propagate then none else some 500 := by
  rw [answer_domain h]
  cases propagate <;> rfl

lemma status_value (h : e.IsA .valueError) :
    (answer propagate path e).status = if mentionsNotFound e.text then some 404 else some 400 := by
  rw [answer_value h, handleValueError]
  split <;> rfl

end Answers

/-! ## The four classes with a status of their own -/

section Classified

variable {propagate : Bool} {path : String} {e : PyException}

lemma isA_trans {cls base : ExceptionClass} (h : e.IsA cls) (hbase : base ∈ cls.mro) :
    e.IsA base :=
  mro_subset h hbase

lemma Missing.domain (h : Missing e) : e.IsA .domainException := by
  rcases h with h | h | h <;> exact isA_trans h (by decide)

lemma lock_domain (h : e.IsA .optimisticLockError) : e.IsA .domainException :=
  isA_trans h (by decide)

/-- No domain exception is answered with 404 or 409. -/
lemma status_domain_ne (h : e.IsA .domainException) {status : ℕ} (hne : status ≠ 500) :
    (answer propagate path e).status ≠ some status := by
  rw [status_domain h]
  split
  · exact nofun
  · exact fun heq => hne (Option.some.inj heq).symm

/-- A domain exception has a problem document unless it leaves the application. -/
lemma document_domain_iff (h : e.IsA .domainException) :
    (∃ status body, answer propagate path e = .document status body ∧ 400 ≤ status ∧ status < 600) ↔
      propagate = false := by
  rw [answer_domain h]
  constructor
  · rintro ⟨status, body, heq, -⟩
    by_contra hpropagate
    rw [Bool.not_eq_false] at hpropagate
    rw [handleException, if_pos hpropagate] at heq
    exact absurd heq nofun
  · rintro rfl
    exact ⟨500, _, handleException_false path, by omega, by omega⟩

/-- A `ValueError` is a bad request unless its text says that something was not found. -/
lemma refused_iff (h : e.IsA .valueError) :
    (answer propagate path e).status = some 400 ↔ mentionsNotFound e.text = false := by
  rw [status_value h]
  cases mentionsNotFound e.text <;> simp

/-- **An exception is answered by its class iff no handler is missing for it.**  It is none of the
four classes that have a status of their own; as another domain exception it does not leave the
application, and as a `ValueError` it does not say that something was not found. -/
theorem followsKind_iff :
    FollowsKind propagate path e ↔
      ¬ Missing e ∧ ¬ e.IsA .optimisticLockError ∧ (e.IsA .domainException → propagate = false) ∧
        (e.IsA .valueError → mentionsNotFound e.text = false) := by
  constructor
  · intro h
    have hmissing : ¬ Missing e := fun hm => status_domain_ne hm.domain (by omega) (h.missing hm)
    have hlock : ¬ e.IsA .optimisticLockError := fun hl =>
      status_domain_ne (lock_domain hl) (by omega) (h.conflict hl)
    refine ⟨hmissing, hlock, fun hdomain => ?_, fun hvalue => ?_⟩
    · exact (document_domain_iff hdomain).mp (h.problem hdomain hmissing hlock)
    · exact (refused_iff hvalue).mp (h.refused hvalue)
  · rintro ⟨hmissing, hlock, hdomain, hvalue⟩
    exact {
      missing := fun hm => absurd hm hmissing
      conflict := fun hl => absurd hl hlock
      problem := fun hd _ _ => (document_domain_iff hd).mpr (hdomain hd)
      refused := fun hv => (refused_iff hv).mpr (hvalue hv) }

/-- A missing order is an internal server error. -/
theorem order_not_followed : ¬ ∀ propagate path e, FollowsKind propagate path e := by
  intro h
  have hmissing := (h false "/api/v1/orders" (orderNotFoundError UUID.nil.str).raised).missing
    (.inr (.inl (by decide)))
  exact absurd hmissing (by decide)

end Classified

/-! ## Requests -/

/-- Whoever cancels an order that is not there is told of an internal server error. -/
theorem cancelMissing_answered {self : OrderCommandHandler} {cmd : CancelOrderCommand} {w : World}
    (h : w.orders.find cmd.orderId = none) (path : String) :
    (self.handleCancelOrder cmd).run World.handle w =
        .error (.domain (orderNotFoundError cmd.orderId.str)) w ∧
      (answer false path (orderNotFoundError cmd.orderId.str).raised).status = some 500 := by
  constructor
  · rw [OrderCommandHandler.handleCancelOrder, run_withUnitOfWork, OrderCommandHandler.cancelBody,
      Prog.run_bind_error _ _ (run_getOrder_none h)]
    rfl
  · have hmissing : Missing (orderNotFoundError cmd.orderId.str).raised :=
      .inr (.inl List.mem_cons_self)
    exact status_domain hmissing.domain

/-! ## The text of a client -/

lemma mentionsNotFound_iff {text : String} :
    mentionsNotFound text = true ↔
      ∃ before said after, text.toList = before ++ said ++ after ∧
        said.map Char.toLower = "not found".toList := by
  simp only [mentionsNotFound, List.any_eq_true, List.mem_tails, List.isPrefixOf_iff_prefix]
  constructor
  · rintro ⟨rest, hsuffix, hprefix⟩
    obtain ⟨before, after, hinfix⟩ := List.infix_iff_prefix_suffix.mpr ⟨rest, hprefix, hsuffix⟩
    obtain ⟨lead, after', htext, hlead, -⟩ := List.map_eq_append_iff.mp hinfix.symm
    obtain ⟨before', said, rfl, -, hsaid⟩ := List.map_eq_append_iff.mp hlead
    exact ⟨before', said, after', htext, hsaid⟩
  · rintro ⟨before, said, after, htext, hsaid⟩
    have hinfix : "not found".toList <:+: text.toList.map Char.toLower := by
      refine ⟨before.map Char.toLower, after.map Char.toLower, ?_⟩
      rw [htext, List.map_append, List.map_append, hsaid]
    obtain ⟨rest, hprefix, hsuffix⟩ := List.infix_iff_prefix_suffix.mp hinfix
    exact ⟨rest, hsuffix, hprefix⟩

/-- The characters `repr` may escape. -/
def escapable : List Char := ['\\', '\'', '"', '\n', '\r', '\t']

/-- None of them is a letter of "not found". -/
lemma escapable_apart : ∀ c ∈ escapable, c.toLower ∉ "not found".toList := by
  unfold escapable
  intro c hc
  simp only [List.mem_cons, List.not_mem_nil, or_false] at hc
  rcases hc with rfl | rfl | rfl | rfl | rfl | rfl <;> decide

/-- In quotes every other character stays itself. -/
lemma exists_quote (text : String) :
    ∃ q escape, Json.quote text = String.ofList (q :: text.toList.flatMap escape ++ [q]) ∧
      ∀ c ∉ escapable, escape c = [c] := by
  refine ⟨_, _, rfl, fun c hc => ?_⟩
  simp only [escapable, List.mem_cons, List.not_mem_nil, or_false, not_or] at hc
  obtain ⟨hbackslash, hsingle, hdouble, hnewline, hreturn, htab⟩ := hc
  rw [if_neg hbackslash, if_neg, if_neg hnewline, if_neg hreturn, if_neg htab]
  split
  · exact hdouble
  · exact hsingle

/-- A text says in quotes what it said before. -/
lemma mentionsNotFound_quote {text : String} (h : mentionsNotFound text = true) (rest : String) :
    mentionsNotFound (Json.quote text ++ rest) = true := by
  obtain ⟨before, said, after, htext, hsaid⟩ := mentionsNotFound_iff.mp h
  obtain ⟨q, escape, hquote, hescape⟩ := exists_quote text
  have hplain : said.flatMap escape = said := by
    have hself : ∀ c ∈ said, escape c = [c] := by
      intro c hc
      have hlower : c.toLower ∈ "not found".toList := hsaid ▸ List.mem_map_of_mem hc
      exact hescape c fun hmem => escapable_apart c hmem hlower
    rw [List.flatMap_congr hself, List.flatMap_singleton']
  refine mentionsNotFound_iff.mpr
    ⟨q :: before.flatMap escape, said, after.flatMap escape ++ [q] ++ rest.toList, ?_, hsaid⟩
  rw [hquote, String.toList_append, String.toList_ofList, htext, List.flatMap_append,
    List.flatMap_append, hplain]
  simp only [List.cons_append, List.append_assoc]

/-- **The currency a client writes decides between 400 and 404.** -/
theorem refundCurrency_answered {currency : String} (h : mentionsNotFound currency = true)
    (orderId : UUID) (amount : Decimal) (propagate : Bool) (path : String) :
    ∃ text, refundOrder orderId ⟨some ⟨amount, currency⟩⟩ = .error (.valueError text) ∧
      (answer propagate path ⟨.valueError, text⟩).status = some 404 := by
  have hmake : Currency.make currency =
      .error (.valueError (Json.quote currency ++ " is not a valid Currency")) := by
    unfold Currency.make
    split
    · exact absurd h (by decide)
    · exact absurd h (by decide)
    · exact absurd h (by decide)
    · rfl
  refine ⟨Json.quote currency ++ " is not a valid Currency", ?_, ?_⟩
  · simp only [refundOrder, hmake]
    rfl
  · rw [status_value List.mem_cons_self, mentionsNotFound_quote h, if_pos rfl]

end TicketGenius.ErrorStatus
