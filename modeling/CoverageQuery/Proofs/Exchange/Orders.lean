import CoverageQuery.Exchange
import CoverageQuery.Proofs.Operator
import CoverageQuery.Proofs.Steps
import Mathlib.Data.List.Forall2

/-!
# Orders over one channel

Queries and requests are carried out one after the other over one channel, whose answers may depend
on all that it has received before. An order that is malformed is refused and leaves the channel
alone. Every other order is sent once, and its response is the reply to its own message.
-/

namespace CoverageQuery

theorem Query.renderAs_eq_error_iff (q : Query) {format : Option String} {error : QueryError} :
    q.renderAs format = .error error ↔
      ∃ name, format = some name ∧ (∀ f ∈ OutputFormat.all, f.name ≠ name) ∧
        error = .unknownFormat name := by
  cases format with
  | none => simp [renderAs]
  | some name =>
    rw [renderAs, bind_pure_eq_error_iff, OutputFormat.known_eq_error_iff,
      OutputFormat.ofName?_eq_none_iff]
    simp

/-- What a response says about the reply that it is the response to: that there are these bytes, or
that there is this failure. -/
inductive Response.Conveys : Response → Reply → Prop
  | success (bytes : List UInt8) : Conveys (.success bytes) (.ok bytes)
  | failure (f : Failure) : Conveys (.failure f) (.error f)

theorem Response.conveys_ofReply (reply : Reply) : (ofReply reply).Conveys reply := by
  cases reply with
  | ok bytes => exact .success bytes
  | error f => exact .failure f

/-- An errand with the parameters that it is carried out with. -/
structure Order where
  params : ServiceParams
  errand : Errand

namespace Order

/-- Why an order is refused: the format of a query is not in the table, or a request is not
valid. -/
inductive Refused : Order → QueryError → Prop
  | format {params : ServiceParams} {q : Query} {name : String}
      (h : ∀ f ∈ OutputFormat.all, f.name ≠ name) :
      Refused ⟨params, .execute q (some name)⟩ (.unknownFormat name)
  | request {params : ServiceParams} {r : ServiceRequest} {error : QueryError}
      (h : r.validate = .error error) : Refused ⟨params, .send r⟩ error

/-- What an order sends: the text of a query in its format, or a request as it is. -/
inductive Sends : Order → Message → Prop
  | query {params : ServiceParams} {q : Query} {format : Option String} {text : String}
      (h : q.renderAs format = .ok text) :
      Sends ⟨params, .execute q format⟩ (.query params text)
  | request {params : ServiceParams} {r : ServiceRequest} (h : r.validate = .ok ()) :
      Sends ⟨params, .send r⟩ (.request params r)

variable {o : Order} {m : Message} {error : QueryError}

theorem refused_iff : o.Refused error ↔ o.errand.message o.params = .error error := by
  obtain ⟨params, errand⟩ := o
  cases errand with
  | execute q format =>
    rw [Errand.message, bind_eq_error_iff, q.renderAs_eq_error_iff]
    constructor
    · rintro ⟨h⟩
      exact .inl ⟨_, rfl, h, rfl⟩
    · rintro (⟨name, rfl, h, rfl⟩ | ⟨text, -, h⟩)
      · exact .format h
      · cases h
  | send r =>
    rw [Errand.message, bind_eq_error_iff]
    constructor
    · intro h
      cases h with
      | request h => exact .inl h
    · rintro (h | ⟨_, -, h⟩)
      · exact .request h
      · cases h

theorem sends_iff : o.Sends m ↔ o.errand.message o.params = .ok m := by
  obtain ⟨params, errand⟩ := o
  cases errand with
  | execute q format =>
    rw [Errand.message, bind_eq_ok_iff]
    constructor
    · rintro ⟨h⟩
      exact ⟨_, h, rfl⟩
    · rintro ⟨text, h, ⟨⟩⟩
      exact .query h
  | send r =>
    rw [Errand.message, bind_eq_ok_iff]
    constructor
    · intro h
      cases h with
      | request h => exact ⟨(), h, rfl⟩
    · rintro ⟨_, h, ⟨⟩⟩
      exact .request h

/-- No order is refused and sent, and one of the two is the case. -/
theorem sends_or_refused (o : Order) :
    (∃ m, o.Sends m ∧ ∀ error, ¬o.Refused error) ∨ ∃ error, o.Refused error ∧ ∀ m, ¬o.Sends m := by
  simp only [sends_iff, refused_iff]
  cases o.errand.message o.params <;> simp

theorem Refused.unique {error' : QueryError} (h : o.Refused error) (h' : o.Refused error') :
    error = error' := by
  rw [refused_iff] at h h'
  exact Except.error.inj (h.symm.trans h')

/-- Nothing speaks against the order. -/
def Accepted (o : Order) : Prop := ∀ error, ¬o.Refused error

instance : DecidablePred Accepted := fun o =>
  decidable_of_iff ((o.errand.message o.params).toOption.isSome = true) (by
    simp only [Accepted, refused_iff]
    cases o.errand.message o.params <;> simp [Except.toOption])

/-- The orders that are sent. -/
def accepted (orders : List Order) : List Order := orders.filter fun o => o.Accepted

theorem accepted_cons_of_accepted {o : Order} (h : o.Accepted) (orders : List Order) :
    accepted (o :: orders) = o :: accepted orders :=
  List.filter_cons_of_pos (decide_eq_true h)

theorem accepted_cons_of_refused {o : Order} {error : QueryError} (h : o.Refused error)
    (orders : List Order) : accepted (o :: orders) = accepted orders :=
  List.filter_cons_of_neg (by simpa using fun haccepted => haccepted error h)

end Order

namespace Channel

/-- Carries out one order after the other. -/
def performAll (c : Channel) : List Order → List (Except QueryError Response) × Channel
  | [] => ([], c)
  | o :: orders =>
    let first := c.perform o.params o.errand
    let rest := first.2.performAll orders
    (first.1 :: rest.1, rest.2)

variable {o : Order} {m : Message} {error : QueryError}

theorem perform_of_refused (c : Channel) (h : o.Refused error) :
    c.perform o.params o.errand = (.error error, c) := by
  rw [perform, Order.refused_iff.mp h]

theorem perform_of_sends (c : Channel) (h : o.Sends m) :
    c.perform o.params o.errand =
      (.ok (.ofReply (c.answer c.sent m)), { c with sent := m :: c.sent }) := by
  rw [perform, Order.sends_iff.mp h]
  rfl

theorem performAll_cons_of_refused (c : Channel) (h : o.Refused error) (orders : List Order) :
    c.performAll (o :: orders) =
      (.error error :: (c.performAll orders).1, (c.performAll orders).2) := by
  rw [performAll, perform_of_refused c h]

theorem performAll_cons_of_sends (c : Channel) (h : o.Sends m) (orders : List Order) :
    c.performAll (o :: orders) =
      (.ok (.ofReply (c.answer c.sent m)) ::
        (performAll { c with sent := m :: c.sent } orders).1,
        (performAll { c with sent := m :: c.sent } orders).2) := by
  rw [performAll, perform_of_sends c h]

/-- What becomes of the order at one place in a run, given the messages that the run sends: it is
refused with its own fault, or it has a response, which conveys the reply to its own message after
the messages of the orders before it. -/
def Settled (c : Channel) (log : List Message) (orders : List Order)
    (results : List (Except QueryError Response)) (i : Nat) (o : Order) : Prop :=
  (∀ error, results[i]? = some (.error error) ↔ o.Refused error) ∧
    (o.Accepted → ∃ before m after response, log = before ++ m :: after ∧
      before.length = (Order.accepted (orders.take i)).length ∧ o.Sends m ∧
      response.Conveys (c.answer (before.reverse ++ c.sent) m) ∧
      results[i]? = some (.ok response))

section Settled

variable {c : Channel} {first : Order} {log : List Message} {orders : List Order}
  {results : List (Except QueryError Response)} {i : Nat}

theorem settled_head_of_sends (h : o.Sends m) (haccepted : o.Accepted) :
    c.Settled (m :: log) (o :: orders) (.ok (.ofReply (c.answer c.sent m)) :: results) 0 o := by
  constructor
  · intro error
    exact ⟨nofun, fun hrefused => absurd hrefused (haccepted error)⟩
  · intro _
    exact ⟨[], m, log, _, rfl, rfl, h, Response.conveys_ofReply _, rfl⟩

theorem settled_head_of_refused (h : o.Refused error) :
    c.Settled log (o :: orders) (.error error :: results) 0 o := by
  constructor
  · intro error'
    rw [List.getElem?_cons_zero, Option.some_inj, Except.error.injEq]
    exact ⟨fun heq => heq ▸ h, h.unique⟩
  · intro haccepted
    exact absurd h (haccepted error)

theorem Settled.cons_of_sends {reply : Except QueryError Response} (haccepted : first.Accepted)
    (h : Settled { c with sent := m :: c.sent } log orders results i o) :
    c.Settled (m :: log) (first :: orders) (reply :: results) (i + 1) o := by
  obtain ⟨herror, hok⟩ := h
  refine ⟨herror, ?_⟩
  intro ho
  obtain ⟨before, own, after, response, rfl, hplace, hsends, hconveys, hresult⟩ := hok ho
  refine ⟨m :: before, own, after, response, rfl, ?_, hsends, ?_, hresult⟩
  · rw [List.take_succ_cons, Order.accepted_cons_of_accepted haccepted, List.length_cons,
      List.length_cons, hplace]
  · rw [List.reverse_cons, List.append_assoc]
    exact hconveys

theorem Settled.cons_of_refused {reply : Except QueryError Response}
    (hrefused : first.Refused error) (h : c.Settled log orders results i o) :
    c.Settled log (first :: orders) (reply :: results) (i + 1) o := by
  obtain ⟨herror, hok⟩ := h
  refine ⟨herror, ?_⟩
  intro ho
  obtain ⟨before, own, after, response, hlog, hplace, hown⟩ := hok ho
  refine ⟨before, own, after, response, hlog, ?_, hown⟩
  rw [List.take_succ_cons, Order.accepted_cons_of_refused hrefused, hplace]

end Settled

/-- However a channel answers, a run of orders sends one message for each order that is not refused,
in their order, and nothing else; the refused ones are those with a format that is not in the table
and the requests that are not valid, and every other order has the bytes or the failure of the reply
to its own message. The answers may depend on all that was sent, so the channel varies in the
induction on the orders. -/
theorem performAll_settled (c : Channel) (orders : List Order) :
    ∃ log : List Message, List.Forall₂ Order.Sends (Order.accepted orders) log ∧
      (c.performAll orders).2 = { c with sent := log.reverse ++ c.sent } ∧
      (c.performAll orders).1.length = orders.length ∧
      ∀ i o, orders[i]? = some o → c.Settled log orders (c.performAll orders).1 i o := by
  induction orders generalizing c with
  | nil =>
    refine ⟨[], .nil, rfl, rfl, ?_⟩
    intro i o ho
    simp at ho
  | cons first orders ih =>
    rcases first.sends_or_refused with ⟨m, hsends, haccepted⟩ | ⟨error, hrefused, -⟩
    · obtain ⟨log, hlog, hafter, hlength, hsettled⟩ := ih { c with sent := m :: c.sent }
      rw [performAll_cons_of_sends c hsends, Order.accepted_cons_of_accepted haccepted]
      refine ⟨m :: log, .cons hsends hlog, ?_, congrArg (· + 1) hlength, ?_⟩
      · simp [hafter]
      · intro i o ho
        cases i with
        | zero =>
          cases ho
          exact settled_head_of_sends hsends haccepted
        | succ i => exact (hsettled i o ho).cons_of_sends haccepted
    · obtain ⟨log, hlog, hafter, hlength, hsettled⟩ := ih c
      rw [performAll_cons_of_refused c hrefused, Order.accepted_cons_of_refused hrefused]
      refine ⟨log, hlog, hafter, congrArg (· + 1) hlength, ?_⟩
      intro i o ho
      cases i with
      | zero =>
        cases ho
        exact settled_head_of_refused hrefused
      | succ i => exact (hsettled i o ho).cons_of_refused hrefused

/-- A query in a format that is not in the table is refused and not sent. Then the first reply has
bytes and the second one is a failure, and so are the responses. -/
theorem performAll_settled_mixed :
    let c : Channel :=
      ⟨[], fun sent _ => if sent.isEmpty then .ok [80] else .error (.timeout none)⟩
    let p : ServiceParams := ⟨"http://localhost", "WCS", "2.0.1"⟩
    let q : Query := .ofCoverage ⟨["A"], "$c", none⟩
    let orders : List Order :=
      [⟨p, .execute q (some "bmp")⟩, ⟨p, .execute q none⟩, ⟨p, .send .capabilities⟩]
    (c.performAll orders).1[0]? = some (.error (.unknownFormat "bmp")) ∧
      (c.performAll orders).1[1]? = some (.ok (.success [80])) ∧
      (c.performAll orders).1[2]? = some (.ok (.failure (.timeout none))) ∧
      (c.performAll orders).2.sent.length = 2 := by
  intro c p q orders
  obtain ⟨log, hlog, hafter, -, hsettled⟩ := performAll_settled c orders
  refine ⟨?_, ?_, ?_, ?_⟩
  · exact ((hsettled 0 _ rfl).1 _).mpr (.format (by decide))
  · obtain ⟨before, m, after, response, -, hplace, -, hconveys, hresult⟩ :=
      (hsettled 1 _ rfl).2 (by decide +zetaReduce)
    obtain rfl : before = [] := List.length_eq_zero_iff.mp hplace
    cases hconveys
    exact hresult
  · obtain ⟨before, m, after, response, -, hplace, -, hconveys, hresult⟩ :=
      (hsettled 2 _ rfl).2 (by decide +zetaReduce)
    obtain ⟨first, rfl⟩ := List.length_eq_one_iff.mp hplace
    cases hconveys
    exact hresult
  · rw [hafter, List.append_nil, List.length_reverse, ← hlog.length_eq]
    rfl

end Channel

end CoverageQuery
