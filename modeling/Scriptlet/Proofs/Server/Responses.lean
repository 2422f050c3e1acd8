import Scriptlet.Proofs.Server.Documents

/-!
# Responses to requests

A message with an identifier is a request, unless its method is that of a notification, and it gets
one response with the same identifier. The object of a response has a result, or an error, but never
both. It has neither where the result is null, because null members are left out: that is so for
every shutdown, and for every question about a place without a word. A message without an identifier
gets no response, except that the first one of a conversation always does.
-/

namespace Scriptlet.Server

/-- The methods of notifications, which expect no response. -/
def notifications : List String :=
  ["initialized", "exit", "textDocument/didOpen", "textDocument/didChange",
    "textDocument/didClose"]

def Outbound.hasResult (sent : Outbound) : Bool :=
  (sent.toJson.member? "result").isSome

def Outbound.hasError (sent : Outbound) : Bool :=
  (sent.toJson.member? "error").isSome

/-- The requests whose result is null. -/
inductive Inbound.AsksForNull (documents : Documents) (message : Inbound) : Prop where
  | shutdown (named : message.method = text "shutdown") : AsksForNull documents message
  | noWord {position : Position} (named : message.method = text "textDocument/hover")
      (read : message.params.bind position? = some position)
      (noWord : Word.atPosition ((documents.get? position.uri).getD []) position.line
        position.character = []) : AsksForNull documents message

namespace Outbound

@[simp]
theorem member?_id_result (id value : Option Json) :
    (result id value).toJson.member? "id" = id := by
  rcases id with _ | id <;> rcases value with _ | value <;> rfl

@[simp]
theorem member?_id_error (id : Option Json) (code : Int) (wording : Text) :
    (error id code wording).toJson.member? "id" = id := by
  rcases id with _ | id <;> rfl

@[simp]
theorem hasResult_result (id value : Option Json) :
    (result id value).hasResult = value.isSome := by
  rcases id with _ | id <;> rcases value with _ | value <;> rfl

@[simp]
theorem hasError_result (id value : Option Json) : (result id value).hasError = false := by
  rcases id with _ | id <;> rcases value with _ | value <;> rfl

@[simp]
theorem hasResult_error (id : Option Json) (code : Int) (wording : Text) :
    (error id code wording).hasResult = false := by
  rcases id with _ | id <;> rfl

@[simp]
theorem hasError_error (id : Option Json) (code : Int) (wording : Text) :
    (error id code wording).hasError = true := by
  rcases id with _ | id <;> rfl

@[simp]
theorem hasResult_notification (method : Text) (params : Json) :
    (notification method params).hasResult = false :=
  rfl

@[simp]
theorem hasError_notification (method : Text) (params : Json) :
    (notification method params).hasError = false :=
  rfl

end Outbound

variable {documents : Documents} {message : Inbound} {id : Json}

theorem Inbound.AsksForNull.method (null : message.AsksForNull documents) :
    Method.ofName message.method = .shutdown ∨ Method.ofName message.method = .hover := by
  cases null with
  | shutdown named => exact .inl ((Method.ofName_eq_iff rfl).mpr named)
  | noWord named read noWord => exact .inr ((Method.ofName_eq_iff rfl).mpr named)

/-- What a request can be sent: null, another result, or an error. -/
inductive Response (documents : Documents) (message : Inbound) (id : Json) : Outbound → Prop where
  | null (asked : message.AsksForNull documents) :
      Response documents message id (.result (some id) none)
  | result (value : Json) (notNull : ¬message.AsksForNull documents) :
      Response documents message id (.result (some id) (some value))
  | error (code : Int) (wording : Text) (notNull : ¬message.AsksForNull documents) :
      Response documents message id (.error (some id) code wording)

theorem response_answerHover (isHover : Method.ofName message.method = .hover) :
    Response documents message id (answerHover documents id message.params) := by
  have named : message.method = text "textDocument/hover" :=
    (Method.ofName_eq_iff rfl).mp isHover
  -- Hovering is no shutdown, so null can only mean that there is no word.
  have noWord : message.AsksForNull documents → ∃ position,
      message.params.bind position? = some position ∧
        Word.atPosition ((documents.get? position.uri).getD []) position.line
          position.character = [] := by
    rintro (isShutdown | ⟨-, read, noWord⟩)
    · rw [named] at isShutdown
      exact absurd (text_injective isShutdown) (by decide)
    · exact ⟨_, read, noWord⟩
  unfold answerHover
  split
  · rename_i unread
    refine .error _ _ ?_
    intro null
    rcases noWord null with ⟨position, read, -⟩
    rw [unread] at read
    cases read
  · rename_i position read
    dsimp only
    split
    · rename_i empty
      exact .null (.noWord named read (List.isEmpty_iff.mp empty))
    · rename_i found
      refine .result _ ?_
      intro null
      rcases noWord null with ⟨other, alsoRead, noWord⟩
      rw [read, Option.some.injEq] at alsoRead
      subst alsoRead
      exact found (List.isEmpty_iff.mpr noWord)

theorem response_handle (documents : Documents) (identified : message.id = some id)
    (isRequest : message.method ∉ notifications.map text) :
    ∃ response, (handle documents message).2 = [response] ∧
      Response documents message id response := by
  have notNull (known : Method.ofName message.method ≠ .shutdown ∧
      Method.ofName message.method ≠ .hover) : ¬message.AsksForNull documents := by
    intro null
    rcases null.method with isShutdown | isHover
    · exact known.1 isShutdown
    · exact known.2 isHover
  have noNotification : ∀ method ∈ [Method.silent, .didOpen, .didChange, .didClose],
      Method.ofName message.method ≠ method := by
    have among : ∀ method ∈ [Method.silent, .didOpen, .didChange, .didClose],
        method ≠ .unknown ∧ method.names ⊆ notifications := by decide
    intro method member named
    rcases among method member with ⟨known, among⟩
    exact isRequest (List.map_subset text among ((Method.ofName_eq_iff_mem known).mp named))
  cases method : Method.ofName message.method with
  | start =>
      refine ⟨.result message.id (some capabilities), by simp [handle, method], ?_⟩
      rw [identified]
      exact .result _ (notNull (by simp [method]))
  | shutdown =>
      have named := (Method.ofName_eq_iff rfl).mp method
      exact ⟨_, by simp [handle, method, answer, identified], .null (.shutdown named)⟩
  | completion =>
      exact ⟨_, by simp [handle, method, answer, identified],
        .result completions (notNull (by simp [method]))⟩
  | hover =>
      exact ⟨_, by simp [handle, method, answer, identified], response_answerHover method⟩
  | unknown =>
      exact ⟨_, by simp [handle, method, answer, identified],
        .error (-32601) (text "method not found") (notNull (by simp [method]))⟩
  | silent => exact absurd method (noNotification _ (by decide))
  | didOpen => exact absurd method (noNotification _ (by decide))
  | didChange => exact absurd method (noNotification _ (by decide))
  | didClose => exact absurd method (noNotification _ (by decide))

theorem noResponse_handle (anonymous : message.id = none)
    (noStart : message.method ≠ text "initialize") :
    ∀ sent ∈ (handle documents message).2, sent.hasResult = false ∧ sent.hasError = false := by
  cases method : Method.ofName message.method with
  | start =>
      exact absurd ((Method.ofName_eq_iff rfl).mp method) noStart
  | silent => simp [handle, method]
  | shutdown => simp [handle, method, answer, anonymous]
  | didOpen =>
      simp only [handle, method]
      split <;> simp [store, published]
  | didChange =>
      simp only [handle, method]
      split
      · split <;> simp [store, published]
      · simp
  | didClose =>
      simp only [handle, method]
      split <;> simp [published]
  | completion => simp [handle, method, answer, anonymous]
  | hover => simp [handle, method, answer, anonymous]
  | unknown => simp [handle, method, answer, anonymous]

/-- Every request is sent exactly one message, which has its identifier. Its object never has both a
result and an error, and it has one of the two exactly if the result is not null. A message without
an identifier is sent a result or an error exactly if its method is that of the start. -/
theorem requests_get_responses (documents : Documents) (message : Inbound) :
    (∀ id, message.id = some id → message.method ∉ notifications.map text →
      ∃ response, (handle documents message).2 = [response] ∧
        response.toJson.member? "id" = some id ∧
        ¬(response.hasResult ∧ response.hasError) ∧
        (response.hasResult ∨ response.hasError ↔ ¬message.AsksForNull documents)) ∧
    (message.id = none →
      ((∃ sent ∈ (handle documents message).2, sent.hasResult ∨ sent.hasError) ↔
        message.method = text "initialize")) := by
  constructor
  · intro id identified isRequest
    rcases response_handle documents identified isRequest with ⟨response, sent, answers⟩
    refine ⟨response, sent, ?_⟩
    cases answers with
    | null asked => simp [asked]
    | result value notNull => simp [notNull]
    | error code wording notNull => simp [notNull]
  · intro anonymous
    constructor
    · rintro ⟨sent, member, decided⟩
      by_contra noStart
      rcases noResponse_handle anonymous noStart sent member with ⟨noResult, noError⟩
      simp [noResult, noError] at decided
    · intro named
      have method : Method.ofName message.method = .start := (Method.ofName_eq_iff rfl).mpr named
      exact ⟨.result message.id (some capabilities), by simp [handle, method], by simp⟩

/-- A question about the first place of a document. -/
def hovering : Inbound where
  id := some (.ofInt 1)
  method := text "textDocument/hover"
  params := some (.ofMembers [])

theorem requests_get_responses_hovering :
    ((hovering.id = some (.ofInt 1) ∧ hovering.method ∉ notifications.map text) ∧
      ∃ response, (handle [([], text "nil")] hovering).2 = [response] ∧
        response.toJson.member? "id" = some (.ofInt 1) ∧
        (response.hasResult ∨ response.hasError)) ∧
      ¬∃ sent ∈ (handle [] { hovering with id := none }).2, sent.hasResult ∨ sent.hasError := by
  have isRequest : hovering.method ∉ notifications.map text := by decide
  rcases (requests_get_responses [([], text "nil")] hovering).1 _ rfl isRequest with
    ⟨response, sent, identified, -, decided⟩
  refine ⟨⟨⟨rfl, isRequest⟩, response, sent, identified, decided.mpr ?_⟩, ?_⟩
  · rintro (named | @⟨position, named, read, noWord⟩)
    · exact absurd (text_injective named) (by decide)
    · cases read
      revert noWord
      decide +kernel
  · rw [(requests_get_responses [] { hovering with id := none }).2 rfl]
    decide

/-- Two requests get responses without a result and without an error, and a message without an
identifier gets a result. -/
theorem responses_fall_short :
    (serve (framed (text "\x7b\"id\":1,\"method\":\"shutdown\"\x7d"))).1 =
        framed (text "\x7b\"jsonrpc\":\"2.0\",\"id\":1\x7d") ∧
      (serve (framed
        (text "\x7b\"id\":1,\"method\":\"textDocument/hover\",\"params\":null\x7d"))).1 =
        framed (text "\x7b\"jsonrpc\":\"2.0\",\"id\":1\x7d") ∧
      (handle [] { method := text "initialize" }).2.any Outbound.hasResult := by
  decide +kernel

end Scriptlet.Server
