import Mathlib.Data.List.Induction
import Scriptlet.Proofs.Scanning.Extents
import Scriptlet.Proofs.Server.Parameters
import Scriptlet.Server.Stream

/-!
# The open documents follow the client

Handling a message is said once, in three lemmas: a message that gives a document a text stores and
publishes, one that closes a document forgets it, and every other one leaves the documents as they
are (`handle_of_stores`, `handle_of_closes`, `handle_of_noEdit`). Seen from a single document this
is one step (`get?_handle`): the message decides about the document, or it has nothing to do with it
and the text that was there stays. Over a whole conversation the last message that decides about a
document counts.
-/

namespace Scriptlet

/-- Only U+FFFD is read in two ways, so a text that reads as anything else is spelled like it. -/
theorem Text.eq_text_of_toString {source : Text} {string : String}
    (known : '\uFFFD' ∉ string.toList) (reads : source.toString = string) :
    source = text string := by
  have scalars : source.scalars = string.toList := by
    rw [← reads, Text.toString, String.toList_ofList]
  have spelled : source.glyphs = Glyph.spell string := by
    rw [Glyph.spell, ← scalars, Text.scalars, List.map_map]
    refine (List.map_id _).symm.trans (List.map_congr_left ?_)
    intro glyph member
    apply Segment.eq_char_of_scalar_ne
    intro replaced
    apply known
    rw [← scalars, ← replaced]
    exact List.mem_map_of_mem member
  rw [← Text.join_glyphs source, spelled, Glyph.join_spell]

namespace Server

/-- The names of a method; a name that is not among these is unknown. -/
def Method.names : Method → List String
  | .start => ["initialize"]
  | .silent => ["initialized", "exit"]
  | .shutdown => ["shutdown"]
  | .didOpen => ["textDocument/didOpen"]
  | .didChange => ["textDocument/didChange"]
  | .didClose => ["textDocument/didClose"]
  | .completion => ["textDocument/completion"]
  | .hover => ["textDocument/hover"]
  | .unknown => []

theorem Method.ofName_text {method : Method} :
    ∀ string ∈ method.names, ofName (text string) = method := by
  cases method <;> decide +kernel

theorem Method.toString_mem_names {name : Text} {method : Method} (known : method ≠ .unknown)
    (named : ofName name = method) : name.toString ∈ method.names := by
  unfold ofName at named
  split at named
  case h_10 => exact absurd named.symm known
  all_goals
    rename_i spelled
    rw [spelled, ← named]
    decide

theorem Method.ofName_eq_iff_mem {name : Text} {method : Method} (known : method ≠ .unknown) :
    ofName name = method ↔ name ∈ method.names.map text := by
  rw [List.mem_map]
  constructor
  · intro named
    have member := toString_mem_names known named
    have spelled : ∀ string ∈ method.names, '\uFFFD' ∉ string.toList := by
      cases method <;> decide
    exact ⟨_, member, (Text.eq_text_of_toString (spelled _ member) rfl).symm⟩
  · rintro ⟨string, member, rfl⟩
    exact ofName_text string member

theorem Method.ofName_eq_iff {name : Text} {method : Method} {string : String}
    (single : method.names = [string]) : ofName name = method ↔ name = text string := by
  have known : method ≠ .unknown := by
    rintro rfl
    cases single
  rw [ofName_eq_iff_mem known, single, List.map_singleton, List.mem_singleton]

/-- A message that gives a document a text: it opens the document with the text, or it lists
changes, the last of which has the text. -/
inductive Inbound.Stores (message : Inbound) : Text → Text → Prop where
  | opened {params : Json} {document : Document}
      (isOpening : message.method = text "textDocument/didOpen")
      (given : message.params = some params) (wellFormed : opened? params = some document) :
      Stores message document.uri document.content
  | changed {params : Json} {change : Change} {content : Text}
      (isChange : message.method = text "textDocument/didChange")
      (given : message.params = some params) (wellFormed : changed? params = some change)
      (last : change.contents.getLast? = some content) : Stores message change.uri content

inductive Inbound.Closes (message : Inbound) : Text → Prop where
  | closed {params : Json} {uri : Text}
      (isClosing : message.method = text "textDocument/didClose")
      (given : message.params = some params) (wellFormed : closed? params = some uri) :
      Closes message uri

/-- A message that decides what is known of a document. -/
def Inbound.Edits (message : Inbound) (uri : Text) : Prop :=
  (∃ content, message.Stores uri content) ∨ message.Closes uri

/-- A message about a change that lists no texts. -/
structure Inbound.ListsNothing (message : Inbound) (params : Json) (change : Change) : Prop where
  isChange : message.method = text "textDocument/didChange"
  given : message.params = some params
  wellFormed : changed? params = some change
  contents_eq : change.contents = []

/-- The last message that decides about a document gives it a text. -/
def LastStores (messages : List Inbound) (uri content : Text) : Prop :=
  ∃ before message after, messages = before ++ message :: after ∧
    message.Stores uri content ∧ ∀ later ∈ after, ¬later.Edits uri

/-- A message whose parameters name one document, with the members of both. -/
structure Inbound.Concerns (message : Inbound) (members fields : List (Text × Json))
    (uri : Text) : Prop where
  given : message.params = some (.object members)
  document : Has members "textDocument" (.object fields)
  named : HasText fields "uri" uri

/-- A message about a document whose parameters have the types that they have to have. -/
inductive Inbound.WellFormed (message : Inbound) : Prop where
  | opening {params : Json} (named : message.method = text "textDocument/didOpen")
      (given : message.params = some params) (isOpening : IsOpening params) : WellFormed message
  | changing {params : Json} (named : message.method = text "textDocument/didChange")
      (given : message.params = some params) (isChanging : IsChanging params) : WellFormed message
  | closing {params : Json} (named : message.method = text "textDocument/didClose")
      (given : message.params = some params) (isClosing : IsClosing params) : WellFormed message

variable {message : Inbound} {uri other content otherContent : Text}

theorem Inbound.Edits.wellFormed (edits : message.Edits uri) : message.WellFormed := by
  rcases edits with ⟨content, ⟨named, given, accepted⟩ | ⟨named, given, accepted, -⟩⟩ |
    ⟨named, given, accepted⟩
  · exact .opening named given (opened?_isSome_iff.mp (Option.isSome_of_eq_some accepted))
  · exact .changing named given (changed?_isSome_iff.mp (Option.isSome_of_eq_some accepted))
  · exact .closing named given (closed?_isSome_iff.mp (Option.isSome_of_eq_some accepted))

/-- A message with parameters of the right types decides about a document, unless it lists nothing;
no other message does. -/
theorem Inbound.wellFormed_iff : message.WellFormed ↔
    (∃ uri, message.Edits uri) ∨ ∃ params change, message.ListsNothing params change := by
  constructor
  · rintro (⟨named, given, isOpening⟩ | ⟨named, given, isChanging⟩ | ⟨named, given, isClosing⟩)
    · rcases Option.isSome_iff_exists.mp (opened?_isSome_iff.mpr isOpening) with ⟨document, isRead⟩
      exact .inl ⟨_, .inl ⟨_, .opened named given isRead⟩⟩
    · rcases Option.isSome_iff_exists.mp (changed?_isSome_iff.mpr isChanging) with ⟨change, isRead⟩
      cases last : change.contents.getLast? with
      | none => exact .inr ⟨_, change, named, given, isRead, List.getLast?_eq_none_iff.mp last⟩
      | some content => exact .inl ⟨_, .inl ⟨content, .changed named given isRead last⟩⟩
    · rcases Option.isSome_iff_exists.mp (closed?_isSome_iff.mpr isClosing) with ⟨uri, isRead⟩
      exact .inl ⟨uri, .inr (.closed named given isRead)⟩
  · rintro (⟨uri, edits⟩ | ⟨params, change, named, given, isRead, -⟩)
    · exact edits.wellFormed
    · exact .changing named given (changed?_isSome_iff.mp (Option.isSome_of_eq_some isRead))

namespace Inbound.Concerns

variable {members fields : List (Text × Json)}

theorem stores_opened (concerns : message.Concerns members fields uri)
    (named : message.method = text "textDocument/didOpen")
    (filled : HasText fields "text" content) : message.Stores uri content :=
  .opened named concerns.given (opened?_of_has concerns.document concerns.named filled)

theorem stores_changed {items : List Json} {contents : List Text}
    (concerns : message.Concerns members fields uri)
    (named : message.method = text "textDocument/didChange")
    (lists : Has members "contentChanges" (.array items)) (filled : HaveTexts items contents)
    (last : contents.getLast? = some content) : message.Stores uri content := by
  rcases changed?_of_has concerns.document concerns.named lists filled with
    ⟨change, isRead, rfl, rfl⟩
  exact .changed named concerns.given isRead last

theorem closes (concerns : message.Concerns members fields uri)
    (named : message.method = text "textDocument/didClose") : message.Closes uri :=
  .closed named concerns.given (closed?_of_has concerns.document concerns.named)

theorem uri_eq (concerns : message.Concerns members fields uri) {position : Position}
    (isRead : message.params.bind position? = some position) : position.uri = uri := by
  rw [concerns.given, Option.bind_some] at isRead
  exact uri_of_position? concerns.document concerns.named isRead

end Inbound.Concerns

theorem handle_of_stores (documents : Documents) (stores : message.Stores uri content) :
    handle documents message = store documents uri content := by
  cases stores with
  | opened isOpening given wellFormed =>
      have method : Method.ofName message.method = .didOpen :=
        (Method.ofName_eq_iff rfl).mpr isOpening
      simp only [handle, method, given, Option.bind_some, wellFormed]
  | changed isChange given wellFormed last =>
      have method : Method.ofName message.method = .didChange :=
        (Method.ofName_eq_iff rfl).mpr isChange
      simp only [handle, method, given, Option.bind_some, wellFormed, last]

theorem handle_of_closes (documents : Documents) (closes : message.Closes uri) :
    handle documents message = (documents.erase uri, [published uri []]) := by
  cases closes with
  | closed isClosing given wellFormed =>
      have method : Method.ofName message.method = .didClose :=
        (Method.ofName_eq_iff rfl).mpr isClosing
      simp only [handle, method, given, Option.bind_some, wellFormed]

theorem answerHover_ne_notification (documents : Documents) (id : Json) (params : Option Json)
    (method : Text) (content : Json) :
    answerHover documents id params ≠ .notification method content := by
  unfold answerHover
  split <;> simp

theorem handle_of_noEdit (documents : Documents) (noEdit : ∀ uri, ¬message.Edits uri) :
    (handle documents message).1 = documents ∧
      ∀ method params, .notification method params ∉ (handle documents message).2 := by
  cases method : Method.ofName message.method with
  | start => simp [handle, method]
  | silent => simp [handle, method]
  | shutdown => simp [handle, method, answer]
  | didOpen =>
      have named := (Method.ofName_eq_iff rfl).mp method
      cases read : message.params.bind opened? with
      | none => simp [handle, method, read]
      | some document =>
          rcases Option.bind_eq_some_iff.mp read with ⟨params, given, wellFormed⟩
          exact absurd (.inl ⟨_, .opened named given wellFormed⟩) (noEdit _)
  | didChange =>
      have named := (Method.ofName_eq_iff rfl).mp method
      cases read : message.params.bind changed? with
      | none => simp [handle, method, read]
      | some change =>
          rcases Option.bind_eq_some_iff.mp read with ⟨params, given, wellFormed⟩
          cases last : change.contents.getLast? with
          | none => simp [handle, method, read, last]
          | some content =>
              exact absurd
                (.inl ⟨_, .changed named given wellFormed last⟩) (noEdit _)
  | didClose =>
      have named := (Method.ofName_eq_iff rfl).mp method
      cases read : message.params.bind closed? with
      | none => simp [handle, method, read]
      | some uri =>
          rcases Option.bind_eq_some_iff.mp read with ⟨params, given, wellFormed⟩
          exact absurd (.inr (.closed named given wellFormed)) (noEdit uri)
  | completion => simp [handle, method, answer]
  | hover => simp [handle, method, answer, answerHover_ne_notification]
  | unknown => simp [handle, method, answer]

namespace Documents

theorem get?_erase (documents : Documents) (uri other : Text) :
    (documents.erase uri).get? other = if other = uri then none else documents.get? other := by
  simp only [get?, erase, List.find?_filter]
  split
  · rename_i same
    subst same
    simp
  · rename_i different
    congr 2
    funext entry
    by_cases same : entry.1 = other
    · simp [same, different]
    · simp [same]

theorem get?_insert (documents : Documents) (uri content other : Text) :
    (documents.insert uri content).get? other =
      if other = uri then some content else documents.get? other := by
  have found : (documents.insert uri content).get? other =
      ((documents.erase uri).get? other).or (get? [(uri, content)] other) := by
    simp only [get?, insert, List.find?_append]
    cases (documents.erase uri).find? fun entry => entry.1 = other <;> rfl
  rw [found, get?_erase]
  split
  · rename_i same
    simp [get?, same]
  · rename_i different
    simp [get?, Ne.symm different]

/-- Each document is kept once. -/
def Distinct (documents : Documents) : Prop :=
  (documents.map Prod.fst).Nodup

theorem Distinct.erase {documents : Documents} (distinct : documents.Distinct) (uri : Text) :
    (documents.erase uri).Distinct :=
  distinct.sublist (List.filter_sublist.map Prod.fst)

theorem Distinct.insert {documents : Documents} (distinct : documents.Distinct)
    (uri content : Text) : (documents.insert uri content).Distinct := by
  have fresh : uri ∉ (documents.erase uri).map Prod.fst := by
    simp [Documents.erase]
  rw [Distinct, Documents.insert, List.map_append, List.nodup_append]
  refine ⟨distinct.erase uri, List.nodup_singleton uri, ?_⟩
  intro first member second single same
  rw [List.map_singleton, List.mem_singleton] at single
  rw [same, single] at member
  exact fresh member

end Documents

namespace Inbound

theorem Stores.stores_iff (stores : message.Stores uri content) :
    message.Stores other otherContent ↔ other = uri ∧ otherContent = content := by
  constructor
  · intro alsoStores
    -- Both say what an empty store becomes.
    have same := (handle_of_stores [] alsoStores).symm.trans (handle_of_stores [] stores)
    have stored := congrArg Prod.fst same
    simpa [store, Documents.insert, Documents.erase] using stored
  · rintro ⟨rfl, rfl⟩
    exact stores

theorem Stores.not_closes (stores : message.Stores uri content) : ¬message.Closes other := by
  intro closes
  have same := (handle_of_stores [] stores).symm.trans (handle_of_closes [] closes)
  have stored := congrArg Prod.fst same
  simp [store, Documents.insert, Documents.erase] at stored

theorem Stores.edits_iff (stores : message.Stores uri content) :
    message.Edits other ↔ other = uri := by
  constructor
  · rintro (⟨text, alsoStores⟩ | closes)
    · exact (stores.stores_iff.mp alsoStores).1
    · exact absurd closes stores.not_closes
  · rintro rfl
    exact .inl ⟨content, stores⟩

theorem Closes.edits_iff (closes : message.Closes uri) : message.Edits other ↔ other = uri := by
  constructor
  · rintro (⟨text, stores⟩ | ⟨_, alsoGiven, alsoWellFormed⟩)
    · exact absurd closes stores.not_closes
    · rcases closes with ⟨_, given, wellFormed⟩
      rw [given, Option.some.injEq] at alsoGiven
      subst alsoGiven
      rw [wellFormed, Option.some.injEq] at alsoWellFormed
      exact alsoWellFormed.symm
  · rintro rfl
    exact .inr closes

theorem edits_cases (message : Inbound) :
    (∃ uri content, message.Stores uri content) ∨ (∃ uri, message.Closes uri) ∨
      ∀ uri, ¬message.Edits uri := by
  by_cases edits : ∃ uri, message.Edits uri
  · rcases edits with ⟨uri, ⟨content, stores⟩ | closes⟩
    · exact .inl ⟨uri, content, stores⟩
    · exact .inr (.inl ⟨uri, closes⟩)
  · exact .inr (.inr (not_exists.mp edits))

end Inbound

/-- A document has a text behind a message if the message gives it that text, or if the message does
not decide about it and the document had the text before. -/
theorem get?_handle (documents : Documents) (message : Inbound) (uri content : Text) :
    (handle documents message).1.get? uri = some content ↔
      message.Stores uri content ∨ (¬message.Edits uri ∧ documents.get? uri = some content) := by
  rcases message.edits_cases with ⟨other, stored, stores⟩ | ⟨other, closes⟩ | noEdit
  · rw [handle_of_stores documents stores, stores.stores_iff, stores.edits_iff]
    by_cases same : uri = other
    · simp [store, Documents.get?_insert, same, eq_comm]
    · simp [store, Documents.get?_insert, same]
  · have noStore : ¬message.Stores uri content := fun stores => stores.not_closes closes
    rw [handle_of_closes documents closes, closes.edits_iff]
    by_cases same : uri = other
    · simp [Documents.get?_erase, same, same ▸ noStore]
    · simp [Documents.get?_erase, same, noStore]
  · have noStore : ¬message.Stores uri content := fun stores => noEdit uri (.inl ⟨content, stores⟩)
    rw [(handle_of_noEdit documents noEdit).1]
    simp [noStore, noEdit uri]

theorem distinct_handle {documents : Documents} (distinct : documents.Distinct)
    (message : Inbound) : (handle documents message).1.Distinct := by
  rcases message.edits_cases with ⟨uri, content, stores⟩ | ⟨uri, closes⟩ | noEdit
  · rw [handle_of_stores documents stores]
    exact distinct.insert uri content
  · rw [handle_of_closes documents closes]
    exact distinct.erase uri
  · rw [(handle_of_noEdit documents noEdit).1]
    exact distinct

/-- Handles messages one after the other: the documents after them, and everything sent. -/
def run (documents : Documents) : List Inbound → Documents × List Outbound
  | [] => (documents, [])
  | message :: rest =>
      let (next, sent) := handle documents message
      let (final, more) := run next rest
      (final, sent ++ more)

theorem run_append (documents : Documents) (front back : List Inbound) :
    run documents (front ++ back) =
      ((run (run documents front).1 back).1,
        (run documents front).2 ++ (run (run documents front).1 back).2) := by
  induction front generalizing documents with
  | nil => rfl
  | cons message rest ih => simp only [List.cons_append, run, ih, List.append_assoc]

theorem lastStores_concat {messages : List Inbound} {last : Inbound} :
    LastStores (messages ++ [last]) uri content ↔
      last.Stores uri content ∨ (¬last.Edits uri ∧ LastStores messages uri content) := by
  constructor
  · rintro ⟨before, message, after, parts, stores, noEdit⟩
    rcases List.eq_nil_or_concat' after with rfl | ⟨after, later, rfl⟩
    · rcases List.append_inj' parts rfl with ⟨-, same⟩
      cases same
      exact .inl stores
    · rw [← List.cons_append, ← List.append_assoc] at parts
      rcases List.append_inj' parts rfl with ⟨rfl, same⟩
      cases same
      refine .inr ⟨noEdit last (by simp), before, message, after, rfl, stores, ?_⟩
      intro later member
      exact noEdit later (List.mem_append_left _ member)
  · rintro (stores | ⟨noEdit, before, message, after, rfl, stores, noLater⟩)
    · exact ⟨messages, last, [], rfl, stores, by simp⟩
    · refine ⟨before, message, after ++ [last], by simp, stores, ?_⟩
      intro later member
      rcases List.mem_append.mp member with inside | single
      · exact noLater later inside
      · rw [List.mem_singleton.mp single]
        exact noEdit

/-- After a conversation a document has the text that the last message about it gave it. -/
theorem get?_run (messages : List Inbound) (uri content : Text) :
    (run [] messages).1.get? uri = some content ↔ LastStores messages uri content := by
  -- From the end, because the last message either decides or leaves it to those before it.
  induction messages using List.reverseRecOn with
  | nil => simp [run, Documents.get?, LastStores]
  | append_singleton messages last ih =>
      rw [lastStores_concat, ← ih, run_append]
      exact get?_handle _ last uri content

theorem distinct_run (messages : List Inbound) : (run [] messages).1.Distinct := by
  induction messages using List.reverseRecOn with
  | nil => exact List.nodup_nil
  | append_singleton messages last ih =>
      rw [run_append]
      exact distinct_handle ih last

theorem handle_hover {documents others : Documents}
    (isHover : message.method = text "textDocument/hover")
    (same : ∀ position, message.params.bind position? = some position →
      documents.get? position.uri = others.get? position.uri) :
    (handle documents message).2 = (handle others message).2 := by
  have method : Method.ofName message.method = .hover := (Method.ofName_eq_iff rfl).mpr isHover
  have answers : ∀ id, answerHover documents id message.params =
      answerHover others id message.params := by
    intro id
    cases read : message.params.bind position? with
    | none => simp only [answerHover, read]
    | some position => simp only [answerHover, read, same position read]
  simp only [handle, method, answer, answers]

/-- The open documents follow the client. After any messages a document has the text of the last
message that opens or changes it, unless a later one closes it, and the other documents are not
there. What is published when a document is opened or changed are the diagnostics of the text just
stored, and nothing else is published but the end of a closed document. An answer about a place
depends on the text of its own document only. Messages that are malformed, unknown or about no
document leave all documents as they are, and so do payloads that are no message.

A message that opens, changes or closes a document names it, and brings its text, in the members of
its parameters, which may come in any order among others; any text can be brought there. All
messages with parameters of the right types decide about a document, unless they list no changes,
and messages with parameters of other types do not. -/
theorem documents_follow_client :
    (∀ messages : List Inbound, (run [] messages).1.Distinct ∧ ∀ uri content,
      (run [] messages).1.get? uri = some content ↔ LastStores messages uri content) ∧
    (∀ (documents : Documents) (message : Inbound),
      (∀ uri content, message.Stores uri content →
        (handle documents message).1.get? uri = some content ∧
          (handle documents message).2 = [published uri (Diagnostic.ofSource {} content)]) ∧
      (∀ uri, message.Closes uri →
        (handle documents message).1.get? uri = none ∧
          (handle documents message).2 = [published uri []]) ∧
      ((∀ uri, ¬message.Edits uri) → (handle documents message).1 = documents ∧
        ∀ method params, .notification method params ∉ (handle documents message).2)) ∧
    (∀ (documents others : Documents) (message : Inbound),
      message.method = text "textDocument/hover" →
      (∀ position, message.params.bind position? = some position →
        documents.get? position.uri = others.get? position.uri) →
      (handle documents message).2 = (handle others message).2) ∧
    (∀ (documents : Documents) (payload : Text),
      (message? payload = none →
        (reply documents payload).documents = documents ∧ (reply documents payload).sent = []) ∧
      ∀ message, message? payload = some message →
        (reply documents payload).documents = (handle documents message).1 ∧
          (reply documents payload).sent = (handle documents message).2) ∧
    (∀ (message : Inbound) (members fields : List (Text × Json)) (uri : Text),
      message.Concerns members fields uri →
      (message.method = text "textDocument/didOpen" → ∀ content,
        HasText fields "text" content → message.Stores uri content) ∧
      (message.method = text "textDocument/didChange" → ∀ items contents content,
        Has members "contentChanges" (.array items) → HaveTexts items contents →
        contents.getLast? = some content → message.Stores uri content) ∧
      (message.method = text "textDocument/didClose" → message.Closes uri) ∧
      ∀ position, message.params.bind position? = some position → position.uri = uri) ∧
    (∀ (members : List (Text × Json)) (name : String) (content : Text),
      Has members name (.ofText content) → HasText members name content.repaired) ∧
    ∀ message : Inbound, message.WellFormed ↔
      (∃ uri, message.Edits uri) ∨ ∃ params change, message.ListsNothing params change := by
  refine ⟨?_, ?_, ?_, ?_, ?_, fun members name content => Has.hasText,
    fun message => Inbound.wellFormed_iff⟩
  · intro messages
    exact ⟨distinct_run messages, get?_run messages⟩
  · intro documents message
    refine ⟨?_, ?_, handle_of_noEdit documents⟩
    · intro uri content stores
      rw [handle_of_stores documents stores]
      simp [store, Documents.get?_insert]
    · intro uri closes
      rw [handle_of_closes documents closes]
      simp [Documents.get?_erase]
  · intro documents others message isHover same
    exact handle_hover isHover same
  · intro documents payload
    constructor
    · intro noMessage
      simp only [reply, noMessage, and_self]
    · intro message isMessage
      simp only [reply, isMessage, and_self]
  · intro message members fields uri concerns
    exact ⟨fun named content => concerns.stores_opened named,
      fun named items contents content => concerns.stores_changed named, concerns.closes,
      fun position => concerns.uri_eq⟩

/-- A message about a document, with what it says of it and further members of its parameters. -/
def about (method uri : String) (document members : List (String × Json)) : Inbound where
  id := some (.ofInt 2)
  method := text method
  params := some (.ofMembers
    (("textDocument", .ofMembers (("uri", .ofText (text uri)) :: document)) :: members))

/-- A message that opens a document with a text. -/
def opening (uri content : String) : Inbound :=
  about "textDocument/didOpen" uri [("text", .ofText (text content))] []

/-- A message that lists changes of a document with the given texts. -/
def changing (uri : String) (contents : List String) : Inbound :=
  about "textDocument/didChange" uri [] [("contentChanges", .array (contents.map fun content =>
    .ofMembers [("text", .ofText (text content))]))]

/-- A question about a place on the first line of a document. -/
def asking (uri : String) (character : Int) : Inbound :=
  about "textDocument/hover" uri []
    [("position", .ofMembers [("line", .ofInt 0), ("character", .ofInt character)])]

/-- A document is opened with a fault, which a change removes, and a question is asked about it.
Another one is changed without being opened, and closed. The last two messages list no changes and
have no meaning. -/
def lifecycle : List Inbound :=
  [opening "file:///a.lax" "print 1 +;", changing "file:///a.lax" ["1", "print nil;"],
    asking "file:///a.lax" 7, changing "b" ["3;"], about "textDocument/didClose" "b" [] [],
    changing "file:///a.lax" [], about "workspace/symbol" "b" [] []]

theorem concerns_about (method uri : String) (document members : List (String × Json))
    (onlyUri : ∀ member ∈ document, ¬isNamed "uri" (text member.1))
    (onlyDocument : ∀ member ∈ members, ¬isNamed "textDocument" (text member.1)) :
    (about method uri document members).Concerns
      (spelled (("textDocument", .ofMembers (("uri", .ofText (text uri)) :: document)) :: members))
      (spelled (("uri", .ofText (text uri)) :: document)) (text uri) :=
  ⟨rfl, has_spelled [] onlyDocument, hasText_spelled [] onlyUri⟩

theorem noEdit_of_method {method : String} (isMethod : message.method = text method)
    (other : method ∉ ["textDocument/didOpen", "textDocument/didChange", "textDocument/didClose"])
    (uri : Text) : ¬message.Edits uri := by
  intro edits
  apply other
  cases edits.wellFormed with
  | opening named given isOpening => simp [text_injective (isMethod.symm.trans named)]
  | changing named given isChanging => simp [text_injective (isMethod.symm.trans named)]
  | closing named given isClosing => simp [text_injective (isMethod.symm.trans named)]

theorem noEdit_changing_nil (uri : String) (other : Text) : ¬(changing uri []).Edits other := by
  rintro (⟨content, ⟨isOpening, given, wellFormed⟩ | ⟨isChange, given, wellFormed, last⟩⟩ |
    ⟨isClosing, given, wellFormed⟩)
  · exact absurd (text_injective isOpening) (by decide)
  · cases given
    cases wellFormed
    cases last
  · exact absurd (text_injective isClosing) (by decide)

theorem haveTexts_ofText (contents : List String) :
    HaveTexts (contents.map fun content => .ofMembers [("text", .ofText (text content))])
      (contents.map text) := by
  induction contents with
  | nil => exact .nil
  | cons content rest ih => exact .cons ⟨_, rfl, hasText_spelled [] (by simp)⟩ ih

theorem stores_changing (uri : String) {contents : List String} {content : String}
    (last : contents.getLast? = some content) :
    (changing uri contents).Stores (text uri) (text content) := by
  have noDocument : ¬isNamed "textDocument" (text "contentChanges") := by decide
  have noChanges : ¬isNamed "contentChanges" (text "textDocument") := by decide
  have concerns := concerns_about "textDocument/didChange" uri []
    [("contentChanges", .array (contents.map fun content =>
      .ofMembers [("text", .ofText (text content))]))]
    (List.forall_mem_nil _) (List.forall_mem_singleton.mpr noDocument)
  have lastText : (contents.map text).getLast? = some (text content) := by
    rw [List.getLast?_map, last, Option.map_some]
  exact concerns.stores_changed rfl
    (has_spelled [("textDocument", _)] (List.forall_mem_singleton.mpr noChanges))
    (haveTexts_ofText contents) lastText

theorem closes_about (uri : String) : (about "textDocument/didClose" uri [] []).Closes (text uri) :=
  (concerns_about "textDocument/didClose" uri [] [] (List.forall_mem_nil _)
    (List.forall_mem_nil _)).closes rfl

theorem lastStores_lifecycle : LastStores lifecycle (text "file:///a.lax") (text "print nil;") := by
  refine ⟨[_], _, _, rfl, stores_changing _ rfl, ?_⟩
  have asks : ∀ uri, ¬(asking "file:///a.lax" 7).Edits uri := noEdit_of_method rfl (by decide)
  have unknown : ∀ uri, ¬(about "workspace/symbol" "b" [] []).Edits uri :=
    noEdit_of_method rfl (by decide)
  have storesOther := stores_changing "b" (show ["3;"].getLast? = some "3;" from rfl)
  simp only [List.forall_mem_cons, asks, storesOther.edits_iff, (closes_about "b").edits_iff,
    noEdit_changing_nil, unknown, not_false_eq_true, List.not_mem_nil, false_implies, implies_true,
    and_true, true_and]
  decide

/-- Messages to the client as they are written. -/
def written (sent : List Outbound) : List Text :=
  sent.map fun message => message.toJson.render

/-- The notification that lists diagnostics, which are given as they are written. -/
def announced (uri diagnostics : String) : Text :=
  text ("\x7b\"jsonrpc\":\"2.0\",\"method\":\"textDocument/publishDiagnostics\",\"params\":" ++
    "\x7b\"diagnostics\":[" ++ diagnostics ++ "],\"uri\":\"" ++ uri ++ "\"\x7d\x7d")

/-- The diagnostic of the operand that is missing before the tenth character of the first line. -/
def missingOperand : String :=
  "\x7b\"code\":\"syntax error\",\"message\":\"expected expression\",\"range\":" ++
    "\x7b\"end\":\x7b\"character\":10,\"line\":0\x7d," ++
    "\"start\":\x7b\"character\":9,\"line\":0\x7d\x7d,\"severity\":1,\"source\":\"lax\"\x7d"

theorem documents_follow_lifecycle :
    let faulty := opening "file:///a.lax" "print 1 +;"
    let closing := about "textDocument/didClose" "b" [] []
    let misshaped := { faulty with params := some (.array []) }
    (faulty.Stores (text "file:///a.lax") (text "print 1 +;") ∧
      (handle [] faulty).1.get? (text "file:///a.lax") = some (text "print 1 +;") ∧
      written (handle [] faulty).2 = [announced "file:///a.lax" missingOperand]) ∧
    (LastStores lifecycle (text "file:///a.lax") (text "print nil;") ∧
      (run [] lifecycle).1.get? (text "file:///a.lax") = some (text "print nil;") ∧
      written (run [] lifecycle).2 = [announced "file:///a.lax" missingOperand,
        announced "file:///a.lax" "",
        text ("\x7b\"jsonrpc\":\"2.0\",\"id\":2,\"result\":\x7b\"contents\":\x7b\"kind\":" ++
          "\"markdown\",\"value\":\"\x60nil\x60\\n\\nLax keyword\"\x7d\x7d\x7d"),
        announced "b" "", announced "b" "",
        text ("\x7b\"jsonrpc\":\"2.0\",\"id\":2,\"error\":\x7b\"code\":-32601,\"message\":" ++
          "\"method not found\"\x7d\x7d")]) ∧
    (closing.Closes (text "b") ∧ (handle [(text "b", text "3;")] closing).1.get? (text "b") = none ∧
      written (handle [(text "b", text "3;")] closing).2 = [announced "b" ""]) ∧
    (handle [(text "b", text "3;")] (changing "b" [])).1 = [(text "b", text "3;")] ∧
    (handle [(text "b", text "nil"), (text "a", text "3;")] (asking "b" 0)).2 =
      (handle [(text "b", text "nil")] (asking "b" 0)).2 ∧
    (reply [(text "b", text "3;")] []).documents = [(text "b", text "3;")] ∧
    (reply [] (text ("\x7b\"method\":\"textDocument/didOpen\",\"params\":\x7b\"textDocument\":" ++
      "\x7b\"uri\":\"b\",\"text\":\"3;\"\x7d\x7d\x7d"))).documents = [(text "b", text "3;")] ∧
    (¬misshaped.WellFormed ∧
      (handle [(text "b", text "3;")] misshaped).1 = [(text "b", text "3;")]) := by
  intro faulty closing misshaped
  rcases documents_follow_client with ⟨follows, step, hovers, replies, reads, brings, wellFormed⟩
  have opens : faulty.Stores (text "file:///a.lax") (text "print 1 +;") := by
    have concerns := concerns_about "textDocument/didOpen" "file:///a.lax"
      [("text", .ofText (text "print 1 +;"))] [] (by decide) (List.forall_mem_nil _)
    have brought := brings (spelled [("uri", .ofText (text "file:///a.lax")),
      ("text", .ofText (text "print 1 +;"))]) "text" (text "print 1 +;")
      (has_spelled [("uri", _)] (by decide))
    rw [Text.repaired_text] at brought
    exact (reads faulty _ _ _ concerns).1 rfl _ brought
  have closes : closing.Closes (text "b") :=
    (reads closing _ _ _ (concerns_about "textDocument/didClose" "b" [] [] (List.forall_mem_nil _)
      (List.forall_mem_nil _))).2.2.1 rfl
  have ill : ¬misshaped.WellFormed := by
    rintro (⟨-, ⟨⟩, ⟨⟩⟩ | ⟨-, ⟨⟩, ⟨⟩⟩ | ⟨-, ⟨⟩, ⟨⟩⟩)
  have stored := (step [] faulty).1 _ _ opens
  have forgotten := (step [(text "b", text "3;")] closing).2.1 _ closes
  refine ⟨⟨opens, stored.1, ?_⟩, ⟨lastStores_lifecycle, ?_, by decide +kernel⟩,
    ⟨closes, forgotten.1, ?_⟩, ?_, ?_, ?_, by decide +kernel, ill, ?_⟩
  · rw [stored.2]
    decide +kernel
  · exact ((follows lifecycle).2 _ _).mpr lastStores_lifecycle
  · rw [forgotten.2]
    decide +kernel
  · exact ((step _ _).2.2 (noEdit_changing_nil "b")).1
  · refine hovers _ _ _ rfl ?_
    rintro position ⟨⟩
    rfl
  · refine ((replies _ []).1 ?_).1
    simp [message?, Json.ofSource?, Json.symbolsFrom?]
  · exact ((step _ _).2.2 fun uri edits => ill ((wellFormed _).mpr (.inl ⟨uri, edits⟩))).1

end Server

end Scriptlet
