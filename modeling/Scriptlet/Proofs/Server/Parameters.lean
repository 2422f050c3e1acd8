import Scriptlet.Proofs.Text.Units
import Scriptlet.Server.Message

/-!
# Parameters about documents

What the parameters of the messages about documents have to be, and what is read from them. They are
accepted exactly if the members that are looked at have the right types, whatever else there is. The
members may come in any order, and a text that was written into a member is read back as it was,
except for its stray bytes.
-/

namespace Scriptlet

theorem Text.repaired_text (string : String) : (text string).repaired = text string := by
  rw [← Glyph.join_spell, Glyph.spell]
  have spelled : Glyph.join (string.toList.map Glyph.char) = ofChars string.toList := by
    rw [Glyph.join, List.flatMap_map]
    rfl
  rw [spelled, repaired, scalars_ofChars]

namespace Json

/-- A part of the inside of a string that stands for a content, whatever is around it. -/
def Spells (spelling content : Text) : Prop :=
  ∃ parts, (∀ rest, parts? (spelling ++ rest) = (parts? rest).map (parts ++ ·)) ∧
    ∀ more, joinParts (parts ++ more) = content ++ joinParts more

theorem Spells.nil : Spells [] [] :=
  ⟨[], by simp, by simp⟩

theorem Spells.append {front back frontContent backContent : Text}
    (spells : Spells front frontContent) (spellsBack : Spells back backContent) :
    Spells (front ++ back) (frontContent ++ backContent) := by
  rcases spells with ⟨parts, cut, join⟩
  rcases spellsBack with ⟨partsBack, cutBack, joinBack⟩
  refine ⟨parts ++ partsBack, ?_, ?_⟩
  · intro rest
    rw [List.append_assoc, cut, cutBack, Option.map_map]
    congr 1
    funext more
    simp
  · intro more
    rw [List.append_assoc, join, joinBack, List.append_assoc]

theorem Spells.unescape_eq {spelling content : Text} (spells : Spells spelling content) :
    unescape spelling = content.repaired := by
  rcases spells with ⟨parts, cut, join⟩
  have whole := cut []
  have joined := join []
  rw [List.append_nil] at whole joined
  rw [unescape, whole]
  simp [parts?, joined, joinParts]

/-- A byte that stands for itself. -/
theorem Spells.byte {value : UInt8} (printable : ¬value < 0x20) (noQuote : value ≠ 34)
    (noEscape : value ≠ 92) : Spells [value] [value] := by
  refine ⟨[.byte value], ?_, fun more => rfl⟩
  intro rest
  simp [parts?, printable, noQuote, noEscape]

theorem Spells.escape {letter value : UInt8} (known : escapeByte? letter = some value) :
    Spells [92, letter] [value] := by
  refine ⟨[.byte value], ?_, fun more => rfl⟩
  intro rest
  have other : letter ≠ 117 := by
    rintro rfl
    cases known
  simp [parts?, known, other]

theorem Spells.unit {a b c d : UInt8} {code : Nat} (known : unit? a b c d = some code)
    (notHigh : ¬isHigh code) : Spells [92, 117, a, b, c, d] (unitText code) := by
  refine ⟨[.unit code], ?_, ?_⟩
  · intro rest
    simp [parts?, known]
  · rintro (_ | ⟨_ | _, _⟩) <;> simp [joinParts, notHigh]

theorem Spells.bytes {values : Text}
    (plain : ∀ value ∈ values, ¬value < 0x20 ∧ value ≠ 34 ∧ value ≠ 92) : Spells values values := by
  induction values with
  | nil => exact .nil
  | cons value rest ih =>
      rw [List.forall_mem_cons] at plain
      exact (Spells.byte plain.1.1 plain.1.2.1 plain.1.2.2).append (ih plain.2)

/-- A byte of a character is no ASCII byte, or it is the whole character. -/
theorem eq_ofNat_of_mem_utf8EncodeChar {value : UInt8} {character : Char}
    (member : value ∈ String.utf8EncodeChar character) (ascii : value < 0x80) :
    character = Char.ofNat value.toNat := by
  by_contra other
  refine Glyph.not_mem_utf8EncodeChar ascii ?_ member
  intro same
  exact other (Glyph.utf8EncodeChar_injective
    (same.trans (Glyph.utf8EncodeChar_of_ascii ascii).symm))

theorem spells_character {character : Char} (printable : ¬character.toNat < 0x20)
    (noQuote : character ≠ '"') (noEscape : character ≠ '\\') :
    Spells (String.utf8EncodeChar character) (String.utf8EncodeChar character) := by
  apply Spells.bytes
  intro value member
  by_cases ascii : value < 0x80
  · have same := eq_ofNat_of_mem_utf8EncodeChar member ascii
    refine ⟨?_, ?_, ?_⟩
    · intro control
      rw [UInt8.lt_iff_toNat_lt] at control
      apply printable
      have code := @Glyph.val_ofNat value.toNat (.inl (by simp at control; omega))
      rw [same]
      exact code.trans_lt control
    · rintro rfl
      exact noQuote same
    · rintro rfl
      exact noEscape same
  · refine ⟨?_, ?_, ?_⟩
    · intro control
      exact ascii (UInt8.lt_trans control (by decide))
    · rintro rfl
      exact ascii (by decide)
    · rintro rfl
      exact ascii (by decide)

theorem hexValue?_hexDigit : ∀ value < 16, hexValue? (Text.hexDigit value) = some value := by
  decide

theorem spells_numbered {character : Char} (small : character.toNat < 0xd800) :
    Spells (text "\\u" ++ Text.hex 4 character.toNat) (String.utf8EncodeChar character) := by
  have notHigh : isHigh character.toNat = false := by simp [isHigh, small]
  have notLow : isLow character.toNat = false := by
    simp [isLow]
    omega
  have content : String.utf8EncodeChar character = unitText character.toNat := by
    simp [unitText, notHigh, notLow]
  rw [content]
  refine .unit ?_ (by simp [notHigh])
  have digits := fun shift => hexValue?_hexDigit (character.toNat / shift % 16) (by omega)
  have last := hexValue?_hexDigit (character.toNat % 16) (by omega)
  simp only [unit?, digits, last, Nat.div_div_eq_div_mul]
  simp
  omega

theorem spells_escapedChar (character : Char) :
    Spells (escapedChar character) (String.utf8EncodeChar character) := by
  unfold escapedChar
  split
  · exact .escape rfl
  · exact .escape rfl
  · exact .escape rfl
  · exact .escape rfl
  · exact .escape rfl
  · exact .escape rfl
  · exact .escape rfl
  · rename_i noQuote noEscape _ _ _ _ _
    split
    · rename_i marked
      apply spells_numbered
      simp only [Bool.or_eq_true, decide_eq_true_eq] at marked
      rcases marked with ((((control | rfl) | rfl) | rfl) | rfl) | rfl
      · exact control.trans (by decide)
      · decide
      · decide
      · decide
      · decide
      · decide
    · rename_i plain
      simp only [Bool.or_eq_true, decide_eq_true_eq, not_or] at plain
      exact spells_character plain.1.1.1.1.1 noQuote noEscape

theorem spells_escapedGlyph (glyph : Glyph) :
    Spells (escapedGlyph glyph) (String.utf8EncodeChar glyph.scalar) := by
  cases glyph with
  | char character => exact spells_escapedChar character
  | stray byte =>
      have spelled : escapedGlyph (.stray byte) = [92, 117, 102, 102, 102, 100] := rfl
      rw [spelled]
      exact .unit (show unit? 102 102 102 100 = some 0xfffd from rfl) (by decide)

/-- A text that is written into a string is read back; its stray bytes have become U+FFFD. -/
theorem unescape_flatMap_escapedGlyph (content : Text) :
    unescape (content.glyphs.flatMap escapedGlyph) = content.repaired := by
  have spells : ∀ glyphs : List Glyph,
      Spells (glyphs.flatMap escapedGlyph) (Text.ofChars (glyphs.map Glyph.scalar)) := by
    intro glyphs
    induction glyphs with
    | nil => exact .nil
    | cons glyph rest ih => exact (spells_escapedGlyph glyph).append ih
  rw [(spells content.glyphs).unescape_eq, Text.repaired, Text.scalars_ofChars]
  rfl

/-- Nothing or a text. -/
def IsText : Json → Prop
  | .null => True
  | .string _ => True
  | _ => False

/-- Nothing, or an object whose members are as they have to be. -/
def IsRecord (IsMember : Text → Json → Prop) : Json → Prop
  | .null => True
  | .object members => ∀ member ∈ members, IsMember member.1 member.2
  | _ => False

/-- Nothing, or an array whose items are as they have to be. -/
def IsList (IsItem : Json → Prop) : Json → Prop
  | .null => True
  | .array items => ∀ item ∈ items, IsItem item
  | _ => False

end Json

namespace Server

variable {α β γ : Type} {name : String} {value : Json} {members fields : List (Text × Json)}

/-- An object has a member with a name, and no other one whose name is read as that one. -/
def Has (members : List (Text × Json)) (name : String) (value : Json) : Prop :=
  ∃ before after, members = before ++ (text name, value) :: after ∧
    ∀ member ∈ before ++ after, ¬isNamed name member.1

/-- An object has a member with a name, which is a text. -/
def HasText (members : List (Text × Json)) (name : String) (content : Text) : Prop :=
  ∃ spelling, Has members name (.string spelling) ∧ Json.unescape spelling = content

theorem Has.hasText {content : Text} (has : Has members name (.ofText content)) :
    HasText members name content.repaired :=
  ⟨_, has, Json.unescape_flatMap_escapedGlyph content⟩

/-- The members of an object as they are spelled. -/
def spelled (members : List (String × Json)) : List (Text × Json) :=
  members.map fun (name, value) => (text name, value)

theorem has_spelled (before : List (String × Json)) {after : List (String × Json)}
    (only : ∀ member ∈ before ++ after, ¬isNamed name (text member.1)) :
    Has (spelled (before ++ (name, value) :: after)) name value := by
  refine ⟨spelled before, spelled after, List.map_append, ?_⟩
  intro member inside
  rw [spelled, spelled, ← List.map_append, List.mem_map] at inside
  rcases inside with ⟨⟨name, value⟩, inside, rfl⟩
  exact only (name, value) inside

theorem hasText_spelled {content : String} (before : List (String × Json))
    {after : List (String × Json)}
    (only : ∀ member ∈ before ++ after, ¬isNamed name (text member.1)) :
    HasText (spelled (before ++ (name, .ofText (text content)) :: after)) name (text content) := by
  have has : Has (spelled (before ++ (name, .ofText (text content)) :: after)) name
      (.ofText (text content)) := has_spelled before only
  have hasText := has.hasText
  rwa [Text.repaired_text] at hasText

/-- Reads the members with a name, and nothing else, over an older record. -/
def takeNamed (name : String) (take : α → Json → Option α) (record : α) (spelling : Text)
    (value : Json) : Option α :=
  if isNamed name spelling then take record value else some record

theorem takeObject_cons (step : α → Text → Json → Option α) (old : α) (member : Text × Json)
    (rest : List (Text × Json)) :
    takeObject step old (.object (member :: rest)) =
      (step old member.1 member.2).bind fun next => takeObject step next (.object rest) :=
  rfl

theorem uriMember_eq : uriMember = takeNamed "uri" takeText :=
  rfl

theorem opened?_eq :
    opened? = takeObject (takeNamed "textDocument" (takeObject Document.member)) {} :=
  rfl

theorem closed?_eq : closed? = takeObject (takeNamed "textDocument" (takeObject uriMember)) [] :=
  rfl

theorem not_isNamed_of_isNamed {first : String} (second : String) {spelling : Text}
    (differ : foldedName (text first) ≠ foldedName (text second)) (named : isNamed first spelling) :
    ¬isNamed second spelling := by
  simp only [isNamed, decide_eq_true_eq] at named ⊢
  rwa [named]

theorem foldlM_of_inert {step : β → α → Option β} {items : List α}
    (inert : ∀ item ∈ items, ∀ record, step record item = some record) (record : β) :
    items.foldlM step record = some record := by
  induction items with
  | nil => rfl
  | cons item rest ih =>
      rw [List.forall_mem_cons] at inert
      rw [List.foldlM_cons, inert.1]
      exact ih inert.2

/-- The one member with a name decides what is read from an object. -/
theorem Has.takeObject_eq (has : Has members name value) (known : isNamed name (text name))
    (take : α → Json → Option α) (old : α) :
    takeObject (takeNamed name take) old (.object members) = take old value := by
  rcases has with ⟨before, after, rfl, others⟩
  have inert : ∀ member ∈ before ++ after, ∀ record : α,
      takeNamed name take record member.1 member.2 = some record := by
    intro member inside record
    rw [takeNamed, if_neg (others member inside)]
  rw [takeObject, List.foldlM_append,
    foldlM_of_inert fun member inside => inert member (List.mem_append_left _ inside),
    Option.bind_eq_bind, Option.bind_some, List.foldlM_cons]
  change (takeNamed name take old (text name) value).bind _ = _
  rw [takeNamed, if_pos known]
  cases take old value with
  | none => rfl
  | some taken =>
      exact foldlM_of_inert (fun member inside => inert member (List.mem_append_right _ inside)) _

theorem HasText.takeObject_eq {content : Text} (has : HasText members name content)
    (known : isNamed name (text name)) (old : Text) :
    takeObject (takeNamed name takeText) old (.object members) = some content := by
  rcases has with ⟨spelling, has, rfl⟩
  exact has.takeObject_eq known takeText old

/-- A record of two parts, each of which has a name, is read part by part. -/
theorem takeObject_eq_of_parts (mk : β → γ → α) {step : α → Text → Json → Option α}
    {first second : String} (differ : foldedName (text first) ≠ foldedName (text second))
    {takeLeft : β → Json → Option β} {takeRight : γ → Json → Option γ}
    (isStep : ∀ left right spelling value, step (mk left right) spelling value =
      if isNamed first spelling then (takeLeft left value).map (mk · right)
      else if isNamed second spelling then (takeRight right value).map (mk left ·)
      else some (mk left right))
    {left leftLast : β} {right rightLast : γ}
    (takesLeft : takeObject (takeNamed first takeLeft) left (.object members) = some leftLast)
    (takesRight : takeObject (takeNamed second takeRight) right (.object members) =
      some rightLast) :
    takeObject step (mk left right) (.object members) = some (mk leftLast rightLast) := by
  induction members generalizing left right with
  | nil =>
      cases takesLeft
      cases takesRight
      rfl
  | cons member rest ih =>
      rw [takeObject_cons, Option.bind_eq_some_iff] at takesLeft takesRight
      rcases takesLeft with ⟨leftNext, leftTaken, takesLeft⟩
      rcases takesRight with ⟨rightNext, rightTaken, takesRight⟩
      have taken : step (mk left right) member.1 member.2 = some (mk leftNext rightNext) := by
        unfold takeNamed at leftTaken rightTaken
        rw [isStep]
        by_cases named : isNamed first member.1
        · rw [if_neg (not_isNamed_of_isNamed second differ named), Option.some.injEq] at rightTaken
          rw [if_pos named] at leftTaken ⊢
          rw [leftTaken, rightTaken, Option.map_some]
        · rw [if_neg named, Option.some.injEq] at leftTaken
          rw [if_neg named, leftTaken]
          split at rightTaken
          · rename_i namedSecond
            rw [if_pos namedSecond, rightTaken, Option.map_some]
          · rename_i other
            rw [Option.some.injEq] at rightTaken
            rw [if_neg other, rightTaken]
      rw [takeObject_cons, taken, Option.bind_some]
      exact ih takesLeft takesRight

theorem Document.member_mk (uri content spelling : Text) (value : Json) :
    (mk uri content).member spelling value =
      if isNamed "uri" spelling then (takeText uri value).map (mk · content)
      else if isNamed "text" spelling then (takeText content value).map (mk uri ·)
      else some (mk uri content) :=
  rfl

/-- An opened document is read from its name and its text, in whatever order they come. -/
theorem opened?_of_has {uri content : Text} (has : Has members "textDocument" (.object fields))
    (named : HasText fields "uri" uri) (filled : HasText fields "text" content) :
    opened? (.object members) = some ⟨uri, content⟩ := by
  have takesDocument := has.takeObject_eq (by decide) (takeObject Document.member) {}
  have takesUri := named.takeObject_eq (by decide) []
  have takesContent := filled.takeObject_eq (by decide) []
  have differ : foldedName (text "uri") ≠ foldedName (text "text") := by decide
  rw [opened?_eq, takesDocument]
  exact takeObject_eq_of_parts Document.mk differ Document.member_mk takesUri takesContent

theorem closed?_of_has {uri : Text} (has : Has members "textDocument" (.object fields))
    (named : HasText fields "uri" uri) : closed? (.object members) = some uri := by
  rw [closed?_eq, has.takeObject_eq (by decide)]
  exact named.takeObject_eq (by decide) []

theorem takeContents_cons (old : List Text) (item : Json) (rest : List Json) :
    takeContents old (item :: rest) =
      (takeObject (takeNamed "text" takeText) (old.headD []) item).bind fun content =>
        (takeContents old.tail rest).map (content :: ·) := by
  simp only [Option.map_eq_bind]
  rfl

theorem takeListing_cons (old : Listing) (item : Json) (rest : List Json) :
    takeListing old (.array (item :: rest)) =
      (takeContents old.places (item :: rest)).map fun contents =>
        ⟨contents ++ old.places.drop (rest.length + 1), rest.length + 1⟩ :=
  rfl

/-- Items of an array that are objects with the given texts. -/
def HaveTexts (items : List Json) (contents : List Text) : Prop :=
  List.Forall₂ (fun item content => ∃ members, item = .object members ∧
    HasText members "text" content) items contents

theorem HaveTexts.takeContents_eq {items : List Json} {contents : List Text}
    (filled : HaveTexts items contents) (old : List Text) :
    takeContents old items = some contents := by
  induction filled generalizing old with
  | nil => rfl
  | cons first rest ih =>
      rcases first with ⟨members, rfl, hasText⟩
      rw [takeContents_cons, hasText.takeObject_eq (by decide), Option.bind_some, ih,
        Option.map_some]

/-- A list of texts is read as it stands, whatever was listed before. -/
theorem HaveTexts.takeListing_eq {items : List Json} {contents : List Text}
    (filled : HaveTexts items contents) (old : Listing) :
    ∃ listing, takeListing old (.array items) = some listing ∧ listing.contents = contents := by
  cases items with
  | nil =>
      cases filled
      exact ⟨{}, rfl, rfl⟩
  | cons first rest =>
      rw [takeListing_cons, filled.takeContents_eq, Option.map_some]
      refine ⟨_, rfl, ?_⟩
      rw [Listing.contents, ← List.length_cons, filled.length_eq, List.take_left]

theorem Change.member_mk (uri : Text) (listing : Listing) (spelling : Text) (value : Json) :
    (mk uri listing).member spelling value =
      if isNamed "textDocument" spelling then
        (takeObject uriMember uri value).map (mk · listing)
      else if isNamed "contentChanges" spelling then
        (takeListing listing value).map (mk uri ·)
      else some (mk uri listing) :=
  rfl

/-- A change is read from the name of its document and its list of texts, in whatever order they
come. -/
theorem changed?_of_has {uri : Text} {items : List Json} {contents : List Text}
    (has : Has members "textDocument" (.object fields)) (named : HasText fields "uri" uri)
    (lists : Has members "contentChanges" (.array items)) (filled : HaveTexts items contents) :
    ∃ change, changed? (.object members) = some change ∧ change.uri = uri ∧
      change.contents = contents := by
  rcases filled.takeListing_eq {} with ⟨listing, listed, isContents⟩
  have takesUri := has.takeObject_eq (by decide) (takeObject uriMember) []
  have takesListing := lists.takeObject_eq (by decide) takeListing {}
  have differ : foldedName (text "textDocument") ≠ foldedName (text "contentChanges") := by
    decide
  rw [uriMember_eq, named.takeObject_eq (by decide), ← uriMember_eq] at takesUri
  rw [listed] at takesListing
  refine ⟨⟨uri, listing⟩, ?_, rfl, isContents⟩
  exact takeObject_eq_of_parts Change.mk differ Change.member_mk takesUri takesListing

/-- What is read into a part of a record is read from the same object. -/
theorem takeObject_of_part (part : α → β) {step : α → Text → Json → Option α}
    {partStep : β → Text → Json → Option β}
    (isPart : ∀ {record next spelling value}, step record spelling value = some next →
      partStep (part record) spelling value = some (part next))
    {record last : α} (taken : takeObject step record (.object members) = some last) :
    takeObject partStep (part record) (.object members) = some (part last) := by
  induction members generalizing record with
  | nil =>
      cases taken
      rfl
  | cons member rest ih =>
      rw [takeObject_cons, Option.bind_eq_some_iff] at taken
      rcases taken with ⟨next, first, taken⟩
      rw [takeObject_cons, isPart first, Option.bind_some]
      exact ih taken

theorem takeObject_keeps (Kept : α → Prop) {step : α → Text → Json → Option α}
    (keeps : ∀ {record next spelling value}, Kept record →
      step record spelling value = some next → Kept next)
    {record last : α} (start : Kept record) (taken : takeObject step record value = some last) :
    Kept last := by
  cases value with
  | null =>
      cases taken
      exact start
  | object members =>
      induction members generalizing record with
      | nil =>
          cases taken
          exact start
      | cons member rest ih =>
          rw [takeObject_cons, Option.bind_eq_some_iff] at taken
          rcases taken with ⟨next, first, taken⟩
          exact ih (keeps start first) taken
  | _ => cases taken

theorem Position.uri_of_place {position next : Position} {spelling : Text}
    (placed : position.place spelling value = some next) : next.uri = position.uri := by
  unfold place at placed
  split at placed
  · rcases Option.map_eq_some_iff.mp placed with ⟨line, -, rfl⟩
    rfl
  · split at placed
    · rcases Option.map_eq_some_iff.mp placed with ⟨character, -, rfl⟩
      rfl
    · rw [Option.some.inj placed]

theorem Position.takeNamed_uri_of_member {position next : Position} {spelling : Text}
    {value : Json} (taken : position.member spelling value = some next) :
    takeNamed "textDocument" (takeObject uriMember) position.uri spelling value =
      some next.uri := by
  unfold member at taken
  unfold takeNamed
  split at taken
  · rename_i named
    rcases Option.map_eq_some_iff.mp taken with ⟨uri, takesUri, rfl⟩
    rw [if_pos named, takesUri]
  · rename_i other
    rw [if_neg other]
    split at taken
    · have kept := takeObject_keeps (fun placed => placed.uri = position.uri)
        (fun same placed => (uri_of_place placed).trans same) rfl taken
      rw [kept]
    · rw [Option.some.inj taken]

/-- A place lies in the document that is named. -/
theorem uri_of_position? {uri : Text} {position : Position}
    (has : Has members "textDocument" (.object fields)) (named : HasText fields "uri" uri)
    (isRead : position? (.object members) = some position) : position.uri = uri := by
  have takesUri := has.takeObject_eq (by decide) (takeObject uriMember) []
  have kept := takeObject_of_part Position.uri Position.takeNamed_uri_of_member isRead
  rw [takesUri.trans (named.takeObject_eq (by decide) [])] at kept
  exact (Option.some.inj kept).symm

/-- A value that may name a document. -/
def IsNaming (value : Json) : Prop :=
  value.IsRecord fun name value => isNamed "uri" name → value.IsText

/-- Parameters that may open a document: its name and its text are texts, if they are there. -/
def IsOpening (params : Json) : Prop :=
  params.IsRecord fun name value => isNamed "textDocument" name →
    value.IsRecord fun name value =>
      (isNamed "uri" name → value.IsText) ∧ (isNamed "text" name → value.IsText)

/-- Parameters that may close a document. -/
def IsClosing (params : Json) : Prop :=
  params.IsRecord fun name value => isNamed "textDocument" name → IsNaming value

/-- An item that may hold a text of a list. -/
def IsEntry (item : Json) : Prop :=
  item.IsRecord fun name value => isNamed "text" name → value.IsText

/-- Parameters that may change a document: what they list are objects whose texts are texts. -/
def IsChanging (params : Json) : Prop :=
  params.IsRecord fun name value =>
    (isNamed "textDocument" name → IsNaming value) ∧
      (isNamed "contentChanges" name → value.IsList IsEntry)

theorem takeText_isSome_iff {old : Text} : (takeText old value).isSome ↔ value.IsText := by
  cases value <;> simp [takeText, Json.IsText]

theorem takeObject_isSome_iff {step : α → Text → Json → Option α} {IsMember : Text → Json → Prop}
    (accepts : ∀ record spelling value,
      (step record spelling value).isSome ↔ IsMember spelling value) {old : α} :
    (takeObject step old value).isSome ↔ value.IsRecord IsMember := by
  cases value with
  | object members =>
      change _ ↔ ∀ member ∈ members, IsMember member.1 member.2
      induction members generalizing old with
      | nil => simp [takeObject]
      | cons member rest ih =>
          rw [takeObject_cons, List.forall_mem_cons, ← accepts old]
          cases step old member.1 member.2 with
          | none => simp
          | some next => simp [ih]
  | _ => simp [takeObject, Json.IsRecord]

/-- An object of which one member is looked at is accepted if that member is. -/
theorem takeNamed_isSome_iff {take : α → Json → Option α} {IsValue : Json → Prop}
    (accepts : ∀ old value, (take old value).isSome ↔ IsValue value) {old : α} :
    (takeObject (takeNamed name take) old value).isSome ↔
      value.IsRecord fun spelling value => isNamed name spelling → IsValue value := by
  apply takeObject_isSome_iff
  intro old spelling value
  unfold takeNamed
  split
  · rename_i named
    simp [named, accepts]
  · rename_i other
    simp [other]

/-- One of two members that differ in name is accepted if the part that it goes into accepts it. -/
theorem isSome_parts_iff {first second : String}
    (differ : foldedName (text first) ≠ foldedName (text second)) {left : Option β}
    {right : Option γ} {putLeft : β → α} {putRight : γ → α} {kept : α} {spelling : Text} :
    (if isNamed first spelling then left.map putLeft
      else if isNamed second spelling then right.map putRight else some kept).isSome ↔
      (isNamed first spelling → left.isSome) ∧ (isNamed second spelling → right.isSome) := by
  split
  · rename_i named
    simp [named, not_isNamed_of_isNamed second differ named]
  · rename_i other
    split
    · rename_i named
      simp [named, other]
    · rename_i neither
      simp [other, neither]

theorem opened?_isSome_iff {params : Json} : (opened? params).isSome ↔ IsOpening params := by
  rw [opened?_eq, IsOpening]
  apply takeNamed_isSome_iff
  intro document value
  apply takeObject_isSome_iff
  intro document spelling value
  rw [Document.member, isSome_parts_iff (by decide), takeText_isSome_iff,
    takeText_isSome_iff]

theorem naming_isSome_iff {old : Text} :
    (takeObject uriMember old value).isSome ↔ IsNaming value := by
  rw [uriMember_eq, IsNaming]
  apply takeNamed_isSome_iff
  intro uri value
  exact takeText_isSome_iff

theorem closed?_isSome_iff {params : Json} : (closed? params).isSome ↔ IsClosing params := by
  rw [closed?_eq, IsClosing]
  apply takeNamed_isSome_iff
  intro uri value
  exact naming_isSome_iff

theorem takeContents_isSome_iff {old : List Text} {items : List Json} :
    (takeContents old items).isSome ↔ ∀ item ∈ items, IsEntry item := by
  induction items generalizing old with
  | nil => simp [takeContents]
  | cons item rest ih =>
      have accepts : (takeObject (takeNamed "text" takeText) (old.headD []) item).isSome ↔
          IsEntry item := by
        apply takeNamed_isSome_iff
        intro content value
        exact takeText_isSome_iff
      rw [takeContents_cons, List.forall_mem_cons, ← accepts]
      cases takeObject (takeNamed "text" takeText) (old.headD []) item with
      | none => simp
      | some content =>
          rw [← ih]
          cases takeContents old.tail rest <;> simp

theorem takeListing_isSome_iff {old : Listing} :
    (takeListing old value).isSome ↔ value.IsList IsEntry := by
  cases value with
  | array items =>
      change _ ↔ ∀ item ∈ items, IsEntry item
      cases items with
      | nil => simp [takeListing]
      | cons item rest => rw [takeListing_cons, Option.isSome_map, takeContents_isSome_iff]
  | _ => simp [takeListing, Json.IsList]

theorem changed?_isSome_iff {params : Json} : (changed? params).isSome ↔ IsChanging params := by
  rw [changed?, IsChanging]
  apply takeObject_isSome_iff
  intro change spelling value
  rw [Change.member, isSome_parts_iff (by decide), naming_isSome_iff,
    takeListing_isSome_iff]

end Server

end Scriptlet
