import TypeCatalog.Proofs.Json.Length
import TypeCatalog.Proofs.Paging.PageSize
import TypeCatalog.Proofs.Session.KeptAnswers
import TypeCatalog.Proofs.Session.ListingPage
import TypeCatalog.Proofs.Session.SizeRefusal

namespace TypeCatalog

/-!
# How long an answer with a page is

An answer with a page is as long as it would be without items and as the characters that the page
counts.  A page that counts no more than its target leaves room for the rest of the answer, so no
number of rows makes an answer too large.
-/

namespace Envelope

/-- The items in an answer. -/
def items : Envelope → List Value
  | .success _ data =>
    match data.field? "items" with
    | some (.list items) => items
    | _ => []
  | .failure _ => []

/-- An answer with its items taken out. -/
def withoutItems : Envelope → Envelope
  | .success kind (.map entries) =>
    .success kind
      (.map (entries.map fun entry =>
        if entry.1 = .text "items" then (entry.1, .list []) else entry))
  | answer => answer

/-- The number of characters that an answer shows for its page. -/
def usedChars? : Envelope → Option Nat
  | .success _ data =>
    match (data.field? "pagination").bind fun advice => advice.field? "current_page_chars" with
    | some (.int (.ofNat used)) => some used
    | _ => none
  | .failure _ => none

/-- An answer as it is handed out: read back from its text. -/
def readBack : Envelope → Envelope
  | .success kind data => .success kind (Json.settled data)
  | .failure error => .failure error

/-- Whether the items of an answer, one by one, and the answer without them keep to the target of a
page. -/
structure HasSmallParts (answer : Envelope) : Prop where
  items_le : ∀ item ∈ answer.items, Json.measure item ≤ Limits.pageTarget
  rest_le : answer.withoutItems.size ≤ Limits.pageTarget

theorem withoutItems_record
    {before after : List (String × Value)}
    (notBefore : "items" ∉ before.map Prod.fst)
    (notAfter : "items" ∉ after.map Prod.fst)
    (kind : String)
    (items : List Value) :
    (success kind (.record (before ++ ("items", .list items) :: after))).withoutItems =
      success kind (.record (before ++ ("items", .list []) :: after)) := by
  have unchanged
      {fields : List (String × Value)}
      (notThere : "items" ∉ fields.map Prod.fst) :
      (Value.entriesOf fields).map
          (fun entry => if entry.1 = .text "items" then (entry.1, Value.list []) else entry) =
        Value.entriesOf fields := by
    refine (List.map_congr_left ?_).trans (List.map_id _)
    intro entry member
    obtain ⟨field, inFields, rfl⟩ := List.mem_map.mp member
    apply if_neg
    intro isItems
    exact notThere (Key.text.inj isItems ▸ List.mem_map_of_mem inFields)
  have beforeSame := unchanged notBefore
  have afterSame := unchanged notAfter
  simp only [Value.entriesOf] at beforeSame afterSame
  simp only [withoutItems, Value.record, List.map_append, List.map_cons, beforeSame, afterSame,
    if_true]

/-- The answer without its items is shorter by just these items. -/
theorem size_record_without_items
    (kind : String)
    (before after : List (String × Value))
    (items : List Value) :
    (success kind (.record (before ++ ("items", .list items) :: after))).size =
      (success kind (.record (before ++ ("items", .list []) :: after))).size +
        Json.itemsLength items := by
  have dataReplaced :=
    Json.measure_record_replace
      [("kind", .text kind), ("version", .text Limits.contractVersion)] [] "data"
      (.record (before ++ ("items", .list items) :: after))
      (.record (before ++ ("items", .list []) :: after))
  have itemsTaken := Json.measure_record_without_items before after "items" items
  change Json.measure (toValue (success kind _)) + _ = Json.measure (toValue (success kind _)) + _
    at dataReplaced
  simp only [size]
  omega

end Envelope

/-! ## The answer with a page -/

namespace Page

private theorem toFields_eq_around_items (page : Page) :
    page.toFields =
      [("total", .ofNat page.total), ("count", .ofNat page.count), ("offset", .int page.offset),
          ("next_token", .ofText? (page.nextToken?.map ContinuationToken.text)),
          ("reduced", .bool page.reduced)] ++
        ("items", .list page.items) :: [("pagination", page.advice.toValue)] :=
  rfl

/-- A page with its items read back. -/
def readBack (page : Page) : Page :=
  { page with items := page.items.map Json.settled }

end Page

namespace ListingSubject.HeadsPage

variable {head : List (String × Value)}

theorem items_eq
    (heads : HeadsPage head)
    (page : Page)
    (kind : String) :
    (Envelope.success kind (.record (head ++ page.toFields))).items = page.items := by
  have found : (head ++ page.toFields).lookup "items" = some (.list page.items) :=
    (Value.lookup_append_of_nodup (heads.distinct page) (by simp [Page.toFields])).trans rfl
  simp only [Envelope.items, Value.field?_record, found]

theorem usedChars?_eq
    (heads : HeadsPage head)
    (page : Page)
    (kind : String) :
    (Envelope.success kind (.record (head ++ page.toFields))).usedChars? =
      some page.usedChars := by
  have found : (head ++ page.toFields).lookup "pagination" = some page.advice.toValue :=
    (Value.lookup_append_of_nodup (heads.distinct page) (by simp [Page.toFields])).trans rfl
  simp only [Envelope.usedChars?, Value.field?_record, found]
  rfl

/-- An answer with a page is as long as the answer without items and the items of the page. -/
theorem size_eq
    (heads : HeadsPage head)
    (page : Page)
    (kind : String) :
    let answer := Envelope.success kind (.record (head ++ page.toFields))
    answer.size = answer.withoutItems.size + Json.itemsLength page.items := by
  intro answer
  have distinct := heads.distinct page
  simp only [answer, page.toFields_eq_around_items, ← List.append_assoc] at distinct ⊢
  rw [List.map_append, List.map_cons, List.nodup_middle, List.nodup_cons, List.mem_append]
    at distinct
  obtain ⟨notBefore, notAfter⟩ := not_or.mp distinct.1
  rw [Envelope.withoutItems_record notBefore notAfter]
  exact Envelope.size_record_without_items kind _ _ page.items

/-- Read back, an answer with a page has the page with its items read back. -/
theorem settled_eq
    (heads : HeadsPage head)
    (page : Page) :
    Json.settled (.record (head ++ page.toFields)) =
      .record (head ++ page.readBack.toFields) := by
  rw [Json.settled_record (heads.distinct page), List.map_append]
  have headSame : (head.map fun field => (field.1, Json.settled field.2)) = head := by
    refine (List.map_congr_left ?_).trans (List.map_id _)
    intro field member
    exact Prod.ext rfl (heads.settled field member)
  have pageSame :
      (page.toFields.map fun field => (field.1, Json.settled field.2)) =
        page.readBack.toFields := by
    have tokenSame (content? : Option String) :
        Json.settled (.ofText? content?) = .ofText? content? := by
      cases content? <;> rfl
    have itemsSame :
        Json.settled (.list page.items) = .list (page.items.map Json.settled) :=
      congrArg Value.list (Json.settledItems_eq_map page.items)
    have countSame : page.readBack.count = page.count :=
      List.length_map _
    simp only [Page.toFields, Page.advice, List.map_cons, List.map_nil, tokenSame, itemsSame,
      countSame]
    rfl
  rw [headSame, pageSame]

end ListingSubject.HeadsPage

namespace ListingSubject

/-- What is written for the page of a listing at an offset of an open module. -/
def Writes
    (listing : ListingSubject)
    (offset : Nat)
    (opened : OpenModule)
    (written : Envelope) : Prop :=
  ∃ data,
    listing.answer offset opened = .ok data ∧
      written = .success listing.scope.kind.word data

variable {listing : ListingSubject} {offset : Nat} {opened : OpenModule} {written : Envelope}

/-- What is written for a page of which all parts are small is within the ceiling. -/
theorem Writes.size_le
    (writes : listing.Writes offset opened written)
    (small : written.HasSmallParts) :
    written.size ≤ Limits.maximumResponse := by
  obtain ⟨data, computed, rfl⟩ := writes
  obtain ⟨rows, head, _, heads, rfl⟩ := exists_rows_of_answer computed
  have itemsSmall := small.items_le
  rw [heads.items_eq] at itemsSmall
  have usedSmall : (listing.pageOf rows offset).usedChars ≤ Limits.pageTarget :=
    Page.usedChars_build_le itemsSmall
  rw [pageOf, Page.usedChars_build] at usedSmall
  rw [heads.size_eq]
  calc
    _ ≤ Limits.pageTarget + Limits.pageTarget := Nat.add_le_add small.rest_le usedSmall
    _ = Limits.maximumResponse := rfl

/-- An answer shows how many characters its items have as they are written. -/
theorem Writes.exists_usedChars
    (writes : listing.Writes offset opened written) :
    ∃ used,
      written.readBack.usedChars? = some used ∧
        written.size = written.withoutItems.size + used ∧
          ((∀ item ∈ written.items, Json.measure (Json.settled item) = Json.measure item) →
            written.readBack.size = written.readBack.withoutItems.size + used) := by
  obtain ⟨data, computed, rfl⟩ := writes
  obtain ⟨rows, head, _, heads, rfl⟩ := exists_rows_of_answer computed
  let page := listing.pageOf rows offset
  have usedIs : page.usedChars = Json.itemsLength page.items :=
    Page.usedChars_build _
  refine ⟨page.usedChars, ?_, ?_, ?_⟩
  · rw [Envelope.readBack, heads.settled_eq]
    exact heads.usedChars?_eq page.readBack _
  · rw [usedIs]
    exact heads.size_eq page _
  · -- Reading back may drop entries under equal names from an item, unless it stays as long.
    intro asLong
    rw [heads.items_eq] at asLong
    have lengthSame : Json.itemsLength page.readBack.items = Json.itemsLength page.items := by
      simp only [Json.itemsLength, Page.readBack, List.map_map, List.length_map]
      congr 2
      exact List.map_congr_left asLong
    rw [usedIs, Envelope.readBack, heads.settled_eq, ← lengthSame]
    exact heads.size_eq page.readBack _

end ListingSubject

/-! ## Answering a query for a page -/

namespace Session

variable {session : Session} {modulePath given : Value} {form : ListingForm}
  {options : FilterOptions}

private theorem exists_form_of_kind_eq
    {query : Query}
    (sameKind : query.kind = (form.query given).kind) :
    ∃ otherForm otherGiven, query = ListingForm.query otherGiven otherForm := by
  cases query with
  | types otherGiven =>
      exact ⟨.types, otherGiven, rfl⟩
  | members selection typeName otherGiven =>
      exact ⟨.members selection typeName, otherGiven, rfl⟩
  | type | named =>
      cases form <;> cases sameKind

/-- What a session makes anew for a query for a page is written for a page of the listing that the
query means, and read back. -/
theorem exists_written_of_produce
    {query : Query}
    {plan : Plan}
    {answer : Envelope}
    (sameKind : query.kind = (form.query given).kind)
    (planned : session.plan modulePath query = .ok plan)
    (produced : (session.produce plan).1 = .ok answer) :
    ∃ (otherForm : ListingForm) (otherGiven : Value) (options : FilterOptions)
      (listing : ListingSubject) (offset : Nat) (opened : OpenModule) (written : Envelope),
      FilterOptions.checkOptional otherGiven = .ok options ∧
        session.listing modulePath otherForm options = .ok listing ∧
          listing.Writes offset opened written ∧ answer = written.readBack := by
  obtain ⟨otherForm, otherGiven, rfl⟩ := exists_form_of_kind_eq sameKind
  obtain ⟨subject, found, rfl⟩ :=
    exists_subject_of_plan (wellTyped_listing otherForm otherGiven) planned
  rw [subject_query] at found
  obtain ⟨options, listing, offset, checked, meant, _, rfl⟩ := exists_listing_of_pageSubject found
  obtain ⟨opened, data, computed, rfl⟩ := exists_data_of_produce produced
  exact
    ⟨otherForm, otherGiven, options, listing, offset, opened, _,
      Schema.Checked.eq_ok_of_toExcept checked, meant, ⟨data, computed, rfl⟩, rfl⟩

/-- What was made for a listing was written for a page of it and read back. -/
theorem MadeFor.exists_written
    {answer : Envelope}
    (made : MadeFor (form.query given).kind answer) :
    ∃ (listing : ListingSubject) (offset : Nat) (opened : OpenModule) (written : Envelope),
      listing.Writes offset opened written ∧ answer = written.readBack := by
  obtain ⟨earlier, path, query, plan, planned, sameKind, produced⟩ := made
  obtain ⟨_, _, _, listing, offset, opened, written, _, _, writes, answerIs⟩ :=
    exists_written_of_produce sameKind planned produced
  exact ⟨listing, offset, opened, written, writes, answerIs⟩

/-- In a session that can be reached, no query for a page is refused for its size if the parts of
the page that it asks for are small, and every answer with a page is written with as many characters
as it has without its items and as it shows for the page. -/
theorem page_fits_and_counts_exactly
    (reachable : session.Reachable)
    (checked : FilterOptions.checkOptional given = .ok options)
    (requestId : String)
    (noCache : Bool) :
    let answered :=
      (session.answerQuery requestId ⟨modulePath, form.query given, noCache⟩).1
    ((∀ listing offset opened written,
        session.AsksFor modulePath form options listing offset opened →
          listing.Writes offset opened written → written.HasSmallParts) →
      ∀ error, answered = .failure error → error.code ≠ .responseTooLarge) ∧
    (answered.isError = false →
      ∃ (listing : ListingSubject) (offset : Nat) (opened : OpenModule) (written : Envelope)
        (used : Nat),
        listing.Writes offset opened written ∧
          answered = written.readBack ∧
            answered.usedChars? = some used ∧
              written.render.length = written.withoutItems.render.length + used ∧
                ((∀ item ∈ written.items,
                    Json.measure (Json.settled item) = Json.measure item) →
                  answered.render.length = answered.withoutItems.render.length + used)) := by
  intro answered
  constructor
  · intro small error failed isSize
    obtain ⟨listing, offset, opened, data, asks, computed, large⟩ :=
      reachable.exists_large_data checked failed isSize
    have writes : listing.Writes offset opened (.success listing.scope.kind.word data) :=
      ⟨data, computed, rfl⟩
    exact absurd (writes.size_le (small _ _ _ _ asks writes)) (Nat.not_le_of_lt large)
  · intro noError
    have made := reachable.keepsMade.madeFor_answerQuery noError
    obtain ⟨listing, offset, opened, written, writes, answeredIs⟩ := made.exists_written
    change answered = written.readBack at answeredIs
    obtain ⟨used, shown, writtenSize, handedSize⟩ := writes.exists_usedChars
    refine ⟨listing, offset, opened, written, used, writes, answeredIs, ?_, ?_, ?_⟩
    · rw [answeredIs, shown]
    · rw [Envelope.length_render, Envelope.length_render, writtenSize]
    · intro asLong
      rw [answeredIs, Envelope.length_render, Envelope.length_render, handedSize asLong]

/-- The page of a module of one type is counted exactly. -/
theorem page_of_one_type_counts_exactly :
    let session := overModule "lib" ⟨"Lib", "", [.bare "A"]⟩
    let answered := (session.answerQuery "1" ⟨.text "lib", .types .null, false⟩).1
    ∃ (written : Envelope) (used : Nat),
      answered = written.readBack ∧
        answered.usedChars? = some used ∧
          written.render.length = written.withoutItems.render.length + used := by
  intro session answered
  have reachable : session.Reachable :=
    .start _ _ _ RuntimeOptions.oneSizeEach_standard
  have noError : answered.isError = false := by
    decide +kernel
  obtain ⟨_, counted⟩ :=
    @page_fits_and_counts_exactly session (.text "lib") .null .types .standard reachable rfl "1"
      false
  obtain ⟨_, _, _, written, used, _, answeredIs, shown, exactly, _⟩ := counted noError
  exact ⟨written, used, answeredIs, shown, exactly⟩

end Session

end TypeCatalog
