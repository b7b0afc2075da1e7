import TypeCatalog.Proofs.Json.Record
import TypeCatalog.Proofs.Paging.PageEdges
import TypeCatalog.Proofs.Session.CacheTransparency

namespace TypeCatalog

/-!
# Pages in answers

The answer to a query for a page shows a page of the rows of its listing: the descriptors of the
module that pass the filters, sorted and rendered.  Which rows there are does not depend on the
page that is asked for.
-/

/-- What an answer shows of a page. -/
structure PageView where
  total : Nat
  count : Nat
  offset : Nat
  nextToken? : Option String
  items : List Value
deriving Repr

/-- What an answer shows of a page, with its items as they are handed out. -/
def PageView.ofPage (page : Page) : PageView :=
  ⟨page.total, page.count, page.offset.toNat, page.nextToken?.map ContinuationToken.text,
    page.items.map Json.settled⟩

/-- The text that a value is. -/
def Value.text? : Value → Option String
  | .text content => some content
  | _ => none

/-- The page in an answer, if it has one. -/
def Envelope.page? : Envelope → Option PageView
  | .failure _ => none
  | .success _ data =>
    match data.field? "total", data.field? "count", data.field? "offset",
      data.field? "next_token", data.field? "items" with
    | some (.int (.ofNat total)), some (.int (.ofNat count)), some (.int (.ofNat offset)),
      some token, some (.list items) => some ⟨total, count, offset, token.text?, items⟩
    | _, _, _, _, _ => none

private def pageNames : List String :=
  ["total", "count", "offset", "next_token", "reduced", "items", "pagination"]

private theorem field?_settled
    {head : List (String × Value)}
    {page : Page}
    {name : String}
    (distinct : ((head ++ page.toFields).map Prod.fst).Nodup)
    (member : name ∈ pageNames) :
    (Json.settled (.record (head ++ page.toFields))).field? name =
      (page.toFields.map fun field => (field.1, Json.settled field.2)).lookup name := by
  have namesSame (fields : List (String × Value)) :
      (fields.map fun field => (field.1, Json.settled field.2)).map Prod.fst =
        fields.map Prod.fst := by
    rw [List.map_map]
    rfl
  rw [Json.settled_record distinct, Value.field?_record, List.map_append]
  apply Value.lookup_append_of_nodup
  · rwa [← List.map_append, namesSame]
  · rwa [namesSame]

private theorem text?_settled_ofText? (content? : Option String) :
    (Json.settled (.ofText? content?)).text? = content? := by
  cases content? <;> rfl

/-- A page is read back from settled data, whatever other fields stand before its own. -/
theorem Envelope.page?_settled
    {head : List (String × Value)}
    {page : Page}
    {start : Nat}
    (kind : String)
    (distinct : ((head ++ page.toFields).map Prod.fst).Nodup)
    (startIs : page.offset = start) :
    (Envelope.success kind (Json.settled (.record (head ++ page.toFields)))).page? =
      some (.ofPage page) := by
  let data := Json.settled (.record (head ++ page.toFields))
  have total : data.field? "total" = some (.int page.total) :=
    (field?_settled distinct (by decide)).trans rfl
  have count : data.field? "count" = some (.int page.count) :=
    (field?_settled distinct (by decide)).trans rfl
  have offset : data.field? "offset" = some (.int start) := by
    rw [← startIs]
    exact (field?_settled distinct (by decide)).trans rfl
  have token :
      data.field? "next_token" =
        some (Json.settled (.ofText? (page.nextToken?.map ContinuationToken.text))) :=
    (field?_settled distinct (by decide)).trans rfl
  have items : data.field? "items" = some (.list (page.items.map Json.settled)) := by
    rw [← Json.settledItems_eq_map]
    exact (field?_settled distinct (by decide)).trans rfl
  change (match data.field? "total", data.field? "count", data.field? "offset",
    data.field? "next_token", data.field? "items" with
    | some (.int (.ofNat total)), some (.int (.ofNat count)), some (.int (.ofNat offset)),
      some token, some (.list items) => some (PageView.mk total count offset token.text? items)
    | _, _, _, _, _ => none) = _
  rw [total, count, offset, token, items]
  simp only [text?_settled_ofText?, PageView.ofPage, startIs, Int.toNat_natCast]

namespace ListingSubject

/-- The rows of a listing: what passes its filters, sorted and rendered. -/
def rows
    (listing : ListingSubject)
    (opened : OpenModule) : Except Failure (List Value) :=
  match listing.scope with
  | .types =>
    (Answer.arrangedTypes opened listing.options.toFilter listing.options.visibility).map
      (List.map TypeDescriptor.toOwnValue)
  | .members selection typeName => do
    let type ← opened.type typeName listing.options.caseSensitive
    (Answer.arrangedMembers opened type selection listing.options.toFilter
      listing.options.visibility).map (List.map MemberDescriptor.toValue)

/-- The page of some rows that starts at an offset. -/
def pageOf
    (listing : ListingSubject)
    (rows : List Value)
    (offset : Nat) : Page :=
  Page.build id rows offset listing.options.take listing.salt Limits.pageTarget

theorem shows_pageOf
    (listing : ListingSubject)
    (rows : List Value)
    (offset : Nat) :
    (listing.pageOf rows offset).Shows rows offset listing.options.take listing.salt := by
  have shows :=
    Page.shows_build id rows offset listing.options.take listing.salt Limits.pageTarget
  rw [List.map_id] at shows
  exact shows

private theorem eq_pageOf
    {α : Type}
    {listing : ListingSubject}
    {offset : Nat}
    {render : α → Value}
    {items : List α}
    {page : Page}
    (paged : Answer.pageOf render items (listing.position offset) = .ok page) :
    page = listing.pageOf (items.map render) offset := by
  obtain ⟨_, _, rfl⟩ := Failure.exists_of_map_eq_ok paged
  exact Page.build_eq_build_id render items offset listing.options.take listing.salt
    Limits.pageTarget

/-- Fields that stand before those of a page: other names, and values that are read back as they
are. -/
structure HeadsPage (head : List (String × Value)) : Prop where
  distinct : ∀ page : Page, ((head ++ page.toFields).map Prod.fst).Nodup
  settled : ∀ field ∈ head, Json.settled field.2 = field.2

private theorem headsPage_types (name path : String) :
    HeadsPage [("module", .text name), ("module_path", .text path)] := by
  constructor
  · intro page
    exact (by decide : (["module", "module_path"] ++ pageNames).Nodup)
  · intro field member
    rcases List.mem_pair.mp member with rfl | rfl <;> rfl

private theorem settled_memberCounts (items : List MemberDescriptor) :
    Json.settled (Answer.memberCounts items) = Answer.memberCounts items := by
  rw [Answer.memberCounts, Json.settled_record]
  · rfl
  · exact (by decide : (MemberKind.all.map MemberKind.word).Nodup)

/-- The fields before a page of members are read back as they are. -/
theorem headsPage_members
    (name path typeName : String)
    (selection : MemberSelection)
    (items : List MemberDescriptor) :
    HeadsPage
      ([("module", .text name), ("module_path", .text path), ("type_name", .text typeName)] ++
        Answer.countFields selection items) := by
  cases selection with
  | ofKind kind =>
      constructor
      · intro page
        exact (by decide : (["module", "module_path", "type_name"] ++ pageNames).Nodup)
      · intro field member
        simp only [Answer.countFields, List.append_nil, List.mem_cons, List.not_mem_nil, or_false]
          at member
        rcases member with rfl | rfl | rfl <;> rfl
  | all =>
      constructor
      · intro page
        exact (by decide : (["module", "module_path", "type_name", "counts"] ++ pageNames).Nodup)
      · intro field member
        simp only [Answer.countFields, List.cons_append, List.nil_append, List.mem_cons,
          List.not_mem_nil, or_false] at member
        rcases member with rfl | rfl | rfl | rfl
        · rfl
        · rfl
        · rfl
        · exact settled_memberCounts items

/-- The data of a page are the page of the rows behind fields of their own. -/
theorem exists_rows_of_answer
    {listing : ListingSubject}
    {offset : Nat}
    {opened : OpenModule}
    {data : Value}
    (answered : listing.answer offset opened = .ok data) :
    ∃ (rows : List Value) (head : List (String × Value)),
      listing.rows opened = .ok rows ∧
      HeadsPage head ∧
      data = .record (head ++ (listing.pageOf rows offset).toFields) := by
  cases scopeIs : listing.scope with
  | types =>
      simp only [answer, scopeIs] at answered
      obtain ⟨items, arranged, answered⟩ := Failure.exists_of_bind_eq_ok answered
      obtain ⟨page, paged, answered⟩ := Failure.exists_of_bind_eq_ok answered
      cases answered
      refine
        ⟨items.map TypeDescriptor.toOwnValue, _, ?_,
          headsPage_types opened.name listing.stamp.path, ?_⟩
      · simp only [rows, scopeIs, arranged]
        rfl
      · rw [← eq_pageOf paged]
  | members selection typeName =>
      simp only [answer, scopeIs] at answered
      obtain ⟨type, found, answered⟩ := Failure.exists_of_bind_eq_ok answered
      obtain ⟨items, arranged, answered⟩ := Failure.exists_of_bind_eq_ok answered
      obtain ⟨page, paged, answered⟩ := Failure.exists_of_bind_eq_ok answered
      cases answered
      refine
        ⟨items.map MemberDescriptor.toValue, _, ?_,
          headsPage_members opened.name listing.stamp.path type.fullName selection items, ?_⟩
      · change opened.type typeName listing.options.caseSensitive = .ok type at found
        simp only [rows, scopeIs]
        rw [found]
        change Except.map _ (Answer.arrangedMembers _ _ _ _ _) = _
        rw [arranged]
        rfl
      · rw [← eq_pageOf paged]

/-- The data of a page show a page of the rows. -/
theorem exists_page_of_answer
    {listing : ListingSubject}
    {offset : Nat}
    {opened : OpenModule}
    {data : Value}
    (answered : listing.answer offset opened = .ok data) :
    ∃ (rows : List Value) (head : List (String × Value)) (page : Page),
      listing.rows opened = .ok rows ∧
      page.Shows rows offset listing.options.take listing.salt ∧
      data = .record (head ++ page.toFields) ∧
      ((head ++ page.toFields).map Prod.fst).Nodup := by
  obtain ⟨rows, head, rowsAre, heads, dataAre⟩ := exists_rows_of_answer answered
  exact ⟨rows, head, _, rowsAre, listing.shows_pageOf rows offset, dataAre, heads.distinct _⟩

end ListingSubject

/-- An envelope with data has data that can be written and are settled. -/
theorem Session.writable_of_envelopeOf
    {kind : String}
    {data : Value}
    {envelope : Envelope}
    (enveloped : Session.envelopeOf kind data = .ok envelope) :
    Json.unwritable? data = none ∧ envelope = .success kind (Json.settled data) := by
  unfold Session.envelopeOf at enveloped
  split at enveloped
  · cases enveloped
  · next writable =>
      split at enveloped
      · cases enveloped
      · cases enveloped
        exact ⟨writable, rfl⟩

private theorem lt_of_mem_writable
    {fields : List (String × Value)}
    {name : String}
    {number : Nat}
    (writable : Json.unwritable? (.record fields) = none)
    (member : (name, Value.int number) ∈ fields) :
    number < Text.leastTooLong := by
  have numberWritable := Json.unwritable?_of_mem_record writable member
  apply Text.lt_of_isTooLong_eq_false
  by_contra tooLong
  rw [Bool.not_eq_false] at tooLong
  simp [Json.unwritable?, tooLong] at numberWritable

/-- An answer to a query for a page shows a page of the rows of its listing. -/
theorem QuerySubject.exists_page_of_envelope
    {listing : ListingSubject}
    {offset : Nat}
    {definition : ModuleDefinition}
    {envelope : Envelope}
    (answered : (QuerySubject.page listing offset).envelope definition = .ok envelope) :
    ∃ (rows : List Value) (page : Page),
      listing.rows ⟨listing.stamp.path, definition, .ordinary⟩ = .ok rows ∧
      page.Shows rows offset listing.options.take listing.salt ∧
      envelope.page? = some (.ofPage page) ∧
      rows.length < Text.leastTooLong ∧
      offset < Text.leastTooLong := by
  obtain ⟨data, computed, enveloped⟩ := Failure.exists_of_bind_eq_ok answered
  obtain ⟨rows, head, page, rowsAre, shows, rfl, distinct⟩ :=
    ListingSubject.exists_page_of_answer computed
  obtain ⟨writable, rfl⟩ := Session.writable_of_envelopeOf enveloped
  refine ⟨rows, page, rowsAre, shows, ?_, ?_, ?_⟩
  · exact Envelope.page?_settled _ distinct shows.offset_eq
  · rw [← shows.total_eq]
    have member : ("total", Value.int page.total) ∈ head ++ page.toFields :=
      List.mem_append_right _ (by simp [Page.toFields, Value.ofNat])
    exact lt_of_mem_writable writable member
  · have member : ("offset", Value.int offset) ∈ head ++ page.toFields := by
      rw [← shows.offset_eq]
      exact List.mem_append_right _ (by simp [Page.toFields])
    exact lt_of_mem_writable writable member

end TypeCatalog
